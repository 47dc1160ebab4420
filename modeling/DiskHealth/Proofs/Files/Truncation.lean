import DiskHealth.Proofs.Json.Prefixes
import DiskHealth.Proofs.Rate.Lock

/-!
Files that were cut off. The text of a stored map is one object, and some first bytes of it are no
text, or a text that is no JSON (`ofBytes_of_cut`). So a file that holds them is refused, whatever
was stored; nothing but a missing file, or one that spells an empty object, is taken for an empty
state.
-/

namespace DiskHealth

open Files

namespace Files.Document

/-- The first bytes of a document, without the rest. -/
def CutOff {α : Type} [Json.Form α] (a : α) (bytes : List UInt8) : Prop :=
  bytes <+: toBytes a ∧ bytes ≠ toBytes a

/-- Why bytes that hold no document are refused: they are no text, or the text spells none. -/
def fault (path : String) (bytes : List UInt8) : StoreError :=
  match text bytes with
  | .error cause => .access path cause
  | .ok _ => .decode path

/-- Why a file of such bytes is refused, which may be that it must not be read at all. -/
def refusal (r : Refusals) (path : String) (bytes : List UInt8) : StoreError :=
  match r.reason? (.read path) with
  | some text => .access path (.other text)
  | none => fault path bytes

/-- The bytes spell an object without members. -/
def SpellsEmpty (bytes : List UInt8) : Prop :=
  ∃ s, Text.Utf8.toString? bytes = some s ∧ Json.read? s.toList = some (.object [])

variable {β : Type} [Json.Form β] {path : String}

theorem ofBytes_of_cut {m : SortedMap β} (hproper : (Json.encode m).Proper) {cut : List UInt8}
    (hcut : CutOff m cut) : ofBytes (SortedMap β) path cut = .error (fault path cut) := by
  unfold ofBytes fault text
  cases hs : Text.Utf8.toString? cut with
  | none => rfl
  | some part =>
    obtain ⟨hpart, hne⟩ := Text.Utf8.toString?_of_cut hcut.1 hcut.2 hs
    rw [Json.prettyText, Json.Value.pretty, String.toList_ofList] at hpart hne
    have hread : Json.read? part.toList = none :=
      Json.read?_of_cut Json.Style.pretty_blank hproper hpart hne
    simp [Json.parse?, hread]

theorem decode_eq_empty_iff {v : Json.Value} :
    (Json.decode v : Option (SortedMap β)) = some ∅ ↔ v = .object [] := by
  cases v with
  | object members =>
    simp only [Json.decode, Option.map_eq_some_iff, SortedMap.ofList_eq_empty_iff,
      exists_eq_right, Json.Value.object.injEq]
    cases members with
    | nil => simp
    | cons m members => simp [List.mapM_cons, Option.bind_eq_some_iff]
  | null | boolean | number | text | array => simp [Json.decode]

theorem ofBytes_eq_empty_iff {bytes : List UInt8} :
    ofBytes (SortedMap β) path bytes = .ok ∅ ↔ SpellsEmpty bytes := by
  unfold ofBytes text SpellsEmpty
  cases hs : Text.Utf8.toString? bytes with
  | none => simp
  | some s =>
    have hparse : (Json.parse? s : Option (SortedMap β)) = some ∅ ↔
        Json.read? s.toList = some (.object []) := by
      simp [Json.parse?, Option.bind_eq_some_iff, decode_eq_empty_iff]
    cases hm : (Json.parse? s : Option (SortedMap β)) with
    | none => simpa [hm] using hparse
    | some m => simpa [hm] using hparse

/-- A map that may be missing is loaded as an empty one exactly if it is missing or empty. -/
theorem ofRead_eq_empty_iff {outcome : Except FileError (List UInt8)} :
    (ofRead (SortedMap β) path outcome).map (·.getD ∅) = .ok ∅ ↔
      outcome = .error .notFound ∨ ∃ bytes, outcome = .ok bytes ∧ SpellsEmpty bytes := by
  match outcome with
  | .ok bytes =>
    have hbytes : ofBytes (SortedMap β) path bytes = .ok ∅ ↔ _ := ofBytes_eq_empty_iff
    cases hm : ofBytes (SortedMap β) path bytes with
    | error e => simpa [ofRead, hm, Except.map] using hbytes
    | ok m => simpa [ofRead, hm, Except.map] using hbytes
  | .error cause => cases cause <;> simp [ofRead, Except.map]

end Files.Document

/-- A file may be read, and it is missing or spells an empty object. -/
def Files.Tree.LooksEmpty (t : Tree) (r : Refusals) (path : String) : Prop :=
  r.reason? (.read path) = none ∧
    (t.read path = .error .notFound ∨ ∃ bytes, t.read path = .ok bytes ∧ Document.SpellsEmpty bytes)

namespace Files.Document

variable {β : Type} [Json.Form β] {t : Tree} {r : Refusals} {path : String}

theorem load_eq_empty_iff :
    (ofRead (SortedMap β) path (r.guard (.read path) (t.read path))).map (·.getD ∅) = .ok ∅ ↔
      t.LooksEmpty r path := by
  rw [ofRead_eq_empty_iff, Tree.LooksEmpty]
  cases hr : r.reason? (.read path) with
  | none => simp [Refusals.guard_of_allowed hr]
  | some text => simp [Refusals.guard_of_refused hr]

theorem load_of_cut {m : SortedMap β} (hproper : (Json.encode m).Proper) {cut : List UInt8}
    (hcut : CutOff m cut) (hread : t.read path = .ok cut) :
    (ofRead (SortedMap β) path (r.guard (.read path) (t.read path))).map (·.getD ∅) =
      .error (refusal r path cut) := by
  unfold refusal
  cases hr : r.reason? (.read path) with
  | none =>
    rw [Refusals.guard_of_allowed hr, hread, ofRead, ofBytes_of_cut hproper hcut]
    rfl
  | some text =>
    rw [Refusals.guard_of_refused hr]
    rfl

theorem read_of_save {a : SortedMap β} {u : Tree} (h : t.run r (save path a) = (.ok (), u)) :
    u.read path = .ok (toBytes a) :=
  Tree.read_replace (run_save_eq_ok_iff.1 h).2

end Files.Document

open Files.Document

section

variable {t : Tree} {r : Refusals} {path : String} {cut : List UInt8}

theorem RateState.load_of_cut {s : RateState} (h : CutOff s cut) (hread : t.read path = .ok cut) :
    t.run r (load path) = (.error (refusal r path cut), t) := by
  have hproper : (Json.encode s).Proper := Json.proper_map fun e _ => Json.proper_counter e.2
  exact Prod.ext (Document.load_of_cut hproper h hread) rfl

theorem BaselineStore.load_of_cut {s : BaselineStore} (h : CutOff s cut)
    (hread : t.read path = .ok cut) : t.run r (load path) = (.error (refusal r path cut), t) :=
  Prod.ext (Document.load_of_cut s.faithful.proper h hread) rfl

theorem RateState.load_empty_iff :
    t.run r (load path) = (.ok ∅, t) ↔ t.LooksEmpty r path := by
  rw [run_load, ← Document.load_eq_empty_iff (β := Counter)]
  simp [ofLoaded]

theorem BaselineStore.load_empty_iff :
    t.run r (load path) = (.ok ∅, t) ↔ t.LooksEmpty r path := by
  have hload : t.run r (load path) = (ofLoaded
      (Document.ofRead BaselineStore path (r.guard (.read path) (t.read path))), t) := rfl
  rw [hload, ← Document.load_eq_empty_iff (β := Baseline)]
  simp [ofLoaded]

theorem LockedRates.acquire_empty_iff {u : Tree} :
    t.run r (acquire path) = (.ok ⟨path, ∅⟩, u) ↔
      t.run r (FileAccess.lock (lockPath path)) = (.ok (), u) ∧ t.LooksEmpty r path := by
  rw [run_acquire_eq_ok_iff, ← RateState.load_empty_iff]
  simp

end

/-- A file that holds some first bytes of what a save writes, and not all of them, is refused, with
and without its lock, and stays as it is. An empty state is loaded from a missing file and from one
that spells an empty object, and from no other. -/
theorem truncated_refused (t : Tree) (r : Refusals) (path : String) :
    (∀ (s : RateState) (cut : List UInt8), CutOff s cut → t.read path = .ok cut →
      t.run r (RateState.load path) = (.error (refusal r path cut), t) ∧
      ∃ e u, t.run r (LockedRates.acquire path) = (.error e, u) ∧ u.read path = .ok cut) ∧
    (∀ (s : BaselineStore) (cut : List UInt8), CutOff s cut → t.read path = .ok cut →
      t.run r (BaselineStore.load path) = (.error (refusal r path cut), t)) ∧
    (∀ (s : RateState) (u : Tree), t.run r (s.save path) = (.ok (), u) →
      u.read path = .ok (toBytes s)) ∧
    (∀ (s : BaselineStore) (u : Tree), t.run r (s.save path) = (.ok (), u) →
      u.read path = .ok (toBytes s)) ∧
    (t.run r (RateState.load path) = (.ok ∅, t) ↔ t.LooksEmpty r path) ∧
    (t.run r (BaselineStore.load path) = (.ok ∅, t) ↔ t.LooksEmpty r path) ∧
    ∀ u, t.run r (LockedRates.acquire path) = (.ok ⟨path, ∅⟩, u) ↔
      t.run r (FileAccess.lock (LockedRates.lockPath path)) = (.ok (), u) ∧
        t.LooksEmpty r path := by
  refine ⟨fun s cut h hread => ?_, fun s cut h hread => BaselineStore.load_of_cut h hread,
    fun s u => read_of_save, fun s u => read_of_save, RateState.load_empty_iff,
    BaselineStore.load_empty_iff, fun u => LockedRates.acquire_empty_iff⟩
  have hload := RateState.load_of_cut (r := r) h hread
  obtain ⟨e, u, hacquire, hsame⟩ := LockedRates.acquire_of_load_failed (congrArg Prod.fst hload)
  exact ⟨hload, e, u, hacquire, hsame.trans hread⟩

/-- A counter under a key with a character of two bytes. -/
def accented : RateState :=
  .ofList [("größe", ⟨12.5, 7⟩)]

/-- The first bytes of its file, up to the first byte of that character. -/
def midCharacter : List UInt8 :=
  (toBytes accented).take 8

/-- A file cut off in the middle of a character is no text. -/
theorem truncated_refused_midCharacter :
    CutOff accented midCharacter ∧
      (⟨[], .ofList [("rates", .file midCharacter)]⟩ : Tree).read "rates" = .ok midCharacter ∧
      (⟨[], .ofList [("rates", .file midCharacter)]⟩ : Tree).run .nothing (RateState.load "rates") =
        (.error (.access "rates" .notText), ⟨[], .ofList [("rates", .file midCharacter)]⟩) := by
  have hcut : CutOff accented midCharacter := ⟨List.take_prefix _ _, by decide +kernel⟩
  have hread : (⟨[], .ofList [("rates", .file midCharacter)]⟩ : Tree).read "rates" =
      .ok midCharacter := rfl
  have hrefusal : refusal .nothing "rates" midCharacter = .access "rates" .notText := by
    decide +kernel
  have hload := ((truncated_refused _ .nothing "rates").1 accented midCharacter hcut hread).1
  rw [hrefusal] at hload
  exact ⟨hcut, hread, hload⟩

end DiskHealth
