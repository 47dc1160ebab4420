import DiskHealth.Cbor.Records
import DiskHealth.Proofs.Cbor.Items

/-!
Values read back from their CBOR forms. A map is its head and then its entries one by one, a record
its head and then its fields, so each is taken back once its parts are (`reads_map`,
`Reads.field`). The main statement puts the records of the library together: a value whose lengths
have heads is decoded from its own bytes, whatever follows them, and from no strict prefix of them.
-/

namespace DiskHealth.Cbor

variable {α β : Type} [Form α]

/-! ### Maps -/

/-- The number of entries of a map has a head, and so have the lengths of its keys and values. -/
structure MapFits (fits : α → Prop) (m : SortedMap α) : Prop where
  size : m.size < 2 ^ 64
  key : ∀ e ∈ m.toList, TextFits e.1
  value : ∀ e ∈ m.toList, fits e.2

instance (fits : α → Prop) [DecidablePred fits] : DecidablePred (MapFits fits) := fun m =>
  decidable_of_iff (m.size < 2 ^ 64 ∧ (∀ e ∈ m.toList, TextFits e.1) ∧ ∀ e ∈ m.toList, fits e.2)
    ⟨fun h => ⟨h.1, h.2.1, h.2.2⟩, fun h => ⟨h.size, h.key, h.value⟩⟩

theorem reads_entry {e : String × α} (hkey : TextFits e.1)
    (hvalue : Reads decode (encode e.2) e.2) :
    Reads readEntry (encode e.1 ++ encode e.2) e := by
  refine (reads_text hkey).bind ?_
  exact hvalue.map fun _ => rfl

theorem reads_counted {entries : List (String × α)} (hkey : ∀ e ∈ entries, TextFits e.1)
    (hvalue : ∀ e ∈ entries, Reads decode (encode e.2) e.2) :
    Reads (readCounted entries.length) (writeEntries entries) entries := by
  induction entries with
  | nil => exact .pure []
  | cons e entries ih =>
    have hothers := ih (fun e he => hkey e (List.mem_cons_of_mem _ he))
      fun e he => hvalue e (List.mem_cons_of_mem _ he)
    refine (reads_entry (hkey e List.mem_cons_self) (hvalue e List.mem_cons_self)).bind ?_
    exact hothers.map fun _ => rfl

theorem reads_map {fits : α → Prop} (hfits : ∀ a, fits a → Reads decode (encode a) a)
    {m : SortedMap α} (h : MapFits fits m) : Reads decode (encode m) m := by
  have hentries : Reads readEntries (head Major.map m.size ++ writeEntries m.toList) m.toList := by
    have hbind : readEntries (α := α) = fun input =>
        (readMajor Major.map input).bind fun r => match r with
          | (.number count, rest) => readCounted count rest
          | (.indefinite, rest) => readUntilBreak rest.length rest := by
      funext input
      unfold readEntries
      rcases readMajor Major.map input with _ | ⟨_ | _, _⟩ <;> rfl
    rw [hbind]
    have hhead := reads_major (by decide : Major.map < 8) h.size
    refine hhead.bind ?_
    exact reads_counted h.key fun e he => hfits e.2 (h.value e he)
  refine hentries.map fun input => ?_
  rw [SortedMap.ofList_toList]

/-! ### Records -/

section Fields

variable {bytes more : List UInt8} {a : α} {b : β} {count left : Nat}

theorem Reads.record {next : Left × List UInt8 → Option (β × List UInt8)}
    (hcount : count < 2 ^ 64) (h : Reads (fun input => next (some count, input)) more b) :
    Reads (fun input => (openRecord input).bind next) (writeRecord count more) b := by
  refine Reads.bind ?_ h
  have hhead := reads_major (by decide : Major.array < 8) hcount
  exact hhead.map fun _ => rfl

theorem Reads.field? {next : Option α × Left × List UInt8 → Option (β × List UInt8)}
    (h : Reads decode bytes a) (hnext : Reads (fun input => next (some a, some left, input)) more b) :
    Reads (fun input => (readField? (some (left + 1)) input).bind next) (bytes ++ more) b := by
  have hread : Reads (fun input => (decode input).bind fun r => next (some r.1, some left, r.2))
      (bytes ++ more) b := h.bind hnext
  simpa [readField?, Option.bind_map, Function.comp_def] using hread

theorem Reads.field {next : α × Left × List UInt8 → Option (β × List UInt8)}
    (h : Reads decode bytes a) (hnext : Reads (fun input => next (a, some left, input)) more b) :
    Reads (fun input => (readField (some (left + 1)) input).bind next) (bytes ++ more) b := by
  have hread : Reads (fun input => (decode input).bind fun r => next (r.1, some left, r.2))
      (bytes ++ more) b := h.bind hnext
  have hmap : ∀ input, readField (α := α) (some (left + 1)) input =
      (decode input).map fun r => (r.1, some left, r.2) := by
    intro input
    unfold readField readField?
    cases (decode input : Option (α × List UInt8)) <;> rfl
  simpa [hmap, Option.bind_map, Function.comp_def] using hread

end Fields

/-- A record of two fields is taken back once its fields are. -/
theorem reads_two {γ : Type} [Form β] (make : α → β → γ) {a : α} {b : β}
    (ha : Reads decode (encode a) a) (hb : Reads decode (encode b) b) :
    Reads (fun input => do
        let (left, rest) ← openRecord input
        let (a, left, rest) ← readField left rest
        let (b, left, rest) ← readField left rest
        return (make a b, ← closeRecord left rest))
      (writeRecord 2 (encode a ++ encode b)) (make a b) := by
  refine .record (by decide) (ha.field ?_)
  rw [← List.append_nil (encode b)]
  exact hb.field (.pure _)

theorem reads_word (w : Int64) : Reads decode (encode w) w := by
  have hlow := Int64.le_toInt w
  have hhigh := Int64.toInt_lt w
  refine (reads_int (by omega) (by omega)).last fun input => ?_
  rw [Numeral.word?_toInt, Option.map_some]

theorem reads_pair (p : NormalizedPair) : Reads decode (encode p) p :=
  reads_two NormalizedPair.mk (reads_word p.value) (reads_word p.threshold)

theorem reads_metric {m : Metric} (h : TextFits m.name) : Reads decode (encode m) m :=
  reads_two Metric.mk (reads_text h) (reads_word m.value)

theorem reads_verdict (v : Verdict) : Reads decode (encode v) v := by
  cases v with
  | normal => exact (reads_int (n := 0) (by decide) (by decide)).last fun _ => rfl
  | critical => exact (reads_int (n := 1) (by decide) (by decide)).last fun _ => rfl

/-- What does not begin like a null is taken back as something. -/
theorem reads_some {a : α} {first : UInt8} {tail : List UInt8} (hfirst : first ≠ nullByte)
    (h : Reads decode (first :: tail) a) : Reads decode (first :: tail) (some a) where
  append rest := by
    have hread := h.append rest
    rw [List.cons_append] at hread ⊢
    show (if first = nullByte then _ else _) = _
    rw [if_neg hfirst, hread]
    rfl
  cut cut hcut hne := by
    rcases List.prefix_cons_iff.1 hcut with rfl | ⟨part, rfl, hpart⟩
    · rfl
    · show (if first = nullByte then _ else _) = _
      rw [if_neg hfirst, h.cut _ hcut hne]
      rfl

/-- The lengths in a reading have heads. -/
def ReadingFits (r : Reading) : Prop :=
  MapFits (fun _ => True) r.attributes

instance : DecidablePred ReadingFits := fun r =>
  inferInstanceAs (Decidable (MapFits _ r.attributes))

theorem reads_reading {r : Reading} (h : ReadingFits r) : Reads decode (encode r) r := by
  have hattributes := reads_map (fun w _ => reads_word w) h
  obtain ⟨attributes, pair⟩ := r
  cases pair with
  | none =>
    show Reads _ (writeRecord 1 (encode attributes)) _
    rw [← List.append_nil (encode attributes)]
    exact .record (by decide) (hattributes.field (.pure _))
  | some pair =>
    have hpair : Reads decode (encode pair) (some pair) :=
      reads_some (by decide) (reads_pair pair)
    show Reads _ (writeRecord 2 (encode attributes ++ encode pair)) _
    refine .record (by decide) (hattributes.field ?_)
    rw [← List.append_nil (encode pair)]
    exact hpair.field? (.pure _)

theorem reads_section {s : Section} (h : MapFits ReadingFits s) :
    Reads decodeSection (encodeSection s) s := by
  have hreadings := reads_map (fun _ => reads_reading) h
  rw [encodeSection, ← List.append_nil (encode s)]
  exact .record (by decide) (hreadings.field (.pure _))

/-- A value whose lengths have heads is decoded from its own bytes, whatever follows them, and from
no strict prefix of them. -/
theorem reads_encoded :
    (∀ s : Section, MapFits ReadingFits s → Reads decodeSection (encodeSection s) s) ∧
    (∀ r : Reading, ReadingFits r → Reads decode (encode r) r) ∧
    (∀ p : NormalizedPair, Reads decode (encode p) p) ∧
    (∀ b : Baseline, MapFits (fun _ => True) b → Reads decode (encode b) b) ∧
    (∀ v : Verdict, Reads decode (encode v) v) ∧
    ∀ m : Metric, TextFits m.name → Reads decode (encode m) m :=
  ⟨fun _ => reads_section, fun _ => reads_reading, reads_pair,
    fun _ => reads_map fun w _ => reads_word w, reads_verdict, fun _ => reads_metric⟩

/-- A disk with a pair, and one without that tells a negative temperature. -/
def twoDisks : Section :=
  .ofList
    [("/dev/sda", ⟨.ofList [("Reallocated_Events", Int64.minValue), ("Größe", 24)], some ⟨100, 36⟩⟩),
      ("/dev/nvme0n1", ⟨.ofList [("Temperature", -1)], none⟩)]

theorem reads_encoded_twoDisks :
    MapFits ReadingFits twoDisks ∧
      (∀ rest, decodeSection (encodeSection twoDisks ++ rest) = some (twoDisks, rest)) ∧
      decodeSection (encodeSection twoDisks).dropLast = none := by
  have hfits : MapFits ReadingFits twoDisks := by decide +kernel
  have hread := reads_encoded.1 twoDisks hfits
  exact ⟨hfits, hread.append, hread.cut _ (List.dropLast_prefix _) (by decide +kernel)⟩

end DiskHealth.Cbor
