import DiskHealth.Command.Run
import DiskHealth.Proofs.Files.Stored

/-!
Runs of a discovery over the files of a tree. A run stops at the first access that fails and has
changed nothing then (`eq_of_discoverItems_failed`); all that a run that completes changes is that
it saves what was discovered (`run_discoverItems_eq_ok_iff`). The main statement says what is stored
after it, and that a second run leaves it so.
-/

namespace DiskHealth.Command

open Files Telemetry

variable {t u : Tree} {r : Refusals} {file path : String} {items : List DiscoveredItem}

theorem run_readTelemetry (t : Tree) (r : Refusals) (file : String) :
    t.run r (readTelemetry file) =
      ((((r.guard (.read file) (t.read file)).bind Document.text).map parseOutput).mapError
        fun cause => .telemetry (.file file) ⟨file, cause⟩, t) := by
  unfold readTelemetry Source.readings Source.table Source.output
  simp only [Tree.run_bind, Tree.run_read, Tree.run_pure]
  cases (r.guard (.read file) (t.read file)).bind Document.text <;> rfl

theorem readTelemetry_snd (t : Tree) (r : Refusals) (file : String) :
    (t.run r (readTelemetry file)).2 = t := by
  rw [run_readTelemetry]

theorem run_readTelemetry_eq_ok_iff {readings : Section} :
    t.run r (readTelemetry file) = (.ok readings, t) ↔
      r.reason? (.read file) = none ∧
        ∃ bytes raw, t.bytes? file = some bytes ∧ Document.text bytes = .ok raw ∧
          parseOutput raw = readings := by
  rw [run_readTelemetry, Prod.mk.injEq, and_iff_left rfl, Tree.mapError_eq_ok_iff,
    Tree.map_eq_ok_iff]
  constructor
  · rintro ⟨raw, htext, rfl⟩
    obtain ⟨bytes, hguard, htext⟩ := Tree.bind_eq_ok_iff.1 htext
    obtain ⟨hallowed, hread⟩ := Refusals.guard_eq_ok_iff.1 hguard
    exact ⟨hallowed, bytes, raw, Tree.read_eq_ok_iff.1 hread, htext, rfl⟩
  · rintro ⟨hallowed, bytes, raw, hbytes, htext, rfl⟩
    have hguard := Refusals.guard_eq_ok_iff.2 ⟨hallowed, Tree.read_eq_ok_iff.2 hbytes⟩
    exact ⟨raw, Tree.bind_eq_ok_iff.2 ⟨bytes, hguard, htext⟩, rfl⟩

theorem run_readTelemetry_of_text {raw : String} (hallowed : r.reason? (.read file) = none)
    (h : t.bytes? file = some (Text.Utf8.ofString raw)) :
    t.run r (readTelemetry file) = (.ok (parseOutput raw), t) := by
  have htext : Document.text (Text.Utf8.ofString raw) = .ok raw := by
    rw [Document.text, Text.Utf8.toString?_ofString]
  exact run_readTelemetry_eq_ok_iff.2 ⟨hallowed, _, raw, h, htext, rfl⟩

theorem run_replaceStore (t : Tree) (r : Refusals) (path : String) (items : List DiscoveredItem) :
    t.run r (replaceStore path items) =
      match (t.run r (BaselineStore.load path)).1 with
      | .error cause => (.error (.baselines cause), t)
      | .ok _ =>
        let saved := t.run r (BaselineStore.save path (.ofItems items))
        (saved.1.mapError (.savingBaselines path), saved.2) := by
  have hload : (t.run r (BaselineStore.load path)).2 = t := rfl
  rw [replaceStore, Tree.run_bind, hload]
  cases (t.run r (BaselineStore.load path)).1 <;> rfl

theorem run_replaceStore_eq_ok_iff :
    t.run r (replaceStore path items) = (.ok (), u) ↔
      t.Succeeds r (BaselineStore.load path) ∧
        t.run r (BaselineStore.save path (.ofItems items)) = (.ok (), u) := by
  rw [run_replaceStore, Tree.Succeeds]
  cases (t.run r (BaselineStore.load path)).1 with
  | error cause => simp
  | ok old => simp [Prod.ext_iff, Tree.mapError_eq_ok_iff]

theorem eq_of_replaceStore_failed {e : RunError}
    (h : t.run r (replaceStore path items) = (.error e, u)) : u = t := by
  rw [run_replaceStore] at h
  cases hload : (t.run r (BaselineStore.load path)).1 with
  | error cause =>
    rw [hload] at h
    cases h
    rfl
  | ok old =>
    rw [hload] at h
    rcases hsave : t.run r (BaselineStore.save path (.ofItems items)) with ⟨cause | done, v⟩
    · rw [hsave] at h
      cases h
      exact Document.eq_of_save_failed hsave
    · rw [hsave] at h
      cases h

theorem run_discoverItems (t : Tree) (r : Refusals) (file path : String) :
    t.run r (discoverItems file path) =
      match (t.run r (readTelemetry file)).1 with
      | .error e => (.error e, t)
      | .ok readings =>
        let replaced := t.run r (replaceStore path (discover readings))
        (.ok (discover readings, replaced.1), replaced.2) := by
  rw [discoverItems, Tree.run_bind, readTelemetry_snd]
  cases (t.run r (readTelemetry file)).1 <;> rfl

theorem run_discoverItems_eq_ok_iff :
    t.run r (discoverItems file path) = (.ok (items, .ok ()), u) ↔
      ∃ readings, t.run r (readTelemetry file) = (.ok readings, t) ∧
        discover readings = items ∧ t.run r (replaceStore path items) = (.ok (), u) := by
  rw [run_discoverItems]
  constructor
  · intro h
    split at h
    · cases h
    · rename_i readings hread
      obtain ⟨hresult, rfl⟩ := Prod.mk.inj h
      obtain ⟨rfl, hstored⟩ := Prod.mk.inj (Except.ok.inj hresult)
      exact ⟨readings, Prod.ext hread (readTelemetry_snd t r file), rfl, Prod.ext hstored rfl⟩
  · rintro ⟨readings, hread, rfl, hreplace⟩
    simp only [hread, hreplace]

/-- A discovery that cannot store what it found has changed nothing. -/
theorem eq_of_discoverItems_failed
    {result : Except RunError (List DiscoveredItem × Except RunError Unit)}
    (h : t.run r (discoverItems file path) = (result, u))
    (hfailed : ∀ items, result ≠ .ok (items, .ok ())) : u = t := by
  rw [run_discoverItems] at h
  cases hread : (t.run r (readTelemetry file)).1 with
  | error e =>
    rw [hread] at h
    cases h
    rfl
  | ok readings =>
    simp only [hread] at h
    rcases hreplace : t.run r (replaceStore path (discover readings)) with ⟨_ | ⟨⟩, v⟩
    · rw [hreplace] at h
      cases h
      exact eq_of_replaceStore_failed hreplace
    · rw [hreplace] at h
      cases h
      exact absurd rfl (hfailed _)

/-- A discovery completes exactly if the telemetry can be read, what is stored can be loaded, and
something can be saved in its place. -/
theorem discoverItems_completes_iff
    {result : Except RunError (List DiscoveredItem × Except RunError Unit)}
    (h : t.run r (discoverItems file path) = (result, u)) :
    (∃ items, result = .ok (items, .ok ())) ↔
      t.Succeeds r (readTelemetry file) ∧ t.Succeeds r (BaselineStore.load path) ∧
        t.Succeeds r (BaselineStore.save path ∅) := by
  constructor
  · rintro ⟨items, rfl⟩
    obtain ⟨readings, hread, -, hreplace⟩ := run_discoverItems_eq_ok_iff.1 h
    obtain ⟨hload, hsave⟩ := run_replaceStore_eq_ok_iff.1 hreplace
    exact ⟨⟨readings, congrArg Prod.fst hread⟩, hload,
      Document.succeeds_save (.refl t) ⟨(), congrArg Prod.fst hsave⟩⟩
  · rintro ⟨⟨readings, hread⟩, hload, hsave⟩
    have hsave : t.Succeeds r (BaselineStore.save path (.ofItems (discover readings))) :=
      Document.succeeds_save (.refl t) hsave
    obtain ⟨⟨⟩, v, hsave⟩ := hsave.run_eq
    have hreplace := run_replaceStore_eq_ok_iff.2 ⟨hload, hsave⟩
    have hrun := run_discoverItems_eq_ok_iff.2
      ⟨readings, Prod.ext hread (readTelemetry_snd t r file), rfl, hreplace⟩
    exact ⟨discover readings, congrArg Prod.fst (h.symm.trans hrun)⟩

/-- A discovery that completes leaves exactly what it found in the place of all that was stored, and
a second one leaves the same. One that does not complete leaves everything as it was. -/
theorem discoverItems_replaces
    {result : Except RunError (List DiscoveredItem × Except RunError Unit)}
    (hrun : t.run r (discoverItems file path) = (result, u)) :
    ((∃ items, result = .ok (items, .ok ())) ↔
      t.Succeeds r (readTelemetry file) ∧ t.Succeeds r (BaselineStore.load path) ∧
        t.Succeeds r (BaselineStore.save path ∅)) ∧
    ((∀ items, result ≠ .ok (items, .ok ())) → u = t) ∧
    ∀ items, result = .ok (items, .ok ()) →
      ∃ bytes raw, t.bytes? file = some bytes ∧ Document.text bytes = .ok raw ∧
        items = discover (parseOutput raw) ∧
        u.bytes? path = some (Document.toBytes (BaselineStore.ofItems items)) ∧
        u.run r (BaselineStore.load path) = (.ok (.ofItems items), u) ∧
        (∀ item b, (BaselineStore.ofItems items).get? item = some b ↔ ⟨item, b⟩ ∈ items) ∧
        t.SameBut [path] u ∧
        (t.Apart file path → u.run r (discoverItems file path) = (result, u)) := by
  refine ⟨discoverItems_completes_iff hrun, eq_of_discoverItems_failed hrun, ?_⟩
  rintro items rfl
  obtain ⟨readings, hread, rfl, hreplace⟩ := run_discoverItems_eq_ok_iff.1 hrun
  obtain ⟨hallowed, bytes, raw, hbytes, htext, rfl⟩ := run_readTelemetry_eq_ok_iff.1 hread
  obtain ⟨⟨old, hload⟩, hsave⟩ := run_replaceStore_eq_ok_iff.1 hreplace
  obtain ⟨hsavable, hput⟩ := Document.run_save_eq_ok_iff.1 hsave
  have hloaded := BaselineStore.load_of_save (BaselineStore.allowed_of_load hload) hsave
  have hsame := Tree.replace_sameBut hput
  refine ⟨bytes, raw, hbytes, htext, rfl, Tree.read_eq_ok_iff.1 (Tree.read_replace hput), hloaded,
    fun item b => BaselineStore.get?_ofItems_discover, hsame, fun hapart => ?_⟩
  have hkept : u.bytes? file = some bytes := by
    rw [hsame.bytes?_eq fun other hother => List.mem_singleton.1 hother ▸ hapart, hbytes]
  have hagain := Document.run_save_eq_ok_iff.2 ⟨hsavable, Tree.replace_again hput⟩
  have hreplace := run_replaceStore_eq_ok_iff.2 ⟨⟨_, congrArg Prod.fst hloaded⟩, hagain⟩
  have hread := run_readTelemetry_eq_ok_iff.2 ⟨hallowed, bytes, raw, hkept, htext, rfl⟩
  exact run_discoverItems_eq_ok_iff.2 ⟨_, hread, rfl, hreplace⟩

/-- An agent's output in which only one disk is left. -/
def oneDisk : String :=
  "<<<smart>>>\n/dev/nvme0 NVME DISK\nCritical Warning: 0x01\n"

def vanished : BaselineStore :=
  .ofItems [⟨"/dev/sda", .ofList [("Power_Cycles", 5)]⟩]

/-- The output beside the store of a disk that is gone. -/
def afterVanishing : Tree where
  home := ["data"]
  entries := .ofList [("data/agent.txt", .file (Text.Utf8.ofString oneDisk)),
    ("data/baselines.json", .file (Document.toBytes vanished))]

theorem discoverItems_replaces_vanished :
    ∃ u, afterVanishing.run .nothing (discoverItems "agent.txt" "baselines.json") =
        (.ok (discover (parseOutput oneDisk), .ok ()), u) ∧
      (discover (parseOutput oneDisk)).map (·.item) = ["/dev/nvme0"] ∧
      u.run .nothing (BaselineStore.load "baselines.json") =
        (.ok (.ofItems (discover (parseOutput oneDisk))), u) ∧
      u.run .nothing (discoverItems "agent.txt" "baselines.json") =
        (.ok (discover (parseOutput oneDisk), .ok ()), u) := by
  have hread : afterVanishing.run .nothing (readTelemetry "agent.txt") =
      (.ok (parseOutput oneDisk), afterVanishing) := run_readTelemetry_of_text rfl rfl
  have hload : afterVanishing.Succeeds .nothing (BaselineStore.load "baselines.json") :=
    ⟨vanished, congrArg Prod.fst (BaselineStore.load_of_read rfl rfl)⟩
  have hsave : afterVanishing.Succeeds .nothing (BaselineStore.save "baselines.json" ∅) :=
    Document.succeeds_save_iff.2 ⟨rfl, rfl, _, rfl⟩
  have hapart : afterVanishing.Apart "agent.txt" "baselines.json" :=
    Tree.apart_of_places rfl rfl (by decide)
  rcases hrun : afterVanishing.run .nothing (discoverItems "agent.txt" "baselines.json") with
    ⟨result, u⟩
  obtain ⟨hcompletes, -, hcompleted⟩ := discoverItems_replaces hrun
  obtain ⟨items, rfl⟩ := hcompletes.2 ⟨⟨_, congrArg Prod.fst hread⟩, hload, hsave⟩
  obtain ⟨readings, hread', rfl, -⟩ := run_discoverItems_eq_ok_iff.1 hrun
  obtain rfl := Except.ok.inj (Prod.mk.inj (hread.symm.trans hread')).1
  obtain ⟨_, _, -, -, -, -, hloaded, -, -, hagain⟩ := hcompleted _ rfl
  exact ⟨u, rfl, by decide +kernel, hloaded, hagain hapart⟩

end DiskHealth.Command
