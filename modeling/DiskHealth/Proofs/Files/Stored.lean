import DiskHealth.Files.Stored
import DiskHealth.Proofs.Files.Frame
import DiskHealth.Proofs.Files.Refusals
import DiskHealth.Proofs.Json.Records

/-!
Stores and states in the files of a tree. What is loaded depends on what is read at the path and on
nothing else, and loading changes no file. What was saved is loaded again as it was, whatever stood
in its place before (`BaselineStore.load_of_save`).
-/

namespace DiskHealth

open Files

namespace Files.Document

variable {α : Type} [Json.Form α] {r : Refusals} {t u : Tree} {path : String}

theorem run_save (t : Tree) (r : Refusals) (path : String) (a : α) :
    t.run r (save path a) =
      match r.guard (.replace path) (t.replace path (toBytes a)) with
      | .error cause => (.error (.access path cause), t)
      | .ok u => (.ok (), u) := by
  rw [save, Tree.run_bind, Tree.run_replace]
  cases r.guard (.replace path) (t.replace path (toBytes a)) <;> rfl

theorem run_save_eq_ok_iff {a : α} :
    t.run r (save path a) = (.ok (), u) ↔
      r.reason? (.replace path) = none ∧ t.replace path (toBytes a) = .ok u := by
  rw [run_save, ← Refusals.guard_eq_ok_iff]
  cases r.guard (.replace path) (t.replace path (toBytes a)) <;> simp

theorem eq_of_save_failed {a : α} {e : StoreError} (h : t.run r (save path a) = (.error e, u)) :
    u = t := by
  rw [run_save] at h
  cases hreplace : r.guard (.replace path) (t.replace path (toBytes a)) with
  | error cause =>
    rw [hreplace] at h
    cases h
    rfl
  | ok v =>
    rw [hreplace] at h
    cases h

/-- Whether something can be saved does not depend on what it is. -/
theorem succeeds_save_iff {a : α} :
    t.Succeeds r (save path a) ↔
      r.reason? (.replace path) = none ∧ t.prepare path = .ok () ∧ ∃ p, t.target path = .ok p := by
  constructor
  · rintro ⟨_, h⟩
    obtain ⟨hallowed, hreplace⟩ := run_save_eq_ok_iff.1 (Prod.ext h rfl)
    obtain ⟨hprepare, p, htarget, -⟩ := Tree.replace_eq_ok_iff.1 hreplace
    exact ⟨hallowed, hprepare, p, htarget⟩
  · rintro ⟨hallowed, hprepare, p, htarget⟩
    have hreplace : t.replace path (toBytes a) = .ok (t.set p (.file (toBytes a))) :=
      Tree.replace_eq_ok_iff.2 ⟨hprepare, p, htarget, rfl⟩
    exact ⟨(), congrArg Prod.fst (run_save_eq_ok_iff.2 ⟨hallowed, hreplace⟩)⟩

/-- What can be saved in a tree can be saved in all with the same directories. -/
theorem succeeds_save {β : Type} [Json.Form β] {a : α} {b : β} (hsame : t.SameDirectories u)
    (h : t.Succeeds r (save path a)) : u.Succeeds r (save path b) := by
  obtain ⟨hallowed, hprepare, p, htarget⟩ := succeeds_save_iff.1 h
  exact succeeds_save_iff.2 ⟨hallowed, hsame.prepare hprepare, p, hsame.target htarget⟩

/-- A file that may not be read is not taken for a missing one. -/
theorem allowed_of_ofRead {β : Type} {f : Option α → β} {b : β}
    (h : (ofRead α path (r.guard (.read path) (t.read path))).map f = .ok b) :
    r.reason? (.read path) = none := by
  obtain ⟨loaded, hread, -⟩ := Tree.map_eq_ok_iff.1 h
  refine Option.eq_none_iff_forall_ne_some.2 fun text htext => ?_
  rw [Refusals.guard_of_refused htext] at hread
  cases hread

theorem map_ofRead_of_saved {β : Type} (f : Option α → β) {a : α} (h : Json.Faithful a)
    (hallowed : r.reason? (.read path) = none) (hread : t.read path = .ok (toBytes a)) :
    (ofRead α path (r.guard (.read path) (t.read path))).map f = .ok (f (some a)) := by
  rw [Refusals.guard_of_allowed hallowed, ofRead_of_saved h hread]
  rfl

end Files.Document

variable {r : Refusals} {t u : Tree} {path : String}

namespace RateState

theorem run_load (t : Tree) (r : Refusals) (path : String) :
    t.run r (load path) =
      (ofLoaded (Document.ofRead RateState path (r.guard (.read path) (t.read path))), t) := rfl

theorem allowed_of_load {s : RateState} (h : (t.run r (load path)).1 = .ok s) :
    r.reason? (.read path) = none :=
  Document.allowed_of_ofRead h

theorem load_of_read {s : RateState} (hs : s.Writable) (hallowed : r.reason? (.read path) = none)
    (hread : t.read path = .ok (Document.toBytes s)) : t.run r (load path) = (.ok s, t) :=
  Prod.ext (Document.map_ofRead_of_saved (·.getD ∅) hs.faithful hallowed hread) rfl

end RateState

namespace BaselineStore

theorem faithful (store : BaselineStore) : Json.Faithful store :=
  Json.faithful_map fun e _ => Json.faithful_words e.2

theorem allowed_of_load {store : BaselineStore} (h : (t.run r (load path)).1 = .ok store) :
    r.reason? (.read path) = none :=
  Document.allowed_of_ofRead h

theorem load_of_read {store : BaselineStore} (hallowed : r.reason? (.read path) = none)
    (hread : t.read path = .ok (Document.toBytes store)) :
    t.run r (load path) = (.ok store, t) :=
  Prod.ext (Document.map_ofRead_of_saved (·.getD ∅) store.faithful hallowed hread) rfl

/-- A saved store is loaded as it was. -/
theorem load_of_save {store : BaselineStore} (hallowed : r.reason? (.read path) = none)
    (h : t.run r (save path store) = (.ok (), u)) : u.run r (load path) = (.ok store, u) :=
  load_of_read hallowed (Tree.read_replace (Document.run_save_eq_ok_iff.1 h).2)

end BaselineStore

end DiskHealth
