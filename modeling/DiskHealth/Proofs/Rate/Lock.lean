import DiskHealth.Proofs.Files.Stored
import DiskHealth.Proofs.Rate.Sessions

/-!
Counters loaded under the lock of their file, in a tree where accesses may be refused. They are the
ones that would be loaded without the lock, and taking it makes at most its own file.
-/

namespace DiskHealth

open Files

namespace LockedRates

variable {t u : Tree} {r : Refusals} {path : String}

theorem run_acquire (t : Tree) (r : Refusals) (path : String) :
    t.run r (acquire path) =
      match t.run r (FileAccess.lock (lockPath path)) with
      | (.error cause, v) => (.error (.access (lockPath path) cause), v)
      | (.ok (), v) => ((v.run r (RateState.load path)).1.map (mk path), v) := by
  rw [acquire, Tree.run_bind]
  rcases t.run r (FileAccess.lock (lockPath path)) with ⟨_ | _, v⟩ <;> rfl

/-- The counters are loaded under the lock as they would be without it. -/
theorem run_acquire_of_lock (h : t.run r (FileAccess.lock (lockPath path)) = (.ok (), u)) :
    t.run r (acquire path) = ((t.run r (RateState.load path)).1.map (mk path), u) := by
  have hread := Session.read_lock (Tree.touch_of_lock h)
  simp only [run_acquire, h, RateState.run_load, hread]

theorem run_acquire_eq_ok_iff {held : LockedRates} :
    t.run r (acquire path) = (.ok held, u) ↔
      t.run r (FileAccess.lock (lockPath path)) = (.ok (), u) ∧
        ∃ before, t.run r (RateState.load path) = (.ok before, t) ∧ mk path before = held := by
  rcases hlock : t.run r (FileAccess.lock (lockPath path)) with ⟨cause | ⟨⟩, v⟩
  · rw [run_acquire, hlock]
    simp
  · rw [run_acquire_of_lock hlock, RateState.run_load]
    generalize RateState.ofLoaded _ = loaded
    cases loaded <;> simp [Except.map, and_comm]

theorem acquire_failed {cause : StoreError} (h : t.run r (acquire path) = (.error cause, u)) :
    u = t ∨ t.touch (lockPath path) = .ok u := by
  rcases hlock : t.run r (FileAccess.lock (lockPath path)) with ⟨_ | ⟨⟩, v⟩
  · rw [run_acquire, hlock] at h
    cases h
    exact (Tree.lock_cases hlock).imp_left And.left
  · rw [run_acquire_of_lock hlock] at h
    cases congrArg Prod.snd h
    exact .inr (Tree.touch_of_lock hlock)

theorem read_of_lock {result : Except FileError Unit}
    (h : t.run r (FileAccess.lock (lockPath path)) = (result, u)) : u.read path = t.read path := by
  rcases Tree.lock_cases h with ⟨rfl, -⟩ | htouch
  · rfl
  · exact Session.read_lock htouch

/-- Counters that cannot be loaded cannot be loaded under the lock either, and stay as they are. -/
theorem acquire_of_load_failed {e : StoreError}
    (h : (t.run r (RateState.load path)).1 = .error e) :
    ∃ cause u, t.run r (acquire path) = (.error cause, u) ∧ u.read path = t.read path := by
  rcases hlock : t.run r (FileAccess.lock (lockPath path)) with ⟨cause | ⟨⟩, u⟩
  · exact ⟨_, u, by rw [run_acquire, hlock], read_of_lock hlock⟩
  · exact ⟨e, u, by rw [run_acquire_of_lock hlock, h]; rfl, read_of_lock hlock⟩

end LockedRates

end DiskHealth
