import DiskHealth.Proofs.Files.Tree

/-!
A tree of files under a system that may refuse to read, replace or lock a file whatever is in the
tree: there is no permission, or no space left. A refused access fails with the system's own words
and leaves the tree as it is. The commands run over such a tree by the same code as over any other
files, and what is proved of their runs holds for every choice of what is refused.
-/

namespace DiskHealth.Files

/-- An access to the file at a path. A lock is taken of a file that was opened for it. -/
inductive Access where
  | read (path : String)
  | replace (path : String)
  | openLock (path : String)
  | lock (path : String)
  deriving DecidableEq

/-- What a system refuses. -/
structure Refusals where
  /-- The words in which an access is refused, if it is. -/
  reason? : Access → Option String

namespace Refusals

/-- What a system refuses that refuses nothing. -/
def nothing : Refusals :=
  ⟨fun _ => none⟩

/-- The outcome of an access, unless it is refused. -/
def guard {α : Type} (r : Refusals) (access : Access) (outcome : Except FileError α) :
    Except FileError α :=
  match r.reason? access with
  | some text => .error (.other text)
  | none => outcome

variable {α : Type} {r : Refusals} {access : Access} {outcome : Except FileError α}

theorem guard_of_allowed (h : r.reason? access = none) : r.guard access outcome = outcome := by
  rw [guard, h]

theorem guard_of_refused {text : String} (h : r.reason? access = some text) :
    r.guard access outcome = .error (.other text) := by
  rw [guard, h]

theorem guard_eq_ok_iff {a : α} :
    r.guard access outcome = .ok a ↔ r.reason? access = none ∧ outcome = .ok a := by
  unfold guard
  cases r.reason? access <;> simp

end Refusals

/-- Actions on a tree under a system that refuses some accesses. -/
abbrev Guarded := ReaderT Refusals (StateM Tree)

instance : FileAccess Guarded where
  absolute path := fun _ t => (.ok (t.absolute path), t)
  read path := fun r t => (r.guard (.read path) (t.read path), t)
  replace path bytes := fun r => Tree.change fun t => r.guard (.replace path) (t.replace path bytes)
  lock path := fun r t =>
    match r.guard (.openLock path) (t.touch path) with
    | .error cause => (.error cause, t)
    | .ok u => (r.guard (.lock path) (.ok ()), u)

namespace Tree

/-- What an action gives on a tree, and the tree after it. -/
def run {α : Type} (t : Tree) (r : Refusals) (action : Guarded α) : α × Tree :=
  action r t

/-- An action on a tree does not fail. -/
def Succeeds {ε α : Type} (t : Tree) (r : Refusals) (action : Guarded (Except ε α)) : Prop :=
  ∃ a, (t.run r action).1 = .ok a

theorem Succeeds.run_eq {ε α : Type} {t : Tree} {r : Refusals} {action : Guarded (Except ε α)}
    (h : t.Succeeds r action) : ∃ a u, t.run r action = (.ok a, u) := by
  obtain ⟨a, ha⟩ := h
  exact ⟨a, _, Prod.ext ha rfl⟩

variable {α β : Type} (t : Tree) (r : Refusals)

theorem run_pure (a : α) : t.run r (pure a) = (a, t) := rfl

theorem run_bind (action : Guarded α) (next : α → Guarded β) :
    t.run r (action >>= next) = (t.run r action).2.run r (next (t.run r action).1) := rfl

theorem run_read (path : String) :
    t.run r (FileAccess.read path) = (r.guard (.read path) (t.read path), t) := rfl

theorem run_replace (path : String) (bytes : List UInt8) :
    t.run r (FileAccess.replace path bytes) =
      match r.guard (.replace path) (t.replace path bytes) with
      | .ok u => (.ok (), u)
      | .error cause => (.error cause, t) := rfl

theorem run_lock (path : String) :
    t.run r (FileAccess.lock path) =
      match r.guard (.openLock path) (t.touch path) with
      | .error cause => (.error cause, t)
      | .ok u => (r.guard (.lock path) (.ok ()), u) := rfl

variable {t u : Tree} {r : Refusals} {path : String}

/-- Whether a lock is taken or not, at most its file was made. -/
theorem lock_cases {result : Except FileError Unit}
    (h : t.run r (FileAccess.lock path) = (result, u)) :
    u = t ∧ result ≠ .ok () ∨ t.touch path = .ok u := by
  rw [run_lock] at h
  cases hopen : r.guard (.openLock path) (t.touch path) with
  | error cause =>
    rw [hopen] at h
    cases h
    exact .inl ⟨rfl, nofun⟩
  | ok v =>
    rw [hopen] at h
    cases h
    exact .inr (Refusals.guard_eq_ok_iff.1 hopen).2

theorem touch_of_lock (h : t.run r (FileAccess.lock path) = (.ok (), u)) : t.touch path = .ok u :=
  (lock_cases h).resolve_left fun hfailed => hfailed.2 rfl

end Tree

end DiskHealth.Files
