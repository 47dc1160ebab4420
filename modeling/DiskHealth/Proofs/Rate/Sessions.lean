import DiskHealth.Proofs.Files.Tree
import DiskHealth.Proofs.Json.Forms
import DiskHealth.Proofs.Rate.History
import DiskHealth.Rate.Locked

/-!
Sessions on a file of counters. Each of them locks the file and loads it, makes its observations,
and saves them or gives them up. One after the other they act as a single state in memory that makes
the observations of the saved sessions only: a step lemma (`run_ok`) says what one session does
to a file that holds a state, and the run follows by induction on the sessions.
-/

namespace DiskHealth

open Files

namespace LockedRates

/-- The rates of some observations under the lock, and the locked state after the last. -/
def observeAll (l : LockedRates) : List Observation → List (Except RateError Float) × LockedRates
  | [] => ([], l)
  | o :: os =>
    let (rate, l) := l.observe o.key o.timestamp o.value
    let (rates, l) := observeAll l os
    (rate :: rates, l)

theorem observeAll_eq (l : LockedRates) (os : List Observation) :
    l.observeAll os =
      ((l.state.observeAll os).1, { l with state := (l.state.observeAll os).2 }) := by
  induction os generalizing l with
  | nil => rfl
  | cons o os ih => simp only [observeAll, ih, RateState.observeAll, observe]

theorem acquire_eq (t : Tree) (path : String) :
    (acquire path : StateM Tree (Except StoreError LockedRates)) t =
      match t.touch (lockPath path) with
      | .error cause => (.error (.access (lockPath path) cause), t)
      | .ok u =>
        let loaded := (RateState.load path : StateM Tree (Except StoreError RateState)) u
        (loaded.1.map (mk path), loaded.2) := by
  unfold acquire
  simp only [bind, StateT.bind, Tree.lock_eq, Tree.change_eq]
  cases t.touch (lockPath path) <;> rfl

theorem commit_eq (t : Tree) (l : LockedRates) :
    (l.commit : StateM Tree (Except StoreError Unit)) t =
      match t.replace l.path (Document.toBytes l.state) with
      | .error cause => (.error (.access l.path cause), t)
      | .ok u => (.ok (), u) := by
  unfold commit RateState.save Document.save
  simp only [bind, StateT.bind, Tree.replace_eq, Tree.change_eq]
  cases t.replace l.path (Document.toBytes l.state) <;> rfl

end LockedRates

/-- What is done between taking the lock of a file and leaving it. -/
structure Session where
  observations : List Observation
  /-- Whether they are saved in the end. -/
  saves : Bool

namespace Session

section

variable {m : Type → Type} [Monad m] [FileAccess m]

/-- A session on a file, which gives the rates of its observations. -/
def run (path : String) (c : Session) : m (Except StoreError (List (Except RateError Float))) := do
  match (← LockedRates.acquire path : Except StoreError LockedRates) with
  | .error cause => return .error cause
  | .ok held =>
    let (rates, held) := held.observeAll c.observations
    if c.saves then return (← held.commit).map fun _ => rates else return .ok rates

/-- Sessions on a file, one after the other until one fails, and the rates of each. -/
def runAll (path : String) :
    List Session → m (Except StoreError (List (List (Except RateError Float))))
  | [] => return .ok []
  | c :: cs => do
    match (← c.run path : Except StoreError (List (Except RateError Float))) with
    | .error cause => return .error cause
    | .ok rates => return (← runAll path cs).map (rates :: ·)

end

/-- A session on a file of a tree: the rates, and the tree after it. -/
def runOn (t : Tree) (path : String) (c : Session) :
    Except StoreError (List (Except RateError Float)) × Tree :=
  (c.run path : StateM Tree (Except StoreError (List (Except RateError Float)))) t

/-- Sessions on a file of a tree: the rates of each, and the tree after the last. -/
def runAllOn (t : Tree) (path : String) (cs : List Session) :
    Except StoreError (List (List (Except RateError Float))) × Tree :=
  (runAll path cs : StateM Tree (Except StoreError (List (List (Except RateError Float))))) t

/-- The state in memory after the observations of the saved sessions. -/
def inMemory (s : RateState) (cs : List Session) : RateState :=
  (s.observeAll ((cs.filter (·.saves)).flatMap (·.observations))).2

end Session

namespace RateState

/-- A file holds a state: it was saved there, or the state is empty and there is no file. -/
def HeldBy (s : RateState) (t : Tree) (path : String) : Prop :=
  t.read path = .error .notFound ∧ s = ∅ ∨ t.read path = .ok (Document.toBytes s)

theorem HeldBy.congr {s : RateState} {t u : Tree} {path : String} (h : s.HeldBy t path)
    (hread : u.read path = t.read path) : s.HeldBy u path := by
  unfold HeldBy
  rw [hread]
  exact h

/-- A file loads as the state that it holds. -/
theorem HeldBy.load {s : RateState} {t : Tree} {path : String} (h : s.HeldBy t path)
    (hs : s.Writable) : (load path : StateM Tree (Except StoreError RateState)) t = (.ok s, t) := by
  have hload : (RateState.load path : StateM Tree (Except StoreError RateState)) t =
      (ofLoaded (Document.ofRead RateState path (t.read path)), t) := rfl
  rw [hload]
  rcases h with ⟨hread, rfl⟩ | hread
  · rw [hread]
    rfl
  · rw [Document.ofRead_of_saved hs.faithful hread]
    rfl

theorem Writable.observe {s : RateState} (hs : s.Writable) {o : Observation}
    (ho : Json.ReadsBack o.timestamp) : (s.observe o.key o.timestamp o.value).2.Writable := by
  intro key c hc
  rw [get?_observe] at hc
  split at hc
  · cases hc
    exact ho
  · exact hs key c hc

theorem Writable.observeAll {s : RateState} (hs : s.Writable) {os : List Observation}
    (hos : ∀ o ∈ os, Json.ReadsBack o.timestamp) : (s.observeAll os).2.Writable := by
  induction os generalizing s with
  | nil => exact hs
  | cons o os ih =>
    exact ih (hs.observe (hos o List.mem_cons_self)) fun p hp => hos p (List.mem_cons_of_mem _ hp)

end RateState

namespace Session

theorem inMemory_append (s : RateState) (cs ds : List Session) :
    inMemory s (cs ++ ds) = inMemory (inMemory s cs) ds := by
  unfold inMemory
  rw [List.filter_append, List.flatMap_append, RateState.observeAll_append]

theorem inMemory_cons (s : RateState) (c : Session) (cs : List Session) :
    inMemory s (c :: cs) = inMemory (inMemory s [c]) cs :=
  inMemory_append s [c] cs

theorem inMemory_singleton (s : RateState) (c : Session) :
    inMemory s [c] = if c.saves then (s.observeAll c.observations).2 else s := by
  unfold inMemory
  cases hc : c.saves <;> simp [hc, RateState.observeAll]

/-- The lock of a file can be held. -/
def CanLock (t : Tree) (path : String) : Prop :=
  ∃ u, t.touch (LockedRates.lockPath path) = .ok u

/-- A file can be replaced. -/
def CanReplace (t : Tree) (path : String) : Prop :=
  ∃ bytes u, t.replace path bytes = .ok u

theorem CanLock.congr {t u : Tree} {path : String} (h : CanLock t path)
    (hsame : t.SameDirectories u) : CanLock u path := by
  obtain ⟨v, hv⟩ := h
  exact hsame.touch hv

theorem CanReplace.congr {t u : Tree} {path : String} (h : CanReplace t path)
    (hsame : t.SameDirectories u) : CanReplace u path := by
  obtain ⟨bytes, v, hv⟩ := h
  exact ⟨bytes, hsame.replace hv bytes⟩

theorem read_lock {t u : Tree} {path : String} (h : t.touch (LockedRates.lockPath path) = .ok u) :
    u.read path = t.read path :=
  Tree.read_touch_ending (by decide) (by decide) h

/-- What a session does to a file that holds a state. -/
theorem run_eq {s : RateState} {t : Tree} {path : String} (hs : s.Writable)
    (hheld : s.HeldBy t path) (c : Session) :
    c.runOn t path =
      match t.touch (LockedRates.lockPath path) with
      | .error cause => (.error (.access (LockedRates.lockPath path) cause), t)
      | .ok v =>
        let (rates, after) := s.observeAll c.observations
        if c.saves then
          match v.replace path (Document.toBytes after) with
          | .error cause => (.error (.access path cause), v)
          | .ok u => (.ok rates, u)
        else (.ok rates, v) := by
  unfold runOn run
  simp only [bind, StateT.bind, LockedRates.acquire_eq]
  cases hlock : t.touch (LockedRates.lockPath path) with
  | error cause => rfl
  | ok v =>
    have hload := (hheld.congr (read_lock hlock)).load hs
    simp only [hload, Except.map, LockedRates.observeAll_eq]
    cases hc : c.saves with
    | false => rfl
    | true =>
      simp only [if_true, StateT.bind, bind, LockedRates.commit_eq]
      cases v.replace path (Document.toBytes (s.observeAll c.observations).2) <;> rfl

/-- A session on a file that holds a state completes exactly if its lock can be held and, where it
saves, its file can be replaced after that. -/
theorem run_eq_ok_iff {s : RateState} {t u : Tree} {path : String} (hs : s.Writable)
    (hheld : s.HeldBy t path) (c : Session) (rates : List (Except RateError Float)) :
    c.runOn t path = (.ok rates, u) ↔
      rates = (s.observeAll c.observations).1 ∧
        ∃ v, t.touch (LockedRates.lockPath path) = .ok v ∧
          if c.saves then
            v.replace path (Document.toBytes (s.observeAll c.observations).2) = .ok u
          else u = v := by
  rw [run_eq hs hheld]
  cases t.touch (LockedRates.lockPath path) with
  | error cause => simp
  | ok v =>
    cases c.saves with
    | false => simp [eq_comm]
    | true =>
      dsimp only
      rw [if_pos rfl]
      cases hreplace : v.replace path (Document.toBytes (s.observeAll c.observations).2) with
      | error cause => simp [hreplace]
      | ok w => simp [hreplace, eq_comm]

/-- What one completed session keeps and changes. -/
theorem run_ok {s : RateState} {t u : Tree} {path : String} {c : Session}
    {rates : List (Except RateError Float)} (hs : s.Writable) (hheld : s.HeldBy t path)
    (h : c.runOn t path = (.ok rates, u)) :
    rates = (s.observeAll c.observations).1 ∧ t.SameDirectories u ∧ CanLock t path ∧
      (c.saves = true → CanReplace t path ∧ u.read path = .ok (Document.toBytes (inMemory s [c]))) ∧
      (c.saves = false → u.read path = t.read path) := by
  obtain ⟨hrates, v, hlock, hend⟩ := (run_eq_ok_iff hs hheld c rates).1 h
  have hsame := Tree.touch_sameDirectories hlock
  rw [inMemory_singleton]
  cases hc : c.saves with
  | false =>
    rw [hc] at hend
    subst hend
    exact ⟨hrates, hsame, ⟨_, hlock⟩, by simp, fun _ => read_lock hlock⟩
  | true =>
    rw [hc, if_pos rfl] at hend
    have hreplace : CanReplace v path := ⟨_, _, hend⟩
    exact ⟨hrates, hsame.trans (Tree.replace_sameDirectories hend), ⟨_, hlock⟩,
      fun _ => ⟨hreplace.congr hsame.symm, Tree.read_replace hend⟩, by simp⟩

/-- The file holds the state in memory after every completed session. -/
theorem heldBy_run {s : RateState} {t u : Tree} {path : String} {c : Session}
    {rates : List (Except RateError Float)} (hs : s.Writable) (hheld : s.HeldBy t path)
    (h : c.runOn t path = (.ok rates, u)) : (inMemory s [c]).HeldBy u path := by
  obtain ⟨-, -, -, hsaved, hdropped⟩ := run_ok hs hheld h
  cases hc : c.saves with
  | false =>
    rw [inMemory_singleton, hc]
    exact hheld.congr (hdropped hc)
  | true => exact .inr (hsaved hc).2

/-- A session completes where its lock can be held and its file replaced. -/
theorem exists_run {s : RateState} {t : Tree} {path : String} {c : Session} (hs : s.Writable)
    (hheld : s.HeldBy t path) (hlock : CanLock t path)
    (hreplace : c.saves = true → CanReplace t path) :
    ∃ rates u, c.runOn t path = (.ok rates, u) := by
  obtain ⟨v, hv⟩ := hlock
  have hsame := Tree.touch_sameDirectories hv
  cases hc : c.saves with
  | false => exact ⟨_, v, (run_eq_ok_iff hs hheld c _).2 ⟨rfl, v, hv, by rw [hc]; rfl⟩⟩
  | true =>
    obtain ⟨_, _, hw⟩ := hreplace hc
    obtain ⟨u, hu⟩ := hsame.replace hw (Document.toBytes (s.observeAll c.observations).2)
    exact ⟨_, u, (run_eq_ok_iff hs hheld c _).2 ⟨rfl, v, hv, by rw [hc]; exact hu⟩⟩

theorem runAllOn_cons (t : Tree) (path : String) (c : Session) (cs : List Session) :
    runAllOn t path (c :: cs) =
      match c.runOn t path with
      | (.error cause, u) => (.error cause, u)
      | (.ok rates, u) => ((runAllOn u path cs).1.map (rates :: ·), (runAllOn u path cs).2) := by
  have hrun : (c.run path : StateM Tree (Except StoreError (List (Except RateError Float)))) t =
    c.runOn t path := rfl
  rw [runAllOn, runAll]
  simp only [bind, StateT.bind]
  rw [hrun]
  rcases c.runOn t path with ⟨_ | _, _⟩ <;> rfl

/-- Sessions complete if the first does and the others do after it. -/
theorem runAllOn_cons_eq_ok_iff {t w : Tree} {path : String} {c : Session} {cs : List Session}
    {results : List (List (Except RateError Float))} :
    runAllOn t path (c :: cs) = (.ok results, w) ↔
      ∃ rates u later, c.runOn t path = (.ok rates, u) ∧ runAllOn u path cs = (.ok later, w) ∧
        results = rates :: later := by
  rw [runAllOn_cons]
  rcases c.runOn t path with ⟨cause | rates, u⟩
  · simp
  · rcases hlater : runAllOn u path cs with ⟨cause | later, v⟩
    · simp [hlater, Except.map]
    · simp [hlater, Except.map]
      grind

theorem runAllOn_append_eq_ok {t w : Tree} {path : String} {before after : List Session}
    {results : List (List (Except RateError Float))}
    (h : runAllOn t path (before ++ after) = (.ok results, w)) :
    ∃ earlier u later, runAllOn t path before = (.ok earlier, u) ∧
      runAllOn u path after = (.ok later, w) ∧ results = earlier ++ later := by
  induction before generalizing t results with
  | nil => exact ⟨[], t, results, rfl, h, rfl⟩
  | cons c before ih =>
    obtain ⟨rates, u, others, hrun, hothers, rfl⟩ := runAllOn_cons_eq_ok_iff.1 h
    obtain ⟨earlier, v, later, hbefore, hafter, rfl⟩ := ih hothers
    exact ⟨rates :: earlier, v, later,
      runAllOn_cons_eq_ok_iff.2 ⟨rates, u, earlier, hrun, hbefore, rfl⟩, hafter, rfl⟩

/-- Every timestamp that some sessions save reads back from its text. -/
def Savable (cs : List Session) : Prop :=
  ∀ c ∈ cs, c.saves = true → ∀ o ∈ c.observations, Json.ReadsBack o.timestamp

theorem Savable.head {c : Session} {cs : List Session} (h : Savable (c :: cs)) : Savable [c] := by
  intro d hd
  rw [List.mem_singleton] at hd
  exact hd ▸ h c List.mem_cons_self

theorem Savable.tail {c : Session} {cs : List Session} (h : Savable (c :: cs)) : Savable cs :=
  fun d hd => h d (List.mem_cons_of_mem _ hd)

theorem writable_inMemory {s : RateState} (hs : s.Writable) {cs : List Session}
    (h : Savable cs) : (inMemory s cs).Writable := by
  refine hs.observeAll fun o ho => ?_
  obtain ⟨c, hc, hco⟩ := List.mem_flatMap.1 ho
  obtain ⟨hmem, hsaves⟩ := List.mem_filter.1 hc
  exact h c hmem hsaves o hco

/-- After completed sessions the file holds the state in memory, among the same directories. -/
theorem heldBy_runAll {s : RateState} {t u : Tree} {path : String} {cs : List Session}
    {results : List (List (Except RateError Float))} (hs : s.Writable) (hcs : Savable cs)
    (hheld : s.HeldBy t path) (h : runAllOn t path cs = (.ok results, u)) :
    (inMemory s cs).HeldBy u path ∧ t.SameDirectories u := by
  induction cs generalizing s t results with
  | nil =>
    cases h
    exact ⟨hheld, .refl _⟩
  | cons c cs ih =>
    obtain ⟨rates, v, later, hrun, hlater, -⟩ := runAllOn_cons_eq_ok_iff.1 h
    obtain ⟨-, hsame, -⟩ := run_ok hs hheld hrun
    have hheld' := heldBy_run hs hheld hrun
    obtain ⟨hend, hrest⟩ := ih (writable_inMemory hs hcs.head) hcs.tail hheld' hlater
    rw [inMemory_cons]
    exact ⟨hend, hsame.trans hrest⟩

/-- Sessions on a file that holds a state complete exactly if the lock of the file can be held and,
where one of them saves, the file can be replaced. -/
theorem runAllOn_completes_iff {s : RateState} {t : Tree} {path : String} {cs : List Session}
    (hs : s.Writable) (hcs : Savable cs) (hheld : s.HeldBy t path) :
    (∃ results u, runAllOn t path cs = (.ok results, u)) ↔
      (cs ≠ [] → CanLock t path) ∧ ((∃ c ∈ cs, c.saves = true) → CanReplace t path) := by
  induction cs generalizing s t with
  | nil =>
    refine iff_of_true ⟨[], t, rfl⟩ ⟨fun hne => absurd rfl hne, ?_⟩
    rintro ⟨c, hc, -⟩
    cases hc
  | cons c cs ih =>
    have hws := writable_inMemory hs hcs.head
    constructor
    · rintro ⟨results, w, h⟩
      obtain ⟨rates, u, later, hrun, hlater, -⟩ := runAllOn_cons_eq_ok_iff.1 h
      obtain ⟨-, hsame, hlock, hsaved, -⟩ := run_ok hs hheld hrun
      have hothers := (ih hws hcs.tail (heldBy_run hs hheld hrun)).1 ⟨later, w, hlater⟩
      refine ⟨fun _ => hlock, ?_⟩
      rintro ⟨d, hd, hsaves⟩
      rcases List.mem_cons.1 hd with rfl | hd
      · exact (hsaved hsaves).1
      · exact (hothers.2 ⟨d, hd, hsaves⟩).congr hsame.symm
    · rintro ⟨hlock, hreplace⟩
      have hlock := hlock (List.cons_ne_nil c cs)
      obtain ⟨rates, u, hrun⟩ := exists_run (c := c) hs hheld hlock
        fun hc => hreplace ⟨c, List.mem_cons_self, hc⟩
      obtain ⟨-, hsame, -⟩ := run_ok hs hheld hrun
      have hsaves : (∃ c ∈ cs, c.saves = true) → CanReplace u path := by
        rintro ⟨d, hd, hsaves⟩
        exact (hreplace ⟨d, List.mem_cons_of_mem _ hd, hsaves⟩).congr hsame
      obtain ⟨later, w, hlater⟩ := (ih hws hcs.tail (heldBy_run hs hheld hrun)).2
        ⟨fun _ => hlock.congr hsame, hsaves⟩
      exact ⟨rates :: later, w, runAllOn_cons_eq_ok_iff.2 ⟨rates, u, later, hrun, hlater, rfl⟩⟩

/-- Sessions on a file act as one state in memory. They complete exactly if the lock of the file can
be held and, where one of them saves, the file can be replaced. Then each of them gives the rates
that the state in memory gives, which has made the observations of the earlier saved sessions and of
no other; after one that saves, the file loads as that state with the session's own observations,
and one that does not save leaves the bytes of the file as they were. -/
theorem sessions_as_one {s : RateState} {t : Tree} {path : String} (hheld : s.HeldBy t path)
    (hs : s.Writable) {cs : List Session} (hcs : Savable cs) :
    ((∃ results u, runAllOn t path cs = (.ok results, u)) ↔
      (cs ≠ [] → CanLock t path) ∧ ((∃ c ∈ cs, c.saves = true) → CanReplace t path)) ∧
    ∀ results u, runAllOn t path cs = (.ok results, u) →
      ∀ before c after, cs = before ++ c :: after →
        ∃ earlier rates later v w,
          runAllOn t path before = (.ok earlier, v) ∧ c.runOn v path = (.ok rates, w) ∧
          runAllOn w path after = (.ok later, u) ∧ results = earlier ++ rates :: later ∧
          rates = ((inMemory s before).observeAll c.observations).1 ∧
          (c.saves = true →
            (RateState.load path : StateM Tree (Except StoreError RateState)) w =
              (.ok (inMemory s (before ++ [c])), w)) ∧
          (c.saves = false → w.read path = v.read path) := by
  refine ⟨runAllOn_completes_iff hs hcs hheld, ?_⟩
  rintro results u h before c after rfl
  have hbefore : Savable before := fun d hd => hcs d (List.mem_append_left _ hd)
  have hc : Savable [c] := by
    intro d hd
    rw [List.mem_singleton] at hd
    exact hcs d (hd ▸ List.mem_append_right _ List.mem_cons_self)
  obtain ⟨earlier, v, others, hfirst, hothers, rfl⟩ := runAllOn_append_eq_ok h
  obtain ⟨rates, w, later, hrun, hlater, rfl⟩ := runAllOn_cons_eq_ok_iff.1 hothers
  obtain ⟨hv, -⟩ := heldBy_runAll hs hbefore hheld hfirst
  have hws := writable_inMemory hs hbefore
  obtain ⟨hrates, -, -, -, hdropped⟩ := run_ok hws hv hrun
  refine ⟨earlier, rates, later, v, w, hfirst, hrun, hlater, rfl, hrates, fun _ => ?_, hdropped⟩
  rw [inMemory_append]
  exact (heldBy_run hws hv hrun).load (writable_inMemory hws hc)

/-- A first observation that is saved. -/
def initial : Session :=
  ⟨[⟨"sda", 0, 0⟩], true⟩

/-- A later observation that is given up. -/
def abandoned : Session :=
  ⟨[⟨"sda", 3600, 50⟩], false⟩

/-- A later observation in its place. -/
def renewed : Session :=
  ⟨[⟨"sda", 3600, 100⟩], true⟩

theorem sessions_as_one_after_abandoned :
    (∅ : RateState).HeldBy ⟨["data"], ∅⟩ "counters.json" ∧ (∅ : RateState).Writable ∧
      Savable [initial, abandoned, renewed] ∧
      ∃ results u,
        runAllOn ⟨["data"], ∅⟩ "counters.json" [initial, abandoned, renewed] = (.ok results, u) ∧
        results.getLast? = some [.ok (100 / 3600)] ∧
        (RateState.load "counters.json" : StateM Tree (Except StoreError RateState)) u =
          (.ok (inMemory ∅ [initial, abandoned, renewed]), u) := by
  have hheld : (∅ : RateState).HeldBy ⟨["data"], ∅⟩ "counters.json" := .inl ⟨rfl, rfl⟩
  have hs : (∅ : RateState).Writable := fun _ _ hc => by cases hc
  have hcs : Savable [initial, abandoned, renewed] := by
    intro c hc hsaves o ho
    simp only [List.mem_cons, List.not_mem_nil, or_false] at hc
    rcases hc with rfl | rfl | rfl
    · rw [List.mem_singleton.1 ho]
      rfl
    · cases hsaves
    · rw [List.mem_singleton.1 ho]
      rfl
  obtain ⟨hcompletes, hresults⟩ := sessions_as_one hheld hs hcs
  obtain ⟨results, u, hrun⟩ := hcompletes.2 ⟨fun _ => ⟨_, rfl⟩, fun _ => ⟨[], _, rfl⟩⟩
  obtain ⟨earlier, rates, later, v, w, -, -, hlater, rfl, hrates, hload, -⟩ :=
    hresults results u hrun [initial, abandoned] renewed [] rfl
  cases hlater
  refine ⟨hheld, hs, hcs, _, _, hrun, ?_, hload rfl⟩
  rw [List.getLast?_concat, hrates]
  rfl

end Session

end DiskHealth
