import DiskHealth.Proofs.Check.Independence
import DiskHealth.Proofs.Command.Discover
import DiskHealth.Proofs.Rate.Lock

/-!
Runs of a check over the files of a tree. A run that fails does so before anything is saved, when
nothing has changed but, at most, that the lock was made. One that completes went through all its
accesses and saves the counters that the cycle leaves, whatever it found (`checkItems_cases`); these
are the loaded ones with the observations of the checked items (`Cycle.records_checkAll`).
-/

namespace DiskHealth

open Files

variable {t u : Tree} {r : Refusals} {path : String}

/-! ### The counters of a cycle -/

namespace Cycle

/-- The counters after some items were checked are those before, with the observation of every item
that has one under its key. -/
structure Records (c : Cycle) (s : Section) (items : List (String × Baseline))
    (before after : RateState) : Prop where
  made : ∀ e ∈ items, ∀ value, observation? s e.1 e.2 = some value →
    after.get? (RateKey.ofTimeouts c.check e.1) = some ⟨c.now, value⟩
  kept : ∀ key, (∀ e ∈ items, RateKey.ofTimeouts c.check e.1 = key →
    observation? s e.1 e.2 = none) → after.get? key = before.get? key

theorem records_checkAll (c : Cycle) (store : BaselineStore) (s : Section) (only : Option String)
    (before : RateState) :
    c.Records s (selected store only) before (c.checkAll store s only before).2 := by
  rw [checkAll_snd]
  constructor
  · intro e he value ho
    exact get?_checkItems_of_mem c (nodup_selected store only) he ho
  · intro key hquiet
    exact get?_checkItems_of_quiet c hquiet

theorem Records.writable {c : Cycle} {s : Section} {items : List (String × Baseline)}
    {before after : RateState} (h : c.Records s items before after) (hbefore : before.Writable)
    (hnow : Json.ReadsBack c.now) : after.Writable := by
  intro key counter hcounter
  by_cases hquiet : ∀ e ∈ items, RateKey.ofTimeouts c.check e.1 = key →
      observation? s e.1 e.2 = none
  · rw [h.kept key hquiet] at hcounter
    exact hbefore key counter hcounter
  · simp only [Classical.not_forall] at hquiet
    obtain ⟨e, he, rfl, ho⟩ := hquiet
    obtain ⟨value, ho⟩ := Option.ne_none_iff_exists'.1 ho
    rw [h.made e he value ho] at hcounter
    cases hcounter
    exact hnow

end Cycle

namespace Command

variable {files : CheckFiles} {check : String} {only : Option String} {now? : Option Float}

theorem run_checkItems (t : Tree) (r : Refusals) (now? : Option Float) (files : CheckFiles)
    (check : String) (only : Option String) :
    t.run r (checkItems (pure now?) files check only) =
      match (t.run r (readTelemetry files.telemetry)).1 with
      | .error e => (.error e, t)
      | .ok readings =>
        match (t.run r (BaselineStore.load files.baselines)).1 with
        | .error cause => (.error (.baselines cause), t)
        | .ok store =>
          match t.run r (LockedRates.acquire files.rateState) with
          | (.error cause, v) => (.error (.rates files.rateState cause), v)
          | (.ok held, v) =>
            match now? with
            | none => (.error .clockBeforeEpoch, v)
            | some now =>
              let (checks, state) := (Cycle.mk check now).checkAll store readings only held.state
              match v.run r (RateState.save held.path state) with
              | (.error cause, w) => (.error (.savingRates files.rateState cause), w)
              | (.ok (), w) => (.ok (.ofChecks checks), w) := by
  have hload : (t.run r (BaselineStore.load files.baselines)).2 = t := rfl
  rw [checkItems, Tree.run_bind, readTelemetry_snd]
  cases (t.run r (readTelemetry files.telemetry)).1 with
  | error e => rfl
  | ok readings =>
    simp only [Tree.run_bind, hload]
    cases (t.run r (BaselineStore.load files.baselines)).1 with
    | error cause => rfl
    | ok store =>
      simp only [Tree.run_bind]
      rcases t.run r (LockedRates.acquire files.rateState) with ⟨cause | held, v⟩
      · rfl
      · cases now? with
        | none => rfl
        | some now =>
          simp only [Tree.run_bind, Tree.run_pure, LockedRates.commit]
          generalize v.run r (RateState.save held.path _) = saved
          rcases saved with ⟨_ | _, w⟩ <;> rfl

/-- A run either fails before anything is saved, or there is a time and all its accesses succeed. -/
theorem checkItems_cases {result : Except RunError Report}
    (h : t.run r (checkItems (pure now?) files check only) = (result, u)) :
    (∃ e, result = .error e) ∧
      (u = t ∨ t.touch (LockedRates.lockPath files.rateState) = .ok u) ∨
    ∃ now readings store before v, now? = some now ∧
      t.run r (readTelemetry files.telemetry) = (.ok readings, t) ∧
      t.run r (BaselineStore.load files.baselines) = (.ok store, t) ∧
      t.run r (FileAccess.lock (LockedRates.lockPath files.rateState)) = (.ok (), v) ∧
      t.run r (RateState.load files.rateState) = (.ok before, t) ∧
      v.run r (RateState.save files.rateState
        ((Cycle.mk check now).checkAll store readings only before).2) = (.ok (), u) ∧
      result = .ok (.ofChecks ((Cycle.mk check now).checkAll store readings only before).1) := by
  rw [run_checkItems] at h
  split at h
  · cases h
    exact .inl ⟨⟨_, rfl⟩, .inl rfl⟩
  rename_i readings hread
  split at h
  · cases h
    exact .inl ⟨⟨_, rfl⟩, .inl rfl⟩
  rename_i store hstore
  split at h
  · rename_i hacquire
    cases h
    exact .inl ⟨⟨_, rfl⟩, LockedRates.acquire_failed hacquire⟩
  rename_i held v hacquire
  obtain ⟨hlock, before, hload, rfl⟩ := LockedRates.run_acquire_eq_ok_iff.1 hacquire
  cases now? with
  | none =>
    cases h
    exact .inl ⟨⟨_, rfl⟩, .inr (Tree.touch_of_lock hlock)⟩
  | some now =>
    dsimp only at h
    split at h
    · rename_i hsave
      cases h
      cases Document.eq_of_save_failed hsave
      exact .inl ⟨⟨_, rfl⟩, .inr (Tree.touch_of_lock hlock)⟩
    · rename_i hsave
      cases h
      exact .inr ⟨now, readings, store, before, v, rfl, Prod.ext hread (readTelemetry_snd t r _),
        Prod.ext hstore rfl, hlock, hload, hsave, rfl⟩

theorem run_checkItems_of_accesses {now : Float} {readings : Section} {store : BaselineStore}
    {before : RateState} (hread : t.run r (readTelemetry files.telemetry) = (.ok readings, t))
    (hstore : t.run r (BaselineStore.load files.baselines) = (.ok store, t))
    (hlock : t.run r (FileAccess.lock (LockedRates.lockPath files.rateState)) = (.ok (), v))
    (hload : t.run r (RateState.load files.rateState) = (.ok before, t))
    (hsave : v.run r (RateState.save files.rateState
      ((Cycle.mk check now).checkAll store readings only before).2) = (.ok (), u)) :
    t.run r (checkItems (pure (some now)) files check only) =
      (.ok (.ofChecks ((Cycle.mk check now).checkAll store readings only before).1), u) := by
  have hacquire := LockedRates.run_acquire_eq_ok_iff.2 ⟨hlock, before, hload, rfl⟩
  simp only [run_checkItems, hread, hstore, hacquire, hsave]

/-- Whatever a check finds, it touches the lock and the counters only. -/
theorem checkItems_sameBut {result : Except RunError Report}
    (h : t.run r (checkItems (pure now?) files check only) = (result, u)) :
    t.SameBut [LockedRates.lockPath files.rateState, files.rateState] u := by
  rcases checkItems_cases h with
    ⟨-, rfl | hlock⟩ | ⟨_, _, _, _, v, -, -, -, hlock, -, hsave, -⟩
  · exact .refl _ u
  · exact (Tree.touch_sameBut hlock).trans (.refl [files.rateState] u)
  · have htouch := Tree.touch_sameBut (Tree.touch_of_lock hlock)
    exact htouch.trans (Tree.replace_sameBut (Document.run_save_eq_ok_iff.1 hsave).2)

namespace CheckFiles

/-- The files of a check are apart from each other and from the lock. -/
def Apart (files : CheckFiles) (t : Tree) : Prop :=
  [files.telemetry, files.baselines, files.rateState,
    LockedRates.lockPath files.rateState].Pairwise t.Apart

/-- Every access of a check succeeds. -/
structure Accessible (files : CheckFiles) (t : Tree) (r : Refusals) : Prop where
  telemetry : t.Succeeds r (readTelemetry files.telemetry)
  baselines : t.Succeeds r (BaselineStore.load files.baselines)
  lock : t.Succeeds r (FileAccess.lock (LockedRates.lockPath files.rateState))
  counters : t.Succeeds r (RateState.load files.rateState)
  save : t.Succeeds r (RateState.save files.rateState ∅)

end CheckFiles

theorem checkItems_completes_iff {result : Except RunError Report}
    (h : t.run r (checkItems (pure now?) files check only) = (result, u)) :
    (∃ report, result = .ok report) ↔ (∃ now, now? = some now) ∧ files.Accessible t r := by
  constructor
  · rintro ⟨report, rfl⟩
    rcases checkItems_cases h with
      ⟨⟨e, he⟩, -⟩ | ⟨now, readings, store, before, v, hnow, hread, hstore, hlock, hload, hsave, -⟩
    · cases he
    have hsame := Tree.touch_sameDirectories (Tree.touch_of_lock hlock)
    refine ⟨⟨now, hnow⟩, ?_⟩
    exact {
      telemetry := ⟨_, congrArg Prod.fst hread⟩
      baselines := ⟨_, congrArg Prod.fst hstore⟩
      lock := ⟨_, congrArg Prod.fst hlock⟩
      counters := ⟨_, congrArg Prod.fst hload⟩
      save := Document.succeeds_save hsame.symm ⟨_, congrArg Prod.fst hsave⟩ }
  · rintro ⟨⟨now, rfl⟩, ⟨readings, hread⟩, ⟨store, hstore⟩, hlock, ⟨before, hload⟩, hsave⟩
    have hread : t.run r (readTelemetry files.telemetry) = (.ok readings, t) :=
      Prod.ext hread (readTelemetry_snd t r _)
    obtain ⟨⟨⟩, v, hlock⟩ := hlock.run_eq
    have hsame := Tree.touch_sameDirectories (Tree.touch_of_lock hlock)
    have hsave : v.Succeeds r
        (RateState.save files.rateState
          ((Cycle.mk check now).checkAll store readings only before).2) :=
      Document.succeeds_save hsame hsave
    obtain ⟨⟨⟩, w, hsave⟩ := hsave.run_eq
    have hrun := run_checkItems_of_accesses hread (Prod.ext hstore rfl) hlock
      (Prod.ext hload rfl) hsave
    exact ⟨_, congrArg Prod.fst (h.symm.trans hrun)⟩

/-- A check changes its files in one step or not at all, whatever time the clock gives, if any.
Whatever happens, the telemetry and the baselines stay as they are. A check that fails leaves the
counters too, and nothing is new but, at most, the lock. One that completes leaves the counters as
they were loaded, with the observations of this cycle, and has changed no other file. -/
theorem checkItems_atomic {result : Except RunError Report} (hapart : files.Apart t)
    (hrun : t.run r (checkItems (pure now?) files check only) = (result, u)) :
    u.bytes? files.telemetry = t.bytes? files.telemetry ∧
    u.bytes? files.baselines = t.bytes? files.baselines ∧
    ((∃ report, result = .ok report) ↔ (∃ now, now? = some now) ∧ files.Accessible t r) ∧
    (∀ e, result = .error e →
      u.bytes? files.rateState = t.bytes? files.rateState ∧
      (u = t ∨ t.touch (LockedRates.lockPath files.rateState) = .ok u)) ∧
    ∀ report, result = .ok report →
      ∃ now readings store before after v, now? = some now ∧
        t.run r (readTelemetry files.telemetry) = (.ok readings, t) ∧
        t.run r (BaselineStore.load files.baselines) = (.ok store, t) ∧
        t.run r (RateState.load files.rateState) = (.ok before, t) ∧
        report = .ofChecks ((Cycle.mk check now).checkAll store readings only before).1 ∧
        (Cycle.mk check now).Records readings (Cycle.selected store only) before after ∧
        t.touch (LockedRates.lockPath files.rateState) = .ok v ∧
        v.SameBut [files.rateState] u ∧
        u.bytes? files.rateState = some (Document.toBytes after) ∧
        (before.Writable → Json.ReadsBack now →
          u.run r (RateState.load files.rateState) = (.ok after, u)) := by
  have hsame := checkItems_sameBut hrun
  obtain ⟨htelemetry, hrest⟩ := List.pairwise_cons.1 hapart
  obtain ⟨hbaselines, -⟩ := List.pairwise_cons.1 hrest
  simp only [List.forall_mem_cons] at htelemetry hbaselines
  refine ⟨hsame.bytes?_eq ?_, hsame.bytes?_eq ?_, checkItems_completes_iff hrun, ?_, ?_⟩
  · simp [htelemetry]
  · simp [hbaselines]
  · rintro e rfl
    rcases checkItems_cases hrun with ⟨-, hend⟩ | ⟨_, _, _, _, _, -, -, -, -, -, -, hok⟩
    · refine ⟨?_, hend⟩
      rcases hend with rfl | hlock
      · rfl
      · rw [Tree.bytes?, Session.read_lock hlock, Tree.bytes?]
    · cases hok
  · rintro report rfl
    rcases checkItems_cases hrun with ⟨⟨e, he⟩, -⟩ |
      ⟨now, readings, store, before, v, rfl, hread, hstore, hlock, hload, hsave, hreport⟩
    · cases he
    cases hreport
    have hput := (Document.run_save_eq_ok_iff.1 hsave).2
    have hbytes := Tree.read_replace hput
    have hrecords := (Cycle.mk check now).records_checkAll store readings only before
    refine ⟨now, readings, store, before, _, v, rfl, hread, hstore, hload, rfl, hrecords,
      Tree.touch_of_lock hlock, Tree.replace_sameBut hput, Tree.read_eq_ok_iff.1 hbytes,
      fun hbefore hnow => ?_⟩
    have hallowed := RateState.allowed_of_load (congrArg Prod.fst hload)
    exact RateState.load_of_read (hrecords.writable hbefore hnow) hallowed hbytes

/-- An agent's output with a counter of command timeouts. -/
def timeouts : String :=
  "<<<smart>>>\n/dev/sda ATA DISK 188 Command_Timeout 0x0032 100 100 0 Old_age Always - 7\n"

def captured : BaselineStore :=
  .ofItems [⟨"/dev/sda", .ofList [(Attribute.commandTimeoutCounter.name, 5)]⟩]

/-- The output beside the store of its disk, before there are counters. -/
def beforeCounters : Tree where
  home := ["data"]
  entries := .ofList [("data/agent.txt", .file (Text.Utf8.ofString timeouts)),
    ("data/baselines.json", .file (Document.toBytes captured))]

def sideBySide : CheckFiles :=
  ⟨"agent.txt", "baselines.json", "counters.json"⟩

theorem checkItems_atomic_pending :
    ∃ report u after,
      beforeCounters.run .nothing
        (checkItems (pure (some 3600)) sideBySide "smart_stats" none) = (.ok report, u) ∧
      u.run .nothing (RateState.load "counters.json") = (.ok after, u) ∧
      after.get? "smart_stats./dev/sda.cmd_timeout" = some ⟨3600, 7⟩ := by
  have hapart : sideBySide.Apart beforeCounters := by
    simp only [CheckFiles.Apart, List.pairwise_cons, List.forall_mem_cons, List.not_mem_nil,
      false_imp_iff, implies_true, and_true, List.Pairwise.nil]
    refine ⟨⟨?_, ?_, ?_⟩, ⟨?_, ?_⟩, ?_⟩
    all_goals exact Tree.apart_of_places rfl rfl (by decide)
  have hread : beforeCounters.run .nothing (readTelemetry "agent.txt") =
      (.ok (Telemetry.parseOutput timeouts), beforeCounters) := run_readTelemetry_of_text rfl rfl
  have hstore : beforeCounters.run .nothing (BaselineStore.load "baselines.json") =
      (.ok captured, beforeCounters) := BaselineStore.load_of_read rfl rfl
  have hlock : beforeCounters.Succeeds .nothing (FileAccess.lock "counters.json.lock") :=
    ⟨(), rfl⟩
  have hload : beforeCounters.run .nothing (RateState.load "counters.json") =
      (.ok ∅, beforeCounters) := rfl
  have hsave : beforeCounters.Succeeds .nothing (RateState.save "counters.json" ∅) :=
    Document.succeeds_save_iff.2 ⟨rfl, rfl, _, rfl⟩
  rcases hrun : beforeCounters.run .nothing
    (checkItems (pure (some 3600)) sideBySide "smart_stats" none) with ⟨result, u⟩
  obtain ⟨-, -, hcompletes, -, hcompleted⟩ := checkItems_atomic hapart hrun
  obtain ⟨report, rfl⟩ := hcompletes.2
    ⟨⟨3600, rfl⟩, ⟨_, congrArg Prod.fst hread⟩, ⟨_, congrArg Prod.fst hstore⟩, hlock,
      ⟨_, congrArg Prod.fst hload⟩, hsave⟩
  obtain ⟨now, readings, store, before, after, -, htime, hread', hstore', hload', -, hrecords, -, -,
    -, hafter⟩ := hcompleted report rfl
  obtain rfl := Option.some.inj htime
  obtain rfl := Except.ok.inj (Prod.mk.inj (hread.symm.trans hread')).1
  obtain rfl := Except.ok.inj (Prod.mk.inj (hstore.symm.trans hstore')).1
  obtain rfl := Except.ok.inj (Prod.mk.inj (hload.symm.trans hload')).1
  refine ⟨report, u, after, rfl, hafter (fun _ _ hc => by cases hc) rfl, ?_⟩
  exact hrecords.made ("/dev/sda", .ofList [(Attribute.commandTimeoutCounter.name, 5)])
    (Cycle.mem_selected_iff.2 ⟨rfl, nofun⟩) 7 (by decide +kernel)

end Command

end DiskHealth
