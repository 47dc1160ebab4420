import DiskHealth.Check.Assessment
import DiskHealth.Discovery
import DiskHealth.Rate.Key
import DiskHealth.Rate.State

/-!
Evaluation of items against their baselines. Every recognized attribute of the current reading gives
one result, in catalog order, by the rule of its policy. One without a reference is informational.
Of all this only the counter of command timeouts touches the rate state.
-/

namespace DiskHealth

/-- Why an item has no outcome in a cycle. -/
inductive CheckError where
  /-- The rate of its counter is not known yet. -/
  | rate (item : String) (cause : RateError)
  /-- The item was asked for, but never discovered. -/
  | unknownItem (item : String)
  deriving DecidableEq, Repr

namespace CheckError

def item : CheckError → String
  | rate item _ => item
  | unknownItem item => item

def reason : CheckError → String
  | rate _ cause => cause.message
  | unknownItem _ => "not among the discovered items"

def message (e : CheckError) : String :=
  e.item ++ ": " ++ e.reason

end CheckError

/-- One cycle of checks: its name and its time. -/
structure Cycle where
  /-- The name of the check, which is part of every counter's key. -/
  check : String
  /-- The time of the cycle, in seconds since the epoch. -/
  now : Float

namespace Cycle

/-- What an attribute's value is compared with. -/
def reference? (r : Reading) (b : Baseline) (a : Attribute) : Option Int64 :=
  match a.policy with
  | .spareThreshold => r.get? Attribute.spareThresholdName
  | _ => b.value? a

/-- The assessment of an attribute that has a reference, apart from the rate-limited one. -/
def compare (r : Reading) (a : Attribute) (value reference : Int64) : Assessment :=
  match a.policy with
  | .spareThreshold => .below value reference
  | .normalizedCrossCheck =>
    let raw := Assessment.exceeds value reference
    match r.reallocatedEvents with
    | some pair => raw.crossCheck pair
    | none => raw
  | _ => .exceeds value reference

/-- The assessment of one attribute, with the rate state after it. -/
def assess (c : Cycle) (item : String) (r : Reading) (b : Baseline) (a : Attribute) (value : Int64)
    (rates : RateState) : Except CheckError Assessment × RateState :=
  match reference? r b a with
  | none => (.ok .informational, rates)
  | some reference =>
    if a.policy = .rateLimited then
      match rates.observe (RateKey.ofTimeouts c.check item) c.now value with
      | (.ok rate, rates) => (.ok (.rateLimited rate reference), rates)
      | (.error cause, rates) => (.error (.rate item cause), rates)
    else (.ok (compare r a value reference), rates)

def resultOf (a : Attribute) (value : Int64) (assessment : Assessment) : AttributeResult :=
  { subject := a
    verdict := assessment.verdict
    summary := assessment.summary a.label (a.render value)
    metric := ⟨a.name, value⟩ }

/-- The results for some attributes of a reading, in order, up to the first that has no rate. -/
def evaluate (c : Cycle) (item : String) (r : Reading) (b : Baseline) :
    List Attribute → RateState → Except CheckError (List AttributeResult) × RateState
  | [], rates => (.ok [], rates)
  | a :: rest, rates =>
    match r.value? a with
    | none => evaluate c item r b rest rates
    | some value =>
      if a.policy = .skipped then evaluate c item r b rest rates
      else
        match c.assess item r b a value rates with
        | (.error e, rates) => (.error e, rates)
        | (.ok assessment, rates) =>
          match evaluate c item r b rest rates with
          | (.error e, rates) => (.error e, rates)
          | (.ok results, rates) => (.ok (resultOf a value assessment :: results), rates)

/-- The outcome of one item. An item whose device has no reading has no results. -/
def checkItem (c : Cycle) (item : String) (b : Baseline) (s : Section) (rates : RateState) :
    Except CheckError Outcome × RateState :=
  match s.get? item with
  | none => (.ok ⟨item, []⟩, rates)
  | some r =>
    match c.evaluate item r b Attribute.all rates with
    | (.error e, rates) => (.error e, rates)
    | (.ok results, rates) => (.ok ⟨item, results⟩, rates)

abbrev ItemCheck := Except CheckError Outcome

/-- What a cycle has for some items, in order. -/
def checkItems (c : Cycle) (s : Section) :
    List (String × Baseline) → RateState → List ItemCheck × RateState
  | [], rates => ([], rates)
  | (item, b) :: rest, rates =>
    let (first, rates) := c.checkItem item b s rates
    let (others, rates) := checkItems c s rest rates
    (first :: others, rates)

/-- The items that a cycle is limited to. -/
def selected (store : BaselineStore) : Option String → List (String × Baseline)
  | none => store.toList
  | some item => store.toList.filter (·.1 == item)

/-- What a cycle has for the items of a store, or for one of them. One that is not stored has no
outcome. -/
def checkAll (c : Cycle) (store : BaselineStore) (s : Section) (only : Option String)
    (rates : RateState) : List ItemCheck × RateState :=
  match only, c.checkItems s (selected store only) rates with
  | some item, ([], rates) => ([.error (.unknownItem item)], rates)
  | _, checks => checks

end Cycle

end DiskHealth
