import DiskHealth.Check.Evaluation
import DiskHealth.Json.Records

/-!
Reports of check cycles: the outcomes of the items that were evaluated and the reasons of those that
wait for a later cycle, as text and as JSON. A cycle with a critical result has exit code two.
-/

namespace DiskHealth

/-- An item without outcome, and why. -/
structure PendingItem where
  item : String
  reason : String
  deriving DecidableEq, Repr

/-- What one cycle of checks found. -/
structure Report where
  /-- The outcomes, in order of the cycle. -/
  outcomes : List Outcome := []
  /-- The items without outcome, in order of the cycle. -/
  pending : List PendingItem := []
  deriving DecidableEq, Repr

instance : Json.Form PendingItem where
  encode p := .ofMembers [("item", Json.encode p.item), ("reason", Json.encode p.reason)]
  decode v := do
    let [item, reason] ← Json.fields? ["item", "reason"] v | none
    return ⟨← Json.required? item, ← Json.required? reason⟩

instance : Json.Form Report where
  encode r := .ofMembers [("outcomes", Json.encode r.outcomes), ("pending", Json.encode r.pending)]
  decode v := do
    let [outcomes, pending] ← Json.fields? ["outcomes", "pending"] v | none
    return ⟨← Json.required? outcomes, ← Json.required? pending⟩

namespace Report

/-- An item without outcome, with its reason in words. -/
def pending? : Cycle.ItemCheck → Option PendingItem
  | .ok _ => none
  | .error e => some ⟨e.item, e.reason⟩

/-- The report of what a cycle has for its items. -/
def ofChecks (checks : List Cycle.ItemCheck) : Report :=
  { outcomes := checks.filterMap Except.toOption, pending := checks.filterMap pending? }

/-- The worst verdict of the outcomes. -/
def verdict (r : Report) : Verdict :=
  .worst (r.outcomes.map (·.verdict))

/-- Two for a critical report, zero for any other. -/
def exitCode (r : Report) : Nat :=
  if r.verdict.isCritical then 2 else 0

/-- A line with an item in brackets. -/
def headed (item text : String) : String :=
  "[" ++ item ++ "] " ++ text

/-- The two lines of a result: its summary and its metric. -/
def resultLines (r : AttributeResult) : List String :=
  [r.verdict.symbol ++ " - " ++ r.summary,
    "metric " ++ r.metric.name ++ "=" ++ Numeral.ofWord r.metric.value]

/-- The line under an item without results. -/
def absentLine : String :=
  "device not present in current reading"

/-- The lines of an outcome: its item with the worst verdict, and its results. -/
def outcomeLines (o : Outcome) : List String :=
  headed o.item o.verdict.symbol ::
    if o.results.isEmpty then [absentLine] else o.results.flatMap resultLines

/-- The line of an item without outcome. -/
def pendingLine (p : PendingItem) : String :=
  headed p.item ("PENDING - " ++ p.reason)

def lines (r : Report) : List String :=
  r.outcomes.flatMap outcomeLines ++ r.pending.map pendingLine

/-- The text of a report, each line with its line feed. -/
def text (r : Report) : String :=
  String.join (r.lines.map (· ++ "\n"))

def json (r : Report) : String :=
  Json.prettyText r

end Report

end DiskHealth
