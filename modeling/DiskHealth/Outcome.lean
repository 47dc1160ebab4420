import DiskHealth.Attribute

/-!
Outcomes of an evaluation: a verdict, a summary and a metric for every attribute that was judged.
The verdict of an outcome is the worst of its results, so it is critical exactly if one of them is
(`verdict_eq_critical_iff`).
-/

namespace DiskHealth

/-- What an evaluation finds. -/
inductive Verdict where
  | normal
  | critical
  deriving DecidableEq, Repr

namespace Verdict

/-- The verdict's mark in text reports. -/
def symbol : Verdict → String
  | normal => "OK"
  | critical => "CRIT"

def criticalIf (condition : Bool) : Verdict :=
  if condition then critical else normal

/-- Whether the verdict is critical. -/
def isCritical : Verdict → Bool
  | normal => false
  | critical => true

/-- The worst of some verdicts; normal, if there are none. -/
def worst (vs : List Verdict) : Verdict :=
  criticalIf (vs.any isCritical)

theorem criticalIf_eq_critical_iff {condition : Bool} :
    criticalIf condition = critical ↔ condition = true := by
  cases condition <;> simp [criticalIf]

theorem worst_eq_critical_iff {vs : List Verdict} : worst vs = critical ↔ critical ∈ vs := by
  rw [worst, criticalIf_eq_critical_iff, List.any_eq_true]
  constructor
  · rintro ⟨v, hv, hc⟩
    cases v
    · simp [isCritical] at hc
    · exact hv
  · exact fun h => ⟨_, h, rfl⟩

end Verdict

/-- A named number for monitoring. -/
structure Metric where
  name : String
  value : Int64
  deriving DecidableEq, Repr

/-- What an evaluation found for one attribute. -/
structure AttributeResult where
  subject : Attribute
  verdict : Verdict
  summary : String
  metric : Metric
  deriving DecidableEq, Repr

/-- What an evaluation found for one item. -/
structure Outcome where
  /-- The item, which is the identifier of its device. -/
  item : String
  /-- The results, in catalog order of their attributes. -/
  results : List AttributeResult
  deriving DecidableEq, Repr

namespace Outcome

/-- The worst verdict of the results. -/
def verdict (o : Outcome) : Verdict :=
  .worst (o.results.map (·.verdict))

/-- The first result for an attribute. -/
def result? (o : Outcome) (a : Attribute) : Option AttributeResult :=
  o.results.find? (·.subject == a)

def critical (o : Outcome) : List AttributeResult :=
  o.results.filter (·.verdict.isCritical)

/-- An outcome is critical exactly if one of its results is. -/
theorem verdict_eq_critical_iff {o : Outcome} :
    o.verdict = .critical ↔ ∃ r ∈ o.results, r.verdict = .critical := by
  simp [verdict, Verdict.worst_eq_critical_iff]

end Outcome

end DiskHealth
