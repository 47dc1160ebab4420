import DiskHealth.Outcome
import DiskHealth.Reading

/-!
Assessments: the verdict on one attribute, with the hints that explain it in the summary.
-/

namespace DiskHealth

/-- A verdict with the hints to it. -/
structure Assessment where
  verdict : Verdict := .normal
  /-- What the summary adds to the value. -/
  hints : List String := []
  deriving DecidableEq, Repr

namespace Assessment

/-- The mark after what made a verdict critical. -/
def alarm : String :=
  " (!!)"

/-- The assessment of a value that is compared with nothing. -/
def informational : Assessment :=
  {}

/-- The assessment by a condition, with one hint if it holds. -/
def criticalIf (condition : Bool) (hint : String) : Assessment :=
  { verdict := .criticalIf condition, hints := if condition then [hint] else [] }

/-- The hint that gives the value compared with. -/
def discoveryHint (reference : Int64) : String :=
  "during discovery: " ++ Numeral.ofWord reference ++ alarm

def exceeds (value reference : Int64) : Assessment :=
  criticalIf (reference < value) (discoveryHint reference)

def below (value reference : Int64) : Assessment :=
  criticalIf (value < reference) (discoveryHint reference)

/-- The assessment with the verdict of a normalized pair in place of its own. The hints stay. -/
def crossCheck (a : Assessment) (pair : NormalizedPair) : Assessment :=
  let hint := "normalized value: " ++ Numeral.ofWord pair.value
  { verdict := .criticalIf pair.isFailing
    hints := a.hints ++ [if pair.isFailing then hint ++ alarm else hint] }

/-- The most command timeouts that an hour may bring. -/
def maxTimeoutsPerHour : Int64 := 100

/-- The same in counts per second. -/
def maxTimeoutRate : Float := Float.ofInt maxTimeoutsPerHour.toInt / (60 * 60)

/-- The hint of a counter that rises too fast. -/
def rateHint (reference : Int64) : String :=
  "counter increased more than " ++ Numeral.ofWord maxTimeoutsPerHour ++ " counts / h" ++ alarm ++
    ". Value during discovery was: " ++ Numeral.ofWord reference

/-- Critical above the greatest rate. -/
def rateLimited (rate : Float) (reference : Int64) : Assessment :=
  criticalIf (maxTimeoutRate < rate) (rateHint reference)

/-- The hints in parentheses, if there are any. -/
def hintText : List String → String
  | [] => ""
  | hints => " (" ++ ", ".intercalate hints ++ ")"

/-- The summary of an attribute: its label and its value, with the hints. -/
def summary (a : Assessment) (label rendered : String) : String :=
  label ++ ": " ++ rendered ++ hintText a.hints

end Assessment

end DiskHealth
