/-!
Keys of counters. A key joins the name of a check, an item and the name of a counter by dots; checks
with different names can share one file of counters.
-/

namespace DiskHealth

/-- The key of one counter of one item under one check. -/
structure RateKey where
  check : String
  item : String
  counter : String
  deriving DecidableEq, Repr

namespace RateKey

/-- The name of a check that was given none. -/
def defaultCheck : String :=
  "smart_stats"

/-- The counter of command timeouts. -/
def commandTimeouts : String :=
  "cmd_timeout"

def render (k : RateKey) : String :=
  k.check ++ "." ++ k.item ++ "." ++ k.counter

/-- The text of the key of an item's command timeouts. -/
def ofTimeouts (check item : String) : String :=
  render ⟨check, item, commandTimeouts⟩

end RateKey

end DiskHealth
