/-!
Lists of values under keys, in the order in which the keys came first. The first value of a key
counts; setting a key changes that value and no other.
-/

namespace DiskHealth.Keyed

variable {α : Type u}

/-- The value of a key in a list of entries. -/
def find? (key : String) : List (String × α) → Option α
  | [] => none
  | (k, v) :: rest => if k = key then some v else find? key rest

/-- The list with the value of one key set, at the end if the key was not there. -/
def put (key : String) (value : α) : List (String × α) → List (String × α)
  | [] => [(key, value)]
  | (k, v) :: rest => if k = key then (key, value) :: rest else (k, v) :: put key value rest

end DiskHealth.Keyed
