import DiskHealth.Decimal.Number
import DiskHealth.Numeral

/-!
What the value of an attribute measures, and how it is shown: a bare count, hours as a time span in
two units, a percentage with two decimals, or bytes in the largest unit of 1024 that fits. Every
value has a text.
-/

namespace DiskHealth

/-- What an attribute's value measures. -/
inductive Quantity where
  /-- Occurrences, shown as a bare number. -/
  | count
  /-- Hours, shown as a time span. -/
  | hours
  | percent
  | bytes
  deriving DecidableEq, Repr

namespace Quantity

/-- A minus sign before the text of what is below zero. -/
def signed (negative : Bool) (text : String) : String :=
  if negative then "-" ++ text else text

/-- A count with the name of its unit, which is in the plural unless the count is one. -/
def amount (count : Nat) (unit : String) : String :=
  toString count ++ " " ++ (if count = 1 then unit else unit ++ "s")

def minute : Nat := 60

def hour : Nat := 60 * minute

def day : Nat := 24 * hour

/-- The seconds of a year of 365 days. -/
def year : Nat := 365 * day

/-- The longest time span that is told apart, in seconds. -/
def longestSpan : Nat := 0xFFFFFFFFFFFFFFFF

/-- A time span without its sign: the largest unit that occurs, with the next smaller one. -/
def spanText (total : Nat) : String :=
  if year ≤ total then amount (total / year) "year" ++ " " ++ amount (total % year / day) "day"
  else if day ≤ total then amount (total / day) "day" ++ " " ++ amount (total % day / hour) "hour"
  else if hour ≤ total then
    amount (total / hour) "hour" ++ " " ++ amount (total % hour / minute) "minute"
  else if minute ≤ total then
    amount (total / minute) "minute" ++ " " ++ amount (total % minute) "second"
  else amount total "second"

/-- A time span in its two largest units. -/
def timespan (seconds : Int) : String :=
  signed (seconds < 0) (spanText (min seconds.natAbs longestSpan))

def twoPlaces (num den : Nat) : String :=
  String.ofList (Decimal.Number.ofQuotient 2 num den).write

/-- A percentage with two decimals, as exact as a double holds it. -/
def percentage (value : Int) : String :=
  signed (value < 0) (twoPlaces (Decimal.toBinary value.natAbs) 1 ++ "%")

/-- The units of bytes above the byte itself, each 1024 times the one before. -/
def byteUnits : List String :=
  ["KiB", "MiB", "GiB", "TiB", "PiB", "EiB"]

/-- The bytes `size` in the first of the units that keeps the number below 1024, or in the last;
`scale` is the size of the first unit. -/
def inUnits (size scale : Nat) : List String → String
  | [] => ""
  | [unit] => twoPlaces size scale ++ " " ++ unit
  | unit :: next :: units =>
    if size < 1024 * scale then twoPlaces size scale ++ " " ++ unit
    else inUnits size (1024 * scale) (next :: units)

/-- A number of bytes, in the largest unit that it reaches, as exact as a double holds it. -/
def byteText (value : Int) : String :=
  signed (value < 0) <|
    if value.natAbs < 1024 then toString value.natAbs ++ " B"
    else inUnits (Decimal.toBinary value.natAbs) 1024 byteUnits

def render (quantity : Quantity) (value : Int64) : String :=
  match quantity with
  | count => Numeral.ofWord value
  | hours => timespan (value.toInt * hour)
  | percent => percentage value.toInt
  | bytes => byteText value.toInt

end Quantity

end DiskHealth
