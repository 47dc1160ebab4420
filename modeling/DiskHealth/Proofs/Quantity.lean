import DiskHealth.Proofs.Numeral
import DiskHealth.Proofs.Rounding
import DiskHealth.Quantity

/-!
Shown quantities. A time span is shown in a unit and the next smaller one, the first pair of
`ladder` whose larger unit fits, and the two amounts make up the span down to a whole number of the
smaller unit. Bytes are shown to the nearest hundredth of the largest unit they reach. That unit is
chosen before the number is rounded, so the number can come to 1024 of a unit that is not the last
(`kibibytes_beyond`).
-/

namespace DiskHealth.Quantity

/-! ### Signs -/

/-- A text begins with a digit, so with no sign. -/
def IsUnsigned (text : String) : Prop :=
  ∃ c ∈ text.toList.head?, c.isDigit = true

theorem IsUnsigned.append {text : String} (h : IsUnsigned text) (rest : String) :
    IsUnsigned (text ++ rest) := by
  obtain ⟨c, hc, hdigit⟩ := h
  refine ⟨c, ?_, hdigit⟩
  rw [String.toList_append, List.head?_append, Option.mem_def.1 hc]
  rfl

theorem isUnsigned_toString (n : Nat) : IsUnsigned (toString n) := by
  rw [Nat.toString_eq_repr]
  unfold IsUnsigned
  rw [Nat.toList_repr]
  obtain ⟨c, rest, hdigits⟩ := List.exists_cons_of_ne_nil (Numeral.ofNat_ne_nil n)
  refine ⟨c, ?_, Numeral.isDigit_of_mem_ofNat (hdigits ▸ List.mem_cons_self)⟩
  show (Numeral.ofNat n).head? = some c
  rw [hdigits]
  rfl

theorem signed_eq (p : Prop) [Decidable p] (text : String) :
    signed (decide p) text = (if p then "-" else "") ++ text := by
  unfold signed
  by_cases hp : p <;> simp [hp]

theorem head?_signed {negative : Bool} {text : String} (h : IsUnsigned text) :
    (signed negative text).toList.head? = some '-' ↔ negative = true := by
  cases negative with
  | true => simp [signed]
  | false =>
    obtain ⟨c, hc, hdigit⟩ := h
    have hminus : c ≠ '-' := by
      rintro rfl
      exact absurd hdigit (by decide)
    rw [signed, if_neg (by decide), Option.mem_def.1 hc]
    simpa using hminus

/-! ### Time spans -/

/-- A unit of time and the next smaller one, which has so many seconds and is so many to it. -/
structure Rung where
  large : String
  small : String
  seconds : Nat
  parts : Nat

def Rung.largeSeconds (r : Rung) : Nat :=
  r.parts * r.seconds

/-- The units of time, each with the next smaller one. -/
def ladder : List Rung :=
  [⟨"year", "day", 86400, 365⟩, ⟨"day", "hour", 3600, 24⟩, ⟨"hour", "minute", 60, 60⟩,
    ⟨"minute", "second", 1, 60⟩]

/-- A text names an amount of a unit. -/
inductive ShowsAmount (count : Nat) (unit : String) : String → Prop where
  | one (h : count = 1) : ShowsAmount count unit ("1 " ++ unit)
  | many (h : count ≠ 1) : ShowsAmount count unit (toString count ++ " " ++ unit ++ "s")

/-- A text shows a span of so many seconds: in a unit that fits, with the next smaller one, where no
larger unit fits, or in seconds alone, if not even a minute fits. -/
inductive ShowsSpan (total : Nat) : String → Prop where
  | seconds {text : String} (hshort : total < 60) (htext : ShowsAmount total "second" text) :
    ShowsSpan total text
  | units {larger smaller : List Rung} {r : Rung} {a b : Nat} {large small : String}
    (hladder : ladder = larger ++ r :: smaller) (hlarger : ∀ u ∈ larger, total < u.largeSeconds)
    (ha : 0 < a) (hb : b < r.parts)
    (hsum : a * r.largeSeconds + b * r.seconds = total / r.seconds * r.seconds)
    (hlarge : ShowsAmount a r.large large) (hsmall : ShowsAmount b r.small small) :
    ShowsSpan total (large ++ " " ++ small)

theorem showsAmount (count : Nat) (unit : String) :
    ShowsAmount count unit (amount count unit) := by
  unfold amount
  split
  · rename_i h
    have hone : toString count ++ " " ++ unit = "1 " ++ unit := by
      rw [h]
      rfl
    exact hone ▸ .one h
  · rename_i h
    rw [← String.append_assoc]
    exact .many h

theorem pos_of_mem_ladder {r : Rung} (h : r ∈ ladder) : 0 < r.seconds ∧ 0 < r.parts := by
  simp only [ladder, List.mem_cons, List.not_mem_nil, or_false] at h
  rcases h with rfl | rfl | rfl | rfl <;> decide

/-- A span in the first unit that fits, of `large` seconds, and the next smaller one, of `small`. -/
theorem shows_of_fits {total large small : Nat} {larger smaller : List Rung} {r : Rung}
    (hladder : ladder = larger ++ r :: smaller) (hlarge : large = r.largeSeconds)
    (hsmall : small = r.seconds) (hlarger : ∀ u ∈ larger, total < u.largeSeconds)
    (hfits : large ≤ total) :
    ShowsSpan total (amount (total / large) r.large ++ " " ++
      amount (total % large / small) r.small) := by
  subst hlarge hsmall
  have hmem : r ∈ ladder := hladder ▸ List.mem_append_right _ List.mem_cons_self
  obtain ⟨hseconds, hparts⟩ := pos_of_mem_ladder hmem
  have hfirst : total / r.largeSeconds = total / r.seconds / r.parts := by
    rw [Rung.largeSeconds, Nat.mul_comm, Nat.div_div_eq_div_mul]
  have hsecond : total % r.largeSeconds / r.seconds = total / r.seconds % r.parts := by
    rw [Rung.largeSeconds, Nat.mul_comm, Nat.mod_mul_right_div_self]
  refine .units hladder hlarger (Nat.div_pos hfits (Nat.mul_pos hparts hseconds)) ?_ ?_
    (showsAmount _ _) (showsAmount _ _)
  · rw [hsecond]
    exact Nat.mod_lt _ hparts
  · rw [hfirst, hsecond, Rung.largeSeconds, ← Nat.mul_assoc, ← Nat.add_mul, Nat.div_add_mod']

theorem shows_spanText (total : Nat) : ShowsSpan total (spanText total) := by
  have hyears : ladder = [] ++ ⟨"year", "day", 86400, 365⟩ :: ladder.drop 1 := rfl
  have hdays : ladder = ladder.take 1 ++ ⟨"day", "hour", 3600, 24⟩ :: ladder.drop 2 := rfl
  have hhours : ladder = ladder.take 2 ++ ⟨"hour", "minute", 60, 60⟩ :: ladder.drop 3 := rfl
  have hminutes : ladder = ladder.take 3 ++ [⟨"minute", "second", 1, 60⟩] := rfl
  have hyear : year = 31536000 := rfl
  have hday : day = 86400 := rfl
  have hhour : hour = 3600 := rfl
  have hminute : minute = 60 := rfl
  unfold spanText
  split
  · rename_i hfits
    have hspan := shows_of_fits hyears hyear hday (by simp) hfits
    exact hspan
  split
  · rename_i hfits
    have hlarger : ∀ u ∈ ladder.take 1, total < u.largeSeconds := by
      simp [ladder, Rung.largeSeconds]
      omega
    have hspan := shows_of_fits hdays hday hhour hlarger hfits
    exact hspan
  split
  · rename_i hfits
    have hlarger : ∀ u ∈ ladder.take 2, total < u.largeSeconds := by
      simp [ladder, Rung.largeSeconds]
      omega
    have hspan := shows_of_fits hhours hhour hminute hlarger hfits
    exact hspan
  split
  · rename_i hfits
    have hlarger : ∀ u ∈ ladder.take 3, total < u.largeSeconds := by
      simp [ladder, Rung.largeSeconds]
      omega
    have hspan := shows_of_fits hminutes hminute rfl hlarger hfits
    rwa [Nat.div_one] at hspan
  · exact .seconds (by omega) (showsAmount total "second")

theorem ShowsAmount.isUnsigned {count : Nat} {unit text : String} (h : ShowsAmount count unit text) :
    IsUnsigned text := by
  cases h with
  | one => exact ⟨'1', by simp, by decide⟩
  | many => exact ((isUnsigned_toString count).append " ").append unit |>.append "s"

theorem ShowsSpan.isUnsigned {total : Nat} {text : String} (h : ShowsSpan total text) :
    IsUnsigned text := by
  cases h with
  | seconds _ htext => exact htext.isUnsigned
  | units _ _ _ _ _ hlarge => exact (hlarge.isUnsigned.append " ").append _

/-- A time span is shown with a sign exactly if it is below zero, and without its sign as its true
length, up to the longest one. Hours are shown as their seconds, which are in the range of 128 bits. -/
theorem timespan_shows :
    (∀ seconds : Int, ((timespan seconds).toList.head? = some '-' ↔ seconds < 0) ∧
      ∃ body, timespan seconds = (if seconds < 0 then "-" else "") ++ body ∧
        ShowsSpan (min seconds.natAbs (2 ^ 64 - 1)) body) ∧
    ∀ value : Int64, render .hours value = timespan (value.toInt * 3600) ∧
      -2 ^ 127 ≤ value.toInt * 3600 ∧ value.toInt * 3600 < 2 ^ 127 := by
  constructor
  · intro seconds
    have hspan := shows_spanText (min seconds.natAbs longestSpan)
    refine ⟨?_, _, signed_eq (seconds < 0) _, hspan⟩
    rw [timespan, head?_signed hspan.isUnsigned, decide_eq_true_iff]
  · intro value
    have hlow := Int64.le_toInt value
    have hhigh := Int64.toInt_lt value
    exact ⟨rfl, by omega, by omega⟩

example : timespan (-31535999) = "-364 days 23 hours" := by decide +kernel

/-! ### Bytes -/

/-- A number of hundredths, as it is written with two decimals. -/
def hundredthsText (n : Nat) : String :=
  toString (n / 100) ++ "." ++ String.ofList [Nat.digitChar (n / 10 % 10), Nat.digitChar (n % 10)]

theorem twoPlaces_eq (num den : Nat) :
    twoPlaces num den = hundredthsText (Decimal.roundDiv (num * 100) den) := by
  generalize hn : Decimal.roundDiv (num * 100) den = n
  have hnumber : Decimal.Number.ofQuotient 2 num den =
      ⟨false, n / 100, [Fin.ofNat 10 (n / 10), Fin.ofNat 10 n], none⟩ := by
    rw [← hn]
    rfl
  rw [twoPlaces, hnumber, hundredthsText, Nat.toString_eq_repr, ← String.toList_inj]
  simp [Decimal.Number.write, Decimal.Number.fractionText, Decimal.Number.exponentText,
    Decimal.Digit.toChar, Nat.toList_repr]

/-- The unit that is chosen is reached, and is not the last one only if the next is not reached. -/
theorem inUnits_eq {size scale : Nat} {units : List String} (hunits : units ≠ [])
    (hreached : scale ≤ size) :
    ∃ k unit, units[k]? = some unit ∧
      inUnits size scale units = twoPlaces size (scale * 1024 ^ k) ++ " " ++ unit ∧
      scale * 1024 ^ k ≤ size ∧ (k + 1 < units.length → size < scale * 1024 ^ (k + 1)) := by
  induction units generalizing scale with
  | nil => exact absurd rfl hunits
  | cons unit rest ih =>
    cases rest with
    | nil => exact ⟨0, unit, rfl, by simp [inUnits], by simpa using hreached, by simp⟩
    | cons next rest =>
      unfold inUnits
      split
      · rename_i hbelow
        refine ⟨0, unit, rfl, by simp, by simpa using hreached, fun _ => ?_⟩
        omega
      · rename_i hbeyond
        obtain ⟨k, found, hfound, htext, hk, hlast⟩ :=
          ih (List.cons_ne_nil next rest) (Nat.le_of_not_lt hbeyond)
        have hscale : ∀ n, 1024 * scale * 1024 ^ n = scale * 1024 ^ (n + 1) := by
          intro n
          rw [Nat.pow_succ]
          ring
        simp only [hscale] at htext hk hlast
        exact ⟨k + 1, found, hfound, htext, hk, fun h => hlast (by simpa using h)⟩

/-- A size is some hundredths of the unit with index `k`, to the nearest. The unit is the largest one
that the size reaches, so the hundredths come to 1024 of it only by rounding, within half a
hundredth below them. -/
structure InUnit (size k hundredths : Nat) : Prop where
  reached : 1024 ^ (k + 1) ≤ size
  below : size < 1024 ^ (k + 2)
  notLess : 2 * (size * 100) ≤ 2 * (hundredths * 1024 ^ (k + 1)) + 1024 ^ (k + 1)
  notMore : 2 * (hundredths * 1024 ^ (k + 1)) ≤ 2 * (size * 100) + 1024 ^ (k + 1)
  one_le : 100 ≤ hundredths
  le_1024 : hundredths ≤ 102400
  eq_1024_iff : hundredths = 102400 ↔ 204799 * 1024 ^ (k + 1) ≤ 200 * size
  notLast : hundredths = 102400 → k + 1 < byteUnits.length

theorem inUnit_roundDiv {size k : Nat} (hreached : 1024 ^ (k + 1) ≤ size)
    (hbelow : size < 1024 ^ (k + 2))
    (hlast : byteUnits.length ≤ k + 1 → size ≤ 8 * 1024 ^ (k + 1)) :
    InUnit size k (Decimal.roundDiv (size * 100) (1024 ^ (k + 1))) := by
  have hunit : 0 < 1024 ^ (k + 1) := Nat.pow_pos (by decide)
  have hnext : 1024 ^ (k + 2) = 1024 ^ (k + 1) * 1024 := Nat.pow_succ 1024 (k + 1)
  have hmost : Decimal.roundDiv (size * 100) (1024 ^ (k + 1)) ≤ 102400 :=
    Decimal.roundDiv_le hunit (by omega)
  have hiff : 102399 < Decimal.roundDiv (size * 100) (1024 ^ (k + 1)) ↔
      2 * (102399 * 1024 ^ (k + 1)) + 1024 ^ (k + 1) ≤ 2 * (size * 100) :=
    Decimal.lt_roundDiv_iff hunit (by decide)
  have hleast : 100 ≤ Decimal.roundDiv (size * 100) (1024 ^ (k + 1)) :=
    Decimal.le_roundDiv hunit (by omega)
  exact {
    reached := hreached
    below := hbelow
    notLess := (Decimal.roundDiv_near hunit).1
    notMore := (Decimal.roundDiv_near hunit).2
    one_le := hleast
    le_1024 := hmost
    eq_1024_iff := by omega
    notLast := by omega }

theorem exists_inUnit {size : Nat} (hlow : 1024 ≤ size) (hhigh : size ≤ 2 ^ 63) :
    ∃ k unit hundredths, byteUnits[k]? = some unit ∧
      inUnits size 1024 byteUnits = hundredthsText hundredths ++ " " ++ unit ∧
      InUnit size k hundredths := by
  have hunits : byteUnits ≠ [] := List.cons_ne_nil _ _
  obtain ⟨k, unit, hunit, htext, hreached, hlast⟩ := inUnits_eq hunits hlow
  have hk : k < byteUnits.length := (List.getElem?_eq_some_iff.1 hunit).1
  have hpow : ∀ n : Nat, 1024 * 1024 ^ n = 1024 ^ (n + 1) := fun _ => Nat.pow_succ'.symm
  rw [hpow] at htext hreached hlast
  rw [twoPlaces_eq] at htext
  have hend : byteUnits.length ≤ k + 1 → size ≤ 8 * 1024 ^ (k + 1) := by
    intro hle
    have hlen : byteUnits.length = 6 := rfl
    have hfive : k = 5 := by omega
    subst hfive
    omega
  refine ⟨k, unit, _, hunit, htext, inUnit_roundDiv hreached ?_ hend⟩
  by_cases hmore : k + 1 < byteUnits.length
  · exact hlast hmore
  · have hsmall := hend (by omega)
    have hnext : 1024 ^ (k + 2) = 1024 ^ (k + 1) * 1024 := Nat.pow_succ 1024 (k + 1)
    omega

/-- Values of at least 1024 bytes are shown with a sign exactly if they are below zero, and with two
decimals in the largest unit that they reach as doubles. The number is at least `1.00`, and less
than `1024.00` but for values within half a hundredth of the next unit. -/
theorem bytes_in_unit (value : Int64) (h : 1024 ≤ value.toInt.natAbs) :
    ((render .bytes value).toList.head? = some '-' ↔ value.toInt < 0) ∧
    ∃ k unit hundredths, byteUnits[k]? = some unit ∧
      render .bytes value = (if value.toInt < 0 then "-" else "") ++
        (hundredthsText hundredths ++ " " ++ unit) ∧
      InUnit (Decimal.toBinary value.toInt.natAbs) k hundredths := by
  have hbound : value.toInt.natAbs ≤ 2 ^ 63 := by
    have hlow := Int64.le_toInt value
    have hhigh := Int64.toInt_lt value
    omega
  have hlow : 2 ^ 10 ≤ Decimal.toBinary value.toInt.natAbs := Decimal.le_toBinary h
  obtain ⟨k, unit, hundredths, hunit, htext, hin⟩ :=
    exists_inUnit hlow (Decimal.toBinary_le hbound)
  have hbytes : render .bytes value =
      signed (value.toInt < 0) (hundredthsText hundredths ++ " " ++ unit) := by
    rw [← htext]
    show byteText value.toInt = _
    rw [byteText, if_neg (by omega)]
  have hunsigned : IsUnsigned (hundredthsText hundredths ++ " " ++ unit) :=
    (((isUnsigned_toString _).append _).append _ |>.append _).append _
  rw [hbytes]
  refine ⟨?_, k, unit, hundredths, hunit, signed_eq (value.toInt < 0) _, hin⟩
  rw [head?_signed hunsigned, decide_eq_true_iff]

/-- The least word is shown with a sign, as eight exbibytes. -/
theorem bytes_in_unit_least :
    1024 ≤ Int64.minValue.toInt.natAbs ∧
      (render .bytes Int64.minValue).toList.head? = some '-' ∧
      render .bytes Int64.minValue = "-8.00 EiB" := by
  have h : 1024 ≤ Int64.minValue.toInt.natAbs := by decide
  exact ⟨h, (bytes_in_unit Int64.minValue h).1.2 (by decide), by decide +kernel⟩

/-- A byte less than a mebibyte is shown as 1024 kibibytes. -/
theorem kibibytes_beyond :
    1024 ≤ (1048575 : Int64).toInt.natAbs ∧ render .bytes 1048575 = "1024.00 KiB" ∧
      byteUnits[1]? = some "MiB" := by
  decide +kernel

end DiskHealth.Quantity
