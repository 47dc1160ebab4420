import DiskHealth.Json.Printer
import DiskHealth.Json.Reader

/-!
Quoted texts read back. Whatever follows it, an escaped character gives its own code point
(`readPoints_escape`), and no character is half of a surrogate pair, so the code points of a text
are joined to the text itself (`joinPoints_toNat`). So a literal is read as the text that was
printed, for every text (`readText_append`).
-/

namespace DiskHealth.Json

theorem hexQuad?_hexDigit {n : Nat} (h : n < 0x20) :
    hexQuad? '0' '0' (hexDigit (n / 16)) (hexDigit n) = some n := by
  have hall : ∀ n < 0x20, hexQuad? '0' '0' (hexDigit (n / 16)) (hexDigit n) = some n := by decide
  exact hall n h

theorem readPoints_short {e : Char} {p : Nat} (cs : List Char) (hu : e ≠ 'u')
    (he : shortEscape? e = some p) :
    readPoints ('\\' :: e :: cs) = (readPoints cs).map fun r => (p :: r.1, r.2) := by
  rw [readPoints]
  · rw [he, Option.bind_some]
  · intro a b c d rest h _
    exact hu h

theorem readPoints_plain {c : Char} (cs : List Char) (hquote : c ≠ '"') (hslash : c ≠ '\\')
    (hc : ¬c.toNat < 0x20) :
    readPoints (c :: cs) = (readPoints cs).map fun r => (c.toNat :: r.1, r.2) := by
  rw [readPoints]
  · rw [if_neg hc]
  · exact hquote
  · intro _ _ _ _ _ h _
    exact hslash h
  · intro _ _ h _
    exact hslash h

/-- A character as it stands between the quotes gives its code point. -/
theorem readPoints_escape (c : Char) (cs : List Char) :
    readPoints (escape c ++ cs) = (readPoints cs).map fun r => (c.toNat :: r.1, r.2) := by
  unfold escape
  split
  · rename_i h
    subst h
    exact readPoints_short cs (by decide) rfl
  · rename_i hquote
    split
    · rename_i h
      subst h
      exact readPoints_short cs (by decide) rfl
    · rename_i hslash
      repeat' split
      all_goals rename_i h
      iterate 5
        · subst h
          exact readPoints_short cs (by decide) rfl
      · have hread := hexQuad?_hexDigit h
        simp only [List.cons_append, List.nil_append, readPoints, hread, Option.bind_some]
      · exact readPoints_plain cs hquote hslash h

theorem readPoints_append (cs rest : List Char) :
    readPoints (cs.flatMap escape ++ '"' :: rest) = some (cs.map Char.toNat, rest) := by
  induction cs with
  | nil => rw [List.flatMap_nil, List.nil_append, readPoints]; rfl
  | cons c cs ih =>
    rw [List.flatMap_cons, List.append_assoc, readPoints_escape, ih]
    rfl

theorem isSurrogate_toNat (c : Char) :
    isSurrogate highSurrogate c.toNat = false ∧ isSurrogate lowSurrogate c.toNat = false := by
  have hvalid : c.toNat < 0xD800 ∨ 0xDFFF < c.toNat ∧ c.toNat < 0x110000 := c.valid
  constructor
  all_goals
    refine Bool.eq_false_iff.2 fun h => ?_
    obtain ⟨hlow, hhigh⟩ := Bool.and_eq_true_iff.1 h
    rw [decide_eq_true_iff] at hlow hhigh
    simp only [highSurrogate, lowSurrogate, surrogateCount] at hlow hhigh
    omega

theorem joinPoints_toNat (cs : List Char) : joinPoints (cs.map Char.toNat) = some cs := by
  induction cs with
  | nil => rfl
  | cons c cs ih =>
    obtain ⟨hhigh, hlow⟩ := isSurrogate_toNat c
    rw [List.map_cons, joinPoints.eq_def]
    simp only [hhigh, hlow, Bool.false_eq_true, if_false, ih, Option.map_some, Char.ofNat_toNat]

/-- A printed text reads back as that text. -/
theorem readText_append (s : String) (rest : List Char) :
    readText (s.toList.flatMap escape ++ '"' :: rest) = some (some s, rest) := by
  rw [readText, readPoints_append, Option.map_some, joinPoints_toNat, Option.map_some,
    String.ofList_toList]

end DiskHealth.Json
