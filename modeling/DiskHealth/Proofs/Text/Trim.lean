import DiskHealth.Proofs.Text.Words
import Mathlib.Data.List.DropRight

/-!
What trimming leaves of a text. `TrimsTo` says it without a search from either end: a text is another
one with blanks around it, and that one begins and ends with no blank. Every text trims to just one
(`trim_eq_iff`), so blanks around a text make no difference to it (`trim_between`).
-/

namespace DiskHealth.Text

/-- A text is another one with blanks around it, and that one has no blank at either end. -/
structure TrimsTo (cs inner : List Char) : Prop where
  around : ∃ before after, cs = before ++ inner ++ after ∧
    (∀ c ∈ before, isBlank c = true) ∧ ∀ c ∈ after, isBlank c = true
  first : ∀ c ∈ inner.head?, isBlank c = false
  last : ∀ c ∈ inner.getLast?, isBlank c = false

section

variable {cs inner : List Char}

theorem isBlank_of_head?_trimStart {c : Char} (h : c ∈ (trimStart cs).head?) :
    isBlank c = false := by
  have hfirst := List.head?_dropWhile_not isBlank cs
  rw [trimStart, Option.mem_def] at h
  rwa [h] at hfirst

theorem isBlank_of_getLast?_trimEnd {c : Char} (h : c ∈ (trimEnd cs).getLast?) :
    isBlank c = false := by
  rw [trimEnd, List.getLast?_reverse] at h
  exact isBlank_of_head?_trimStart h

theorem trimStart_of_head? (h : ∀ c ∈ cs.head?, isBlank c = false) : trimStart cs = cs := by
  refine List.dropWhile_eq_self_iff.2 fun hpos => ?_
  rw [h cs[0] (List.head?_eq_getElem? ▸ List.getElem?_eq_getElem hpos)]
  exact Bool.false_ne_true

theorem trimEnd_of_getLast? (h : ∀ c ∈ cs.getLast?, isBlank c = false) : trimEnd cs = cs := by
  refine List.rdropWhile_eq_self_iff.2 fun hne => ?_
  rw [h (cs.getLast hne) (List.getLast?_eq_some_getLast hne)]
  exact Bool.false_ne_true

/-- Blanks around a text are trimmed, and then the text itself is. -/
theorem trim_between {before after : List Char} (hbefore : ∀ c ∈ before, isBlank c = true)
    (hafter : ∀ c ∈ after, isBlank c = true) (cs : List Char) :
    trim (before ++ cs ++ after) = trim cs := by
  have hstart : trimStart (before ++ cs ++ after) = trimStart (cs ++ after) := by
    rw [List.append_assoc]
    exact List.dropWhile_append_of_pos hbefore
  have hend : trimEnd (cs ++ after) = trimEnd cs := by
    rw [trimEnd, List.reverse_append,
      List.dropWhile_append_of_pos fun c hc => hafter c (List.mem_reverse.1 hc)]
    rfl
  calc trim (before ++ cs ++ after)
      = trimEnd (trimStart (cs ++ after)) := congrArg trimEnd hstart
    _ = trimStart (trimEnd (cs ++ after)) := (trimStart_trimEnd _).symm
    _ = trimStart (trimEnd cs) := congrArg trimStart hend
    _ = trim cs := trimStart_trimEnd cs

theorem trimsTo_trim (cs : List Char) : TrimsTo cs (trim cs) where
  around := by
    have hstart : cs.takeWhile isBlank ++ trimStart cs = cs := List.takeWhile_append_dropWhile
    have hend : trim cs ++ (trimStart cs).rtakeWhile isBlank = trimStart cs :=
      List.rdropWhile_append_rtakeWhile
    refine ⟨cs.takeWhile isBlank, (trimStart cs).rtakeWhile isBlank, ?_,
      fun _ => List.mem_takeWhile_imp, fun _ => List.mem_rtakeWhile_imp⟩
    rw [List.append_assoc, hend, hstart]
  first c hc := by
    rw [trim, ← trimStart_trimEnd] at hc
    exact isBlank_of_head?_trimStart hc
  last _ hc := isBlank_of_getLast?_trimEnd hc

theorem TrimsTo.trim_eq (h : TrimsTo cs inner) : trim cs = inner := by
  obtain ⟨before, after, rfl, hbefore, hafter⟩ := h.around
  rw [trim_between hbefore hafter, trim, trimStart_of_head? h.first, trimEnd_of_getLast? h.last]

theorem trim_eq_iff : trim cs = inner ↔ TrimsTo cs inner :=
  ⟨fun h => h ▸ trimsTo_trim cs, TrimsTo.trim_eq⟩

end

end DiskHealth.Text
