import DiskHealth.Files.Tree

/-!
Paths with an ending. What is put at the end of a path goes to the last name that it spells, or is a
name of its own after a slash (`names_append`); all names before it stay. Keys of places grow with
every name, so a longer last name gives another place (`length_key_append`).
-/

namespace DiskHealth.Files

theorem pieces_of_notMem {mark : Char} {cs : List Char} (h : mark ∉ cs) :
    pieces mark cs = [cs] := by
  induction cs with
  | nil => rfl
  | cons c cs ih =>
    have hc : c ≠ mark := fun hc => h (hc ▸ List.mem_cons_self)
    have hcs := ih fun hmem => h (List.mem_cons_of_mem _ hmem)
    rw [pieces, if_neg hc, hcs]

theorem pieces_ne_nil (mark : Char) (cs : List Char) : pieces mark cs ≠ [] := by
  cases cs with
  | nil => simp [pieces]
  | cons c cs =>
    unfold pieces
    split
    · simp
    · split <;> simp

theorem pieces_append_cons (mark : Char) (cs ds : List Char) :
    pieces mark (cs ++ mark :: ds) = pieces mark cs ++ pieces mark ds := by
  induction cs with
  | nil => simp [pieces]
  | cons c cs ih =>
    rw [List.cons_append, pieces, pieces, ih]
    by_cases hc : c = mark
    · rw [if_pos hc, if_pos hc, List.cons_append]
    · rw [if_neg hc, if_neg hc]
      cases hpieces : pieces mark cs with
      | nil => exact absurd hpieces (pieces_ne_nil mark cs)
      | cons piece others => rfl

/-- A text has no mark, or there is a last one in it. -/
theorem last_mark (mark : Char) (cs : List Char) :
    mark ∉ cs ∨ ∃ before last, cs = before ++ mark :: last ∧ mark ∉ last := by
  by_cases h : mark ∈ cs
  · obtain ⟨last, before, heq, hlast⟩ := List.eq_append_cons_of_mem (List.mem_reverse.2 h)
    refine .inr ⟨before.reverse, last.reverse, ?_, fun hmem => hlast (List.mem_reverse.1 hmem)⟩
    rw [← List.reverse_reverse cs, heq]
    simp
  · exact .inl h

/-- The last piece is empty at the beginning of a text and after a mark; what follows without a
mark is put at its end. -/
theorem exists_pieces (mark : Char) (cs : List Char) :
    ∃ before last, pieces mark cs = before ++ [last] ∧
      (last = [] ↔ cs = [] ∨ cs.getLast? = some mark) ∧
      ∀ ds, mark ∉ ds → pieces mark (cs ++ ds) = before ++ [last ++ ds] := by
  rcases last_mark mark cs with h | ⟨before, last, rfl, h⟩
  · refine ⟨[], cs, pieces_of_notMem h, ?_, fun ds hds => pieces_of_notMem ?_⟩
    · have hmark : cs.getLast? ≠ some mark := fun hlast => h (List.mem_of_getLast? hlast)
      simp [hmark]
    · simp [h, hds]
  · refine ⟨pieces mark before, last, ?_, ?_, fun ds hds => ?_⟩
    · rw [pieces_append_cons, pieces_of_notMem h]
    · cases hlast : last.getLast? with
      | none => simp [List.getLast?_eq_none_iff.1 hlast]
      | some c =>
        have hmem := List.mem_of_getLast? hlast
        have hc : c ≠ mark := fun hc => h (hc ▸ hmem)
        have hne : last ≠ [] := List.ne_nil_of_mem hmem
        simp [hne, hlast, hc, List.getLast?_append, List.getLast?_cons]
    · have hmore : mark ∉ last ++ ds := by simp [h, hds]
      rw [List.append_assoc, List.cons_append, pieces_append_cons, pieces_of_notMem hmore]

/-- What is put at the end of a path without a slash goes to its last name, or is a name of its own
where the path ends in none. -/
theorem names_append (path : String) {ending : String} (hslash : '/' ∉ ending.toList)
    (hne : ending ≠ "") :
    (path = "" ∨ endsInSlash path = true) ∧ names (path ++ ending) = names path ++ [ending] ∨
    (path ≠ "" ∧ endsInSlash path = false) ∧ ∃ before last, last ≠ "" ∧
      names path = before ++ [last] ∧ names (path ++ ending) = before ++ [last ++ ending] := by
  obtain ⟨before, last, hpieces, hlast, happend⟩ := exists_pieces '/' path.toList
  have hmore := happend ending.toList hslash
  have hpath : path.toList = [] ↔ path = "" := by simp
  by_cases h : last = []
  · left
    subst h
    refine ⟨?_, ?_⟩
    · simpa [hpath, endsInSlash] using hlast
    · simp [names, segments, hpieces, hmore, hne]
  · right
    rw [iff_false_left h, hpath, not_or] at hlast
    refine ⟨⟨hlast.1, by simpa [endsInSlash] using hlast.2⟩,
      (before.map String.ofList).filter (· != ""), String.ofList last, ?_, ?_, ?_⟩
    · simpa using h
    · simp [names, segments, hpieces, h]
    · simp [names, segments, hmore, h, String.ofList_append]

namespace Tree

theorem key_concat (place : List String) (name : String) :
    key (place ++ [name]) = if place = [] then name else key place ++ "/" ++ name := by
  unfold key
  split
  · rename_i h
    rw [h, List.nil_append, String.intercalate_singleton]
  · rename_i h
    rw [String.intercalate_append_of_ne_nil h (by simp), String.intercalate_singleton]

theorem length_key_concat (place : List String) (name : String) :
    (key place).length + name.length ≤ (key (place ++ [name])).length := by
  rw [key_concat]
  split
  · rename_i h
    simp [h, key, String.intercalate_nil]
  · simp only [String.length_append]
    omega

theorem length_key_dropLast (place : List String) :
    (key place.dropLast).length ≤ (key place).length := by
  rcases List.eq_nil_or_concat place with rfl | ⟨before, name, rfl⟩
  · exact Nat.le_refl _
  · have h := length_key_concat before name
    rw [List.concat_eq_append, List.dropLast_concat]
    omega

theorem length_key_append (place : List String) (name ending : String) :
    (key (place ++ [name ++ ending])).length = (key (place ++ [name])).length + ending.length := by
  rw [key_concat, key_concat]
  split
  · rw [String.length_append]
  · simp only [String.length_append]
    omega

end Tree

end DiskHealth.Files
