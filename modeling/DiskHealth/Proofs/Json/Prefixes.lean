import DiskHealth.Proofs.Json.RoundTrip

/-!
Readers in front of longer texts. A reader that stops inside a text does not look past where it
stops, so it takes the same value from every text that goes on (`readNumber_before`,
`readsBefore`). A number at the end of a text might go on, but the text of an object says itself
where it ends; so no strict prefix of a printed object is read as anything (`read?_of_cut`).
-/

namespace DiskHealth.Json

open Decimal (Digit Number)

theorem digitRun_before {cs rest : List Char} {ds : List Digit} (h : digitRun cs = (ds, rest))
    (hrest : rest ≠ []) (more : List Char) : digitRun (cs ++ more) = (ds, rest ++ more) := by
  induction cs generalizing ds with
  | nil =>
    cases h
    exact absurd rfl hrest
  | cons c cs ih =>
    rw [List.cons_append]
    unfold digitRun at h ⊢
    cases hc : Digit.ofChar? c with
    | none =>
      simp only [hc] at h ⊢
      cases h
      rfl
    | some d =>
      rcases hrun : digitRun cs with ⟨es, after⟩
      simp only [hc, hrun] at h ⊢
      cases h
      rw [ih hrun]

theorem readWhole_before {cs rest : List Char} {n : Nat} (h : readWhole cs = some (n, rest))
    (hrest : rest ≠ []) (more : List Char) : readWhole (cs ++ more) = some (n, rest ++ more) := by
  unfold readWhole at h ⊢
  rcases hrun : digitRun cs with ⟨ds, after⟩
  rw [hrun] at h
  match ds, h with
  | [d], h =>
    cases h
    rw [digitRun_before hrun hrest more]
  | d :: e :: ds, h =>
    by_cases hd : d.val = 0
    · simp [hd] at h
    · simp only [hd, if_false] at h
      cases h
      rw [digitRun_before hrun hrest more]
      simp [hd]

theorem readFraction_before {cs rest : List Char} {ds : List Digit}
    (h : readFraction cs = some (ds, rest)) (hrest : rest ≠ []) (more : List Char) :
    readFraction (cs ++ more) = some (ds, rest ++ more) := by
  unfold readFraction at h
  split at h
  · rename_i cs
    rcases hrun : digitRun cs with ⟨es, after⟩
    rw [hrun] at h
    cases es with
    | nil => cases h
    | cons e es =>
      cases h
      rw [List.cons_append, readFraction, digitRun_before hrun hrest more]
  · rename_i hpoint
    cases h
    obtain ⟨c, cs, rfl⟩ := List.exists_cons_of_ne_nil hrest
    have hc : c ≠ '.' := fun hc => hpoint cs (hc ▸ rfl)
    rw [List.cons_append, readFraction]
    intro _ heq
    cases heq
    exact hc rfl

theorem readMagnitude_before {negative : Bool} {cs rest : List Char} {e : Option Int}
    (h : readMagnitude negative cs = some (e, rest)) (hrest : rest ≠ []) (more : List Char) :
    readMagnitude negative (cs ++ more) = some (e, rest ++ more) := by
  unfold readMagnitude at h ⊢
  rcases hrun : digitRun cs with ⟨ds, after⟩
  rw [hrun] at h
  cases ds with
  | nil => cases h
  | cons d ds =>
    cases h
    rw [digitRun_before hrun hrest more]

theorem readExponent_before {cs rest : List Char} {e : Option Int}
    (h : readExponent cs = some (e, rest)) (hrest : rest ≠ []) (more : List Char) :
    readExponent (cs ++ more) = some (e, rest ++ more) := by
  cases cs with
  | nil =>
    cases h
    exact absurd rfl hrest
  | cons c cs =>
    rw [List.cons_append]
    unfold readExponent at h ⊢
    by_cases hc : c = 'e' ∨ c = 'E'
    · simp only [hc, if_true] at h ⊢
      split at h
      · exact readMagnitude_before h hrest more
      · exact readMagnitude_before h hrest more
      · rename_i hplus hminus
        have hread := readMagnitude_before h hrest more
        cases cs with
        | nil => cases h
        | cons d cs =>
          have hd : d ≠ '+' ∧ d ≠ '-' :=
            ⟨fun hd => hplus cs (hd ▸ rfl), fun hd => hminus cs (hd ▸ rfl)⟩
          simpa [hd] using hread
    · simp only [hc, if_false] at h ⊢
      cases h
      rfl

theorem readUnsigned_before {negative : Bool} {cs rest : List Char} {n : Number}
    (h : readUnsigned negative cs = some (n, rest)) (hrest : rest ≠ []) (more : List Char) :
    readUnsigned negative (cs ++ more) = some (n, rest ++ more) := by
  simp only [readUnsigned, Option.bind_eq_bind, Option.bind_eq_some_iff, Option.pure_def,
    Option.some.injEq, Prod.mk.injEq, Prod.exists] at h
  obtain ⟨whole, afterWhole, hwhole, fraction, afterFraction, hfraction, e, after, he, rfl, rfl⟩ := h
  have hfractionRest : afterFraction ≠ [] := by
    rintro rfl
    cases he
    exact hrest rfl
  have hwholeRest : afterWhole ≠ [] := by
    rintro rfl
    cases hfraction
    exact hfractionRest rfl
  simp [readUnsigned, readWhole_before hwhole hwholeRest,
    readFraction_before hfraction hfractionRest, readExponent_before he hrest]

theorem readNumber_before {cs rest : List Char} {n : Number}
    (h : readNumber cs = some (n, rest)) (hrest : rest ≠ []) (more : List Char) :
    readNumber (cs ++ more) = some (n, rest ++ more) := by
  unfold readNumber at h
  split at h
  · exact readUnsigned_before h hrest more
  · rename_i hminus
    have hread := readUnsigned_before h hrest more
    cases cs with
    | nil => cases h
    | cons c cs =>
      have hc : c ≠ '-' := fun hc => hminus cs (hc ▸ rfl)
      simpa [readNumber, hc] using hread

theorem ne_nil_of_readNumber {cs : List Char} {r : Number × List Char}
    (h : readNumber cs = some r) : cs ≠ [] := by
  rintro rfl
  cases h

/-- No number begins like another value. -/
theorem notMem_of_readNumber {c : Char} {cs : List Char} {r : Number × List Char}
    (h : readNumber (c :: cs) = some r) : c ∉ ['n', 't', 'f', '"', '[', '{'] := by
  intro hc
  have hall : ∀ c ∈ ['n', 't', 'f', '"', '[', '{'], Digit.ofChar? c = none ∧ c ≠ '-' :=
    forall_mem_of_all (by decide)
  obtain ⟨hdigit, hminus⟩ := hall c hc
  simp [readNumber, hminus, readUnsigned, readWhole, digitRun, hdigit] at h

/-! ### Texts -/

theorem readPoints_before {cs rest : List Char} {ps : List Nat}
    (h : readPoints cs = some (ps, rest)) (more : List Char) :
    readPoints (cs ++ more) = some (ps, rest ++ more) := by
  fun_induction readPoints cs generalizing ps with
  | case1 => cases h
  | case2 cs =>
    cases h
    rw [List.cons_append, readPoints]
  | case3 a b c d cs ih =>
    simp only [Option.bind_eq_some_iff, Option.map_eq_some_iff, Prod.mk.injEq, Prod.exists] at h
    obtain ⟨p, hp, qs, after, hread, rfl, rfl⟩ := h
    simp [readPoints, hp, ih hread]
  | case4 e cs hquad ih =>
    simp only [Option.bind_eq_some_iff, Option.map_eq_some_iff, Prod.mk.injEq, Prod.exists] at h
    obtain ⟨p, hp, qs, after, hread, rfl, rfl⟩ := h
    have hu : e ≠ 'u' := by
      rintro rfl
      cases hp
    rw [List.cons_append, List.cons_append, readPoints_short _ hu hp, ih hread]
    rfl
  | case5 c cs hquote hquad hslash hlow => cases h
  | case6 c cs hquote _ hslash hlow ih =>
    simp only [Option.map_eq_some_iff, Prod.mk.injEq, Prod.exists] at h
    obtain ⟨qs, after, hread, rfl, rfl⟩ := h
    have hslash' : c ≠ '\\' := by
      intro hc
      cases cs with
      | nil => cases hread
      | cons e cs => exact hslash e cs hc rfl
    rw [List.cons_append, readPoints_plain _ hquote hslash' hlow, ih hread]
    rfl

theorem readText_before {cs rest : List Char} {s : Option String}
    (h : readText cs = some (s, rest)) (more : List Char) :
    readText (cs ++ more) = some (s, rest ++ more) := by
  simp only [readText, Option.map_eq_some_iff, Prod.mk.injEq, Prod.exists] at h
  obtain ⟨ps, after, hread, rfl, rfl⟩ := h
  simp [readText, readPoints_before hread]

/-! ### Values -/

theorem skipSpace_before {cs rest : List Char} {c : Char} (h : skipSpace cs = c :: rest)
    (more : List Char) : skipSpace (cs ++ more) = c :: (rest ++ more) := by
  unfold skipSpace at h ⊢
  rw [List.dropWhile_append, h]
  rfl

theorem ne_nil_of_skipSpace {cs rest : List Char} {c : Char} (h : skipSpace cs = c :: rest) :
    cs ≠ [] := by
  rintro rfl
  cases h

theorem ne_nil_of_readItems {fuel : Nat} {cs : List Char} {r : List Value × List Char}
    (h : readItems fuel cs = some r) : cs ≠ [] := by
  rintro rfl
  match fuel with
  | 0 => cases h
  | 1 => cases h
  | _ + 2 => cases h

theorem ne_nil_of_readMembers {fuel : Nat} {cs : List Char}
    {r : List (Option String × Value) × List Char} (h : readMembers fuel cs = some r) :
    cs ≠ [] := by
  rintro rfl
  cases fuel with
  | zero => cases h
  | succ fuel => cases h

/-- What three readers take from a text they take from every text that goes on, with any fuel above
theirs. A number may go on itself, so something has to be left after it. -/
structure ReadsBefore (fuel : Nat) : Prop where
  value : ∀ {cs rest : List Char} {v : Value}, readValue fuel cs = some (v, rest) →
    rest ≠ [] ∨ (∀ n, v ≠ .number n) → ∀ (more : List Char) {fuel' : Nat}, fuel ≤ fuel' →
    readValue fuel' (cs ++ more) = some (v, rest ++ more)
  items : ∀ {cs rest : List Char} {vs : List Value}, readItems fuel cs = some (vs, rest) →
    ∀ (more : List Char) {fuel' : Nat}, fuel ≤ fuel' →
    readItems fuel' (cs ++ more) = some (vs, rest ++ more)
  members : ∀ {cs rest : List Char} {ms : List (Option String × Value)},
    readMembers fuel cs = some (ms, rest) → ∀ (more : List Char) {fuel' : Nat}, fuel ≤ fuel' →
    readMembers fuel' (cs ++ more) = some (ms, rest ++ more)

namespace ReadsBefore

variable {fuel : Nat}

theorem array (h : ReadsBefore fuel) {cs inner rest : List Char} {v : Value}
    (hskip : skipSpace cs = '[' :: inner) (hread : readValue (fuel + 1) cs = some (v, rest))
    (more : List Char) {fuel' : Nat} (hfuel : fuel ≤ fuel') :
    readValue (fuel' + 1) (cs ++ more) = some (v, rest ++ more) := by
  rw [readValue_bracket fuel hskip] at hread
  rw [readValue_bracket fuel' (skipSpace_before hskip more)]
  split at hread
  · rename_i hclose
    cases hread
    simp only [skipSpace_before hclose]
  · rename_i hclose
    simp only [Option.map_eq_some_iff, Prod.mk.injEq, Prod.exists] at hread
    obtain ⟨vs, after, hitems, rfl, rfl⟩ := hread
    obtain ⟨c, cs, hcs⟩ := List.exists_cons_of_ne_nil (ne_nil_of_readItems hitems)
    have hc : c ≠ ']' := fun hc => hclose cs (hc ▸ hcs)
    have hmore := h.items hitems more hfuel
    rw [hcs, List.cons_append] at hmore
    simp [skipSpace_before hcs, hc, hmore]

theorem object (h : ReadsBefore fuel) {cs inner rest : List Char} {v : Value}
    (hskip : skipSpace cs = '{' :: inner) (hread : readValue (fuel + 1) cs = some (v, rest))
    (more : List Char) {fuel' : Nat} (hfuel : fuel ≤ fuel') :
    readValue (fuel' + 1) (cs ++ more) = some (v, rest ++ more) := by
  rw [readValue_brace fuel hskip] at hread
  rw [readValue_brace fuel' (skipSpace_before hskip more)]
  split at hread
  · rename_i hclose
    cases hread
    simp only [skipSpace_before hclose]
  · rename_i hclose
    simp only [Option.map_eq_some_iff, Prod.mk.injEq, Prod.exists] at hread
    obtain ⟨ms, after, hmembers, rfl, rfl⟩ := hread
    obtain ⟨c, cs, hcs⟩ := List.exists_cons_of_ne_nil (ne_nil_of_readMembers hmembers)
    have hc : c ≠ '}' := fun hc => hclose cs (hc ▸ hcs)
    have hmore := h.members hmembers more hfuel
    rw [hcs, List.cons_append] at hmore
    simp [skipSpace_before hcs, hc, hmore]

theorem value_succ (h : ReadsBefore fuel) {cs rest : List Char} {v : Value}
    (hread : readValue (fuel + 1) cs = some (v, rest)) (hend : rest ≠ [] ∨ ∀ n, v ≠ .number n)
    (more : List Char) {fuel' : Nat} (hfuel : fuel ≤ fuel') :
    readValue (fuel' + 1) (cs ++ more) = some (v, rest ++ more) := by
  have hwhole := hread
  rw [readValue] at hread
  split at hread
  case h_1 | h_2 | h_3 =>
    rename_i hskip
    cases hread
    rw [readValue, skipSpace_before hskip]
    rfl
  case h_4 =>
    rename_i hskip
    simp only [Option.map_eq_some_iff, Prod.mk.injEq, Prod.exists] at hread
    obtain ⟨s, after, htext, rfl, rfl⟩ := hread
    rw [readValue, skipSpace_before hskip]
    simp [readText_before htext]
  case h_5 =>
    rename_i hskip
    exact h.array hskip hwhole more hfuel
  case h_6 =>
    rename_i hskip
    exact h.object hskip hwhole more hfuel
  case h_7 =>
    simp only [Option.map_eq_some_iff, Prod.mk.injEq, Prod.exists] at hread
    obtain ⟨n, after, hnumber, rfl, rfl⟩ := hread
    have hrest : after ≠ [] := hend.resolve_right fun hn => hn n rfl
    have hmore := readNumber_before hnumber hrest more
    obtain ⟨c, cs, hcs⟩ := List.exists_cons_of_ne_nil (ne_nil_of_readNumber hnumber)
    rw [hcs] at hnumber hmore
    rw [readValue_of_other _ (skipSpace_before hcs more) (notMem_of_readNumber hnumber),
      ← List.cons_append, hmore]
    rfl

theorem items_succ (h : ReadsBefore fuel) {cs rest : List Char} {vs : List Value}
    (hread : readItems (fuel + 1) cs = some (vs, rest)) (more : List Char) {fuel' : Nat}
    (hfuel : fuel ≤ fuel') : readItems (fuel' + 1) (cs ++ more) = some (vs, rest ++ more) := by
  rw [readItems, Option.bind_eq_some_iff] at hread
  obtain ⟨⟨v, after⟩, hvalue, hread⟩ := hread
  dsimp only at hread
  rw [readItems]
  have hvalue' : after ≠ [] → readValue fuel' (cs ++ more) = some (v, after ++ more) :=
    fun hne => h.value hvalue (.inl hne) more hfuel
  split at hread
  · rename_i hskip
    cases hread
    simp only [hvalue' (ne_nil_of_skipSpace hskip), Option.bind_some, skipSpace_before hskip]
  · rename_i hskip
    simp only [Option.map_eq_some_iff, Prod.mk.injEq, Prod.exists] at hread
    obtain ⟨ws, last, hothers, rfl, rfl⟩ := hread
    simp only [hvalue' (ne_nil_of_skipSpace hskip), Option.bind_some, skipSpace_before hskip, h.items hothers more hfuel,
      Option.map_some]
  · cases hread

theorem members_succ (h : ReadsBefore fuel) {cs rest : List Char}
    {ms : List (Option String × Value)} (hread : readMembers (fuel + 1) cs = some (ms, rest))
    (more : List Char) {fuel' : Nat} (hfuel : fuel ≤ fuel') :
    readMembers (fuel' + 1) (cs ++ more) = some (ms, rest ++ more) := by
  rw [readMembers] at hread ⊢
  split at hread
  case h_2 => cases hread
  rename_i hskip
  simp only [Option.bind_eq_some_iff, Prod.exists] at hread
  obtain ⟨k, afterKey, hkey, hread⟩ := hread
  simp only [skipSpace_before hskip, readText_before hkey, Option.bind_some]
  split at hread
  case h_2 => cases hread
  rename_i afterColon hcolon
  simp only [Option.bind_eq_some_iff, Prod.exists] at hread
  obtain ⟨v, after, hvalue, hread⟩ := hread
  have hvalue' : after ≠ [] → readValue fuel' (afterColon ++ more) = some (v, after ++ more) :=
    fun hne => h.value hvalue (.inl hne) more hfuel
  split at hread
  · rename_i hclose
    cases hread
    simp only [skipSpace_before hcolon, hvalue' (ne_nil_of_skipSpace hclose), Option.bind_some,
      skipSpace_before hclose]
  · rename_i hcomma
    simp only [Option.map_eq_some_iff, Prod.mk.injEq, Prod.exists] at hread
    obtain ⟨ns, last, hothers, rfl, rfl⟩ := hread
    simp only [skipSpace_before hcolon, hvalue' (ne_nil_of_skipSpace hcomma), Option.bind_some,
      skipSpace_before hcomma, h.members hothers more hfuel, Option.map_some]
  · cases hread

end ReadsBefore

theorem readsBefore (fuel : Nat) : ReadsBefore fuel := by
  induction fuel with
  | zero => exact ⟨nofun, nofun, nofun⟩
  | succ fuel ih =>
    refine ⟨fun hread hend more k hk => ?_, fun hread more k hk => ?_, fun hread more k hk => ?_⟩
    all_goals obtain ⟨k, rfl⟩ : ∃ n, k = n + 1 := ⟨k - 1, by omega⟩
    · exact ih.value_succ hread hend more (by omega)
    · exact ih.items_succ hread more (by omega)
    · exact ih.members_succ hread more (by omega)

theorem object_of_readValue {fuel : Nat} {cs rest : List Char} {v : Value}
    (h : readValue fuel ('{' :: cs) = some (v, rest)) : ∃ ms, v = .object ms := by
  cases fuel with
  | zero => cases h
  | succ fuel =>
    rw [readValue_brace fuel (skipSpace_cons cs (by decide))] at h
    split at h
    · cases h
      exact ⟨[], rfl⟩
    · simp only [Option.map_eq_some_iff, Prod.mk.injEq, Prod.exists] at h
      obtain ⟨ms, after, -, rfl, -⟩ := h
      exact ⟨ms, rfl⟩

/-- No strict prefix of the text of an object is read. -/
theorem read?_of_cut {style : Style} (hs : style.Blank) {ms : List (Option String × Value)}
    (hv : Value.Proper (.object ms)) {depth : Nat} {cut : List Char}
    (hcut : cut <+: (Value.object ms).print style depth)
    (hne : cut ≠ (Value.object ms).print style depth) : read? cut = none := by
  obtain ⟨more, hmore⟩ := hcut
  have hprint : ∃ inner, (Value.object ms).print style depth = '{' :: inner := by
    cases ms with
    | nil => exact ⟨_, rfl⟩
    | cons m ms => exact ⟨_, rfl⟩
  obtain ⟨inner, hinner⟩ := hprint
  rw [read?]
  split
  case h_2 => rfl
  rename_i v rest hread
  exfalso
  have hobject : ∃ ns, v = .object ns := by
    cases cut with
    | nil => cases hread
    | cons c cut =>
      rw [hinner] at hmore
      cases hmore
      exact object_of_readValue hread
  obtain ⟨ns, rfl⟩ := hobject
  obtain ⟨fuel, hcut, hfull⟩ : ∃ fuel, 2 * cut.length + 1 ≤ fuel ∧
      2 * ((Value.object ms).print style depth).length ≤ fuel :=
    ⟨_, Nat.le_max_left .., Nat.le_max_right ..⟩
  have hlong := (readsBefore _).value hread (.inr (by simp)) more hcut
  have hwhole := (readsPrinted hs fuel).value (.object ms) depth [] hv closes_nil hfull
  rw [List.append_nil, ← hmore, hlong] at hwhole
  have hmore' : rest ++ more = [] := congrArg Prod.snd (Option.some.inj hwhole)
  apply hne
  rw [← hmore, (List.append_eq_nil_iff.1 hmore').2, List.append_nil]

end DiskHealth.Json
