import DiskHealth.Text.Utf8

/-!
Bytes of texts read back. The bytes of one character, whatever follows them, are decoded to that
character and the rest (`decode_encodeChar_append`), so every text is what its bytes say
(`toString?_ofString`). A sequence of each length is read by one lemma that asks only for the ranges
of its bytes; the ranges of the encoder are then arithmetic on the code point.
-/

namespace DiskHealth.Text.Utf8

theorem toNat_byte {n : Nat} (h : n < 0x100) : n.toUInt8.toNat = n := by
  rw [Nat.toUInt8_eq, UInt8.toNat_ofNat', Nat.mod_eq_of_lt h]

theorem isContinuation_iff {b : UInt8} :
    isContinuation b = true ↔ 0x80 ≤ b.toNat ∧ b.toNat < 0xC0 := by
  simp [isContinuation, UInt8.le_iff_toNat_le, UInt8.lt_iff_toNat_lt]

/-- The second byte of a sequence continues it, within tighter bounds after four of the leads. -/
theorem isSecond_iff {a b : UInt8} :
    isSecond a b = true ↔ (0x80 ≤ b.toNat ∧ b.toNat < 0xC0) ∧
      (a.toNat = 0xE0 → 0xA0 ≤ b.toNat) ∧ (a.toNat = 0xED → b.toNat < 0xA0) ∧
      (a.toNat = 0xF0 → 0x90 ≤ b.toNat) ∧ (a.toNat = 0xF4 → b.toNat < 0x90) := by
  unfold isSecond isContinuation
  simp only [← UInt8.toNat_inj, UInt8.le_iff_toNat_le, UInt8.lt_iff_toNat_lt, UInt8.toNat_ofNat,
    Nat.reducePow, Nat.reduceMod]
  repeat' split
  all_goals
    rw [Bool.and_eq_true, decide_eq_true_iff, decide_eq_true_iff]
    omega

theorem decode_one {a : UInt8} (rest : List UInt8) (ha : a.toNat < 0x80) :
    decode (a :: rest) = (decode rest).map (Char.ofNat a.toNat :: ·) := by
  rw [decode.eq_def]
  simp only [UInt8.lt_iff_toNat_lt, UInt8.toNat_ofNat, Nat.reducePow, Nat.reduceMod]
  rw [if_pos ha]

theorem decode_two {a b : UInt8} (rest : List UInt8) (hlow : 0xC2 ≤ a.toNat)
    (hhigh : a.toNat < 0xE0) (hb : isContinuation b = true) :
    decode (a :: b :: rest) =
      (decode rest).map (Char.ofNat ((a.toNat - 0xC0) * 0x40 + bits b) :: ·) := by
  rw [decode.eq_def]
  simp only [UInt8.lt_iff_toNat_lt, UInt8.toNat_ofNat, Nat.reducePow, Nat.reduceMod]
  rw [if_neg (by omega), if_neg (by omega), if_pos hhigh, if_pos hb]

theorem decode_three {a b c : UInt8} (rest : List UInt8) (hlow : 0xE0 ≤ a.toNat)
    (hhigh : a.toNat < 0xF0) (hb : isSecond a b = true) (hc : isContinuation c = true) :
    decode (a :: b :: c :: rest) =
      (decode rest).map
        (Char.ofNat ((a.toNat - 0xE0) * 0x1000 + bits b * 0x40 + bits c) :: ·) := by
  rw [decode.eq_def]
  simp only [UInt8.lt_iff_toNat_lt, UInt8.toNat_ofNat, Nat.reducePow, Nat.reduceMod]
  rw [if_neg (by omega), if_neg (by omega), if_neg (by omega), if_pos hhigh, hb, hc]
  rfl

theorem decode_four {a b c d : UInt8} (rest : List UInt8) (hlow : 0xF0 ≤ a.toNat)
    (hhigh : a.toNat < 0xF5) (hb : isSecond a b = true) (hc : isContinuation c = true)
    (hd : isContinuation d = true) :
    decode (a :: b :: c :: d :: rest) =
      (decode rest).map
        (Char.ofNat
          ((a.toNat - 0xF0) * 0x40000 + bits b * 0x1000 + bits c * 0x40 + bits d) :: ·) := by
  rw [decode.eq_def]
  simp only [UInt8.lt_iff_toNat_lt, UInt8.toNat_ofNat, Nat.reducePow, Nat.reduceMod]
  rw [if_neg (by omega), if_neg (by omega), if_neg (by omega), if_neg (by omega), if_pos hhigh,
    hb, hc, hd]
  rfl

/-- The bytes of a character are read back as that character, whatever follows them. -/
theorem decode_encodeChar_append (c : Char) (rest : List UInt8) :
    decode (encodeChar c ++ rest) = (decode rest).map (c :: ·) := by
  have hvalid : c.toNat < 0xD800 ∨ 0xDFFF < c.toNat ∧ c.toNat < 0x110000 := c.valid
  have hback : ∀ n, n = c.toNat →
      (decode rest).map (Char.ofNat n :: ·) = (decode rest).map (c :: ·) := by
    intro n hn
    rw [hn, Char.ofNat_toNat]
  unfold encodeChar
  dsimp only
  split
  · rename_i h
    have ha := toNat_byte (n := c.toNat) (by omega)
    rw [List.singleton_append, decode_one rest (by omega)]
    exact hback _ ha
  · split
    · rename_i _ h
      have ha := toNat_byte (n := 0xC0 + c.toNat / 0x40) (by omega)
      have hb := toNat_byte (n := 0x80 + c.toNat % 0x40) (by omega)
      refine (decode_two rest ?_ ?_ (isContinuation_iff.2 ?_)).trans (hback _ ?_)
      all_goals
        simp only [bits, ha, hb]
        omega
    · split
      · rename_i _ _ h
        have ha := toNat_byte (n := 0xE0 + c.toNat / 0x1000) (by omega)
        have hb := toNat_byte (n := 0x80 + c.toNat / 0x40 % 0x40) (by omega)
        have hc := toNat_byte (n := 0x80 + c.toNat % 0x40) (by omega)
        refine (decode_three rest ?_ ?_ (isSecond_iff.2 ?_) (isContinuation_iff.2 ?_)).trans
          (hback _ ?_)
        all_goals
          simp only [bits, ha, hb, hc]
          omega
      · have ha := toNat_byte (n := 0xF0 + c.toNat / 0x40000) (by omega)
        have hb := toNat_byte (n := 0x80 + c.toNat / 0x1000 % 0x40) (by omega)
        have hc := toNat_byte (n := 0x80 + c.toNat / 0x40 % 0x40) (by omega)
        have hd := toNat_byte (n := 0x80 + c.toNat % 0x40) (by omega)
        refine (decode_four rest ?_ ?_ (isSecond_iff.2 ?_) (isContinuation_iff.2 ?_)
          (isContinuation_iff.2 ?_)).trans (hback _ ?_)
        all_goals
          simp only [bits, ha, hb, hc, hd]
          omega

theorem decode_encode (cs : List Char) : decode (encode cs) = some cs := by
  induction cs with
  | nil => rfl
  | cons c cs ih =>
    have hcons : encode (c :: cs) = encodeChar c ++ encode cs := rfl
    rw [hcons, decode_encodeChar_append, ih]
    rfl

/-- A string's bytes are read back as the string. -/
theorem toString?_ofString (s : String) : toString? (ofString s) = some s := by
  unfold toString? ofString
  rw [decode_encode, Option.map_some, String.ofList_toList]

/-! ### Bytes cut off -/

/-- Bytes that are a text by themselves stay one in front of others. -/
theorem decode_append {bytes : List UInt8} {cs : List Char} (h : decode bytes = some cs)
    (more : List UInt8) : decode (bytes ++ more) = (decode more).map (cs ++ ·) := by
  fun_induction decode bytes generalizing cs with
  | case1 =>
    cases h
    simp
  | case2 a rest hone ih =>
    obtain ⟨ds, hds, rfl⟩ := Option.map_eq_some_iff.1 h
    rw [List.cons_append, decode.eq_def]
    simp [hone, ih hds, Function.comp_def]
  | case4 a hone hlead htwo b rest hb ih =>
    obtain ⟨ds, hds, rfl⟩ := Option.map_eq_some_iff.1 h
    simp [decode, hone, hlead, htwo, hb, ih hds, Function.comp_def]
  | case7 a hone hlead htwo hthree b c rest hbc ih =>
    obtain ⟨ds, hds, rfl⟩ := Option.map_eq_some_iff.1 h
    simp only [List.cons_append, decode, hone, hlead, htwo, hthree, hbc, ih hds]
    simp [Function.comp_def]
  | case10 a hone hlead htwo hthree hfour b c d rest hbcd ih =>
    obtain ⟨ds, hds, rfl⟩ := Option.map_eq_some_iff.1 h
    simp only [List.cons_append, decode, hone, hlead, htwo, hthree, hfour, hbcd, ih hds]
    simp [Function.comp_def]
  | case3 | case5 | case6 | case8 | case9 | case11 | case12 | case13 => cases h

theorem eq_nil_of_decode {bytes : List UInt8} (h : decode bytes = some []) : bytes = [] := by
  revert h
  fun_cases decode bytes <;> simp

/-- Some first bytes of a string are no text, or a text that the string goes on from. -/
theorem toString?_of_cut {s part : String} {cut : List UInt8} (hcut : cut <+: ofString s)
    (hne : cut ≠ ofString s) (h : toString? cut = some part) :
    part.toList <+: s.toList ∧ part.toList ≠ s.toList := by
  obtain ⟨more, hmore⟩ := hcut
  obtain ⟨cs, hcs, rfl⟩ := Option.map_eq_some_iff.1 h
  have hwhole := decode_encode s.toList
  unfold ofString at hmore hne
  rw [← hmore, decode_append hcs] at hwhole
  obtain ⟨ds, hds, hsplit⟩ := Option.map_eq_some_iff.1 hwhole
  rw [String.toList_ofList, ← hsplit]
  refine ⟨List.prefix_append cs ds, fun heq => hne ?_⟩
  obtain rfl : ds = [] := List.self_eq_append_right.1 heq
  rw [← hmore, eq_nil_of_decode hds, List.append_nil]

end DiskHealth.Text.Utf8
