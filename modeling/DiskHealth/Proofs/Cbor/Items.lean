import DiskHealth.Cbor.Form
import DiskHealth.Proofs.Text.Utf8
import Mathlib.Algebra.Group.Nat.Defs

/-!
Items read back from their bytes. A reader takes back bytes (`Reads`) if it finds their value in
front of whatever follows them, and finds nothing in fewer of them. Readers that run one after the
other take back their bytes one after the other (`Reads.bind`): where the bytes break off, they
break off inside the first part or inside the second. So it is enough to look at one head, number or
text at a time.
-/

namespace DiskHealth.Cbor

/-- A reader takes `bytes` for the value `a` in front of anything, and takes no strict prefix. -/
structure Reads (read : List UInt8 → Option (α × List UInt8)) (bytes : List UInt8) (a : α) :
    Prop where
  append : ∀ rest, read (bytes ++ rest) = some (a, rest)
  cut : ∀ cut, cut <+: bytes → cut ≠ bytes → read cut = none

namespace Reads

variable {read : List UInt8 → Option (α × List UInt8)} {bytes more : List UInt8} {a : α} {b : β}

theorem pure (a : α) : Reads (fun input => some (a, input)) [] a where
  append _ := rfl
  cut _ hcut hne := absurd (List.prefix_nil.1 hcut) hne

theorem bind {next : α × List UInt8 → Option (β × List UInt8)} (h : Reads read bytes a)
    (hnext : Reads (fun input => next (a, input)) more b) :
    Reads (fun input => (read input).bind next) (bytes ++ more) b where
  append rest := by
    show (read (bytes ++ more ++ rest)).bind next = _
    rw [List.append_assoc, h.append]
    exact hnext.append rest
  cut cut hcut hne := by
    show (read cut).bind next = none
    rcases List.prefix_or_prefix_of_prefix hcut (List.prefix_append bytes more) with hshort | hlong
    · by_cases hwhole : cut = bytes
      · subst hwhole
        have hmore : [] ≠ more := fun hnil => hne (by rw [← hnil, List.append_nil])
        have hread := h.append []
        rw [List.append_nil] at hread
        rw [hread]
        exact hnext.cut [] List.nil_prefix hmore
      · rw [h.cut cut hshort hwhole]
        rfl
    · obtain ⟨part, rfl⟩ := hlong
      have hpart : part ≠ more := fun heq => hne (by rw [heq])
      rw [h.append]
      exact hnext.cut part ((List.prefix_append_right_inj bytes).1 hcut) hpart

/-- What comes after the bytes reads nothing more. -/
theorem last {next : α × List UInt8 → Option (β × List UInt8)} (h : Reads read bytes a)
    (hnext : ∀ input, next (a, input) = some (b, input)) :
    Reads (fun input => (read input).bind next) bytes b := by
  have hpure : Reads (fun input => next (a, input)) [] b := by
    rw [funext hnext]
    exact pure b
  have hread := h.bind hpure
  rwa [List.append_nil] at hread

theorem map {f : α × List UInt8 → β × List UInt8} (h : Reads read bytes a)
    (hf : ∀ input, f (a, input) = (b, input)) :
    Reads (fun input => (read input).map f) bytes b := by
  have hread : Reads (fun input => (read input).bind fun r => some (f r)) bytes b :=
    h.last fun input => congrArg some (hf input)
  simpa [Option.map_eq_bind, Function.comp_def] using hread

end Reads

/-! ### Numbers -/

theorem length_bigEndian (count n : Nat) : (bigEndian count n).length = count := by
  induction count generalizing n with
  | zero => rfl
  | succ count ih => rw [bigEndian, List.length_append, ih]; rfl

theorem ofBigEndian_bigEndian {count n : Nat} (h : n < 256 ^ count) :
    ofBigEndian 0 (bigEndian count n) = n := by
  induction count generalizing n with
  | zero =>
    rw [Nat.pow_zero] at h
    show 0 = n
    omega
  | succ count ih =>
    have hhigh : n / 256 < 256 ^ count := by
      rw [Nat.pow_succ] at h
      exact (Nat.div_lt_iff_lt_mul (by decide)).2 h
    have hvalue := ih hhigh
    unfold ofBigEndian at hvalue
    rw [ofBigEndian, bigEndian, List.foldl_append, hvalue]
    show 256 * (n / 256) + n.toUInt8.toNat = n
    rw [Nat.toUInt8_eq, UInt8.toNat_ofNat']
    omega

theorem reads_takeBytes {count : Nat} {bytes : List UInt8} (h : bytes.length = count) :
    Reads (takeBytes count) bytes bytes where
  append rest := by
    have henough : ¬(bytes ++ rest).length < bytes.length := by
      rw [List.length_append]
      omega
    rw [← h, takeBytes, if_neg henough, List.take_left, List.drop_left]
  cut cut hcut hne := by
    have hlength : cut.length ≠ bytes.length := fun heq => hne (hcut.eq_of_length heq)
    have hshort : cut.length < count := by
      have := hcut.length_le
      omega
    rw [takeBytes, if_pos hshort]

theorem reads_number {count n : Nat} (h : n < 256 ^ count) :
    Reads (readNumber count) (bigEndian count n) (.number n) := by
  refine (reads_takeBytes (length_bigEndian count n)).map fun input => ?_
  rw [ofBigEndian_bigEndian h]

/-! ### Heads -/

theorem toNat_leadByte {major info : Nat} (hmajor : major < 8) (hinfo : info < 32) :
    (leadByte major info).toNat = 32 * major + info := by
  rw [leadByte, Nat.toUInt8_eq, UInt8.toNat_ofNat']
  omega

/-- The first byte of a head says how its argument is read from the others. -/
theorem exists_head (major : Nat) {n : Nat} (h : n < 2 ^ 64) :
    ∃ info tail, head major n = leadByte major info :: tail ∧ info < 32 ∧
      Reads (readArgument info) tail (.number n) := by
  unfold head
  split
  · rename_i hsmall
    refine ⟨n, [], rfl, by omega, ?_⟩
    have hread : readArgument n = fun input => some (.number n, input) := by
      funext input
      rw [readArgument, if_pos hsmall]
    rw [hread]
    exact .pure _
  · split
    · exact ⟨24, _, rfl, by decide, reads_number (by omega)⟩
    · split
      · exact ⟨25, _, rfl, by decide, reads_number (by omega)⟩
      · split
        · exact ⟨26, _, rfl, by decide, reads_number (by omega)⟩
        · exact ⟨27, _, rfl, by decide, reads_number (by omega)⟩

theorem readHead_cons {major info : Nat} (hmajor : major < 8) (hinfo : info < 32)
    (rest : List UInt8) :
    readHead (leadByte major info :: rest) =
      (readArgument info rest).map fun r => (major, r.1, r.2) := by
  have hbyte := toNat_leadByte hmajor hinfo
  have hlow : (32 * major + info) % 32 = info := by omega
  have hhigh : (32 * major + info) / 32 = major := by omega
  rw [readHead, hbyte, hlow, hhigh]

section Head

variable {major n : Nat} (hmajor : major < 8) (h : n < 2 ^ 64)

include hmajor h

theorem readHead_head (rest : List UInt8) :
    readHead (head major n ++ rest) = some (major, .number n, rest) := by
  obtain ⟨info, tail, hhead, hinfo, hread⟩ := exists_head major h
  rw [hhead, List.cons_append, readHead_cons hmajor hinfo, hread.append]
  rfl

theorem readHead_cut {cut : List UInt8} (hcut : cut <+: head major n) (hne : cut ≠ head major n) :
    readHead cut = none := by
  obtain ⟨info, tail, hhead, hinfo, hread⟩ := exists_head major h
  rw [hhead] at hcut hne
  rcases List.prefix_cons_iff.1 hcut with rfl | ⟨part, rfl, hpart⟩
  · rfl
  · have hshort : part ≠ tail := fun heq => hne (by rw [heq])
    rw [readHead_cons hmajor hinfo, hread.cut part hpart hshort]
    rfl

theorem reads_major : Reads (readMajor major) (head major n) (.number n) where
  append rest := by simp [readMajor, readHead_head hmajor h]
  cut cut hcut hne := by rw [readMajor, readHead_cut hmajor h hcut hne]

end Head

/-! ### Integers and texts -/

theorem reads_int {n : Int} (hlow : -0x8000000000000000 ≤ n) (hhigh : n < 0x8000000000000000) :
    Reads readInt (writeInt n) n := by
  unfold writeInt
  split
  · rename_i hneg
    have hmajor : Major.negative < 8 := by decide
    have harg : (-1 - n).toNat < 2 ^ 64 := by omega
    have hback : -1 - ((-1 - n).toNat : Int) = n := by omega
    refine ⟨fun rest => ?_, fun cut hcut hne => ?_⟩
    · simp only [readInt, readHead_head hmajor harg, hback]
      rfl
    · rw [readInt, readHead_cut hmajor harg hcut hne]
  · rename_i hpos
    have hmajor : Major.unsigned < 8 := by decide
    have harg : n.toNat < 2 ^ 64 := by omega
    have hback : (n.toNat : Int) = n := by omega
    refine ⟨fun rest => ?_, fun cut hcut hne => ?_⟩
    · simp only [readInt, readHead_head hmajor harg, hback]
      rfl
    · rw [readInt, readHead_cut hmajor harg hcut hne]

/-- The length of a text in bytes has a head. -/
def TextFits (s : String) : Prop :=
  (Text.Utf8.ofString s).length < 2 ^ 64

instance (s : String) : Decidable (TextFits s) :=
  inferInstanceAs (Decidable (_ < _))

theorem reads_text {s : String} (h : TextFits s) : Reads readText (writeText s) s := by
  have hhead := reads_major (by decide : Major.text < 8) h
  refine hhead.bind ?_
  refine (reads_takeBytes rfl).last fun input => ?_
  show (Text.Utf8.toString? _).bind _ = _
  rw [Text.Utf8.toString?_ofString]
  rfl

end DiskHealth.Cbor
