import DiskHealth.Proofs.Files.Tree

/-!
What is left alone. A change to some files shows at the places that their paths lead to and nowhere
else (`SameBut`); touching and replacing are such changes, and one after the other they change no
more than both. So a path that leads elsewhere finds the same bytes (`SameBut.bytes?_eq`). A file
that is replaced by what it already holds leaves the whole tree as it was (`replace_again`).
-/

namespace DiskHealth.Files.Tree

/-- The bytes of the file that a path leads to, if there is one. -/
def bytes? (t : Tree) (path : String) : Option (List UInt8) :=
  (t.read path).toOption

/-- Two paths do not lead to the same place, as two spellings of one path do. -/
def Apart (t : Tree) (path other : String) : Prop :=
  ∀ p q, t.place path = .ok p → t.place other = .ok q → key p ≠ key q

/-- Two trees differ at most in the files that some paths lead to. -/
structure SameBut (paths : List String) (t u : Tree) : Prop where
  directories : SameDirectories t u
  entry : ∀ p, (∀ path ∈ paths, ∀ q, t.place path = .ok q → key q ≠ key p) →
    u.entry? p = t.entry? p

theorem bytes?_eq_some_iff {t : Tree} {path : String} {bytes : List UInt8} :
    t.bytes? path = some bytes ↔ ∃ p, t.place path = .ok p ∧ t.entry? p = some (.file bytes) := by
  unfold bytes? read filePlace
  cases hplace : t.place path with
  | error cause => simp [Except.bind, Except.toOption]
  | ok p =>
    cases hentry : t.entry? p with
    | none => simp [Except.bind, Except.toOption, hentry]
    | some entry => cases entry <;> simp [Except.bind, Except.toOption, hentry]

theorem read_eq_ok_iff {t : Tree} {path : String} {bytes : List UInt8} :
    t.read path = .ok bytes ↔ t.bytes? path = some bytes := by
  unfold bytes?
  cases t.read path <;> simp [Except.toOption]

theorem apart_of_places {t : Tree} {path other : String} {p q : List String}
    (hp : t.place path = .ok p) (hq : t.place other = .ok q) (h : key p ≠ key q) :
    t.Apart path other := by
  intro p' q' hp' hq'
  cases hp.symm.trans hp'
  cases hq.symm.trans hq'
  exact h

theorem SameDirectories.place_iff {t u : Tree} (h : SameDirectories t u) {path : String}
    {p : List String} : t.place path = .ok p ↔ u.place path = .ok p :=
  ⟨h.place, h.symm.place⟩

namespace SameBut

variable {t u v : Tree} {paths others : List String}

theorem refl (paths : List String) (t : Tree) : SameBut paths t t :=
  ⟨.refl t, fun _ _ => rfl⟩

theorem trans (h : SameBut paths t u) (k : SameBut others u v) :
    SameBut (paths ++ others) t v where
  directories := h.directories.trans k.directories
  entry := by
    intro p hp
    rw [k.entry p, h.entry p]
    · exact fun path hpath => hp path (List.mem_append_left _ hpath)
    · intro path hpath q hq
      exact hp path (List.mem_append_right _ hpath) q (h.directories.place_iff.2 hq)

/-- A path that leads to none of the places in question finds what it found before. -/
theorem bytes?_eq (h : SameBut paths t u) {path : String}
    (hapart : ∀ other ∈ paths, t.Apart path other) : u.bytes? path = t.bytes? path := by
  refine Option.ext fun bytes => ?_
  rw [bytes?_eq_some_iff, bytes?_eq_some_iff]
  refine exists_congr fun p => ?_
  rw [← h.directories.place_iff]
  refine and_congr_right fun hp => ?_
  rw [h.entry p fun other hother q hq => (hapart other hother p q hp hq).symm]

end SameBut

theorem set_sameBut {t : Tree} {path : String} {p : List String} (hplace : t.place path = .ok p)
    (hp : t.entry? p ≠ some .directory) (bytes : List UInt8) :
    SameBut [path] t (t.set p (.file bytes)) where
  directories := set_file hp bytes
  entry := by
    intro q hq
    exact entry?_set_of_ne t _ (hq path List.mem_cons_self p hplace)

theorem touch_sameBut {t u : Tree} {path : String} (h : t.touch path = .ok u) :
    SameBut [path] t u := by
  rcases touch_cases h with rfl | ⟨p, hplace, hnone, rfl⟩
  · exact .refl _ _
  · exact set_sameBut hplace (by simp [hnone]) []

theorem place_of_target {t : Tree} {path : String} {p : List String} (h : t.target path = .ok p) :
    t.place path = .ok p := by
  obtain ⟨q, hplace, hq⟩ := bind_eq_ok_iff.1 (filePlace_of_target h).1
  split at hq
  · cases hq
  · cases hq
    exact hplace

theorem replace_sameBut {t u : Tree} {path : String} {bytes : List UInt8}
    (h : t.replace path bytes = .ok u) : SameBut [path] t u := by
  obtain ⟨-, p, htarget, rfl⟩ := replace_eq_ok_iff.1 h
  exact set_sameBut (place_of_target htarget) (filePlace_of_target htarget).2 bytes

/-- What is put where it already is changes nothing. -/
theorem set_set (t : Tree) (p : List String) (e : Entry) : Tree.set (t.set p e) p e = t.set p e := by
  unfold set
  congr 1
  refine SortedMap.ext_get? fun other => ?_
  simp only [SortedMap.get?_insert]
  split <;> rfl

/-- A file takes the same bytes again, and the tree stays as it is. -/
theorem replace_again {t u : Tree} {path : String} {bytes : List UInt8}
    (h : t.replace path bytes = .ok u) : u.replace path bytes = .ok u := by
  have hsame := replace_sameDirectories h
  obtain ⟨hprepare, p, htarget, rfl⟩ := replace_eq_ok_iff.1 h
  apply replace_eq_ok_iff.2
  exact ⟨hsame.prepare hprepare, p, hsame.target htarget, set_set t p _⟩

end DiskHealth.Files.Tree
