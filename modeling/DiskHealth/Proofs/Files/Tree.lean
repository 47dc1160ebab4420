import DiskHealth.Proofs.Files.Path

/-!
What writing to one file of a tree keeps. It makes and removes no directory (`set_file`), so every
path leads to the same place as before (`SameDirectories`), and where a file could be replaced it
still can. The file that was replaced holds its new bytes (`read_replace`), and one that is only
touched, under a longer name beside another, changes nothing about the other
(`read_touch_ending`).
-/

namespace DiskHealth.Files.Tree

theorem bind_eq_ok_iff {ε α β : Type} {x : Except ε α} {f : α → Except ε β} {b : β} :
    x.bind f = .ok b ↔ ∃ a, x = .ok a ∧ f a = .ok b := by
  cases x <;> simp [Except.bind]

theorem map_eq_ok_iff {ε α β : Type} {x : Except ε α} {f : α → β} {b : β} :
    x.map f = .ok b ↔ ∃ a, x = .ok a ∧ f a = b := by
  cases x <;> simp [Except.map]

theorem mapError_eq_ok_iff {ε δ α : Type} {x : Except ε α} {f : ε → δ} {a : α} :
    x.mapError f = .ok a ↔ x = .ok a := by
  cases x with
  | error e => exact ⟨nofun, nofun⟩
  | ok b => exact ⟨fun h => by cases h; rfl, fun h => by cases h; rfl⟩

theorem enter_eq_ok_iff {t : Tree} {place : List String} :
    t.enter place = .ok () ↔ t.entry? place = some .directory := by
  unfold enter
  split <;> simp_all

theorem change_eq (f : Tree → Except FileError Tree) (t : Tree) :
    change f t =
      match f t with
      | .ok u => (.ok (), u)
      | .error cause => (.error cause, t) := rfl

theorem lock_eq (path : String) :
    (FileAccess.lock path : StateM Tree (Except FileError Unit)) = change (·.touch path) := rfl

theorem replace_eq (path : String) (bytes : List UInt8) :
    (FileAccess.replace path bytes : StateM Tree (Except FileError Unit)) =
      change (·.replace path bytes) := rfl

/-- Two trees have the same directories, and relative paths start at the same one. -/
structure SameDirectories (t u : Tree) : Prop where
  home : t.home = u.home
  directory : ∀ place, t.entry? place = some .directory ↔ u.entry? place = some .directory

namespace SameDirectories

variable {t u v : Tree}

theorem refl (t : Tree) : SameDirectories t t :=
  ⟨rfl, fun _ => Iff.rfl⟩

theorem symm (h : SameDirectories t u) : SameDirectories u t :=
  ⟨h.home.symm, fun place => (h.directory place).symm⟩

theorem trans (h : SameDirectories t u) (k : SameDirectories u v) : SameDirectories t v :=
  ⟨h.home.trans k.home, fun place => (h.directory place).trans (k.directory place)⟩

theorem enter (h : SameDirectories t u) {place : List String} (ht : t.enter place = .ok ()) :
    u.enter place = .ok () :=
  enter_eq_ok_iff.2 ((h.directory place).1 (enter_eq_ok_iff.1 ht))

theorem follow (h : SameDirectories t u) {place dest : List String} {ns : List String}
    (ht : t.follow place ns = .ok dest) : u.follow place ns = .ok dest := by
  induction ns generalizing place with
  | nil => exact ht
  | cons name ns ih =>
    obtain ⟨_, henter, hstep⟩ := bind_eq_ok_iff.1 ht
    obtain ⟨next, hnext, hfollow⟩ := bind_eq_ok_iff.1 hstep
    exact bind_eq_ok_iff.2
      ⟨(), h.enter henter, bind_eq_ok_iff.2 ⟨next, hnext, ih hfollow⟩⟩

theorem placeOfLast (h : SameDirectories t u) {place dest : List String} {ns : List String}
    (ht : t.placeOfLast place ns = .ok dest) : u.placeOfLast place ns = .ok dest := by
  induction ns generalizing place with
  | nil => exact ht
  | cons name ns ih =>
    cases ns with
    | nil =>
      obtain ⟨_, henter, hname⟩ := bind_eq_ok_iff.1 ht
      exact bind_eq_ok_iff.2 ⟨(), h.enter henter, hname⟩
    | cons other ns =>
      obtain ⟨_, henter, hstep⟩ := bind_eq_ok_iff.1 ht
      obtain ⟨next, hnext, hrest⟩ := bind_eq_ok_iff.1 hstep
      exact bind_eq_ok_iff.2 ⟨(), h.enter henter, bind_eq_ok_iff.2 ⟨next, hnext, ih hrest⟩⟩

theorem start (h : SameDirectories t u) (path : String) : t.start path = u.start path := by
  unfold Tree.start
  rw [h.home]

theorem place (h : SameDirectories t u) {path : String} {dest : List String}
    (ht : t.place path = .ok dest) : u.place path = .ok dest := by
  obtain ⟨_, haccept, ht⟩ := bind_eq_ok_iff.1 ht
  refine bind_eq_ok_iff.2 ⟨(), haccept, ?_⟩
  split at ht
  · cases ht
  · rename_i hne
    obtain ⟨reached, hfollow, ht⟩ := bind_eq_ok_iff.1 ht
    rw [if_neg hne, ← h.start path]
    refine bind_eq_ok_iff.2 ⟨reached, h.follow hfollow, ?_⟩
    split at ht
    · rename_i hslash
      obtain ⟨_, henter, heq⟩ := map_eq_ok_iff.1 ht
      rw [if_pos hslash]
      exact map_eq_ok_iff.2 ⟨(), h.enter henter, heq⟩
    · rename_i hslash
      rw [if_neg hslash]
      exact ht

theorem filePlace (h : SameDirectories t u) {path : String} {dest : List String}
    (ht : t.filePlace path = .ok dest) : u.filePlace path = .ok dest := by
  obtain ⟨reached, hplace, ht⟩ := bind_eq_ok_iff.1 ht
  refine bind_eq_ok_iff.2 ⟨reached, h.place hplace, ?_⟩
  split at ht
  · cases ht
  · rename_i hdirectory
    rw [if_neg fun hu => hdirectory ((h.directory reached).2 hu)]
    exact ht

theorem prepare (h : SameDirectories t u) {path : String} (ht : t.prepare path = .ok ()) :
    u.prepare path = .ok () := by
  obtain ⟨reached, hplace, -⟩ := map_eq_ok_iff.1 ht
  have habsolute : t.absolute (surrounding path) = u.absolute (surrounding path) := by
    unfold Tree.absolute
    rw [h.home]
  rw [habsolute] at hplace
  exact map_eq_ok_iff.2 ⟨reached, h.place hplace, rfl⟩

theorem target (h : SameDirectories t u) {path : String} {dest : List String}
    (ht : t.target path = .ok dest) : u.target path = .ok dest := by
  obtain ⟨_, haccept, ht⟩ := bind_eq_ok_iff.1 ht
  refine bind_eq_ok_iff.2 ⟨(), haccept, ?_⟩
  split at ht
  · cases ht
  · rename_i hne
    obtain ⟨reached, hlast, ht⟩ := bind_eq_ok_iff.1 ht
    rw [if_neg hne, ← h.start path]
    refine bind_eq_ok_iff.2 ⟨reached, h.placeOfLast hlast, ?_⟩
    split at ht
    · cases ht
    · rename_i hslash
      split at ht
      · cases ht
      · rename_i hdirectory
        rw [if_neg hslash, if_neg fun hu => hdirectory ((h.directory reached).2 hu)]
        exact ht

end SameDirectories

theorem entry?_set (t : Tree) (p q : List String) (e : Entry) :
    Tree.entry? (t.set q e) p =
      if p.isPrefixOf t.home then some .directory
      else if key q = key p then some e else t.entry? p := by
  unfold entry? set
  dsimp only
  split
  · rfl
  · rename_i h
    rw [SortedMap.get?_insert]

theorem entry?_set_of_ne (t : Tree) {p q : List String} (e : Entry) (h : key q ≠ key p) :
    Tree.entry? (t.set q e) p = t.entry? p := by
  rw [entry?_set, if_neg h]
  split
  · rename_i hhome
    exact (if_pos hhome).symm
  · rfl

/-- Bytes put where there is no directory make and remove none. -/
theorem set_file {t : Tree} {q : List String} (hq : t.entry? q ≠ some .directory)
    (bytes : List UInt8) : SameDirectories t (t.set q (.file bytes)) where
  home := rfl
  directory := by
    intro p
    rw [entry?_set]
    split
    · rename_i h
      have hhome : t.entry? p = some .directory := if_pos h
      simp [hhome]
    · rename_i h
      split
      · rename_i hkey
        have hentry : t.entry? p ≠ some .directory := by
          intro hp
          refine hq ?_
          unfold entry? at hp ⊢
          rw [if_neg h] at hp
          rw [hkey, hp, ite_self]
        simp [hentry]
      · exact Iff.rfl

theorem accept_eq_ok_iff {zero : FileError} {path : String} :
    accept zero path = .ok () ↔
      '\x00' ∉ path.toList ∧ path.utf8ByteSize ≤ longestPath := by
  unfold accept
  split
  · rename_i h
    simp_all
  · split
    · rename_i h
      simp
      omega
    · rename_i h
      simp_all

theorem follow_of_placeOfLast {t : Tree} {place dest : List String} {ns : List String}
    (h : t.placeOfLast place ns = .ok dest) : t.follow place ns = .ok dest := by
  induction ns generalizing place with
  | nil => cases h
  | cons name ns ih =>
    cases ns with
    | nil =>
      obtain ⟨_, henter, hname⟩ := bind_eq_ok_iff.1 h
      split at hname
      · cases hname
      · exact bind_eq_ok_iff.2 ⟨(), henter, bind_eq_ok_iff.2 ⟨dest, hname, rfl⟩⟩
    | cons other ns =>
      obtain ⟨_, henter, hstep⟩ := bind_eq_ok_iff.1 h
      obtain ⟨next, hnext, hrest⟩ := bind_eq_ok_iff.1 hstep
      exact bind_eq_ok_iff.2 ⟨(), henter, bind_eq_ok_iff.2 ⟨next, hnext, ih hrest⟩⟩

theorem filePlace_eq_ok {t : Tree} {path : String} {dest : List String} {zero : FileError}
    (haccept : accept zero path = .ok ()) (hne : path ≠ "") (hslash : endsInSlash path = false)
    (hfollow : t.follow (t.start path) (names path) = .ok dest) :
    t.filePlace path =
      if t.entry? dest = some .directory then .error .isDirectory else .ok dest := by
  have haccept' : accept .zeroInName path = .ok () :=
    accept_eq_ok_iff.2 (accept_eq_ok_iff.1 haccept)
  simp [filePlace, place, haccept', hne, hslash, hfollow, Except.bind]

/-- The place whose name a replaced file takes is the one that its path leads to. -/
theorem filePlace_of_target {t : Tree} {path : String} {dest : List String}
    (h : t.target path = .ok dest) :
    t.filePlace path = .ok dest ∧ t.entry? dest ≠ some .directory := by
  obtain ⟨_, haccept, h⟩ := bind_eq_ok_iff.1 h
  split at h
  · cases h
  · rename_i hne
    obtain ⟨reached, hlast, h⟩ := bind_eq_ok_iff.1 h
    split at h
    · cases h
    · rename_i hslash
      split at h
      · cases h
      · rename_i hdirectory
        cases h
        have hfollow := follow_of_placeOfLast hlast
        rw [filePlace_eq_ok haccept hne (by simpa using hslash) hfollow, if_neg hdirectory]
        exact ⟨rfl, hdirectory⟩

theorem replace_eq_ok_iff {t u : Tree} {path : String} {bytes : List UInt8} :
    t.replace path bytes = .ok u ↔
      t.prepare path = .ok () ∧
        ∃ place, t.target path = .ok place ∧ t.set place (.file bytes) = u := by
  unfold replace
  rw [bind_eq_ok_iff]
  constructor
  · rintro ⟨_, hprepare, h⟩
    exact ⟨hprepare, map_eq_ok_iff.1 h⟩
  · rintro ⟨hprepare, h⟩
    exact ⟨(), hprepare, map_eq_ok_iff.2 h⟩

theorem replace_sameDirectories {t u : Tree} {path : String} {bytes : List UInt8}
    (h : t.replace path bytes = .ok u) : SameDirectories t u := by
  obtain ⟨-, place, htarget, rfl⟩ := replace_eq_ok_iff.1 h
  exact set_file (filePlace_of_target htarget).2 bytes

/-- A replaced file holds the bytes that were put in its place. -/
theorem read_replace {t u : Tree} {path : String} {bytes : List UInt8}
    (h : t.replace path bytes = .ok u) : u.read path = .ok bytes := by
  have hsame := replace_sameDirectories h
  obtain ⟨-, place, htarget, rfl⟩ := replace_eq_ok_iff.1 h
  obtain ⟨hplace, hdirectory⟩ := filePlace_of_target htarget
  have hhome : place.isPrefixOf t.home = false := by
    refine Bool.eq_false_iff.2 fun hp => hdirectory ?_
    exact if_pos hp
  have hentry : Tree.entry? (t.set place (.file bytes)) place = some (.file bytes) := by
    rw [entry?_set, hhome]
    simp
  exact bind_eq_ok_iff.2 ⟨place, hsame.filePlace hplace, by rw [hentry]⟩

/-- A file that can be replaced in one tree can be in all with the same directories. -/
theorem SameDirectories.replace {t u v : Tree} (h : SameDirectories t v) {path : String}
    {bytes : List UInt8} (ht : t.replace path bytes = .ok u) (other : List UInt8) :
    ∃ w, v.replace path other = .ok w := by
  obtain ⟨hprepare, place, htarget, -⟩ := replace_eq_ok_iff.1 ht
  exact ⟨_, replace_eq_ok_iff.2 ⟨h.prepare hprepare, place, h.target htarget, rfl⟩⟩

theorem SameDirectories.touch {t u v : Tree} (h : SameDirectories t v) {path : String}
    (ht : t.touch path = .ok u) : ∃ w, v.touch path = .ok w := by
  obtain ⟨place, hplace, -⟩ := map_eq_ok_iff.1 ht
  exact ⟨_, map_eq_ok_iff.2 ⟨place, h.filePlace hplace, rfl⟩⟩

/-- A file that is touched was there, or it is new where nothing was. -/
theorem touch_cases {t u : Tree} {path : String} (h : t.touch path = .ok u) :
    u = t ∨ ∃ q, t.place path = .ok q ∧ t.entry? q = none ∧ u = t.set q (.file []) := by
  obtain ⟨q, hfile, heq⟩ := map_eq_ok_iff.1 h
  obtain ⟨reached, hplace, hq⟩ := bind_eq_ok_iff.1 hfile
  split at hq
  · cases hq
  · cases hq
    split at heq
    · exact .inl heq.symm
    · rename_i hnone
      exact .inr ⟨q, hplace, by simpa using hnone, heq.symm⟩

theorem touch_sameDirectories {t u : Tree} {path : String} (h : t.touch path = .ok u) :
    SameDirectories t u := by
  rcases touch_cases h with rfl | ⟨q, -, hq, rfl⟩
  · exact .refl _
  · exact set_file (by simp [hq]) []

theorem follow_append (t : Tree) (place : List String) (ns ms : List String) :
    t.follow place (ns ++ ms) = (t.follow place ns).bind fun dest => t.follow dest ms := by
  induction ns generalizing place with
  | nil => rfl
  | cons name ns ih =>
    rw [List.cons_append, follow, follow]
    cases t.enter place with
    | error e => rfl
    | ok _ =>
      cases step place name with
      | error e => rfl
      | ok next => exact ih next

theorem place_eq_ok {t : Tree} {path : String} {dest : List String}
    (h : t.place path = .ok dest) :
    accept .zeroInName path = .ok () ∧ t.follow (t.start path) (names path) = .ok dest := by
  obtain ⟨_, haccept, h⟩ := bind_eq_ok_iff.1 h
  refine ⟨haccept, ?_⟩
  split at h
  · cases h
  · obtain ⟨reached, hfollow, h⟩ := bind_eq_ok_iff.1 h
    split at h
    · obtain ⟨_, -, rfl⟩ := map_eq_ok_iff.1 h
      exact hfollow
    · cases h
      exact hfollow

theorem read_directory {t : Tree} {path : String} {dest : List String}
    (h : t.place path = .ok dest) (hdest : t.entry? dest = some .directory) :
    t.read path = .error .isDirectory := by
  simp [read, filePlace, h, hdest, Except.bind]

/-- What is read at a path that may lead to a file. -/
theorem read_eq {t : Tree} {path : String} {dest : List String}
    (haccept : accept .zeroInName path = .ok ()) (hne : path ≠ "")
    (hslash : endsInSlash path = false)
    (hfollow : t.follow (t.start path) (names path) = .ok dest) :
    t.read path =
      match t.entry? dest with
      | some (.file bytes) => .ok bytes
      | some .directory => .error .isDirectory
      | none => .error .notFound := by
  unfold read
  rw [filePlace_eq_ok haccept hne hslash hfollow]
  cases hentry : t.entry? dest with
  | none => simp [Except.bind, hentry]
  | some entry => cases entry <;> simp [Except.bind, hentry]

/-- A name that is longer by an ending leads to another place than the name itself. -/
theorem step_append {place dest : List String} {name ending : String} (hlong : 2 < ending.length)
    (h : step place (name ++ ending) = .ok dest) :
    ∃ other, step place name = .ok other ∧ key dest ≠ key other := by
  have hlength : 2 < (name ++ ending).length := by
    rw [String.length_append]
    omega
  have hcurrent : name ++ ending ≠ current := fun heq => by
    rw [heq] at hlength
    exact absurd hlength (by decide)
  have hparent : name ++ ending ≠ parent := fun heq => by
    rw [heq] at hlength
    exact absurd hlength (by decide)
  unfold step at h
  rw [if_neg hcurrent, if_neg hparent] at h
  split at h
  · cases h
  · rename_i hsize
    cases h
    have hkey : (key place).length < (key (place ++ [name ++ ending])).length := by
      have hconcat := length_key_concat place (name ++ ending)
      omega
    have hbytes : ¬longestName < name.utf8ByteSize := by
      rw [String.utf8ByteSize_append] at hsize
      omega
    unfold step
    rw [if_neg hbytes]
    split
    · refine ⟨place, rfl, fun heq => ?_⟩
      rw [heq] at hkey
      omega
    · split
      · refine ⟨place.dropLast, rfl, fun heq => ?_⟩
        have hdrop := length_key_dropLast place
        rw [heq] at hkey
        omega
      · refine ⟨place ++ [name], rfl, fun heq => ?_⟩
        have happend := length_key_append place name ending
        rw [heq] at happend
        omega

theorem accept_of_append {zero : FileError} {path ending : String}
    (h : accept zero (path ++ ending) = .ok ()) : accept zero path = .ok () := by
  obtain ⟨hzero, hsize⟩ := accept_eq_ok_iff.1 h
  rw [String.toList_append, List.mem_append, not_or] at hzero
  rw [String.utf8ByteSize_append] at hsize
  exact accept_eq_ok_iff.2 ⟨hzero.1, by omega⟩

theorem isAbsolute_append {path : String} (ending : String) (hne : path ≠ "") :
    isAbsolute (path ++ ending) = isAbsolute path := by
  unfold isAbsolute
  rw [String.toList_append]
  cases hlist : path.toList with
  | nil => exact absurd (String.toList_eq_nil_iff.1 hlist) hne
  | cons c cs => rfl

/-- A file that is touched under a longer name beside another changes nothing about the other. -/
theorem read_touch_ending {t u : Tree} {path ending : String} (hslash : '/' ∉ ending.toList)
    (hlong : 2 < ending.length) (h : t.touch (path ++ ending) = .ok u) :
    u.read path = t.read path := by
  have hsame := touch_sameDirectories h
  rcases touch_cases h with rfl | ⟨q, hplace, -, rfl⟩
  · rfl
  by_cases hne : path = ""
  · subst hne
    rfl
  obtain ⟨haccept, hfollow⟩ := place_eq_ok hplace
  have hpath := accept_of_append haccept
  have hstart : t.start (path ++ ending) = t.start path := by
    unfold start
    rw [isAbsolute_append ending hne]
  rw [hstart] at hfollow
  have hending : ending ≠ "" := fun heq => by
    rw [heq] at hlong
    exact absurd hlong (by decide)
  rcases names_append path hslash hending with
    ⟨hend, hnames⟩ | ⟨⟨-, hend⟩, before, last, -, hpathNames, hnames⟩
  · have hend := hend.resolve_left hne
    rw [hnames, follow_append] at hfollow
    obtain ⟨dest, hdest, hlast⟩ := bind_eq_ok_iff.1 hfollow
    obtain ⟨_, henter, -⟩ := bind_eq_ok_iff.1 hlast
    have hdirectory := enter_eq_ok_iff.1 henter
    have hread : t.place path = .ok dest := by
      simp [place, hpath, hne, hdest, hend, henter, Except.bind, Except.map]
    rw [read_directory hread hdirectory,
      read_directory (hsame.place hread) ((hsame.directory dest).1 hdirectory)]
  · rw [hnames, follow_append] at hfollow
    obtain ⟨dest, hdest, hlast⟩ := bind_eq_ok_iff.1 hfollow
    obtain ⟨_, henter, hstep⟩ := bind_eq_ok_iff.1 hlast
    obtain ⟨reached, hreached, heq⟩ := bind_eq_ok_iff.1 hstep
    cases heq
    obtain ⟨other, hother, hkey⟩ := step_append hlong hreached
    have hto : t.follow (t.start path) (names path) = .ok other := by
      rw [hpathNames, follow_append]
      exact bind_eq_ok_iff.2 ⟨dest, hdest, bind_eq_ok_iff.2
        ⟨(), henter, bind_eq_ok_iff.2 ⟨other, hother, rfl⟩⟩⟩
    have hentry := entry?_set_of_ne t (.file []) hkey
    have hto' := hsame.follow hto
    rw [hsame.start path] at hto'
    rw [read_eq hpath hne hend hto, read_eq hpath hne hend hto', hentry]

end DiskHealth.Files.Tree
