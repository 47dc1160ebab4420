/-!
Lists with headings. A heading starts a record, or resumes it, and an item that is no heading belongs
to the record of the nearest heading before it. `under` takes the items of one record from a list,
position by position; over lists put together it gives what it gives for each, where the second goes
on from the last heading of the first (`under_append`). Items of other records do not count for it
(`EditedOutside.under_eq`).
-/

namespace DiskHealth.Telemetry

variable {α : Type u} {β : Type v} (heading? : α → Option β)

/-- The last heading of a list. -/
def lastHeading? (items : List α) : Option β :=
  items.reverse.findSome? heading?

/-- The items of a list that are no headings, and for which the nearest heading before them is
`name`; where no heading is before them, `current` counts as one. -/
def under [DecidableEq β] (current : Option β) (name : β) (items : List α) : List α :=
  (items.zipIdx.filter fun p =>
    (heading? p.1).isNone && (lastHeading? heading? (items.take p.2)).or current == some name).map
      (·.1)

/-- One list is the other after some items were put in, taken out or changed, none of them a heading
and all of them in places that do not belong to the record of `name`. -/
inductive EditedOutside (name : β) (items : List α) : List α → Prop where
  | same : EditedOutside name items items
  | edit {before middle middle' after : List α}
    (h : EditedOutside name items (before ++ middle ++ after))
    (hplain : ∀ x ∈ middle ++ middle', heading? x = none)
    (houtside : lastHeading? heading? before ≠ some name) :
    EditedOutside name items (before ++ middle' ++ after)

variable {heading?}

theorem lastHeading?_append (before after : List α) :
    lastHeading? heading? (before ++ after) =
      (lastHeading? heading? after).or (lastHeading? heading? before) := by
  unfold lastHeading?
  rw [List.reverse_append, List.findSome?_append]

theorem lastHeading?_cons (x : α) (items : List α) :
    lastHeading? heading? (x :: items) = (lastHeading? heading? items).or (heading? x) := by
  have hone : lastHeading? heading? [x] = heading? x := by
    cases h : heading? x <;> simp [lastHeading?, h]
  rw [← hone]
  exact lastHeading?_append [x] items

theorem lastHeading?_eq_none_iff {items : List α} :
    lastHeading? heading? items = none ↔ ∀ x ∈ items, heading? x = none := by
  simp [lastHeading?, List.findSome?_eq_none_iff]

theorem EditedOutside.lastHeading?_eq {name : β} {items items' : List α}
    (h : EditedOutside heading? name items items') :
    lastHeading? heading? items' = lastHeading? heading? items := by
  induction h with
  | same => rfl
  | @edit before middle middle' after _ hplain houtside ih =>
    have hskip : ∀ l : List α, (∀ x ∈ l, heading? x = none) →
        lastHeading? heading? (before ++ l ++ after) = lastHeading? heading? (before ++ after) := by
      intro l hl
      simp only [lastHeading?_append, lastHeading?_eq_none_iff.2 hl, Option.none_or]
    rw [← ih, hskip middle fun x hx => hplain x (List.mem_append_left _ hx),
      hskip middle' fun x hx => hplain x (List.mem_append_right _ hx)]

variable [DecidableEq β] {name : β} {current : Option β}

theorem under_cons (current : Option β) (name : β) (x : α) (items : List α) :
    under heading? current name (x :: items) =
      (if heading? x = none ∧ current = some name then [x] else []) ++
        under heading? ((heading? x).or current) name items := by
  have hlater : ∀ n : Nat, (lastHeading? heading? ((x :: items).take (n + 1))).or current =
      (lastHeading? heading? (items.take n)).or ((heading? x).or current) := by
    intro n
    rw [List.take_succ_cons, lastHeading?_cons, Option.or_assoc]
  unfold under
  rw [List.zipIdx_cons, List.zipIdx_succ, List.filter_cons, List.filter_map]
  simp only [Function.comp_def, hlater]
  by_cases hx : heading? x = none ∧ current = some name
  · simp [hx, lastHeading?]
  · rw [if_neg hx, if_neg (by simpa [lastHeading?] using hx)]
    simp

theorem under_append (current : Option β) (name : β) (before after : List α) :
    under heading? current name (before ++ after) =
      under heading? current name before ++
        under heading? ((lastHeading? heading? before).or current) name after := by
  induction before generalizing current with
  | nil => rfl
  | cons x rest ih =>
    rw [List.cons_append, under_cons, under_cons, ih, lastHeading?_cons, Option.or_assoc,
      List.append_assoc]

/-- What was before a heading does not count after it. -/
theorem under_of_heading {x : α} {b : β} (h : heading? x = some b) (current : Option β)
    (items : List α) :
    under heading? current name (x :: items) = under heading? none name (x :: items) := by
  rw [under_cons, under_cons, h]
  simp

theorem under_of_plain {items : List α} (hplain : ∀ x ∈ items, heading? x = none)
    (houtside : current ≠ some name) : under heading? current name items = [] := by
  induction items with
  | nil => rfl
  | cons x rest ih =>
    have hx : heading? x = none := hplain x List.mem_cons_self
    rw [under_cons, hx, Option.none_or, ih fun y hy => hplain y (List.mem_cons_of_mem _ hy),
      if_neg fun h => houtside h.2]
    rfl

/-- Edits elsewhere leave the items of a record as they are. -/
theorem EditedOutside.under_eq {items items' : List α}
    (h : EditedOutside heading? name items items') :
    under heading? none name items' = under heading? none name items := by
  induction h with
  | same => rfl
  | @edit before middle middle' after _ hplain houtside ih =>
    have hskip : ∀ l : List α, (∀ x ∈ l, heading? x = none) →
        under heading? none name (before ++ l ++ after) =
          under heading? none name before ++
            under heading? (lastHeading? heading? before) name after := by
      intro l hl
      rw [List.append_assoc, under_append, under_append, Option.or_none,
        under_of_plain hl houtside, lastHeading?_eq_none_iff.2 hl]
      rfl
    rw [← ih, hskip middle fun x hx => hplain x (List.mem_append_left _ hx),
      hskip middle' fun x hx => hplain x (List.mem_append_right _ hx)]

end DiskHealth.Telemetry
