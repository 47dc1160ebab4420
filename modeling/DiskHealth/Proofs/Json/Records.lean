import DiskHealth.Proofs.Json.Forms

/-!
Records read back from their JSON texts. The two styles print the same value, so a value that is
written faithfully is what both its texts spell (`Faithful.spelled`). Texts, lists and the records
of the library are faithful one by one, a record once its fields are. The main statement puts them
together: every value of the data model is read back from both its texts.
-/

namespace DiskHealth.Json

/-- A value is what its compact text spells, and what its pretty text spells. -/
structure Spelled {α : Type} [Form α] (a : α) : Prop where
  compact : parse? (compactText a) = some a
  pretty : parse? (prettyText a) = some a

section Spelled

variable {α : Type} [Form α] {a b : α}

theorem parse?_compactText (h : Faithful a) : parse? (compactText a) = some a := by
  have hread := read?_print Style.compact_blank h.proper 0
  rw [parse?, compactText, Value.compact, String.toList_ofList, hread]
  exact h.decode_encode

theorem Faithful.spelled (h : Faithful a) : Spelled a :=
  ⟨parse?_compactText h, parse?_prettyText h⟩

theorem Spelled.compactText_ne (ha : Spelled a) (hb : Spelled b) (hne : a ≠ b) :
    compactText a ≠ compactText b := by
  intro heq
  have hread := ha.compact
  rw [heq, hb.compact] at hread
  exact hne (Option.some.inj hread).symm

theorem Spelled.prettyText_ne (ha : Spelled a) (hb : Spelled b) (hne : a ≠ b) :
    prettyText a ≠ prettyText b := by
  intro heq
  have hread := ha.pretty
  rw [heq, hb.pretty] at hread
  exact hne (Option.some.inj hread).symm

end Spelled

/-! ### Texts and lists -/

theorem faithful_text (s : String) : Faithful s :=
  ⟨.text s, rfl⟩

theorem faithful_list {α : Type} [Form α] {items : List α} (h : ∀ a ∈ items, Faithful a) :
    Faithful items where
  proper := by
    refine .array fun v hv => ?_
    obtain ⟨a, ha, rfl⟩ := List.mem_map.1 hv
    exact (h a ha).proper
  decode_encode := by
    show (items.map encode).mapM decode = some items
    induction items with
    | nil => rfl
    | cons a items ih =>
      have hfirst := (h a List.mem_cons_self).decode_encode
      have hothers := ih fun a ha => h a (List.mem_cons_of_mem _ ha)
      rw [List.map_cons, List.mapM_cons, hfirst, hothers]
      rfl

/-! ### Records -/

/-- A record of two fields with different names is taken back once its fields are. -/
theorem faithful_two {α β γ : Type} [Form α] [Form β] [Form γ] (make : α → β → γ) {n m : String}
    {a : α} {b : β} (hne : n ≠ m)
    (hencode : encode (make a b) = .ofMembers [(n, encode a), (m, encode b)])
    (hdecode : ∀ v, (decode v : Option γ) = do
      let [x, y] ← fields? [n, m] v | none
      return make (← required? x) (← required? y))
    (ha : Faithful a) (hb : Faithful b) : Faithful (make a b) where
  proper := by
    rw [hencode]
    exact proper_ofMembers (by simp [ha.proper, hb.proper])
  decode_encode := by
    have hfields : fields? [n, m] (.ofMembers [(n, encode a), (m, encode b)]) =
        some [some (encode a), some (encode b)] := by
      simp [fields?, Value.ofMembers, field?, membersOf, hne, Ne.symm hne]
    rw [hdecode, hencode, hfields]
    simp [required?, ha.decode_encode, hb.decode_encode]

theorem faithful_pair (p : NormalizedPair) : Faithful p :=
  faithful_two NormalizedPair.mk (by decide) rfl (fun _ => rfl) (faithful_word p.value)
    (faithful_word p.threshold)

theorem faithful_metric (m : Metric) : Faithful m :=
  faithful_two Metric.mk (by decide) rfl (fun _ => rfl) (faithful_text m.name)
    (faithful_word m.value)

theorem faithful_words (m : SortedMap Int64) : Faithful m :=
  faithful_map fun e _ => faithful_word e.2

theorem faithful_discovered (d : DiscoveredItem) : Faithful d :=
  faithful_two DiscoveredItem.mk (by decide) rfl (fun _ => rfl) (faithful_text d.item)
    (faithful_words d.parameters)

theorem faithful_verdict (v : Verdict) : Faithful v := by
  cases v with
  | normal => exact ⟨.text _, rfl⟩
  | critical => exact ⟨.text _, rfl⟩

theorem faithful_attribute (a : Attribute) : Faithful a :=
  ⟨.text a.name, Attribute.ofName?_name a⟩

theorem faithful_result (r : AttributeResult) : Faithful r := by
  have hsubject := faithful_attribute r.subject
  have hverdict := faithful_verdict r.verdict
  have hsummary := faithful_text r.summary
  have hmetric := faithful_metric r.metric
  constructor
  · exact proper_ofMembers
      (by simp [hsubject.proper, hverdict.proper, hsummary.proper, hmetric.proper])
  · have hfields : fields? ["attribute", "verdict", "summary", "metric"] (encode r) =
        some [some (encode r.subject), some (encode r.verdict), some (encode r.summary),
          some (encode r.metric)] := rfl
    show (fields? ["attribute", "verdict", "summary", "metric"] (encode r)).bind _ = some r
    rw [hfields]
    simp [required?, hsubject.decode_encode, hverdict.decode_encode, hsummary.decode_encode,
      hmetric.decode_encode]

theorem faithful_outcome (o : Outcome) : Faithful o :=
  faithful_two Outcome.mk (by decide) rfl (fun _ => rfl) (faithful_text o.item)
    (faithful_list fun r _ => faithful_result r)

/-- The object of a reading has a member for the pair exactly if there is a pair. An object is not
null, so a pair that is there is not taken for a missing one. -/
theorem faithful_reading (r : Reading) : Faithful r := by
  obtain ⟨attributes, pair⟩ := r
  have hattributes := faithful_words attributes
  have hdecode : ∀ v, (decode v : Option Reading) = do
      let [attributes, pair] ← fields? ["attributes", "reallocated_events_normalized"] v | none
      return ⟨← required? attributes, ← optional? pair⟩ := fun _ => rfl
  cases pair with
  | none =>
    have hfields : fields? ["attributes", "reallocated_events_normalized"]
        (encode (⟨attributes, none⟩ : Reading)) = some [some (encode attributes), none] := rfl
    constructor
    · exact proper_ofMembers (by simp [hattributes.proper])
    · rw [hdecode, hfields]
      simp [required?, optional?, hattributes.decode_encode]
  | some pair =>
    have hpair := faithful_pair pair
    have hfields : fields? ["attributes", "reallocated_events_normalized"]
        (encode (⟨attributes, some pair⟩ : Reading)) =
          some [some (encode attributes), some (encode pair)] := rfl
    have hgiven : optional? (some (encode pair)) =
        (decode (encode pair) : Option NormalizedPair).map some := rfl
    constructor
    · exact proper_ofMembers (by simp [hattributes.proper, hpair.proper])
    · rw [hdecode, hfields]
      simp [required?, hgiven, hattributes.decode_encode, hpair.decode_encode]

/-- Every value of the data model is what both its texts spell. So a reading without a normalized
pair and one with a pair have different texts. -/
theorem spelled_records :
    (∀ s : Section, Spelled s) ∧ (∀ r : Reading, Spelled r) ∧ (∀ p : NormalizedPair, Spelled p) ∧
    (∀ b : Baseline, Spelled b) ∧ (∀ v : Verdict, Spelled v) ∧ (∀ a : Attribute, Spelled a) ∧
    (∀ m : Metric, Spelled m) ∧ (∀ r : AttributeResult, Spelled r) ∧ (∀ o : Outcome, Spelled o) ∧
    (∀ d : DiscoveredItem, Spelled d) ∧ (∀ s : BaselineStore, Spelled s) ∧
    ∀ (attributes others : SortedMap Int64) (pair : NormalizedPair),
      compactText (⟨attributes, none⟩ : Reading) ≠ compactText (⟨others, some pair⟩ : Reading) ∧
      prettyText (⟨attributes, none⟩ : Reading) ≠ prettyText (⟨others, some pair⟩ : Reading) := by
  have hreading : ∀ r : Reading, Spelled r := fun r => (faithful_reading r).spelled
  refine ⟨fun s => (faithful_map fun e _ => faithful_reading e.2).spelled, hreading,
    fun p => (faithful_pair p).spelled, fun b => (faithful_words b).spelled,
    fun v => (faithful_verdict v).spelled, fun a => (faithful_attribute a).spelled,
    fun m => (faithful_metric m).spelled, fun r => (faithful_result r).spelled,
    fun o => (faithful_outcome o).spelled, fun d => (faithful_discovered d).spelled,
    fun s => (faithful_map fun e _ => faithful_words e.2).spelled, fun attributes others pair => ?_⟩
  have hne : (⟨attributes, none⟩ : Reading) ≠ ⟨others, some pair⟩ := by
    intro heq
    cases congrArg Reading.reallocatedEvents heq
  exact ⟨(hreading _).compactText_ne (hreading _) hne, (hreading _).prettyText_ne (hreading _) hne⟩

end DiskHealth.Json
