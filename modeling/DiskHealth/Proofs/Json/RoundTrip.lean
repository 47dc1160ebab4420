import DiskHealth.Json.Form
import DiskHealth.Proofs.Json.Numbers
import DiskHealth.Proofs.Json.Texts

/-!
Printed values read back. A value is proper if all its texts and keys are texts; what such a value
prints, in a style whose breaks are white space, is read as that value and nothing more
(`read?_print`). The three readers call each other with less fuel, so one step is proved for each of
them from all three (`ReadsPrinted`), and fuel twice as long as the text is enough.
-/

namespace DiskHealth.Json

open Decimal (exists_digits)

/-- No text and no key in the value stands for half of a surrogate pair. -/
inductive Value.Proper : Value → Prop where
  | null : Proper .null
  | boolean (b : Bool) : Proper (.boolean b)
  | number (n : Decimal.Number) : Proper (.number n)
  | text (s : String) : Proper (.text (some s))
  | array {items : List Value} (h : ∀ v ∈ items, Proper v) : Proper (.array items)
  | object {members : List (Option String × Value)} (hkey : ∀ m ∈ members, m.1.isSome = true)
      (hvalue : ∀ m ∈ members, Proper m.2) : Proper (.object members)

theorem Value.Proper.cons {m : Option String × Value} {ms : List (Option String × Value)}
    (h : Value.Proper (.object (m :: ms))) : m.2.Proper ∧ Value.Proper (.object ms) := by
  cases h with
  | object hkey hvalue =>
    have hothers : Value.Proper (.object ms) :=
      .object (fun n hn => hkey n (List.mem_cons_of_mem _ hn))
        (fun n hn => hvalue n (List.mem_cons_of_mem _ hn))
    exact ⟨hvalue m List.mem_cons_self, hothers⟩

theorem Value.Proper.key {m : Option String × Value} {ms : List (Option String × Value)}
    (h : Value.Proper (.object (m :: ms))) : m.1.isSome = true := by
  cases h with
  | object hkey => exact hkey m List.mem_cons_self

/-- All that a style adds is white space. -/
structure Style.Blank (style : Style) : Prop where
  lineBreak : ∀ depth, ∀ c ∈ style.lineBreak depth, isSpace c = true
  afterColon : ∀ c ∈ style.afterColon, isSpace c = true

theorem Style.compact_blank : Style.compact.Blank where
  lineBreak := by simp [compact]
  afterColon := by simp [compact]

theorem Style.pretty_blank : Style.pretty.Blank where
  lineBreak := by
    intro depth c hc
    simp only [pretty, List.mem_cons, List.mem_replicate] at hc
    rcases hc with rfl | ⟨-, rfl⟩ <;> rfl
  afterColon := by
    intro c hc
    simp only [pretty, List.mem_singleton] at hc
    exact hc ▸ rfl

theorem skipSpace_append {blank : List Char} (cs : List Char)
    (h : ∀ c ∈ blank, isSpace c = true) : skipSpace (blank ++ cs) = skipSpace cs :=
  List.dropWhile_append_of_pos h

theorem skipSpace_cons {c : Char} (cs : List Char) (hc : isSpace c = false) :
    skipSpace (c :: cs) = c :: cs :=
  List.dropWhile_cons_of_neg (by simp [hc])

theorem readValue_blank (fuel : Nat) {blank : List Char} (cs : List Char)
    (h : ∀ c ∈ blank, isSpace c = true) : readValue fuel (blank ++ cs) = readValue fuel cs := by
  cases fuel with
  | zero => rfl
  | succ fuel => rw [readValue, readValue, skipSpace_append cs h]

theorem readItems_blank (fuel : Nat) {blank : List Char} (cs : List Char)
    (h : ∀ c ∈ blank, isSpace c = true) : readItems fuel (blank ++ cs) = readItems fuel cs := by
  cases fuel with
  | zero => rfl
  | succ fuel => rw [readItems, readItems, readValue_blank fuel cs h]

theorem readMembers_blank (fuel : Nat) {blank : List Char} (cs : List Char)
    (h : ∀ c ∈ blank, isSpace c = true) : readMembers fuel (blank ++ cs) = readMembers fuel cs := by
  cases fuel with
  | zero => rfl
  | succ fuel => rw [readMembers, readMembers, skipSpace_append cs h]

/-- What ends a container may follow its last part, with white space before it. -/
theorem closes_append {blank : List Char} {c : Char} (rest : List Char)
    (h : ∀ c ∈ blank, isSpace c = true) (hc : c = ']' ∨ c = '}') :
    Closes (blank ++ c :: rest) := by
  cases blank with
  | nil =>
    rcases hc with rfl | rfl
    · exact closes_cons rest (.inr (.inr (.inl rfl)))
    · exact closes_cons rest (.inr (.inr (.inr rfl)))
  | cons b blank => exact closes_cons _ (.inl (h b List.mem_cons_self))

/-- The first character of a number. -/
theorem write_head (n : Decimal.Number) :
    ∃ c cs, n.write = c :: cs ∧ c ∈ "-0123456789".toList := by
  obtain ⟨d, ds, hchars, -, -⟩ := exists_digits n.whole
  have hdigit : d.toChar ∈ "-0123456789".toList := by
    clear hchars
    revert d
    decide
  unfold Decimal.Number.write
  rw [hchars]
  cases n.negative with
  | true => exact ⟨'-', _, rfl, by decide⟩
  | false => exact ⟨d.toChar, _, rfl, hdigit⟩

/-- The text of a value begins with a character of its own, and not with one that ends a
container. -/
theorem print_head (style : Style) (depth : Nat) (v : Value) :
    ∃ c cs, v.print style depth = c :: cs ∧ isSpace c = false ∧ c ≠ ']' ∧ c ≠ '}' := by
  have hliteral : ∀ c ∈ ['n', 't', 'f', '"', '[', '{'], isSpace c = false ∧ c ≠ ']' ∧ c ≠ '}' :=
    forall_mem_of_all (by decide)
  match v with
  | .null => exact ⟨'n', _, rfl, hliteral _ (by decide)⟩
  | .boolean true => exact ⟨'t', _, rfl, hliteral _ (by decide)⟩
  | .boolean false => exact ⟨'f', _, rfl, hliteral _ (by decide)⟩
  | .number n =>
    obtain ⟨c, cs, hwrite, hc⟩ := write_head n
    have hall : ∀ c ∈ "-0123456789".toList, isSpace c = false ∧ c ≠ ']' ∧ c ≠ '}' :=
      forall_mem_of_all (by decide)
    exact ⟨c, cs, hwrite, hall c hc⟩
  | .text none => exact ⟨'n', _, rfl, hliteral _ (by decide)⟩
  | .text (some s) => exact ⟨'"', _, rfl, hliteral _ (by decide)⟩
  | .array [] => exact ⟨'[', _, rfl, hliteral _ (by decide)⟩
  | .array (v :: vs) => exact ⟨'[', _, rfl, hliteral _ (by decide)⟩
  | .object [] => exact ⟨'{', _, rfl, hliteral _ (by decide)⟩
  | .object (m :: ms) => exact ⟨'{', _, rfl, hliteral _ (by decide)⟩

theorem readValue_of_other (fuel : Nat) {cs rest : List Char} {c : Char}
    (hskip : skipSpace cs = c :: rest) (hother : c ∉ ['n', 't', 'f', '"', '[', '{']) :
    readValue (fuel + 1) cs = (readNumber (c :: rest)).map fun r => (.number r.1, r.2) := by
  rw [readValue, hskip]
  split
  case h_7 => rfl
  all_goals
    rename_i heq
    cases heq
    exact absurd (by decide) hother

theorem readValue_number (fuel : Nat) (n : Decimal.Number) {rest : List Char} (h : Closes rest) :
    readValue (fuel + 1) (n.write ++ rest) = some (.number n, rest) := by
  obtain ⟨c, cs, hwrite, hc⟩ := write_head n
  have hread := readNumber_append n h
  have hall : ∀ c ∈ "-0123456789".toList,
      isSpace c = false ∧ c ∉ ['n', 't', 'f', '"', '[', '{'] := forall_mem_of_all (by decide)
  obtain ⟨hspace, hother⟩ := hall c hc
  rw [hwrite, List.cons_append] at hread ⊢
  rw [readValue_of_other fuel (skipSpace_cons _ hspace) hother, hread, Option.map_some]

theorem readValue_text (fuel : Nat) (s : String) (rest : List Char) :
    readValue (fuel + 1) (printText s ++ rest) = some (.text (some s), rest) := by
  have hread := readText_append s rest
  simp only [printText, List.cons_append, List.append_assoc, List.nil_append]
  rw [readValue, skipSpace_cons _ (by decide)]
  simp only [hread, Option.map_some]

theorem readValue_bracket (fuel : Nat) {cs inner : List Char} (h : skipSpace cs = '[' :: inner) :
    readValue (fuel + 1) cs =
      match skipSpace inner with
      | ']' :: rest => some (.array [], rest)
      | rest => (readItems fuel rest).map fun r => (.array r.1, r.2) := by
  rw [readValue, h]
  rfl

theorem readValue_brace (fuel : Nat) {cs inner : List Char} (h : skipSpace cs = '{' :: inner) :
    readValue (fuel + 1) cs =
      match skipSpace inner with
      | '}' :: rest => some (.object [], rest)
      | rest => (readMembers fuel rest).map fun r => (.object r.1, r.2) := by
  rw [readValue, h]
  rfl

/-- A container has parts if the white space after its opening is not followed by its end. -/
theorem readValue_items (fuel : Nat) {blank : List Char} {c : Char} (cs : List Char)
    (h : ∀ c ∈ blank, isSpace c = true) (hspace : isSpace c = false) (hend : c ≠ ']') :
    readValue (fuel + 1) ('[' :: (blank ++ c :: cs)) =
      (readItems fuel (c :: cs)).map fun r => (.array r.1, r.2) := by
  rw [readValue_bracket fuel (skipSpace_cons _ (by decide)), skipSpace_append _ h,
    skipSpace_cons cs hspace]
  split
  · rename_i heq
    cases heq
    contradiction
  · rfl

theorem readValue_members (fuel : Nat) {blank : List Char} (cs : List Char)
    (h : ∀ c ∈ blank, isSpace c = true) :
    readValue (fuel + 1) ('{' :: (blank ++ '"' :: cs)) =
      (readMembers fuel ('"' :: cs)).map fun r => (.object r.1, r.2) := by
  have hquote := skipSpace_cons cs (c := '"') (by decide)
  rw [readValue_brace fuel (skipSpace_cons _ (by decide)), skipSpace_append _ h, hquote]
  rfl

theorem readItems_last {fuel : Nat} {cs blank rest : List Char} {v : Value}
    (h : readValue fuel cs = some (v, blank ++ ']' :: rest))
    (hb : ∀ c ∈ blank, isSpace c = true) : readItems (fuel + 1) cs = some ([v], rest) := by
  have hend := skipSpace_cons rest (c := ']') (by decide)
  simp only [readItems, h, Option.bind_some, skipSpace_append _ hb, hend]

theorem readItems_more {fuel : Nat} {cs more : List Char} {v : Value}
    (h : readValue fuel cs = some (v, ',' :: more)) :
    readItems (fuel + 1) cs = (readItems fuel more).map fun r => (v :: r.1, r.2) := by
  have hcomma := skipSpace_cons more (c := ',') (by decide)
  simp only [readItems, h, Option.bind_some, hcomma]

theorem readMembers_last {fuel : Nat} {cs blank rest : List Char} {k : String} {v : Value}
    (h : readValue fuel cs = some (v, blank ++ '}' :: rest))
    (hb : ∀ c ∈ blank, isSpace c = true) :
    readMembers (fuel + 1) (printText k ++ ':' :: cs) = some ([(some k, v)], rest) := by
  have hkey := readText_append k (':' :: cs)
  have hcolon := skipSpace_cons cs (c := ':') (by decide)
  have hend := skipSpace_cons rest (c := '}') (by decide)
  simp only [printText, List.cons_append, List.append_assoc, List.nil_append]
  rw [readMembers, skipSpace_cons _ (by decide)]
  simp only [hkey, hcolon, h, Option.bind_some, skipSpace_append _ hb, hend]

theorem readMembers_more {fuel : Nat} {cs more : List Char} {k : String} {v : Value}
    (h : readValue fuel cs = some (v, ',' :: more)) :
    readMembers (fuel + 1) (printText k ++ ':' :: cs) =
      (readMembers fuel more).map fun r => ((some k, v) :: r.1, r.2) := by
  have hkey := readText_append k (':' :: cs)
  have hcolon := skipSpace_cons cs (c := ':') (by decide)
  have hcomma := skipSpace_cons more (c := ',') (by decide)
  simp only [printText, List.cons_append, List.append_assoc, List.nil_append]
  rw [readMembers, skipSpace_cons _ (by decide)]
  simp only [hkey, hcolon, h, Option.bind_some, hcomma]

/-- The three readers take back all that is printed with this much fuel. -/
structure ReadsPrinted (style : Style) (fuel : Nat) : Prop where
  value : ∀ (v : Value) (depth : Nat) (rest : List Char), v.Proper → Closes rest →
    2 * (v.print style depth).length ≤ fuel →
    readValue fuel (v.print style depth ++ rest) = some (v, rest)
  items : ∀ (v : Value) (vs : List Value) (depth : Nat) (blank rest : List Char),
    (∀ w ∈ v :: vs, w.Proper) → (∀ c ∈ blank, isSpace c = true) →
    2 * ((v.print style depth).length + (printItems style depth vs).length) < fuel →
    readItems fuel
        (v.print style depth ++ (printItems style depth vs ++ (blank ++ ']' :: rest))) =
      some (v :: vs, rest)
  members : ∀ (k : String) (v : Value) (ms : List (Option String × Value)) (depth : Nat)
    (blank rest : List Char), Value.Proper (.object ((some k, v) :: ms)) →
    (∀ c ∈ blank, isSpace c = true) →
    2 * ((v.print style depth).length + (printMembers style depth ms).length) < fuel →
    readMembers fuel
        (printText k ++ (':' :: (style.afterColon ++ (v.print style depth ++
          (printMembers style depth ms ++ (blank ++ '}' :: rest)))))) =
      some ((some k, v) :: ms, rest)

namespace ReadsPrinted

variable {style : Style} {fuel : Nat}

theorem array (hs : style.Blank) (h : ReadsPrinted style fuel) (v : Value) (vs : List Value)
    (depth : Nat) (rest : List Char) (hv : ∀ w ∈ v :: vs, w.Proper)
    (hf : 2 * ((Value.array (v :: vs)).print style depth).length ≤ fuel + 1) :
    readValue (fuel + 1) ((Value.array (v :: vs)).print style depth ++ rest) =
      some (.array (v :: vs), rest) := by
  obtain ⟨c, cs, hprint, hspace, hend, -⟩ := print_head style (depth + 1) v
  have hlength : 2 * ((v.print style (depth + 1)).length +
      (printItems style (depth + 1) vs).length) < fuel := by
    simp only [Value.print, List.length_cons, List.length_append] at hf
    omega
  have hread := h.items v vs (depth + 1) (style.lineBreak depth) rest hv (hs.lineBreak depth)
    hlength
  rw [hprint, List.cons_append] at hread
  simp only [Value.print, List.cons_append, List.append_assoc, List.nil_append, hprint]
  rw [readValue_items fuel _ (hs.lineBreak (depth + 1)) hspace hend, hread, Option.map_some]

theorem object (hs : style.Blank) (h : ReadsPrinted style fuel) (k : String) (v : Value)
    (ms : List (Option String × Value)) (depth : Nat) (rest : List Char)
    (hv : Value.Proper (.object ((some k, v) :: ms)))
    (hf : 2 * ((Value.object ((some k, v) :: ms)).print style depth).length ≤ fuel + 1) :
    readValue (fuel + 1) ((Value.object ((some k, v) :: ms)).print style depth ++ rest) =
      some (.object ((some k, v) :: ms), rest) := by
  have hlength : 2 * ((v.print style (depth + 1)).length +
      (printMembers style (depth + 1) ms).length) < fuel := by
    simp only [Value.print, List.length_cons, List.length_append] at hf
    omega
  have hread := h.members k v ms (depth + 1) (style.lineBreak depth) rest hv (hs.lineBreak depth)
    hlength
  simp only [printText, List.cons_append, List.append_assoc, List.nil_append] at hread
  simp only [Value.print, printLiteral, printText, List.cons_append, List.append_assoc,
    List.nil_append]
  rw [readValue_members fuel _ (hs.lineBreak (depth + 1)), hread, Option.map_some]

theorem value_succ (hs : style.Blank) (h : ReadsPrinted style fuel) (v : Value) (depth : Nat)
    (rest : List Char) (hv : v.Proper) (hr : Closes rest)
    (hf : 2 * (v.print style depth).length ≤ fuel + 1) :
    readValue (fuel + 1) (v.print style depth ++ rest) = some (v, rest) := by
  cases hv with
  | null => rfl
  | boolean b => cases b <;> rfl
  | number n => exact readValue_number fuel n hr
  | text s => exact readValue_text fuel s rest
  | @array items hitems =>
    cases items with
    | nil => rfl
    | cons v vs => exact array hs h v vs depth rest hitems hf
  | @object members hkey hvalue =>
    match members with
    | [] => rfl
    | (some k, v) :: ms => exact object hs h k v ms depth rest (.object hkey hvalue) hf
    | (none, v) :: ms => exact absurd (hkey _ List.mem_cons_self) (by simp)

theorem items_succ (hs : style.Blank) (h : ReadsPrinted style fuel) (v : Value) (vs : List Value)
    (depth : Nat) (blank rest : List Char) (hv : ∀ w ∈ v :: vs, w.Proper)
    (hb : ∀ c ∈ blank, isSpace c = true)
    (hf : 2 * ((v.print style depth).length + (printItems style depth vs).length) < fuel + 1) :
    readItems (fuel + 1)
        (v.print style depth ++ (printItems style depth vs ++ (blank ++ ']' :: rest))) =
      some (v :: vs, rest) := by
  have hproper := hv v List.mem_cons_self
  cases vs with
  | nil =>
    have hread := h.value v depth (blank ++ ']' :: rest) hproper
      (closes_append rest hb (.inl rfl)) (by omega)
    rw [printItems, List.nil_append]
    exact readItems_last hread hb
  | cons w ws =>
    simp only [printItems, List.cons_append, List.append_assoc, List.length_cons,
      List.length_append] at hf ⊢
    have hread := h.value v depth (',' :: (style.lineBreak depth ++ (w.print style depth ++
      (printItems style depth ws ++ (blank ++ ']' :: rest))))) hproper
      (closes_cons _ (.inr (.inl rfl))) (by omega)
    have hothers := h.items w ws depth blank rest (fun u hu => hv u (List.mem_cons_of_mem _ hu)) hb
      (by omega)
    rw [readItems_more hread, readItems_blank fuel _ (hs.lineBreak depth), hothers,
      Option.map_some]

theorem members_succ (hs : style.Blank) (h : ReadsPrinted style fuel) (k : String) (v : Value)
    (ms : List (Option String × Value)) (depth : Nat) (blank rest : List Char)
    (hv : Value.Proper (.object ((some k, v) :: ms))) (hb : ∀ c ∈ blank, isSpace c = true)
    (hf : 2 * ((v.print style depth).length + (printMembers style depth ms).length) < fuel + 1) :
    readMembers (fuel + 1)
        (printText k ++ (':' :: (style.afterColon ++ (v.print style depth ++
          (printMembers style depth ms ++ (blank ++ '}' :: rest)))))) =
      some ((some k, v) :: ms, rest) := by
  obtain ⟨hproper, hothers⟩ := hv.cons
  match ms with
  | [] =>
    have hread := h.value v depth (blank ++ '}' :: rest) hproper
      (closes_append rest hb (.inr rfl)) (by omega)
    rw [← readValue_blank fuel _ hs.afterColon] at hread
    rw [printMembers, List.nil_append]
    exact readMembers_last hread hb
  | (none, w) :: ms => exact absurd hothers.key (by simp)
  | (some l, w) :: ms =>
    simp only [printMembers, printLiteral, List.cons_append, List.append_assoc, List.length_cons,
      List.length_append] at hf ⊢
    have hread := h.value v depth (',' :: (style.lineBreak depth ++ (printText l ++ (':' ::
      (style.afterColon ++ (w.print style depth ++ (printMembers style depth ms ++
      (blank ++ '}' :: rest)))))))) hproper (closes_cons _ (.inr (.inl rfl))) (by omega)
    rw [← readValue_blank fuel _ hs.afterColon] at hread
    have hmore := h.members l w ms depth blank rest hothers hb (by omega)
    rw [readMembers_more hread, readMembers_blank fuel _ (hs.lineBreak depth), hmore,
      Option.map_some]

end ReadsPrinted

/-- The readers take back all that is printed with any fuel. -/
theorem readsPrinted {style : Style} (hs : style.Blank) (fuel : Nat) : ReadsPrinted style fuel := by
  induction fuel with
  | zero =>
    refine ⟨fun v depth rest _ _ hf => ?_, fun _ _ _ _ _ _ _ hf => absurd hf (Nat.not_lt_zero _),
      fun _ _ _ _ _ _ _ _ hf => absurd hf (Nat.not_lt_zero _)⟩
    obtain ⟨c, cs, hprint, -⟩ := print_head style depth v
    rw [hprint, List.length_cons] at hf
    omega
  | succ fuel ih =>
    exact ⟨ReadsPrinted.value_succ hs ih, ReadsPrinted.items_succ hs ih,
      ReadsPrinted.members_succ hs ih⟩

/-- A proper value is what its text spells. -/
theorem read?_print {style : Style} (hs : style.Blank) {v : Value} (hv : v.Proper) (depth : Nat) :
    read? (v.print style depth) = some v := by
  have hread := (readsPrinted hs (2 * (v.print style depth).length + 1)).value v depth [] hv
    closes_nil (by omega)
  rw [List.append_nil] at hread
  rw [read?, hread]
  rfl

/-- Every value of the type is written as a proper value that is taken back as itself. -/
structure Faithful {α : Type} [Form α] (a : α) : Prop where
  proper : (encode a).Proper
  decode_encode : decode (encode a) = some a

theorem parse?_prettyText {α : Type} [Form α] {a : α} (h : Faithful a) :
    parse? (prettyText a) = some a := by
  have hread := read?_print Style.pretty_blank h.proper 0
  rw [parse?, prettyText, Value.pretty, String.toList_ofList, hread]
  exact h.decode_encode

end DiskHealth.Json
