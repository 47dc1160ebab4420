import DiskHealth.Files.Document
import DiskHealth.Json.Records
import DiskHealth.Proofs.Json.RoundTrip
import DiskHealth.Proofs.Text.Utf8

/-!
Documents read back. A double is taken back if its own text reads back, a counter with its
timestamp, and a map with its values, whatever its keys are. The bytes of such a map are the
document that was saved, which is what a file of counters holds.
-/

namespace DiskHealth.Json

theorem proper_ofMembers {members : List (String × Value)} (h : ∀ m ∈ members, m.2.Proper) :
    (Value.ofMembers members).Proper := by
  refine .object ?_ ?_
  · intro m hm
    obtain ⟨n, -, rfl⟩ := List.mem_map.1 hm
    rfl
  · intro m hm
    obtain ⟨n, hn, rfl⟩ := List.mem_map.1 hm
    exact h n hn

theorem faithful_word (w : Int64) : Faithful w where
  proper := .number _
  decode_encode := by
    have hvalue := Decimal.Number.toInt?_ofInt w.toInt
    have hword := Numeral.word?_toInt w
    simp only [encode, decode, Value.ofWord, hvalue, Option.bind_some, hword]

theorem proper_ofFloat (x : Float) : (Value.ofFloat x).Proper := by
  unfold Value.ofFloat
  split
  · exact .number _
  · exact .null

/-- The text of a double reads back as the same double. -/
def ReadsBack (x : Float) : Prop :=
  parse? (compactText x) = some x

theorem ReadsBack.faithful {x : Float} (h : ReadsBack x) : Faithful x where
  proper := proper_ofFloat x
  decode_encode := by
    have hread := read?_print Style.compact_blank (proper_ofFloat x) 0
    have hparse : (parse? (compactText x) : Option Float) = decode (encode x) := by
      rw [parse?, compactText, Value.compact, String.toList_ofList]
      exact congrArg (fun v : Option Value => v.bind decode) hread
    exact hparse.symm.trans h

theorem proper_counter (c : Counter) : (encode c).Proper := by
  refine proper_ofMembers fun m hm => ?_
  simp only [List.mem_cons, List.not_mem_nil, or_false] at hm
  rcases hm with rfl | rfl
  · exact proper_ofFloat c.timestamp
  · exact (faithful_word c.value).proper

theorem faithful_counter {c : Counter} (h : ReadsBack c.timestamp) : Faithful c where
  proper := proper_counter c
  decode_encode := by
    have hfields : fields? ["timestamp", "value"] (encode c) =
        some [some (encode c.timestamp), some (encode c.value)] := rfl
    have htime := h.faithful.decode_encode
    have hvalue := (faithful_word c.value).decode_encode
    simp only [decode] at htime hvalue ⊢
    rw [hfields]
    simp [required?, decode, htime, hvalue]

theorem mapM_decode {α : Type} [Form α] {entries : List (String × α)}
    (h : ∀ e ∈ entries, Faithful e.2) :
    ((entries.map fun e => (e.1, encode e.2)).map fun m => (some m.1, m.2)).mapM
        (fun (m : Option String × Value) => do
          let key ← m.1
          let value ← decode m.2
          return (key, value)) = some entries := by
  induction entries with
  | nil => rfl
  | cons e entries ih =>
    have hfirst := (h e List.mem_cons_self).decode_encode
    have hothers := ih fun e he => h e (List.mem_cons_of_mem _ he)
    rw [List.map_cons, List.map_cons, List.mapM_cons, hothers]
    simp [hfirst]

theorem proper_map {α : Type} [Form α] {m : SortedMap α}
    (h : ∀ e ∈ m.toList, (encode e.2).Proper) : (encode m).Proper := by
  refine proper_ofMembers fun n hn => ?_
  obtain ⟨e, he, rfl⟩ := List.mem_map.1 hn
  exact h e he

/-- A map is taken back as itself if its values are. -/
theorem faithful_map {α : Type} [Form α] {m : SortedMap α} (h : ∀ e ∈ m.toList, Faithful e.2) :
    Faithful m where
  proper := proper_map fun e he => (h e he).proper
  decode_encode := by
    have hentries := mapM_decode h
    simp only [encode, decode, Value.ofMembers] at hentries ⊢
    rw [hentries, Option.map_some, SortedMap.ofList_toList]

end DiskHealth.Json

namespace DiskHealth

/-- Every timestamp of a state reads back from its text. -/
def RateState.Writable (s : RateState) : Prop :=
  ∀ key c, s.get? key = some c → Json.ReadsBack c.timestamp

theorem RateState.Writable.faithful {s : RateState} (h : s.Writable) : Json.Faithful s :=
  Json.faithful_map fun e he => Json.faithful_counter (h e.1 e.2 (SortedMap.mem_toList_iff.1 he))

namespace Files.Document

/-- The bytes of a document are read as that document. -/
theorem ofBytes_toBytes {α : Type} [Json.Form α] {a : α} (path : String) (h : Json.Faithful a) :
    ofBytes α path (toBytes a) = .ok a := by
  have hparse := Json.parse?_prettyText h
  simp only [ofBytes, text, toBytes, Text.Utf8.toString?_ofString, hparse]

theorem ofRead_of_saved {α : Type} [Json.Form α] {a : α} {path : String} (h : Json.Faithful a)
    {outcome : Except FileError (List UInt8)} (hread : outcome = .ok (toBytes a)) :
    ofRead α path outcome = .ok (some a) := by
  rw [hread, ofRead, ofBytes_toBytes path h]
  rfl

end Files.Document

end DiskHealth
