import DiskHealth.Discovery
import DiskHealth.Json.Form
import DiskHealth.Outcome
import DiskHealth.Rate.State

/-!
The JSON forms of the library's records. Fields are written in the order of their declaration; the
normalized pair of a reading is left out where there is none.
-/

namespace DiskHealth.Json

instance : Form NormalizedPair where
  encode p := .ofMembers [("value", encode p.value), ("threshold", encode p.threshold)]
  decode v := do
    let [value, threshold] ← fields? ["value", "threshold"] v | none
    return ⟨← required? value, ← required? threshold⟩

instance : Form Reading where
  encode r :=
    .ofMembers <| ("attributes", encode r.attributes) ::
      (r.reallocatedEvents.map fun p => ("reallocated_events_normalized", encode p)).toList
  decode v := do
    let [attributes, pair] ← fields? ["attributes", "reallocated_events_normalized"] v | none
    return ⟨← required? attributes, ← optional? pair⟩

instance : Form Verdict where
  encode
    | .normal => .ofString "normal"
    | .critical => .ofString "critical"
  decode v :=
    match case? v with
    | some "normal" => some .normal
    | some "critical" => some .critical
    | _ => none

instance : Form Attribute where
  encode a := .ofString a.name
  decode v := (case? v).bind Attribute.ofName?

instance : Form Metric where
  encode m := .ofMembers [("name", encode m.name), ("value", encode m.value)]
  decode v := do
    let [name, value] ← fields? ["name", "value"] v | none
    return ⟨← required? name, ← required? value⟩

instance : Form AttributeResult where
  encode r :=
    .ofMembers
      [("attribute", encode r.subject), ("verdict", encode r.verdict),
        ("summary", encode r.summary), ("metric", encode r.metric)]
  decode v := do
    let [subject, verdict, summary, metric] ←
      fields? ["attribute", "verdict", "summary", "metric"] v | none
    return ⟨← required? subject, ← required? verdict, ← required? summary, ← required? metric⟩

instance : Form Outcome where
  encode o := .ofMembers [("item", encode o.item), ("results", encode o.results)]
  decode v := do
    let [item, results] ← fields? ["item", "results"] v | none
    return ⟨← required? item, ← required? results⟩

instance : Form DiscoveredItem where
  encode d := .ofMembers [("item", encode d.item), ("parameters", encode d.parameters)]
  decode v := do
    let [item, parameters] ← fields? ["item", "parameters"] v | none
    return ⟨← required? item, ← required? parameters⟩

instance : Form Counter where
  encode c := .ofMembers [("timestamp", encode c.timestamp), ("value", encode c.value)]
  decode v := do
    let [timestamp, value] ← fields? ["timestamp", "value"] v | none
    return ⟨← required? timestamp, ← required? value⟩

end DiskHealth.Json
