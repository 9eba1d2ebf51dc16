import EventNet.Net.Json
import EventNet.Proofs.Json.Decoder
import EventNet.Proofs.Net.Consistent

/-!
# Nets survive their JSON documents

The five tables of a net come out of its JSON document as they went in, whatever the
names are and in whatever order the indices list their entries (`recovers_tables`). Then
the net is checked. So a consistent net is loaded from its own document, and a net that
contradicts itself is refused for the very reason that the check of the net gives
(`Net.ofJson_toJson`).

Nothing is assumed about the net except that its identifiers have the 32 bits that they
have in documents.
-/

set_option autoImplicit false

namespace EventNet

/-- The identifiers in the tables and indices of a net fit into a document. -/
structure Net.IdsFit (net : Net) : Prop where
  transitions : ∀ transition ∈ net.transitions, ∀ arc ∈ transition.arcs, arc ≤ maxId
  arcs : ∀ arc ∈ net.arcs, arc.place ≤ maxId ∧ arc.transition ≤ maxId
  placeArcs : ∀ index ∈ net.placeArcs, ∀ arc ∈ index, arc ≤ maxId
  buses : ∀ bus ∈ net.buses.entries, ∀ transition ∈ bus.2, transition ≤ maxId

namespace Json

theorem Decoder.recovers_labelMap {ε α : Type} {decode : Decoder ε α} {encode : α → Json}
    {map : LabelMap α}
    (each : ∀ entry ∈ map.entries, decode.Recovers (encode entry.2) entry.2) :
    (Decoder.labelMap decode).Recovers (ofLabelMap encode map) map where
  plain := by
    refine .object ?_
    intro field listed
    obtain ⟨entry, present, rfl⟩ := List.mem_map.1 listed
    exact (each entry present).plain
  decoded := by
    obtain ⟨read, whole, decoded⟩ :=
      Decoder.membersOf_readings map.nodup each LabelMap.empty fun _ _ => List.not_mem_nil
    obtain rfl : read = map := LabelMap.ext whole
    rw [ofLabelMap, reading, Decoder.labelMap, decoded]

theorem recovers_id {id : Nat} (fits : id ≤ maxId) : Decoder.id.Recovers (nat id) id :=
  Decoder.recovers_nat fits (by decide)

theorem recovers_ids {ids : List Nat} (fit : ∀ id ∈ ids, id ≤ maxId) :
    Decoder.id.list.Recovers (list nat ids) ids :=
  Decoder.recovers_list fun id listed => recovers_id (fit id listed)

theorem recovers_arcKind (kind : ArcKind) : Decoder.arcKind.Recovers (.string kind.name) kind := by
  refine Decoder.recovers_choice ?_
  cases kind <;> decide

theorem recovers_place (place : Place) : Decoder.place.Recovers (ofPlace place) place := by
  refine Decoder.recovers_ofFields (.map (.before ?name ?factual (by simp)) _)
  case name => exact Decoder.recovers_string _
  case factual => exact RecordFields.recovers_required _ (Decoder.recovers_bool _)

theorem recovers_transition {transition : Transition}
    (fit : ∀ arc ∈ transition.arcs, arc ≤ maxId) :
    Decoder.transition.Recovers (ofTransition transition) transition := by
  refine Decoder.recovers_ofFields (.map (.before ?name ?arcs (by simp)) _)
  case name => exact Decoder.recovers_string _
  case arcs => exact RecordFields.recovers_required _ (recovers_ids fit)

theorem recovers_arc {arc : Arc} (place : arc.place ≤ maxId)
    (transition : arc.transition ≤ maxId) :
    Decoder.arc.Recovers (ofArc arc) arc := by
  refine Decoder.recovers_ofFields
    (.map (.before ?place (.before ?transition ?kind (by simp)) (by simp)) _)
  case place => exact recovers_id place
  case transition => exact recovers_id transition
  case kind => exact RecordFields.recovers_required _ (recovers_arcKind arc.kind)

/-- **The tables of a net come out of its document as they went in.** -/
theorem recovers_tables {net : Net} (fit : net.IdsFit) :
    Decoder.tables.Recovers (ofNet net) net := by
  refine Decoder.recovers_ofFields (.map (.before ?places (.before ?transitions (.before ?arcs
    (.before ?placeArcs ?buses (by simp)) (by simp)) (by simp)) (by simp)) _)
  case places =>
    exact Decoder.recovers_list fun place _ => recovers_place place
  case transitions =>
    exact Decoder.recovers_list fun transition listed =>
      recovers_transition (fit.transitions transition listed)
  case arcs =>
    exact Decoder.recovers_list fun arc listed =>
      recovers_arc (fit.arcs arc listed).1 (fit.arcs arc listed).2
  case placeArcs =>
    exact Decoder.recovers_list fun index listed => recovers_ids (fit.placeArcs index listed)
  case buses =>
    exact RecordFields.recovers_required _ (Decoder.recovers_labelMap fun bus listed =>
      recovers_ids (fit.buses bus listed))

end Json

namespace Net

/-- **A net is loaded from its own document if it is consistent, and otherwise refused for
the reason that the check of the net gives.** -/
theorem ofJson_toJson {net : Net} (fit : net.IdsFit) :
    (net.validate = .ok () → Net.ofJson net.toJson = .ok net) ∧
      ∀ reason : NetError, net.validate = .error reason →
        Net.ofJson net.toJson = .error (.rejected reason) := by
  have recovered := Json.recovers_tables fit
  have loaded : Net.ofJson net.toJson = Json.Decoder.net (Json.ofNet net).reading :=
    Json.Decoder.run_text recovered.plain Json.Decoder.net
  rw [loaded, Json.Decoder.net, recovered.decoded, Net.validate]
  simp only [bind, Except.bind]
  cases net.violation? with
  | none => exact ⟨fun _ => rfl, nofun⟩
  | some violation =>
    refine ⟨nofun, ?_⟩
    rintro reason ⟨⟩
    rfl

/-- A net with an arc to a place that is not there, an index that repeats entries, and names
that cannot be written as they are. -/
def astray : Net where
  places := [{ name := "\"é\"\\\u0001", factual := true }]
  transitions := [{ name := "", arcs := [0] }]
  arcs := [⟨99, 0, .consume⟩]
  placeArcs := [[4294967294, 0, 0]]
  buses := ⟨[("", [0]), ("\t", [])], by decide⟩

theorem rivals_json : rivals.IdsFit ∧ astray.IdsFit ∧
    Net.ofJson rivals.toJson = .ok rivals ∧
      Net.ofJson astray.toJson = .error (.rejected (.danglingPlace 99)) := by
  have fit : rivals.IdsFit := by constructor <;> decide
  have fitAstray : astray.IdsFit := by constructor <;> decide
  have dangling : astray.validate = .error (.danglingPlace 99) := by decide
  refine ⟨fit, fitAstray, ?_, ?_⟩
  · exact (ofJson_toJson fit).1 rivals_validate
  · exact (ofJson_toJson fitAstray).2 _ dangling

end Net

end EventNet
