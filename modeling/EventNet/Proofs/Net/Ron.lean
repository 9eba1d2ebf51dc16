import EventNet.Proofs.Net.Json
import EventNet.Proofs.Ron.Decoder

/-!
# Nets survive their RON documents

What holds of JSON documents holds of RON documents as well. The five tables of a net come
out of its document as they went in (`Ron.recovers_tables`): ten levels are enough for them, of
which the identifiers in the index of a transition need the last. Then the net is checked, so
that a consistent net is loaded from its own document, and a net that contradicts itself is
refused for the reason that the check gives (`Net.ofRon_toRon`).
-/

set_option autoImplicit false

namespace EventNet

namespace Ron

theorem recovers_ids (room : Nat) (typeName : String) {ids : List Nat}
    (fit : ∀ id ∈ ids, id ≤ maxId) :
    (Decoder.id [] typeName).list.Recovers (room + 4) (listOf id ids) ids :=
  Decoder.recovers_list fun id listed => Decoder.recovers_id room typeName (fit id listed)

theorem recovers_place (room : Nat) (place : Place) :
    (Decoder.place []).Recovers (room + 2) (ofPlace place) place := by
  have names : ["name", "factual"].all isWord = true := by
    decide +kernel
  refine Decoder.recovers_ofFields _ (List.cons_ne_nil _ _) names
    (.map (.before ?name ?factual (by simp)) _)
  case name => exact Decoder.recovers_string room _
  case factual => exact RecordFields.recovers_required _ (Decoder.recovers_bool room _)

theorem recovers_transition (room : Nat) {transition : Transition}
    (fit : ∀ arc ∈ transition.arcs, arc ≤ maxId) :
    (Decoder.transition []).Recovers (room + 6) (ofTransition transition) transition := by
  have names : ["name", "arcs"].all isWord = true := by
    decide +kernel
  refine Decoder.recovers_ofFields _ (List.cons_ne_nil _ _) names
    (.map (.before ?name ?arcs (by simp)) _)
  case name => exact Decoder.recovers_string _ _
  case arcs => exact RecordFields.recovers_required _ (recovers_ids room "ArcId" fit)

theorem recovers_arc (room : Nat) {arc : Arc} (place : arc.place ≤ maxId)
    (transition : arc.transition ≤ maxId) :
    (Decoder.arc []).Recovers (room + 4) (ofArc arc) arc := by
  have names : ["place", "transition", "kind"].all isWord = true := by
    decide +kernel
  refine Decoder.recovers_ofFields _ (List.cons_ne_nil _ _) names
    (.map (.before ?place (.before ?transition ?kind (by simp)) (by simp)) _)
  case place => exact Decoder.recovers_id room "PlaceId" place
  case transition => exact Decoder.recovers_id room "TransitionId" transition
  case kind => exact RecordFields.recovers_required _ (Decoder.recovers_arcKind _ arc.kind)

/-- **The tables of a net come out of its document as they went in.** -/
theorem recovers_tables {net : Net} (fit : net.IdsFit) :
    (Decoder.tables []).Recovers 10 (ofNet net) net := by
  have names : ["places", "transitions", "arcs", "place_arcs", "buses"].all isWord = true := by
    decide +kernel
  refine Decoder.recovers_ofFields _ (List.cons_ne_nil _ _) names
    (.map (.before ?places (.before ?transitions (.before ?arcs (.before ?placeArcs ?buses
      (by simp)) (by simp)) (by simp)) (by simp)) _)
  case places =>
    exact Decoder.recovers_list fun place _ => recovers_place 4 place
  case transitions =>
    exact Decoder.recovers_list fun transition listed =>
      recovers_transition 0 (fit.transitions transition listed)
  case arcs =>
    exact Decoder.recovers_list fun arc listed =>
      recovers_arc 2 (fit.arcs arc listed).1 (fit.arcs arc listed).2
  case placeArcs =>
    exact Decoder.recovers_list fun index listed =>
      recovers_ids 2 "ArcId" (fit.placeArcs index listed)
  case buses =>
    exact RecordFields.recovers_required _ (Decoder.recovers_labelMap fun bus listed =>
      recovers_ids 2 "TransitionId" (fit.buses bus listed))

end Ron

namespace Net

/-- **A net is loaded from its own document if it is consistent, and otherwise refused for
the reason that the check of the net gives.** -/
theorem ofRon_toRon {net : Net} (fit : net.IdsFit) :
    (net.validate = .ok () → Net.ofRon net.toRon = .ok net) ∧
      ∀ reason : NetError, net.validate = .error reason →
        Net.ofRon net.toRon = .error (.rejected reason) := by
  have recovered := Ron.recovers_tables fit
  have read : Ron.read? net.toRon =
      some { extensions := [], value := Ron.ofNet net, hasMore := false } :=
    Ron.read?_text recovered.plain (by decide)
  rw [Net.ofRon, read, Net.validate]
  simp only [recovered.decoded, bind, Except.bind]
  cases net.violation? with
  | none =>
    refine ⟨fun _ => rfl, ?_⟩
    intro reason invalid
    cases invalid
  | some violation =>
    refine ⟨?_, ?_⟩
    · intro valid
      cases valid
    · rintro reason ⟨⟩
      rfl

/-- A net in order whose names cannot be written as they are: they have quotation marks, a
backslash, a combining accent, control characters and one that changes the direction. -/
def garbled : Net where
  places := [{ name := "\"\\'", factual := true }, { name := "e\u0301\x00\u202e" }]
  transitions := [{ name := "\n\x1b😀", arcs := [0, 1] }]
  arcs := [⟨0, 0, .consume⟩, ⟨1, 0, .produce⟩]
  placeArcs := [[0], [1]]
  buses := ⟨[("\n\x1b😀", [0])], by decide⟩

theorem garbled_ron : garbled.IdsFit ∧ astray.IdsFit ∧
    Net.ofRon garbled.toRon = .ok garbled ∧
      Net.ofRon astray.toRon = .error (.rejected (.danglingPlace 99)) := by
  have fit : garbled.IdsFit := by constructor <;> decide
  have fitAstray : astray.IdsFit := by constructor <;> decide
  have valid : garbled.validate = .ok () := by decide +kernel
  have dangling : astray.validate = .error (.danglingPlace 99) := by decide
  refine ⟨fit, fitAstray, ?_, ?_⟩
  · exact (ofRon_toRon fit).1 valid
  · exact (ofRon_toRon fitAstray).2 _ dangling

end Net

end EventNet
