import EventNet.Log
import EventNet.Net.Basic

/-!
# Diagnosis of a net

A consistent net may still be of little use: a node without arcs takes no part in any
run, and a place that a transition asks for, but that is neither marked at the start
nor produced by any transition, keeps that transition from ever happening.
-/

set_option autoImplicit false

namespace EventNet

/-- What is doubtful about a net. -/
structure Diagnosis where
  /-- Places that have no arcs and are not marked at the start. -/
  isolatedPlaces : List (PlaceId × String)
  /-- Transitions that have no arcs. -/
  isolatedTransitions : List (TransitionId × String)
  /-- Places that are asked for and can never be marked. -/
  neverMarked : List (PlaceId × String)
  totalPlaces : Nat
  totalTransitions : Nat
  totalBuses : Nat

namespace Diagnosis

/-- Whether anything is doubtful. -/
def hasIssues (diagnosis : Diagnosis) : Bool :=
  !diagnosis.isolatedPlaces.isEmpty || !diagnosis.isolatedTransitions.isEmpty ||
    !diagnosis.neverMarked.isEmpty

/-- The warning about a place that can never be marked. -/
def neverMarkedText (place : PlaceId × String) : String :=
  "place '" ++ place.2 ++ "' (" ++ PlaceId.text place.1 ++
    ") is required by a transition but is never marked"

/-- The warnings, one for every place that can never be marked. -/
def warnings (diagnosis : Diagnosis) : List String :=
  diagnosis.neverMarked.map neverMarkedText

/-- The log of a diagnosis: its findings, or one line that the net is in order. -/
def log (diagnosis : Diagnosis) : Log :=
  if diagnosis.hasIssues then
    (diagnosis.isolatedPlaces.map fun (id, name) =>
      .warn ("isolated place " ++ PlaceId.text id ++ " '" ++ name ++ "'")) ++
    (diagnosis.isolatedTransitions.map fun (id, name) =>
      .warn ("isolated transition " ++ TransitionId.text id ++ " '" ++ name ++ "'")) ++
    diagnosis.warnings.map .warn
  else
    [.info ("net ok: " ++ toString diagnosis.totalPlaces ++ " places, " ++
      toString diagnosis.totalTransitions ++ " transitions, " ++
      toString diagnosis.totalBuses ++ " buses")]

end Diagnosis

namespace Net

/-- A place whose index lists no arcs. -/
def isolatedPlace (net : Net) (place : PlaceId) : Bool :=
  net.placeArcs[place]?.all List.isEmpty

/-- Some transition asks for a token on this place, and none produces one. -/
def requiredOnly (net : Net) (place : PlaceId) : Bool :=
  (net.arcsAt place).any (fun arc => arc.kind.requiresToken) &&
    !(net.arcsAt place).any fun arc => arc.kind == .produce

/-- Looks for nodes without arcs and for places that can never be marked. -/
def diagnose (net : Net) : Diagnosis where
  isolatedPlaces := net.places.zipIdx.filterMap fun (place, id) =>
    if net.isolatedPlace id && !place.factual then some (id, place.name) else none
  isolatedTransitions := net.transitions.zipIdx.filterMap fun (transition, id) =>
    if transition.arcs.isEmpty then some (id, transition.name) else none
  neverMarked := net.places.zipIdx.filterMap fun (place, id) =>
    if !net.isolatedPlace id && net.requiredOnly id && !place.factual then
      some (id, place.name)
    else none
  totalPlaces := net.places.length
  totalTransitions := net.transitions.length
  totalBuses := net.buses.size

end Net

end EventNet
