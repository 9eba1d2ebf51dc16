import EventNet.Net.Basic

/-!
# Statements

A net is described by a list of statements. A factual statement names places that are
marked at the start; a clause describes one transition instance by the label of its
bus and its arcs.

Some statements make no sense, and `BuildFault` names the ways in which they do not.
-/

set_option autoImplicit false

namespace EventNet

/-- A statement about a net. -/
inductive Statement where
  /-- The places that are marked at the start. -/
  | factual (places : List String)
  /-- A transition instance with its arcs, each a kind and the label of a place. -/
  | clause (transition : String) (arcs : List (ArcKind × String))
  deriving DecidableEq

/-- What is wrong with a statement. -/
inductive BuildFault where
  | missingTransition
  | emptyLabel
  | emptyStatement
  /-- A place has both of two kinds of arcs that contradict each other in one clause. -/
  | conflictingArcs (place transition : String) (kind previous : ArcKind)
  deriving DecidableEq

/-- The wording of a fault. -/
def BuildFault.message : BuildFault → String
  | missingTransition => "clause declares arcs but names no transition"
  | emptyLabel => "empty place label"
  | emptyStatement => "statement declares no places"
  | conflictingArcs place transition kind previous =>
    "place '" ++ place ++ "' declared as " ++ kind.word ++ " conflicts with an earlier " ++
      previous.word ++ " arc on '" ++ transition ++ "'"

/-- A fault and the position of its statement, if it has one. -/
structure BuildError where
  index : Option Nat
  fault : BuildFault
  deriving DecidableEq

/-- The wording of an error. Statements are counted from one. -/
def BuildError.message (error : BuildError) : String :=
  match error.index with
  | none => error.fault.message
  | some index => "statement " ++ toString (index + 1) ++ ": " ++ error.fault.message

end EventNet
