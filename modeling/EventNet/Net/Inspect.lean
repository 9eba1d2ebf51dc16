import EventNet.Net.Consistency
import EventNet.Text.Quoted

/-!
# Nets for inspection

One line that shows the tables of a net, for logs. A transition is shown by
its label and the number of its arcs.
-/

set_option autoImplicit false

namespace EventNet

/-- A truth value in running text. -/
def truthWord (value : Bool) : String := if value then "true" else "false"

/-- Items in square brackets with commas between them. -/
def bracketed (items : List String) : String := "[" ++ ", ".intercalate items ++ "]"

/-- A place for inspection. -/
def Place.inspect (place : Place) : String :=
  "Place \x7b name: " ++ Text.quoted place.name ++ ", factual: " ++ truthWord place.factual ++
    " \x7d"

/-- A transition for inspection. -/
def Transition.inspect (transition : Transition) : String :=
  "Transition(" ++ Text.quoted transition.name ++ ", " ++ toString transition.arcs.length ++ ")"

/-- An arc for inspection. -/
def Arc.inspect (arc : Arc) : String :=
  "Arc \x7b place: " ++ PlaceId.raw arc.place ++ ", transition: " ++
    TransitionId.raw arc.transition ++ ", kind: " ++ arc.kind.name ++ " \x7d"

/-- A net for inspection. -/
def Net.inspect (net : Net) : String :=
  "Net \x7b places: " ++ bracketed (net.places.map Place.inspect) ++ ", transitions: " ++
    bracketed (net.transitions.map Transition.inspect) ++ ", arcs: " ++
    bracketed (net.arcs.map Arc.inspect) ++ " \x7d"

end EventNet
