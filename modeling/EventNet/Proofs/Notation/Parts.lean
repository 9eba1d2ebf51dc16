import EventNet.Notation.Grammar
import EventNet.Proofs.Notation.Layout

/-!
# The readers of the parts of a sentence

A reader is sound for a part of the grammar if what it takes off a text is a spelling of
what it gives (`Sound`). It is complete if it reads every spelling, as long as something
fitting follows (`Complete`): a list is followed by anything but a label character or a
comma. A reader that is complete leaves a text one part of its kind only
(`Complete.unique`).

Both are shown for labels, and carried from there to lists, to places with a mark before or
behind them, and to parts that may be left out. Where a mark of another kind is ahead, the
readers find nothing; what is read is decided by such marks.
-/

set_option autoImplicit false

namespace EventNet.Notation

variable {α : Type}

/-- What the reader takes off a text is a spelling of what it gives. -/
def Sound (reader : Reader α) (IsPart : α → List Char → Prop) : Prop :=
  ∀ text value rest, reader text = some (value, rest) →
    ∃ spelled, text = spelled ++ rest ∧ IsPart value spelled

/-- The reader reads every spelling that something fitting follows. -/
def Complete (reader : Reader α) (IsPart : α → List Char → Prop)
    (Follows : List Char → Prop) : Prop :=
  ∀ value spelled rest, IsPart value spelled → Follows rest →
    reader (spelled ++ rest) = some (value, rest)

/-- A text has one part only that is read completely, so parts are not ambiguous. -/
theorem Complete.unique {reader : Reader α} {IsPart : α → List Char → Prop}
    {Follows : List Char → Prop} (complete : Complete reader IsPart Follows)
    {first second : α} {firstSpelled firstRest secondSpelled secondRest : List Char}
    (isFirst : IsPart first firstSpelled) (firstFollows : Follows firstRest)
    (isSecond : IsPart second secondSpelled) (secondFollows : Follows secondRest)
    (same : firstSpelled ++ firstRest = secondSpelled ++ secondRest) :
    first = second ∧ firstRest = secondRest := by
  have read := complete first firstSpelled firstRest isFirst firstFollows
  rw [same, complete second secondSpelled secondRest isSecond secondFollows] at read
  cases read
  exact ⟨rfl, rfl⟩

/-- The reader does not look at layout in front. -/
def IgnoresLayout (reader : Reader α) : Prop :=
  ∀ text other, skipLayout text = skipLayout other → reader text = reader other

theorem ignoresLayout_mark (sign : List Char) : IgnoresLayout (mark sign) := by
  intro text other same
  rw [mark, mark, same]

/-! ## Labels and transitions -/

theorem sound_label : Sound label IsLabel := by
  intro text name rest read
  obtain ⟨whole, isName⟩ := isName_of_bareLabel read
  obtain ⟨gap, layout, all⟩ := exists_gap text (by
    rw [whole]
    exact fun empty => isName.1 (List.append_eq_nil_iff.1 empty).1)
  rw [whole, ← List.append_assoc] at all
  exact ⟨_, all, .mk layout isName⟩

theorem complete_label : Complete label IsLabel Stops := by
  rintro name _ rest ⟨layout, isName⟩ stops
  have read := bareLabel_append isName stops
  obtain ⟨c, more, whole⟩ := List.exists_cons_of_ne_nil isName.1
  have inLabel : isLabelChar c = true := isName.2 c (whole ▸ List.mem_cons_self)
  rw [label, List.append_assoc, skipLayout_append layout]
  rw [whole, List.cons_append] at read ⊢
  rw [skipLayout_labelChar inLabel, read]

theorem sound_transition : Sound transition IsTransition := by
  intro text name rest read
  simp only [transition, Option.bind_eq_bind, Option.bind_eq_some_iff] at read
  obtain ⟨⟨_, after⟩, signed, named⟩ := read
  obtain ⟨sign, rfl, isMark⟩ := isMark_of_mark (by decide) signed
  obtain ⟨rfl, isName⟩ := isName_of_bareLabel named
  exact ⟨_, (List.append_assoc _ _ _).symm, .mk isMark isName⟩

theorem complete_transition : Complete transition IsTransition Stops := by
  rintro name _ rest ⟨isMark, isName⟩ stops
  rw [transition, List.append_assoc, isMark.read (by decide), Option.bind_eq_bind,
    Option.bind_some]
  exact bareLabel_append isName stops

/-! ## Lists -/

section Lists

variable {item : Reader String} {IsItem : String → List Char → Prop}

/-- A comma and another item. -/
def nextItem (item : Reader String) : Reader String := fun text => do
  let (_, rest) ← mark [','] text
  item rest

/-- A list that ends here. -/
def EndsList (text : List Char) : Prop := Stops text ∧ mark [','] text = none

theorem Ahead.endsList {sign text : List Char} (ahead : Ahead sign text) (other : [','] ≠ sign) :
    EndsList text :=
  ⟨ahead.stops, ahead.mark_eq_none ⟨by decide, other⟩⟩

theorem commaSeparated_eq (text : List Char) :
    commaSeparated item text = (item text).map fun begun =>
      (begun.1 :: (Reader.many (nextItem item) begun.2).1,
        (Reader.many (nextItem item) begun.2).2) := by
  cases read : item text with
  | none => simp only [commaSeparated, read]; rfl
  | some result => simp only [commaSeparated, read]; rfl

/-- The items behind the first continue every list. -/
theorem sound_many (sound : Sound item IsItem) (text : List Char) :
    ∃ spelled, text = spelled ++ (Reader.many (nextItem item) text).2 ∧
      ∀ first begun, IsItem first begun →
        IsList IsItem (first :: (Reader.many (nextItem item) text).1) (begun ++ spelled) := by
  fun_induction Reader.many (nextItem item) text with
  | case1 text none =>
    refine ⟨[], rfl, fun first begun isItem => ?_⟩
    rw [List.append_nil]
    exact .last isItem
  | case2 text value rest read shorter more ih =>
    simp only [nextItem, Option.bind_eq_bind, Option.bind_eq_some_iff] at read
    obtain ⟨⟨_, after⟩, marked, read⟩ := read
    obtain ⟨comma, rfl, isMark⟩ := isMark_of_mark (by decide) marked
    obtain ⟨spelled, rfl, isItem⟩ := sound _ _ _ read
    obtain ⟨others, whole, continues⟩ := ih
    refine ⟨comma ++ spelled ++ others, ?_, fun first begun isFirst => ?_⟩
    · rw [List.append_assoc, List.append_assoc, ← whole]
    · rw [List.append_assoc, ← List.append_assoc]
      exact .more isFirst isMark (continues value spelled isItem)
  | case3 text value rest read longer =>
    refine ⟨[], rfl, fun first begun isItem => ?_⟩
    rw [List.append_nil]
    exact .last isItem

theorem sound_commaSeparated (sound : Sound item IsItem) :
    Sound (commaSeparated item) (IsList IsItem) := by
  intro text items rest read
  rw [commaSeparated_eq, Option.map_eq_some_iff] at read
  obtain ⟨⟨first, after⟩, begun, found⟩ := read
  obtain ⟨rfl, rfl⟩ := Prod.mk.inj found
  obtain ⟨spelled, rfl, isItem⟩ := sound _ _ _ begun
  obtain ⟨others, whole, continues⟩ := sound_many sound after
  refine ⟨spelled ++ others, ?_, continues first spelled isItem⟩
  rw [List.append_assoc]
  exact congrArg (spelled ++ ·) whole

theorem complete_commaSeparated (shortens : item.Shortens)
    (complete : Complete item IsItem Stops) :
    Complete (commaSeparated item) (IsList IsItem) EndsList := by
  intro items spelled rest isList ends
  induction isList with
  | last isItem =>
    have noMore : nextItem item rest = none := by simp [nextItem, ends.2]
    simp only [commaSeparated_eq, complete _ _ _ isItem ends.1, Option.map_some,
      Reader.many_of_none noMore]
  | @more first items text comma others isItem isMark _ ih =>
    rw [commaSeparated_eq, Option.map_eq_some_iff] at ih
    obtain ⟨⟨second, after⟩, read, found⟩ := ih
    obtain ⟨sameItems, sameRest⟩ := Prod.mk.inj found
    have next : nextItem item (comma ++ (others ++ rest)) = some (second, after) := by
      simp [nextItem, isMark.read (by decide), read]
    have shorter : after.length < (comma ++ (others ++ rest)).length := by
      have := shortens _ _ _ read
      rw [List.length_append]
      omega
    have begun := complete first text (comma ++ (others ++ rest)) isItem
      (isMark.ahead (by decide) _).stops
    simp only [commaSeparated_eq, List.append_assoc, begun, Option.map_some,
      Reader.many_of_some next shorter, sameItems, sameRest]

theorem commaSeparated_eq_none {text : List Char} (nothing : item text = none) :
    commaSeparated item text = none := by
  rw [commaSeparated_eq, nothing, Option.map_none]

theorem ignoresLayout_commaSeparated (ignores : IgnoresLayout item) :
    IgnoresLayout (commaSeparated item) := by
  intro text other same
  rw [commaSeparated_eq, commaSeparated_eq, ignores text other same]

end Lists

theorem sound_places : Sound places IsPlaces := sound_commaSeparated sound_label

theorem complete_places : Complete places IsPlaces EndsList :=
  complete_commaSeparated label_shortens complete_label

theorem sound_transitions : Sound transitions IsTransitions :=
  sound_commaSeparated sound_transition

theorem complete_transitions : Complete transitions IsTransitions EndsList :=
  complete_commaSeparated transition_shortens complete_transition

/-- Where a mark is ahead there are no places. -/
theorem Ahead.places_eq_none {sign text : List Char} (ahead : Ahead sign text) :
    places text = none :=
  commaSeparated_eq_none ahead.label_eq_none

theorem ignoresLayout_places : IgnoresLayout places := by
  refine ignoresLayout_commaSeparated fun text other same => ?_
  rw [label, label, same]

theorem ignoresLayout_transitions : IgnoresLayout transitions := by
  refine ignoresLayout_commaSeparated fun text other same => ?_
  rw [transition, transition, ignoresLayout_mark _ text other same]

/-! ## Places with a mark -/

theorem sound_placesAfter {sign : List Char} (known : sign ∈ marks) :
    Sound (placesAfter sign) (IsPlacesAfter sign) := by
  intro text labels rest read
  simp only [placesAfter, Option.bind_eq_bind, Option.bind_eq_some_iff] at read
  obtain ⟨⟨_, after⟩, marked, listed⟩ := read
  obtain ⟨begun, rfl, isMark⟩ := isMark_of_mark known marked
  obtain ⟨spelled, rfl, isPlaces⟩ := sound_places _ _ _ listed
  exact ⟨_, (List.append_assoc _ _ _).symm, .mk isMark isPlaces⟩

theorem complete_placesAfter {sign : List Char} (known : sign ∈ marks) :
    Complete (placesAfter sign) (IsPlacesAfter sign) EndsList := by
  rintro labels _ rest ⟨isMark, isPlaces⟩ ends
  rw [placesAfter, List.append_assoc, isMark.read known, Option.bind_eq_bind, Option.bind_some]
  exact complete_places _ _ _ isPlaces ends

theorem ignoresLayout_placesAfter (sign : List Char) : IgnoresLayout (placesAfter sign) := by
  intro text other same
  rw [placesAfter, placesAfter, ignoresLayout_mark sign text other same]

theorem Ahead.placesAfter_eq_none {sign other text : List Char} (ahead : Ahead sign text)
    (differ : other ∈ marks ∧ other ≠ sign) : placesAfter other text = none := by
  rw [placesAfter, ahead.mark_eq_none differ, Option.bind_eq_bind, Option.bind_none]

/-- Places and a mark behind them. -/
def placesBefore (sign : List Char) : Reader (List String) := fun text => do
  let (labels, rest) ← places text
  let (_, rest) ← mark sign rest
  return (labels, rest)

theorem factual_eq (text : List Char) :
    factual text = (placesBefore ['.'] text).map fun found => ([.factual found.1], found.2) := by
  cases listed : places text with
  | none => simp [factual, placesBefore, listed]
  | some begun =>
    cases marked : mark ['.'] begun.2 with
    | none => simp [factual, placesBefore, listed, marked]
    | some ended => simp [factual, placesBefore, listed, marked]

theorem sound_placesBefore {sign : List Char} (known : sign ∈ marks) :
    Sound (placesBefore sign) (IsPlacesBefore sign) := by
  intro text labels rest read
  simp only [placesBefore, Option.bind_eq_bind, Option.bind_eq_some_iff, Option.pure_def,
    Option.some.injEq, Prod.mk.injEq] at read
  obtain ⟨⟨_, after⟩, listed, ⟨_, last⟩, marked, rfl, rfl⟩ := read
  obtain ⟨spelled, rfl, isPlaces⟩ := sound_places _ _ _ listed
  obtain ⟨ended, rfl, isMark⟩ := isMark_of_mark known marked
  exact ⟨_, (List.append_assoc _ _ _).symm, .mk isPlaces isMark⟩

theorem complete_placesBefore {sign : List Char} (known : sign ∈ marks) (other : [','] ≠ sign) :
    Complete (placesBefore sign) (IsPlacesBefore sign) fun _ => True := by
  rintro labels _ rest ⟨isPlaces, isMark⟩ -
  have ends := (isMark.ahead known rest).endsList other
  simp only [placesBefore, List.append_assoc, complete_places _ _ _ isPlaces ends,
    isMark.read known, Option.bind_eq_bind, Option.bind_some, Option.pure_def]

/-- The inhibitors in front of their mark. -/
theorem sound_inhibitors : Sound inhibitors (IsPlacesBefore ['-', 'o']) :=
  sound_placesBefore (by decide)

theorem complete_inhibitors : Complete inhibitors (IsPlacesBefore ['-', 'o']) fun _ => True :=
  complete_placesBefore (by decide) (by decide)

theorem ignoresLayout_inhibitors : IgnoresLayout inhibitors := by
  intro text other same
  rw [inhibitors, inhibitors, ignoresLayout_places text other same]

/-! ## Parts that may be left out -/

section Optional

variable {reader : Reader (List String)} {IsPart : List String → List Char → Prop}
variable {Follows : List Char → Prop}

theorem sound_optionally (sound : Sound reader IsPart) (text : List Char) :
    ∃ spelled, text = spelled ++ (optionally reader text).2 ∧
      IsOptional IsPart ((optionally reader text).1.getD []) spelled := by
  unfold optionally
  split
  · exact ⟨[], rfl, .absent⟩
  · rename_i labels rest read
    obtain ⟨spelled, whole, isPart⟩ := sound _ _ _ read
    exact ⟨spelled, whole, .present isPart⟩

/-- A part that is left out is not found in what follows. -/
theorem complete_optionally (complete : Complete reader IsPart Follows) {labels : List String}
    {spelled rest : List Char} (isOptional : IsOptional IsPart labels spelled)
    (follows : Follows rest) (absent : reader rest = none) :
    ∃ found, optionally reader (spelled ++ rest) = (found, rest) ∧ found.getD [] = labels := by
  cases isOptional with
  | absent => exact ⟨none, by rw [optionally, List.nil_append, absent], rfl⟩
  | present isPart => exact ⟨some labels, by rw [optionally, complete _ _ _ isPart follows], rfl⟩

/-- Where two texts differ in layout only, so do the texts behind a part. -/
theorem optionally_congr {reader : Reader α} (ignores : IgnoresLayout reader)
    {text other : List Char} (same : skipLayout text = skipLayout other) :
    (optionally reader text).1 = (optionally reader other).1 ∧
      skipLayout (optionally reader text).2 = skipLayout (optionally reader other).2 := by
  have read := ignores text other same
  unfold optionally
  rw [read]
  cases reader other with
  | none => exact ⟨rfl, same⟩
  | some found => exact ⟨rfl, rfl⟩

end Optional

end EventNet.Notation
