import EventNet.Proofs.Notation.Grammar

/-!
# What the text of a sentence is made of

The spelling of a sentence is a grammar of many parts, but seen from a distance it is simple:
layout and characters of words in turns, and then a full stop (`Sentence.Spells.exists_wording`).
Two facts about such texts need no more than that.

A spelling starts with layout, behind which its first word comes at once
(`IsWording.exists_begins`). And no line of it starts with a full stop, apart from the one that
ends it, since elsewhere full stops stand in comments only. So a full stop at the start of a line
is the end of whatever sentence comes up to it (`Sentence.Spells.reaches_stop`).
-/

set_option autoImplicit false

namespace EventNet.Notation

/-! ## Layout and characters of words -/

/-- A character that stands in a word and is no full stop. -/
def IsWordChar (c : Char) : Prop := isSpace c = false ∧ c ≠ '%' ∧ c ≠ '.'

/-- Layout and characters of words, in any order. -/
inductive IsWording : List Char → Prop where
  | nil : IsWording []
  | layout {gap text : List Char} : IsLayout gap → IsWording text → IsWording (gap ++ text)
  | char {c : Char} {text : List Char} : IsWordChar c → IsWording text → IsWording (c :: text)

namespace IsWording

theorem append {first second : List Char} (isFirst : IsWording first)
    (isSecond : IsWording second) : IsWording (first ++ second) := by
  induction isFirst with
  | nil => exact isSecond
  | layout layout _ ih =>
    rw [List.append_assoc]
    exact .layout layout ih
  | char inWord _ ih => exact .char inWord ih

theorem of_layout {gap : List Char} (layout : IsLayout gap) : IsWording gap := by
  have alone : IsWording (gap ++ []) := .layout layout .nil
  rwa [List.append_nil] at alone

theorem of_chars {text : List Char} (inWord : ∀ c ∈ text, IsWordChar c) : IsWording text := by
  induction text with
  | nil => exact .nil
  | cons c text ih =>
    obtain ⟨first, others⟩ := List.forall_mem_cons.1 inWord
    exact .char first (ih others)

/-- What holds of the characters and the comments of a text, and of texts one behind the other,
holds of the text. -/
theorem of_pieces {Holds : List Char → Prop} (nil : Holds [])
    (append : ∀ {first second : List Char}, Holds first → Holds second → Holds (first ++ second))
    (char : ∀ c : Char, c ≠ '%' → c ≠ '.' → Holds [c])
    (comment : ∀ {body lineEnd : List Char}, IsCommentText body → IsLineEnd lineEnd →
      Holds ('%' :: body ++ lineEnd))
    {words : List Char} (wording : IsWording words) : Holds words := by
  have ofLayout : ∀ {gap : List Char}, IsLayout gap → Holds gap := by
    intro gap layout
    induction layout with
    | nil => exact nil
    | @space c gap space _ ih =>
      have single : Holds [c] := by
        obtain rfl | rfl | rfl | rfl := space <;> exact char _ (by decide) (by decide)
      exact append single ih
    | comment inLine ends _ ih => exact append (comment inLine ends) ih
  induction wording with
  | nil => exact nil
  | layout layout _ ih => exact append (ofLayout layout) ih
  | char inWord _ ih => exact append (char _ inWord.2.1 inWord.2.2) ih

end IsWording

/-! ## The parts of a sentence -/

theorem isWordChar_of_isLabelChar {c : Char} (inLabel : isLabelChar c = true) : IsWordChar c := by
  refine ⟨Bool.eq_false_iff.2 fun space => ?_, ?_, ?_⟩
  · obtain rfl | rfl | rfl | rfl := isSpace_iff.1 space <;>
      exact absurd inLabel (by decide +kernel)
  · rintro rfl
    exact absurd inLabel (by decide +kernel)
  · rintro rfl
    exact absurd inLabel (by decide +kernel)

theorem IsName.wording {name : String} (isName : IsName name) : IsWording name.toList :=
  .of_chars fun c member => isWordChar_of_isLabelChar (isName.2 c member)

/-- The marks other than the full stop are words. -/
theorem IsMark.wording {sign text : List Char} (isMark : IsMark sign text) (known : sign ∈ marks)
    (other : sign ≠ ['.']) : IsWording text := by
  obtain ⟨layout⟩ := isMark
  refine .layout layout (.of_chars ?_)
  simp only [marks, List.mem_cons, List.not_mem_nil, or_false] at known
  rcases known with rfl | rfl | rfl | rfl | rfl | rfl
  all_goals first | exact absurd rfl other | simp [IsWordChar, isSpace]

theorem IsLabel.wording {name : String} {text : List Char} (isLabel : IsLabel name text) :
    IsWording text := by
  obtain ⟨layout, isName⟩ := isLabel
  exact .layout layout isName.wording

theorem IsTransition.wording {name : String} {text : List Char}
    (isTransition : IsTransition name text) : IsWording text := by
  obtain ⟨isMark, isName⟩ := isTransition
  exact (isMark.wording (by decide) (by decide)).append isName.wording

theorem IsList.wording {IsItem : String → List Char → Prop} {items : List String}
    {text : List Char} (isList : IsList IsItem items text)
    (item : ∀ {name : String} {spelled : List Char}, IsItem name spelled → IsWording spelled) :
    IsWording text := by
  induction isList with
  | last isItem => exact item isItem
  | more isItem isMark _ ih =>
    exact ((item isItem).append (isMark.wording (by decide) (by decide))).append ih

theorem IsPlacesAfter.wording {sign : List Char} {labels : List String} {text : List Char}
    (isPart : IsPlacesAfter sign labels text) (known : sign ∈ marks) (other : sign ≠ ['.']) :
    IsWording text := by
  obtain ⟨isMark, isPlaces⟩ := isPart
  exact (isMark.wording known other).append (isPlaces.wording IsLabel.wording)

theorem IsPlacesBefore.wording {sign : List Char} {labels : List String} {text : List Char}
    (isPart : IsPlacesBefore sign labels text) (known : sign ∈ marks) (other : sign ≠ ['.']) :
    IsWording text := by
  obtain ⟨isPlaces, isMark⟩ := isPart
  exact (isPlaces.wording IsLabel.wording).append (isMark.wording known other)

theorem IsOptional.wording {IsPart : List String → List Char → Prop} {labels : List String}
    {text : List Char} (isOptional : IsOptional IsPart labels text)
    (part : IsPart labels text → IsWording text) : IsWording text := by
  cases isOptional with
  | absent => exact .nil
  | present isPart => exact part isPart

theorem Opening.Spells.wording {opening : Opening} {text : List Char}
    (spells : opening.Spells text) : IsWording text := by
  cases spells with
  | bare => exact .nil
  | arrow isConsumed isCatalysts isMark isInhibitors =>
    have consumed := isConsumed.wording fun part => part.wording IsLabel.wording
    have catalysts := isCatalysts.wording fun part => part.wording (by decide) (by decide)
    have arrow := isMark.wording (by decide) (by decide)
    have inhibitors := isInhibitors.wording fun part => part.wording (by decide) (by decide)
    exact ((consumed.append catalysts).append arrow).append inhibitors
  | inhibition isInhibitors => exact isInhibitors.wording (by decide) (by decide)

/-- **The spelling of a sentence is layout and characters of words, and then a full stop.** -/
theorem Sentence.Spells.exists_wording {sentence : Sentence} {text : List Char}
    (spells : sentence.Spells text) : ∃ words, text = words ++ ['.'] ∧ IsWording words := by
  cases spells with
  | factual isBefore =>
    obtain ⟨isPlaces, ⟨layout⟩⟩ := isBefore
    exact ⟨_, (List.append_assoc _ _ _).symm,
      (isPlaces.wording IsLabel.wording).append (.of_layout layout)⟩
  | clause isOpening isTransitions isProducts isStop =>
    obtain ⟨layout⟩ := isStop
    have products := isProducts.wording fun part => part.wording (by decide) (by decide)
    exact ⟨_, (List.append_assoc _ _ _).symm,
      ((isOpening.wording.append (isTransitions.wording IsTransition.wording)).append
        products).append (.of_layout layout)⟩

/-! ## The first word -/

/-- The text starts with a word, without layout in front. -/
def Begins (text : List Char) : Prop := ∃ c rest, text = c :: rest ∧ isSpace c = false ∧ c ≠ '%'

namespace Begins

variable {text : List Char}

theorem append (begins : Begins text) (rest : List Char) : Begins (text ++ rest) := by
  obtain ⟨c, others, rfl, noSpace, noComment⟩ := begins
  exact ⟨c, others ++ rest, rfl, noSpace, noComment⟩

theorem ne_nil (begins : Begins text) : text ≠ [] := by
  obtain ⟨c, others, rfl, -⟩ := begins
  exact List.cons_ne_nil c others

theorem skipLayout_eq (begins : Begins text) : skipLayout text = text := by
  obtain ⟨c, others, rfl, noSpace, noComment⟩ := begins
  exact skipLayout_word noSpace noComment

end Begins

theorem IsWording.exists_begins {words : List Char} (wording : IsWording words) :
    ∃ gap word, words ++ ['.'] = gap ++ word ∧ IsLayout gap ∧ Begins word := by
  induction wording with
  | nil => exact ⟨[], ['.'], rfl, .nil, '.', [], rfl, by decide, by decide⟩
  | layout layout _ ih =>
    obtain ⟨gap, word, whole, more, begins⟩ := ih
    exact ⟨_, word, by rw [List.append_assoc, whole, List.append_assoc], layout.append more, begins⟩
  | @char c words inWord _ ih =>
    exact ⟨[], c :: words ++ ['.'], rfl, .nil, c, words ++ ['.'], rfl, inWord.1, inWord.2.1⟩

/-- A sentence with no layout to skip in front starts with its first word. -/
theorem Sentence.Spells.begins {sentence : Sentence} {spelled rest : List Char}
    (spells : sentence.Spells spelled)
    (begun : skipLayout (spelled ++ rest) = spelled ++ rest) : Begins spelled := by
  obtain ⟨words, rfl, wording⟩ := spells.exists_wording
  obtain ⟨gap, word, whole, layout, begins⟩ := wording.exists_begins
  rw [whole, List.append_assoc, skipLayout_append layout,
    (begins.append rest).skipLayout_eq] at begun
  have none : gap = [] := List.self_eq_append_left.1 begun
  rw [whole, none]
  exact begins

/-! ## Full stops at the start of a line -/

/-- The text is empty or ends at the end of a line. -/
def Ended (text : List Char) : Prop := ∀ c ∈ text.getLast?, c = '\n'

theorem Ended.of_append {first second : List Char} (ended : Ended (first ++ second)) :
    Ended second := by
  intro c last
  exact ended c (List.mem_getLast?_append_of_mem_getLast? last)

theorem Ended.of_cons {c : Char} {text : List Char} (ended : Ended (c :: text)) : Ended text :=
  Ended.of_append (List.singleton_append ▸ ended)

/-- No line of the text starts with a full stop. -/
def Undotted (text : List Char) : Prop :=
  ∀ before after, '\n' :: text ≠ before ++ '\n' :: '.' :: after

theorem undotted_of_no_stop {text : List Char} (none : ∀ c ∈ text, c ≠ '.') : Undotted text := by
  intro before after whole
  have member : '.' ∈ '\n' :: text := by rw [whole]; simp
  rcases List.mem_cons.1 member with same | inText
  · exact absurd same (by decide)
  · exact none _ inText rfl

/-- A stretch within one line that does not start with a full stop. -/
theorem undotted_of_line {c : Char} {text : List Char} (noStop : c ≠ '.')
    (noFeed : ∀ d ∈ c :: text, d ≠ '\n') : Undotted (c :: text) := by
  intro before after whole
  cases before with
  | nil => exact noStop (List.cons.inj (List.cons.inj whole).2).1
  | cons d before =>
    have member : '\n' ∈ c :: text := by
      rw [(List.cons.inj whole).2]
      simp
    exact noFeed _ member rfl

theorem Undotted.append {first second : List Char} (isFirst : Undotted first)
    (isSecond : Undotted second) : Undotted (first ++ second) := by
  intro before after whole
  rw [← List.cons_append, List.append_eq_append_iff] at whole
  obtain ⟨middle, split, rest⟩ | ⟨middle, split, rest⟩ := whole
  · exact isSecond ('\n' :: middle) after (congrArg ('\n' :: ·) rest)
  · -- The line end belongs to the second text or to the first, which has the full stop as well
    -- or not.
    cases middle with
    | nil => exact isSecond ['\n'] after (congrArg ('\n' :: ·) rest.symm)
    | cons feed middle =>
      obtain ⟨rfl, others⟩ := List.cons.inj rest
      cases middle with
      | nil => exact isSecond [] after (congrArg ('\n' :: ·) others.symm)
      | cons stop middle =>
        obtain ⟨rfl, -⟩ := List.cons.inj others
        exact isFirst before middle split

theorem IsWording.undotted {words : List Char} (wording : IsWording words) : Undotted words := by
  refine wording.of_pieces (undotted_of_no_stop (by simp)) Undotted.append ?_ ?_
  · intro c _ noStop
    exact undotted_of_no_stop (by simpa using noStop)
  · intro body lineEnd inLine ends
    have line : Undotted ('%' :: body) := by
      refine undotted_of_line (by decide) (List.forall_mem_cons.2 ⟨by decide, ?_⟩)
      exact fun d member => (inLine d member).2
    have ending : Undotted lineEnd := by
      cases ends <;> exact undotted_of_no_stop (by simp)
    exact line.append ending

/-- **A sentence ends at a full stop at the start of a line or before it.** -/
theorem Sentence.Spells.reaches_stop {sentence : Sentence} {spelled rest text later : List Char}
    (spells : sentence.Spells spelled) (ended : Ended text)
    (whole : spelled ++ rest = text ++ '.' :: later) :
    spelled = text ++ ['.'] ∧ rest = later ∨
      ∃ between, text = spelled ++ between ∧ rest = between ++ '.' :: later := by
  obtain ⟨words, rfl, wording⟩ := spells.exists_wording
  rw [List.append_assoc, List.append_eq_append_iff] at whole
  obtain ⟨middle, rfl, split⟩ | ⟨middle, rfl, split⟩ := whole
  · cases middle with
    | nil => exact .inl ⟨by rw [List.append_nil], (List.cons.inj split).2⟩
    | cons stop between =>
      obtain ⟨rfl, others⟩ := List.cons.inj split
      exact .inr ⟨between, (List.append_assoc _ ['.'] _).symm, others⟩
  · cases middle with
    | nil => exact .inl ⟨by rw [List.append_nil], (List.cons.inj split).2.symm⟩
    | cons stop middle =>
      obtain ⟨rfl, -⟩ := List.cons.inj split
      rcases List.eq_nil_or_concat text with rfl | ⟨line, c, rfl⟩
      · exact absurd rfl (wording.undotted [] middle)
      · obtain rfl : c = '\n' := ended c (by simp)
        exact absurd (by simp) (wording.undotted ('\n' :: line) middle)

end EventNet.Notation
