import EventNet.Proofs.Notation.Joining
import Mathlib.Data.List.Infix

/-!
# Where reading is found again

A full stop at the start of a line ends whatever stands in front of it, be it a sentence, a
faulty stretch or a comment: the text behind it is read as it is read alone. There is one
exception. A comment that meets a carriage return before the end of its line is no comment
(`HasBrokenComment`), and a faulty stretch that comes to its per cent sign leaves nothing of
the text to read. So reading is found again behind the full stop exactly if no comment in
front of it is broken (`read_resumes`), and otherwise all that stands behind is lost
(`read_loses_sentence`).

The first region of the text in front of the full stop decides how things go on (`Leads`); it
does not depend on what stands behind the full stop. The whole text is an induction over its
regions (`regionsFrom_stop`).
-/

set_option autoImplicit false

namespace EventNet.Notation

/-! ## Broken comments -/

/-- Behind some per cent sign there is a carriage return in the same line that does not end
it. -/
def HasBrokenComment (text : List Char) : Prop :=
  ∃ before body rest, text = before ++ '%' :: (body ++ '\r' :: rest) ∧ IsCommentText body ∧
    rest.head? ≠ some '\n'

theorem afterComment?_return {body rest : List Char} (inLine : IsCommentText body)
    (alone : rest.head? ≠ some '\n') : afterComment? (body ++ '\r' :: rest) = none := by
  induction body with
  | nil =>
    cases rest with
    | nil => rfl
    | cons c rest =>
      rw [List.nil_append, afterComment?]
      rintro _ same
      exact alone (congrArg List.head? same)
  | cons c body ih =>
    obtain ⟨⟨notReturn, notFeed⟩, others⟩ := List.forall_mem_cons.1 inLine
    rw [List.cons_append, afterComment?_cons notReturn notFeed, ih others]

theorem afterComment?_eq_none_iff {text : List Char} :
    afterComment? text = none ↔
      ∃ body rest, text = body ++ '\r' :: rest ∧ IsCommentText body ∧
        rest.head? ≠ some '\n' := by
  refine ⟨fun none => ?_, ?_⟩
  · fun_induction afterComment? text with
    | case1 => cases none
    | case2 => cases none
    | case3 => cases none
    | case4 rest alone =>
      refine ⟨[], rest, rfl, by simp [IsCommentText], fun feed => ?_⟩
      obtain ⟨others, rfl⟩ := List.head?_eq_some_iff.1 feed
      exact alone others rfl
    | case5 c rest notFeed _ notReturn ih =>
      obtain ⟨body, others, rfl, inLine, alone⟩ := ih none
      refine ⟨c :: body, others, rfl, List.forall_mem_cons.2 ⟨⟨?_, ?_⟩, inLine⟩, alone⟩
      · rintro rfl
        exact notReturn rfl
      · rintro rfl
        exact notFeed rfl
  · rintro ⟨body, rest, rfl, inLine, alone⟩
    exact afterComment?_return inLine alone

/-- A broken comment is a per cent sign that starts no comment. -/
theorem hasBrokenComment_iff {text : List Char} :
    HasBrokenComment text ↔ ∃ before rest, text = before ++ '%' :: rest ∧
      afterComment? rest = none := by
  constructor
  · rintro ⟨before, body, rest, rfl, inLine, alone⟩
    exact ⟨before, _, rfl, afterComment?_return inLine alone⟩
  · rintro ⟨before, rest, rfl, none⟩
    obtain ⟨body, others, rfl, inLine, alone⟩ := afterComment?_eq_none_iff.1 none
    exact ⟨before, body, others, rfl, inLine, alone⟩

/-- The text starts with a broken comment. -/
def startsBroken : List Char → Bool
  | '%' :: rest => (afterComment? rest).isNone
  | _ => false

theorem exists_startsBroken_iff {text : List Char} :
    (∃ rest ∈ text.tails, startsBroken rest = true) ↔ HasBrokenComment text := by
  rw [hasBrokenComment_iff]
  constructor
  · rintro ⟨found, suffix, broken⟩
    obtain ⟨before, rfl⟩ := (List.mem_tails _ _).1 suffix
    unfold startsBroken at broken
    split at broken
    · exact ⟨before, _, rfl, Option.isNone_iff_eq_none.1 broken⟩
    · cases broken
  · rintro ⟨before, rest, rfl, none⟩
    exact ⟨'%' :: rest, (List.mem_tails _ _).2 (List.suffix_append _ _),
      Option.isNone_iff_eq_none.2 none⟩

instance : DecidablePred HasBrokenComment := fun _ => decidable_of_iff _ exists_startsBroken_iff

namespace HasBrokenComment

theorem not_nil : ¬HasBrokenComment [] := by
  rintro ⟨before, body, rest, empty, -⟩
  exact absurd empty (by simp)

theorem behind (first : List Char) {text : List Char} (broken : HasBrokenComment text) :
    HasBrokenComment (first ++ text) := by
  obtain ⟨before, body, rest, rfl, inLine, alone⟩ := broken
  exact ⟨first ++ before, body, rest, (List.append_assoc _ _ _).symm, inLine, alone⟩

theorem before_stop {text : List Char} (broken : HasBrokenComment text) (later : List Char) :
    HasBrokenComment (text ++ '.' :: later) := by
  obtain ⟨before, body, rest, rfl, inLine, alone⟩ := broken
  refine ⟨before, body, rest ++ '.' :: later, by simp, inLine, ?_⟩
  cases rest with
  | nil => exact fun same => absurd (Option.some.inj same) (by decide)
  | cons c rest => exact alone

/-- A comment that comes to an end is not broken, nor is a per cent sign in it. -/
theorem of_comment {text after : List Char} (found : afterComment? text = some after)
    (broken : HasBrokenComment ('%' :: text)) : HasBrokenComment after := by
  rw [hasBrokenComment_iff] at broken ⊢
  obtain ⟨before, rest, whole, none⟩ := broken
  cases before with
  | nil =>
    obtain ⟨-, rfl⟩ := List.cons.inj whole
    rw [found] at none
    cases none
  | cons c before =>
    obtain ⟨body, inLine, rfl, ends⟩ := afterComment?_cases found
    obtain ⟨middle, -, split⟩ | ⟨middle, rfl, split⟩ :=
      List.append_eq_append_iff.1 (List.cons.inj whole).2
    · exact ⟨middle, rest, split, none⟩
    · cases middle with
      | nil => exact ⟨[], rest, split.symm, none⟩
      | cons d middle =>
        -- The per cent sign stands in the comment, which comes to an end behind it as well.
        obtain ⟨rfl, behind⟩ := List.cons.inj split
        have inMiddle : IsCommentText middle := fun c member => inLine c (by simp [member])
        have again : afterComment? (middle ++ after) = some after := by
          obtain rfl | ⟨lineEnd, others, isEnd, rfl⟩ := ends
          · rw [List.append_nil, afterComment?_eq_nil inMiddle]
          · exact afterComment?_eq_lineEnd inMiddle isEnd
        have same : rest = middle ++ after := behind
        rw [same, again] at none
        cases none

end HasBrokenComment

/-- No comment of the text is broken, whatever follows. -/
def Closed (text : List Char) : Prop :=
  ∀ rest, HasBrokenComment (text ++ rest) → HasBrokenComment rest

namespace Closed

theorem append {first second : List Char} (isFirst : Closed first) (isSecond : Closed second) :
    Closed (first ++ second) := by
  intro rest broken
  rw [List.append_assoc] at broken
  exact isSecond rest (isFirst _ broken)

theorem of_no_percent {text : List Char} (none : ∀ c ∈ text, c ≠ '%') : Closed text := by
  intro rest broken
  rw [hasBrokenComment_iff] at broken ⊢
  obtain ⟨before, others, whole, isBroken⟩ := broken
  obtain ⟨middle, -, split⟩ | ⟨middle, rfl, split⟩ := List.append_eq_append_iff.1 whole
  · exact ⟨middle, others, split, isBroken⟩
  · cases middle with
    | nil => exact ⟨[], others, split.symm, isBroken⟩
    | cons c middle =>
      obtain ⟨rfl, -⟩ := List.cons.inj split
      exact absurd rfl (none '%' (by simp))

theorem not_broken {text : List Char} (closed : Closed text) : ¬HasBrokenComment text := by
  intro broken
  rw [← List.append_nil text] at broken
  exact HasBrokenComment.not_nil (closed [] broken)

end Closed

theorem IsWording.closed {words : List Char} (wording : IsWording words) : Closed words := by
  refine wording.of_pieces (.of_no_percent (by simp)) Closed.append ?_ ?_
  · intro c noPercent _
    exact .of_no_percent (by simpa using noPercent)
  · intro body lineEnd inLine ends rest broken
    have found : afterComment? (body ++ (lineEnd ++ rest)) = some (lineEnd ++ rest) :=
      afterComment?_eq_lineEnd inLine ends
    have noPercent : Closed lineEnd := by cases ends <;> exact .of_no_percent (by simp)
    rw [List.append_assoc, List.cons_append] at broken
    exact noPercent rest (broken.of_comment found)

theorem IsLayout.closed {gap : List Char} (layout : IsLayout gap) : Closed gap :=
  (IsWording.of_layout layout).closed

theorem Sentence.Spells.closed {sentence : Sentence} {text : List Char}
    (spells : sentence.Spells text) : Closed text := by
  obtain ⟨words, rfl, wording⟩ := spells.exists_wording
  exact wording.closed.append (.of_no_percent (by simp))

/-! ## Up to the full stop -/

/-- In a text that ends at the end of a line it does not depend on what follows whether a per
cent sign starts a comment, and where that comment ends. -/
theorem afterComment?_ended {text : List Char} (ended : Ended text) (nonempty : text ≠ []) :
    (∀ later, afterComment? (text ++ later) = none) ∨
      ∃ body rest, text = body ++ rest ∧
        ∀ later, afterComment? (text ++ later) = some (rest ++ later) := by
  induction text with
  | nil => exact absurd rfl nonempty
  | cons c text ih =>
    by_cases feed : c = '\n'
    · subst feed
      exact .inr ⟨[], '\n' :: text, rfl, fun later => rfl⟩
    · have more : text ≠ [] := by
        rintro rfl
        exact feed (ended c rfl)
      by_cases isReturn : c = '\r'
      · subst isReturn
        obtain ⟨d, text, rfl⟩ := List.exists_cons_of_ne_nil more
        by_cases next : d = '\n'
        · subst next
          exact .inr ⟨[], '\r' :: '\n' :: text, rfl, fun later => rfl⟩
        · refine .inl fun later => ?_
          have alone : (d :: text ++ later).head? ≠ some '\n' := fun same =>
            next (Option.some.inj same)
          have inLine : IsCommentText [] := by simp [IsCommentText]
          exact afterComment?_return inLine alone
      · have endedText : Ended text := ended.of_cons
        obtain none | ⟨body, rest, rfl, found⟩ := ih endedText more
        · exact .inl fun later => (afterComment?_cons isReturn feed).trans (none later)
        · exact .inr ⟨c :: body, rest, rfl, fun later =>
            (afterComment?_cons isReturn feed).trans (found later)⟩

/-- A text that ends at the end of a line is layout with something behind it that is no layout,
whatever follows the full stop. -/
theorem exists_body {text : List Char} (ended : Ended text) :
    ∃ gap body, text = gap ++ body ∧ IsLayout gap ∧
      ∀ later, skipLayout (body ++ '.' :: later) = body ++ '.' :: later := by
  by_cases nothing : skipLayout text = []
  · refine ⟨text, [], (List.append_nil text).symm, ?_, fun later => ?_⟩
    · exact (skipLayout_eq_nil_iff.1 nothing).isLayout ended
    · exact skipLayout_word (by decide) (by decide)
  · obtain ⟨gap, layout, whole⟩ := exists_gap text nothing
    have begun := skipLayout_skipLayout text
    generalize skipLayout text = body at *
    subst whole
    refine ⟨gap, body, rfl, layout, fun later => ?_⟩
    obtain ⟨c, body, rfl⟩ := List.exists_cons_of_ne_nil nothing
    -- Nothing was skipped, so the first character is neither a space nor starts a comment.
    have tooShort : ∀ rest : List Char, rest.length ≤ body.length →
        skipLayout rest ≠ c :: body := by
      intro rest short same
      have := length_skipLayout rest
      rw [same, List.length_cons] at this
      omega
    have noSpace : isSpace c = false := by
      refine Bool.eq_false_iff.2 fun space => ?_
      rw [skipLayout_space space] at begun
      exact tooShort body (Nat.le_refl _) begun
    by_cases percent : c = '%'
    · subst percent
      have endedBody : Ended body := ended.of_append.of_cons
      have more : body ≠ [] := by
        rintro rfl
        exact absurd (ended '%' (by simp)) (by decide)
      obtain none | ⟨inside, rest, rfl, found⟩ := afterComment?_ended endedBody more
      · exact skipLayout_percent (none _)
      · have here := found []
        rw [List.append_nil, List.append_nil] at here
        rw [skipLayout_comment here] at begun
        exact absurd begun (tooShort rest (by simp))
    · exact skipLayout_word noSpace percent

/-- The error about a faulty stretch does not depend on what stands behind a full stop in it. -/
theorem rejection_stop (start : Position) (text later other : List Char) :
    rejection start (text ++ '.' :: later) = rejection start (text ++ '.' :: other) := by
  have cut : ∀ more, (text ++ '.' :: more).takeWhile (fun c => !endsExcerpt c) =
      text.takeWhile fun c => !endsExcerpt c := by
    intro more
    induction text with
    | nil => rfl
    | cons c text ih => simp only [List.cons_append, List.takeWhile_cons, ih]
  rw [rejection, rejection, excerpt, excerpt, cut, cut]

/-- What the first region of a text is if a full stop follows at the start of a line. It does not
depend on what stands behind the full stop. -/
inductive Leads (position : Position) (text : List Char) : Prop where
  /-- The first region ends with the full stop. -/
  | stops (region : Region) : ¬HasBrokenComment text →
      (∀ later, regionsFrom position (text ++ '.' :: later) =
        region :: regionsFrom (position.after (text ++ ['.'])) later) → Leads position text
  /-- The first region ends before the full stop. -/
  | goesOn (region : Region) (passed rest : List Char) : text = passed ++ rest → passed ≠ [] →
      (HasBrokenComment text → HasBrokenComment rest) →
        (∀ later, regionsFrom position (text ++ '.' :: later) =
          region :: regionsFrom (position.after passed) (rest ++ '.' :: later)) →
            Leads position text
  /-- The first region comes to a broken comment, and leaves nothing. -/
  | loses (region : Region) : HasBrokenComment text →
      (∀ later, regionsFrom position (text ++ '.' :: later) = [region]) → Leads position text

/-- A sentence that comes up to the full stop ends with it or before it, whatever stands behind
the full stop. -/
theorem statement_stop {text : List Char} (ended : Ended text) :
    (∃ sentence : Sentence, sentence.Spells (text ++ ['.'])) ∨
      (∃ (sentence : Sentence) (spelled rest : List Char), sentence.Spells spelled ∧
        text = spelled ++ rest) ∨
      ∀ later, statement (text ++ '.' :: later) = none := by
  by_contra other
  obtain ⟨noEnd, other⟩ := not_or.1 other
  obtain ⟨noSentence, other⟩ := not_or.1 other
  obtain ⟨later, read⟩ := not_forall.1 other
  obtain ⟨⟨statements, rest⟩, found⟩ := Option.ne_none_iff_exists'.1 read
  obtain ⟨sentence, spelled, whole, spells, -⟩ := spells_of_statement found
  obtain ⟨rfl, -⟩ | ⟨between, same, -⟩ := spells.reaches_stop ended whole.symm
  · exact noEnd ⟨sentence, spells⟩
  · exact noSentence ⟨sentence, spelled, between, spells, same⟩

/-- Where recovering from a faulty stretch leads, if a full stop follows. -/
theorem recover_stop {text : List Char} (ended : Ended text) :
    (¬HasBrokenComment text ∧ ∀ later, recover (text ++ '.' :: later) = later) ∨
      (∃ passed rest, text = passed ++ rest ∧ passed ≠ [] ∧
        (HasBrokenComment text → HasBrokenComment rest) ∧
          ∀ later, recover (text ++ '.' :: later) = rest ++ '.' :: later) ∨
      (HasBrokenComment text ∧ ∀ later, recover (text ++ '.' :: later) = []) := by
  induction text with
  | nil => exact .inl ⟨HasBrokenComment.not_nil, fun later => rfl⟩
  | cons c text ih =>
    have endedText : Ended text := ended.of_cons
    by_cases stop : c = '.'
    · subst stop
      exact .inr (.inl ⟨['.'], text, rfl, by simp,
        (Closed.of_no_percent (by simp) : Closed ['.']) text, fun later => rfl⟩)
    · by_cases percent : c = '%'
      · subst percent
        have more : text ≠ [] := by
          rintro rfl
          exact absurd (ended '%' (by simp)) (by decide)
        obtain none | ⟨body, rest, rfl, found⟩ := afterComment?_ended endedText more
        · refine .inr (.inr ⟨?_, fun later => ?_⟩)
          · have here := none []
            rw [List.append_nil] at here
            exact hasBrokenComment_iff.2 ⟨[], text, rfl, here⟩
          · rw [List.cons_append, recover, none]
            rfl
        · refine .inr (.inl ⟨'%' :: body, rest, rfl, by simp, ?_, fun later => ?_⟩)
          · have here := found []
            rw [List.append_nil, List.append_nil] at here
            exact HasBrokenComment.of_comment here
          · rw [List.cons_append, recover, found]
            rfl
      · have passes : ∀ later, recover (c :: text ++ '.' :: later) =
            recover (text ++ '.' :: later) := fun later => recover.eq_4 _ _ stop percent
        have closed : Closed [c] := .of_no_percent (by simpa using percent)
        obtain ⟨unbroken, left⟩ | ⟨passed, rest, rfl, -, stays, left⟩ | ⟨broken, left⟩ :=
          ih endedText
        · exact .inl ⟨fun broken => unbroken (closed _ broken),
            fun later => (passes later).trans (left later)⟩
        · exact .inr (.inl ⟨c :: passed, rest, rfl, by simp,
            fun broken => stays (closed _ broken),
            fun later => (passes later).trans (left later)⟩)
        · exact .inr (.inr ⟨broken.behind [c], fun later => (passes later).trans (left later)⟩)

section FirstRegion

variable {gap body : List Char}

/-- A sentence that ends with the full stop. -/
theorem leads_of_spells (layout : IsLayout gap) {sentence : Sentence}
    (spells : sentence.Spells (body ++ ['.']))
    (begun : ∀ later, skipLayout (body ++ '.' :: later) = body ++ '.' :: later)
    (position : Position) : Leads position (gap ++ body) := by
  have begins : Begins (body ++ ['.']) := by
    have whole := begun []
    rw [← List.append_nil (body ++ ['.'])] at whole
    exact spells.begins whole
  refine .stops (.accepted (position.after gap) sentence.statements) ?_ fun later => ?_
  · intro broken
    have withStop := broken.before_stop []
    rw [List.append_assoc] at withStop
    exact (layout.closed.append spells.closed).not_broken withStop
  · have read := statement_of_spells spells later
    have regions := regionsFrom_of_statement layout begins read position
    rw [List.append_assoc] at regions
    rw [List.append_assoc, List.append_assoc]
    exact regions

/-- A sentence that ends before the full stop. -/
theorem leads_of_sentence (layout : IsLayout gap) {sentence : Sentence}
    {spelled rest : List Char} (spells : sentence.Spells spelled)
    (begun : ∀ later, skipLayout (spelled ++ rest ++ '.' :: later) =
      spelled ++ rest ++ '.' :: later)
    (position : Position) : Leads position (gap ++ (spelled ++ rest)) := by
  have begins : Begins spelled := by
    have whole := begun []
    rw [List.append_assoc] at whole
    exact spells.begins whole
  refine .goesOn (.accepted (position.after gap) sentence.statements) (gap ++ spelled) rest
    (List.append_assoc _ _ _).symm (List.append_ne_nil_of_right_ne_nil gap begins.ne_nil)
    (fun broken => ?_) fun later => ?_
  · rw [← List.append_assoc] at broken
    exact layout.closed.append spells.closed rest broken
  · have read := statement_of_spells spells (rest ++ '.' :: later)
    have regions := regionsFrom_of_statement layout begins read position
    rwa [List.append_assoc, List.append_assoc]

/-- A faulty stretch. -/
theorem leads_of_none (layout : IsLayout gap) (ended : Ended body)
    (begun : ∀ later, skipLayout (body ++ '.' :: later) = body ++ '.' :: later)
    (none : ∀ later, statement (body ++ '.' :: later) = none) (position : Position) :
    Leads position (gap ++ body) := by
  have error (later : List Char) : rejection (position.after gap) (body ++ '.' :: later) =
      rejection (position.after gap) (body ++ ['.']) := rejection_stop _ _ _ _
  obtain ⟨unbroken, left⟩ | ⟨passed, rest, rfl, nonempty, stays, left⟩ | ⟨broken, left⟩ :=
    recover_stop ended
  · refine .stops (.rejected (rejection (position.after gap) (body ++ ['.'])))
      (unbroken ∘ layout.closed body) fun later => ?_
    have whole (more : List Char) : (body ++ ['.']) ++ more = body ++ '.' :: more :=
      List.append_assoc _ _ _
    have regions := regionsFrom_of_none layout (body ++ ['.']) later
      (by simp) (by rw [whole, begun]) (by rw [whole, none]) (by rw [whole, left]) position
    rwa [whole, error, ← List.append_assoc, ← List.append_assoc] at regions
  · refine .goesOn (.rejected (rejection (position.after gap) (passed ++ rest ++ ['.'])))
      (gap ++ passed) rest (List.append_assoc _ _ _).symm
      (List.append_ne_nil_of_right_ne_nil gap nonempty)
      (stays ∘ layout.closed _) fun later => ?_
    have whole : passed ++ (rest ++ '.' :: later) = passed ++ rest ++ '.' :: later :=
      (List.append_assoc _ _ _).symm
    have regions := regionsFrom_of_none layout passed (rest ++ '.' :: later) nonempty
      (by rw [whole, begun]) (by rw [whole, none]) (by rw [whole, left]) position
    rwa [whole, error, ← List.append_assoc] at regions
  · refine .loses (.rejected (rejection (position.after gap) (body ++ ['.'])))
      (broken.behind gap) fun later => ?_
    have regions := regionsFrom_of_none layout (body ++ '.' :: later) []
      (by simp) (by rw [List.append_nil, begun]) (by rw [List.append_nil, none])
      (by rw [List.append_nil, left]) position
    rwa [List.append_nil, error, ← List.append_assoc,
      regionsFrom_layout _ (by rw [skipLayout] : skipLayout [] = [])] at regions

end FirstRegion

/-- Every text that ends at the end of a line leads in one of these ways. -/
theorem leads (position : Position) {text : List Char} (ended : Ended text) :
    Leads position text := by
  obtain ⟨gap, body, rfl, layout, begun⟩ := exists_body ended
  have endedBody : Ended body := ended.of_append
  obtain ⟨sentence, spells⟩ | ⟨sentence, spelled, rest, spells, rfl⟩ | none :=
    statement_stop endedBody
  · exact leads_of_spells layout spells begun position
  · exact leads_of_sentence layout spells begun position
  · exact leads_of_none layout endedBody begun none position

/-- **A full stop at the start of a line ends what stands in front of it**, unless that has a
broken comment: then nothing behind it is read. -/
theorem regionsFrom_stop (position : Position) {text : List Char} (ended : Ended text) :
    ∃ before,
      (¬HasBrokenComment text → ∀ later, regionsFrom position (text ++ '.' :: later) =
        before ++ regionsFrom (position.after (text ++ ['.'])) later) ∧
      (HasBrokenComment text → ∀ later,
        regionsFrom position (text ++ '.' :: later) = before) := by
  cases leads position ended with
  | stops region closed regions =>
    exact ⟨[region], fun _ => regions, fun broken => absurd broken closed⟩
  | goesOn region passed rest whole nonempty stays regions =>
    have shorter : rest.length < text.length := by
      have := List.length_pos_iff.2 nonempty
      rw [whole, List.length_append]
      omega
    obtain ⟨before, found, lost⟩ := regionsFrom_stop (position.after passed)
      (whole ▸ ended : Ended (passed ++ rest)).of_append
    refine ⟨region :: before, fun closed later => ?_, fun broken later => ?_⟩
    · have closedRest : ¬HasBrokenComment rest := fun broken =>
        closed (whole ▸ broken.behind passed)
      rw [regions, found closedRest, ← Position.after_append, whole, List.append_assoc,
        List.cons_append]
    · rw [regions, lost (stays broken)]
  | loses region broken regions =>
    exact ⟨[region], fun closed => absurd broken closed, fun _ => regions⟩
  termination_by text.length

/-! ## The whole text -/

/-- A text that goes on behind a line with nothing but a full stop. -/
theorem regions_stop (garbage later : String) :
    (¬HasBrokenComment (garbage ++ "\n").toList →
      regions (garbage ++ "\n.\n" ++ later) = regions (garbage ++ "\n.\n") ++
        (regions later).map (Region.below ((garbage ++ "\n.\n").toList.count '\n'))) ∧
      (HasBrokenComment (garbage ++ "\n").toList →
        regions (garbage ++ "\n.\n" ++ later) = regions (garbage ++ "\n.\n")) := by
  generalize same : (garbage ++ "\n").toList = text
  have begun : (garbage ++ "\n.\n").toList = text ++ '.' :: ['\n'] := by
    rw [← same]
    simp
  have whole : (garbage ++ "\n.\n" ++ later).toList = text ++ '.' :: '\n' :: later.toList := by
    rw [String.toList_append, begun]
    simp
  have ended : Ended text := by
    rw [← same]
    simp [Ended]
  obtain ⟨before, found, lost⟩ := regionsFrom_stop {} ended
  refine ⟨fun closed => ?_, fun broken => ?_⟩
  · have place : (({} : Position).after (text ++ ['.'])).after ['\n'] =
        ({} : Position).below ((text ++ '.' :: ['\n']).count '\n') := by
      have atLine := Position.after_line (text ++ ['.'])
      rwa [Position.after_append, List.append_assoc] at atLine
    have behind (more : List Char) : regionsFrom {} (text ++ '.' :: '\n' :: more) =
        before ++ (regionsFrom {} more).map
          (Region.below ((text ++ '.' :: ['\n']).count '\n')) := by
      have lineEnd : IsLayout ['\n'] := .space (by simp) .nil
      have next := regionsFrom_gap lineEnd (({} : Position).after (text ++ ['.'])) more
      rw [place, regionsFrom_below] at next
      exact (found closed _).trans (congrArg (before ++ ·) next)
    have alone := behind []
    rw [regionsFrom_layout {} (by rw [skipLayout] : skipLayout [] = []), List.map_nil,
      List.append_nil] at alone
    rw [regions, regions, regions, whole, begun, behind, alone]
  · rw [regions, regions, whole, begun, lost broken, lost broken]

/-- **Behind a full stop that stands alone in its line a text is read as it is read alone**,
whatever stands in front of it, except if that has a broken comment: then nothing behind it is
read. -/
theorem read_resumes (garbage later : String) :
    (¬HasBrokenComment (garbage ++ "\n").toList →
      (read (garbage ++ "\n.\n" ++ later)).Joins (read (garbage ++ "\n.\n")) (read later)
        ((garbage ++ "\n.\n").toList.count '\n')) ∧
      (HasBrokenComment (garbage ++ "\n").toList →
        read (garbage ++ "\n.\n" ++ later) = read (garbage ++ "\n.\n")) := by
  obtain ⟨found, lost⟩ := regions_stop garbage later
  refine ⟨?_, ?_⟩
  · intro closed
    exact joins_of_regions (found closed)
  · intro broken
    rw [read, read, lost broken]

/-- A comment in a faulty stretch is not broken if a line feed follows the carriage return. -/
example :
    ¬HasBrokenComment ("a -> % b.\r\n c" ++ "\n").toList ∧
      HasBrokenComment ("a -> % b.\r c" ++ "\n").toList := by
  decide +kernel

/-- Behind a comment that meets a carriage return a well-formed sentence is lost, although a full
stop stands alone in the line in front of it. -/
theorem read_loses_sentence :
    ¬∀ garbage later : String,
      (read (garbage ++ "\n.\n" ++ later)).statements =
        (read (garbage ++ "\n.\n")).statements ++ (read later).statements := by
  intro always
  have lost : (read ("% x\ry" ++ "\n.\n" ++ "c.")).statements = [] := by decide +kernel
  have alone : (read "c.").statements = [.factual ["c"]] := by decide +kernel
  have kept := always "% x\ry" "c."
  rw [lost, alone] at kept
  exact absurd kept (by simp)

end EventNet.Notation
