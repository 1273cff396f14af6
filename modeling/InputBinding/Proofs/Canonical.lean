import InputBinding.Descriptor.Printer
import InputBinding.Proofs.Fragments
import InputBinding.Proofs.Readings

/-!
Canonical texts. The text of a step that has been read is one whole piece, which is read as that step
again, save that a neutral axis now takes the tolerance of the settings.
-/

namespace InputBinding

def AxisTest.settled (tolerance : Float) (test : AxisTest) : AxisTest :=
  if test.direction = .neutral then { test with tolerance } else test

def Part.settled (tolerance : Float) : Part → Part
  | .key name => .key name
  | .axis test => .axis (test.settled tolerance)

/-- The step with a given tolerance for each neutral axis outside groups. -/
def Step.settled (tolerance : Float) : Step → Step
  | .single part => .single (part.settled tolerance)
  | .combo left right => .combo (left.settled tolerance) (right.settled tolerance)
  | .diagonal first second key => .diagonal first second key

theorem AxisTest.format_settled (tolerance : Float) (test : AxisTest) :
    (test.settled tolerance).format = test.format := by
  unfold AxisTest.settled
  by_cases neutral : test.direction = .neutral
  · rw [if_pos neutral]
    rfl
  · rw [if_neg neutral]

theorem Part.format_settled (tolerance : Float) (part : Part) :
    (part.settled tolerance).format = part.format := by
  cases part with
  | key name => rfl
  | axis test => exact test.format_settled tolerance

theorem Step.format_settled (tolerance : Float) (step : Step) :
    (step.settled tolerance).format = step.format := by
  cases step with
  | single part => exact part.format_settled tolerance
  | combo left right => simp only [Step.settled, Step.format, Part.format_settled]
  | diagonal first second key => rfl

def Part.name : Part → String
  | .key name => name
  | .axis test => test.name

def Part.direction : Part → Option Direction
  | .key _ => none
  | .axis test => some test.direction

namespace Grammar

open Text

theorem toList_format (part : Part) :
    part.format.toList = suffixed part.name.toList part.direction := by
  cases part with
  | key name => rfl
  | axis test => exact String.toList_push test.direction.suffix

theorem isReserved_suffix (direction : Direction) : isReserved direction.suffix = false := by
  cases direction <;> decide

theorem isParenthesis_reserved {char : Char} (parenthesis : isParenthesis char = true) :
    isReserved char = true := by
  simp only [isParenthesis, isReserved, Bool.or_eq_true, decide_eq_true_eq] at parenthesis ⊢
  rcases parenthesis with rfl | rfl
  · simp
  · simp

theorem no_parenthesis {text : List Char} (plain : ∀ char, isReserved char = true → char ∉ text) :
    ∀ char ∈ text, isParenthesis char = false := by
  intro char member
  rw [Bool.eq_false_iff]
  intro parenthesis
  exact plain char (isParenthesis_reserved parenthesis) member

variable {context : Context}

theorem Clean.not_reserved {name : List Char} (clean : Clean name) (char : Char)
    (reserved : isReserved char = true) : char ∉ name :=
  clean.not_mem (by simp [reserved])

theorem Clean.suffixed_plain {name : List Char} (clean : Clean name) (direction : Option Direction)
    (char : Char)
    (reserved : isReserved char = true) : char ∉ suffixed name direction := by
  have inName := clean.not_reserved char reserved
  cases direction with
  | none => exact inName
  | some direction =>
      intro member
      rcases List.mem_append.mp member with member | member
      · exact inName member
      · rw [List.mem_singleton.mp member, isReserved_suffix] at reserved
        cases reserved

theorem PartReads.clean {part : Part} (reads : PartReads context part) : Clean part.name.toList := by
  cases reads with
  | key clean _ => exact clean
  | axis clean _ _ => exact clean

theorem PartReads.not_reserved {part : Part} (reads : PartReads context part) (char : Char)
    (reserved : isReserved char = true) : char ∉ part.format.toList := by
  rw [toList_format]
  exact reads.clean.suffixed_plain part.direction char reserved

theorem PartReads.trimmed {part : Part} (reads : PartReads context part) :
    Trimmed part.format.toList := by
  rw [toList_format]
  exact reads.clean.trimmed_suffixed part.direction

theorem PartReads.nonempty {part : Part} (reads : PartReads context part) :
    part.format.toList ≠ [] := by
  rw [toList_format]
  cases part.direction with
  | none => exact reads.clean.nonempty
  | some direction => exact List.append_ne_nil_of_right_ne_nil _ (List.cons_ne_nil _ _)

theorem PartReads.readAtom {part : Part} (reads : PartReads context part) :
    readAtom part.format.toList = .ok ⟨part.name, part.direction⟩ := by
  rw [toList_format, reads.clean.readAtom, String.ofList_toList]

theorem PartReads.suffixedPart {part : Part} (reads : PartReads context part) :
    suffixedPart context ⟨part.name, part.direction⟩ = .ok (part.settled context.settings.firstTolerance) := by
  cases reads with
  | key clean undeclared => simp [Grammar.suffixedPart, Part.name, Part.direction, Part.settled, undeclared]
  | @axis test clean mayBe origin =>
      have required : requireAxis context test.name = .ok () := by simp [requireAxis, mayBe]
      have settled : test.settled context.settings.firstTolerance =
          ⟨test.name, test.direction, context.settings.firstTolerance⟩ := by
        unfold AxisTest.settled
        by_cases neutral : test.direction = .neutral
        · rw [if_pos neutral]
        · rw [if_neg neutral]
          rcases origin with own | bare
          · rw [← own]
          · exact absurd bare.1 neutral
      simp [Grammar.suffixedPart, Part.name, Part.direction, Part.settled, required, settled]

theorem PartReads.settled_eq {part : Part} (reads : PartReads context part)
    (plain : context.axisNames = none ∨ context.settings.firstTolerance = 0.0) :
    part.settled context.settings.firstTolerance = part := by
  cases reads with
  | key _ _ => rfl
  | @axis test clean mayBe origin =>
      have own : test.tolerance = context.settings.firstTolerance := by
        rcases origin with own | ⟨_, zero, declared⟩
        · exact own
        · rcases plain with undeclared | free
          · rw [Context.isAxis, undeclared] at declared
            cases declared
          · rw [zero, free]
      simp [Part.settled, AxisTest.settled, ← own]

theorem StepReads.settled_eq {step : Step} (reads : StepReads context step)
    (plain : context.axisNames = none ∨ context.settings.firstTolerance = 0.0) :
    step.settled context.settings.firstTolerance = step := by
  cases reads with
  | single part => rw [Step.settled, part.settled_eq plain]
  | combo left right _ => rw [Step.settled, left.settled_eq plain, right.settled_eq plain]
  | diagonal => rfl

theorem trimmed_join {start last : List Char} (starts : Trimmed start) (nonempty : start ≠ [])
    (ends : Trimmed last) (other : last ≠ []) (middle : List Char) :
    Trimmed (start ++ middle ++ last) := by
  constructor
  · intro char first
    cases start with
    | nil => exact absurd rfl nonempty
    | cons head tail => exact starts.first char first
  · intro char final
    rw [List.getLast?_append_of_ne_nil _ other] at final
    exact ends.last char final

theorem toList_combo (left right : Part) :
    (Step.combo left right).format.toList = left.format.toList ++ '+' :: right.format.toList := by
  simp [Step.format]

def keyTail : Option String → List Char
  | none => []
  | some name => '+' :: name.toList

def groupText (first second : AxisTest) : List Char :=
  first.name.toList ++ ',' :: ' ' :: second.name.toList ++ [first.direction.suffix, second.direction.suffix]

theorem toList_diagonal (first second : AxisTest) (key : Option String) :
    (Step.diagonal first second key).format.toList = '(' :: groupText first second ++ ')' :: keyTail key := by
  cases key with
  | none => simp [Step.format, stepDelimiter, groupText, keyTail]
  | some name => simp [Step.format, stepDelimiter, groupText, keyTail]

theorem head?_ne_of_not_mem {text : List Char} {char : Char} (absent : char ∉ text) :
    text.head? ≠ some char := by
  intro starts
  exact absent (List.mem_of_head? starts)

theorem PartReads.readStep {part : Part} (reads : PartReads context part) :
    readStep context part.format.toList = .ok (.single (part.settled context.settings.firstTolerance)) := by
  have plain := reads.not_reserved
  have noGroup : part.format.toList.head? ≠ some '(' := head?_ne_of_not_mem (plain '(' rfl)
  have noParenthesis : part.format.toList.any isParenthesis = false := by
    simpa using no_parenthesis plain
  have noPlus : part.format.toList.contains '+' = false := by
    simpa using plain '+' rfl
  rw [Grammar.readStep, if_neg noGroup, noParenthesis, noPlus]
  simp [reads.readAtom, reads.suffixedPart, pure, Except.pure]

theorem splitPlus_pair {left right : List Char} (noPlus : '+' ∉ left) (noOther : '+' ∉ right)
    (leftTrimmed : Trimmed left) (leftSome : left ≠ []) (rightTrimmed : Trimmed right)
    (rightSome : right ≠ []) :
    splitPlus (left ++ '+' :: right) = .ok (left, right) := by
  simp [splitPlus, cutPlus_pair noPlus noOther, leftTrimmed.strip, rightTrimmed.strip, leftSome, rightSome]

theorem relocateSuffix_written {left : Part} (reads : PartReads context left) (right : Atom) :
    relocateSuffix context ⟨left.name, left.direction⟩ right = (⟨left.name, left.direction⟩, right) := by
  cases reads with
  | key _ undeclared => simp [relocateSuffix, Part.name, undeclared]
  | axis _ _ _ => simp [relocateSuffix, Part.direction]

theorem readStep_combo {left right : Part} (leftReads : PartReads context left)
    (rightReads : PartReads context right)
    (notBoth : (left.isAxis && right.isAxis) = false) :
    readStep context (Step.combo left right).format.toList =
      .ok ((Step.combo left right).settled context.settings.firstTolerance) := by
  have noGroup : (Step.combo left right).format.toList.head? ≠ some '(' := by
    apply head?_ne_of_not_mem
    simp [toList_combo, leftReads.not_reserved '(' rfl, rightReads.not_reserved '(' rfl]
  have noParenthesis : (Step.combo left right).format.toList.any isParenthesis = false := by
    rw [toList_combo, List.any_eq_false]
    intro char member
    rcases List.mem_append.mp member with member | member
    · simp [no_parenthesis leftReads.not_reserved char member]
    · rcases List.mem_cons.mp member with rfl | member
      · decide
      · simp [no_parenthesis rightReads.not_reserved char member]
  have plus : (Step.combo left right).format.toList.contains '+' = true := by
    simp [toList_combo]
  have sides := splitPlus_pair (leftReads.not_reserved '+' rfl) (rightReads.not_reserved '+' rfl)
    leftReads.trimmed leftReads.nonempty rightReads.trimmed rightReads.nonempty
  rw [← toList_combo] at sides
  rw [Grammar.readStep, if_neg noGroup, noParenthesis, plus]
  simp only [Bool.false_eq_true, if_false, if_true, readComboStep, sides, ok_bind, leftReads.readAtom,
    rightReads.readAtom, relocateSuffix_written leftReads, leftReads.suffixedPart, rightReads.suffixedPart]
  cases left with
  | key leftName => rfl
  | axis leftTest =>
      cases right with
      | key rightName => rfl
      | axis rightTest => cases notBoth

theorem readKey_written {name : String} (clean : Clean name.toList)
    (notAxis : context.isAxis name = false) :
    readKey context name.toList = .ok name := by
  have read := clean.readAtom none
  rw [suffixed, String.ofList_toList] at read
  simp [readKey, read, notAxis, pure, Except.pure]

theorem readGroupName_written {name : String} (clean : Clean name.toList)
    (mayBe : context.mayBeAxis name = true) :
    readGroupName context name.toList = .ok name := by
  have read := clean.readAtom none
  rw [suffixed, String.ofList_toList] at read
  simp [readGroupName, read, requireAxis, mayBe, pure, Except.pure]

theorem readNamePair_written {first second : String} (firstClean : Clean first.toList)
    (firstMay : context.mayBeAxis first = true) (secondClean : Clean second.toList)
    (secondMay : context.mayBeAxis second = true) :
    readNamePair context (first.toList ++ ',' :: ' ' :: second.toList) = .ok (first, second) := by
  have cut := cutNames_pair (firstClean.not_reserved ',' rfl) (secondClean.not_reserved ',' rfl)
  have firstRead := readGroupName_written firstClean firstMay
  have secondRead := readGroupName_written secondClean secondMay
  simp [readNamePair, cut, firstRead, secondRead, pure, Except.pure]

theorem groupText_plain {first second : AxisTest} (firstClean : Clean first.name.toList)
    (secondClean : Clean second.name.toList) {char : Char} (reserved : isReserved char = true)
    (noComma : char ≠ ',') : char ∉ groupText first second := by
  intro member
  have noSpace : char ≠ ' ' := by
    rintro rfl
    cases reserved
  have noSuffix (direction : Direction) : char ≠ direction.suffix := by
    rintro rfl
    rw [isReserved_suffix] at reserved
    cases reserved
  simp [groupText, firstClean.not_reserved char reserved, secondClean.not_reserved char reserved, noComma,
    noSpace, noSuffix] at member

theorem group_no_parenthesis {first second : AxisTest} (firstClean : Clean first.name.toList)
    (secondClean : Clean second.name.toList) :
    ∀ char ∈ groupText first second, isParenthesis char = false := by
  intro char member
  rw [Bool.eq_false_iff]
  intro parenthesis
  have noComma : char ≠ ',' := by
    rintro rfl
    cases parenthesis
  exact groupText_plain firstClean secondClean (isParenthesis_reserved parenthesis) noComma member

theorem splitGroupSuffixes_written (names : List Char) (first second : Direction) :
    splitGroupSuffixes (names ++ [first.suffix, second.suffix]) = .ok (names, first, second) := by
  simp [splitGroupSuffixes]

def KeyReads (context : Context) (key : Option String) : Prop :=
  ∀ name, key = some name → Clean name.toList ∧ context.isAxis name = false

theorem strip_keyTail {key : Option String} (reads : KeyReads context key) :
    strip (keyTail key) = keyTail key := by
  cases key with
  | none => rfl
  | some name =>
      obtain ⟨clean, _⟩ := reads name rfl
      apply Trimmed.strip
      constructor
      · intro char first
        cases first
        decide
      · intro char last
        rw [keyTail, List.getLast?_cons, List.getLast?_eq_some_getLast clean.nonempty] at last
        exact clean.trimmed.last char (by rw [List.getLast?_eq_some_getLast clean.nonempty]; exact last)

theorem readGroupTail_written {key : Option String} (reads : KeyReads context key) :
    readGroupTail context (keyTail key) = .ok key := by
  cases key with
  | none => rfl
  | some name =>
      obtain ⟨clean, notAxis⟩ := reads name rfl
      simp [readGroupTail, keyTail, readKey_written clean notAxis, Functor.map, Except.map]

theorem readStep_diagonal {first second : AxisTest} {key : Option String}
    (firstClean : Clean first.name.toList) (firstMay : context.mayBeAxis first.name = true)
    (firstTolerance : first.tolerance = context.settings.firstTolerance)
    (secondClean : Clean second.name.toList) (secondMay : context.mayBeAxis second.name = true)
    (secondTolerance : second.tolerance = context.settings.secondTolerance)
    (keyReads : KeyReads context key) :
    readStep context (Step.diagonal first second key).format.toList = .ok (.diagonal first second key) := by
  have noClose : ∀ char ∈ '(' :: groupText first second, (char != ')') = true := by
    intro char member
    rcases List.mem_cons.mp member with rfl | member
    · decide
    · have plain := group_no_parenthesis firstClean secondClean char member
      rw [isParenthesis, Bool.or_eq_false_iff] at plain
      simpa using plain.2
  have noPlus : (first.name.toList ++ ',' :: ' ' :: second.name.toList).contains '+' = false := by
    simp [firstClean.not_reserved '+' rfl, secondClean.not_reserved '+' rfl]
  have suffixes := splitGroupSuffixes_written (first.name.toList ++ ',' :: ' ' :: second.name.toList)
    first.direction second.direction
  rw [toList_diagonal, Grammar.readStep, if_pos (by rfl), readGroup, List.dropWhile_append_of_pos noClose,
    List.takeWhile_append_of_pos noClose]
  simp only [List.dropWhile_cons, List.takeWhile_cons, bne_self_eq_false, Bool.false_eq_true, if_false,
    strip_keyTail keyReads, readGroupTail_written keyReads, ok_bind, List.append_nil, List.drop_succ_cons,
    List.drop_zero]
  rw [groupText, suffixes]
  simp only [ok_bind, readGroupBody, noPlus, Bool.false_eq_true, if_false,
    readNamePair_written firstClean firstMay secondClean secondMay]
  rw [← firstTolerance, ← secondTolerance]
  rfl

theorem StepReads.readStep {step : Step} (reads : StepReads context step) :
    readStep context step.format.toList = .ok (step.settled context.settings.firstTolerance) := by
  cases reads with
  | single part => exact part.readStep
  | combo left right notBoth => exact readStep_combo left right notBoth
  | diagonal first firstMay firstTolerance second secondMay secondTolerance key =>
      exact readStep_diagonal first firstMay firstTolerance second secondMay secondTolerance key

theorem StepReads.whole {step : Step} (reads : StepReads context step) : Whole step.format.toList := by
  cases reads with
  | single part => exact whole_plain (part.not_reserved ',' rfl) (no_parenthesis part.not_reserved)
  | combo left right _ =>
      rw [toList_combo]
      apply whole_plain
      · simp [left.not_reserved ',' rfl, right.not_reserved ',' rfl]
      · intro char member
        rcases List.mem_append.mp member with member | member
        · exact no_parenthesis left.not_reserved char member
        · rcases List.mem_cons.mp member with rfl | member
          · decide
          · exact no_parenthesis right.not_reserved char member
  | @diagonal _ _ key first _ _ second _ _ keyReads =>
      rw [toList_diagonal]
      apply whole_group (group_no_parenthesis first second)
      · cases key with
        | none => simp [keyTail]
        | some name => simp [keyTail, (keyReads name rfl).1.not_reserved ',' rfl]
      · cases key with
        | none => simp [keyTail]
        | some name =>
            intro char member
            rcases List.mem_cons.mp member with rfl | member
            · decide
            · exact no_parenthesis (keyReads name rfl).1.not_reserved char member

theorem trimmed_singleton {char : Char} (ink : isBlank char = false) : Trimmed [char] where
  first _ starts := by cases starts; exact ink
  last _ ends := by cases ends; exact ink

theorem StepReads.trimmed {step : Step} (reads : StepReads context step) :
    Trimmed step.format.toList ∧ step.format.toList ≠ [] := by
  cases reads with
  | single part => exact ⟨part.trimmed, part.nonempty⟩
  | combo left right _ =>
      rw [toList_combo]
      constructor
      · simpa using trimmed_join left.trimmed left.nonempty right.trimmed right.nonempty ['+']
      · simp [left.nonempty]
  | @diagonal first second key _ _ _ _ _ _ keyReads =>
      have opens : Trimmed ['('] := trimmed_singleton (by decide)
      rw [toList_diagonal]
      refine ⟨?_, by simp⟩
      cases key with
      | none =>
          have closes : Trimmed [')'] := trimmed_singleton (by decide)
          simpa [keyTail] using trimmed_join opens (by simp) closes (by simp) (groupText first second)
      | some name =>
          obtain ⟨clean, _⟩ := keyReads name rfl
          simpa [keyTail] using
            trimmed_join opens (by simp) clean.trimmed clean.nonempty (groupText first second ++ [')', '+'])

theorem trimmed_intercalate {pieces : List (List Char)} (nonempty : pieces ≠ [])
    (trimmed : ∀ piece ∈ pieces, Trimmed piece ∧ piece ≠ []) :
    Trimmed ([',', ' '].intercalate pieces) ∧ [',', ' '].intercalate pieces ≠ [] := by
  induction pieces with
  | nil => exact absurd rfl nonempty
  | cons first others ih =>
      obtain ⟨firstTrimmed, firstSome⟩ := trimmed first List.mem_cons_self
      cases others with
      | nil =>
          rw [List.intercalate_singleton]
          exact ⟨firstTrimmed, firstSome⟩
      | cons second more =>
          obtain ⟨restTrimmed, restSome⟩ :=
            ih (List.cons_ne_nil _ _) fun piece member => trimmed piece (List.mem_cons_of_mem _ member)
          rw [List.intercalate_cons_cons]
          constructor
          · exact trimmed_join firstTrimmed firstSome restTrimmed restSome [',', ' ']
          · simp [firstSome]

theorem toList_formatSteps (steps : List Step) :
    (formatSteps steps).toList = [',', ' '].intercalate (steps.map fun step => step.format.toList) := by
  simp [formatSteps, stepDelimiter, String.toList_intercalate, Function.comp_def]

theorem mapM_readStep {steps : List Step} (reads : ∀ step ∈ steps, StepReads context step) :
    (steps.map fun step => step.format.toList).mapM (readStep context) =
      .ok (steps.map (Step.settled context.settings.firstTolerance)) := by
  induction steps with
  | nil => rfl
  | cons step rest ih =>
      have first := (reads step List.mem_cons_self).readStep
      have others := ih fun other member => reads other (List.mem_cons_of_mem _ member)
      rw [List.map_cons, List.mapM_cons, first, ok_bind, others]
      rfl

theorem readSteps_formatSteps {steps : List Step} (nonempty : steps ≠ [])
    (reads : ∀ step ∈ steps, StepReads context step) :
    readSteps context .sequence (formatSteps steps).toList =
      .ok (steps.map (Step.settled context.settings.firstTolerance)) := by
  have pieces : (steps.map fun step => step.format.toList) ≠ [] := by simpa using nonempty
  have whole : ∀ piece ∈ steps.map fun step => step.format.toList, Whole piece :=
    List.forall_mem_map.mpr fun step listed => (reads step listed).whole
  obtain ⟨cuts, groups⟩ := cutSteps_join pieces whole
  rw [← toList_formatSteps] at cuts groups
  have stripped : (steps.map fun step => step.format.toList).map strip =
      steps.map fun step => step.format.toList := by
    rw [List.map_map]
    apply List.map_congr_left
    intro step listed
    exact (reads step listed).trimmed.1.strip
  have noneEmpty : (steps.map fun step => step.format.toList).any List.isEmpty = false := by
    rw [List.any_eq_false, List.forall_mem_map]
    intro step listed
    simpa using (reads step listed).trimmed.2
  have split : splitSteps (formatSteps steps).toList = .ok (steps.map fun step => step.format.toList) := by
    simp only [splitSteps, cuts, stripped, noneEmpty, Bool.false_eq_true, if_false]
  rw [readSteps, groups, ok_bind, readSequence, split, ok_bind, mapM_readStep reads]

end Grammar

end InputBinding
