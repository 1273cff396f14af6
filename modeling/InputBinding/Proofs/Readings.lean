import InputBinding.Proofs.Answers
import InputBinding.Proofs.Names

/-!
What reading yields. The steps of a descriptor carry clean names only, names that may be axes where
they are tested as axes, and the tolerances of their settings.
-/

namespace InputBinding

def Part.isAxis : Part → Bool
  | .key _ => false
  | .axis _ => true

namespace Grammar

inductive PartReads (context : Context) : Part → Prop
  | key {name : String} : Clean name.toList → context.isAxis name = false → PartReads context (.key name)
  | axis {test : AxisTest} : Clean test.name.toList → context.mayBeAxis test.name = true →
      test.tolerance = context.settings.firstTolerance ∨
        (test.direction = .neutral ∧ test.tolerance = 0.0 ∧ context.isAxis test.name = true) →
      PartReads context (.axis test)

inductive StepReads (context : Context) : Step → Prop
  | single {part : Part} : PartReads context part → StepReads context (.single part)
  | combo {left right : Part} : PartReads context left → PartReads context right →
      (left.isAxis && right.isAxis) = false → StepReads context (.combo left right)
  | diagonal {first second : AxisTest} {key : Option String} :
      Clean first.name.toList → context.mayBeAxis first.name = true →
      first.tolerance = context.settings.firstTolerance →
      Clean second.name.toList → context.mayBeAxis second.name = true →
      second.tolerance = context.settings.secondTolerance →
      (∀ name, key = some name → Clean name.toList ∧ context.isAxis name = false) →
      StepReads context (.diagonal first second key)

variable {context : Context}

theorem mayBeAxis_of_isAxis {name : String} (declared : context.isAxis name = true) :
    context.mayBeAxis name = true := by
  unfold Context.isAxis at declared
  unfold Context.mayBeAxis
  cases names : context.axisNames with
  | none => rfl
  | some listed =>
      rw [names] at declared
      exact declared

theorem requireAxis_ok {name : String} {done : Unit} (required : requireAxis context name = .ok done) :
    context.mayBeAxis name = true := by
  unfold requireAxis at required
  split at required
  · assumption
  · cases required

theorem suffixedPart_cases {atom : Atom} {part : Part} (read : suffixedPart context atom = .ok part) :
    (∃ direction, atom.direction = some direction ∧ context.mayBeAxis atom.name = true ∧
      part = .axis ⟨atom.name, direction, context.settings.firstTolerance⟩) ∨
    (atom.direction = none ∧ context.isAxis atom.name = true ∧ part = .axis { name := atom.name }) ∨
    (atom.direction = none ∧ context.isAxis atom.name = false ∧ part = .key atom.name) := by
  unfold suffixedPart at read
  cases written : atom.direction with
  | some direction =>
      simp only [written] at read
      obtain ⟨_, required, read⟩ := bind_eq_ok read
      cases read
      exact Or.inl ⟨direction, rfl, requireAxis_ok required, rfl⟩
  | none =>
      simp only [written] at read
      cases declared : context.isAxis atom.name
      · simp only [declared] at read
        cases read
        exact Or.inr (Or.inr ⟨rfl, rfl, rfl⟩)
      · simp only [declared] at read
        cases read
        exact Or.inr (Or.inl ⟨rfl, rfl, rfl⟩)

theorem suffixedPart_reads {atom : Atom} {part : Part} (clean : Clean atom.name.toList)
    (read : suffixedPart context atom = .ok part) : PartReads context part := by
  rcases suffixedPart_cases read with ⟨direction, _, mayBe, rfl⟩ | ⟨_, declared, rfl⟩ | ⟨_, undeclared, rfl⟩
  · exact .axis clean mayBe (Or.inl rfl)
  · exact .axis clean (mayBeAxis_of_isAxis declared) (Or.inr ⟨rfl, rfl, declared⟩)
  · exact .key clean undeclared

theorem readKey_reads {token : List Char} {name : String} (read : readKey context token = .ok name) :
    Clean name.toList ∧ context.isAxis name = false := by
  unfold readKey at read
  obtain ⟨atom, atomRead, read⟩ := bind_eq_ok read
  have clean := readAtom_clean atomRead
  cases bare : atom.direction.isSome
  · cases undeclared : context.isAxis atom.name
    · simp only [bare, undeclared] at read
      cases read
      exact ⟨clean, undeclared⟩
    · simp only [bare, undeclared] at read
      cases read
  · simp only [bare] at read
    cases read

theorem readGroupName_reads {token : List Char} {name : String}
    (read : readGroupName context token = .ok name) :
    Clean name.toList ∧ context.mayBeAxis name = true := by
  unfold readGroupName at read
  obtain ⟨atom, atomRead, read⟩ := bind_eq_ok read
  have clean := readAtom_clean atomRead
  cases bare : atom.direction.isSome
  · simp only [bare] at read
    obtain ⟨_, required, read⟩ := bind_eq_ok read
    cases read
    exact ⟨clean, requireAxis_ok required⟩
  · simp only [bare] at read
    cases read

theorem readNamePair_reads {body : List Char} {first second : String}
    (read : readNamePair context body = .ok (first, second)) :
    (Clean first.toList ∧ context.mayBeAxis first = true) ∧
      Clean second.toList ∧ context.mayBeAxis second = true := by
  unfold readNamePair at read
  split at read
  · obtain ⟨firstName, firstRead, read⟩ := bind_eq_ok read
    obtain ⟨secondName, secondRead, read⟩ := bind_eq_ok read
    cases read
    exact ⟨readGroupName_reads firstRead, readGroupName_reads secondRead⟩
  · cases read

theorem readGroupTail_reads {tail : List Char} {key : Option String}
    (read : readGroupTail context tail = .ok key) :
    ∀ name, key = some name → Clean name.toList ∧ context.isAxis name = false := by
  unfold readGroupTail at read
  intro name present
  split at read
  · cases read
    cases present
  · obtain ⟨inner, keyRead, rfl⟩ := map_eq_ok read
    cases present
    exact readKey_reads keyRead
  · cases read

theorem readGroupBody_reads {outerKey key : Option String} {body : List Char} {first second : String}
    (outer : ∀ name, outerKey = some name → Clean name.toList ∧ context.isAxis name = false)
    (read : readGroupBody context outerKey body = .ok ((first, second), key)) :
    ((Clean first.toList ∧ context.mayBeAxis first = true) ∧
      Clean second.toList ∧ context.mayBeAxis second = true) ∧
      ∀ name, key = some name → Clean name.toList ∧ context.isAxis name = false := by
  unfold readGroupBody at read
  cases joined : body.contains '+'
  · simp only [joined] at read
    obtain ⟨⟨_, _⟩, pairRead, read⟩ := bind_eq_ok read
    cases read
    exact ⟨readNamePair_reads pairRead, outer⟩
  · simp only [joined] at read
    cases twice : outerKey.isSome
    · simp only [twice] at read
      obtain ⟨⟨names, token⟩, _, read⟩ := bind_eq_ok read
      obtain ⟨inner, keyRead, read⟩ := bind_eq_ok read
      obtain ⟨⟨_, _⟩, pairRead, read⟩ := bind_eq_ok read
      cases read
      refine ⟨readNamePair_reads pairRead, ?_⟩
      rintro _ ⟨⟩
      exact readKey_reads keyRead
    · simp only [twice] at read
      cases read

theorem readGroup_reads {fragment : List Char} {step : Step}
    (read : readGroup context fragment = .ok step) :
    StepReads context step := by
  unfold readGroup at read
  split at read
  · cases read
  · obtain ⟨outerKey, tailRead, read⟩ := bind_eq_ok read
    obtain ⟨⟨body, firstDirection, secondDirection⟩, _, read⟩ := bind_eq_ok read
    obtain ⟨⟨⟨first, second⟩, key⟩, bodyRead, read⟩ := bind_eq_ok read
    obtain ⟨⟨firstReads, secondReads⟩, keyReads⟩ :=
      readGroupBody_reads (readGroupTail_reads tailRead) bodyRead
    cases read
    exact .diagonal firstReads.1 firstReads.2 rfl secondReads.1 secondReads.2 rfl keyReads

theorem relocateSuffix_names (context : Context) (left right : Atom) :
    (relocateSuffix context left right).1.name = left.name ∧
      (relocateSuffix context left right).2.name = right.name := by
  unfold relocateSuffix
  split
  · exact ⟨rfl, rfl⟩
  · exact ⟨rfl, rfl⟩

theorem readComboStep_reads {fragment : List Char} {step : Step}
    (read : readComboStep context fragment = .ok step) : StepReads context step := by
  unfold readComboStep at read
  obtain ⟨⟨leftText, rightText⟩, _, read⟩ := bind_eq_ok read
  obtain ⟨leftAtom, leftRead, read⟩ := bind_eq_ok read
  obtain ⟨rightAtom, rightRead, read⟩ := bind_eq_ok read
  obtain ⟨sameLeft, sameRight⟩ := relocateSuffix_names context leftAtom rightAtom
  have leftClean := readAtom_clean leftRead
  have rightClean := readAtom_clean rightRead
  rw [← sameLeft] at leftClean
  rw [← sameRight] at rightClean
  obtain ⟨left, leftPart, read⟩ := bind_eq_ok read
  obtain ⟨right, rightPart, read⟩ := bind_eq_ok read
  have leftReads := suffixedPart_reads leftClean leftPart
  have rightReads := suffixedPart_reads rightClean rightPart
  cases left with
  | key leftName =>
      cases read
      exact .combo leftReads rightReads rfl
  | axis leftTest =>
      cases right with
      | key rightName =>
          cases read
          exact .combo leftReads rightReads rfl
      | axis rightTest => cases read

theorem readStep_cases {fragment : List Char} {step : Step}
    (read : readStep context fragment = .ok step) :
    readGroup context fragment = .ok step ∨ readComboStep context fragment = .ok step ∨
      ∃ atom part, readAtom fragment = .ok atom ∧ suffixedPart context atom = .ok part ∧ step = .single part := by
  unfold readStep at read
  split at read
  · exact Or.inl read
  · split at read
    · cases read
    · split at read
      · exact Or.inr (Or.inl read)
      · obtain ⟨atom, atomRead, read⟩ := bind_eq_ok read
        obtain ⟨part, partRead, read⟩ := bind_eq_ok read
        cases read
        exact Or.inr (Or.inr ⟨atom, part, atomRead, partRead, rfl⟩)

theorem readStep_reads {fragment : List Char} {step : Step}
    (read : readStep context fragment = .ok step) :
    StepReads context step := by
  rcases readStep_cases read with group | combo | ⟨atom, part, atomRead, partRead, rfl⟩
  · exact readGroup_reads group
  · exact readComboStep_reads combo
  · exact .single (suffixedPart_reads (readAtom_clean atomRead) partRead)

theorem readSequence_reads {text : List Char} {steps : List Step}
    (read : readSequence context text = .ok steps) : ∀ step ∈ steps, StepReads context step := by
  unfold readSequence at read
  obtain ⟨fragments, _, read⟩ := bind_eq_ok read
  intro step member
  obtain ⟨fragment, _, stepRead⟩ := exists_of_mapM read step member
  exact readStep_reads stepRead

inductive ComboReads (context : Context) : Step → Prop
  | keys {left right : String} : Clean left.toList → context.leftIsAxis left = false →
      Clean right.toList → context.isAxis right = false →
      ComboReads context (.combo (.key left) (.key right))
  | axisFirst {left right : String} : Clean left.toList → context.mayBeAxis left = true →
      Clean right.toList → context.isAxis right = false →
      ComboReads context (.combo (.axis (context.settingTest left)) (.key right))
  | axisLast {left right : String} : Clean left.toList → context.isAxis left = false →
      Clean right.toList → context.mayBeAxis right = true →
      ComboReads context (.combo (.key left) (.axis (context.settingTest right)))
  | pair {first second key : String} : Clean first.toList → context.mayBeAxis first = true →
      Clean second.toList → context.mayBeAxis second = true → Clean key.toList → context.isAxis key = false →
      ComboReads context (pairStep context first second key)

theorem isAxis_of_leftIsAxis {name : String} (key : context.leftIsAxis name = false) :
    context.isAxis name = false := by
  unfold Context.leftIsAxis at key
  unfold Context.isAxis
  cases names : context.axisNames with
  | none => rfl
  | some listed =>
      rw [names] at key
      exact key

theorem mayBeAxis_of_leftIsAxis {name : String} (axis : context.leftIsAxis name = true) :
    context.mayBeAxis name = true := by
  unfold Context.leftIsAxis at axis
  unfold Context.mayBeAxis
  cases names : context.axisNames with
  | none => rfl
  | some listed =>
      rw [names] at axis
      exact axis

theorem readTwoNames_reads {leftText rightText : List Char} {step : Step}
    (read : readTwoNames context leftText rightText = .ok step) : ComboReads context step := by
  unfold readTwoNames at read
  obtain ⟨left, leftRead, read⟩ := bind_eq_ok read
  obtain ⟨right, rightRead, read⟩ := bind_eq_ok read
  have leftClean := readAtom_clean leftRead
  have rightClean := readAtom_clean rightRead
  cases leftAxis : context.leftIsAxis left.name
  · cases rightAxis : context.isAxis right.name
    · simp only [leftAxis, rightAxis] at read
      cases read
      exact .keys leftClean leftAxis rightClean rightAxis
    · simp only [leftAxis, rightAxis] at read
      cases read
      exact .axisLast leftClean (isAxis_of_leftIsAxis leftAxis) rightClean (mayBeAxis_of_isAxis rightAxis)
  · cases rightAxis : context.isAxis right.name
    · simp only [leftAxis, rightAxis] at read
      cases read
      exact .axisFirst leftClean (mayBeAxis_of_leftIsAxis leftAxis) rightClean rightAxis
    · simp only [leftAxis, rightAxis] at read
      cases read

theorem readCombo_reads {text : List Char} {step : Step} (read : readCombo context text = .ok step) :
    ComboReads context step := by
  unfold readCombo at read
  cases plus : text.contains '+'
  · simp only [plus] at read
    cases read
  · cases suffix : text.any isSuffix
    · simp only [plus, suffix] at read
      obtain ⟨⟨left, right⟩, _, read⟩ := bind_eq_ok read
      dsimp only at read
      cases parenthesis : right.any isParenthesis
      · simp only [parenthesis] at read
        obtain ⟨inner, _, read⟩ := bind_eq_ok read
        split at read
        · exact readTwoNames_reads read
        · obtain ⟨⟨first, second⟩, pairRead, read⟩ := bind_eq_ok read
          obtain ⟨key, keyRead, read⟩ := bind_eq_ok read
          cases read
          obtain ⟨firstReads, secondReads⟩ := readNamePair_reads pairRead
          obtain ⟨keyClean, notAxis⟩ := readKey_reads keyRead
          exact .pair firstReads.1 firstReads.2 secondReads.1 secondReads.2 keyClean notAxis
      · simp only [parenthesis] at read
        cases read
    · simp only [plus, suffix] at read
      cases read

theorem ComboReads.stepReads {step : Step} (reads : ComboReads context step) :
    StepReads context step := by
  cases reads with
  | keys left notAxis right notOther =>
      exact .combo (.key left (isAxis_of_leftIsAxis notAxis)) (.key right notOther) rfl
  | axisFirst left axis right notAxis => exact .combo (.axis left axis (Or.inl rfl)) (.key right notAxis) rfl
  | axisLast left notAxis right axis => exact .combo (.key left notAxis) (.axis right axis (Or.inl rfl)) rfl
  | pair first firstAxis second secondAxis key notAxis =>
      refine .diagonal first firstAxis rfl second secondAxis rfl ?_
      rintro _ ⟨⟩
      exact ⟨key, notAxis⟩

theorem readStandard_reads {text : List Char} {step : Step}
    (read : readStandard context text = .ok step) :
    ∃ name : String, Clean name.toList ∧ name.toList = Text.strip text ∧
      (step = .single (.axis { name }) ∨
        (step = .single (.key name) ∧ (decide (context.category = .axis) || context.isAxis name) = false)) := by
  unfold readStandard at read
  cases reserved : text.any isReserved
  · simp only [reserved] at read
    obtain ⟨atom, atomRead, read⟩ := bind_eq_ok read
    have clean := readAtom_clean atomRead
    cases direction : atom.direction with
    | some written =>
        simp only [direction] at read
        cases read
    | none =>
        simp only [direction] at read
        refine ⟨atom.name, clean, readAtom_bare atomRead direction, ?_⟩
        cases axis : (decide (context.category = .axis) || context.isAxis atom.name)
        · simp only [axis] at read
          cases read
          exact Or.inr ⟨rfl, rfl⟩
        · simp only [axis] at read
          cases read
          exact Or.inl rfl
  · simp only [reserved] at read
    cases read

end Grammar

end InputBinding
