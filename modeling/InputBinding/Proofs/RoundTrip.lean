import InputBinding.Proofs.Canonical

/-!
Reading a canonical text again. A sequence comes back as itself, a combo comes back as a sequence, and
what has a direction in its text is refused where directions come from the rule.
-/

namespace InputBinding

def Step.hasAxis : Step → Bool
  | .single part => part.isAxis
  | .combo left right => left.isAxis || right.isAxis
  | .diagonal _ _ _ => true

namespace Grammar

open Text

variable {context : Context}

theorem isUnboundText_of_mem {text : List Char} {char : Char} (member : char ∈ text)
    (foreign : char ∉ unboundText.toList) : isUnboundText text = false := by
  rw [isUnboundText, Bool.or_eq_false_iff]
  constructor
  · cases text with
    | nil => cases member
    | cons first rest => rfl
  · rw [decide_eq_false_iff_not]
    rintro rfl
    exact foreign member

theorem suffix_foreign (direction : Direction) : direction.suffix ∉ unboundText.toList := by
  cases direction <;> decide

theorem isUnboundText_format {step : Step} (other : step ≠ .single (.key unboundText))
    (nonempty : step.format.toList ≠ []) :
    isUnboundText step.format.toList = false := by
  cases step with
  | single part =>
      cases part with
      | key name =>
          rw [isUnboundText, Bool.or_eq_false_iff]
          constructor
          · simpa using nonempty
          · rw [decide_eq_false_iff_not]
            intro same
            apply other
            rw [← String.toList_inj.mp same]
            rfl
      | axis test =>
          apply isUnboundText_of_mem _ (suffix_foreign test.direction)
          rw [Step.format, toList_format]
          simp [suffixed, Part.direction]
  | combo left right =>
      have plus : '+' ∈ (Step.combo left right).format.toList := by simp [toList_combo]
      exact isUnboundText_of_mem plus (by decide)
  | diagonal first second key =>
      have opens : '(' ∈ (Step.diagonal first second key).format.toList := by simp [toList_diagonal]
      exact isUnboundText_of_mem opens (by decide)

theorem readGroup_diagonal {fragment : List Char} {step : Step}
    (read : readGroup context fragment = .ok step) :
    ∃ first second key, step = .diagonal first second key := by
  unfold readGroup at read
  split at read
  · cases read
  · obtain ⟨_, _, read⟩ := bind_eq_ok read
    obtain ⟨_, _, read⟩ := bind_eq_ok read
    obtain ⟨_, _, read⟩ := bind_eq_ok read
    cases read
    exact ⟨_, _, _, rfl⟩

theorem readComboStep_combo {fragment : List Char} {step : Step}
    (read : readComboStep context fragment = .ok step) : ∃ left right, step = .combo left right := by
  unfold readComboStep at read
  obtain ⟨_, _, read⟩ := bind_eq_ok read
  obtain ⟨_, _, read⟩ := bind_eq_ok read
  obtain ⟨_, _, read⟩ := bind_eq_ok read
  obtain ⟨left, _, read⟩ := bind_eq_ok read
  obtain ⟨right, _, read⟩ := bind_eq_ok read
  refine ⟨left, right, ?_⟩
  cases left with
  | key leftName =>
      cases read
      rfl
  | axis leftTest =>
      cases right with
      | key rightName =>
          cases read
          rfl
      | axis rightTest => cases read

theorem readStep_key {fragment : List Char} {name : String}
    (read : readStep context fragment = .ok (.single (.key name))) : name.toList = strip fragment := by
  rcases readStep_cases read with group | combo | ⟨atom, part, atomRead, partRead, single⟩
  · obtain ⟨_, _, _, impossible⟩ := readGroup_diagonal group
    cases impossible
  · obtain ⟨_, _, impossible⟩ := readComboStep_combo combo
    cases impossible
  · cases single
    rcases suffixedPart_cases partRead with ⟨_, _, _, axis⟩ | ⟨_, _, axis⟩ | ⟨bare, _, key⟩
    · cases axis
    · cases axis
    · cases key
      exact readAtom_bare atomRead bare

theorem readSequence_key {text : List Char} {name : String} (trimmed : Trimmed text)
    (read : readSequence context text = .ok [.single (.key name)]) : name.toList = text := by
  obtain ⟨fragments, split, mapped⟩ := bind_eq_ok read
  have cut : fragments = (cutSteps false text).map strip := by
    unfold splitSteps at split
    dsimp only at split
    split at split
    · cases split
    · cases split
      rfl
  cases fragments with
  | nil => cases mapped
  | cons fragment rest =>
      rw [List.mapM_cons] at mapped
      obtain ⟨step, stepRead, mapped⟩ := bind_eq_ok mapped
      obtain ⟨others, restRead, mapped⟩ := bind_eq_ok mapped
      cases mapped
      cases rest with
      | cons second more =>
          rw [List.mapM_cons] at restRead
          obtain ⟨_, _, restRead⟩ := bind_eq_ok restRead
          obtain ⟨_, _, restRead⟩ := bind_eq_ok restRead
          cases restRead
      | nil =>
          obtain ⟨piece, uncut, rfl⟩ := List.map_eq_singleton_iff.mp cut.symm
          rw [readStep_key stepRead, eq_of_cutSteps uncut, trimmed.strip, trimmed.strip]

theorem isUnboundText_formatSteps {text : List Char} {steps : List Step} (trimmed : Trimmed text)
    (bound : isUnboundText text = false) (read : readSequence context text = .ok steps)
    (nonempty : steps ≠ []) :
    isUnboundText (formatSteps steps).toList = false := by
  have reads := readSequence_reads read
  cases steps with
  | nil => exact absurd rfl nonempty
  | cons first others =>
      cases others with
      | cons second more =>
          have comma : ',' ∈ (formatSteps (first :: second :: more)).toList := by
            simp [toList_formatSteps, List.intercalate_cons_cons]
          exact isUnboundText_of_mem comma (by decide)
      | nil =>
          have single : (formatSteps [first]).toList = first.format.toList := by
            simp [toList_formatSteps]
          rw [single]
          apply isUnboundText_format _ (reads first List.mem_cons_self).trimmed.2
          -- A single key of this name would have been read from the same text.
          rintro rfl
          rw [← readSequence_key trimmed read] at bound
          simp [isUnboundText] at bound

theorem parse_ok {kind : Kind} {raw : String} {descriptor : Descriptor}
    (read : parse context kind raw = .ok descriptor) (nonempty : descriptor.steps ≠ []) :
    isUnboundText (strip raw.toList) = false ∧ readSteps context kind (strip raw.toList) = .ok descriptor.steps := by
  unfold parse at read
  dsimp only at read
  split at read
  · cases read
    exact absurd rfl nonempty
  · rename_i bound
    obtain ⟨steps, stepsRead, read⟩ := bind_eq_ok read
    cases read
    exact ⟨Bool.eq_false_iff.mpr bound, stepsRead⟩

theorem parse_of_trimmed {kind : Kind} {text : String} (trimmed : Trimmed text.toList)
    (bound : isUnboundText text.toList = false) :
    parse context kind text =
      readSteps context kind text.toList >>= fun steps => .ok { source := text, steps } := by
  simp only [parse, trimmed.strip, bound, Bool.false_eq_true, if_false]
  rfl

theorem formatSteps_singleton (step : Step) : formatSteps [step] = step.format := by
  rw [← String.toList_inj, toList_formatSteps]
  simp

theorem ComboReads.settled_eq {step : Step} (reads : ComboReads context step) :
    step.settled context.settings.firstTolerance = step := by
  have own (name : String) : (context.settingTest name).settled context.settings.firstTolerance =
      context.settingTest name := by
    unfold AxisTest.settled
    split
    · rfl
    · rfl
  cases reads with
  | keys _ _ _ _ => rfl
  | axisFirst _ _ _ _ => simp [Step.settled, Part.settled, own]
  | axisLast _ _ _ _ => simp [Step.settled, Part.settled, own]
  | pair _ _ _ _ _ _ => rfl

theorem ComboReads.bound {step : Step} (reads : ComboReads context step) :
    isUnboundText step.format.toList = false := by
  apply isUnboundText_format _ reads.stepReads.trimmed.2
  rintro rfl
  cases reads

theorem ComboReads.parse_sequence {step : Step} (reads : ComboReads context step)
    (category : Category) :
    parse { context with category } .sequence step.format = .ok { source := step.format, steps := [step] } := by
  have read := readSteps_formatSteps (List.cons_ne_nil step []) fun other member => by
    rw [List.mem_singleton.mp member]
    exact reads.stepReads
  rw [formatSteps_singleton, List.map_singleton, reads.settled_eq] at read
  have same : readSteps { context with category } .sequence step.format.toList =
      readSteps context .sequence step.format.toList := rfl
  rw [parse_of_trimmed reads.stepReads.trimmed.1 reads.bound, same, read]
  rfl

theorem Whole.checkGroups {piece : List Char} (whole : Whole piece) :
    checkGroups false piece = .ok () := by
  have closed := (whole []).2
  rw [List.append_nil] at closed
  exact closed

theorem no_suffix {text : List Char} (clean : Clean text) : text.any isSuffix = false := by
  rw [List.any_eq_false]
  intro char member
  simp [(clean.plain char member).1]

theorem unwrapPair_plain {side : List Char} (plain : ∀ char ∈ side, isParenthesis char = false) :
    unwrapPair side = .ok side := by
  have noGroup : ¬ (side.head? = some '(' ∧ side.getLast? = some ')') := by
    rintro ⟨opens, _⟩
    have parenthesis := plain '(' (List.mem_of_head? opens)
    cases parenthesis
  have noParenthesis : side.any isParenthesis = false := by simpa using plain
  rw [unwrapPair, if_neg noGroup, noParenthesis]
  rfl

theorem readCombo_keys {left right : String} (leftClean : Clean left.toList)
    (leftKey : context.leftIsAxis left = false) (rightClean : Clean right.toList)
    (rightKey : context.isAxis right = false) :
    readCombo context (left.toList ++ '+' :: right.toList) = .ok (.combo (.key left) (.key right)) := by
  have plus : (left.toList ++ '+' :: right.toList).contains '+' = true := by simp
  have noSuffix : (left.toList ++ '+' :: right.toList).any isSuffix = false := by
    rw [List.any_append, List.any_cons, no_suffix leftClean, no_suffix rightClean]
    rfl
  have sides := splitPlus_pair (leftClean.not_reserved '+' rfl) (rightClean.not_reserved '+' rfl)
    leftClean.trimmed leftClean.nonempty rightClean.trimmed rightClean.nonempty
  have rightPlain : right.toList.any isParenthesis = false := by
    simpa using no_parenthesis rightClean.not_reserved
  have leftRead := leftClean.readAtom none
  have rightRead := rightClean.readAtom none
  rw [suffixed, String.ofList_toList] at leftRead rightRead
  have leftPlain := unwrapPair_plain (no_parenthesis leftClean.not_reserved)
  have oneName := cutNames_uncut (leftClean.not_reserved ',' rfl)
  simp only [readCombo, plus, noSuffix, sides, rightPlain, leftPlain, oneName, Bool.not_true, Bool.false_eq_true,
    if_false, ok_bind, List.length_singleton, if_true, readTwoNames, leftRead, rightRead, leftKey, rightKey]
  rfl

theorem ComboReads.parse_keys {step : Step} (reads : ComboReads context step)
    (keys : step.hasAxis = false) :
    parse context .combo step.format = .ok { source := step.format, steps := [step] } := by
  rw [parse_of_trimmed reads.stepReads.trimmed.1 reads.bound, readSteps, reads.stepReads.whole.checkGroups]
  cases reads with
  | axisFirst _ _ _ _ => cases keys
  | axisLast _ _ _ _ => cases keys
  | pair _ _ _ _ _ _ => cases keys
  | keys leftClean leftKey rightClean rightKey =>
      have read := readCombo_keys leftClean leftKey rightClean rightKey
      rw [toList_combo, Part.format, Part.format, ok_bind, read]
      rfl

theorem suffix_mem {part : Part} (axis : part.isAxis = true) :
    ∃ direction : Direction, direction.suffix ∈ part.format.toList := by
  cases part with
  | key name => cases axis
  | axis test =>
      refine ⟨test.direction, ?_⟩
      simp [toList_format, suffixed, Part.direction]

theorem any_isSuffix {text : List Char} {direction : Direction} (member : direction.suffix ∈ text) :
    text.any isSuffix = true := by
  rw [List.any_eq_true]
  refine ⟨direction.suffix, member, ?_⟩
  simp [isSuffix]

theorem ComboReads.written {step : Step} (reads : ComboReads context step)
    (axis : step.hasAxis = true) :
    '+' ∈ step.format.toList ∧ ∃ direction : Direction, direction.suffix ∈ step.format.toList := by
  cases reads with
  | keys _ _ _ _ => cases axis
  | @axisFirst left right _ _ _ _ =>
      have isAxis : (Part.axis (context.settingTest left)).isAxis = true := rfl
      obtain ⟨direction, member⟩ := suffix_mem isAxis
      rw [toList_combo]
      exact ⟨by simp, direction, List.mem_append_left _ member⟩
  | @axisLast left right _ _ _ _ =>
      have isAxis : (Part.axis (context.settingTest right)).isAxis = true := rfl
      obtain ⟨direction, member⟩ := suffix_mem isAxis
      rw [toList_combo]
      exact ⟨by simp, direction, List.mem_append_right _ (List.mem_cons_of_mem _ member)⟩
  | pair _ _ _ _ _ _ =>
      rw [pairStep, toList_diagonal]
      exact ⟨by simp [keyTail], context.settings.firstDirection, by simp [groupText]⟩

theorem ComboReads.parse_axis {step : Step} (reads : ComboReads context step)
    (axis : step.hasAxis = true) :
    parse context .combo step.format = .error .suffixInCombo := by
  obtain ⟨plus, direction, suffix⟩ := reads.written axis
  have noSteps : readCombo context step.format.toList = .error .suffixInCombo := by
    simp [readCombo, plus, any_isSuffix suffix]
    rfl
  rw [parse_of_trimmed reads.stepReads.trimmed.1 reads.bound, readSteps, reads.stepReads.whole.checkGroups,
    ok_bind, noSteps]
  rfl

theorem Clean.no_reserved {name : List Char} (clean : Clean name) (direction : Option Direction) :
    (suffixed name direction).any isReserved = false := by
  rw [List.any_eq_false]
  intro char member reserved
  exact clean.suffixed_plain direction char reserved member

theorem Clean.checkGroups {name : List Char} (clean : Clean name) (direction : Option Direction) :
    checkGroups false (suffixed name direction) = .ok () := by
  have plain := clean.suffixed_plain direction
  exact (whole_plain (plain ',' rfl) (no_parenthesis plain)).checkGroups

theorem parse_standard_key {name : String} (clean : Clean name.toList)
    (bound : isUnboundText name.toList = false)
    (key : (decide (context.category = .axis) || context.isAxis name) = false) :
    parse context .standard name = .ok { source := name, steps := [.single (.key name)] } := by
  have plain := clean.no_reserved none
  have groups := clean.checkGroups none
  have read := clean.readAtom none
  rw [suffixed] at plain groups read
  rw [String.ofList_toList] at read
  have step : readStandard context name.toList = .ok (.single (.key name)) := by
    simp only [readStandard, plain, read, key, Bool.false_eq_true, if_false, ok_bind, Option.isSome_none]
    rfl
  rw [parse_of_trimmed clean.trimmed bound, readSteps, groups, ok_bind, step]
  rfl

theorem parse_standard_axis (test : AxisTest) (clean : Clean test.name.toList) :
    parse context .standard test.format = .error .suffixInStandard := by
  have written : test.format.toList = suffixed test.name.toList (some test.direction) :=
    toList_format (.axis test)
  have bound : isUnboundText test.format.toList = false := by
    apply isUnboundText_of_mem _ (suffix_foreign test.direction)
    simp [written, suffixed]
  have trimmed := clean.trimmed_suffixed (some test.direction)
  have refused : readStandard context (suffixed test.name.toList (some test.direction)) =
      .error .suffixInStandard := by
    simp only [readStandard, clean.no_reserved, clean.readAtom, Bool.false_eq_true, if_false, ok_bind,
      Option.isSome_some, if_true]
    rfl
  rw [← written] at trimmed
  rw [parse_of_trimmed trimmed bound, readSteps, written, clean.checkGroups, ok_bind, refused]
  rfl

theorem Descriptor.format_eq {descriptor : Descriptor} (nonempty : descriptor.steps ≠ []) :
    descriptor.format = formatSteps descriptor.steps := by
  have bound : descriptor.isUnbound = false := by simpa [Descriptor.isUnbound] using nonempty
  rw [Descriptor.format, bound]
  rfl

theorem formatSteps_settled (tolerance : Float) (steps : List Step) :
    formatSteps (steps.map (Step.settled tolerance)) = formatSteps steps := by
  simp [formatSteps, Function.comp_def, Step.format_settled]

theorem readSequence_of_parse {raw : String} {read : Descriptor}
    (parsed : parse context .sequence raw = .ok read)
    (nonempty : read.steps ≠ []) : readSequence context (strip raw.toList) = .ok read.steps := by
  obtain ⟨_, stepsRead⟩ := parse_ok parsed nonempty
  obtain ⟨_, _, sequenceRead⟩ := bind_eq_ok stepsRead
  exact sequenceRead

theorem parse_sequence_format {raw : String} {read : Descriptor}
    (parsed : parse context .sequence raw = .ok read)
    (nonempty : read.steps ≠ []) :
    parse context .sequence read.format = .ok
      { source := read.format, steps := read.steps.map (Step.settled context.settings.firstTolerance) } := by
  have sequenceRead := readSequence_of_parse parsed nonempty
  have reads := readSequence_reads sequenceRead
  have pieces : (read.steps.map fun step => step.format.toList) ≠ [] := by simpa using nonempty
  have trimmed : Trimmed (formatSteps read.steps).toList := by
    rw [toList_formatSteps]
    apply (trimmed_intercalate pieces _).1
    rw [List.forall_mem_map]
    intro step listed
    exact (reads step listed).trimmed
  obtain ⟨boundRaw, _⟩ := parse_ok parsed nonempty
  have bound := isUnboundText_formatSteps (trimmed_strip raw.toList) boundRaw sequenceRead nonempty
  rw [Descriptor.format_eq nonempty, parse_of_trimmed trimmed bound, readSteps_formatSteps nonempty reads]
  rfl

theorem steps_settled {raw : String} {read : Descriptor}
    (parsed : parse context .sequence raw = .ok read)
    (nonempty : read.steps ≠ [])
    (plain : context.axisNames = none ∨ context.settings.firstTolerance = 0.0) :
    read.steps.map (Step.settled context.settings.firstTolerance) = read.steps := by
  have same : read.steps.map (Step.settled context.settings.firstTolerance) = read.steps.map id := by
    apply List.map_congr_left
    intro step listed
    exact (readSequence_reads (readSequence_of_parse parsed nonempty) step listed).settled_eq plain
  rw [same, List.map_id]

theorem combo_of_parse {raw : String} {read : Descriptor} (parsed : parse context .combo raw = .ok read)
    (nonempty : read.steps ≠ []) : ∃ step, read.steps = [step] ∧ ComboReads context step := by
  obtain ⟨_, stepsRead⟩ := parse_ok parsed nonempty
  obtain ⟨_, _, stepsRead⟩ := bind_eq_ok stepsRead
  obtain ⟨step, comboRead, only⟩ := bind_eq_ok stepsRead
  exact ⟨step, (Except.ok.inj only).symm, readCombo_reads comboRead⟩

theorem standard_of_parse {raw : String} {read : Descriptor}
    (parsed : parse context .standard raw = .ok read)
    (nonempty : read.steps ≠ []) :
    ∃ name : String, Clean name.toList ∧ isUnboundText name.toList = false ∧
      (read.steps = [.single (.axis { name })] ∨ (read.steps = [.single (.key name)] ∧
        (decide (context.category = .axis) || context.isAxis name) = false)) := by
  obtain ⟨bound, stepsRead⟩ := parse_ok parsed nonempty
  obtain ⟨_, _, stepsRead⟩ := bind_eq_ok stepsRead
  obtain ⟨step, standardRead, only⟩ := bind_eq_ok stepsRead
  have steps : read.steps = [step] := (Except.ok.inj only).symm
  obtain ⟨name, clean, written, reads⟩ := readStandard_reads standardRead
  rw [(trimmed_strip raw.toList).strip] at written
  refine ⟨name, clean, written ▸ bound, ?_⟩
  rcases reads with rfl | ⟨rfl, key⟩
  · exact Or.inl steps
  · exact Or.inr ⟨steps, key⟩

/-- Reading a canonical text again. A sequence comes back, except that each neutral axis that stands
alone or beside a key takes the tolerance of the settings. The text of a combo is read as its only step
by a sequence, and by a combo only if it names no axis; the text of a standard step is read again only
if it is a key. -/
theorem parse_canonical (context : Context) (raw : String) :
    (∀ read, parse context .sequence raw = .ok read → read.steps ≠ [] →
      ∃ again, parse context .sequence read.format = .ok again ∧
        again.steps = read.steps.map (Step.settled context.settings.firstTolerance) ∧
        again.format = read.format ∧
        (context.axisNames = none ∨ context.settings.firstTolerance = 0.0 → again.steps = read.steps)) ∧
    (∀ read, parse context .combo raw = .ok read → read.steps ≠ [] →
      ∃ step, read.steps = [step] ∧
        (∀ category, parse { context with category } .sequence step.format =
          .ok { source := step.format, steps := [step] }) ∧
        (step.hasAxis = false → parse context .combo step.format =
          .ok { source := step.format, steps := [step] }) ∧
        (step.hasAxis = true → parse context .combo step.format = .error .suffixInCombo)) ∧
    (∀ read, parse context .standard raw = .ok read → read.steps ≠ [] →
      ∃ part, read.steps = [.single part] ∧
        (part.isAxis = false → parse context .standard read.format =
          .ok { source := read.format, steps := [.single part] }) ∧
        (part.isAxis = true → parse context .standard read.format = .error .suffixInStandard)) := by
  refine ⟨?_, ?_, ?_⟩
  · intro read parsed nonempty
    refine ⟨_, parse_sequence_format parsed nonempty, rfl, ?_, steps_settled parsed nonempty⟩
    rw [Descriptor.format_eq (by simpa using nonempty), Descriptor.format_eq nonempty]
    exact formatSteps_settled context.settings.firstTolerance read.steps
  · intro read parsed nonempty
    obtain ⟨step, steps, reads⟩ := combo_of_parse parsed nonempty
    exact ⟨step, steps, reads.parse_sequence, reads.parse_keys, reads.parse_axis⟩
  · intro read parsed nonempty
    obtain ⟨name, clean, bound, steps | ⟨steps, key⟩⟩ := standard_of_parse parsed nonempty
    · rw [Descriptor.format_eq nonempty, steps, formatSteps_singleton]
      refine ⟨.axis { name }, rfl, ?_, ?_⟩
      · intro key
        cases key
      · intro _
        exact parse_standard_axis { name } clean
    · rw [Descriptor.format_eq nonempty, steps, formatSteps_singleton]
      refine ⟨.key name, rfl, ?_, ?_⟩
      · intro _
        exact parse_standard_key clean bound key
      · intro axis
        cases axis

def steering : Context := { axisNames := some ["Steer"], settings := { firstTolerance := 0.25 } }

theorem parse_canonical_steering :
    (∃ again, parse steering .sequence "Steer=, Steer>+Fire" = .ok again ∧
      again.steps = [.single (.axis ⟨"Steer", .neutral, 0.25⟩),
        .combo (.axis ⟨"Steer", .positive, 0.25⟩) (.key "Fire")]) ∧
    parse {} .sequence "(X, Y==)+Fire" =
      .ok { source := "(X, Y==)+Fire", steps := [pairStep {} "X" "Y" "Fire"] } ∧
    parse {} .combo "(X, Y==)+Fire" = .error .suffixInCombo ∧
    parse steering .standard "Steer=" = .error .suffixInStandard := by
  obtain ⟨again, sequence, steps, _⟩ := (parse_canonical steering " Steer , Steer + Fire>").1
    ⟨" Steer , Steer + Fire>", [.single (.axis ⟨"Steer", .neutral, 0.0⟩),
      .combo (.axis ⟨"Steer", .positive, 0.25⟩) (.key "Fire")]⟩ rfl (List.cons_ne_nil _ _)
  obtain ⟨step, only, asSequence, _, asCombo⟩ := (parse_canonical {} "X, Y + Fire").2.1
    ⟨"X, Y + Fire", [pairStep {} "X" "Y" "Fire"]⟩ rfl (List.cons_ne_nil _ _)
  obtain ⟨part, single, _, asStandard⟩ := (parse_canonical steering "Steer").2.2
    ⟨"Steer", [.single (.axis { name := "Steer" })]⟩ rfl (List.cons_ne_nil _ _)
  cases only
  cases single
  exact ⟨⟨again, sequence, steps⟩, asSequence .button, asCombo rfl, asStandard rfl⟩

end Grammar

end InputBinding
