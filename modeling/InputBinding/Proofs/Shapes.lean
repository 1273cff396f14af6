import InputBinding.Proofs.Combos

/-!
The shape of what is read, which those who match steps rely on without a check. The kind of a descriptor
bounds its steps; its names are names of the grammar, its keys are no declared axes, and each test has a
name and a tolerance that its settings and the declared axes allow.
-/

namespace InputBinding

def Part.keys : Part → List String
  | .key name => [name]
  | .axis _ => []

def Part.tests : Part → List AxisTest
  | .key _ => []
  | .axis test => [test]

def Step.keys : Step → List String
  | .single part => part.keys
  | .combo left right => left.keys ++ right.keys
  | .diagonal _ _ key => key.toList

def Step.tests : Step → List AxisTest
  | .single part => part.tests
  | .combo left right => left.tests ++ right.tests
  | .diagonal first second _ => [first, second]

inductive Shape : Kind → List Step → Prop
  | unbound {kind : Kind} : Shape kind []
  | key {name : String} : Shape .standard [.single (.key name)]
  | axis {name : String} : Shape .standard [.single (.axis ⟨name, .neutral, 0.0⟩)]
  | combo {left right : Part} : Shape .combo [.combo left right]
  | pair {first second : AxisTest} {key : String} : Shape .combo [.diagonal first second (some key)]
  | sequence {steps : List Step} : Shape .sequence steps

def AxisTest.Measured (settings : AxisSettings) (test : AxisTest) : Prop :=
  test.tolerance = settings.firstTolerance ∨ test.tolerance = 0.0

/-- The tolerances of the tests of a step. Only the second test of a pair has the second one. -/
def Step.Measured (settings : AxisSettings) : Step → Prop
  | .single part => ∀ test ∈ part.tests, test.Measured settings
  | .combo left right => ∀ test ∈ left.tests ++ right.tests, test.Measured settings
  | .diagonal first second _ => first.Measured settings ∧ second.tolerance = settings.secondTolerance

namespace Grammar

open Text

variable {context : Context}

structure Formed (context : Context) (kind : Kind) (step : Step) : Prop where
  names : ∀ name ∈ step.names, IsName name.toList
  oneAxis : ∀ left right, step = .combo left right → ¬ (left.isAxis = true ∧ right.isAxis = true)
  keys : ∀ name ∈ step.keys, ¬ context.Declares name
  tests : (kind = .standard ∧ context.category = .axis) ∨ ∀ test ∈ step.tests, context.Permits test.name
  measured : kind ≠ .standard → step.Measured context.settings

/-! The parts that a sequence or a combo has. -/

theorem PartReads.names {part : Part} (reads : PartReads context part) :
    ∀ name ∈ part.names, IsName name.toList := by
  intro name member
  cases reads with
  | key clean _ =>
      rw [List.mem_singleton.mp member]
      exact isName_iff.mpr clean
  | axis clean _ _ =>
      rw [List.mem_singleton.mp member]
      exact isName_iff.mpr clean

theorem PartReads.keys {part : Part} (reads : PartReads context part) :
    ∀ name ∈ part.keys, ¬ context.Declares name := by
  intro name member
  cases reads with
  | key _ undeclared =>
      rw [List.mem_singleton.mp member]
      exact isAxis_eq_false_iff.mp undeclared
  | axis _ _ _ => cases member

theorem PartReads.tests {part : Part} (reads : PartReads context part) :
    ∀ test ∈ part.tests, context.Permits test.name ∧ test.Measured context.settings := by
  intro test member
  cases reads with
  | key _ _ => cases member
  | axis _ mayBe origin =>
      rw [List.mem_singleton.mp member]
      refine ⟨mayBeAxis_iff_permits.mp mayBe, ?_⟩
      rcases origin with own | ⟨_, zero, _⟩
      · exact Or.inl own
      · exact Or.inr zero

theorem StepReads.formed {step : Step} (reads : StepReads context step) (kind : Kind) :
    Formed context kind step := by
  cases reads with
  | single part =>
      exact {
        names := part.names
        oneAxis := by rintro left right ⟨⟩
        keys := part.keys
        tests := Or.inr fun test member => (part.tests test member).1
        measured := fun _ test member => (part.tests test member).2 }
  | combo left right notBoth =>
      have tests := List.forall_mem_append.mpr ⟨left.tests, right.tests⟩
      exact {
        names := List.forall_mem_append.mpr ⟨left.names, right.names⟩
        oneAxis := by
          rintro _ _ ⟨⟩ ⟨leftAxis, rightAxis⟩
          rw [leftAxis, rightAxis] at notBoth
          cases notBoth
        keys := List.forall_mem_append.mpr ⟨left.keys, right.keys⟩
        tests := Or.inr fun test member => (tests test member).1
        measured := fun _ test member => (tests test member).2 }
  | @diagonal first second key firstClean firstMay firstOwn secondClean secondMay secondOwn keyReads =>
      have keyNames : ∀ name ∈ key.toList, Clean name.toList ∧ context.isAxis name = false := by
        intro name member
        exact keyReads name (Option.mem_toList.mp member)
      have names : ∀ name ∈ first.name :: second.name :: key.toList, IsName name.toList := by
        simp only [List.forall_mem_cons, isName_iff]
        exact ⟨firstClean, secondClean, fun name member => (keyNames name member).1⟩
      have tests : ∀ test ∈ [first, second], context.Permits test.name := by
        simp only [List.forall_mem_cons, ← mayBeAxis_iff_permits]
        exact ⟨firstMay, secondMay, List.forall_mem_nil _⟩
      exact {
        names
        oneAxis := by rintro left right ⟨⟩
        keys := fun name member => isAxis_eq_false_iff.mp (keyNames name member).2
        tests := Or.inr tests
        measured := fun _ => ⟨Or.inl firstOwn, secondOwn⟩ }

/-! The part that a standard descriptor has. -/

theorem shape_lonePart (name : String) : Shape .standard [.single (context.lonePart name)] := by
  unfold Context.lonePart
  split
  · exact .axis
  · exact .key

theorem formed_lonePart {name : String} (isName : IsName name.toList) :
    Formed context .standard (.single (context.lonePart name)) := by
  by_cases axis : context.category = .axis ∨ context.Declares name
  · have part : context.lonePart name = .axis { name } := if_pos axis
    have tests : (Kind.standard = .standard ∧ context.category = .axis) ∨
        ∀ test ∈ [{ name := name : AxisTest }], context.Permits test.name := by
      rcases axis with category | declares
      · exact Or.inl ⟨rfl, category⟩
      · have mayBe := mayBeAxis_of_isAxis (isAxis_iff_declares.mpr declares)
        exact Or.inr (List.forall_mem_singleton.mpr (mayBeAxis_iff_permits.mp mayBe))
    rw [part]
    exact {
      names := List.forall_mem_singleton.mpr isName
      oneAxis := by rintro left right ⟨⟩
      keys := List.forall_mem_nil _
      tests
      measured := absurd rfl }
  · have part : context.lonePart name = .key name := if_neg axis
    rw [part]
    exact {
      names := List.forall_mem_singleton.mpr isName
      oneAxis := by rintro left right ⟨⟩
      keys := List.forall_mem_singleton.mpr fun declares => axis (Or.inr declares)
      tests := Or.inr (List.forall_mem_nil _)
      measured := absurd rfl }

/-! What each kind of text is read as. -/

structure Yields (context : Context) (kind : Kind) (steps : List Step) : Prop where
  nonempty : steps ≠ []
  shape : Shape kind steps
  formed : ∀ step ∈ steps, Formed context kind step

theorem ComboReads.shape {step : Step} (reads : ComboReads context step) : Shape .combo [step] := by
  cases reads with
  | keys _ _ _ _ => exact .combo
  | axisFirst _ _ _ _ => exact .combo
  | axisLast _ _ _ _ => exact .combo
  | pair _ _ _ _ _ _ => exact .pair

theorem readSteps_yields {kind : Kind} {text : List Char} {steps : List Step}
    (read : readSteps context kind text = .ok steps) : Yields context kind steps := by
  cases kind with
  | standard =>
      obtain ⟨name, spells, rfl⟩ := readSteps_standard_iff.mp read
      exact ⟨List.cons_ne_nil _ _, shape_lonePart name, List.forall_mem_singleton.mpr (formed_lonePart spells.isName)⟩
  | combo =>
      obtain ⟨_, _, read⟩ := bind_eq_ok read
      obtain ⟨step, comboRead, read⟩ := bind_eq_ok read
      cases read
      have reads := readCombo_reads comboRead
      exact ⟨List.cons_ne_nil _ _, reads.shape, List.forall_mem_singleton.mpr (reads.stepReads.formed .combo)⟩
  | sequence =>
      obtain ⟨fragments, someFragment, _, each⟩ := readSteps_iff.mp read
      obtain ⟨_, _, read⟩ := bind_eq_ok read
      refine ⟨?_, .sequence, fun step member => (readSequence_reads read step member).formed .sequence⟩
      rintro rfl
      cases each
      exact someFragment rfl

/-- Every descriptor that is read has a shape of its kind, no steps only where its text stands for none,
and only steps whose names, keys, tests and tolerances are in order. -/
theorem parse_shape (context : Context) (kind : Kind) (raw : String) (read : Descriptor)
    (parsed : parse context kind raw = .ok read) :
    (read.steps = [] ↔ strip raw.toList = [] ∨ strip raw.toList = unboundText.toList) ∧
    Shape kind read.steps ∧ ∀ step ∈ read.steps, Formed context kind step := by
  rw [← isUnboundText_iff]
  cases unbound : isUnboundText (strip raw.toList) with
  | true =>
      rw [parse_unbound unbound] at parsed
      cases parsed
      exact ⟨⟨fun _ => rfl, fun _ => rfl⟩, .unbound, List.forall_mem_nil _⟩
  | false =>
      rw [parse_of_bound unbound] at parsed
      obtain ⟨steps, stepsRead, parsed⟩ := bind_eq_ok parsed
      cases parsed
      obtain ⟨nonempty, shape, formed⟩ := readSteps_yields stepsRead
      exact ⟨⟨fun nothing => absurd nothing nonempty, fun impossible => by cases impossible⟩, shape, formed⟩

theorem parse_shape_gamepad :
    ∃ read, parse gamepad .combo " (X, Y ) + Jump" = .ok read ∧ read.steps ≠ [] ∧ Shape .combo read.steps ∧
      ∀ step ∈ read.steps, Formed gamepad .combo step := by
  have parsed : parse gamepad .combo " (X, Y ) + Jump" =
      .ok ⟨" (X, Y ) + Jump", [pairStep gamepad "X" "Y" "Jump"]⟩ := rfl
  obtain ⟨_, shape, formed⟩ := parse_shape gamepad .combo " (X, Y ) + Jump" _ parsed
  exact ⟨_, parsed, List.cons_ne_nil _ _, shape, formed⟩

end Grammar

end InputBinding
