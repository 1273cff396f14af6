import InputBinding.Binding.Verdict
import InputBinding.Proofs.Answers

/-!
Steps that leave it to the source which names are axes. A step that was read with declared axis names
holds on a source with just these axes exactly if the step that was read without them does.
-/

namespace InputBinding

/-- The axes of the source are the given names; none of them is a key, and each has a value. -/
structure Source.Declares (source : Source) (names : List String) : Prop where
  axis : ∀ name, source.axisExists name = .ok (decide (name ∈ names))
  key : ∀ name, ∃ isKey, source.keyExists name = .ok isKey ∧ (isKey = true → name ∉ names)
  value : ∀ name ∈ names, ∃ value, source.axisValue name = .ok value

/-- What becomes of a step if the axes are not declared: bare names stay names, and a suffix stays
behind the name it was written behind. -/
inductive Step.Defers (names : List String) (manner : Manner) : Step → Step → Prop
  | same (step : Step) : Defers names manner step step
  | axis {name : String} : name ∈ names →
      Defers names manner (.single (.axis ⟨name, manner.bareDirection, manner.bareTolerance⟩))
        (.single (.key name))
  | left {left right : String} : left ∈ names →
      Defers names manner (.combo (.axis ⟨left, manner.bareDirection, manner.bareTolerance⟩) (.key right))
        (.combo (.key left) (.key right))
  | right {left right : String} : right ∈ names →
      Defers names manner (.combo (.key left) (.axis ⟨right, manner.bareDirection, manner.bareTolerance⟩))
        (.combo (.key left) (.key right))
  | swapped {left right : String} {direction : Direction} {tolerance : Float} :
      left ∈ names → right ∉ names →
      Defers names manner (.combo (.axis ⟨left, direction, tolerance⟩) (.key right))
        (.combo (.key left) (.axis ⟨right, direction, tolerance⟩))

namespace Source

variable {source : Source} {names : List String} {epsilon : Float} {manner : Manner} {name : String}

theorem Declares.notKey (declares : source.Declares names) (member : name ∈ names) :
    source.keyExists name = .ok false := by
  obtain ⟨isKey, known, disjoint⟩ := declares.key name
  cases isKey
  · exact known
  · exact absurd member (disjoint rfl)

theorem Declares.isAxis (declares : source.Declares names) (member : name ∈ names) :
    source.axisExists name = .ok true := by
  rw [declares.axis name, decide_eq_true member]

theorem Declares.notAxis (declares : source.Declares names) (outside : name ∉ names) :
    source.axisExists name = .ok false := by
  rw [declares.axis name, decide_eq_false outside]

theorem identify_axis (declares : source.Declares names) (member : name ∈ names) :
    (source.identify name).answer = .ok (some .axis) := by
  simp [identify, declares.notKey member, declares.isAxis member]

theorem partHolds_bare (epsilon : Float) (manner : Manner) (declares : source.Declares names)
    (member : name ∈ names) :
    (source.partHolds epsilon manner (.key name)).answer =
      (source.partHolds epsilon manner
        (.axis ⟨name, manner.bareDirection, manner.bareTolerance⟩)).answer := by
  simp only [partHolds, Inquiry.answer_bind, identify_axis declares member, ok_bind]

theorem axisHolds_declared (epsilon : Float) (manner : Manner) (declares : source.Declares names)
    (member : name ∈ names) (direction : Direction) (tolerance : Float) :
    ∃ holds, (source.partHolds epsilon manner (.axis ⟨name, direction, tolerance⟩)).answer = .ok holds := by
  obtain ⟨value, known⟩ := declares.value name member
  refine ⟨direction.admits epsilon tolerance value, ?_⟩
  simp [partHolds, axisHolds, findAxis, declares.isAxis member, known]

theorem axisHolds_outside (declares : source.Declares names) (outside : name ∉ names)
    (direction : Direction) (tolerance : Float) :
    (source.partHolds epsilon manner (.axis ⟨name, direction, tolerance⟩)).answer = .ok false := by
  simp [partHolds, axisHolds, findAxis, declares.notAxis outside]

theorem keyHolds_unknown (declares : source.Declares names) (outside : name ∉ names)
    (unknown : source.keyExists name = .ok false) :
    (source.partHolds epsilon manner (.key name)).answer = .ok false := by
  simp [partHolds, identify, unknown, declares.notAxis outside]

theorem answer_partsOf_axisLast (declares : source.Declares names) (left : String) (right : AxisTest)
    (member : right.name ∈ names) :
    (source.partsOf (.combo (.key left) (.axis right))).answer = .ok [.key left, .axis right] := by
  simp [partsOf, orient, isSwapped, declares.isAxis member]

theorem stepHolds_deferred (declares : source.Declares names) {step deferred : Step}
    (defers : Step.Defers names manner step deferred) :
    (source.stepHolds epsilon manner deferred).answer =
    (source.stepHolds epsilon manner step).answer := by
  cases defers with
  | same => rfl
  | axis member =>
      simp only [stepHolds, partsOf, Inquiry.answer_bind, Inquiry.answer_pure, ok_bind]
      exact Inquiry.answer_all (.cons (partHolds_bare epsilon manner declares member) .nil)
  | left member =>
      simp only [stepHolds, partsOf, orient, Inquiry.answer_bind, Inquiry.answer_pure, ok_bind]
      exact Inquiry.answer_all (.cons (partHolds_bare epsilon manner declares member) (.cons rfl .nil))
  | @right left right member =>
      simp only [stepHolds, Inquiry.answer_bind, answer_partsOf_axisLast declares left
        ⟨right, manner.bareDirection, manner.bareTolerance⟩ member]
      simp only [partsOf, orient, Inquiry.answer_pure, ok_bind]
      exact Inquiry.answer_all (.cons rfl (.cons (partHolds_bare epsilon manner declares member) .nil))
  | @swapped left right direction tolerance member outside =>
      obtain ⟨isKey, known, _⟩ := declares.key right
      cases isKey with
      | true =>
          simp [stepHolds, partsOf, orient, isSwapped, declares.notAxis outside, known,
            declares.isAxis member, declares.notKey member]
      | false =>
          -- The key is unknown to the source, so neither order of the two parts holds.
          obtain ⟨bare, bareHolds⟩ := axisHolds_declared epsilon manner declares member
            manner.bareDirection manner.bareTolerance
          obtain ⟨tested, testHolds⟩ := axisHolds_declared epsilon manner declares member
            direction tolerance
          have deferredFails := Inquiry.answer_all_pair
            ((partHolds_bare epsilon manner declares member).trans bareHolds)
            (axisHolds_outside declares outside direction tolerance)
          have fails := Inquiry.answer_all_pair testHolds (keyHolds_unknown declares outside known)
          simp [stepHolds, partsOf, orient, isSwapped, declares.notAxis outside, known, deferredFails, fails]

end Source

theorem Snapshot.declares {snapshot : Snapshot} {names : List String}
    (axes : ∀ name, snapshot.isAxis name = true ↔ name ∈ names)
    (known : ∀ keys, snapshot.known = some keys → ∀ name ∈ keys, name ∉ names) :
    snapshot.toSource.Declares names where
  axis name := by
    have same : snapshot.isAxis name = decide (name ∈ names) := by
      rw [Bool.eq_iff_iff, decide_eq_true_iff]
      exact axes name
    simp [toSource, same]
  key name := by
    refine ⟨snapshot.isKey name, rfl, ?_⟩
    unfold isKey
    cases declared : snapshot.known with
    | none =>
        intro notAxis member
        simp [(axes name).mpr member] at notAxis
    | some keys =>
        intro isKey
        exact known keys declared name (by simpa using isKey)
  value name member := by
    have isAxis := (axes name).mpr member
    obtain ⟨value, found⟩ := Option.isSome_iff_exists.mp isAxis
    exact ⟨value, by simp [toSource, found]⟩

def Rule.manner (rule : Rule) : Manner :=
  match rule.kind with
  | .sequence => { edge := true }
  | .combo => { bareDirection := rule.firstDirection, bareTolerance := rule.firstTolerance }
  | .standard => {}

namespace Binding

/-- Two bindings of one rule, read with and without declared axis names, that have come equally far.
The texts of the steps that have held may differ. -/
structure Defers (names : List String) (binding other : Binding) : Prop where
  rule : other.rule = binding.rule
  defect : other.defect = binding.defect
  steps : List.Forall₂ (Step.Defers names binding.rule.manner) binding.descriptor.steps
    other.descriptor.steps
  single : binding.rule.kind = .standard → ∀ step ∈ binding.descriptor.steps, ∃ part, step = .single part
  cursor : other.cursor = binding.cursor
  elapsed : other.elapsed = binding.elapsed

variable {names : List String} {binding other : Binding} {source : Source} {epsilon : Float}

theorem Defers.isEmpty (defers : Defers names binding other) :
    other.descriptor.steps.isEmpty = binding.descriptor.steps.isEmpty := by
  rw [Bool.eq_iff_iff]
  simp only [List.isEmpty_iff_length_eq_zero, defers.steps.length_eq]

theorem Defers.inert (defers : Defers names binding other) : other.inert = binding.inert := by
  simp only [Binding.inert, Descriptor.isUnbound, defers.defect, defers.isEmpty]

theorem judgeStandard_deferred (declares : source.Declares names) {manner : Manner}
    {step deferred : Step}
    (defers : Step.Defers names manner step deferred) (single : ∃ part, step = .single part) :
    (judgeStandard source deferred).answer = (judgeStandard source step).answer := by
  obtain ⟨part, rfl⟩ := single
  cases defers with
  | same => rfl
  | axis member =>
      simp [judgeStandard, Source.identify_axis declares member, Source.findAxis, declares.isAxis member]

theorem interruptedBy_deferred (declares : source.Declares names) {manner : Manner}
    {step deferred : Step}
    (defers : Step.Defers names manner step deferred) (cursor : other.cursor = binding.cursor) :
    other.interruptedBy source deferred = binding.interruptedBy source step := by
  have inProgress : other.inProgress = binding.inProgress := by
    simp [Binding.inProgress, cursor]
  unfold interruptedBy
  rw [inProgress]
  cases defers with
  | same | left _ | right _ | swapped _ _ => rfl
  | axis member =>
      cases pressed : source.anyKeyJustPressed with
      | error fault => rfl
      | ok any =>
          cases any
          · rfl
          · simp [Step.bareName?, Source.awaitsKey, declares.notKey member, declares.isAxis member, pure,
              Except.pure]

theorem Defers.expected (defers : Defers names binding other) :
    (binding.expectedStep = none ∧ other.expectedStep = none) ∨
      ∃ step deferred, binding.expectedStep = some step ∧ other.expectedStep = some deferred ∧
        Step.Defers names binding.rule.manner step deferred := by
  unfold expectedStep
  rw [defers.cursor]
  have lengths := defers.steps.length_eq
  rcases Nat.lt_or_ge binding.cursor binding.descriptor.steps.length with inside | outside
  · have insideOther : binding.cursor < other.descriptor.steps.length := lengths ▸ inside
    refine Or.inr ⟨_, _, List.getElem?_eq_getElem inside, List.getElem?_eq_getElem insideOther, ?_⟩
    exact defers.steps.get inside insideOther
  · refine Or.inl ⟨List.getElem?_eq_none outside, List.getElem?_eq_none ?_⟩
    rw [← lengths]
    exact outside

theorem judge_deferred (declares : source.Declares names) (defers : Defers names binding other) :
    (other.judge epsilon source).answer = (binding.judge epsilon source).answer := by
  unfold judge
  rw [defers.rule]
  cases kind : binding.rule.kind with
  | sequence =>
      have overdue : other.overdue = binding.overdue := by
        simp [Binding.overdue, inProgress, defers.rule, defers.cursor, defers.elapsed]
      have manner : binding.rule.manner = { edge := true } := by
        simp [Rule.manner, kind]
      simp only [judgeSequence, overdue]
      split
      · rfl
      · rcases defers.expected with
          ⟨expected, otherExpected⟩ | ⟨step, deferred, expected, otherExpected, defersStep⟩
        · simp only [expected, otherExpected]
        · simp only [expected, otherExpected, Inquiry.answer_bind]
          rw [manner] at defersStep
          rw [Source.stepHolds_deferred declares defersStep,
            interruptedBy_deferred declares defersStep defers.cursor]
  | combo =>
      have manner : binding.rule.manner = binding.comboManner := by
        simp [Rule.manner, kind, comboManner]
      have otherManner : other.comboManner = binding.comboManner := by
        simp [comboManner, defers.rule]
      have steps := defers.steps
      rw [manner] at steps
      generalize binding.descriptor.steps = declared at steps
      generalize other.descriptor.steps = deferred at steps
      cases steps with
      | nil => rfl
      | cons head _ =>
          simp only [judgeCombo, otherManner, Inquiry.answer_bind, Source.stepHolds_deferred declares head]
  | standard =>
      have single := defers.single kind
      have steps := defers.steps
      generalize binding.descriptor.steps = declared at steps single
      generalize other.descriptor.steps = deferred at steps
      cases steps with
      | nil => rfl
      | cons head _ => exact judgeStandard_deferred declares head (single _ List.mem_cons_self)

end Binding

end InputBinding
