import InputBinding.Proofs.Turns

/-!
The turn of a sequence. Time passes first, then a limit that is exceeded ends the sequence; only then
is the expected step tried, and only if it does not hold can a key press interrupt the sequence.
-/

namespace InputBinding

def Source.Triggers (source : Source) (epsilon : Float) (step : Step) : Prop :=
  (source.stepHolds epsilon { edge := true } step).answer = .ok true

def Source.Interrupts (source : Source) (step : Step) : Prop :=
  source.anyKeyJustPressed = .ok true ∧ ∃ name, step = .single (.key name) ∧
    (source.keyExists name = .ok true ∨ source.axisExists name = .ok false)

/-- The ways in which an undisturbed turn of a sequence can go. -/
inductive SequenceTurn (index : Nat) (delta epsilon : Float) (source : Source) (binding : Binding) :
    Outcome → Binding → Prop
  | late : (binding.spend delta).overdue = true → SequenceTurn index delta epsilon source binding {} binding.rest
  | completes (step : Step) : (binding.spend delta).overdue = false → binding.expectedStep = some step →
      source.Triggers epsilon step → binding.cursor + 1 = binding.descriptor.steps.length →
      SequenceTurn index delta epsilon source binding { fired := some { mapping := index } } binding.rest
  | moves (step : Step) : (binding.spend delta).overdue = false → binding.expectedStep = some step →
      source.Triggers epsilon step → binding.cursor + 1 < binding.descriptor.steps.length →
      SequenceTurn index delta epsilon source binding {} { binding.spend delta with
        cursor := binding.cursor + 1, matched := binding.matched ++ [step.format] }
  | breaks (step : Step) : (binding.spend delta).overdue = false → binding.expectedStep = some step →
      ¬ source.Triggers epsilon step → 0 < binding.cursor → source.Interrupts step →
      SequenceTurn index delta epsilon source binding {} binding.rest
  | waits (step : Step) : (binding.spend delta).overdue = false → binding.expectedStep = some step →
      ¬ source.Triggers epsilon step → (0 < binding.cursor → ¬ source.Interrupts step) →
      SequenceTurn index delta epsilon source binding {} (binding.spend delta)

inductive SequenceVerdict (epsilon : Float) (source : Source) (binding : Binding) (step : Step) : Verdict → Prop
  | late : binding.overdue = true → SequenceVerdict epsilon source binding step (.abandon .timeout)
  | holds : binding.overdue = false → source.Triggers epsilon step →
      SequenceVerdict epsilon source binding step .advance
  | broken : binding.overdue = false → ¬ source.Triggers epsilon step → 0 < binding.cursor →
      source.Interrupts step → SequenceVerdict epsilon source binding step (.abandon .interrupted)
  | waits : binding.overdue = false → ¬ source.Triggers epsilon step →
      (0 < binding.cursor → ¬ source.Interrupts step) → SequenceVerdict epsilon source binding step .pass

theorem Step.bareName?_eq_some {step : Step} {name : String} :
    step.bareName? = some name ↔ step = .single (.key name) := by
  constructor
  · intro bare
    unfold bareName? at bare
    split at bare
    · cases bare
      rfl
    · cases bare
  · rintro rfl
    rfl

theorem Source.awaitsKey_iff {source : Source} {name : String} {waits : Bool}
    (answered : source.awaitsKey name = .ok waits) :
    waits = true ↔ source.keyExists name = .ok true ∨ source.axisExists name = .ok false := by
  unfold awaitsKey at answered
  rcases known : source.keyExists name with fault | _ | _
  · simp [known] at answered
  · rcases axis : source.axisExists name with fault | isAxis
    · simp [known, axis, Functor.map, Except.map] at answered
    · have answer : waits = !isAxis := by
        simpa [known, axis, pure, Except.pure] using answered.symm
      simp [answer]
  · have answer : waits = true := by
      simpa [known, pure, Except.pure] using answered.symm
    simp [answer]

namespace Binding

theorem interruptedBy_iff {source : Source} {binding : Binding} {step : Step} {broken : Bool}
    (answered : binding.interruptedBy source step = .ok broken) :
    broken = true ↔ 0 < binding.cursor ∧ source.Interrupts step := by
  unfold interruptedBy inProgress at answered
  by_cases started : 0 < binding.cursor
  · rcases pressed : source.anyKeyJustPressed with fault | _ | _
    · simp [started, pressed] at answered
    · have quiet : broken = false := by
        simpa [started, pressed, pure, Except.pure] using answered.symm
      simp [quiet, Source.Interrupts, pressed]
    · cases bare : step.bareName? with
      | none =>
          have quiet : broken = false := by
            simpa [started, pressed, bare, pure, Except.pure] using answered.symm
          have notBare (name : String) : step ≠ .single (.key name) := by
            rintro rfl
            cases bare
          simp [quiet, Source.Interrupts, notBare]
      | some name =>
          have waiting : source.awaitsKey name = .ok broken := by
            simpa [started, pressed, bare] using answered
          rw [Source.awaitsKey_iff waiting, Step.bareName?_eq_some.mp bare]
          simp [Source.Interrupts, started, pressed]
  · have quiet : broken = false := by
      simpa [started, pure, Except.pure] using answered.symm
    simp [quiet, started]

theorem judgeSequence_verdict {epsilon : Float} {source : Source} {binding : Binding} {step : Step}
    {verdict : Verdict} (expected : binding.expectedStep = some step)
    (judged : (binding.judgeSequence epsilon source).answer = .ok verdict) :
    SequenceVerdict epsilon source binding step verdict := by
  simp only [judgeSequence, expected] at judged
  by_cases overdue : binding.overdue = true
  · simp only [overdue, if_true, Inquiry.answer_pure, Except.ok.injEq] at judged
    subst judged
    exact .late overdue
  · rw [Bool.not_eq_true] at overdue
    simp only [overdue, Bool.false_eq_true, if_false, Inquiry.answer_bind] at judged
    rcases held : (source.stepHolds epsilon { edge := true } step).answer with fault | _ | _
    · simp [held] at judged
    · have notYet : ¬ source.Triggers epsilon step := by simp [Source.Triggers, held]
      rcases answered : binding.interruptedBy source step with fault | _ | _
      · simp [held, answered, Inquiry.ofExcept] at judged
      · simp [held, answered, Inquiry.ofExcept] at judged
        subst judged
        have unbroken := mt (interruptedBy_iff answered).mpr (by simp)
        rw [not_and] at unbroken
        exact .waits overdue notYet unbroken
      · simp [held, answered, Inquiry.ofExcept] at judged
        subst judged
        obtain ⟨started, interrupts⟩ := (interruptedBy_iff answered).mp rfl
        exact .broken overdue notYet started interrupts
    · simp [held] at judged
      subst judged
      exact .holds overdue held

theorem complete_eq {binding : Binding} (fresh : binding.cursor < binding.descriptor.steps.length)
    (matched : List String) :
    ({ binding with cursor := binding.cursor + 1, matched } : Binding).complete =
      decide (binding.cursor + 1 = binding.descriptor.steps.length) := by
  have nonempty : binding.descriptor.steps ≠ [] := by
    intro empty
    simp [empty] at fresh
  rw [Bool.eq_iff_iff]
  simp [complete, nonempty]
  omega

theorem moveOn_sequence {binding : Binding} {step : Step}
    (expected : binding.expectedStep = some step) :
    binding.moveOn =
      if binding.cursor + 1 = binding.descriptor.steps.length then (.ok true, binding.rest)
      else (.ok false, { binding with
        cursor := binding.cursor + 1, matched := binding.matched ++ [step.format] }) := by
  have fresh : binding.cursor < binding.descriptor.steps.length := (List.getElem?_eq_some_iff.mp expected).1
  simp only [moveOn, advance, expected, complete_eq fresh, decide_eq_true_eq]
  by_cases last : binding.cursor + 1 = binding.descriptor.steps.length
  · simp [last, rest]
  · simp [last]

theorem play_undisturbed {index : Nat} {delta epsilon : Float} {source : Source} {sink : Sink}
    {binding : Binding} {outcome : Outcome} (live : binding.inert = false)
    (played : (binding.play index delta epsilon source sink).1 = .ok outcome)
    (undisturbed : outcome.faulted = false) :
    ∃ verdict, ((binding.spend delta).judge epsilon source).answer = .ok verdict ∧
      (binding.spend delta).carryOut index verdict =
        (.ok outcome.fired, (binding.play index delta epsilon source sink).2) := by
  have faultless {fault : Fault} {after : Binding} {before : Outcome} :
      (after.endure before fault).1 ≠ .ok outcome := by
    intro endured
    rw [endure_eq_ok endured] at undisturbed
    cases undisturbed
  cases judged : ((binding.spend delta).judge epsilon source).answer with
  | error fault =>
      simp only [play, live, take, judged] at played
      exact absurd played faultless
  | ok verdict =>
      refine ⟨verdict, rfl, ?_⟩
      simp only [play, live, take, judged] at played ⊢
      rcases carried : (binding.spend delta).carryOut index verdict with ⟨fault | _ | invocation, after⟩
      · simp only [carried] at played
        exact absurd played faultless
      · simp only [carried] at played ⊢
        cases played
        rfl
      · simp only [carried] at played ⊢
        cases answered : (sink invocation).fault with
        | none =>
            simp only [answered] at played ⊢
            cases played
            rfl
        | some fault =>
            simp only [answered] at played
            exact absurd played faultless

theorem play_sequence {index : Nat} {delta epsilon : Float} {source : Source} {sink : Sink}
    {binding : Binding} {outcome : Outcome} (live : binding.inert = false)
    (sequence : binding.rule.kind = .sequence)
    (fresh : binding.cursor < binding.descriptor.steps.length)
    (played : (binding.play index delta epsilon source sink).1 = .ok outcome)
    (undisturbed : outcome.faulted = false) :
    SequenceTurn index delta epsilon source binding outcome
      (binding.play index delta epsilon source sink).2 := by
  have sameRest := rest_spend delta binding
  have sameRule : (binding.spend delta).rule = binding.rule := (congrArg Binding.rule sameRest :)
  have sameDescriptor : (binding.spend delta).descriptor = binding.descriptor :=
    (congrArg Binding.descriptor sameRest :)
  obtain ⟨sameCursor, sameMatched, sameStep⟩ := spend_cursor delta binding
  obtain ⟨step, expected⟩ : ∃ step, binding.expectedStep = some step :=
    ⟨_, List.getElem?_eq_getElem fresh⟩
  obtain ⟨verdict, judged, carried⟩ := play_undisturbed live played undisturbed
  generalize (binding.play index delta epsilon source sink).2 = after at carried ⊢
  obtain ⟨fired, faulted⟩ := outcome
  cases undisturbed
  simp only [judge, sameRule, sequence] at judged
  have verdicts := judgeSequence_verdict (sameStep.trans expected) judged
  cases verdicts with
  | late overdue =>
      cases carried
      exact sameRest ▸ SequenceTurn.late overdue
  | waits overdue notYet unbroken =>
      rw [sameCursor] at unbroken
      cases carried
      exact SequenceTurn.waits step overdue expected notYet unbroken
  | broken overdue notYet started interrupts =>
      rw [sameCursor] at started
      cases carried
      exact sameRest ▸ SequenceTurn.breaks step overdue expected notYet started interrupts
  | holds overdue holds =>
      simp only [carryOut, moveOn_sequence (sameStep.trans expected), sameCursor, sameDescriptor,
        sameMatched] at carried
      by_cases last : binding.cursor + 1 = binding.descriptor.steps.length
      · simp only [last, if_true] at carried
        cases carried
        exact sameRest ▸ SequenceTurn.completes step overdue expected holds last
      · simp only [last, if_false] at carried
        cases carried
        rw [← sameDescriptor]
        exact SequenceTurn.moves step overdue expected holds (by omega)

end Binding

end InputBinding
