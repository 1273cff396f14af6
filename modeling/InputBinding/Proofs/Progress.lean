import InputBinding.Proofs.FloatOrder
import InputBinding.Proofs.Histories
import InputBinding.Proofs.Independence
import InputBinding.Proofs.Sequences

/-!
How far a sequence has come is always consistent with its steps and its time limit, whatever has
happened to the controller that holds it.
-/

namespace InputBinding

namespace Binding

/-- The progress of a binding fits its rule. -/
structure Sound (binding : Binding) : Prop where
  matched : binding.matched = (binding.descriptor.steps.take binding.cursor).map Step.format
  idle : binding.cursor = 0 → binding.elapsed = 0.0
  still : binding.inert = true ∨ binding.isSequence = false → binding.cursor = 0
  within : binding.inert = false → binding.isSequence = true → binding.cursor < binding.descriptor.steps.length
  punctual : 0 < binding.cursor → 0.0 < binding.rule.timeLimit → ¬ binding.rule.timeLimit < binding.elapsed

variable {binding : Binding} {index : Nat} {delta epsilon : Float} {source : Source} {sink : Sink}

theorem sound_rest (binding : Binding) : binding.rest.Sound where
  matched := rfl
  idle _ := rfl
  still _ := rfl
  within live _ := List.length_pos_iff.mpr (steps_nonempty live)
  punctual started := absurd started (Nat.lt_irrefl 0)

theorem not_overdue_iff :
    binding.overdue = false ↔
      (0 < binding.cursor → 0.0 < binding.rule.timeLimit → ¬ binding.rule.timeLimit < binding.elapsed) := by
  simp [overdue, inProgress]

theorem Sound.expected (sound : binding.Sound) (live : binding.inert = false)
    (sequence : binding.isSequence = true) : ∃ step, binding.expectedStep = some step :=
  ⟨_, List.getElem?_eq_getElem (sound.within live sequence)⟩

theorem Sound.spend (sound : binding.Sound) (delta : Float) (inTime : (binding.spend delta).overdue = false) :
    (binding.spend delta).Sound := by
  have punctual := not_overdue_iff.mp inTime
  unfold Binding.spend at punctual ⊢
  split
  · rename_i underway
    rw [if_pos underway] at punctual
    simp only [Bool.and_eq_true, inProgress, decide_eq_true_eq] at underway
    refine ⟨sound.matched, ?_, sound.still, sound.within, punctual⟩
    intro unstarted
    have unstarted : binding.cursor = 0 := unstarted
    omega
  · exact sound

theorem Sound.advance {advanced : Binding} (sound : binding.Sound) (live : binding.inert = false)
    (sequence : binding.isSequence = true) (unfinished : binding.cursor + 1 < binding.descriptor.steps.length)
    (moved : binding.advance = .ok advanced) : advanced.Sound := by
  obtain ⟨step, expected⟩ := sound.expected live sequence
  simp only [Binding.advance, expected, Except.ok.injEq] at moved
  subst moved
  refine ⟨?_, ?_, ?_, fun _ _ => unfinished, ?_⟩
  · have next : binding.descriptor.steps[binding.cursor]? = some step := expected
    simp [List.take_add_one, next, sound.matched]
  · intro impossible
    cases impossible
  · rintro (inert | plain)
    · cases live.symm.trans inert
    · cases sequence.symm.trans plain
  · intro _ limited
    -- The first step starts the clock at zero, which no positive limit is below.
    by_cases started : 0 < binding.cursor
    · exact sound.punctual started limited
    · have untouched : binding.elapsed = 0.0 := sound.idle (by omega)
      show ¬ binding.rule.timeLimit < binding.elapsed
      rw [untouched]
      exact not_negative_of_positive limited

theorem Sound.moveOn (sound : binding.Sound) (live : binding.inert = false)
    (sequence : binding.isSequence = true) : binding.moveOn.2.Sound := by
  obtain ⟨step, expected⟩ := sound.expected live sequence
  have inside := sound.within live sequence
  rw [moveOn_sequence expected]
  split
  · exact sound_rest binding
  · apply sound.advance live sequence (by omega)
    simp [Binding.advance, expected]

theorem isSequence_iff : binding.isSequence = true ↔ binding.rule.kind = .sequence := by
  simp [isSequence]

theorem Sound.carryOut {verdict : Verdict} (sound : binding.Sound) (live : binding.inert = false)
    (judged : (binding.judge epsilon source).answer = .ok verdict) :
    (binding.carryOut index verdict).2.Sound := by
  cases verdict with
  | pass | fire _ => exact sound
  | abandon _ | rewind => exact sound_rest binding
  | advance => exact sound.moveOn live (isSequence_iff.mpr (kind_of_advance judged))

theorem Sound.isSequence_of_started (sound : binding.Sound) (started : 0 < binding.cursor) :
    binding.isSequence = true := by
  by_contra plain
  have unstarted := sound.still (.inr (Bool.not_eq_true _ ▸ plain))
  omega

theorem rule_spend (delta : Float) (binding : Binding) : (binding.spend delta).rule = binding.rule :=
  (congrArg Binding.rule (rest_spend delta binding) :)

theorem Sound.judge_overdue (sound : binding.Sound) (overdue : (binding.spend delta).overdue = true) :
    ((binding.spend delta).judge epsilon source).answer = .ok (.abandon .timeout) := by
  have started : 0 < binding.cursor := by
    rw [← (spend_cursor delta binding).1]
    simp only [Binding.overdue, inProgress, Bool.and_eq_true, decide_eq_true_eq] at overdue
    exact overdue.1.1
  have sequence := isSequence_iff.mp (sound.isSequence_of_started started)
  simp [judge, judgeSequence, rule_spend, sequence, overdue]

theorem Sound.take (sound : binding.Sound) (live : binding.inert = false) (index : Nat) (delta epsilon : Float)
    (source : Source) : (binding.take index delta epsilon source).2.Sound := by
  have sameLive : (binding.spend delta).inert = binding.inert :=
    (congrArg Binding.inert (rest_spend delta binding) :)
  cases overdue : (binding.spend delta).overdue with
  | true =>
      simp only [Binding.take, sound.judge_overdue overdue]
      exact sound_rest _
  | false =>
      have spent := sound.spend delta overdue
      unfold Binding.take
      split
      · exact spent
      · rename_i judged
        exact spent.carryOut (sameLive.trans live) judged

theorem Sound.endure (sound : binding.Sound) (outcome : Outcome) (fault : Fault) :
    (binding.endure outcome fault).2.Sound := by
  unfold Binding.endure
  split
  · exact sound_rest binding
  · exact sound

theorem Sound.play (sound : binding.Sound) (index : Nat) (delta epsilon : Float) (source : Source) (sink : Sink) :
    (binding.play index delta epsilon source sink).2.Sound := by
  cases live : binding.inert with
  | true => simpa [Binding.play, live] using sound
  | false =>
      have taken := sound.take live index delta epsilon source
      simp only [Binding.play, live, Bool.false_eq_true, if_false]
      generalize binding.take index delta epsilon source = ended at taken ⊢
      obtain ⟨fault | _ | invocation, after⟩ := ended
      · exact taken.endure _ _
      · exact taken
      · dsimp only
        split
        · exact taken
        · exact taken.endure _ _

theorem sound_lasting : Lasting Sound where
  ofRule axisNames rule := rest_ofRule axisNames rule ▸ sound_rest _
  rest binding _ := sound_rest binding
  play _ index delta epsilon source sink sound := sound.play index delta epsilon source sink

theorem Sound.judge_ne_rewind (sound : binding.Sound) (live : binding.inert = false)
    (sequence : binding.isSequence = true) :
    (binding.spend delta).expectedStep ≠ none ∧
      ((binding.spend delta).judge epsilon source).answer ≠ .ok .rewind := by
  obtain ⟨step, expected⟩ := sound.expected live sequence
  have same := (spend_cursor delta binding).2.2.trans expected
  refine ⟨by simp [same], ?_⟩
  intro judged
  simp only [judge, rule_spend, isSequence_iff.mp sequence] at judged
  cases judgeSequence_verdict same judged

end Binding

/-- In every state of a controller, whatever has happened to it, the progress of each binding fits its
rule, and the next turn of a sequence finds a step to expect. -/
theorem Controller.Reachable.progress {controller : Controller} (reachable : controller.Reachable) :
    ∀ binding ∈ controller.matcher.table.bindings, binding.Sound ∧
      (binding.inert = false → binding.isSequence = true → ∀ delta epsilon source,
        (binding.spend delta).expectedStep ≠ none ∧
          ((binding.spend delta).judge epsilon source).answer ≠ .ok .rewind) := by
  intro binding member
  have sound := reachable.matcher.all Binding.sound_lasting binding member
  exact ⟨sound, fun live sequence _ _ _ => sound.judge_ne_rewind live sequence⟩

def Controller.patient : Controller where
  settings := {}
  matcher := {
    table := { limit := 50, bindings := [Binding.ofRule none Run.patientRule] }
    capture := some {} }
  clock := {}

theorem Controller.patient_reachable : patient.Reachable := by
  have quiet : ({} : Journal).Quiet := Journal.quiet_of_no_channel rfl
  have created : ∃ after, (create {} none [Run.patientRule] : Journaled Unit Controller).perform () {} =
      ((.ok patient, ()), after) := ⟨_, rfl⟩
  obtain ⟨after, created⟩ := created
  exact .opens quiet created

theorem Controller.Reachable.progress_patient :
    let pressed : Source := Snapshot.toSource { justPressed := ["a"] }
    let controller := ((Controller.Operation.update (fun _ => {}) 0.0 pressed).action.perform Controller.patient {}).1.2
    controller.Reachable ∧ ∃ binding, controller.matcher.table.bindings = [binding] ∧
      binding.cursor = 1 ∧ binding.matched = ["a"] ∧ binding.Sound := by
  have quiet : ({} : Journal).Quiet := Journal.quiet_of_no_channel rfl
  intro pressed controller
  have reachable : controller.Reachable := .step _ Controller.patient_reachable quiet
  have only : controller.matcher.table.bindings =
      [{ Binding.ofRule none Run.patientRule with cursor := 1, matched := ["a"] }] := rfl
  refine ⟨reachable, _, only, rfl, rfl, ?_⟩
  exact (reachable.progress _ (only ▸ List.mem_singleton_self _)).1

end InputBinding
