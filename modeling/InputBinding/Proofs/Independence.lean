import InputBinding.Proofs.Loading
import InputBinding.Proofs.Recovery
import InputBinding.Proofs.Runs

/-!
Bindings are independent. What a run does with one rule of a table is what it would do with this rule
alone, whatever the other rules, the subscribers and the notices do.
-/

namespace InputBinding

def Outcome.content (outcome : Outcome) : Option (Option Float) × Bool :=
  (outcome.fired.map fun invocation => invocation.value, outcome.faulted)

def Report.about (index : Nat) (report : Report) : List (Option Float) × Bool :=
  ((report.fired.filter fun invocation => invocation.mapping = index).map fun invocation => invocation.value,
    decide (index ∈ report.faulted))

namespace Binding

variable {delta epsilon : Float} {source : Source}

theorem carryOut_index (index other : Nat) (binding : Binding) (verdict : Verdict) :
    binding.carryOut other verdict =
      ((binding.carryOut index verdict).1.map (Option.map fun invocation => { invocation with mapping := other }),
        (binding.carryOut index verdict).2) := by
  cases verdict with
  | pass | fire _ | abandon _ | rewind => rfl
  | advance =>
      simp only [carryOut]
      cases binding.moveOn.1 with
      | error fault => rfl
      | ok completed => cases completed <;> rfl

theorem take_index (index other : Nat) (binding : Binding) :
    binding.take other delta epsilon source =
      ((binding.take index delta epsilon source).1.map
          (Option.map fun invocation => { invocation with mapping := other }),
        (binding.take index delta epsilon source).2) := by
  unfold take
  cases ((binding.spend delta).judge epsilon source).answer with
  | error fault => rfl
  | ok verdict => exact carryOut_index index other (binding.spend delta) verdict

theorem endure_content {outcome other : Outcome} (same : outcome.content = other.content)
    (fault : Fault)
    (binding : Binding) :
    (binding.endure outcome fault).1.map Outcome.content = (binding.endure other fault).1.map Outcome.content ∧
      (binding.endure outcome fault).2 = (binding.endure other fault).2 := by
  unfold endure
  simp only [Outcome.content, Prod.mk.injEq] at same
  split
  · cases fault.message <;> simp [Except.map, Outcome.content, same.1]
  · simp [Except.map]

theorem play_index {index other : Nat} {sink otherSink : Sink}
    (same : ∀ value, (otherSink ⟨other, value⟩).fault = (sink ⟨index, value⟩).fault)
    (binding : Binding) :
    (binding.play index delta epsilon source sink).1.map Outcome.content =
        (binding.play other delta epsilon source otherSink).1.map Outcome.content ∧
      (binding.play index delta epsilon source sink).2 =
        (binding.play other delta epsilon source otherSink).2 := by
  unfold play
  split
  · exact ⟨rfl, rfl⟩
  · rw [take_index index other]
    rcases took : binding.take index delta epsilon source with ⟨fault | _ | invocation, after⟩
    · exact endure_content rfl fault after
    · exact ⟨rfl, rfl⟩
    · obtain ⟨position, value⟩ := invocation
      have here : position = index := take_mapping (congrArg Prod.fst took)
      subst here
      have renamed : (Except.ok (some ⟨position, value⟩) : Except Fault (Option Invocation)).map
          (Option.map fun invocation => { invocation with mapping := other }) =
            .ok (some ⟨other, value⟩) := rfl
      simp only [renamed, same value]
      cases answered : (sink ⟨position, value⟩).fault with
      | none => exact ⟨rfl, rfl⟩
      | some fault =>
          have content : Outcome.content { fired := some ⟨position, value⟩ } =
              Outcome.content { fired := some ⟨other, value⟩ } := rfl
          exact endure_content content fault after

theorem rest_ofRule (axisNames : Option (List String)) (rule : Rule) :
    (ofRule axisNames rule).rest = ofRule axisNames rule := by
  unfold ofRule
  cases rule.parse axisNames <;> rfl

theorem rule_ofRule (axisNames : Option (List String)) (rule : Rule) :
    (ofRule axisNames rule).rule = rule := by
  unfold ofRule
  cases rule.parse axisNames <;> rfl

end Binding

namespace Run

/-- A run on a table with room for all its rules, whose sources and sinks raise mild faults only: those that are
recoverable, and whose messages can be made. -/
structure Hosts (run : Run) (axisNames : Option (List String)) (rules : List Rule) (epsilon : Float)
    (count : Nat) : Prop where
  opens : ∃ limit, (rules.length : Int) ≤ limit ∧ run.Opens limit axisNames rules
  epsilon : run.matcher.resolver.epsilon = epsilon
  mildSource : ∀ tick < count, (run.moments tick).source.Within Fault.Mild
  mildSink : ∀ tick < count, (run.moments tick).sink.Within Fault.Mild

/-- Two runs whose ticks bring the same input, and whose sinks fail alike for a binding that stands at
an index in one of them and alone in the other. -/
structure Accompanies (whole alone : Run) (index count : Nat) : Prop where
  source : ∀ tick < count, (alone.moments tick).source = (whole.moments tick).source
  delta : ∀ tick < count, (alone.moments tick).delta = (whole.moments tick).delta
  fault : ∀ tick < count, ∀ value,
    ((alone.moments tick).sink ⟨0, value⟩).fault = ((whole.moments tick).sink ⟨index, value⟩).fault

variable {run whole alone : Run} {axisNames : Option (List String)} {rules : List Rule} {rule : Rule}
  {epsilon : Float} {count tick index : Nat} {binding : Binding}

theorem Hosts.calm (hosts : run.Hosts axisNames rules epsilon count) : run.Calm := by
  obtain ⟨_, _, opens⟩ := hosts.opens
  exact opens.toCalm

theorem Hosts.bindings (hosts : run.Hosts axisNames rules epsilon count) :
    run.matcher.table.bindings = rules.map (Binding.ofRule axisNames) := by
  obtain ⟨limit, fits, opens⟩ := hosts.opens
  have whole : rules.take limit.toNat = rules := List.take_of_length_le (by omega)
  rw [opens.table.2, whole]

theorem Hosts.turn (hosts : run.Hosts axisNames rules epsilon count) (bound : tick < count)
    (accepted : ¬ (run.moments tick).delta < 0.0) :
    ∃ report, run.Regular tick report ∧ ∀ index binding, run.binding? tick index = some binding →
      let played := binding.play index (run.moments tick).delta epsilon (run.moments tick).source
        (run.moments tick).sink
      run.binding? (tick + 1) index = some played.2 ∧ ∃ outcome, played.1 = .ok outcome ∧
        report.about index = (outcome.content.1.toList, outcome.content.2) := by
  have quiet := (hosts.calm.state tick).1
  have same : (run.state tick).1.resolver.epsilon = epsilon := (hosts.calm.epsilon tick).trans hosts.epsilon
  have ended := hosts.calm.endOf tick
  rw [if_neg accepted] at ended
  obtain ⟨report, returned⟩ := Matcher.matchAll_returns
    ⟨(run.moments tick).frame?.getD ((run.state tick).1.frame + 1), (run.moments tick).delta,
      (run.state tick).1.tracing, (run.moments tick).sink⟩
    (List.range (run.state tick).1.table.size) List.nodup_range
    ((run.state tick).1.started (run.moments tick).source _) quiet rfl
    fun _ _ binding _ => binding.play_mild (hosts.mildSource tick bound) (hosts.mildSink tick bound)
  have leaves := Matcher.matchAll_leaves
    ⟨(run.moments tick).frame?.getD ((run.state tick).1.frame + 1), (run.moments tick).delta,
      (run.state tick).1.tracing, (run.moments tick).sink⟩
    (List.range (run.state tick).1.table.size)
    ((run.state tick).1.started (run.moments tick).source
      ((run.moments tick).frame?.getD ((run.state tick).1.frame + 1))) (run.state tick).2 rfl
  have regular : run.Regular tick report := by
    refine ⟨?_, (leaves.2.2.2 report returned).1⟩
    simp only [result, ended, Matcher.performTurns]
    exact returned
  refine ⟨report, regular, ?_⟩
  intro index binding found
  obtain ⟨outcome, fired, faulted, settles⟩ := regular.turn found
  obtain ⟨played, later⟩ := settles (Or.inl quiet)
  rw [same] at played later
  refine ⟨later, outcome, played, ?_⟩
  have faultedEq : decide (index ∈ report.faulted) = outcome.faulted := by
    rw [Bool.eq_iff_iff, decide_eq_true_iff]
    exact faulted
  simp only [Report.about, Outcome.content, fired, faultedEq, Prod.mk.injEq, and_true]
  cases outcome.fired <;> rfl

theorem Hosts.refused (hosts : run.Hosts axisNames rules epsilon count)
    (refused : (run.moments tick).delta < 0.0) (index : Nat) :
    run.result tick = .error .negativeDelta ∧ run.binding? (tick + 1) index = run.binding? tick index := by
  have ended := hosts.calm.endOf tick
  rw [if_pos refused] at ended
  simp [result, binding?, state, ended]

theorem Accompanies.turn (accompanies : whole.Accompanies alone index count) (bound : tick < count)
    (epsilon : Float) (binding : Binding) :
    let played := binding.play index (whole.moments tick).delta epsilon (whole.moments tick).source
      (whole.moments tick).sink
    let playedAlone := binding.play 0 (alone.moments tick).delta epsilon (alone.moments tick).source
      (alone.moments tick).sink
    played.1.map Outcome.content = playedAlone.1.map Outcome.content ∧ played.2 = playedAlone.2 := by
  simp only [accompanies.source tick bound, accompanies.delta tick bound]
  exact binding.play_index (accompanies.fault tick bound)

def patientRule : Rule := { descriptor := "a, b", kind := .sequence, timeLimit := 1.0 }

def refusingSink : Sink := fun invocation =>
  if invocation.mapping = 0 then { fault := some (.foreign "ValueError" [.value] (.ok "no action")) } else {}

theorem refusingSink_mild : refusingSink.Within Fault.Mild := by
  intro invocation fault answered
  unfold refusingSink at answered
  split at answered
  · cases answered
    exact ⟨rfl, _, rfl⟩
  · cases answered

end Run

end InputBinding
