import InputBinding.Proofs.Ticks

/-!
Runs of ticks. A run may go on after a tick that failed.
-/

namespace InputBinding

structure Moment where
  source : Source
  delta : Float
  sink : Sink
  frame? : Option Int := none

/-- Where a run starts, and what its ticks are given one after another. -/
structure Run where
  matcher : Matcher
  journal : Journal := {}
  moments : Nat → Moment

theorem Table.found_of_rest {table later : Table} (same : later.rest = table.rest) {position : Nat} {binding : Binding}
    (found : table.bindings[position]? = some binding) :
    ∃ now, later.bindings[position]? = some now ∧ now.rest = binding.rest := by
  have bindings : (later.bindings.map Binding.rest)[position]? = (table.bindings.map Binding.rest)[position]? :=
    congrArg (fun table => table.bindings[position]?) same
  rw [List.getElem?_map, List.getElem?_map, found, Option.map_some, Option.map_eq_some_iff] at bindings
  exact bindings

namespace Matcher

def setup (matcher : Matcher) : Matcher :=
  { matcher.essence with frame := 0, resolver := { epsilon := matcher.resolver.epsilon } }

theorem setup_of_essence {left matcher : Matcher} (same : left.essence = matcher.essence) :
    left.setup = matcher.setup := by
  simp [setup, same, (view_of_essence same).1]

theorem setup_performTurns (sink : Sink) (source : Source) (delta : Float) (frame? : Option Int)
    (matcher : Matcher) (journal : Journal) :
    (performTurns sink source delta frame? matcher journal).1.2.setup = matcher.setup := by
  have leaves := matchAll_leaves ⟨frame?.getD (matcher.frame + 1), delta, matcher.tracing, sink⟩
    (List.range matcher.table.size)
    (matcher.started source (frame?.getD (matcher.frame + 1))) journal rfl
  exact (setup_of_essence leaves.1).trans rfl

end Matcher

namespace Run

def endOf (run : Run) (tick : Nat) (start : Matcher × Journal) : (Except Fault Report × Matcher) × Journal :=
  let moment := run.moments tick
  (Matcher.tick moment.sink moment.source moment.delta moment.frame?).perform start.1 start.2

def state (run : Run) : Nat → Matcher × Journal
  | 0 => (run.matcher, run.journal)
  | tick + 1 => ((run.endOf tick (run.state tick)).1.2, (run.endOf tick (run.state tick)).2)

def result (run : Run) (tick : Nat) : Except Fault Report :=
  (run.endOf tick (run.state tick)).1.1

def binding? (run : Run) (tick index : Nat) : Option Binding :=
  (run.state tick).1.table.bindings[index]?

def Regular (run : Run) (tick : Nat) (report : Report) : Prop :=
  run.result tick = .ok report ∧ report.captured = false

theorem Regular.state_succ {run : Run} {tick : Nat} {report : Report}
    (regular : run.Regular tick report) :
    run.endOf tick (run.state tick) =
      Matcher.performTurns (run.moments tick).sink (run.moments tick).source (run.moments tick).delta
        (run.moments tick).frame? (run.state tick).1 (run.state tick).2 :=
  Matcher.perform_tick_returned regular.1 regular.2

theorem setup_state {run : Run} {count : Nat}
    (regular : ∀ tick < count, ∃ report, run.Regular tick report) :
    (run.state count).1.setup = run.matcher.setup := by
  induction count with
  | zero => rfl
  | succ tick ih =>
      obtain ⟨report, returned⟩ := regular tick (by omega)
      have earlier := ih fun other bound => regular other (by omega)
      have step : (run.state (tick + 1)).1.setup = (run.state tick).1.setup := by
        simp only [state, returned.state_succ]
        exact Matcher.setup_performTurns _ _ _ _ _ _
      exact step.trans earlier

/-- A run without a capture and without subscribers that fail. -/
structure Calm (run : Run) : Prop where
  uncaptured : run.matcher.capture = none
  quiet : run.journal.Quiet

theorem endOf_uncaptured {run : Run} {tick : Nat} (uncaptured : (run.state tick).1.capture = none) :
    run.endOf tick (run.state tick) =
      if (run.moments tick).delta < 0.0 then
        ((.error .negativeDelta, (run.state tick).1), (run.state tick).2)
      else
        Matcher.performTurns (run.moments tick).sink (run.moments tick).source (run.moments tick).delta
          (run.moments tick).frame? (run.state tick).1 (run.state tick).2 := by
  by_cases refused : (run.moments tick).delta < 0.0
  · rw [if_pos refused]
    exact Matcher.perform_tick_refused refused
  · rw [if_neg refused]
    exact Matcher.perform_tick_uncaptured refused (by simp [uncaptured])

theorem Calm.state {run : Run} (calm : run.Calm) (tick : Nat) :
    (run.state tick).2.Quiet ∧ (run.state tick).1.setup = run.matcher.setup := by
  induction tick with
  | zero => exact ⟨calm.quiet, rfl⟩
  | succ tick ih =>
      obtain ⟨quiet, same⟩ := ih
      have capture : (run.state tick).1.capture = run.matcher.capture :=
        (congrArg Matcher.capture same :)
      simp only [Run.state, endOf_uncaptured (capture.trans calm.uncaptured)]
      split
      · exact ⟨quiet, same⟩
      · refine ⟨?_, (Matcher.setup_performTurns _ _ _ _ _ _).trans same⟩
        exact (Matcher.matchAll_leaves _ _ _ _ rfl).2.1 quiet

theorem Calm.endOf {run : Run} (calm : run.Calm) (tick : Nat) :
    run.endOf tick (run.state tick) =
      if (run.moments tick).delta < 0.0 then
        ((.error .negativeDelta, (run.state tick).1), (run.state tick).2)
      else
        Matcher.performTurns (run.moments tick).sink (run.moments tick).source (run.moments tick).delta
          (run.moments tick).frame? (run.state tick).1 (run.state tick).2 := by
  have capture : (run.state tick).1.capture = run.matcher.capture :=
    (congrArg Matcher.capture (calm.state tick).2 :)
  exact endOf_uncaptured (capture.trans calm.uncaptured)

theorem Calm.epsilon {run : Run} (calm : run.Calm) (tick : Nat) :
    (run.state tick).1.resolver.epsilon = run.matcher.resolver.epsilon :=
  (congrArg (fun matcher => matcher.resolver.epsilon) (calm.state tick).2 :)

theorem Regular.turn {run : Run} {tick index : Nat} {report : Report} {binding : Binding}
    (regular : run.Regular tick report) (found : run.binding? tick index = some binding) :
    ∃ outcome : Outcome,
      (report.fired.filter fun invocation => invocation.mapping = index) = outcome.fired.toList ∧
      (index ∈ report.faulted ↔ outcome.faulted = true) ∧
      ((run.state tick).2.Quiet ∨ outcome.faulted = false →
        let played := binding.play index (run.moments tick).delta (run.state tick).1.resolver.epsilon
          (run.moments tick).source (run.moments tick).sink
        played.1 = .ok outcome ∧ run.binding? (tick + 1) index = some played.2) := by
  have inside : index < (run.state tick).1.table.bindings.length := (List.getElem?_eq_some_iff.mp found).1
  have returned := regular.1
  simp only [result, regular.state_succ, Matcher.performTurns] at returned
  have foundStarted : ((run.state tick).1.started (run.moments tick).source
      ((run.moments tick).frame?.getD ((run.state tick).1.frame + 1))).table.bindings[index]? = some binding := found
  obtain ⟨outcome, fired, faulted, settles⟩ := Matcher.matchAll_turn _ _ List.nodup_range
    (List.mem_range.mpr inside) _ _ rfl foundStarted returned
  refine ⟨outcome, fired, faulted, ?_⟩
  intro settled
  have settled := settles settled
  refine ⟨settled.1.symm, ?_⟩
  simp only [binding?, state, regular.state_succ]
  exact settled.2

end Run

end InputBinding
