import InputBinding.Proofs.Replay

/-!
The report of a tick is exact. A turn that comes to an end takes one of a few courses, and what the report,
the sink, the channel and the table show of it follows from its course.
-/

namespace InputBinding

namespace Event

def isFault (event : Event) : Bool :=
  event.name = "mapping.fault"

@[simp] theorem isFault_reset (tick mapping : Int) (reason : String) :
    (sequenceReset tick mapping reason).isFault = false := by
  simp [isFault, sequenceReset, sequence]

@[simp] theorem isFault_advanced (tick mapping : Int) (cursor : Nat) :
    (sequenceAdvanced tick mapping cursor).isFault = false := by
  simp [isFault, sequenceAdvanced, sequence]

@[simp] theorem isFault_completed (tick mapping : Int) (matched : String) :
    (sequenceCompleted tick mapping matched).isFault = false := by
  simp [isFault, sequenceCompleted, sequence]

end Event

namespace Binding

variable {index : Nat} {tick : Int} {delta epsilon : Float} {source : Source} {sink : Sink} {binding : Binding}
  {outcome : Outcome}

/-- The courses of the turns that do not stop the tick, each with its outcome. -/
inductive Course (index : Nat) (delta epsilon : Float) (source : Source) (sink : Sink) (binding : Binding) :
    Outcome → Prop
  | inert (inert : binding.inert = true) : Course index delta epsilon source sink binding {}
  | unjudged {fault : Fault} (live : binding.inert = false) (mild : fault.Mild)
      (failed : ((binding.spend delta).judge epsilon source).answer = .error fault) :
      Course index delta epsilon source sink binding { faulted := true }
  | waits (live : binding.inert = false) (taken : (binding.take index delta epsilon source).1 = .ok none) :
      Course index delta epsilon source sink binding {}
  | fires {invocation : Invocation} (live : binding.inert = false)
      (taken : (binding.take index delta epsilon source).1 = .ok (some invocation))
      (accepted : (sink invocation).fault = none) :
      Course index delta epsilon source sink binding { fired := some invocation }
  | refused {invocation : Invocation} {fault : Fault} (live : binding.inert = false)
      (mild : fault.Mild)
      (taken : (binding.take index delta epsilon source).1 = .ok (some invocation))
      (failed : (sink invocation).fault = some fault) :
      Course index delta epsilon source sink binding { fired := some invocation, faulted := true }

theorem take_unjudged {fault : Fault}
    (failed : ((binding.spend delta).judge epsilon source).answer = .error fault) :
    binding.take index delta epsilon source = (.error fault, binding.spend delta) := by
  simp only [take, failed]

namespace Course

theorem rested (course : Course index delta epsilon source sink binding outcome) (faulted : outcome.faulted = true) :
    (binding.play index delta epsilon source sink).2 = binding.rest := by
  have unchanged := rest_take index delta epsilon source binding
  cases course with
  | inert | waits | fires => cases faulted
  | unjudged live mild failed => simp [play, live, take_unjudged failed, endure_mild mild]
  | refused live mild taken failed =>
      rcases took : binding.take index delta epsilon source with ⟨result, after⟩
      rw [took] at taken unchanged
      cases taken
      simpa [play, live, took, failed, endure_mild mild] using unchanged

theorem mapping (course : Course index delta epsilon source sink binding outcome) :
    ∀ invocation ∈ outcome.fired, invocation.mapping = index := by
  cases course with
  | inert | unjudged | waits => simp
  | fires live taken accepted =>
      rintro _ ⟨⟩
      exact take_mapping taken
  | refused live mild taken failed =>
      rintro _ ⟨⟩
      exact take_mapping taken

theorem live (course : Course index delta epsilon source sink binding outcome)
    (told : outcome.fired.isSome = true ∨ outcome.faulted = true) : binding.inert = false := by
  cases course with
  | inert | waits => simp at told
  | unjudged live | fires live | refused live => exact live

end Course

theorem filter_takeEvents : (binding.takeEvents index tick delta epsilon source).filter Event.isFault = [] := by
  unfold takeEvents
  split
  · rfl
  · rename_i verdict _
    cases verdict with
    | pass | fire _ | rewind => rfl
    | abandon reason => simp [verdictEvents]
    | advance =>
        cases moved : (binding.spend delta).advance with
        | error fault => simp [verdictEvents, moved]
        | ok advanced => cases complete : advanced.complete <;> simp [verdictEvents, moved, complete]

theorem Course.faultEvents (course : Course index delta epsilon source sink binding outcome) :
    ((binding.playEvents index tick delta epsilon source sink).filter Event.isFault).map Event.mapping =
      if outcome.faulted then [some (index : Int)] else [] := by
  have one {fault : Fault} (mild : fault.Mild) :
      ((Binding.faultEvents index tick fault).filter Event.isFault).map Event.mapping = [some (index : Int)] := by
    obtain ⟨message, told⟩ := mild.hasMessage
    simp [Binding.faultEvents, mild.recoverable, told, Event.fault, Event.isFault]
  cases course with
  | inert inert => simp [playEvents, inert]
  | unjudged live mild failed =>
      simp [playEvents, live, filter_takeEvents, take_unjudged failed, one mild]
  | waits live taken => simp [playEvents, live, filter_takeEvents, taken]
  | fires live taken accepted => simp [playEvents, live, filter_takeEvents, taken, accepted]
  | refused live mild taken failed =>
      simp [playEvents, live, filter_takeEvents, taken, failed, one mild]

end Binding

namespace Journaled

theorem EndsQuietly.bind {action : Journaled σ α} {next : α → Journaled σ β} {state middle : σ} {value : α}
    {expected : Except Fault β × σ} (first : EndsQuietly action state (.ok value, middle))
    (second : EndsQuietly (next value) middle expected) : EndsQuietly (action >>= next) state expected := by
  intro journal quiet
  obtain ⟨between, ended, calm⟩ := first journal quiet
  obtain ⟨after, finished, stillCalm⟩ := second between calm
  exact ⟨after, by rw [perform_bind, ended]; exact finished, stillCalm⟩

theorem endsQuietly_pure (value : α) (state : σ) : EndsQuietly (pure value) state (.ok value, state) :=
  (pure_follows id value state).quietly

end Journaled

namespace Matcher

open Journaled

variable {frame : Frame} {source : Source} {matcher : Matcher} {outcomes : Nat → Outcome} {index : Nat}

theorem contain_endsQuietly (index : Nat) (tick : Int) {fault : Fault} (mild : fault.Mild)
    (outcome : Outcome) {binding : Binding} (found : matcher.table.bindings[index]? = some binding) :
    EndsQuietly (do contain index tick fault; return outcome) matcher
      (.ok outcome, { matcher with table := matcher.table.put index binding.rest }) := by
  obtain ⟨message, told⟩ := mild.hasMessage
  have contained := (contain_follows index tick fault found).quietly
  rw [if_pos mild.recoverable, told] at contained
  exact contained.bind (endsQuietly_pure _ _)

theorem matchBinding_asks {binding : Binding} {outcome : Outcome} (bound : matcher.resolver.source = some source)
    (found : matcher.table.bindings[index]? = some binding) (live : binding.inert = false)
    (course : binding.Course index frame.delta matcher.resolver.epsilon source frame.sink outcome) :
    ∃ after, EndsQuietly (matchBinding index binding frame) matcher (.ok outcome, after) ∧
      after.invocations.toList = matcher.invocations.toList ++ outcome.fired.toList := by
  have inside := (List.getElem?_eq_some_iff.mp found).1
  have ended := (onTurn_endsAs index frame bound found).quietly.attempt
  rcases took : binding.take index frame.delta matcher.resolver.epsilon source with ⟨result, after⟩
  have foundAfter : (matcher.table.put index after).bindings[index]? = some after := by
    simp [Table.put, inside]
  rw [took] at ended
  cases course with
  | inert inert => cases live.symm.trans inert
  | unjudged live mild failed =>
      cases (Binding.take_unjudged failed).symm.trans took
      exact ⟨_, ended.bind (contain_endsQuietly index frame.tick mild _ foundAfter), by simp⟩
  | waits live taken =>
      rw [took] at taken
      cases taken
      exact ⟨_, ended.bind (endsQuietly_pure _ _), by simp⟩
  | @fires invocation live taken accepted =>
      rw [took] at taken
      cases taken
      have invoked (stopped : Matcher) := (invoke_endsQuietly frame.sink invocation stopped).attempt
      simp only [accepted] at invoked
      exact ⟨_, ended.bind ((invoked _).bind (endsQuietly_pure _ _)), by simp⟩
  | @refused invocation fault live mild taken failed =>
      rw [took] at taken
      cases taken
      have invoked (stopped : Matcher) := (invoke_endsQuietly frame.sink invocation stopped).attempt
      simp only [failed] at invoked
      exact ⟨_, ended.bind ((invoked _).bind (contain_endsQuietly index frame.tick mild _ foundAfter)), by simp⟩

inductive TurnsOut (frame : Frame) (source : Source) (matcher : Matcher) (index : Nat) : Outcome → Prop
  | vacant (missing : matcher.table.bindings[index]? = none) : TurnsOut frame source matcher index {}
  | bound {binding : Binding} {outcome : Outcome} (found : matcher.table.bindings[index]? = some binding)
      (course : binding.Course index frame.delta matcher.resolver.epsilon source frame.sink outcome) :
      TurnsOut frame source matcher index outcome

theorem TurnsOut.mapping {outcome : Outcome} (turns : TurnsOut frame source matcher index outcome) :
    ∀ invocation ∈ outcome.fired, invocation.mapping = index := by
  cases turns with
  | vacant => simp
  | bound found course => exact course.mapping

theorem TurnsOut.later {left : Matcher} {outcome : Outcome} (turns : TurnsOut frame source matcher index outcome)
    (same : left.table.bindings[index]? = matcher.table.bindings[index]?)
    (sameEpsilon : left.resolver.epsilon = matcher.resolver.epsilon) :
    TurnsOut frame source left index outcome := by
  cases turns with
  | vacant missing => exact .vacant (same.trans missing)
  | bound found course => exact .bound (same.trans found) (sameEpsilon ▸ course)

theorem TurnsOut.asks {outcome : Outcome} (turns : TurnsOut frame source matcher index outcome)
    (bound : matcher.resolver.source = some source) :
    ∃ after, EndsQuietly (matchAt index frame) matcher (.ok outcome, after) ∧
      after.invocations.toList = matcher.invocations.toList ++ outcome.fired.toList := by
  have idle (silent : ∀ journal, (matchAt index frame).perform matcher journal = ((.ok {}, matcher), journal)) :
      EndsQuietly (matchAt index frame) matcher (.ok {}, matcher) :=
    fun journal quiet => ⟨journal, silent journal, quiet⟩
  cases turns with
  | vacant missing =>
      exact ⟨matcher, idle fun journal => by simp [matchAt, missing, perform_bind], by simp⟩
  | @bound binding _ found course =>
      cases live : binding.inert with
      | false =>
          obtain ⟨after, ended, same⟩ := matchBinding_asks bound found live course
          refine ⟨after, fun journal quiet => ?_, same⟩
          rw [perform_matchAt_live journal found live]
          exact ended journal quiet
      | true =>
          cases course with
          | inert => exact ⟨matcher, idle fun journal => by simp [matchAt, found, live, perform_bind], by simp⟩
          | unjudged alive | waits alive | fires alive | refused alive => cases live.symm.trans alive

theorem TurnsOut.emits {outcome : Outcome} (turns : TurnsOut frame source matcher index outcome)
    (bound : matcher.resolver.source = some source) :
    ∃ events, Emits (matchAt index frame) matcher events ∧
      (events.filter Event.isFault).map Event.mapping = if outcome.faulted then [some (index : Int)] else [] := by
  cases turns with
  | vacant missing => exact ⟨[], matchAt_emits_nothing index frame missing, rfl⟩
  | bound found course =>
      obtain ⟨news, unknown, emits⟩ := matchAt_emits index frame bound found
      have silent : news.filter Event.isFault = [] := by
        rw [List.filter_eq_nil_iff]
        intro event member
        simp [Event.isFault, (unknown event member).2]
      refine ⟨_, emits, ?_⟩
      rw [List.filter_append, silent, List.nil_append, course.faultEvents]

/-- What a report tells of a tick, from the matcher before it to the matcher after it, with the events that
were sent in between. -/
structure Exact (sink : Sink) (source : Source) (delta : Float) (before : Matcher) (report : Report)
    (after : Matcher) (events : List Event) : Prop where
  uncaptured : report.captured = false
  asked : after.invocations.toList = before.invocations.toList ++ report.fired
  firedInOrder : (report.fired.map Invocation.mapping).Pairwise (· < ·)
  faultedInOrder : report.faulted.Pairwise (· < ·)
  live : ∀ index, index ∈ report.fired.map Invocation.mapping ∨ index ∈ report.faulted →
    ∃ binding, before.table.bindings[index]? = some binding ∧ binding.inert = false
  refused : ∀ index, (index ∈ report.faulted ∧ index ∈ report.fired.map Invocation.mapping) ↔
    ∃ invocation ∈ report.fired, invocation.mapping = index ∧ (sink invocation).fault.isSome = true
  unjudged : ∀ index, (index ∈ report.faulted ∧ index ∉ report.fired.map Invocation.mapping) ↔
    ∃ binding, before.table.bindings[index]? = some binding ∧ binding.inert = false ∧
      ∃ fault, ((binding.spend delta).judge before.resolver.epsilon source).answer = .error fault
  announced : (events.filter Event.isFault).map Event.mapping =
    report.faulted.map fun index : Nat => some (index : Int)
  rested : ∀ index ∈ report.faulted, ∃ binding, after.table.bindings[index]? = some binding ∧
    binding.toProgress = { elapsed := 0.0, cursor := 0, matched := [] }

section Turns

variable {before after : Matcher} (turns : ∀ index, TurnsOut frame source before index (outcomes index))

include turns

end Turns

end Matcher

end InputBinding
