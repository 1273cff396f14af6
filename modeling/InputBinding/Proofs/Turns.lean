import InputBinding.Matcher
import InputBinding.Proofs.Effects

/-!
The turn of one binding in a tick as a plain function of the binding and of what the tick brings.
Everything that a turn can do is said here once: events and notices never matter unless a subscriber
fails, and nothing but the binding itself, the unknown names and the record of invocations changes.
-/

namespace InputBinding

namespace Binding

def moveOn (binding : Binding) : Except Fault Bool × Binding :=
  match binding.advance with
  | .error fault => (.error fault, binding)
  | .ok advanced => (.ok advanced.complete, if advanced.complete then advanced.rest else advanced)

def carryOut (index : Nat) (binding : Binding) : Verdict → Except Fault (Option Invocation) × Binding
  | .pass => (.ok none, binding)
  | .fire value => (.ok (some { mapping := index, value }), binding)
  | .advance =>
      (binding.moveOn.1.map fun completed => if completed then some { mapping := index } else none,
        binding.moveOn.2)
  | .abandon _ | .rewind => (.ok none, binding.rest)

def take (index : Nat) (delta epsilon : Float) (source : Source) (binding : Binding) :
    Except Fault (Option Invocation) × Binding :=
  match ((binding.spend delta).judge epsilon source).answer with
  | .error fault => (.error fault, binding.spend delta)
  | .ok verdict => (binding.spend delta).carryOut index verdict

/-- What a fault comes to: a recoverable one returns the binding to rest and is reported if there is a message
of it, any other stops the tick. -/
def endure (outcome : Outcome) (fault : Fault) (binding : Binding) : Except Fault Outcome × Binding :=
  if fault.recoverable then (fault.message.map fun _ => { outcome with faulted := true }, binding.rest)
  else (.error fault, binding)

def play (index : Nat) (delta epsilon : Float) (source : Source) (sink : Sink) (binding : Binding) :
    Except Fault Outcome × Binding :=
  if binding.inert then (.ok {}, binding)
  else
    match binding.take index delta epsilon source with
    | (.error fault, after) => after.endure {} fault
    | (.ok none, after) => (.ok {}, after)
    | (.ok (some invocation), after) =>
        match (sink invocation).fault with
        | none => (.ok { fired := some invocation }, after)
        | some fault => after.endure { fired := some invocation } fault

@[simp] theorem rest_rest (binding : Binding) : binding.rest.rest = binding.rest := rfl

@[simp] theorem rest_spend (delta : Float) (binding : Binding) :
    (binding.spend delta).rest = binding.rest := by
  unfold spend
  split <;> rfl

theorem spend_cursor (delta : Float) (binding : Binding) :
    (binding.spend delta).cursor = binding.cursor ∧ (binding.spend delta).matched = binding.matched ∧
      (binding.spend delta).expectedStep = binding.expectedStep := by
  unfold spend
  split <;> exact ⟨rfl, rfl, rfl⟩

theorem rest_advance {binding advanced : Binding} (moved : binding.advance = .ok advanced) :
    advanced.rest = binding.rest := by
  unfold advance at moved
  split at moved
  · cases moved
  · cases moved
    rfl

@[simp] theorem rest_moveOn (binding : Binding) : binding.moveOn.2.rest = binding.rest := by
  unfold moveOn
  cases moved : binding.advance with
  | error fault => rfl
  | ok advanced =>
      have same := rest_advance moved
      by_cases complete : advanced.complete = true
      · simpa [complete] using same
      · simpa [complete] using same

@[simp] theorem rest_carryOut (index : Nat) (binding : Binding) (verdict : Verdict) :
    (binding.carryOut index verdict).2.rest = binding.rest := by
  cases verdict with
  | pass | fire _ | abandon _ | rewind => rfl
  | advance => exact rest_moveOn binding

theorem carryOut_mapping {index : Nat} {binding : Binding} {verdict : Verdict} {invocation : Invocation}
    (fired : (binding.carryOut index verdict).1 = .ok (some invocation)) :
    invocation.mapping = index := by
  cases verdict with
  | pass | abandon _ | rewind => simp [carryOut] at fired
  | fire value =>
      simp only [carryOut, Except.ok.injEq, Option.some.injEq] at fired
      rw [← fired]
  | advance =>
      simp only [carryOut] at fired
      rcases moved : binding.moveOn.1 with fault | completed
      · rw [moved] at fired
        cases fired
      · rw [moved] at fired
        cases completed
        · cases fired
        · cases fired
          rfl

@[simp] theorem rest_take (index : Nat) (delta epsilon : Float) (source : Source) (binding : Binding) :
    (binding.take index delta epsilon source).2.rest = binding.rest := by
  unfold take
  split <;> simp

@[simp] theorem rest_endure (outcome : Outcome) (fault : Fault) (binding : Binding) :
    (binding.endure outcome fault).2.rest = binding.rest := by
  unfold endure
  split
  · rfl
  · rfl

theorem endure_eq_ok {before outcome : Outcome} {fault : Fault} {binding : Binding}
    (endured : (binding.endure before fault).1 = .ok outcome) : outcome = { before with faulted := true } := by
  unfold endure at endured
  split at endured
  · obtain ⟨_, _, same⟩ := map_eq_ok endured
    exact same.symm
  · cases endured

@[simp] theorem rest_play (index : Nat) (delta epsilon : Float) (source : Source) (sink : Sink) (binding : Binding) :
    (binding.play index delta epsilon source sink).2.rest = binding.rest := by
  have taken := rest_take index delta epsilon source binding
  unfold play
  split
  · rfl
  · generalize binding.take index delta epsilon source = ended at taken ⊢
    obtain ⟨fault | _ | invocation, after⟩ := ended
    · exact (rest_endure _ _ _).trans taken
    · exact taken
    · dsimp only
      split
      · exact taken
      · exact (rest_endure _ _ _).trans taken

theorem take_mapping {index : Nat} {delta epsilon : Float} {source : Source} {binding : Binding}
    {invocation : Invocation} (fired : (binding.take index delta epsilon source).1 = .ok (some invocation)) :
    invocation.mapping = index := by
  unfold take at fired
  split at fired
  · cases fired
  · exact carryOut_mapping fired

end Binding

namespace Turn

def outline (turn : Turn) : Turn :=
  ⟨turn.binding.rest, turn.resolver.outline⟩

theorem rest_follows :
    Journaled.Follows outline rest fun turn => (.ok (), { turn with binding := turn.binding.rest }) :=
  fun _ journal => Or.inl ⟨journal, rfl, id⟩

theorem abandon_follows (index : Nat) (tick : Int) (reason : Abandonment) :
    Journaled.Follows outline (abandon index tick reason) fun turn =>
      (.ok (), { turn with binding := turn.binding.rest }) := by
  apply Journaled.Follows.get
  intro turn
  exact ((Journaled.note_follows outline _).bind (fun _ => rfl) fun _ =>
    (Journaled.announce_follows outline _).bind (fun _ => rfl) fun _ => rest_follows) turn

theorem conclude_follows (index : Nat) (frame : Frame) (binding : Binding) :
    Journaled.Follows outline (conclude index frame binding) fun turn =>
      (.ok binding.complete,
        if binding.complete then { turn with binding := turn.binding.rest } else turn) := by
  unfold conclude
  by_cases complete : binding.complete = true
  · simp only [complete, if_true]
    exact (Journaled.note_follows outline _).bind (fun _ => rfl) fun _ =>
      (Journaled.announce_follows outline _).bind (fun _ => rfl) fun _ =>
        rest_follows.bind (fun _ => rfl) fun _ => Journaled.pure_follows outline true
  · simp only [complete]
    exact (Journaled.announce_follows outline _).bind (fun _ => rfl) fun _ =>
      Journaled.pure_follows outline false

theorem advance_follows (index : Nat) (frame : Frame) :
    Journaled.Follows outline (advance index frame) fun turn =>
      (turn.binding.moveOn.1, { turn with binding := turn.binding.moveOn.2 }) := by
  intro turn
  cases moved : turn.binding.advance with
  | error fault =>
      simp only [Binding.moveOn, moved]
      refine (Journaled.ofExcept_follows outline _ turn).start (fun journal => ?_) rfl
      simp [advance, moved, Journaled.perform_bind]
  | ok advanced =>
      have same : outline { turn with binding := advanced } = outline turn := by
        simp [outline, Binding.rest_advance moved]
      have noted : Journaled.Follows outline
          (if frame.tracing then Journaled.note (.sequenceProgress index advanced.cursor
            advanced.descriptor.steps.length advanced.matchedText) else pure ())
          fun turn => (.ok (), turn) := by
        split
        · exact Journaled.note_follows outline _
        · exact Journaled.pure_follows outline ()
      have ends := noted.bind (fun _ => rfl) fun _ => conclude_follows index frame advanced
      have moves : Journaled.EndsAs outline (advance index frame) turn _ :=
        (ends { turn with binding := advanced }).start (fun journal => by
          by_cases traced : frame.tracing = true <;>
            simp [advance, moved, traced, Journaled.perform_bind]) same
      by_cases complete : advanced.complete = true
      · simpa [Binding.moveOn, moved, complete] using moves
      · simpa [Binding.moveOn, moved, complete] using moves

theorem carryOut_follows (index : Nat) (frame : Frame) (verdict : Verdict) :
    Journaled.Follows outline (carryOut index frame verdict) fun turn =>
      ((turn.binding.carryOut index verdict).1,
        { turn with binding := (turn.binding.carryOut index verdict).2 }) := by
  cases verdict with
  | pass | fire value => exact Journaled.pure_follows outline _
  | rewind => exact rest_follows.bind (fun _ => rfl) fun _ => Journaled.pure_follows outline none
  | abandon reason =>
      exact (abandon_follows index frame.tick reason).bind (fun _ => rfl) fun _ =>
        Journaled.pure_follows outline none
  | advance =>
      intro turn
      have ends : Journaled.EndsAs outline (carryOut index frame .advance) turn _ :=
        (advance_follows index frame).bind (fun turn => by simp [outline])
          (fun completed => Journaled.pure_follows outline
            (if completed then some { mapping := index : Invocation } else none)) turn
      cases moved : turn.binding.moveOn.1 with
      | error fault => simpa [Binding.carryOut, moved, Except.map] using ends
      | ok completed => simpa [Binding.carryOut, moved, Except.map] using ends

theorem inquire_follows (inquiry : Float → Source → Inquiry α) :
    Journaled.Follows outline (inquire inquiry) fun turn =>
      match turn.resolver.source with
      | none => (.error .sourceMissing, turn)
      | some source =>
          ((inquiry turn.resolver.epsilon source).answer,
            { turn with resolver :=
                turn.resolver.learnAll (inquiry turn.resolver.epsilon source).consulted }) := by
  intro turn
  have keeps (resolver : Resolver) (same : resolver.outline = turn.resolver.outline) :
      outline { turn with resolver } = outline turn := by
    simp [outline, same]
  have ends : Journaled.EndsAs outline (inquire inquiry) turn _ :=
    (Resolver.ask_follows inquiry turn.resolver).focus _ _ keeps
  cases bound : turn.resolver.source with
  | none => simpa [bound] using ends
  | some source => simpa [bound] using ends

theorem take_follows (index : Nat) (frame : Frame) :
    Journaled.Follows outline (take index frame) fun turn =>
      let waiting := turn.binding.spend frame.delta
      match turn.resolver.source with
      | none => (.error .sourceMissing, { turn with binding := waiting })
      | some source =>
          ((turn.binding.take index frame.delta turn.resolver.epsilon source).1,
            { binding := (turn.binding.take index frame.delta turn.resolver.epsilon source).2
              resolver := turn.resolver.learnAll
                (waiting.judge turn.resolver.epsilon source).consulted }) := by
  intro turn
  have spent : outline { turn with binding := turn.binding.spend frame.delta } = outline turn := by
    simp [outline]
  have judged := (inquire_follows fun epsilon source =>
      (turn.binding.spend frame.delta).judge epsilon source).bind
    (fun turn => by cases bound : turn.resolver.source <;> simp [outline])
    (fun verdict => carryOut_follows index frame verdict)
  have ends : Journaled.EndsAs outline (take index frame) turn _ :=
    (judged { turn with binding := turn.binding.spend frame.delta }).start (fun _ => rfl) spent
  cases bound : turn.resolver.source with
  | none => simpa [bound] using ends
  | some source =>
      cases answered : ((turn.binding.spend frame.delta).judge turn.resolver.epsilon source).answer with
      | error fault => simpa [bound, answered, Binding.take] using ends
      | ok verdict => simpa [bound, answered, Binding.take] using ends

end Turn

namespace Matcher

def outline (index : Nat) (matcher : Matcher) : Matcher :=
  { matcher with
    table := { matcher.table with bindings := matcher.table.bindings.modify index Binding.rest }
    resolver := matcher.resolver.outline
    invocations := #[] }

theorem outline_put {matcher : Matcher} {index : Nat} {binding after : Binding} {resolver : Resolver}
    {invocations : Array Invocation} (found : matcher.table.bindings[index]? = some binding)
    (same : after.rest = binding.rest) (sameView : resolver.outline = matcher.resolver.outline) :
    outline index { matcher with table := matcher.table.put index after, resolver, invocations } =
      outline index matcher := by
  obtain ⟨bound, rfl⟩ := List.getElem?_eq_some_iff.mp found
  have bindings : (matcher.table.bindings.set index after).modify index Binding.rest =
      matcher.table.bindings.modify index Binding.rest := by
    apply List.ext_getElem?
    intro position
    by_cases here : index = position
    · subst here
      simp [bound, same]
    · simp [here]
  simp [outline, Table.put, bindings, sameView]

theorem contain_follows (index : Nat) (tick : Int) (fault : Fault) {matcher : Matcher}
    {binding : Binding}
    (found : matcher.table.bindings[index]? = some binding) :
    Journaled.EndsAs (outline index) (contain index tick fault) matcher
      (if fault.recoverable then
        (fault.message.map fun _ => (), { matcher with table := matcher.table.put index binding.rest })
        else (.error fault, matcher)) := by
  by_cases recoverable : fault.recoverable = true
  · have noted := Journaled.note_follows (outline index) (.bindingFault index binding.rule.descriptor)
    have reported := noted.bind (fun _ => rfl) fun _ =>
      (Journaled.ofExcept_follows (outline index) fault.message).bind (fun _ => rfl) fun message =>
        Journaled.announce_follows (outline index) (.fault tick index fault.name message)
    have ends : Journaled.EndsAs (outline index) (contain index tick fault) matcher _ :=
      (reported { matcher with table := matcher.table.put index binding.rest }).start
        (fun journal => by simp [contain, recoverable, found, Journaled.perform_bind])
        (outline_put found rfl rfl)
    cases told : fault.message with
    | error other => simpa [recoverable, told, Except.map] using ends
    | ok message => simpa [recoverable, told, Except.map] using ends
  · intro journal
    exact Or.inl ⟨journal, by simp [contain, recoverable], id⟩

theorem onTurn_endsAs (index : Nat) (frame : Frame) {source : Source} {binding : Binding}
    {matcher : Matcher} (bound : matcher.resolver.source = some source)
    (found : matcher.table.bindings[index]? = some binding) :
    Journaled.EndsAs (outline index) (onTurn index binding (Turn.take index frame)) matcher
      ((binding.take index frame.delta matcher.resolver.epsilon source).1, { matcher with
        table := matcher.table.put index (binding.take index frame.delta matcher.resolver.epsilon source).2
        resolver := matcher.resolver.learnAll
          ((binding.spend frame.delta).judge matcher.resolver.epsilon source).consulted }) := by
  have taken := Turn.take_follows index frame ⟨binding, matcher.resolver⟩
  simp only [bound] at taken
  refine Journaled.EndsAs.focus (fun matcher : Matcher => (⟨binding, matcher.resolver⟩ : Turn))
    (fun (turn : Turn) (matcher : Matcher) => { matcher with
      table := matcher.table.put index turn.binding
      resolver := turn.resolver }) taken fun turn same => ?_
  simp only [Turn.outline, Turn.mk.injEq] at same
  exact outline_put found same.1 same.2

theorem getElem?_outline {matcher left : Matcher} {index : Nat} {binding : Binding}
    (same : left.outline index = matcher.outline index)
    (found : matcher.table.bindings[index]? = some binding) :
    ∃ after, left.table.bindings[index]? = some after := by
  have bindings : left.table.bindings.modify index Binding.rest =
      matcher.table.bindings.modify index Binding.rest :=
    congrArg (fun matcher => matcher.table.bindings) same
  have lengths := congrArg List.length bindings
  simp only [List.length_modify] at lengths
  obtain ⟨inside, _⟩ := List.getElem?_eq_some_iff.mp found
  exact ⟨left.table.bindings[index], by simp [lengths, inside]⟩

def Settles (index : Nat) (frame : Frame) (source : Source) (epsilon : Float) (binding : Binding)
    (ended : Except Fault Outcome × Matcher) : Prop :=
  ended.1 = (binding.play index frame.delta epsilon source frame.sink).1 ∧
    ended.2.table.bindings[index]? = some (binding.play index frame.delta epsilon source frame.sink).2

theorem settles_of_play {index : Nat} {frame : Frame} {source : Source} {epsilon : Float}
    {binding after : Binding} {result : Except Fault Outcome} {matcher : Matcher}
    (played : binding.play index frame.delta epsilon source frame.sink = (result, after))
    (found : matcher.table.bindings[index]? = some after) :
    Settles index frame source epsilon binding (result, matcher) := by
  simp [Settles, played, found]

theorem perform_invoke (sink : Sink) (invocation : Invocation) (matcher : Matcher) (journal : Journal) :
    (invoke sink invocation).perform matcher journal =
      ((match (sink invocation).fault with
        | none => .ok ()
        | some fault => .error fault,
        { matcher with invocations := matcher.invocations.push invocation }),
        { journal with notices := journal.notices ++ (sink invocation).notices }) := by
  cases answered : (sink invocation).fault <;> simp [invoke, answered, Journaled.perform_bind]

/-- What the turn of a binding comes to in a matcher, whatever its subscribers do. -/
structure Turned (index : Nat) (frame : Frame) (source : Source) (binding : Binding) (matcher : Matcher)
    (journal : Journal) (ended : (Except Fault Outcome × Matcher) × Journal) : Prop where
  kept : ended.1.2.outline index = matcher.outline index
  quiet : journal.Quiet →
    ended.2.Quiet ∧ Settles index frame source matcher.resolver.epsilon binding ended.1
  mapping : ∀ outcome, ended.1.1 = .ok outcome → ∀ invocation ∈ outcome.fired, invocation.mapping = index
  undisturbed : ∀ outcome, ended.1.1 = .ok outcome → outcome.faulted = false →
    Settles index frame source matcher.resolver.epsilon binding ended.1

theorem returned_turned {index : Nat} {frame : Frame} {source : Source} {binding : Binding}
    {matcher middle : Matcher} {journal between : Journal} {outcome : Outcome}
    (kept : middle.outline index = matcher.outline index) (calm : journal.Quiet → between.Quiet)
    (settles : Settles index frame source matcher.resolver.epsilon binding (.ok outcome, middle))
    (mapping : ∀ invocation ∈ outcome.fired, invocation.mapping = index) :
    Turned index frame source binding matcher journal ((.ok outcome, middle), between) := by
  refine ⟨kept, fun quiet => ⟨calm quiet, settles⟩, ?_, fun _ _ _ => settles⟩
  rintro _ ⟨⟩
  exact mapping

theorem stopped_turned {index : Nat} {frame : Frame} {source : Source} {binding : Binding}
    {matcher middle : Matcher} {journal between : Journal} {fault : Fault}
    (kept : middle.outline index = matcher.outline index)
    (settles : journal.Quiet → between.Quiet ∧
      Settles index frame source matcher.resolver.epsilon binding (.error fault, middle)) :
    Turned index frame source binding matcher journal ((.error fault, middle), between) := by
  refine ⟨kept, settles, ?_, ?_⟩
  · intro _ impossible
    cases impossible
  · intro _ impossible
    cases impossible

theorem contain_turned {index : Nat} {frame : Frame} {source : Source} {binding after : Binding}
    {matcher middle : Matcher} {journal between : Journal} (outcome : Outcome) {fault : Fault}
    (kept : middle.outline index = matcher.outline index)
    (found : middle.table.bindings[index]? = some after)
    (calm : journal.Quiet → between.Quiet ∧
      binding.play index frame.delta matcher.resolver.epsilon source frame.sink = after.endure outcome fault)
    (mapping : ∀ invocation ∈ outcome.fired, invocation.mapping = index) :
    Turned index frame source binding matcher journal
      ((do contain index frame.tick fault; return { outcome with faulted := true } :
        Journaled Matcher Outcome).perform middle between) := by
  have inside := (List.getElem?_eq_some_iff.mp found).1
  simp only [Journaled.perform_bind]
  rcases contain_follows index frame.tick fault found between with
    ⟨closing, ended, stillCalm⟩ | ⟨loud, other, left, closing, ended, same⟩
  · by_cases recoverable : fault.recoverable = true
    · have keptRested : outline index { middle with table := middle.table.put index after.rest } =
          outline index matcher := by
        rw [← kept]
        exact outline_put found rfl rfl
      cases told : fault.message with
      | error other =>
          simp only [ended, recoverable, told, if_true, Except.map]
          apply stopped_turned keptRested
          intro quiet
          refine ⟨stillCalm (calm quiet).1, ?_⟩
          simp [Settles, (calm quiet).2, Binding.endure, recoverable, told, Except.map, Table.put, inside]
      | ok message =>
          simp only [ended, recoverable, told, if_true, Except.map, Journaled.perform_pure]
          -- A subscriber may have failed before, so only a quiet journal says that the turn has settled.
          refine ⟨keptRested, fun quiet => ⟨stillCalm (calm quiet).1, ?_⟩, ?_, ?_⟩
          · simp [Settles, (calm quiet).2, Binding.endure, recoverable, told, Except.map, Table.put, inside]
          · rintro _ ⟨⟩ invocation member
            exact mapping invocation member
          · rintro _ ⟨⟩ impossible
            cases impossible
    · simp only [ended, recoverable]
      apply stopped_turned kept
      intro quiet
      refine ⟨stillCalm (calm quiet).1, ?_⟩
      simp [Settles, (calm quiet).2, Binding.endure, recoverable, found]
  · simp only [ended]
    exact stopped_turned (same.trans kept) fun quiet => (loud (calm quiet).1).elim

theorem invoke_turned {index : Nat} {frame : Frame} {source : Source} {binding after : Binding}
    {matcher middle : Matcher} {journal between : Journal} {invocation : Invocation}
    (live : binding.inert = false)
    (taken : binding.take index frame.delta matcher.resolver.epsilon source = (.ok (some invocation), after))
    (kept : middle.outline index = matcher.outline index)
    (found : middle.table.bindings[index]? = some after) (calm : journal.Quiet → between.Quiet) :
    Turned index frame source binding matcher journal
      ((do
        match ← Journaled.attempt (invoke frame.sink invocation) with
        | .ok () => return { fired := some invocation }
        | .error fault =>
            contain index frame.tick fault
            return { fired := some invocation, faulted := true } :
        Journaled Matcher Outcome).perform middle between) := by
  have mapping : ∀ other ∈ some invocation, other.mapping = index := by
    rintro other ⟨⟩
    exact Binding.take_mapping (congrArg Prod.fst taken)
  simp only [Journaled.perform_bind, Journaled.perform_attempt, perform_invoke]
  cases answered : (frame.sink invocation).fault with
  | none =>
      have played : binding.play index frame.delta matcher.resolver.epsilon source frame.sink =
          (.ok { fired := some invocation }, after) := by
        simp [Binding.play, live, taken, answered]
      exact returned_turned kept calm (settles_of_play played found) mapping
  | some fault =>
      have played : binding.play index frame.delta matcher.resolver.epsilon source frame.sink =
          after.endure { fired := some invocation } fault := by
        simp [Binding.play, live, taken, answered]
      exact contain_turned { fired := some invocation } kept found (fun quiet => ⟨calm quiet, played⟩) mapping

theorem matchBinding_turned (index : Nat) (frame : Frame) {source : Source} {binding : Binding}
    {matcher : Matcher} (journal : Journal) (bound : matcher.resolver.source = some source)
    (found : matcher.table.bindings[index]? = some binding) (live : binding.inert = false) :
    Turned index frame source binding matcher journal
      ((matchBinding index binding frame).perform matcher journal) := by
  have inside := (List.getElem?_eq_some_iff.mp found).1
  have silent : ∀ invocation ∈ (none : Option Invocation), invocation.mapping = index := by
    intro _ impossible
    cases impossible
  simp only [matchBinding, Journaled.perform_bind, Journaled.perform_attempt]
  rcases onTurn_endsAs index frame bound found journal with
    ⟨between, ended, calm⟩ | ⟨loud, fault, left, between, ended, same⟩
  · have unchanged := Binding.rest_take index frame.delta matcher.resolver.epsilon source binding
    rcases taken : binding.take index frame.delta matcher.resolver.epsilon source with ⟨result, after⟩
    rw [taken] at ended unchanged
    have kept : outline index { matcher with
        table := matcher.table.put index after
        resolver := matcher.resolver.learnAll
          ((binding.spend frame.delta).judge matcher.resolver.epsilon source).consulted } =
        outline index matcher :=
      outline_put found unchanged (Resolver.outline_learnAll _ _)
    have foundAfter : (matcher.table.put index after).bindings[index]? = some after := by
      simp [Table.put, inside]
    simp only [ended]
    rcases result with fault | _ | invocation
    · have played : binding.play index frame.delta matcher.resolver.epsilon source frame.sink =
          after.endure {} fault := by
        simp [Binding.play, live, taken]
      exact contain_turned {} kept foundAfter (fun quiet => ⟨calm quiet, played⟩) silent
    · have played : binding.play index frame.delta matcher.resolver.epsilon source frame.sink =
          (.ok {}, after) := by
        simp [Binding.play, live, taken]
      exact returned_turned kept calm (settles_of_play played foundAfter) silent
    · exact invoke_turned live taken kept foundAfter calm
  · simp only [ended]
    obtain ⟨after, foundAfter⟩ := getElem?_outline same found
    exact contain_turned {} same foundAfter (fun quiet => (loud quiet).elim) silent

theorem matchAt_turned (index : Nat) (frame : Frame) {source : Source} {binding : Binding}
    {matcher : Matcher} (journal : Journal) (bound : matcher.resolver.source = some source)
    (found : matcher.table.bindings[index]? = some binding) :
    Turned index frame source binding matcher journal
      ((matchAt index frame).perform matcher journal) := by
  simp only [matchAt, Journaled.perform_bind, Journaled.perform_get, found]
  cases live : binding.inert with
  | false => exact matchBinding_turned index frame journal bound found live
  | true =>
      have settles : Settles index frame source matcher.resolver.epsilon binding (.ok {}, matcher) :=
        settles_of_play (by simp [Binding.play, live]) found
      apply returned_turned rfl id settles
      intro _ impossible
      cases impossible

end Matcher

end InputBinding
