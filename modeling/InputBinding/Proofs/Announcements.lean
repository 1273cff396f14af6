import InputBinding.Proofs.Ticks
import InputBinding.Proofs.Keeping

/-!
The events that actions send to a channel as long as no subscriber fails. A turn sends the news of names
that have gone missing, and then events that name its mapping; these are a plain function of the binding,
as its outcome is.
-/

namespace InputBinding

namespace Channel

def send (channel : Channel) (event : Event) : Channel :=
  (channel.emit event).2

def sendAll (events : List Event) (channel : Channel) : Channel :=
  events.foldl send channel

@[simp] theorem sendAll_nil (channel : Channel) : channel.sendAll [] = channel := rfl

theorem sendAll_append (earlier later : List Event) (channel : Channel) :
    channel.sendAll (earlier ++ later) = (channel.sendAll earlier).sendAll later :=
  List.foldl_append

end Channel

namespace Event

@[simp] theorem normalised_fault (tick mapping : Int) (name message : String) :
    (fault tick mapping name message).normalised = fault tick mapping name message := by
  have same : Channel.normalise "mapping" = "mapping" := by decide
  rw [fault, normalised, same]

@[simp] theorem normalised_sequence (tick mapping : Int) (name : String) (value : Json) :
    (sequence tick mapping name value).normalised = sequence tick mapping name value := by
  have same : Channel.normalise "sequence" = "sequence" := by decide
  rw [sequence, normalised, same]

@[simp] theorem normalised_unknownIdentifier (tick : Int) (kind name : String) :
    (unknownIdentifier tick kind name).normalised = unknownIdentifier tick kind name := by
  have same : Channel.normalise "mapping" = "mapping" := by decide
  rw [unknownIdentifier, normalised, same]

def about (index : Nat) (event : Event) : Bool :=
  event.mapping == some (index : Int)

end Event

namespace Journaled

/-- Without subscribers that fail, an action ends as expected. -/
def EndsQuietly (action : Journaled σ α) (state : σ) (expected : Except Fault α × σ) : Prop :=
  ∀ journal, journal.Quiet → ∃ after, action.perform state journal = (expected, after) ∧ after.Quiet

theorem EndsAs.quietly {kept : σ → τ} {action : Journaled σ α} {state : σ} {expected : Except Fault α × σ}
    (ends : EndsAs kept action state expected) : EndsQuietly action state expected := by
  intro journal quiet
  obtain ⟨after, calm, ended⟩ := ends.quiet quiet
  exact ⟨after, ended, calm⟩

theorem EndsQuietly.attempt {action : Journaled σ α} {state : σ} {expected : Except Fault α × σ}
    (ends : EndsQuietly action state expected) :
    EndsQuietly (Journaled.attempt action) state (.ok expected.1, expected.2) := by
  intro journal quiet
  obtain ⟨after, ended, calm⟩ := ends journal quiet
  exact ⟨after, by rw [perform_attempt, ended], calm⟩

/-- Without subscribers that fail, an action sends just these events to the channel. -/
def Emits (action : Journaled σ α) (state : σ) (events : List Event) : Prop :=
  ∀ journal, journal.Quiet →
    (action.perform state journal).2.channel = journal.channel.map (Channel.sendAll events)

/-- Without subscribers that fail, an action sends some events to the channel; those of them that name a
mapping are as told. -/
def Tells (action : Journaled σ α) (state : σ) (told : List Event) : Prop :=
  ∀ journal, journal.Quiet → ∃ events,
    (action.perform state journal).2.channel = journal.channel.map (Channel.sendAll events) ∧
      (events.filter fun event => event.mapping.isSome) = told

variable {action : Journaled σ α} {next : α → Journaled σ β} {state middle : σ} {events later : List Event}

@[simp] theorem sendAll_nothing (channel : Option Channel) : channel.map (Channel.sendAll []) = channel := by
  cases channel <;> rfl

theorem emits_nothing (silent : ∀ journal, (action.perform state journal).2.channel = journal.channel) :
    Emits action state [] := by
  intro journal _
  rw [silent, sendAll_nothing]

theorem channel_announce (event : Event) (state : σ) (journal : Journal) :
    ((announce event).perform state journal).2.channel =
      journal.channel.map (Channel.sendAll [event.normalised]) := by
  rcases journal with ⟨_ | channel, notices⟩
  · rfl
  · simp only [announce, perform_ofPerform]
    rfl

theorem emits_announce (event : Event) (state : σ) : Emits (announce event) state [event.normalised] :=
  fun journal _ => channel_announce event state journal

theorem Emits.start {other : Journaled σ α} {first : σ} (emits : Emits other first events)
    (same : ∀ journal, action.perform state journal = other.perform first journal) :
    Emits action state events := by
  intro journal quiet
  rw [same journal]
  exact emits journal quiet

theorem sendAll_map (earlier later : List Event) (channel : Option Channel) :
    (channel.map (Channel.sendAll earlier)).map (Channel.sendAll later) =
      channel.map (Channel.sendAll (earlier ++ later)) := by
  rw [Option.map_map]
  congr 1
  funext channel
  exact (Channel.sendAll_append earlier later channel).symm

theorem Emits.bind {value : α} (first : Emits action state events)
    (ends : EndsQuietly action state (.ok value, middle)) (second : Emits (next value) middle later) :
    Emits (action >>= next) state (events ++ later) := by
  intro journal quiet
  have sent := first journal quiet
  obtain ⟨between, ended, calm⟩ := ends journal quiet
  have sentLater := second between calm
  simp only [ended] at sent
  simp only [perform_bind, ended, sentLater, sent, sendAll_map]

theorem Emits.stop {fault : Fault} (first : Emits action state events)
    (ends : EndsQuietly action state (.error fault, middle)) : Emits (action >>= next) state events := by
  intro journal quiet
  have sent := first journal quiet
  obtain ⟨between, ended, _⟩ := ends journal quiet
  rw [ended] at sent
  rw [perform_bind, ended]
  exact sent

theorem Emits.giving (emits : Emits action state events) (change : α → β) :
    Emits (action >>= fun value => pure (change value)) state events := by
  intro journal quiet
  rw [← emits journal quiet, perform_bind]
  rcases action.perform state journal with ⟨⟨fault | value, after⟩, closing⟩ <;> rfl

theorem Emits.note {next : Journaled σ β} (notice : Notice) (emits : Emits next state events) :
    Emits (do Journaled.note notice; next) state events :=
  Emits.bind (emits_nothing fun _ => rfl) (note_follows id notice state).quietly emits

theorem Emits.announce {next : Journaled σ β} (event : Event) (emits : Emits next state events) :
    Emits (do Journaled.announce event; next) state (event.normalised :: events) :=
  Emits.bind (emits_announce event state) (announce_follows id event state).quietly emits

theorem Emits.focus (view : σ → τ) (update : τ → σ → σ) {inner : Journaled τ α}
    (emits : Emits inner (view state) events) : Emits (Journaled.focus view update inner) state events :=
  fun journal quiet => emits journal quiet

theorem Emits.attempt (emits : Emits action state events) : Emits (Journaled.attempt action) state events :=
  fun journal quiet => emits journal quiet

end Journaled

open Journaled

namespace Resolver

def news (resolver : Resolver) (consultation : Consultation) : List Event :=
  if consultation.found || resolver.unknown.contains consultation.marker then []
  else [.unknownIdentifier resolver.tick consultation.marker.lookup.label consultation.marker.name]

def newsAll : List Consultation → Resolver → List Event
  | [], _ => []
  | consultation :: rest, resolver => resolver.news consultation ++ newsAll rest (resolver.learn consultation)

theorem newsAll_unknown (consultations : List Consultation) (resolver : Resolver) :
    ∀ event ∈ resolver.newsAll consultations, event.mapping = none ∧ event.name = "mapping.unknown_identifier" := by
  induction consultations generalizing resolver with
  | nil => simp [newsAll]
  | cons consultation rest ih =>
      intro event member
      rcases List.mem_append.mp member with here | later
      · unfold news at here
        split at here
        · cases here
        · cases List.mem_singleton.mp here
          exact ⟨rfl, rfl⟩
      · exact ih _ event later

theorem report_leaves (consultation : Consultation) (resolver : Resolver) (journal : Journal) :
    let ended := (report consultation).perform resolver journal
    ended.1.2 = resolver.learn consultation ∧
      ended.2.channel = journal.channel.map (Channel.sendAll (resolver.news consultation)) := by
  cases found : consultation.found with
  | true =>
      have silent : resolver.news consultation = [] := by simp [news, found]
      rw [silent, sendAll_nothing]
      by_cases missing : consultation.marker ∈ resolver.unknown
      · simp [report, learn, found, missing, perform_bind]
      · simp [report, learn_known found missing, found, missing, perform_bind]
  | false =>
      by_cases missing : consultation.marker ∈ resolver.unknown
      · simp [report, learn, news, found, missing, perform_bind]
      · have told : resolver.news consultation = [.unknownIdentifier resolver.tick
            consultation.marker.lookup.label consultation.marker.name] := by
          simp [news, found, missing]
        rw [told]
        simp [report, learn, found, missing, perform_bind, state_announce, channel_announce]

theorem report_emits (consultation : Consultation) (resolver : Resolver) :
    Emits (report consultation) resolver (resolver.news consultation) :=
  fun journal _ => (report_leaves consultation resolver journal).2

theorem reportAll_emits (consultations : List Consultation) (resolver : Resolver) :
    Emits (reportAll consultations) resolver (resolver.newsAll consultations) := by
  induction consultations generalizing resolver with
  | nil => exact emits_nothing fun _ => rfl
  | cons consultation rest ih =>
      exact (report_emits consultation resolver).bind (report_follows consultation resolver).quietly (ih _)

theorem ask_emits (inquire : Float → Source → Inquiry α) {resolver : Resolver} {source : Source}
    (bound : resolver.source = some source) :
    Emits (ask inquire) resolver (resolver.newsAll (inquire resolver.epsilon source).consulted) := by
  have reported : Emits
      (do
        reportAll (inquire resolver.epsilon source).consulted
        Journaled.ofExcept (inquire resolver.epsilon source).answer) resolver
      (resolver.newsAll (inquire resolver.epsilon source).consulted ++ []) :=
    (reportAll_emits _ resolver).bind (reportAll_follows _ resolver).quietly (emits_nothing fun _ => rfl)
  rw [List.append_nil] at reported
  apply reported.start
  intro journal
  simp [ask, bound, perform_bind]

end Resolver

namespace Binding

def verdictEvents (index : Nat) (tick : Int) (binding : Binding) : Verdict → List Event
  | .pass | .fire _ | .rewind => []
  | .abandon reason => [.sequenceReset tick index reason.label]
  | .advance =>
      match binding.advance with
      | .error _ => []
      | .ok advanced =>
          if advanced.complete then [.sequenceCompleted tick index advanced.matchedText]
          else [.sequenceAdvanced tick index advanced.cursor]

def takeEvents (index : Nat) (tick : Int) (delta epsilon : Float) (source : Source) (binding : Binding) : List Event :=
  match ((binding.spend delta).judge epsilon source).answer with
  | .error _ => []
  | .ok verdict => (binding.spend delta).verdictEvents index tick verdict

def faultEvents (index : Nat) (tick : Int) (fault : Fault) : List Event :=
  match fault.message with
  | .ok message => if fault.recoverable then [.fault tick index fault.name message] else []
  | .error _ => []

def playEvents (index : Nat) (tick : Int) (delta epsilon : Float) (source : Source) (sink : Sink)
    (binding : Binding) : List Event :=
  if binding.inert then []
  else binding.takeEvents index tick delta epsilon source ++
    match (binding.take index delta epsilon source).1 with
    | .error fault => faultEvents index tick fault
    | .ok none => []
    | .ok (some invocation) =>
        match (sink invocation).fault with
        | none => []
        | some fault => faultEvents index tick fault

end Binding

namespace Turn

theorem abandon_emits (index : Nat) (tick : Int) (reason : Abandonment) (turn : Turn) :
    Emits (abandon index tick reason) turn [.sequenceReset tick index reason.label] := by
  have silent : Emits rest turn [] := emits_nothing fun _ => rfl
  have announced := silent.announce (.sequenceReset tick index reason.label)
  rw [Event.sequenceReset, Event.normalised_sequence] at announced
  have noted := announced.note (.sequenceReset index reason.label turn.binding.cursor turn.binding.elapsed)
  exact noted.start fun _ => rfl

theorem conclude_emits (index : Nat) (frame : Frame) (binding : Binding) (turn : Turn) :
    Emits (conclude index frame binding) turn
      (if binding.complete then [.sequenceCompleted frame.tick index binding.matchedText]
        else [.sequenceAdvanced frame.tick index binding.cursor]) := by
  unfold conclude
  cases complete : binding.complete with
  | false =>
      simp only [Bool.false_eq_true, if_false]
      have silent : Emits (pure false) turn [] := emits_nothing fun _ => rfl
      have announced := silent.announce (.sequenceAdvanced frame.tick index binding.cursor)
      rwa [Event.sequenceAdvanced, Event.normalised_sequence] at announced
  | true =>
      simp only [if_true]
      have silent : Emits (do rest; return true) turn [] := emits_nothing fun _ => rfl
      have announced := silent.announce (.sequenceCompleted frame.tick index binding.matchedText)
      rw [Event.sequenceCompleted, Event.normalised_sequence] at announced
      exact announced.note _

theorem advance_emits (index : Nat) (frame : Frame) (turn : Turn) :
    Emits (advance index frame) turn (turn.binding.verdictEvents index frame.tick .advance) := by
  cases moved : turn.binding.advance with
  | error fault =>
      simp only [Binding.verdictEvents, moved]
      apply emits_nothing
      intro journal
      simp [advance, moved, Journaled.perform_bind]
  | ok advanced =>
      simp only [Binding.verdictEvents, moved]
      have concluded := conclude_emits index frame advanced { turn with binding := advanced }
      by_cases traced : frame.tracing = true
      · apply (concluded.note (.sequenceProgress index advanced.cursor advanced.descriptor.steps.length
          advanced.matchedText)).start
        intro journal
        simp [advance, moved, traced, Journaled.perform_bind]
      · apply concluded.start
        intro journal
        simp [advance, moved, traced, Journaled.perform_bind]

theorem carryOut_emits (index : Nat) (frame : Frame) (verdict : Verdict) (turn : Turn) :
    Emits (carryOut index frame verdict) turn (turn.binding.verdictEvents index frame.tick verdict) := by
  cases verdict with
  | pass | fire _ | rewind => exact emits_nothing fun _ => rfl
  | abandon reason => exact (abandon_emits index frame.tick reason turn).giving fun _ => none
  | advance =>
      exact (advance_emits index frame turn).giving fun completed =>
        if completed then some ({ mapping := index } : Invocation) else none

theorem inquire_emits (inquiry : Float → Source → Inquiry α) {turn : Turn} {source : Source}
    (bound : turn.resolver.source = some source) :
    Emits (inquire inquiry) turn (turn.resolver.newsAll (inquiry turn.resolver.epsilon source).consulted) :=
  (Resolver.ask_emits inquiry bound).focus Turn.resolver fun resolver turn => { turn with resolver }

theorem take_emits (index : Nat) (frame : Frame) {turn : Turn} {source : Source}
    (bound : turn.resolver.source = some source) :
    Emits (take index frame) turn
      (turn.resolver.newsAll ((turn.binding.spend frame.delta).judge turn.resolver.epsilon source).consulted ++
        turn.binding.takeEvents index frame.tick frame.delta turn.resolver.epsilon source) := by
  have spent : (⟨turn.binding.spend frame.delta, turn.resolver⟩ : Turn).resolver.source = some source := bound
  have asked := inquire_emits (fun epsilon source => (turn.binding.spend frame.delta).judge epsilon source) spent
  have ended := (inquire_follows (fun epsilon source => (turn.binding.spend frame.delta).judge epsilon source)
    { turn with binding := turn.binding.spend frame.delta }).quietly
  simp only [bound] at ended
  have judged : Emits (do
      carryOut index frame
        (← inquire fun epsilon source => (turn.binding.spend frame.delta).judge epsilon source))
      { turn with binding := turn.binding.spend frame.delta }
      (turn.resolver.newsAll ((turn.binding.spend frame.delta).judge turn.resolver.epsilon source).consulted ++
        turn.binding.takeEvents index frame.tick frame.delta turn.resolver.epsilon source) := by
    unfold Binding.takeEvents
    cases answered : ((turn.binding.spend frame.delta).judge turn.resolver.epsilon source).answer with
    | error fault =>
        rw [answered] at ended
        simp only [List.append_nil]
        exact asked.stop ended
    | ok verdict =>
        rw [answered] at ended
        exact asked.bind ended (carryOut_emits index frame verdict _)
  exact judged.start fun _ => rfl

end Turn

namespace Matcher

theorem contain_emits (index : Nat) (tick : Int) (fault : Fault) {matcher : Matcher} {binding : Binding}
    (found : matcher.table.bindings[index]? = some binding) :
    Emits (contain index tick fault) matcher (Binding.faultEvents index tick fault) := by
  unfold Binding.faultEvents
  by_cases recoverable : fault.recoverable = true
  · cases told : fault.message with
    | error other =>
        apply emits_nothing
        intro journal
        simp [contain, recoverable, found, told, Journaled.perform_bind]
    | ok message =>
        simp only [recoverable, if_true]
        have announced := emits_announce (.fault tick index fault.name message)
          { matcher with table := matcher.table.put index binding.rest }
        rw [Event.normalised_fault] at announced
        apply (announced.note (.bindingFault index binding.rule.descriptor)).start
        intro journal
        simp [contain, recoverable, found, told, Journaled.perform_bind]
  · simp only [recoverable]
    have silent : Emits (contain index tick fault) matcher [] := by
      apply emits_nothing
      intro journal
      simp [contain, recoverable]
    cases fault.message <;> exact silent

theorem invoke_endsQuietly (sink : Sink) (invocation : Invocation) (matcher : Matcher) :
    EndsQuietly (invoke sink invocation) matcher
      (match (sink invocation).fault with
        | none => .ok ()
        | some fault => .error fault,
        { matcher with invocations := matcher.invocations.push invocation }) := by
  intro journal quiet
  exact ⟨_, perform_invoke sink invocation matcher journal, quiet⟩

theorem invoke_emits (sink : Sink) (invocation : Invocation) (matcher : Matcher) :
    Emits (invoke sink invocation) matcher [] := by
  apply emits_nothing
  intro journal
  rw [perform_invoke]

theorem onTurn_emits (index : Nat) (frame : Frame) {source : Source} (binding : Binding) {matcher : Matcher}
    (bound : matcher.resolver.source = some source) :
    Emits (onTurn index binding (Turn.take index frame)) matcher
      (matcher.resolver.newsAll ((binding.spend frame.delta).judge matcher.resolver.epsilon source).consulted ++
        binding.takeEvents index frame.tick frame.delta matcher.resolver.epsilon source) := by
  have bound : (⟨binding, matcher.resolver⟩ : Turn).resolver.source = some source := bound
  exact (Turn.take_emits index frame bound).focus (fun matcher : Matcher => (⟨binding, matcher.resolver⟩ : Turn))
    fun turn matcher => { matcher with
      table := matcher.table.put index turn.binding
      resolver := turn.resolver }

theorem matchBinding_emits (index : Nat) (frame : Frame) {source : Source} {binding : Binding}
    {matcher : Matcher} (bound : matcher.resolver.source = some source)
    (found : matcher.table.bindings[index]? = some binding) (live : binding.inert = false) :
    Emits (matchBinding index binding frame) matcher
      (matcher.resolver.newsAll ((binding.spend frame.delta).judge matcher.resolver.epsilon source).consulted ++
        binding.playEvents index frame.tick frame.delta matcher.resolver.epsilon source frame.sink) := by
  have inside := (List.getElem?_eq_some_iff.mp found).1
  have contained (outcome : Outcome) (fault : Fault) {stopped : Matcher} {after : Binding}
      (found : stopped.table.bindings[index]? = some after) :
      Emits (do contain index frame.tick fault; return outcome) stopped
        (Binding.faultEvents index frame.tick fault) :=
    (contain_emits index frame.tick fault found).giving fun _ => outcome
  have taken := (onTurn_emits index frame binding bound).attempt
  have ended := (onTurn_endsAs index frame bound found).quietly.attempt
  simp only [Binding.playEvents, live, Bool.false_eq_true, if_false]
  rw [← List.append_assoc]
  apply taken.bind ended
  generalize binding.take index frame.delta matcher.resolver.epsilon source = outcome
  have foundAfter : (matcher.table.put index outcome.2).bindings[index]? = some outcome.2 := by
    simp [Table.put, inside]
  obtain ⟨fault | _ | invocation, after⟩ := outcome
  · exact contained { faulted := true } fault foundAfter
  · exact emits_nothing fun _ => rfl
  · dsimp only
    have invoked := (invoke_emits frame.sink invocation { matcher with
      table := matcher.table.put index after
      resolver := matcher.resolver.learnAll
        ((binding.spend frame.delta).judge matcher.resolver.epsilon source).consulted }).attempt
    apply invoked.bind (invoke_endsQuietly _ _ _).attempt
    cases answered : (frame.sink invocation).fault with
    | none => exact emits_nothing fun _ => rfl
    | some fault =>
        exact contained { fired := some invocation, faulted := true } fault foundAfter

theorem matchAt_emits (index : Nat) (frame : Frame) {source : Source} {binding : Binding}
    {matcher : Matcher} (bound : matcher.resolver.source = some source)
    (found : matcher.table.bindings[index]? = some binding) :
    ∃ news, (∀ event ∈ news, event.mapping = none ∧ event.name = "mapping.unknown_identifier") ∧
      Emits (matchAt index frame) matcher
        (news ++ binding.playEvents index frame.tick frame.delta matcher.resolver.epsilon source frame.sink) := by
  cases live : binding.inert with
  | true =>
      refine ⟨[], by simp, ?_⟩
      simp only [Binding.playEvents, live, if_true, List.append_nil]
      apply emits_nothing
      intro journal
      simp [matchAt, found, live, Journaled.perform_bind]
  | false =>
      refine ⟨_, ?_, (matchBinding_emits index frame bound found live).start fun journal => ?_⟩
      · exact Resolver.newsAll_unknown _ _
      · simp [matchAt, found, live, Journaled.perform_bind]

theorem matchAt_emits_nothing (index : Nat) (frame : Frame) {matcher : Matcher}
    (missing : matcher.table.bindings[index]? = none) : Emits (matchAt index frame) matcher [] := by
  apply emits_nothing
  intro journal
  simp [matchAt, missing, Journaled.perform_bind]

end Matcher

end InputBinding
