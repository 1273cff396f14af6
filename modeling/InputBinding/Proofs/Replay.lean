import InputBinding.Proofs.Announcements
import InputBinding.Proofs.Containment
import InputBinding.Proofs.Deliveries
import InputBinding.Proofs.Progress

/-!
The events of sequences tell the truth: they are all that is needed to know how far a sequence has come.
A fault of the sink comes after the completion was told; both events say that the sequence is at rest.
-/

namespace InputBinding

namespace Channel

structure Open (channel : Channel) : Prop where
  enabled : channel.enabled = true
  unfiltered : channel.allowlist = []
  quiet : channel.Quiet

theorem Open.carried {channel : Channel} (isOpen : channel.Open) (events : List Event) : (channel.carried events).Open :=
  ⟨isOpen.enabled, isOpen.unfiltered, isOpen.quiet⟩

theorem Open.send {channel : Channel} (isOpen : channel.Open) (event : Event) :
    channel.send event = channel.carried [event] := by
  have accepts : channel.accepts event.category = true := by simp [accepts, isOpen.enabled, isOpen.unfiltered]
  rw [Channel.send, emit_eq isOpen.quiet, if_pos accepts]

theorem Open.sendAll {channel : Channel} (isOpen : channel.Open) (events : List Event) :
    channel.sendAll events = channel.carried events := by
  induction events generalizing channel with
  | nil => simp [Channel.carried]
  | cons event later ih =>
      have first : channel.sendAll (event :: later) = (channel.send event).sendAll later := rfl
      rw [first, isOpen.send, ih (isOpen.carried [event]), ← carried_append, List.singleton_append]

end Channel

namespace Event

/-- The cursor of a sequence after an event about it, for who knew the cursor before. -/
def follow (cursor : Int) (event : Event) : Int :=
  if event.name = "sequence.advanced" then
    match event.value with
    | .int value => value
    | _ => cursor
  else if event.name ∈ ["sequence.reset", "sequence.completed", "mapping.fault"] then 0
  else cursor

def replay (cursor : Int) (events : List Event) : Int :=
  events.foldl follow cursor

/-- What an event says of a sequence is the case at a cursor. -/
structure TrueOf (descriptor : Descriptor) (cursor : Int) (event : Event) : Prop where
  advanced : event.name = "sequence.advanced" → event.value = .int (cursor + 1)
  reset : event.name = "sequence.reset" → 0 < cursor
  completed : event.name = "sequence.completed" →
    cursor = descriptor.steps.length - 1 ∧ event.value = .text descriptor.format

/-- Every event is true at the cursor that the events before it lead to. -/
def AllTrue (descriptor : Descriptor) : Int → List Event → Prop
  | _, [] => True
  | cursor, event :: later => event.TrueOf descriptor cursor ∧ AllTrue descriptor (event.follow cursor) later

def isProgress (event : Event) : Bool :=
  event.name ∈ ["sequence.advanced", "sequence.reset", "sequence.completed"]

def isCompletion (event : Event) : Bool :=
  event.name = "sequence.completed"

variable {descriptor : Descriptor}

theorem replay_append (cursor : Int) (earlier later : List Event) :
    replay cursor (earlier ++ later) = replay (replay cursor earlier) later :=
  List.foldl_append

theorem AllTrue.append {cursor : Int} {earlier later : List Event} (first : AllTrue descriptor cursor earlier)
    (second : AllTrue descriptor (replay cursor earlier) later) : AllTrue descriptor cursor (earlier ++ later) := by
  induction earlier generalizing cursor with
  | nil => exact second
  | cons event others ih => exact ⟨first.1, ih first.2 second⟩

end Event

/-- Events about a sequence that lead from one cursor to another, each of them true, and at most one of them
about its progress. -/
structure Truthful (descriptor : Descriptor) (before after : Nat) (events : List Event) : Prop where
  all : Event.AllTrue descriptor before events
  replayed : Event.replay before events = after
  progress : events.countP Event.isProgress ≤ 1

namespace Binding

variable {binding : Binding} {index : Nat} {tick : Int} {delta epsilon : Float} {source : Source} {sink : Sink}

end Binding

namespace Matcher

theorem perform_tick_keyless {sink : Sink} {source : Source} {delta : Float} {frame? : Option Int}
    {matcher : Matcher} {journal : Journal}
    (keyless : ¬ delta < 0.0 → matcher.capture.any Capture.isOpen = true → ∀ keys, source.justPressedKeys = .ok keys →
      keys = []) :
    (tick sink source delta frame?).perform matcher journal = performTurns sink source delta frame? matcher journal ∨
      ∃ fault left, (tick sink source delta frame?).perform matcher journal = ((.error fault, left), journal) ∧
        left.table = matcher.table ∧ (delta < 0.0 ∨ source.justPressedKeys = .error fault) := by
  by_cases refused : delta < 0.0
  · exact Or.inr ⟨_, _, perform_tick_refused refused, rfl, Or.inl refused⟩
  · cases isOpen : matcher.capture.any Capture.isOpen with
    | false => exact Or.inl (perform_tick_uncaptured refused isOpen)
    | true =>
        cases pressed : source.justPressedKeys with
        | error fault =>
            refine Or.inr ⟨fault, { matcher with frame := frame?.getD (matcher.frame + 1) }, ?_, rfl, Or.inr rfl⟩
            simp [tick, refused, isOpen, feedCapture, pressed, Journaled.perform_bind]
        | ok keys =>
            have none := keyless refused isOpen keys pressed
            subst none
            left
            simp [tick, refused, isOpen, feedCapture, pressed, performTurns, started, Table.size, Journaled.perform_bind]

end Matcher

namespace Run

variable {run : Run} {tick : Nat}

structure Tells (run : Run) (tick index : Nat) (binding : Binding) (events : List Event) : Prop where
  truthful : ∃ after, run.binding? (tick + 1) index = some after ∧ after.Sound ∧ after.rest = binding.rest ∧
    Truthful binding.descriptor binding.cursor after.cursor events
  completions : ∀ report, run.result tick = .ok report →
    events.countP Event.isCompletion = report.fired.countP fun invocation => invocation.mapping = index

variable {channel : Channel}

def Traces (run : Run) (trace : Nat → List Event) : Prop :=
  ∀ tick index binding, run.binding? tick index = some binding → binding.Sound → binding.isSequence = true →
    run.Tells tick index binding ((trace tick).filter (·.about index))

variable {trace : Nat → List Event} {index : Nat} {binding : Binding}

theorem Traces.reached (traces : run.Traces trace) (found : run.binding? 0 index = some binding)
    (resting : binding.rest = binding) (sequence : binding.isSequence = true) (count : Nat) :
    let own := (List.range count).flatMap fun tick => (trace tick).filter (·.about index)
    ∃ current, run.binding? count index = some current ∧ current.Sound ∧ current.rest = binding ∧
      Event.AllTrue binding.descriptor 0 own ∧ Event.replay 0 own = current.cursor := by
  induction count with
  | zero =>
      have unstarted : binding.cursor = 0 := (congrArg (fun binding => binding.cursor) resting.symm :)
      exact ⟨binding, found, resting ▸ Binding.sound_rest binding, resting, trivial, by rw [unstarted]; rfl⟩
  | succ tick ih =>
      obtain ⟨current, foundNow, sound, same, truths, replayed⟩ := ih
      have sequenceNow : current.isSequence = true := (congrArg Binding.isSequence same :).trans sequence
      have sameDescriptor : current.descriptor = binding.descriptor := (congrArg Binding.descriptor same :)
      obtain ⟨after, foundAfter, soundAfter, sameAfter, truthful⟩ :=
        (traces tick index current foundNow sound sequenceNow).truthful
      rw [sameDescriptor] at truthful
      rw [List.range_succ, List.flatMap_append, List.flatMap_singleton]
      refine ⟨after, foundAfter, soundAfter, sameAfter.trans same, truths.append ?_, ?_⟩
      · rw [replayed]
        exact truthful.all
      · rw [Event.replay_append, replayed]
        exact truthful.replayed

end Run

end InputBinding
