import Mathlib.Data.List.Induction
import InputBinding.Proofs.FloatOrder
import InputBinding.Proofs.Histories
import InputBinding.Proofs.Recovery

/-!
Settings and frame times are valid, whatever the environment and the clock say. The checks of a controller pass
with any settings that were read, and each of its updates ticks with the number of updates before it and with a time
between zero and the bound.
-/

namespace InputBinding

open Journaled

namespace Settings

/-- Settings that every check of a controller lets pass. -/
structure Valid (settings : Settings) : Prop where
  maxBindings : 0 ≤ settings.maxBindings
  epsilon : 0.0 ≤ settings.epsilon ∧ settings.epsilon.isNaN = false
  longestDelta : 0.0 ≤ settings.longestDelta ∧ settings.longestDelta.isNaN = false
  eventCapacity : 100 ≤ settings.eventCapacity

theorem le_readInt (raw : Option String) (default least : Int) : least ≤ readInt raw default (some least) :=
  Int.le_max_left _ _

theorem le_readFloat (raw : Option String) (default : Float) {least : Float} (number : least.isNaN = false) :
    least ≤ readFloat raw default (some least) := by
  unfold readFloat
  dsimp only
  split
  case isTrue more => exact float_le_of_lt more
  case isFalse => exact float_le_refl number

theorem load_valid (environment : Environment) : (load environment).Valid := by
  have nonnegative (raw : Option String) (default : Float) :
      0.0 ≤ readFloat raw default (some 0.0) ∧ (readFloat raw default (some 0.0)).isNaN = false :=
    have least := le_readFloat raw default (by decide)
    ⟨least, (isNaN_of_le least).2⟩
  exact ⟨le_readInt _ _ _, nonnegative _ _, nonnegative _ _, le_readInt _ _ _⟩

end Settings

theorem shorter_bounds {longest passed : Float} (bound : 0.0 ≤ longest) (positive : 0.0 ≤ passed) :
    let shorter := if longest < passed then longest else passed
    0.0 ≤ shorter ∧ shorter ≤ longest := by
  have number := (isNaN_of_le bound).2
  by_cases long : longest < passed
  · simp only [if_pos long]
    exact ⟨bound, float_le_refl number⟩
  · simp only [if_neg long]
    exact ⟨positive, float_le_of_not_lt (isNaN_of_le positive).2 number long⟩

/-- Whatever comes of the subtraction, what is left is a number between zero and the bound. -/
theorem boundedDelta_bounds {longest : Float} (bound : 0.0 ≤ longest) (before now : Float) :
    0.0 ≤ boundedDelta longest before now ∧ boundedDelta longest before now ≤ longest := by
  unfold boundedDelta
  by_cases forward : 0.0 < now - before
  · simp only [if_pos forward]
    exact shorter_bounds bound (float_le_of_lt forward)
  · simp only [if_neg forward]
    exact shorter_bounds bound (by decide)

theorem Clock.next_bounds {clock : Clock} (bound : 0.0 ≤ clock.longest) (now : Float) :
    0.0 ≤ (clock.next now).1.delta ∧ (clock.next now).1.delta ≤ clock.longest := by
  cases started : clock.last with
  | none =>
      simp only [Clock.next, started]
      exact ⟨by decide, bound⟩
  | some before =>
      simp only [Clock.next, started]
      exact boundedDelta_bounds bound before now

def Journal.Raises (journal : Journal) (fault : Fault) : Prop :=
  ∃ channel, journal.channel = some channel ∧
    ∃ subscriber ∈ channel.subscribers, ∃ event, subscriber.reaction event = some fault

section Creation

variable {raised : Fault → Prop} {good : σ → Prop}

theorem passes_openChannel {fresh : Channel} (nobody : fresh.subscribers = []) :
    Passes raised good (openChannel (.ok fresh)) := by
  intro state journal holds admits
  rcases journal with ⟨_ | channel, notices⟩
  · refine ⟨within_ok (), holds, ?_⟩
    rintro _ ⟨⟩ subscriber member
    rw [nobody] at member
    cases member
  · exact ⟨within_ok (), holds, admits⟩

theorem passes_construct {start : τ} {action : Journaled τ Unit} (inner : Passes raised (fun _ => True) action) :
    Passes raised good (construct start action) := by
  intro state journal holds admits
  obtain ⟨ended, _, stillAdmits⟩ := inner start journal trivial admits
  rcases performed : action.perform start journal with ⟨⟨fault | _, built⟩, after⟩
  · rw [performed] at ended stillAdmits
    simp only [construct, perform_ofPerform, performed]
    exact ⟨within_error (ended fault rfl), holds, stillAdmits⟩
  · rw [performed] at stillAdmits
    simp only [construct, perform_ofPerform, performed]
    exact ⟨within_ok built, holds, stillAdmits⟩

namespace Table

theorem build_passes (axisNames : Option (List String)) (index : Nat) (rule : Rule) :
    Passes raised good (build axisNames index rule) := by
  unfold build
  dsimp only
  split
  · exact passes_pure _
  · exact (passes_note _).bind fun _ => (passes_announce _).bind fun _ => passes_pure _

theorem buildAll_passes (axisNames : Option (List String)) (index : Nat) (rules : List Rule) :
    Passes raised good (buildAll axisNames index rules) := by
  induction rules generalizing index with
  | nil => exact passes_pure []
  | cons rule others ih =>
      exact (build_passes axisNames index rule).bind fun _ => (ih (index + 1)).bind fun _ => passes_pure _

theorem load_passes (rules : List Rule) : Passes raised (fun _ => True) (load rules) := by
  have stored (bindings : List Binding) :
      Passes raised (fun _ => True) (modify ({ · with bindings }) : Journaled Table PUnit) :=
    passes_modify fun _ _ => trivial
  unfold load
  apply Keeps.get
  intro table _
  dsimp only
  split
  · exact (passes_note _).bind fun _ => (buildAll_passes _ _ _).bind stored
  · exact (buildAll_passes _ _ _).bind stored

theorem create_passes {limit : Int} (allowed : 0 ≤ limit) (axisNames : Option (List String)) (rules : List Rule) :
    Passes raised good (create limit axisNames rules) := by
  unfold create
  rw [if_neg (Int.not_lt.mpr allowed)]
  exact passes_construct (load_passes rules)

end Table

theorem Channel.exists_create {capacity : Int} (positive : 0 < capacity) (enabled : Bool) (allowlist : List String) :
    ∃ channel, create capacity enabled allowlist = .ok channel ∧ channel.subscribers = [] := by
  have made : (Ring.create capacity : Except Fault (Ring Event)) = .ok { capacity := capacity.toNat } :=
    if_neg (Int.not_le.mpr positive)
  unfold create
  rw [made]
  exact ⟨_, rfl, rfl⟩

theorem Resolver.exists_create {epsilon : Float} (nonnegative : 0.0 ≤ epsilon) :
    ∃ resolver, create epsilon = .ok resolver :=
  ⟨_, if_neg (not_lt_of_le nonnegative)⟩

theorem Controller.create_passes {settings : Settings} (valid : settings.Valid) (axisNames : Option (List String))
    (rules : List Rule) : Passes raised good (create settings axisNames rules) := by
  have capacity : 0 < settings.eventCapacity := Int.lt_of_lt_of_le (by decide) valid.eventCapacity
  obtain ⟨channel, opened, nobody⟩ := Channel.exists_create capacity settings.eventsEnabled []
  obtain ⟨resolver, resolved⟩ := Resolver.exists_create valid.epsilon.1
  have made : Passes raised good (Journaled.ofExcept (.ok resolver)) := keeps_ofExcept (within_ok resolver)
  unfold create
  rw [opened, resolved]
  exact (passes_openChannel nobody).bind fun _ =>
    (Table.create_passes valid.maxBindings axisNames rules).bind fun _ => made.bind fun _ => passes_pure _

end Creation

namespace Matcher

theorem frame_feedKeys (keys : List String) (number : Int) (matcher : Matcher) (journal : Journal) :
    ((feedKeys keys number).perform matcher journal).1.2.frame = matcher.frame := by
  simp only [feedKeys, perform_bind, perform_get]
  cases matcher.capture with
  | none => rfl
  | some capture => rfl

theorem frame_feedCapture (source : Source) (number : Int) (matcher : Matcher) (journal : Journal) :
    ((feedCapture source number).perform matcher journal).1.2.frame = matcher.frame := by
  simp only [feedCapture, perform_bind, perform_get]
  by_cases isOpen : matcher.capture.any Capture.isOpen = true
  · rcases keys : source.justPressedKeys with fault | _ | ⟨key, others⟩
    · simp [isOpen, perform_bind]
    · simp [isOpen, perform_bind]
    · simpa [isOpen, perform_bind] using frame_feedKeys (key :: others) number matcher journal
  · simp [isOpen]

theorem frame_tick {delta : Float} (accepted : ¬ delta < 0.0) (sink : Sink) (source : Source) (number : Int)
    (matcher : Matcher) (journal : Journal) :
    ((tick sink source delta (some number)).perform matcher journal).1.2.frame = number := by
  have fed := frame_feedCapture source number { matcher with frame := number } journal
  rcases performed : (feedCapture source number).perform { matcher with frame := number } journal with
    ⟨⟨fault | captured, after⟩, between⟩
  · rw [performed] at fed
    simpa [tick, accepted, performed, perform_bind] using fed
  · rw [performed] at fed
    cases captured with
    | true => simpa [tick, accepted, performed, perform_bind] using fed
    | false =>
        have turns := matchAll_leaves ⟨number, delta, after.tracing, sink⟩ (List.range after.table.size)
          { after with resolver := after.resolver.begin source number } between rfl
        have same := (congrArg Matcher.frame turns.1).trans fed
        simpa [tick, accepted, performed, perform_bind, essence] using same

end Matcher

namespace Controller

def after (history : List (Operation × Journal)) (controller : Controller) : Controller :=
  history.foldl (fun controller step => (step.1.action.perform controller step.2).1.2) controller

def Operation.isUpdate : Operation → Bool
  | .update .. => true
  | _ => false

def updates (history : List (Operation × Journal)) : Nat :=
  history.countP fun step => step.1.isUpdate

structure Ticked (longest : Float) (count : Nat) (clock : Clock) : Prop where
  longest : clock.longest = longest
  frame : clock.frame = (count : Int) - 1
  last : count = 0 → clock.last = none

theorem clock_operation (operation : Operation) (controller : Controller) (journal : Journal) :
    (operation.action.perform controller journal).1.2.clock =
      match operation with
      | .update _ now _ => (controller.clock.next now).2
      | _ => controller.clock := by
  cases operation with
  | update sink now source => simp [Operation.action, update, onMatcher, perform_bind]
  | load rules =>
      rcases performed : Matcher.cancelCapture.perform controller.matcher journal with
        ⟨⟨fault | _, middle⟩, between⟩
      · simp [Operation.action, load, onMatcher, perform_bind, performed]
      · simp [Operation.action, load, onMatcher, perform_bind, performed]
  | within operation => rfl

theorem Ticked.next {longest : Float} {count : Nat} {clock : Clock} (ticked : Ticked longest count clock)
    (now : Float) : Ticked longest (count + 1) (clock.next now).2 where
  longest := ticked.longest
  frame := by
    have frame := ticked.frame
    simp only [Clock.next]
    omega
  last impossible := by cases impossible

theorem Ticked.step {longest : Float} {count : Nat} {controller : Controller}
    (ticked : Ticked longest count controller.clock) (operation : Operation) (journal : Journal) :
    Ticked longest (count + if operation.isUpdate then 1 else 0)
      (operation.action.perform controller journal).1.2.clock := by
  rw [clock_operation]
  cases operation with
  | update sink now source => exact ticked.next now
  | load rules | within operation => exact ticked

theorem Ticked.after {longest : Float} {controller : Controller} (fresh : Ticked longest 0 controller.clock)
    (history : List (Operation × Journal)) :
    Ticked longest (updates history) (controller.after history).clock := by
  induction history using List.reverseRecOn with
  | nil => exact fresh
  | append_singleton earlier step ih =>
      have ticked := ih.step step.1 step.2
      simpa [Controller.after, updates, List.countP_append, List.countP_cons] using ticked

theorem ticked_of_create {settings : Settings} {axisNames : Option (List String)} {rules : List Rule}
    {controller : Controller} {before after : Journal}
    (created : (create settings axisNames rules : Journaled Unit Controller).perform () before =
      ((.ok controller, ()), after)) : Ticked settings.longestDelta 0 controller.clock := by
  obtain ⟨_, _, _, _, rfl⟩ := eq_of_create created
  exact ⟨rfl, rfl, fun _ => rfl⟩

theorem perform_update (sink : Sink) (now : Float) (source : Source) (controller : Controller) (journal : Journal) :
    (update sink now source).perform controller journal =
      (onMatcher (Matcher.tick sink source (controller.clock.next now).1.delta
        (some (controller.clock.next now).1.frame))).perform
        { controller with clock := (controller.clock.next now).2 } journal := by
  simp [update, perform_bind]

end Controller

/-- Whatever the environment says, the settings that are read from it are valid, so every check passes when a controller
is created with them, and only a subscriber can fail on the way; and whatever happens to that controller and whatever
its clock says, an update ticks with the number of updates before it and with a time between zero and the bound, and
the tick is let in. How much memory a history of the wanted capacity takes is not part of the model. -/
theorem Controller.update_timely (environment : Environment) (axisNames : Option (List String)) (rules : List Rule) :
    let settings := Settings.load environment
    settings.Valid ∧
    (∀ before : Journal, Within before.Raises
      ((create settings axisNames rules : Journaled Unit Controller).perform () before).1.1) ∧
    ∀ controller before after,
      (create settings axisNames rules : Journaled Unit Controller).perform () before = ((.ok controller, ()), after) →
      ∀ history sink now source journal,
        let reached := controller.after history
        let time := (reached.clock.next now).1
        let updated := (update sink now source).perform reached journal
        time.frame = updates history ∧ time.delta.isNaN = false ∧ 0.0 ≤ time.delta ∧
        time.delta ≤ settings.longestDelta ∧ (updates history = 0 → time.delta = 0.0) ∧
        updated = (onMatcher (Matcher.tick sink source time.delta (some time.frame))).perform
          { reached with clock := (reached.clock.next now).2 } journal ∧
        updated.1.2.matcher.frame = updates history := by
  intro settings
  have valid := Settings.load_valid environment
  refine ⟨valid, ?_, ?_⟩
  · intro before
    have admits : before.Admits fun _ => before.Raises := fun channel found subscriber member event fault failed =>
      ⟨channel, found, subscriber, member, event, failed⟩
    have passes : Passes before.Raises (fun _ => True) (create settings axisNames rules : Journaled Unit Controller) :=
      create_passes valid axisNames rules
    exact (passes () before trivial admits).1
  · intro controller before after created history sink now source journal reached time updated
    have ticked := (ticked_of_create created).after history
    have frame : time.frame = updates history := by
      have last := ticked.frame
      simp only [time, Clock.next, reached]
      omega
    obtain ⟨positive, short⟩ := Clock.next_bounds (ticked.longest ▸ valid.longestDelta.1) now
    refine ⟨frame, (isNaN_of_le positive).2, positive, ticked.longest ▸ short, ?_, perform_update .., ?_⟩
    · intro first
      have unread := ticked.last first
      simp only [time, Clock.next, reached, unread]
    · have accepted : ¬ time.delta < 0.0 := not_lt_of_le positive
      have taken := Matcher.frame_tick accepted sink source time.frame reached.matcher journal
      rw [← frame, ← taken]
      simp only [updated, perform_update]
      rfl

namespace Controller

def careless : Environment := [
  ("INPUTRULES_MAX_MAPPINGS", "-7"),
  ("INPUTRULES_AXIS_NEUTRAL_EPSILON", " nan"),
  ("INPUTRULES_MAX_DELTA_SECONDS", "0.5"),
  ("INPUTRULES_DIAGNOSTICS_BUFFER_CAP", "many")]

def careful : Settings where
  maxBindings := 0
  longestDelta := 0.5

theorem load_careless : Settings.load careless = careful := by
  rw [Settings.load, careful, Settings.mk.injEq]
  exact ⟨by decide +kernel, by decide +kernel, by decide +kernel, rfl, rfl, by decide +kernel⟩

def idle : Controller where
  settings := careful
  matcher := { table := { limit := 0 }, capture := some {} }
  clock := { longest := 0.5 }

def resting : Source :=
  Snapshot.toSource {}

def readAt (readings : List Float) : List (Operation × Journal) :=
  readings.map fun now => (.update (fun _ => {}) now resting, {})

theorem update_timely_jumps :
    ∃ after, (create (Settings.load careless) none [] : Journaled Unit Controller).perform () {} =
        ((.ok idle, ()), after) ∧
      ((idle.after (readAt [])).clock.next 2.0).1.delta = 0.0 ∧
      ((idle.after (readAt [2.0])).clock.next 1.0).1.delta = 0.0 ∧
      ((idle.after (readAt [2.0, 1.0])).clock.next 1.25).1.delta = 0.25 ∧
      ((idle.after (readAt [2.0, 1.0, 1.25])).clock.next (1.0 / 0.0)).1.delta = 0.5 ∧
      ((idle.after (readAt [2.0, 1.0, 1.25, 1.0 / 0.0])).clock.next (1.0 / 0.0)).1.delta = 0.0 ∧
      ((update (fun _ => {}) (1.0 / 0.0) resting).perform
        (idle.after (readAt [2.0, 1.0, 1.25, 1.0 / 0.0])) {}).1.2.matcher.frame = 4 := by
  have created : ∃ after, (create (Settings.load careless) none [] : Journaled Unit Controller).perform () {} =
      ((.ok idle, ()), after) := by
    rw [load_careless]
    exact ⟨_, rfl⟩
  obtain ⟨after, created⟩ := created
  have timely := (update_timely careless none []).2.2 idle {} after created
    (readAt [2.0, 1.0, 1.25, 1.0 / 0.0]) (fun _ => {}) (1.0 / 0.0) resting {}
  obtain ⟨_, _, _, _, _, _, frame⟩ := timely
  exact ⟨after, created, by decide +kernel, by decide +kernel, by decide +kernel, by decide +kernel,
    by decide +kernel, frame⟩

end Controller

end InputBinding
