import InputBinding.Controller
import InputBinding.Proofs.Edits
import InputBinding.Proofs.Keeping

/-!
Whatever happens to a matcher, some properties of its bindings last: those that rules have as they are
read, and that turns and returns to rest preserve. The histories of a matcher are made of ticks, edits
of its table and captures, in any order, with failures and without.
-/

namespace InputBinding

open Journaled

/-- A property of bindings that rules have as they are read and that no turn takes away. -/
structure Binding.Lasting (good : Binding → Prop) : Prop where
  ofRule : ∀ axisNames rule, good (ofRule axisNames rule)
  rest : ∀ binding, good binding → good binding.rest
  play : ∀ binding index delta epsilon source sink, good binding →
    good (binding.play index delta epsilon source sink).2

variable {good : Binding → Prop}

namespace Table

def All (good : Binding → Prop) (table : Table) : Prop :=
  ∀ binding ∈ table.bindings, good binding

theorem All.put {table : Table} {binding : Binding} (all : table.All good) (own : good binding)
    (position : Nat) : (table.put position binding).All good := by
  intro other member
  rcases List.mem_or_eq_of_mem_set member with member | rfl
  · exact all other member
  · exact own

theorem all_map_ofRule (lasting : Binding.Lasting good) (axisNames : Option (List String)) (rules : List Rule) :
    ∀ binding ∈ rules.map (Binding.ofRule axisNames), good binding := by
  intro binding member
  obtain ⟨rule, _, rfl⟩ := List.mem_map.mp member
  exact lasting.ofRule axisNames rule

theorem All.resized {table : Table} (lasting : Binding.Lasting good) (all : table.All good) (size : Nat) :
    (table.resized size).All good := by
  intro binding member
  rcases List.mem_append.mp member with old | new
  · exact all binding (List.mem_of_mem_take old)
  · exact all_map_ofRule lasting table.axisNames _ binding new

theorem All.replaced {table : Table} (lasting : Binding.Lasting good) (all : table.All good) (index : Int) (rule : Rule) :
    (table.replaced index rule).2.All good := by
  by_cases outside : index < 0 ∨ table.size ≤ index
  · simp only [Table.replaced, if_pos outside]
    exact all
  · simp only [Table.replaced, if_neg outside]
    exact all.put (lasting.ofRule table.axisNames rule) index.toNat

theorem All.outcome {table : Table} (lasting : Binding.Lasting good) (all : table.All good) (edit : Edit) :
    (edit.outcome table).2.All good := by
  cases edit with
  | load rules => exact all_map_ofRule lasting table.axisNames _
  | resize size =>
      by_cases negative : size < 0
      · simp only [Edit.outcome, if_pos negative]
        exact all
      · simp only [Edit.outcome, if_neg negative]
        exact all.resized lasting _
  | setRule index rule => exact all.replaced lasting index rule
  | setDescriptor index descriptor =>
      cases found : table.binding index with
      | error fault => simpa only [Edit.outcome, found] using all
      | ok binding => simpa only [Edit.outcome, found] using all.replaced lasting index _
  | setAxisNames axisNames => exact all_map_ofRule lasting axisNames _

theorem Edit.lasts (lasting : Binding.Lasting good) (edit : Edit) : Lasts (All good) (fun _ => True) edit.action := by
  apply edit.follows.lasts
  · exact fun _ all => all.outcome lasting edit
  · exact fun _ _ _ => trivial

theorem resize_lasts (lasting : Binding.Lasting good) (size : Int) :
    Lasts (All good) (fun _ => True) (resize size) := by
  apply (resize_follows (fun table : Table => table) size).lasts
  · intro table all
    by_cases negative : size < 0
    · simp only [if_pos negative]
      exact all
    · simp only [if_neg negative]
      exact all.resized lasting _
  · exact fun _ _ _ => trivial

end Table

namespace Capture

def Good (good : Binding → Prop) (state : Table × Capture) : Prop :=
  state.1.All good

theorem onTable_lasts {action : Journaled Table α} (lasts : Lasts (Table.All good) (fun _ => True) action) :
    Lasts (Good good) (fun _ => True) (onTable action) :=
  lasts.focus (fun _ all => all) fun _ _ _ all => all

theorem onCapture_lasts {action : Journaled Capture α} (lasts : Lasts (fun _ => True) (fun _ => True) action) :
    Lasts (Good good) (fun _ => True) (onCapture action) :=
  lasts.focus (fun _ _ => trivial) fun _ _ all _ => all

theorem cancel_lasts : Lasts (fun _ => True) (fun _ => True) cancel := by
  unfold cancel
  apply lasts_get.bind
  intro capture _
  split
  · exact lasts_pure trivial
  · exact (lasts_note _).bind fun _ _ => lasts_set trivial

theorem finish_lasts (lasting : Binding.Lasting good) (index tick : Int) (descriptor : String) :
    Lasts (Good good) (fun _ => True) (finish index tick descriptor) := by
  have closed : Lasts (fun _ => True) (fun _ => True) (set ({} : Capture)) := lasts_set trivial
  exact (onTable_lasts (Table.Edit.lasts lasting (.setDescriptor index descriptor))).bind fun _ _ =>
    (onCapture_lasts closed).bind fun _ _ => (lasts_note _).bind fun _ _ => lasts_announce _

theorem takeKeys_lasts (lasting : Binding.Lasting good) (kind : Kind) (index tick : Int) (keys : List String) :
    Lasts (Good good) (fun _ => True) (takeKeys kind index tick keys) := by
  induction keys with
  | nil => exact lasts_pure trivial
  | cons key others ih =>
      have finished (descriptor : String) :
          Lasts (Good good) (fun _ => True) (do finish index tick descriptor; return true) :=
        (finish_lasts lasting index tick descriptor).bind fun _ _ => lasts_pure trivial
      have marked : Lasts (fun _ => True) (fun _ => True)
          (modify ({ · with firstKey := some key }) : Journaled Capture PUnit) :=
        lasts_modify fun _ _ => trivial
      unfold takeKeys
      split
      · exact finished key
      · apply lasts_get.bind
        intro state _
        split
        · exact (onCapture_lasts marked).bind fun _ _ => (lasts_note _).bind fun _ _ => ih
        · split
          · exact ih
          · exact finished _

theorem abandon_lasts (notice : Notice) : Lasts (Good good) (fun _ => True) (abandon notice) :=
  (lasts_note notice).bind fun _ _ => (onCapture_lasts cancel_lasts).bind fun _ _ => lasts_pure trivial

theorem feed_lasts (lasting : Binding.Lasting good) (batch : List String) (tick : Int) :
    Lasts (Good good) (fun _ => True) (feed batch tick) := by
  unfold feed
  apply lasts_get.bind
  rintro ⟨table, capture⟩ _
  dsimp only
  split
  · exact lasts_pure trivial
  · split
    · exact abandon_lasts _
    · have found (index : Int) : Lasts (Good good) (fun _ => True) (Journaled.ofExcept (table.binding index)) :=
        lasts_ofExcept fun _ _ => trivial
      apply (found _).bind
      intro binding _
      split
      · exact abandon_lasts _
      · exact takeKeys_lasts lasting _ _ _ _

theorem begin_lasts (table : Table) (index tick : Int) :
    Lasts (fun _ => True) (fun _ => True) (begin table index tick) := by
  have found : Lasts (fun _ => True) (fun _ => True)
      (Journaled.ofExcept (table.binding index) : Journaled Capture Binding) :=
    lasts_ofExcept fun _ _ => trivial
  unfold begin
  apply found.bind
  intro binding _
  split
  · exact (lasts_note _).bind fun _ _ => (lasts_announce _).bind fun _ _ => lasts_throw _
  · have opened : Lasts (fun _ => True) (fun _ => True)
        (do
          set ({ target := some index } : Capture)
          note (.captureStarted index binding.rule.kind)
          announce (.captureStarted tick index)) :=
      (lasts_set trivial).bind fun _ _ => (lasts_note _).bind fun _ _ => lasts_announce _
    apply lasts_get.bind
    intro capture _
    dsimp only
    split
    · exact (lasts_note _).bind fun _ _ => opened
    · exact opened

end Capture

namespace Matcher

def All (good : Binding → Prop) (matcher : Matcher) : Prop :=
  matcher.table.All good

theorem matchAt_lasts (lasting : Binding.Lasting good) (source : Source) (index : Nat) (frame : Frame) :
    Lasts (fun matcher => matcher.resolver.source = some source ∧ matcher.All good) (fun _ => True)
      (matchAt index frame) := by
  rintro matcher journal ⟨bound, all⟩ admits
  have quiet := Journal.quiet_iff_admits.mpr admits
  have leaves := matchAt_leaves index frame matcher journal bound
  have boundAfter := (view_of_essence (essence_of_outline leaves.1)).2.trans bound
  refine ⟨fun _ _ => trivial, ⟨boundAfter, ?_⟩, Journal.quiet_iff_admits.mp (leaves.2.1 quiet)⟩
  intro binding member
  obtain ⟨position, found⟩ := List.mem_iff_getElem?.mp member
  by_cases here : index = position
  · subst here
    cases before : matcher.table.bindings[index]? with
    | none =>
        simp only [matchAt, Journaled.perform_bind, Journaled.perform_get, before] at found
        cases before.symm.trans found
    | some binding =>
        obtain ⟨_, played⟩ := ((matchAt_turned index frame journal bound before).quiet quiet).2
        cases played.symm.trans found
        exact lasting.play _ _ _ _ _ _ (all binding (List.mem_of_getElem? before))
  · rw [elsewhere_of_outline leaves.1 here] at found
    exact all binding (List.mem_of_getElem? found)

theorem matchAll_lasts (lasting : Binding.Lasting good) (source : Source) (frame : Frame) (indices : List Nat) :
    Lasts (fun matcher => matcher.resolver.source = some source ∧ matcher.All good) (fun _ => True)
      (matchAll frame indices) := by
  induction indices with
  | nil => exact lasts_pure trivial
  | cons index others ih =>
      exact (matchAt_lasts lasting source index frame).bind fun _ _ => ih.bind fun _ _ => lasts_pure trivial

theorem feedCapture_lasts (lasting : Binding.Lasting good) (source : Source) (tick : Int) :
    Lasts (All good) (fun _ => True) (feedCapture source tick) := by
  have fed (keys : List String) : Lasts (All good) (fun _ => True) (feedKeys keys tick) := by
    unfold feedKeys
    apply lasts_get.bind
    intro matcher _
    split
    · exact lasts_pure trivial
    · exact (Capture.feed_lasts lasting keys tick).focus (fun _ all => all) fun _ _ _ all => all
  have asked : Lasts (All good) (fun _ => True) (Journaled.ofExcept source.justPressedKeys) :=
    lasts_ofExcept fun _ _ => trivial
  unfold feedCapture
  apply lasts_get.bind
  intro matcher _
  split
  · exact lasts_pure trivial
  · apply asked.bind
    intro keys _
    split
    · exact lasts_pure trivial
    · exact (fed keys).bind fun _ _ => lasts_pure trivial

theorem tick_lasts (lasting : Binding.Lasting good) (sink : Sink) (source : Source) (delta : Float)
    (frame? : Option Int) : Lasts (All good) (fun _ => True) (tick sink source delta frame?) := by
  have numbered (number : Int) : Lasts (All good) (fun _ => True)
      (modify ({ · with frame := number }) : Journaled Matcher PUnit) :=
    lasts_modify fun _ all => all
  have turns (number : Int) : Lasts (All good) (fun _ => True)
      (do
        modify fun matcher : Matcher => { matcher with resolver := matcher.resolver.begin source number }
        let matcher ← get
        matchAll ⟨number, delta, matcher.tracing, sink⟩ (List.range matcher.table.size)) := by
    intro matcher journal all admits
    obtain ⟨ended, ⟨_, allAfter⟩, stillAdmits⟩ :=
      matchAll_lasts lasting source ⟨number, delta, matcher.tracing, sink⟩ (List.range matcher.table.size)
        { matcher with resolver := matcher.resolver.begin source number } journal ⟨rfl, all⟩ admits
    exact ⟨ended, allAfter, stillAdmits⟩
  unfold tick
  dsimp only
  split
  · exact lasts_throw_bind _ _
  · apply lasts_get.bind
    intro matcher _
    apply (numbered _).bind
    intro _ _
    apply (feedCapture_lasts lasting source _).bind
    intro captured _
    split
    · exact lasts_pure trivial
    · exact turns _

theorem onTable_lasts {action : Journaled Table α} (lasts : Lasts (Table.All good) (fun _ => True) action) :
    Lasts (All good) (fun _ => True) (onTable action) :=
  lasts.focus (fun _ all => all) fun _ _ _ all => all

theorem onCapture_lasts {action : Table → Journaled Capture Unit}
    (lasts : ∀ table, Lasts (fun _ => True) (fun _ => True) (action table)) :
    Lasts (All good) (fun _ => True) (onCapture action) := by
  unfold onCapture
  apply lasts_get.bind
  intro matcher _
  split
  · exact lasts_pure trivial
  · exact (lasts matcher.table).focus (fun _ _ => trivial) fun _ _ all _ => all

theorem beginCapture_lasts (index tick : Int) : Lasts (All good) (fun _ => True) (beginCapture index tick) := by
  unfold beginCapture
  exact onCapture_lasts fun table => Capture.begin_lasts table index tick

theorem cancelCapture_lasts : Lasts (All good) (fun _ => True) cancelCapture := by
  unfold cancelCapture
  exact onCapture_lasts fun _ => Capture.cancel_lasts

theorem rest_lasts (lasting : Binding.Lasting good) : Lasts (All good) (fun _ => True) rest := by
  apply lasts_modify
  intro matcher all binding member
  obtain ⟨earlier, listed, rfl⟩ := List.mem_map.mp member
  exact lasting.rest earlier (all earlier listed)

inductive Operation
  | tick (sink : Sink) (source : Source) (delta : Float) (frame? : Option Int)
  | load (rules : List Rule)
  | resize (size : Int)
  | setRule (index : Int) (rule : Rule)
  | setDescriptor (index : Int) (descriptor : String)
  | setAxisNames (axisNames : Option (List String))
  | beginCapture (index tick : Int)
  | cancelCapture
  | rest

def Operation.action : Operation → Journaled Matcher Unit
  | .tick sink source delta frame? => (fun _ => ()) <$> Matcher.tick sink source delta frame?
  | .load rules => onTable (Table.load rules)
  | .resize size => (fun _ => ()) <$> onTable (Table.resize size)
  | .setRule index rule => onTable (Table.setRule index rule)
  | .setDescriptor index descriptor => onTable (Table.setDescriptor index descriptor)
  | .setAxisNames axisNames => onTable (Table.setAxisNames axisNames)
  | .beginCapture index number => Matcher.beginCapture index number
  | .cancelCapture => Matcher.cancelCapture
  | .rest => Matcher.rest

theorem Operation.lasts (lasting : Binding.Lasting good) (operation : Operation) :
    Lasts (All good) (fun _ => True) operation.action := by
  cases operation with
  | tick sink source delta frame? => exact (tick_lasts lasting sink source delta frame?).map _
  | load rules => exact onTable_lasts (Table.Edit.lasts lasting (.load rules))
  | resize size => exact (onTable_lasts (Table.resize_lasts lasting size)).map _
  | setRule index rule => exact onTable_lasts (Table.Edit.lasts lasting (.setRule index rule))
  | setDescriptor index descriptor => exact onTable_lasts (Table.Edit.lasts lasting (.setDescriptor index descriptor))
  | setAxisNames axisNames => exact onTable_lasts (Table.Edit.lasts lasting (.setAxisNames axisNames))
  | beginCapture index number => exact beginCapture_lasts index number
  | cancelCapture => exact cancelCapture_lasts
  | rest => exact rest_lasts lasting

/-- The matchers that come about from a table that was created, as long as no subscriber fails.
Operations count whether they return or fail. -/
inductive Reachable : Matcher → Prop
  | opens {matcher : Matcher} {limit : Int} {axisNames : Option (List String)} {rules : List Rule}
      {before after : Journal} : before.Quiet →
      (Table.create limit axisNames rules : Journaled Unit Table).perform () before =
        ((.ok matcher.table, ()), after) → Reachable matcher
  | step {matcher : Matcher} {journal : Journal} (operation : Operation) : Reachable matcher → journal.Quiet →
      Reachable (operation.action.perform matcher journal).1.2

theorem Reachable.all (lasting : Binding.Lasting good) {matcher : Matcher} (reachable : matcher.Reachable) :
    matcher.All good := by
  induction reachable with
  | opens quiet created =>
      intro binding member
      rw [(Table.bindings_of_create quiet created).2] at member
      obtain ⟨rule, _, rfl⟩ := List.mem_map.mp member
      exact lasting.ofRule _ rule
  | step operation _ quiet ih =>
      exact (operation.lasts lasting _ _ ih (Journal.quiet_iff_admits.mp quiet)).2.1

theorem Operation.quiet (operation : Operation) (matcher : Matcher) {journal : Journal} (quiet : journal.Quiet) :
    (operation.action.perform matcher journal).2.Quiet := by
  have lasting : Binding.Lasting fun _ => True :=
    ⟨fun _ _ => trivial, fun _ _ => trivial, fun _ _ _ _ _ _ _ => trivial⟩
  have lasts := operation.lasts lasting matcher journal (fun _ _ => trivial) (Journal.quiet_iff_admits.mp quiet)
  exact Journal.quiet_iff_admits.mpr lasts.2.2

end Matcher

namespace Controller

inductive Operation
  | update (sink : Sink) (now : Float) (source : Source)
  | load (rules : List Rule)
  | within (operation : Matcher.Operation)

def Operation.action : Operation → Journaled Controller Unit
  | .update sink now source => (fun _ => ()) <$> Controller.update sink now source
  | .load rules => Controller.load rules
  | .within operation => onMatcher operation.action

/-- The controllers that come about as long as no subscriber fails. -/
inductive Reachable : Controller → Prop
  | opens {controller : Controller} {settings : Settings} {axisNames : Option (List String)}
      {rules : List Rule} {before after : Journal} : before.Quiet →
      (Controller.create settings axisNames rules : Journaled Unit Controller).perform () before =
        ((.ok controller, ()), after) → Reachable controller
  | step {controller : Controller} {journal : Journal} (operation : Operation) : Reachable controller →
      journal.Quiet → Reachable (operation.action.perform controller journal).1.2

theorem openChannel_quiet (settings : Settings) {journal : Journal} (quiet : journal.Quiet) :
    ((Journaled.openChannel (Channel.create settings.eventCapacity settings.eventsEnabled []) :
      Journaled Unit Unit).perform () journal).2.Quiet := by
  rcases journal with ⟨_ | channel, notices⟩
  · cases created : Channel.create settings.eventCapacity settings.eventsEnabled [] with
    | error fault =>
        simp only [Journaled.openChannel, Journaled.perform_ofPerform]
        exact quiet
    | ok channel =>
        simp only [Journaled.openChannel, Journaled.perform_ofPerform]
        rintro _ ⟨⟩ subscriber member
        unfold Channel.create at created
        obtain ⟨history, _, created⟩ := bind_eq_ok created
        cases created
        cases member
  · exact quiet

theorem eq_of_create {controller : Controller} {settings : Settings} {axisNames : Option (List String)}
    {rules : List Rule} {before after : Journal}
    (created : (create settings axisNames rules : Journaled Unit Controller).perform () before =
      ((.ok controller, ()), after)) :
    ∃ table resolver later,
      (Table.create settings.maxBindings axisNames rules : Journaled Unit Table).perform ()
        ((Journaled.openChannel (Channel.create settings.eventCapacity settings.eventsEnabled []) :
          Journaled Unit Unit).perform () before).2 = ((.ok table, ()), later) ∧
      controller = {
        settings
        matcher := { table, capture := some {}, resolver, tracing := settings.tracing }
        clock := { longest := settings.longestDelta } } := by
  simp only [create, Journaled.perform_bind] at created
  rcases opened : (Journaled.openChannel (Channel.create settings.eventCapacity settings.eventsEnabled []) :
    Journaled Unit Unit).perform () before with ⟨⟨fault | _, _⟩, between⟩
  · simp [opened] at created
  · simp only [opened] at created
    rcases tabled : (Table.create settings.maxBindings axisNames rules : Journaled Unit Table).perform ()
      between with ⟨⟨fault | table, _⟩, later⟩
    · simp [tabled] at created
    · cases resolved : Resolver.create settings.epsilon with
      | error fault => simp [tabled, resolved] at created
      | ok resolver =>
          simp [tabled, resolved] at created
          exact ⟨table, resolver, later, rfl, created.1.symm⟩

theorem reachable_of_create {controller : Controller} {settings : Settings} {axisNames : Option (List String)}
    {rules : List Rule} {before after : Journal} (quiet : before.Quiet)
    (created : (create settings axisNames rules : Journaled Unit Controller).perform () before =
      ((.ok controller, ()), after)) : controller.matcher.Reachable := by
  obtain ⟨table, resolver, later, tabled, rfl⟩ := eq_of_create created
  exact .opens (openChannel_quiet settings quiet) tabled

theorem Reachable.matcher {controller : Controller} (reachable : controller.Reachable) :
    controller.matcher.Reachable := by
  induction reachable with
  | opens quiet created => exact reachable_of_create quiet created
  | @step controller journal operation _ quiet ih =>
      cases operation with
      | update sink now source =>
          have ticked := ih.step (.tick sink source (controller.clock.next now).1.delta
            (some (controller.clock.next now).1.frame)) quiet
          rw [Matcher.Operation.action, Journaled.perform_map] at ticked
          simpa [Operation.action, update, onMatcher, Journaled.perform_bind] using ticked
      | load rules =>
          -- Loading rules is two operations of the matcher, the second only if the first returns.
          have cancelled := ih.step .cancelCapture quiet
          have stillQuiet := Matcher.Operation.quiet .cancelCapture controller.matcher quiet
          rw [Matcher.Operation.action] at cancelled stillQuiet
          rcases performed : Matcher.cancelCapture.perform controller.matcher journal with
            ⟨⟨fault | _, middle⟩, between⟩
          · rw [performed] at cancelled
            simpa [Operation.action, load, onMatcher, Journaled.perform_bind, performed] using cancelled
          · rw [performed] at cancelled stillQuiet
            have loaded := cancelled.step (.load rules) stillQuiet
            rw [Matcher.Operation.action] at loaded
            simpa [Operation.action, load, onMatcher, Journaled.perform_bind, performed] using loaded
      | within operation => exact ih.step operation quiet

end Controller

end InputBinding
