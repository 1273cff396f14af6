import InputBinding.Proofs.Containment
import InputBinding.Proofs.Faultless

/-!
Bindings that ask for keys alone. Where the source has these keys nothing goes missing, so there is nothing that a
subscriber could fail on: whatever the other bindings do, such a binding fires in a tick exactly when its keys are
held.
-/

namespace InputBinding

open Journaled

namespace Inquiry

/-- An inquiry that ends with a value after it has found every name it looked up. -/
def Gives (inquiry : Inquiry α) (value : α) : Prop :=
  inquiry.answer = .ok value ∧ ∀ consultation ∈ inquiry.consulted, consultation.found = true

variable {inquiry : Inquiry α} {value : α}

theorem gives_pure (value : α) : (Pure.pure value : Inquiry α).Gives value :=
  ⟨rfl, by simp⟩

theorem gives_ofExcept {answer : Except Fault α} (answered : answer = .ok value) : (ofExcept answer).Gives value :=
  ⟨answered, by simp [ofExcept]⟩

theorem gives_consult (lookup : Lookup) (name : String) : (consult lookup name true).Gives true :=
  ⟨rfl, by simp [consult]⟩

theorem Gives.bind {next : α → Inquiry β} {result : β} (first : inquiry.Gives value)
    (later : (next value).Gives result) : (inquiry >>= next).Gives result := by
  obtain ⟨consulted, answer⟩ := inquiry
  obtain ⟨answered, found⟩ := first
  cases answered
  exact ⟨later.1, List.forall_mem_append.mpr ⟨found, later.2⟩⟩

end Inquiry

namespace Resolver

variable {resolver : Resolver}

theorem report_found {consultation : Consultation} (found : consultation.found = true) (journal : Journal) :
    ∃ after, (report consultation).perform resolver journal = ((.ok (), resolver.learn consultation), after) := by
  rcases report_follows consultation resolver journal with ⟨after, ended, _⟩ | ⟨_, fault, left, after, ended, _⟩
  · exact ⟨after, ended⟩
  · by_cases missing : consultation.marker ∈ resolver.unknown
    · simp [report, found, missing, perform_bind] at ended
    · simp [report, found, missing, perform_bind] at ended

theorem reportAll_found (resolver : Resolver) {consultations : List Consultation}
    (found : ∀ consultation ∈ consultations, consultation.found = true) (journal : Journal) :
    ∃ after, (reportAll consultations).perform resolver journal =
      ((.ok (), resolver.learnAll consultations), after) := by
  induction consultations generalizing resolver journal with
  | nil => exact ⟨journal, rfl⟩
  | cons consultation rest ih =>
      obtain ⟨foundHere, foundLater⟩ := List.forall_mem_cons.mp found
      obtain ⟨between, first⟩ := report_found foundHere journal
      obtain ⟨after, later⟩ := ih _ foundLater between
      exact ⟨after, by rw [reportAll, perform_bind, first]; exact later⟩

theorem ask_found {inquire : Float → Source → Inquiry α} {source : Source} (asks : resolver.Asks source)
    {value : α} (gives : (inquire resolver.epsilon source).Gives value) (journal : Journal) :
    ∃ left after, (ask inquire).perform resolver journal = ((.ok value, left), after) := by
  obtain ⟨after, reported⟩ := reportAll_found resolver gives.2 journal
  have bound : resolver.source = some source := asks
  refine ⟨resolver.learnAll (inquire resolver.epsilon source).consulted, after, ?_⟩
  simp [ask, bound, reported, gives.1, perform_bind]

end Resolver

namespace Snapshot

open Inquiry

def Holds (snapshot : Snapshot) (keys : List String) : Prop :=
  ∀ key ∈ keys, key ∈ snapshot.pressed

instance (snapshot : Snapshot) (keys : List String) : Decidable (snapshot.Holds keys) :=
  inferInstanceAs (Decidable (∀ key ∈ keys, key ∈ snapshot.pressed))

variable {snapshot : Snapshot} {name : String}

theorem all_contains_iff {keys : List String} :
    keys.all snapshot.pressed.contains = true ↔ snapshot.Holds keys := by
  simp [Holds]

theorem keyExists_key (isKey : snapshot.isKey name = true) : snapshot.toSource.keyExists name = .ok true := by
  simp [toSource, isKey]

theorem identify_key (isKey : snapshot.isKey name = true) : (snapshot.toSource.identify name).Gives (some .key) :=
  (gives_ofExcept (keyExists_key isKey)).bind ((gives_consult .identifier name).bind (gives_pure _))

theorem keyDown_level (snapshot : Snapshot) (name : String) :
    (snapshot.toSource.keyDown false name).Gives (snapshot.pressed.contains name) :=
  gives_ofExcept rfl

theorem keyHolds_key (isKey : snapshot.isKey name = true) :
    (snapshot.toSource.keyHolds false name).Gives (snapshot.pressed.contains name) :=
  ((gives_ofExcept (keyExists_key isKey)).bind (gives_consult .key name)).bind (snapshot.keyDown_level name)

theorem partHolds_key (isKey : snapshot.isKey name = true) (epsilon : Float) {manner : Manner}
    (level : manner.edge = false) :
    (snapshot.toSource.partHolds epsilon manner (.key name)).Gives (snapshot.pressed.contains name) := by
  refine (identify_key isKey).bind ?_
  rw [level]
  exact snapshot.keyDown_level name

theorem all_partHolds_keys {names : List String} (areKeys : ∀ name ∈ names, snapshot.isKey name = true)
    (epsilon : Float) {manner : Manner} (level : manner.edge = false) :
    (Inquiry.all (snapshot.toSource.partHolds epsilon manner) (names.map .key)).Gives
      (names.all snapshot.pressed.contains) := by
  induction names with
  | nil => exact gives_pure true
  | cons name others ih =>
      obtain ⟨isKey, othersAreKeys⟩ := List.forall_mem_cons.mp areKeys
      refine (partHolds_key isKey epsilon level).bind ?_
      rw [List.all_cons]
      cases snapshot.pressed.contains name with
      | false => exact gives_pure false
      | true => exact ih othersAreKeys

end Snapshot

namespace Binding

open Inquiry

/-- A binding that can be read, and whose one step asks for keys to be held: one for a standard rule, two for a
combo. -/
inductive Wants (binding : Binding) : List String → Prop
  | one {key : String} : binding.defect = none → binding.rule.kind = .standard →
      binding.descriptor.steps = [.single (.key key)] → Wants binding [key]
  | two {first second : String} : binding.defect = none → binding.rule.kind = .combo →
      binding.descriptor.steps = [.combo (.key first) (.key second)] → Wants binding [first, second]

variable {binding other : Binding} {keys : List String} {snapshot : Snapshot}

theorem Wants.of_rest (wants : binding.Wants keys) (same : other.rest = binding.rest) : other.Wants keys := by
  have sameDefect : other.defect = binding.defect := (congrArg Binding.defect same :)
  have sameRule : other.rule = binding.rule := (congrArg Binding.rule same :)
  have sameDescriptor : other.descriptor = binding.descriptor := (congrArg Binding.descriptor same :)
  cases wants with
  | one sound kind steps => exact .one (sameDefect ▸ sound) (sameRule ▸ kind) (sameDescriptor ▸ steps)
  | two sound kind steps => exact .two (sameDefect ▸ sound) (sameRule ▸ kind) (sameDescriptor ▸ steps)

theorem Wants.live (wants : binding.Wants keys) : binding.inert = false := by
  cases wants with
  | one sound _ steps | two sound _ steps => simp [inert, sound, Descriptor.isUnbound, steps]

theorem Wants.spend (wants : binding.Wants keys) (delta : Float) : binding.spend delta = binding := by
  cases wants with
  | one _ kind _ | two _ kind _ => simp [Binding.spend, isSequence, kind]

theorem Wants.judge (wants : binding.Wants keys) (areKeys : ∀ key ∈ keys, snapshot.isKey key = true)
    (epsilon : Float) :
    (binding.judge epsilon snapshot.toSource).Gives (if snapshot.Holds keys then .fire none else .pass) := by
  simp only [← Snapshot.all_contains_iff]
  cases wants with
  | @one key _ kind steps =>
      have isKey := areKeys key (by simp)
      simp only [Binding.judge, kind, steps, judgeStandard, List.all_cons, List.all_nil, Bool.and_true]
      exact (Snapshot.identify_key isKey).bind ((Snapshot.keyHolds_key isKey).bind (gives_pure _))
  | two _ kind steps =>
      simp only [Binding.judge, kind, steps]
      exact ((gives_pure _).bind (Snapshot.all_partHolds_keys areKeys epsilon rfl)).bind (gives_pure _)

end Binding

section Ticks

variable {keys : List String} {snapshot : Snapshot} {sink : Sink}

theorem Turn.take_wants {turn : Turn} (wants : turn.binding.Wants keys)
    (areKeys : ∀ key ∈ keys, snapshot.isKey key = true) (asks : turn.Asks snapshot.toSource) (index : Nat)
    (frame : Frame) (journal : Journal) :
    ((take index frame).perform turn journal).1.1 =
      .ok (if snapshot.Holds keys then some { mapping := index } else none) := by
  have spent : { turn with binding := turn.binding.spend frame.delta } = turn := by
    rw [wants.spend]
  have judged := wants.judge areKeys turn.resolver.epsilon
  obtain ⟨resolver, after, asked⟩ :
      ∃ resolver after, (Resolver.ask fun epsilon source => turn.binding.judge epsilon source).perform turn.resolver
        journal = ((.ok (if snapshot.Holds keys then .fire none else .pass), resolver), after) :=
    Resolver.ask_found asks judged journal
  simp only [take, inquire, perform_bind, perform_modify, perform_get, perform_focus, spent, asked]
  split
  · rfl
  · rfl

namespace Matcher

variable {binding : Binding} {matcher : Matcher} {index : Nat} {journal : Journal}

theorem matchBinding_wants (wants : binding.Wants keys) (areKeys : ∀ key ∈ keys, snapshot.isKey key = true)
    (asks : matcher.Asks snapshot.toSource) (index : Nat) {frame : Frame} (silent : frame.sink.Silent)
    (journal : Journal) :
    ((matchBinding index binding frame).perform matcher journal).1.1 =
      .ok { fired := if snapshot.Holds keys then some { mapping := index } else none } := by
  have turnAsks : Turn.Asks snapshot.toSource ⟨binding, matcher.resolver⟩ := asks
  have taken := Turn.take_wants wants areKeys turnAsks index frame journal
  simp only [matchBinding, perform_bind, perform_attempt, onTurn, perform_focus, taken]
  by_cases held : snapshot.Holds keys
  · simp [held, perform_bind, perform_invoke, silent { mapping := index }]
  · simp [held]

theorem tick_wants (found : matcher.table.bindings[index]? = some binding) (wants : binding.Wants keys)
    (areKeys : ∀ key ∈ keys, snapshot.isKey key = true) (silent : sink.Silent)
    (closed : matcher.capture.any Capture.isOpen = false) {delta : Float} {frame? : Option Int} {report : Report}
    (returned : ((tick sink snapshot.toSource delta frame?).perform matcher journal).1.1 = .ok report) :
    (report.fired.filter fun invocation => invocation.mapping = index) =
      if snapshot.Holds keys then [{ mapping := index }] else [] := by
  have accepted : ¬ delta < 0.0 := by
    intro refused
    rw [perform_tick_refused refused] at returned
    cases returned
  rw [perform_tick_uncaptured accepted closed, performTurns] at returned
  generalize frame?.getD (matcher.frame + 1) = number at returned
  have bound : (matcher.started snapshot.toSource number).Asks snapshot.toSource := rfl
  have inside := (List.getElem?_eq_some_iff.mp found).1
  obtain ⟨before, _, _, middle, between, _, _, reached, evaluated, fired, _⟩ :=
    matchAll_evaluates _ _ List.nodup_range (List.mem_range.mpr inside) _ _ bound found wants.live returned
  -- The turns before its own leave the source as it is.
  have leaves := matchAll_leaves ⟨number, delta, matcher.tracing, sink⟩ before
    (matcher.started snapshot.toSource number) journal bound
  rw [reached] at leaves
  have asks : middle.Asks snapshot.toSource := (view_of_essence leaves.1).2.trans bound
  rw [matchBinding_wants wants areKeys asks index silent between] at evaluated
  cases evaluated
  rw [fired]
  split
  · rfl
  · rfl

theorem tick_unedited (closed : matcher.capture.any Capture.isOpen = false) (sink : Sink) (source : Source)
    (delta : Float) (frame? : Option Int) (journal : Journal) :
    let left := ((tick sink source delta frame?).perform matcher journal).1.2
    left.table.rest = matcher.table.rest ∧ left.capture = matcher.capture := by
  by_cases refused : delta < 0.0
  · rw [perform_tick_refused refused]
    exact ⟨rfl, rfl⟩
  · rw [perform_tick_uncaptured refused closed]
    have leaves := matchAll_leaves ⟨frame?.getD (matcher.frame + 1), delta, matcher.tracing, sink⟩
      (List.range matcher.table.size) (matcher.started source (frame?.getD (matcher.frame + 1))) journal rfl
    exact ⟨congrArg Matcher.table leaves.1, (congrArg Matcher.capture leaves.1 :)⟩

end Matcher

end Ticks

theorem Run.state_unedited {run : Run} (closed : run.matcher.capture.any Capture.isOpen = false) (tick : Nat) :
    (run.state tick).1.table.rest = run.matcher.table.rest ∧ (run.state tick).1.capture = run.matcher.capture := by
  induction tick with
  | zero => exact ⟨rfl, rfl⟩
  | succ tick ih =>
      obtain ⟨sameTable, sameCapture⟩ := ih
      have stillClosed : (run.state tick).1.capture.any Capture.isOpen = false := by
        rw [sameCapture, closed]
      have kept := Matcher.tick_unedited stillClosed (run.moments tick).sink (run.moments tick).source
        (run.moments tick).delta (run.moments tick).frame? (run.state tick).2
      exact ⟨kept.1.trans sameTable, kept.2.trans sameCapture⟩

/-- A run that finds a table as it is but for progress, and no open capture, has a binding of the table fire, without
a value, in just those ticks in which keys are held. This is about the ticks over snapshots that have the keys, with
sinks that do not fail; what the others do does not matter. -/
def Table.FiresWhileHeld (table : Table) (position : Nat) (keys : List String) : Prop :=
  ∀ run : Run, run.matcher.table.rest = table.rest → run.matcher.capture.any Capture.isOpen = false →
    ∀ (tick : Nat) (snapshot : Snapshot), (run.moments tick).source = snapshot.toSource →
      (∀ key ∈ keys, snapshot.isKey key = true) → Sink.Silent (run.moments tick).sink →
      (∀ report, run.result tick = .ok report →
        (report.fired.filter fun invocation => invocation.mapping = position) =
          if snapshot.Holds keys then [{ mapping := position }] else []) ∧
      (¬ (run.moments tick).delta < 0.0 → (run.state tick).2.Admits Tolerable → ∃ report, run.result tick = .ok report)

theorem Binding.Wants.fires {table : Table} {position : Nat} {binding : Binding} {keys : List String}
    (wants : binding.Wants keys) (found : table.bindings[position]? = some binding) :
    table.FiresWhileHeld position keys := by
  intro run unedited closed tick snapshot source areKeys silent
  obtain ⟨sameTable, sameCapture⟩ := Run.state_unedited closed tick
  have stillClosed : (run.state tick).1.capture.any Capture.isOpen = false := by
    rw [sameCapture, closed]
  obtain ⟨now, foundNow, rested⟩ := Table.found_of_rest (sameTable.trans unedited) found
  simp only [Run.result, Run.endOf, source]
  refine ⟨fun report returned => ?_, fun accepted admits => ?_⟩
  · exact Matcher.tick_wants foundNow (wants.of_rest rested) areKeys silent stillClosed returned
  · have mild : (run.moments tick).sink.Within Fault.Mild := by
      intro invocation fault failed
      rw [silent invocation] at failed
      cases failed
    rw [Matcher.perform_tick_uncaptured accepted stillClosed]
    exact Matcher.turns_return (Source.toSource_within snapshot) mild admits

end InputBinding
