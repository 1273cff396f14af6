import InputBinding.Proofs.Announcements
import InputBinding.Proofs.Independence

/-!
How far a fault reaches. A recoverable fault of a source, a sink or a subscriber stops only the binding
in whose turn it comes up, as long as it can be reported. The report is made outside the protected part
of the turn: the whole tick stops if there is no message of the fault, and if a subscriber fails on the
event that reports it.
-/

namespace InputBinding

/-- A fault that a subscriber may raise on an event without stopping the tick. -/
def Tolerable (event : Event) (fault : Fault) : Prop :=
  fault.Mild ∧ event.name ≠ "mapping.fault"

/-- The faults that come up around a tick, all of them recoverable, and the events that subscribers fail on. -/
structure Hazards where
  raised : Fault → Prop
  failing : Event → Fault → Prop
  recoverable : ∀ fault, raised fault → fault.recoverable = true
  heard : ∀ event fault, failing event fault → raised fault

namespace Hazards

def Arising (hazards : Hazards) (fault : Fault) : Prop :=
  hazards.raised fault ∨ fault.Mild

/-- What comes of a fault that cannot be reported: there is no message of it, or a subscriber fails on the report. -/
inductive Unreported (hazards : Hazards) : Fault → Prop
  | untold {cause fault : Fault} : hazards.raised cause → cause.message = .error fault → Unreported hazards fault
  | unheard {cause fault : Fault} {message : String} {tick : Int} {index : Nat} : hazards.Arising cause →
      cause.message = .ok message → hazards.failing (.fault tick index cause.name message) fault →
      Unreported hazards fault

theorem Arising.recoverable {hazards : Hazards} {fault : Fault} (arising : hazards.Arising fault) :
    fault.recoverable = true := by
  rcases arising with raised | mild
  · exact hazards.recoverable fault raised
  · exact mild.recoverable

def tolerable : Hazards where
  raised := Fault.Mild
  failing := Tolerable
  recoverable _ mild := mild.recoverable
  heard _ _ tolerable := tolerable.1

theorem all_reported (fault : Fault) : ¬ tolerable.Unreported fault := by
  rintro (⟨mild, failed⟩ | ⟨_, _, failed⟩)
  · obtain ⟨message, told⟩ := mild.hasMessage
    cases told.symm.trans failed
  · exact failed.2 rfl

end Hazards

def Endures (hazards : Hazards) (good : σ → Prop) (action : Journaled σ α) : Prop :=
  Journaled.Keeps hazards.failing good (Within hazards.Arising) action

/-- Whatever subscribers do, an action keeps an invariant, and it returns unless a fault goes unreported. -/
def Returns (hazards : Hazards) (good : σ → Prop) (action : Journaled σ α) : Prop :=
  Journaled.Keeps hazards.failing good (Within hazards.Unreported) action

open Journaled

variable {hazards : Hazards} {good : σ → Prop} {action : Journaled σ α} {source : Source}

theorem endures_note (notice : Notice) : Endures hazards good (note notice) :=
  keeps_note notice (within_ok ())

theorem endures_announce (event : Event) : Endures hazards good (announce event) :=
  keeps_announce (within_ok ()) fun _ failed => within_error (Or.inl (hazards.heard _ _ failed))

theorem Endures.bind {next : α → Journaled σ β} (first : Endures hazards good action)
    (later : ∀ value, Endures hazards good (next value)) : Endures hazards good (action >>= next) :=
  Keeps.bind first (fun _ ended => within_error (ended _ rfl)) fun value _ => later value

theorem Returns.bind {next : α → Journaled σ β} (first : Returns hazards good action)
    (later : ∀ value, Returns hazards good (next value)) : Returns hazards good (action >>= next) :=
  Keeps.bind first (fun _ ended => within_error (ended _ rfl)) fun value _ => later value

namespace Resolver

def Asks (source : Source) (resolver : Resolver) : Prop :=
  resolver.source = some source

theorem report_endures (consultation : Consultation) : Endures hazards (Asks source) (report consultation) := by
  have learned (resolver : Resolver) (asks : resolver.Asks source) (unknown : List Marker) :
      Endures hazards (Asks source) (set { resolver with unknown }) := keeps_set (within_ok _) asks
  unfold report
  apply Keeps.get
  intro resolver asks
  dsimp only
  split
  · exact (learned resolver asks _).bind fun _ => endures_note _
  · split
    · exact (learned resolver asks _).bind fun _ => (endures_note _).bind fun _ => endures_announce _
    · exact keeps_pure (within_ok _)

theorem reportAll_endures (consultations : List Consultation) :
    Endures hazards (Asks source) (reportAll consultations) := by
  induction consultations with
  | nil => exact keeps_pure (within_ok ())
  | cons consultation rest ih => exact (report_endures consultation).bind fun _ => ih

theorem ask_endures {inquire : Float → Source → Inquiry α}
    (arising : ∀ epsilon, Within hazards.Arising (inquire epsilon source).answer) :
    Endures hazards (Asks source) (ask inquire) := by
  unfold ask
  apply Keeps.get
  intro resolver asks
  have bound : resolver.source = some source := asks
  simp only [bound]
  exact (reportAll_endures _).bind fun _ => keeps_ofExcept (arising _)

end Resolver

namespace Turn

def Asks (source : Source) (turn : Turn) : Prop :=
  turn.resolver.Asks source

theorem rest_endures : Endures hazards (Asks source) rest :=
  keeps_modify (within_ok _) fun _ asks => asks

theorem abandon_endures (index : Nat) (tick : Int) (reason : Abandonment) :
    Endures hazards (Asks source) (abandon index tick reason) := by
  unfold abandon
  apply Keeps.get
  intro turn _
  exact (endures_note _).bind fun _ => (endures_announce _).bind fun _ => rest_endures

theorem conclude_endures (index : Nat) (frame : Frame) (binding : Binding) :
    Endures hazards (Asks source) (conclude index frame binding) := by
  unfold conclude
  split
  · exact (endures_note _).bind fun _ => (endures_announce _).bind fun _ =>
      rest_endures.bind fun _ => keeps_pure (within_ok _)
  · exact (endures_announce _).bind fun _ => keeps_pure (within_ok _)

theorem advance_endures (index : Nat) (frame : Frame) : Endures hazards (Asks source) (advance index frame) := by
  have arising (binding : Binding) : Within hazards.Arising binding.advance := by
    unfold Binding.advance
    split
    · exact within_error (Or.inr ⟨rfl, _, rfl⟩)
    · exact within_ok _
  unfold advance
  apply Keeps.get
  intro turn asks
  have moved : Endures hazards (Asks source) (Journaled.ofExcept turn.binding.advance) := keeps_ofExcept (arising _)
  apply moved.bind
  intro binding
  have stored : Endures hazards (Asks source) (set { turn with binding }) := keeps_set (within_ok _) asks
  apply stored.bind
  intro _
  dsimp only
  split
  · exact (endures_note _).bind fun _ => conclude_endures index frame binding
  · exact conclude_endures index frame binding

theorem carryOut_endures (index : Nat) (frame : Frame) (verdict : Verdict) :
    Endures hazards (Asks source) (carryOut index frame verdict) := by
  cases verdict with
  | pass | fire _ => exact keeps_pure (within_ok _)
  | rewind => exact rest_endures.bind fun _ => keeps_pure (within_ok _)
  | abandon reason => exact (abandon_endures index frame.tick reason).bind fun _ => keeps_pure (within_ok _)
  | advance => exact (advance_endures index frame).bind fun _ => keeps_pure (within_ok _)

theorem take_endures (within : source.Within hazards.raised) (index : Nat) (frame : Frame) :
    Endures hazards (Asks source) (take index frame) := by
  have spent : Endures hazards (Asks source)
      (modify fun turn : Turn => { turn with binding := turn.binding.spend frame.delta }) :=
    keeps_modify (within_ok _) fun _ asks => asks
  have arising : source.Within hazards.Arising := within.mono fun _ => Or.inl
  have judged (binding : Binding) :
      Endures hazards (Asks source) (inquire fun epsilon source => binding.judge epsilon source) :=
    (Resolver.ask_endures fun _ => Binding.judge_raises arising (fun _ => Or.inr) binding).focus
      (fun _ asks => asks) fun _ _ _ asks => asks
  unfold take
  apply spent.bind
  intro _
  apply Keeps.get
  intro turn _
  exact (judged turn.binding).bind fun verdict => carryOut_endures index frame verdict

end Turn

namespace Matcher

def Asks (source : Source) (matcher : Matcher) : Prop :=
  matcher.resolver.Asks source

theorem invoke_endures {sink : Sink} (within : sink.Within hazards.raised) (invocation : Invocation) :
    Endures hazards (Asks source) (invoke sink invocation) := by
  intro matcher journal asks admits
  rw [perform_invoke]
  refine ⟨?_, asks, admits⟩
  cases answered : (sink invocation).fault with
  | none => exact within_ok ()
  | some fault => exact within_error (Or.inl (within invocation fault answered))

theorem contain_returns (index : Nat) (tick : Int) {fault : Fault} (arising : hazards.Arising fault) :
    Returns hazards (Asks source) (contain index tick fault) := by
  have reported : Returns hazards (Asks source) (do
      let message ← Journaled.ofExcept fault.message
      announce (.fault tick index fault.name message)) := by
    cases told : fault.message with
    | error other =>
        have raised : hazards.raised fault := by
          refine arising.resolve_right fun mild => ?_
          obtain ⟨message, spoken⟩ := mild.hasMessage
          cases told.symm.trans spoken
        exact keeps_throw (within_error (.untold raised told))
    | ok message =>
        refine keeps_announce (within_ok ()) fun other failed => within_error ?_
        rw [Event.normalised_fault] at failed
        exact .unheard arising told failed
  have noted (notice : Notice) : Returns hazards (Asks source) (note notice) := keeps_note notice (within_ok ())
  have rested (binding : Binding) : Returns hazards (Asks source)
      (modify fun matcher : Matcher => { matcher with table := matcher.table.put index binding.rest }) :=
    keeps_modify (within_ok _) fun _ asks => asks
  unfold contain
  simp only [arising.recoverable, Bool.not_true, Bool.false_eq_true, if_false]
  apply Keeps.get
  intro matcher _
  split
  · exact reported
  · exact (noted _).bind fun _ => (rested _).bind fun _ => reported

theorem onTurn_endures (within : source.Within hazards.raised) (index : Nat) (binding : Binding) (frame : Frame) :
    Endures hazards (Asks source) (onTurn index binding (Turn.take index frame)) :=
  (Turn.take_endures within index frame).focus (fun _ asks => asks) fun _ _ _ asks => asks

theorem matchBinding_returns (within : source.Within hazards.raised) (index : Nat) (binding : Binding) {frame : Frame}
    (withinSink : frame.sink.Within hazards.raised) :
    Returns hazards (Asks source) (matchBinding index binding frame) := by
  have contained {fault : Fault} (arising : hazards.Arising fault) (outcome : Outcome) :
      Returns hazards (Asks source) (do contain index frame.tick fault; return outcome) :=
    (contain_returns index frame.tick arising).bind fun _ => keeps_pure (within_ok _)
  unfold matchBinding
  apply Keeps.bind (onTurn_endures within index binding frame).attempt
  · rintro fault ⟨_, impossible, _⟩
    cases impossible
  · rintro taken ⟨_, ⟨⟩, arisingTaken⟩
    rcases taken with fault | _ | invocation
    · exact contained (arisingTaken fault rfl) _
    · exact keeps_pure (within_ok _)
    · apply Keeps.bind (invoke_endures withinSink invocation).attempt
      · rintro fault ⟨_, impossible, _⟩
        cases impossible
      · rintro invoked ⟨_, ⟨⟩, arisingInvoked⟩
        rcases invoked with fault | _
        · exact contained (arisingInvoked fault rfl) _
        · exact keeps_pure (within_ok _)

theorem matchAt_returns (within : source.Within hazards.raised) (index : Nat) {frame : Frame}
    (withinSink : frame.sink.Within hazards.raised) :
    Returns hazards (Asks source) (matchAt index frame) := by
  unfold matchAt
  apply Keeps.get
  intro matcher _
  split
  · exact keeps_pure (within_ok _)
  · split
    · exact keeps_pure (within_ok _)
    · exact matchBinding_returns within index _ withinSink

theorem matchAll_contained (within : source.Within hazards.raised) (frame : Frame)
    (withinSink : frame.sink.Within hazards.raised) (indices : List Nat) :
    Returns hazards (Asks source) (matchAll frame indices) := by
  induction indices with
  | nil => exact keeps_pure (within_ok _)
  | cons index others ih =>
      exact (matchAt_returns within index withinSink).bind fun _ => ih.bind fun _ => keeps_pure (within_ok _)

/-- In the turns that led to a report, a binding was matched as it had been before them, after the turns
of the indices before its own, and the report says what came of it. -/
def Evaluates (frame : Frame) (indices : List Nat) (matcher : Matcher) (journal : Journal) (report : Report)
    (index : Nat) (binding : Binding) : Prop :=
  ∃ before after earlier middle between outcome,
    indices = before ++ index :: after ∧
    (matchAll frame before).perform matcher journal = ((.ok earlier, middle), between) ∧
    ((matchBinding index binding frame).perform middle between).1.1 = .ok outcome ∧
    (report.fired.filter fun invocation => invocation.mapping = index) = outcome.fired.toList ∧
    (index ∈ report.faulted ↔ outcome.faulted = true)

theorem perform_matchAt_live {index : Nat} {frame : Frame} {binding : Binding} {matcher : Matcher}
    (journal : Journal) (found : matcher.table.bindings[index]? = some binding) (live : binding.inert = false) :
    (matchAt index frame).perform matcher journal = (matchBinding index binding frame).perform matcher journal := by
  simp [matchAt, found, live, Journaled.perform_bind]

theorem matchAll_evaluates (frame : Frame) {source : Source} {index : Nat} {binding : Binding}
    (indices : List Nat) (distinct : indices.Nodup) (listed : index ∈ indices) (matcher : Matcher)
    (journal : Journal) (asks : matcher.Asks source)
    (found : matcher.table.bindings[index]? = some binding) (live : binding.inert = false) {report : Report}
    (returned : ((matchAll frame indices).perform matcher journal).1.1 = .ok report) :
    Evaluates frame indices matcher journal report index binding := by
  induction indices generalizing matcher journal report with
  | nil => simp at listed
  | cons first others ih =>
      obtain ⟨fresh, distinctOthers⟩ := List.nodup_cons.mp distinct
      have leaves := matchAt_leaves first frame matcher journal asks
      rw [perform_matchAll_cons] at returned
      rcases performed : (matchAt first frame).perform matcher journal with
        ⟨⟨fault | outcome, middle⟩, between⟩
      · simp [performed] at returned
      · rw [performed] at leaves returned
        have view := view_of_essence (essence_of_outline leaves.1)
        have asksMiddle : middle.Asks source := view.2.trans asks
        obtain ⟨rest, later, rfl⟩ := map_eq_ok returned
        have ownFired := leaves.2.2 outcome rfl
        -- Its own turn is this one, or comes among the later ones, which find its binding untouched.
        by_cases here : first = index
        · subst here
          rw [perform_matchAt_live journal found live] at performed
          obtain ⟨_, _, _, reported⟩ := matchAll_leaves frame others middle between asksMiddle
          obtain ⟨_, mappings, faults⟩ := reported rest later
          refine ⟨[], others, { frame := frame.tick }, matcher, journal, outcome, rfl, rfl, by rw [performed], ?_, ?_⟩
          · apply Report.fired_add_own ownFired
            intro invocation member same
            exact fresh (same ▸ mappings invocation member)
          · have restFaulted : first ∉ rest.faulted := fun member => fresh (faults first member)
            simp [Report.mem_faulted_add, restFaulted]
        · have foundMiddle := (elsewhere_of_outline leaves.1 here).trans found
          have listedLater : index ∈ others := (List.mem_cons.mp listed).resolve_left (Ne.symm here)
          obtain ⟨before, after, earlier, last, closing, own, rfl, reached, evaluated, restFired, restFaulted⟩ :=
            ih distinctOthers listedLater middle between asksMiddle foundMiddle later
          refine ⟨first :: before, after, earlier.add first outcome, last, closing, own, rfl, ?_, evaluated, ?_, ?_⟩
          · rw [perform_matchAll_cons, performed]
            simp [reached, Except.map]
          · rw [Report.fired_add_other ownFired here, restFired]
          · simp [Report.mem_faulted_add, Ne.symm here, restFaulted]

theorem turns_return (mild : source.Within Fault.Mild) {sink : Sink} (mildSink : sink.Within Fault.Mild)
    {journal : Journal} (admits : journal.Admits Tolerable) {delta : Float} {frame? : Option Int} {matcher : Matcher} :
    ∃ report, (performTurns sink source delta frame? matcher journal).1.1 = .ok report := by
  have turns : Returns Hazards.tolerable (Asks source)
      (matchAll ⟨frame?.getD (matcher.frame + 1), delta, matcher.tracing, sink⟩ (List.range matcher.table.size)) :=
    matchAll_contained mild _ mildSink _
  have ended := (turns (matcher.started source (frame?.getD (matcher.frame + 1))) journal rfl admits).1
  exact exists_of_within fun fault failed => Hazards.all_reported fault (ended fault failed)

/-- If no capture is open and all faults that come up are recoverable, then a tick returns and evaluates every
binding that is not inert, unless a fault cannot be reported: then the tick stops with what comes of that. -/
theorem tick_contained (hazards : Hazards) {source : Source} (within : source.Within hazards.raised) {sink : Sink}
    (withinSink : sink.Within hazards.raised) {journal : Journal} (admits : journal.Admits hazards.failing)
    {matcher : Matcher} (closed : matcher.capture.any Capture.isOpen = false) {delta : Float}
    (accepted : ¬ delta < 0.0) (frame? : Option Int) :
    let ended := (tick sink source delta frame?).perform matcher journal
    (∃ report, ended.1.1 = .ok report ∧
      ∀ (index : Nat) (binding : Binding), matcher.table.bindings[index]? = some binding → binding.inert = false →
        let number := frame?.getD (matcher.frame + 1)
        Evaluates ⟨number, delta, matcher.tracing, sink⟩ (List.range matcher.table.size)
          (matcher.started source number) journal report index binding) ∨
    ∃ fault, ended.1.1 = .error fault ∧ hazards.Unreported fault := by
  rw [perform_tick_uncaptured accepted closed, performTurns]
  dsimp only
  generalize frame?.getD (matcher.frame + 1) = number
  have asks : (matcher.started source number).Asks source := rfl
  have ended := (matchAll_contained within ⟨number, delta, matcher.tracing, sink⟩ withinSink
    (List.range matcher.table.size) _ _ asks admits).1
  cases returned : ((matchAll ⟨number, delta, matcher.tracing, sink⟩ (List.range matcher.table.size)).perform
      (matcher.started source number) journal).1.1 with
  | error fault => exact Or.inr ⟨fault, rfl, ended fault returned⟩
  | ok report =>
      refine Or.inl ⟨report, rfl, ?_⟩
      intro index binding found live
      have inside := (List.getElem?_eq_some_iff.mp found).1
      exact matchAll_evaluates _ _ List.nodup_range (List.mem_range.mpr inside) _ _ asks found live returned

def threeKeys : Matcher where
  table := { limit := 3, bindings := [
    Binding.ofRule none { descriptor := "a" },
    Binding.ofRule none { descriptor := "b" },
    Binding.ofRule none { descriptor := "c" }] }

def twoHeld : Snapshot := { pressed := ["a", "b"], known := some ["a", "b"] }

def failingOn (name : String) : Journal where
  channel := some { history := { capacity := 8 }, subscribers := [⟨1, fun event =>
    if event.name = name then some (.foreign "ValueError" [.value] (.ok "no display")) else none⟩] }

theorem failingOn_admits (name : String) :
    (failingOn name).Admits fun event fault => fault.Mild ∧ event.name = name := by
  rintro channel ⟨⟩ subscriber member event fault failed
  cases List.mem_singleton.mp member
  dsimp only at failed
  split at failed
  · cases failed
    exact ⟨⟨rfl, _, rfl⟩, ‹_›⟩
  · cases failed

theorem tick_contained_unknown_key :
    let ended := (tick Run.refusingSink twoHeld.toSource 0.0 none).perform threeKeys
      (failingOn "mapping.unknown_identifier")
    ∃ report, ended.1.1 = .ok report ∧ report.fired = [⟨0, none⟩, ⟨1, none⟩] ∧ report.faulted = [0, 2] ∧
      Evaluates ⟨0, 0.0, false, Run.refusingSink⟩ [0, 1, 2] (threeKeys.started twoHeld.toSource 0)
        (failingOn "mapping.unknown_identifier") report 1 (Binding.ofRule none { descriptor := "b" }) := by
  have admits : (failingOn "mapping.unknown_identifier").Admits Tolerable := by
    refine (failingOn_admits _).mono ?_
    rintro event fault ⟨mild, named⟩
    refine ⟨mild, ?_⟩
    rw [named]
    decide
  have closed : threeKeys.capture.any Capture.isOpen = false := rfl
  have accepted : ¬ (0.0 : Float) < 0.0 := by decide
  intro ended
  have computed : ended.1.1 =
      .ok { frame := 0, fired := [⟨0, none⟩, ⟨1, none⟩], faulted := [0, 2] } := rfl
  rcases tick_contained Hazards.tolerable (Source.toSource_within twoHeld) Run.refusingSink_mild admits closed accepted
    none with ⟨report, returned, evaluated⟩ | ⟨fault, _, unreported⟩
  · cases returned.symm.trans computed
    exact ⟨_, computed, rfl, rfl, evaluated 1 _ rfl rfl⟩
  · exact absurd unreported (Hazards.all_reported fault)

/-- All faults are recoverable here, but the second key is never looked at: reporting the fault of the
first one fails. -/
theorem report_stops_tick :
    let ended := (tick Run.refusingSink twoHeld.toSource 0.0 none).perform threeKeys (failingOn "mapping.fault")
    (failingOn "mapping.fault").Admits (fun _ fault => fault.recoverable = true) ∧
      twoHeld.toSource.Within (fun fault => fault.recoverable = true) ∧
      Run.refusingSink.Within (fun fault => fault.recoverable = true) ∧
      threeKeys.capture.any Capture.isOpen = false ∧ ¬ (0.0 : Float) < 0.0 ∧
      ended.1.1 = .error (.foreign "ValueError" [.value] (.ok "no display")) ∧
      ended.1.2.invocations = #[⟨0, none⟩] := by
  refine ⟨?_, Source.toSource_within twoHeld, ?_, rfl, by decide, rfl, rfl⟩
  · exact (failingOn_admits _).mono fun _ _ both => both.1.recoverable
  · exact fun invocation fault failed => (Run.refusingSink_mild invocation fault failed).recoverable

def speechlessSink : Sink := fun _ =>
  { fault := some (.foreign "ValueError" [.value] (.error (.foreign "ValueError" [.value] (.ok "too many digits")))) }

example : ((tick speechlessSink twoHeld.toSource 0.0 none).perform threeKeys {}).1.1 =
    .error (.foreign "ValueError" [.value] (.ok "too many digits")) := rfl

end Matcher

end InputBinding
