import InputBinding.Proofs.Ticks

/-!
Faults that come up in a tick are those that its source and its sink raise: matching adds none of its
own to them, as long as a standard binding has a single step. Where all faults are mild, every binding
has its turn and the tick returns.
-/

namespace InputBinding

/-- A fault that is reported and stops only the binding that it arose in: it is recoverable, and its message
can be made. -/
structure Fault.Mild (fault : Fault) : Prop where
  recoverable : fault.recoverable = true
  hasMessage : ∃ message, fault.message = .ok message

def Within (allowed : Fault → Prop) (result : Except Fault α) : Prop :=
  ∀ fault, result = .error fault → allowed fault

/-- A source that fails in no other ways than those allowed, if it is asked for the values of none but
its own axes. -/
structure Source.Within (allowed : Fault → Prop) (source : Source) : Prop where
  keyHeld : ∀ name, InputBinding.Within allowed (source.keyHeld name)
  keyJustPressed : ∀ name, InputBinding.Within allowed (source.keyJustPressed name)
  anyKeyJustPressed : InputBinding.Within allowed source.anyKeyJustPressed
  keyExists : ∀ name, InputBinding.Within allowed (source.keyExists name)
  axisExists : ∀ name, InputBinding.Within allowed (source.axisExists name)
  axisValue : ∀ name, source.axisExists name = .ok true → InputBinding.Within allowed (source.axisValue name)

def Sink.Within (allowed : Fault → Prop) (sink : Sink) : Prop :=
  ∀ invocation fault, (sink invocation).fault = some fault → allowed fault

variable {allowed : Fault → Prop}

@[simp] theorem within_ok (value : α) : Within allowed (.ok value : Except Fault α) := by
  intro fault impossible
  cases impossible

theorem within_error {fault : Fault} (allows : allowed fault) :
    Within allowed (.error fault : Except Fault α) := by
  rintro _ ⟨⟩
  exact allows

theorem exists_of_within {result : Except Fault α} (within : Within (fun _ => False) result) :
    ∃ value, result = .ok value := by
  cases result with
  | error fault => exact (within fault rfl).elim
  | ok value => exact ⟨value, rfl⟩

theorem Within.bind {result : Except Fault α} {next : α → Except Fault β} (first : Within allowed result)
    (later : ∀ value, result = .ok value → Within allowed (next value)) :
    Within allowed (result >>= next) := by
  cases result with
  | error fault => exact within_error (first fault rfl)
  | ok value => exact later value rfl

theorem Within.ask {inquiry : Inquiry α} {next : α → Inquiry β} (first : Within allowed inquiry.answer)
    (later : ∀ value, inquiry.answer = .ok value → Within allowed (next value).answer) :
    Within allowed (inquiry >>= next).answer := by
  rw [Inquiry.answer_bind]
  exact first.bind later

theorem Inquiry.all_within {test : α → Inquiry Bool} (items : List α)
    (each : ∀ item, Within allowed (test item).answer) : Within allowed (all test items).answer := by
  induction items with
  | nil => exact within_ok true
  | cons item rest ih =>
      apply (each item).ask
      intro passed _
      cases passed
      · exact within_ok false
      · exact ih

namespace Source

variable {source : Source}

theorem Within.mono {wider : Fault → Prop} (within : source.Within allowed)
    (widens : ∀ fault, allowed fault → wider fault) : source.Within wider where
  keyHeld name fault failed := widens fault (within.keyHeld name fault failed)
  keyJustPressed name fault failed := widens fault (within.keyJustPressed name fault failed)
  anyKeyJustPressed fault failed := widens fault (within.anyKeyJustPressed fault failed)
  keyExists name fault failed := widens fault (within.keyExists name fault failed)
  axisExists name fault failed := widens fault (within.axisExists name fault failed)
  axisValue name isAxis fault failed := widens fault (within.axisValue name isAxis fault failed)

theorem toSource_within (snapshot : Snapshot) : snapshot.toSource.Within allowed where
  keyHeld _ := within_ok _
  keyJustPressed _ := within_ok _
  anyKeyJustPressed := within_ok _
  keyExists _ := within_ok _
  axisExists _ := within_ok _
  axisValue name isAxis := by
    simp only [Snapshot.toSource, Snapshot.isAxis, Except.ok.injEq, Option.isSome_iff_exists] at isAxis ⊢
    obtain ⟨value, found⟩ := isAxis
    rw [found]
    exact within_ok value

theorem findKey_within (within : source.Within allowed) (name : String) :
    InputBinding.Within allowed (source.findKey name).answer :=
  Within.ask (within.keyExists name) fun found _ => within_ok found

theorem findAxis_within (within : source.Within allowed) (name : String) :
    InputBinding.Within allowed (source.findAxis name).answer :=
  Within.ask (within.axisExists name) fun found _ => within_ok found

theorem axisExists_of_findAxis {name : String} {found : Bool}
    (answered : (source.findAxis name).answer = .ok found) : source.axisExists name = .ok found := by
  obtain ⟨same, asked, consulted⟩ := Inquiry.answer_bind_ok answered
  cases consulted
  exact asked

theorem identify_within (within : source.Within allowed) (name : String) :
    InputBinding.Within allowed (source.identify name).answer := by
  refine Within.ask (within.keyExists name) ?_
  intro isKey _
  cases isKey
  · exact Within.ask (within.axisExists name) fun isAxis _ => Within.ask (within_ok isAxis) fun _ _ => within_ok _
  · exact Within.ask (within_ok true) fun _ _ => within_ok _

theorem keyDown_within (within : source.Within allowed) (edge : Bool) (name : String) :
    InputBinding.Within allowed (source.keyDown edge name).answer := by
  cases edge
  · exact within.keyHeld name
  · exact within.keyJustPressed name

theorem keyHolds_within (within : source.Within allowed) (edge : Bool) (name : String) :
    InputBinding.Within allowed (source.keyHolds edge name).answer := by
  refine Within.ask (findKey_within within name) ?_
  intro found _
  cases found
  · exact within_ok false
  · exact keyDown_within within edge name

theorem sampleAxis_within (within : source.Within allowed) (name : String) :
    InputBinding.Within allowed (source.sampleAxis name).answer := by
  refine Within.ask (findAxis_within within name) ?_
  intro found answered
  cases found
  · exact within_ok 0.0
  · exact within.axisValue name (axisExists_of_findAxis answered)

theorem axisHolds_within (within : source.Within allowed) (epsilon : Float) (test : AxisTest) :
    InputBinding.Within allowed (source.axisHolds epsilon test).answer := by
  refine Within.ask (findAxis_within within test.name) ?_
  intro found answered
  cases found
  · exact within_ok false
  · have value := within.axisValue test.name (axisExists_of_findAxis answered)
    exact Within.ask value fun value _ => within_ok _

theorem partHolds_within (within : source.Within allowed) (epsilon : Float) (manner : Manner) (part : Part) :
    InputBinding.Within allowed (source.partHolds epsilon manner part).answer := by
  cases part with
  | axis test => exact axisHolds_within within epsilon test
  | key name =>
      refine Within.ask (identify_within within name) ?_
      intro nature _
      rcases nature with _ | _ | _
      · exact within_ok false
      · exact keyDown_within within manner.edge name
      · exact axisHolds_within within epsilon _

theorem isSwapped_within (within : source.Within allowed) (left right : String) :
    InputBinding.Within allowed (source.isSwapped left right) := by
  apply (within.axisExists right).bind
  intro rightIsAxis _
  cases rightIsAxis
  · apply (within.keyExists right).bind
    intro rightIsKey _
    cases rightIsKey
    · exact within_ok false
    · apply (within.axisExists left).bind
      intro leftIsAxis _
      cases leftIsAxis
      · exact within_ok false
      · exact (within.keyExists left).bind fun leftIsKey _ => within_ok _
  · exact within_ok false

theorem partsOf_within (within : source.Within allowed) (step : Step) :
    InputBinding.Within allowed (source.partsOf step).answer := by
  cases step with
  | single part => exact within_ok _
  | diagonal first second key => exact within_ok _
  | combo left right =>
      cases left with
      | axis test => exact within_ok _
      | key left =>
          cases right with
          | key right => exact within_ok _
          | axis right =>
              refine Within.ask (isSwapped_within within left right.name) ?_
              intro swapped _
              cases swapped
              · exact within_ok _
              · exact within_ok _

theorem stepHolds_within (within : source.Within allowed) (epsilon : Float) (manner : Manner) (step : Step) :
    InputBinding.Within allowed (source.stepHolds epsilon manner step).answer :=
  Within.ask (partsOf_within within step) fun parts _ =>
    Inquiry.all_within parts (partHolds_within within epsilon manner)

theorem awaitsKey_within (within : source.Within allowed) (name : String) :
    InputBinding.Within allowed (source.awaitsKey name) := by
  apply (within.keyExists name).bind
  intro isKey _
  cases isKey
  · exact (within.axisExists name).bind fun isAxis _ => within_ok _
  · exact within_ok true

end Source

namespace Binding

variable {source : Source} {index : Nat} {delta epsilon : Float}

theorem judgeStandard_within (within : source.Within allowed) (part : Part) :
    Within allowed (judgeStandard source (.single part)).answer := by
  cases part with
  | axis test =>
      refine Within.ask (Source.findAxis_within within test.name) ?_
      intro found _
      cases found
      · exact within_ok _
      · exact Within.ask (Source.sampleAxis_within within test.name) fun value _ => within_ok _
  | key name =>
      refine Within.ask (Source.identify_within within name) ?_
      intro nature _
      rcases nature with _ | _ | _
      · exact within_ok _
      · exact Within.ask (Source.keyHolds_within within false name) fun held _ => within_ok _
      · exact Within.ask (Source.sampleAxis_within within name) fun value _ => within_ok _

theorem interruptedBy_within (within : source.Within allowed) (binding : Binding) (step : Step) :
    Within allowed (binding.interruptedBy source step) := by
  unfold interruptedBy
  split
  · exact within_ok false
  · apply within.anyKeyJustPressed.bind
    intro pressed _
    cases pressed
    · exact within_ok false
    · cases step.bareName? with
      | none => exact within_ok false
      | some name => exact Source.awaitsKey_within within name

theorem judgeSequence_within (within : source.Within allowed) (binding : Binding) :
    Within allowed (binding.judgeSequence epsilon source).answer := by
  unfold judgeSequence
  split
  · exact within_ok _
  · split
    · exact within_ok _
    · refine Within.ask (Source.stepHolds_within within epsilon _ _) ?_
      intro held _
      cases held
      · refine Within.ask (interruptedBy_within within binding _) ?_
        intro broken _
        cases broken
        · exact within_ok _
        · exact within_ok _
      · exact within_ok _

theorem steps_nonempty {binding : Binding} (live : binding.inert = false) : binding.descriptor.steps ≠ [] := by
  intro empty
  simp [inert, Descriptor.isUnbound, empty] at live

inductive Misfit (binding : Binding) : Fault → Prop
  | empty : binding.descriptor.steps = [] → Misfit binding .cursorOutOfRange
  | odd {step : Step} {others : List Step} : binding.rule.kind = .standard →
      binding.descriptor.steps = step :: others → (∀ part, step ≠ .single part) →
      Misfit binding (.unexpectedStep step)

theorem judge_within (within : source.Within allowed) (binding : Binding)
    (misfits : ∀ fault, binding.Misfit fault → allowed fault) :
    Within allowed (binding.judge epsilon source).answer := by
  unfold judge
  split
  · exact judgeSequence_within within binding
  · exact within_error (misfits _ (.empty ‹_›))
  · exact Within.ask (Source.stepHolds_within within epsilon _ _) fun held _ => within_ok _
  · rename_i step others kind steps
    cases step with
    | single part => exact judgeStandard_within within part
    | combo left right => exact within_error (misfits _ (.odd kind steps fun _ impossible => by cases impossible))
    | diagonal first second key =>
        exact within_error (misfits _ (.odd kind steps fun _ impossible => by cases impossible))

theorem judge_plain {binding : Binding} {verdict : Verdict} (plain : binding.rule.kind ≠ .sequence)
    (judged : (binding.judge epsilon source).answer = .ok verdict) :
    verdict = .pass ∨ ∃ value, verdict = .fire value := by
  unfold judge at judged
  split at judged
  · exact absurd ‹_› plain
  · cases judged
  · obtain ⟨held, _, judged⟩ := Inquiry.answer_bind_ok judged
    cases held
    · exact Or.inl (Except.ok.inj judged).symm
    · exact Or.inr ⟨_, (Except.ok.inj judged).symm⟩
  · rename_i step _ _ _
    cases step with
    | combo left right => cases judged
    | diagonal first second key => cases judged
    | single part =>
        cases part with
        | axis test =>
            obtain ⟨found, _, judged⟩ := Inquiry.answer_bind_ok judged
            cases found
            · exact Or.inl (Except.ok.inj judged).symm
            · obtain ⟨value, _, judged⟩ := Inquiry.answer_bind_ok judged
              exact Or.inr ⟨_, (Except.ok.inj judged).symm⟩
        | key name =>
            obtain ⟨nature, _, judged⟩ := Inquiry.answer_bind_ok judged
            rcases nature with _ | _ | _
            · exact Or.inl (Except.ok.inj judged).symm
            · obtain ⟨held, _, judged⟩ := Inquiry.answer_bind_ok judged
              cases held
              · exact Or.inl (Except.ok.inj judged).symm
              · exact Or.inr ⟨_, (Except.ok.inj judged).symm⟩
            · obtain ⟨value, _, judged⟩ := Inquiry.answer_bind_ok judged
              exact Or.inr ⟨_, (Except.ok.inj judged).symm⟩

theorem kind_of_advance {binding : Binding} (judged : (binding.judge epsilon source).answer = .ok .advance) :
    binding.rule.kind = .sequence := by
  by_contra plain
  rcases judge_plain plain judged with impossible | ⟨_, impossible⟩
  · cases impossible
  · cases impossible

theorem expected_of_advance {binding : Binding} (judged : (binding.judge epsilon source).answer = .ok .advance) :
    ∃ step, binding.expectedStep = some step := by
  have sequence := kind_of_advance judged
  rw [← Option.ne_none_iff_exists']
  intro nothing
  simp only [judge, sequence, judgeSequence, nothing] at judged
  split at judged
  · cases judged
  · cases judged

theorem take_within (index : Nat) (binding : Binding)
    (judged : Within allowed ((binding.spend delta).judge epsilon source).answer) :
    Within allowed (binding.take index delta epsilon source).1 := by
  unfold take
  split
  · exact within_error (judged _ ‹_›)
  · rename_i verdict answered
    cases verdict with
    | pass | fire _ | abandon _ | rewind => exact within_ok _
    | advance =>
        obtain ⟨step, expected⟩ := expected_of_advance answered
        simp [carryOut, moveOn, advance, expected, Except.map]

theorem Misfit.mild {binding : Binding} {fault : Fault} (misfit : binding.Misfit fault) : fault.Mild := by
  cases misfit with
  | empty => exact ⟨rfl, _, rfl⟩
  | odd => exact ⟨rfl, _, rfl⟩

theorem judge_raises (within : source.Within allowed) (includes : ∀ fault, fault.Mild → allowed fault)
    (binding : Binding) : Within allowed (binding.judge epsilon source).answer :=
  judge_within within binding fun fault misfit => includes fault misfit.mild

theorem judge_mild (mild : source.Within Fault.Mild) (binding : Binding) :
    Within Fault.Mild (binding.judge epsilon source).answer :=
  judge_raises mild (fun _ => id) binding

theorem endure_mild {fault : Fault} (mild : fault.Mild) (outcome : Outcome) (binding : Binding) :
    binding.endure outcome fault = (.ok { outcome with faulted := true }, binding.rest) := by
  obtain ⟨message, told⟩ := mild.hasMessage
  simp [endure, mild.recoverable, told, Except.map]

theorem play_mild {sink : Sink} (mild : source.Within Fault.Mild) (mildSink : sink.Within Fault.Mild)
    (binding : Binding) : ∃ outcome, (binding.play index delta epsilon source sink).1 = .ok outcome := by
  have taken : Within Fault.Mild (binding.take index delta epsilon source).1 :=
    take_within index binding (judge_mild mild _)
  unfold play
  split
  · exact ⟨_, rfl⟩
  · rcases took : binding.take index delta epsilon source with ⟨fault | _ | invocation, after⟩
    · rw [took] at taken
      exact ⟨_, congrArg Prod.fst (endure_mild (taken fault rfl) {} after)⟩
    · exact ⟨_, rfl⟩
    · cases answered : (sink invocation).fault with
      | none => exact ⟨{ fired := some invocation }, by simp [answered]⟩
      | some fault =>
          simp only [answered]
          exact ⟨_, congrArg Prod.fst (endure_mild (mildSink invocation fault answered) _ after)⟩

end Binding

namespace Matcher

theorem matchAll_returns (frame : Frame) {source : Source} (indices : List Nat)
    (distinct : indices.Nodup)
    (matcher : Matcher) {journal : Journal} (quiet : journal.Quiet)
    (bound : matcher.resolver.source = some source)
    (ends : ∀ index ∈ indices, ∀ binding, matcher.table.bindings[index]? = some binding →
      ∃ outcome, (binding.play index frame.delta matcher.resolver.epsilon source frame.sink).1 = .ok outcome) :
    ∃ report, ((matchAll frame indices).perform matcher journal).1.1 = .ok report := by
  induction indices generalizing matcher journal with
  | nil => exact ⟨_, rfl⟩
  | cons index others ih =>
      obtain ⟨fresh, distinctOthers⟩ := List.nodup_cons.mp distinct
      have leaves := matchAt_leaves index frame matcher journal bound
      have first : ∃ outcome, ((matchAt index frame).perform matcher journal).1.1 = .ok outcome := by
        cases found : matcher.table.bindings[index]? with
        | none => exact ⟨{}, by simp [matchAt, found, Journaled.perform_bind]⟩
        | some binding =>
            obtain ⟨outcome, ended⟩ := ends index (List.mem_cons_self) binding found
            have turned := matchAt_turned index frame journal bound found
            exact ⟨outcome, (turned.quiet quiet).2.1.trans ended⟩
      rw [perform_matchAll_cons]
      rcases performed : (matchAt index frame).perform matcher journal with
        ⟨⟨fault | outcome, middle⟩, between⟩
      · obtain ⟨outcome, impossible⟩ := first
        rw [performed] at impossible
        cases impossible
      · rw [performed] at leaves
        have view := view_of_essence (essence_of_outline leaves.1)
        obtain ⟨report, later⟩ := ih distinctOthers middle (leaves.2.1 quiet) (view.2.trans bound)
          fun other member binding found => by
            have different : index ≠ other := fun same => fresh (same ▸ member)
            rw [elsewhere_of_outline leaves.1 different] at found
            rw [view.1]
            exact ends other (List.mem_cons_of_mem _ member) binding found
        exact ⟨report.add index outcome, by simp [later, Except.map]⟩

end Matcher

end InputBinding
