import InputBinding.Proofs.DeferredReading
import InputBinding.Proofs.Loading

/-!
Two runs over the same input, one with declared axis names and one that leaves them to the source, do
the same in every tick.
-/

namespace InputBinding

namespace Binding

variable {names : List String} {binding other : Binding} {source : Source} {epsilon : Float}

theorem Defers.of_rest {after otherAfter : Binding} (defers : Defers names binding other)
    (same : after.rest = binding.rest) (otherSame : otherAfter.rest = other.rest)
    (cursor : otherAfter.cursor = after.cursor) (elapsed : otherAfter.elapsed = after.elapsed) :
    Defers names after otherAfter := by
  have rule : after.rule = binding.rule := (congrArg Binding.rule same :)
  have otherRule : otherAfter.rule = other.rule := (congrArg Binding.rule otherSame :)
  have descriptor : after.descriptor = binding.descriptor := (congrArg Binding.descriptor same :)
  have otherDescriptor : otherAfter.descriptor = other.descriptor := (congrArg Binding.descriptor otherSame :)
  have defect : after.defect = binding.defect := (congrArg Binding.defect same :)
  have otherDefect : otherAfter.defect = other.defect := (congrArg Binding.defect otherSame :)
  constructor
  · rw [rule, otherRule, defers.rule]
  · rw [defect, otherDefect, defers.defect]
  · rw [rule, descriptor, otherDescriptor]
    exact defers.steps
  · rw [rule, descriptor]
    exact defers.single
  · exact cursor
  · exact elapsed

theorem Defers.rest (defers : Defers names binding other) : Defers names binding.rest other.rest :=
  defers.of_rest rfl rfl rfl rfl

theorem Defers.spend (defers : Defers names binding other) (delta : Float) :
    Defers names (binding.spend delta) (other.spend delta) := by
  have cursor := (spend_cursor delta binding).1
  have otherCursor := (spend_cursor delta other).1
  refine defers.of_rest (rest_spend delta binding) (rest_spend delta other) ?_ ?_
  · rw [cursor, otherCursor, defers.cursor]
  · have counting : (other.isSequence && other.inProgress) = (binding.isSequence && binding.inProgress) := by
      simp only [isSequence, inProgress, defers.rule, defers.cursor]
    unfold Binding.spend
    rw [counting]
    by_cases counts : (binding.isSequence && binding.inProgress) = true
    · simp only [counts, if_true, defers.elapsed]
    · rw [Bool.not_eq_true] at counts
      simp only [counts, Bool.false_eq_true, if_false, defers.elapsed]

theorem Defers.complete (defers : Defers names binding other) : other.complete = binding.complete := by
  simp only [Binding.complete, defers.isEmpty, defers.cursor, defers.steps.length_eq]

theorem Defers.moveOn (defers : Defers names binding other) :
    other.moveOn.1 = binding.moveOn.1 ∧ Defers names binding.moveOn.2 other.moveOn.2 := by
  rcases defers.expected with ⟨expected, otherExpected⟩ | ⟨step, deferred, expected, otherExpected, _⟩
  · simp only [Binding.moveOn, advance, expected, otherExpected, true_and]
    exact defers
  · have advanced : Defers names
        { binding with matched := binding.matched ++ [step.format], cursor := binding.cursor + 1 }
        { other with matched := other.matched ++ [deferred.format], cursor := other.cursor + 1 } :=
      defers.of_rest rfl rfl (congrArg (· + 1) defers.cursor) defers.elapsed
    simp only [Binding.moveOn, advance, expected, otherExpected, advanced.complete, true_and]
    by_cases complete : Binding.complete
        { binding with matched := binding.matched ++ [step.format], cursor := binding.cursor + 1 } = true
    · simp only [complete, if_true]
      exact advanced.rest
    · rw [Bool.not_eq_true] at complete
      simp only [complete, Bool.false_eq_true, if_false]
      exact advanced

theorem Defers.carryOut (defers : Defers names binding other) (index : Nat) (verdict : Verdict) :
    (other.carryOut index verdict).1 = (binding.carryOut index verdict).1 ∧
      Defers names (binding.carryOut index verdict).2 (other.carryOut index verdict).2 := by
  cases verdict with
  | pass | fire value => exact ⟨rfl, defers⟩
  | abandon reason | rewind => exact ⟨rfl, defers.rest⟩
  | advance =>
      obtain ⟨same, later⟩ := defers.moveOn
      simp only [Binding.carryOut, same]
      exact ⟨trivial, later⟩

theorem Defers.take (declares : source.Declares names) (defers : Defers names binding other)
    (index : Nat)
    (delta epsilon : Float) :
    (other.take index delta epsilon source).1 = (binding.take index delta epsilon source).1 ∧
      Defers names (binding.take index delta epsilon source).2 (other.take index delta epsilon source).2 := by
  have spent := defers.spend delta
  unfold Binding.take
  rw [judge_deferred declares spent]
  split
  · exact ⟨rfl, spent⟩
  · exact spent.carryOut index _

theorem Defers.endure (defers : Defers names binding other) (outcome : Outcome) (fault : Fault) :
    (other.endure outcome fault).1 = (binding.endure outcome fault).1 ∧
      Defers names (binding.endure outcome fault).2 (other.endure outcome fault).2 := by
  unfold Binding.endure
  split
  · exact ⟨rfl, defers.rest⟩
  · exact ⟨rfl, defers⟩

theorem Defers.play {sink otherSink : Sink} (declares : source.Declares names)
    (defers : Defers names binding other) (index : Nat) (delta : Float)
    (sinks : ∀ invocation, (otherSink invocation).fault = (sink invocation).fault) :
    (other.play index delta epsilon source otherSink).1 = (binding.play index delta epsilon source sink).1 ∧
      Defers names (binding.play index delta epsilon source sink).2
        (other.play index delta epsilon source otherSink).2 := by
  unfold Binding.play
  rw [defers.inert]
  split
  · exact ⟨rfl, defers⟩
  · obtain ⟨same, later⟩ := defers.take declares index delta epsilon
    rcases took : binding.take index delta epsilon source with ⟨result, after⟩
    rcases otherTook : other.take index delta epsilon source with ⟨otherResult, otherAfter⟩
    rw [took, otherTook] at same later
    cases same
    rcases result with fault | _ | invocation
    · exact later.endure {} fault
    · exact ⟨rfl, later⟩
    · simp only [sinks invocation]
      cases answered : (sink invocation).fault with
      | none => exact ⟨rfl, later⟩
      | some fault => exact later.endure _ fault

end Binding

def Report.deeds (report : Report) : List Invocation × List Nat :=
  (report.fired, report.faulted)

theorem Report.deeds_add (index : Nat) (outcome : Outcome) {report other : Report}
    (same : other.deeds = report.deeds) :
    (other.add index outcome).deeds = (report.add index outcome).deeds := by
  simp only [deeds, Prod.mk.injEq] at same
  simp only [deeds, add, same.1, same.2]

namespace Matcher

def Defers (names : List String) (matcher other : Matcher) : Prop :=
  other.table.bindings.length = matcher.table.bindings.length ∧ ∀ (index : Nat) binding deferred,
    matcher.table.bindings[index]? = some binding → other.table.bindings[index]? = some deferred →
      Binding.Defers names binding deferred

variable {names : List String} {source : Source} {matcher other : Matcher}
  {journal otherJournal : Journal} {frame otherFrame : Frame}

structure Alike (names : List String) (source : Source) (frame otherFrame : Frame)
    (matcher other : Matcher) : Prop where
  declares : source.Declares names
  bound : matcher.resolver.source = some source
  otherBound : other.resolver.source = some source
  epsilon : other.resolver.epsilon = matcher.resolver.epsilon
  delta : otherFrame.delta = frame.delta
  sinks : ∀ invocation, (otherFrame.sink invocation).fault = (frame.sink invocation).fault

theorem Alike.later {after otherAfter : Matcher}
    (alike : Alike names source frame otherFrame matcher other)
    (same : after.essence = matcher.essence) (otherSame : otherAfter.essence = other.essence) :
    Alike names source frame otherFrame after otherAfter where
  declares := alike.declares
  bound := (view_of_essence same).2.trans alike.bound
  otherBound := (view_of_essence otherSame).2.trans alike.otherBound
  epsilon := by rw [(view_of_essence same).1, (view_of_essence otherSame).1, alike.epsilon]
  delta := alike.delta
  sinks := alike.sinks

theorem length_of_essence (same : other.essence = matcher.essence) :
    other.table.bindings.length = matcher.table.bindings.length := by
  have bindings : other.table.bindings.map Binding.rest = matcher.table.bindings.map Binding.rest :=
    congrArg (fun matcher => matcher.table.bindings) same
  simpa using congrArg List.length bindings

theorem Defers.found {index : Nat} {binding : Binding} (defers : Defers names matcher other)
    (found : matcher.table.bindings[index]? = some binding) :
    ∃ deferred, other.table.bindings[index]? = some deferred ∧ Binding.Defers names binding deferred := by
  have inside := (List.getElem?_eq_some_iff.mp found).1
  have otherInside : index < other.table.bindings.length := defers.1.symm ▸ inside
  have otherFound := List.getElem?_eq_getElem otherInside
  exact ⟨_, otherFound, defers.2 index binding _ found otherFound⟩

theorem matchAt_deferred (index : Nat) (alike : Alike names source frame otherFrame matcher other)
    (defers : Defers names matcher other) (quiet : journal.Quiet) (otherQuiet : otherJournal.Quiet) :
    let ended := (matchAt index frame).perform matcher journal
    let otherEnded := (matchAt index otherFrame).perform other otherJournal
    otherEnded.1.1 = ended.1.1 ∧ Defers names ended.1.2 otherEnded.1.2 := by
  cases found : matcher.table.bindings[index]? with
  | none =>
      have outside := List.getElem?_eq_none_iff.mp found
      have otherFound : other.table.bindings[index]? = none := by
        refine List.getElem?_eq_none ?_
        exact defers.1.symm ▸ outside
      simp only [matchAt, Journaled.perform_bind, Journaled.perform_get, found, otherFound]
      exact ⟨rfl, defers⟩
  | some binding =>
      obtain ⟨deferred, otherFound, defersBinding⟩ := defers.found found
      have turned := matchAt_turned index frame journal alike.bound found
      have otherTurned := matchAt_turned index otherFrame otherJournal alike.otherBound otherFound
      obtain ⟨result, here⟩ := (turned.quiet quiet).2
      obtain ⟨otherResult, otherHere⟩ := (otherTurned.quiet otherQuiet).2
      rw [alike.epsilon, alike.delta] at otherResult otherHere
      obtain ⟨sameResult, defersAfter⟩ := defersBinding.play alike.declares index frame.delta alike.sinks
      refine ⟨otherResult.trans (sameResult.trans result.symm), ?_, ?_⟩
      · rw [length_of_essence (essence_of_outline turned.kept),
          length_of_essence (essence_of_outline otherTurned.kept)]
        exact defers.1
      · intro position after otherAfter foundAfter otherFoundAfter
        by_cases same : index = position
        · subst same
          rw [here] at foundAfter
          rw [otherHere] at otherFoundAfter
          cases foundAfter
          cases otherFoundAfter
          exact defersAfter
        · rw [elsewhere_of_outline turned.kept same] at foundAfter
          rw [elsewhere_of_outline otherTurned.kept same] at otherFoundAfter
          exact defers.2 position after otherAfter foundAfter otherFoundAfter

theorem matchAll_deferred (indices : List Nat)
    (alike : Alike names source frame otherFrame matcher other) (defers : Defers names matcher other)
    (quiet : journal.Quiet) (otherQuiet : otherJournal.Quiet) :
    let ended := (matchAll frame indices).perform matcher journal
    let otherEnded := (matchAll otherFrame indices).perform other otherJournal
    otherEnded.1.1.map Report.deeds = ended.1.1.map Report.deeds ∧ Defers names ended.1.2 otherEnded.1.2 := by
  induction indices generalizing matcher other journal otherJournal with
  | nil => exact ⟨rfl, defers⟩
  | cons index others ih =>
      obtain ⟨sameResult, defersAfter⟩ := matchAt_deferred index alike defers quiet otherQuiet
      have leaves := matchAt_leaves index frame matcher journal alike.bound
      have otherLeaves := matchAt_leaves index otherFrame other otherJournal alike.otherBound
      rw [perform_matchAll_cons, perform_matchAll_cons]
      rcases ended : (matchAt index frame).perform matcher journal with ⟨⟨result, middle⟩, between⟩
      rcases otherEnded : (matchAt index otherFrame).perform other otherJournal with
        ⟨⟨otherResult, otherMiddle⟩, otherBetween⟩
      rw [ended, otherEnded] at sameResult defersAfter
      rw [ended] at leaves
      rw [otherEnded] at otherLeaves
      cases sameResult
      cases result with
      -- What stops one of the ticks here stops the other one, too.
      | error fault => exact ⟨rfl, defersAfter⟩
      | ok outcome =>
          obtain ⟨sameRest, defersRest⟩ := ih
            (alike.later (essence_of_outline leaves.1) (essence_of_outline otherLeaves.1)) defersAfter
            (leaves.2.1 quiet) (otherLeaves.2.1 otherQuiet)
          refine ⟨?_, defersRest⟩
          rcases later : ((matchAll frame others).perform middle between).1.1 with fault | report
          · rcases otherLater : ((matchAll otherFrame others).perform otherMiddle otherBetween).1.1 with
              otherFault | otherReport
            · rw [later, otherLater] at sameRest
              simpa [later, otherLater, Except.map] using sameRest
            · rw [later, otherLater] at sameRest
              cases sameRest
          · rcases otherLater : ((matchAll otherFrame others).perform otherMiddle otherBetween).1.1 with
              otherFault | otherReport
            · rw [later, otherLater] at sameRest
              cases sameRest
            · rw [later, otherLater] at sameRest
              have same : otherReport.deeds = report.deeds := Except.ok.inj sameRest
              simp [later, otherLater, Except.map, Report.deeds_add index outcome same]

end Matcher

def Binding.pace (binding : Binding) : Nat × Float :=
  (binding.cursor, binding.elapsed)

theorem Binding.ofRule_deferred {names : List String} {rule : Rule} {descriptor : Descriptor}
    (readable : rule.parse (some names) = .ok descriptor)
    (button : rule.kind = .combo → rule.category = .button) :
    Binding.Defers names (Binding.ofRule (some names) rule) (Binding.ofRule none rule) := by
  obtain ⟨deferred, read, defers⟩ := Rule.parse_deferred button descriptor readable
  unfold ofRule
  rw [readable, read]
  exact ⟨rfl, rfl, defers.steps, defers.single, rfl, rfl⟩

namespace Run

/-- The ticks of two runs bring the same deltas and snapshots, whose axes are the given names and whose
known keys are none of them; their sinks fail alike. -/
structure Shares (run other : Run) (names : List String) (count : Nat) : Prop where
  epsilon : other.matcher.resolver.epsilon = run.matcher.resolver.epsilon
  delta : ∀ tick < count, (other.moments tick).delta = (run.moments tick).delta
  fault : ∀ tick < count, ∀ invocation,
    ((other.moments tick).sink invocation).fault = ((run.moments tick).sink invocation).fault
  source : ∀ tick < count, ∃ snapshot : Snapshot, (run.moments tick).source = snapshot.toSource ∧
    (other.moments tick).source = snapshot.toSource ∧ (∀ name, snapshot.isAxis name = true ↔ name ∈ names) ∧
      ∀ keys, snapshot.known = some keys → ∀ name ∈ keys, name ∉ names

variable {run other : Run} {names : List String} {rules : List Rule} {limit : Int} {count tick : Nat}

theorem Opens.defers (opens : run.Opens limit (some names) rules)
    (otherOpens : other.Opens limit none rules)
    (readable : ∀ rule ∈ rules, ∃ descriptor, rule.parse (some names) = .ok descriptor)
    (buttons : ∀ rule ∈ rules, rule.kind = .combo → rule.category = .button) :
    Matcher.Defers names run.matcher other.matcher := by
  have bindings := opens.table.2
  have otherBindings := otherOpens.table.2
  refine ⟨by simp [bindings, otherBindings], ?_⟩
  intro index binding deferred found otherFound
  simp only [bindings, List.getElem?_map, Option.map_eq_some_iff] at found
  simp only [otherBindings, List.getElem?_map, Option.map_eq_some_iff] at otherFound
  obtain ⟨rule, listed, rfl⟩ := found
  obtain ⟨sameRule, otherListed, rfl⟩ := otherFound
  have same : rule = sameRule := Option.some.inj (listed.symm.trans otherListed)
  subst same
  have member : rule ∈ rules := List.mem_of_mem_take (List.mem_of_getElem? listed)
  obtain ⟨descriptor, read⟩ := readable rule member
  exact Binding.ofRule_deferred read (buttons rule member)

theorem Shares.advance (shares : run.Shares other names count) (calm : run.Calm)
    (otherCalm : other.Calm)
    (bound : tick < count) (defers : Matcher.Defers names (run.state tick).1 (other.state tick).1) :
    (other.result tick).map Report.deeds = (run.result tick).map Report.deeds ∧
      Matcher.Defers names (run.state (tick + 1)).1 (other.state (tick + 1)).1 := by
  obtain ⟨snapshot, source, otherSource, axes, known⟩ := shares.source tick bound
  have ended := calm.endOf tick
  have otherEnded := otherCalm.endOf tick
  simp only [result, state, ended, otherEnded, shares.delta tick bound, source, otherSource]
  split
  · exact ⟨rfl, defers⟩
  · have sizes : (other.state tick).1.table.size = (run.state tick).1.table.size := defers.1
    simp only [Matcher.performTurns, sizes]
    have epsilon : (other.state tick).1.resolver.epsilon = (run.state tick).1.resolver.epsilon := by
      rw [calm.epsilon tick, otherCalm.epsilon tick, shares.epsilon]
    exact Matcher.matchAll_deferred _
      { declares := Snapshot.declares axes known
        bound := rfl
        otherBound := rfl
        epsilon := epsilon
        delta := rfl
        sinks := shares.fault tick bound } defers (calm.state tick).1 (otherCalm.state tick).1

theorem Shares.state (shares : run.Shares other names count) (calm : run.Calm) (otherCalm : other.Calm)
    (start : Matcher.Defers names run.matcher other.matcher) (bound : tick ≤ count) :
    Matcher.Defers names (run.state tick).1 (other.state tick).1 := by
  induction tick with
  | zero => exact start
  | succ tick ih => exact (shares.advance calm otherCalm (by omega) (ih (by omega))).2

theorem pace_deferred (defers : Matcher.Defers names (run.state tick).1 (other.state tick).1)
    (index : Nat) :
    (other.binding? tick index).map Binding.pace = (run.binding? tick index).map Binding.pace := by
  cases found : run.binding? tick index with
  | none =>
      have outside := List.getElem?_eq_none_iff.mp found
      have otherFound : other.binding? tick index = none := by
        refine List.getElem?_eq_none ?_
        rw [defers.1]
        exact outside
      rw [otherFound]
  | some binding =>
      obtain ⟨deferred, otherFound, defersBinding⟩ := defers.found found
      have here : other.binding? tick index = some deferred := otherFound
      simp [here, Binding.pace, defersBinding.cursor, defersBinding.elapsed]

/-- Rules that can be read with declared axis names can be read without them, and then do the same in
every tick over snapshots with just these axes. -/
theorem deferral_agrees
    (readable : ∀ rule ∈ rules, ∃ descriptor, rule.parse (some names) = .ok descriptor)
    (buttons : ∀ rule ∈ rules, rule.kind = .combo → rule.category = .button) :
    (∀ rule ∈ rules, ∃ descriptor, rule.parse none = .ok descriptor) ∧
    ∀ (declared deferred : Run) (limit : Int) (count : Nat),
      declared.Opens limit (some names) rules → deferred.Opens limit none rules →
      declared.Shares deferred names count → ∀ tick < count,
        (deferred.result tick).map Report.deeds = (declared.result tick).map Report.deeds ∧
        ∀ index, (deferred.binding? (tick + 1) index).map Binding.pace =
          (declared.binding? (tick + 1) index).map Binding.pace := by
  constructor
  · intro rule member
    obtain ⟨descriptor, read⟩ := readable rule member
    obtain ⟨deferred, otherRead, _⟩ := Rule.parse_deferred (buttons rule member) descriptor read
    exact ⟨deferred, otherRead⟩
  · intro declared deferred limit count opens otherOpens shares tick bound
    have start := opens.defers otherOpens readable buttons
    have before := shares.state opens.toCalm otherOpens.toCalm start (Nat.le_of_lt bound)
    obtain ⟨same, after⟩ := shares.advance opens.toCalm otherOpens.toCalm bound before
    exact ⟨same, pace_deferred after⟩

def steeringRules : List Rule := [{ descriptor := "steer" }, { descriptor := "steer+brake>", kind := .sequence }]

def steeringSnapshot : Snapshot where
  justPressed := ["brake"]
  known := some ["brake"]
  axes := [("steer", 0.5)]

def steering (axisNames : Option (List String)) : Run :=
  hosting axisNames steeringRules (fun _ => {}) fun _ => steeringSnapshot

theorem deferral_agrees_steering :
    (∀ rule ∈ steeringRules, ∃ descriptor, rule.parse (some ["steer"]) = .ok descriptor) ∧
    (∀ rule ∈ steeringRules, rule.kind = .combo → rule.category = .button) ∧
    (steering (some ["steer"])).Opens 2 (some ["steer"]) steeringRules ∧
    (steering none).Opens 2 none steeringRules ∧
    (steering (some ["steer"])).Shares (steering none) ["steer"] 3 ∧
    ((steering (some ["steer"])).result 1).toOption.map Report.deeds =
      some ([⟨0, some 0.5⟩, ⟨1, none⟩], []) ∧
    ((steering none).result 1).map Report.deeds =
    ((steering (some ["steer"])).result 1).map Report.deeds := by
  have readable : ∀ rule ∈ steeringRules, ∃ descriptor, rule.parse (some ["steer"]) = .ok descriptor := by
    intro rule member
    simp only [steeringRules, List.mem_cons, List.not_mem_nil, or_false] at member
    rcases member with rfl | rfl
    · exact ⟨_, rfl⟩
    · exact ⟨_, rfl⟩
  have buttons : ∀ rule ∈ steeringRules, rule.kind = .combo → rule.category = .button := by
    decide
  have opens : (steering (some ["steer"])).Opens 2 (some ["steer"]) steeringRules := hosting_opens _ _ _ _
  have otherOpens : (steering none).Opens 2 none steeringRules := hosting_opens _ _ _ _
  have isAxis (name : String) : steeringSnapshot.isAxis name = true ↔ name ∈ ["steer"] := by
    by_cases same : name = "steer"
    · simp [Snapshot.isAxis, Snapshot.axisValue?, steeringSnapshot, same]
    · have other : (name == "steer") = false := beq_false_of_ne same
      simp [Snapshot.isAxis, Snapshot.axisValue?, steeringSnapshot, List.lookup_cons, same, other]
  have shares : (steering (some ["steer"])).Shares (steering none) ["steer"] 3 := by
    refine ⟨rfl, fun _ _ => rfl, fun _ _ _ => rfl, fun tick _ => ⟨steeringSnapshot, rfl, rfl, isAxis, ?_⟩⟩
    rintro _ ⟨⟩
    decide
  refine ⟨readable, buttons, opens, otherOpens, shares, ?_, ?_⟩
  · decide +kernel
  · exact ((deferral_agrees readable buttons).2 _ _ 2 3 opens otherOpens shares 1 (by decide)).1

end Run

end InputBinding
