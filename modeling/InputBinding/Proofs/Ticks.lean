import InputBinding.Proofs.Turns

/-!
Whole ticks and runs of ticks. In a tick every binding has one turn, and the turns of the others
leave it alone. A run may go on after a tick that failed.
-/

namespace InputBinding

namespace Report

variable {index other : Nat} {outcome : Outcome} {report : Report}

theorem mem_fired_add {invocation : Invocation} :
    invocation ∈ (report.add index outcome).fired ↔ invocation ∈ outcome.fired ∨ invocation ∈ report.fired := by
  simp [add]

theorem mem_faulted_add :
    other ∈ (report.add index outcome).faulted ↔
      (other = index ∧ outcome.faulted = true) ∨ other ∈ report.faulted := by
  cases faulted : outcome.faulted <;> simp [add, faulted]

theorem fired_add_own (own : ∀ invocation ∈ outcome.fired, invocation.mapping = index)
    (others : ∀ invocation ∈ report.fired, invocation.mapping ≠ index) :
    ((report.add index outcome).fired.filter fun invocation => invocation.mapping = index) =
      outcome.fired.toList := by
  have all : (outcome.fired.toList.filter fun invocation => invocation.mapping = index) =
      outcome.fired.toList := by
    rw [List.filter_eq_self]
    intro invocation member
    simpa using own invocation (Option.mem_toList.mp member)
  have noneElse : (report.fired.filter fun invocation => invocation.mapping = index) = [] := by
    rw [List.filter_eq_nil_iff]
    intro invocation member
    simpa using others invocation member
  rw [add, List.filter_append, all, noneElse, List.append_nil]

theorem fired_add_other (own : ∀ invocation ∈ outcome.fired, invocation.mapping = index)
    (different : index ≠ other) :
    ((report.add index outcome).fired.filter fun invocation => invocation.mapping = other) =
      report.fired.filter fun invocation => invocation.mapping = other := by
  have noneHere : (outcome.fired.toList.filter fun invocation => invocation.mapping = other) = [] := by
    rw [List.filter_eq_nil_iff]
    intro invocation member
    simpa [own invocation (Option.mem_toList.mp member)] using different
  rw [add, List.filter_append, noneHere, List.nil_append]

end Report

namespace Matcher

def essence (matcher : Matcher) : Matcher :=
  { matcher with
    table := { matcher.table with bindings := matcher.table.bindings.map Binding.rest }
    resolver := matcher.resolver.outline
    invocations := #[] }

theorem essence_of_outline {left matcher : Matcher} {index : Nat}
    (same : left.outline index = matcher.outline index) : left.essence = matcher.essence := by
  have rested (bindings : List Binding) :
      (bindings.modify index Binding.rest).map Binding.rest = bindings.map Binding.rest := by
    apply List.ext_getElem?
    intro position
    by_cases here : index = position
    · subst here
      cases found : bindings[index]? <;> simp [found]
    · simp [here]
  have essences := congrArg essence same
  simpa [essence, outline, rested, Resolver.outline] using essences

theorem elsewhere_of_outline {left matcher : Matcher} {index other : Nat}
    (same : left.outline index = matcher.outline index) (different : index ≠ other) :
    left.table.bindings[other]? = matcher.table.bindings[other]? := by
  have bindings : (left.table.bindings.modify index Binding.rest)[other]? =
      (matcher.table.bindings.modify index Binding.rest)[other]? :=
    congrArg (fun matcher => matcher.table.bindings[other]?) same
  simpa [different] using bindings

theorem view_of_essence {left matcher : Matcher} (same : left.essence = matcher.essence) :
    left.resolver.epsilon = matcher.resolver.epsilon ∧ left.resolver.source = matcher.resolver.source :=
  ⟨congrArg (fun matcher => matcher.resolver.epsilon) same,
    congrArg (fun matcher => matcher.resolver.source) same⟩

theorem matchAt_leaves (index : Nat) (frame : Frame) {source : Source} (matcher : Matcher)
    (journal : Journal) (bound : matcher.resolver.source = some source) :
    let ended := (matchAt index frame).perform matcher journal
    ended.1.2.outline index = matcher.outline index ∧
      (journal.Quiet → ended.2.Quiet) ∧
      ∀ outcome, ended.1.1 = .ok outcome → ∀ invocation ∈ outcome.fired, invocation.mapping = index := by
  cases found : matcher.table.bindings[index]? with
  | some binding =>
      have turned := matchAt_turned index frame journal bound found
      exact ⟨turned.kept, fun quiet => (turned.quiet quiet).1, turned.mapping⟩
  | none =>
      simp only [matchAt, Journaled.perform_bind, Journaled.perform_get, found]
      refine ⟨rfl, id, ?_⟩
      rintro _ ⟨⟩ invocation impossible
      cases impossible

theorem perform_matchAll_cons (frame : Frame) (index : Nat) (others : List Nat) (matcher : Matcher)
    (journal : Journal) :
    (matchAll frame (index :: others)).perform matcher journal =
      match (matchAt index frame).perform matcher journal with
      | ((.error fault, middle), between) => ((.error fault, middle), between)
      | ((.ok outcome, middle), between) =>
          let ended := (matchAll frame others).perform middle between
          ((ended.1.1.map (Report.add index outcome), ended.1.2), ended.2) := by
  simp only [matchAll, Journaled.perform_bind]
  rcases (matchAt index frame).perform matcher journal with ⟨⟨fault | outcome, middle⟩, between⟩
  · rfl
  · rcases later : (matchAll frame others).perform middle between with ⟨⟨fault | report, after⟩, closing⟩
    · simp [later, Except.map]
    · simp [later, Except.map]

theorem matchAll_leaves (frame : Frame) {source : Source} (indices : List Nat) (matcher : Matcher)
    (journal : Journal) (bound : matcher.resolver.source = some source) :
    let ended := (matchAll frame indices).perform matcher journal
    ended.1.2.essence = matcher.essence ∧
      (journal.Quiet → ended.2.Quiet) ∧
      (∀ other, other ∉ indices → ended.1.2.table.bindings[other]? = matcher.table.bindings[other]?) ∧
      ∀ report, ended.1.1 = .ok report → report.captured = false ∧
        (∀ invocation ∈ report.fired, invocation.mapping ∈ indices) ∧
          ∀ index ∈ report.faulted, index ∈ indices := by
  induction indices generalizing matcher journal with
  | nil =>
      refine ⟨rfl, id, fun _ _ => rfl, ?_⟩
      rintro _ ⟨⟩
      simp
  | cons index others ih =>
      have first := matchAt_leaves index frame matcher journal bound
      rw [perform_matchAll_cons]
      rcases performed : (matchAt index frame).perform matcher journal with
        ⟨⟨fault | outcome, middle⟩, between⟩
      · rw [performed] at first
        refine ⟨essence_of_outline first.1, first.2.1, ?_, by simp⟩
        intro other outside
        exact elsewhere_of_outline first.1 (fun same => outside (by simp [same]))
      · rw [performed] at first
        have essences := essence_of_outline first.1
        obtain ⟨laterEssence, calm, elsewhere, reported⟩ :=
          ih middle between ((view_of_essence essences).2.trans bound)
        refine ⟨laterEssence.trans essences, fun quiet => calm (first.2.1 quiet), ?_, ?_⟩
        · intro other outside
          simp only [List.mem_cons, not_or] at outside
          exact (elsewhere other outside.2).trans (elsewhere_of_outline first.1 (Ne.symm outside.1))
        · intro report whole
          obtain ⟨rest, later, rfl⟩ := map_eq_ok whole
          obtain ⟨uncaptured, mappings, faults⟩ := reported rest later
          refine ⟨uncaptured, ?_, ?_⟩
          · intro invocation member
            rcases Report.mem_fired_add.mp member with here | later
            · exact List.mem_cons.mpr (Or.inl (first.2.2 outcome rfl invocation here))
            · exact List.mem_cons_of_mem _ (mappings invocation later)
          · intro faulted member
            rcases Report.mem_faulted_add.mp member with ⟨here, _⟩ | later
            · exact List.mem_cons.mpr (Or.inl here)
            · exact List.mem_cons_of_mem _ (faults faulted later)

theorem matchAll_turn (frame : Frame) {source : Source} {index : Nat} {binding : Binding}
    (indices : List Nat) (distinct : indices.Nodup) (listed : index ∈ indices) (matcher : Matcher)
    (journal : Journal) (bound : matcher.resolver.source = some source)
    (found : matcher.table.bindings[index]? = some binding) {report : Report}
    (returned : ((matchAll frame indices).perform matcher journal).1.1 = .ok report) :
    ∃ outcome : Outcome,
      (report.fired.filter fun invocation => invocation.mapping = index) = outcome.fired.toList ∧
      (index ∈ report.faulted ↔ outcome.faulted = true) ∧
      (journal.Quiet ∨ outcome.faulted = false →
        Settles index frame source matcher.resolver.epsilon binding
          (.ok outcome, ((matchAll frame indices).perform matcher journal).1.2)) := by
  induction indices generalizing matcher journal report with
  | nil => simp at listed
  | cons first others ih =>
      obtain ⟨fresh, distinctOthers⟩ := List.nodup_cons.mp distinct
      have leaves := matchAt_leaves first frame matcher journal bound
      rw [perform_matchAll_cons] at returned ⊢
      rcases performed : (matchAt first frame).perform matcher journal with
        ⟨⟨fault | outcome, middle⟩, between⟩
      · simp [performed] at returned
      · rw [performed] at leaves returned
        have view := view_of_essence (essence_of_outline leaves.1)
        have boundMiddle := view.2.trans bound
        obtain ⟨rest, later, rfl⟩ := map_eq_ok returned
        have ownFired := leaves.2.2 outcome rfl
        by_cases here : first = index
        · subst here
          have turned := matchAt_turned first frame journal bound found
          rw [performed] at turned
          obtain ⟨_, _, elsewhere, reported⟩ := matchAll_leaves frame others middle between boundMiddle
          obtain ⟨_, mappings, faults⟩ := reported rest later
          refine ⟨outcome, ?_, ?_, ?_⟩
          · apply Report.fired_add_own ownFired
            intro invocation member same
            exact fresh (same ▸ mappings invocation member)
          · have restFaulted : first ∉ rest.faulted := fun member => fresh (faults first member)
            simp [Report.mem_faulted_add, restFaulted]
          · intro settled
            have settles : Settles first frame source matcher.resolver.epsilon binding
                (.ok outcome, middle) := by
              rcases settled with quiet | undisturbed
              · exact (turned.quiet quiet).2
              · exact turned.undisturbed outcome rfl undisturbed
            exact ⟨settles.1, (elsewhere first fresh).trans settles.2⟩
        · have foundMiddle := (elsewhere_of_outline leaves.1 here).trans found
          have listedLater : index ∈ others := (List.mem_cons.mp listed).resolve_left (Ne.symm here)
          obtain ⟨own, restFired, restFaulted, settles⟩ :=
            ih distinctOthers listedLater middle between boundMiddle foundMiddle later
          refine ⟨own, ?_, ?_, ?_⟩
          · rw [Report.fired_add_other ownFired here, restFired]
          · simp [Report.mem_faulted_add, Ne.symm here, restFaulted]
          · intro settled
            have later := settles (settled.imp leaves.2.1 id)
            rwa [view.1] at later

def started (matcher : Matcher) (source : Source) (number : Int) : Matcher :=
  { matcher with frame := number, resolver := matcher.resolver.begin source number }

def performTurns (sink : Sink) (source : Source) (delta : Float) (frame? : Option Int) (matcher : Matcher)
    (journal : Journal) : (Except Fault Report × Matcher) × Journal :=
  let number := frame?.getD (matcher.frame + 1)
  (matchAll ⟨number, delta, matcher.tracing, sink⟩ (List.range matcher.table.size)).perform
    (matcher.started source number) journal

theorem feedCapture_false {source : Source} {number : Int} {matcher fed : Matcher}
    {journal between : Journal}
    (refused : (feedCapture source number).perform matcher journal = ((.ok false, fed), between)) :
    fed = matcher ∧ between = journal := by
  simp only [feedCapture, Journaled.perform_bind, Journaled.perform_get] at refused
  by_cases isOpen : matcher.capture.any Capture.isOpen = true
  · rcases keys : source.justPressedKeys with fault | _ | ⟨key, others⟩
    · simp [isOpen, keys, Journaled.perform_bind] at refused
    · simp [isOpen, keys, Journaled.perform_bind] at refused
      exact ⟨refused.1.symm, refused.2.symm⟩
    · rcases fedKeys : ((feedKeys (key :: others) number).perform matcher journal).1.1 with fault | completed
      · simp [isOpen, keys, fedKeys, Except.map, Journaled.perform_bind] at refused
      · simp [isOpen, keys, fedKeys, Except.map, Journaled.perform_bind] at refused
  · simp [isOpen] at refused
    exact ⟨refused.1.symm, refused.2.symm⟩

theorem perform_tick_uncaptured {sink : Sink} {source : Source} {delta : Float} {frame? : Option Int}
    {matcher : Matcher} {journal : Journal} (accepted : ¬ delta < 0.0)
    (closed : matcher.capture.any Capture.isOpen = false) :
    (tick sink source delta frame?).perform matcher journal =
      performTurns sink source delta frame? matcher journal := by
  simp [tick, accepted, closed, feedCapture, performTurns, started, Journaled.perform_bind]

theorem perform_tick_refused {sink : Sink} {source : Source} {delta : Float} {frame? : Option Int}
    {matcher : Matcher} {journal : Journal} (refused : delta < 0.0) :
    (tick sink source delta frame?).perform matcher journal =
      ((.error .negativeDelta, matcher), journal) := by
  simp [tick, refused]

/-- A tick that returns without having gone to a capture consists of the turns of its bindings. -/
theorem perform_tick_returned {sink : Sink} {source : Source} {delta : Float} {frame? : Option Int}
    {matcher : Matcher} {journal : Journal} {report : Report}
    (returned : ((tick sink source delta frame?).perform matcher journal).1.1 = .ok report)
    (uncaptured : report.captured = false) :
    (tick sink source delta frame?).perform matcher journal =
      performTurns sink source delta frame? matcher journal := by
  by_cases refused : delta < 0.0
  · rw [perform_tick_refused refused] at returned
    cases returned
  · rcases fed : (feedCapture source (frame?.getD (matcher.frame + 1))).perform
        { matcher with frame := frame?.getD (matcher.frame + 1) } journal with
      ⟨⟨fault | taken, after⟩, between⟩
    · simp [tick, refused, fed, Journaled.perform_bind] at returned
    · cases taken with
      | true =>
          simp [tick, refused, fed, Journaled.perform_bind] at returned
          simp [← returned] at uncaptured
      | false =>
          obtain ⟨rfl, rfl⟩ := feedCapture_false fed
          simp [tick, refused, fed, performTurns, started, Table.size, Journaled.perform_bind]

end Matcher

end InputBinding
