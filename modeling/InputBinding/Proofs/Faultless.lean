import InputBinding.Proofs.Histories
import InputBinding.Proofs.Independence
import InputBinding.Proofs.Recovery
import InputBinding.Proofs.RoundTrip

/-!
Matching never fails by itself. What a rule is read as has the shape that its kind is judged by, and
an axis is only asked for its value after the source has said that it exists. So faults come from
outside, and there are none where the sources are snapshots and neither sinks nor subscribers fail.
-/

namespace InputBinding

def Sink.Silent (sink : Sink) : Prop :=
  ∀ invocation, (sink invocation).fault = none

namespace Binding

def Read (binding : Binding) : Prop :=
  ∃ axisNames, binding.rest = ofRule axisNames binding.rule

variable {binding other : Binding} {index : Nat} {delta epsilon : Float} {source : Source} {sink : Sink}

theorem Read.of_rest (read : binding.Read) (same : other.rest = binding.rest) : other.Read := by
  obtain ⟨axisNames, rested⟩ := read
  have sameRule : other.rule = binding.rule := (congrArg Binding.rule same :)
  exact ⟨axisNames, by rw [same, rested, sameRule]⟩

theorem read_lasting : Lasting Read where
  ofRule axisNames rule := ⟨axisNames, by rw [rest_ofRule, rule_ofRule]⟩
  rest binding read := read.of_rest (rest_rest binding)
  play binding index delta epsilon source sink read :=
    read.of_rest (rest_play index delta epsilon source sink binding)

theorem Read.parsed (read : binding.Read) (live : binding.inert = false) :
    ∃ axisNames, binding.rule.parse axisNames = .ok binding.descriptor := by
  obtain ⟨axisNames, rested⟩ := read
  refine ⟨axisNames, ?_⟩
  have sameLive : (ofRule axisNames binding.rule).inert = false := by
    rw [← rested]
    exact live
  have sameDescriptor : (ofRule axisNames binding.rule).descriptor = binding.descriptor :=
    (congrArg Binding.descriptor rested.symm :)
  unfold ofRule at sameLive sameDescriptor
  cases parsed : binding.rule.parse axisNames with
  | error defect => simp [parsed, inert] at sameLive
  | ok descriptor =>
      simp only [parsed] at sameDescriptor
      rw [sameDescriptor]

theorem Read.not_misfit (read : binding.Read) (live : binding.inert = false) (fault : Fault) :
    ¬ binding.Misfit fault := by
  have nonempty := steps_nonempty live
  intro misfit
  cases misfit with
  | empty steps => exact nonempty steps
  | odd standard steps notSingle =>
      obtain ⟨axisNames, parsed⟩ := read.parsed live
      rw [Rule.parse, standard] at parsed
      obtain ⟨name, _, _, only | ⟨only, _⟩⟩ := Grammar.standard_of_parse parsed nonempty
      · rw [steps] at only
        cases only
        exact notSingle _ rfl
      · rw [steps] at only
        cases only
        exact notSingle _ rfl

theorem Read.judge (read : binding.Read) (live : binding.inert = false) (delta epsilon : Float)
    (snapshot : Snapshot) :
    ∃ verdict, ((binding.spend delta).judge epsilon snapshot.toSource).answer = .ok verdict := by
  have sameRest := rest_spend delta binding
  have sameLive : (binding.spend delta).inert = false := (congrArg Binding.inert sameRest :).trans live
  have within : snapshot.toSource.Within fun _ => False := Source.toSource_within snapshot
  exact exists_of_within (judge_within within _ ((read.of_rest sameRest).not_misfit sameLive))

theorem play_faultless (silent : sink.Silent)
    (judged : binding.inert = false → ∃ verdict, ((binding.spend delta).judge epsilon source).answer = .ok verdict) :
    ∃ outcome, (binding.play index delta epsilon source sink).1 = .ok outcome ∧ outcome.faulted = false := by
  cases live : binding.inert with
  | true => exact ⟨{}, by simp [play, live], rfl⟩
  | false =>
      obtain ⟨verdict, judged⟩ := judged live
      have within : Within (fun _ => False) ((binding.spend delta).judge epsilon source).answer := by
        rw [judged]
        exact within_ok verdict
      obtain ⟨fired, taken⟩ := exists_of_within (take_within index binding within)
      rcases took : binding.take index delta epsilon source with ⟨result, after⟩
      rw [took] at taken
      cases taken
      cases fired with
      | none => exact ⟨{}, by simp [play, live, took], rfl⟩
      | some invocation => exact ⟨{ fired := some invocation }, by simp [play, live, took, silent invocation], rfl⟩

end Binding

namespace Matcher

/-- Whatever has happened to a matcher before, a tick on a snapshot returns without faults if no capture
is open and neither its sink nor a subscriber fails. -/
theorem Reachable.faultless {matcher : Matcher} (reachable : matcher.Reachable)
    (closed : matcher.capture.any Capture.isOpen = false) {journal : Journal} (quiet : journal.Quiet)
    (snapshot : Snapshot) {sink : Sink} (silent : sink.Silent) {delta : Float} (accepted : ¬ delta < 0.0)
    (frame? : Option Int) :
    (∃ report, ((tick sink snapshot.toSource delta frame?).perform matcher journal).1.1 = .ok report ∧
      report.faulted = []) ∧
    ∀ binding ∈ matcher.table.bindings, binding.inert = false → ∃ verdict,
      ((binding.spend delta).judge matcher.resolver.epsilon snapshot.toSource).answer = .ok verdict := by
  have judged : ∀ binding ∈ matcher.table.bindings, binding.inert = false → ∃ verdict,
      ((binding.spend delta).judge matcher.resolver.epsilon snapshot.toSource).answer = .ok verdict := by
    intro binding member live
    exact (reachable.all Binding.read_lasting binding member).judge live delta _ snapshot
  refine ⟨?_, judged⟩
  rw [perform_tick_uncaptured accepted closed, performTurns]
  generalize frame?.getD (matcher.frame + 1) = number
  have played : ∀ (index : Nat) (binding : Binding), matcher.table.bindings[index]? = some binding →
      ∃ outcome : Outcome, (binding.play index delta matcher.resolver.epsilon snapshot.toSource sink).1 = .ok outcome ∧
        outcome.faulted = false := by
    intro index binding found
    exact Binding.play_faultless silent (judged binding (List.mem_of_getElem? found))
  obtain ⟨report, returned⟩ := matchAll_returns ⟨number, delta, matcher.tracing, sink⟩
    (List.range matcher.table.size) List.nodup_range (matcher.started snapshot.toSource number) quiet rfl
    fun index _ binding found => by
      obtain ⟨outcome, ended, _⟩ := played index binding found
      exact ⟨outcome, ended⟩
  refine ⟨report, returned, List.eq_nil_iff_forall_not_mem.mpr ?_⟩
  intro index member
  have leaves := matchAll_leaves ⟨number, delta, matcher.tracing, sink⟩ (List.range matcher.table.size)
    (matcher.started snapshot.toSource number) journal rfl
  have listed := (leaves.2.2.2 report returned).2.2 index member
  have inside := List.mem_range.mp listed
  have found : (matcher.started snapshot.toSource number).table.bindings[index]? =
      some matcher.table.bindings[index] := List.getElem?_eq_getElem inside
  obtain ⟨outcome, _, faulted, settles⟩ := matchAll_turn _ _ List.nodup_range listed _ journal rfl found returned
  obtain ⟨expected, ended, undisturbed⟩ := played index _ found
  have same : Except.ok outcome = Except.ok expected := (settles (Or.inl quiet)).1.trans ended
  cases same
  rw [faulted.mp member] at undisturbed
  cases undisturbed

def mixed : Matcher where
  table := { limit := 3, bindings := [
    Binding.ofRule none { descriptor := "X", category := .axis },
    Binding.ofRule none { descriptor := "X+Fire", category := .axis, kind := .combo },
    Binding.ofRule none { descriptor := "(X, Y><)+Fire, Jump", kind := .sequence }] }

theorem Reachable.faultless_mixed :
    let named := ((Operation.setAxisNames (some ["X", "Y"])).action.perform mixed {}).1.2
    let snapshot : Snapshot := { justPressed := ["Fire"], axes := [("Y", 0.5)] }
    named.Reachable ∧
      ∃ report, ((tick (fun _ => {}) snapshot.toSource 0.5 none).perform named {}).1.1 = .ok report ∧
        report.faulted = [] := by
  have quiet : ({} : Journal).Quiet := Journal.quiet_of_no_channel rfl
  have created : ∃ after, (Table.create 3 none [{ descriptor := "X", category := .axis },
      { descriptor := "X+Fire", category := .axis, kind := .combo },
      { descriptor := "(X, Y><)+Fire, Jump", kind := .sequence }] : Journaled Unit Table).perform () {} =
        ((.ok mixed.table, ()), after) := ⟨_, rfl⟩
  obtain ⟨after, created⟩ := created
  intro named snapshot
  have reachable : named.Reachable := .step _ (.opens quiet created) quiet
  have silent : Sink.Silent fun _ => {} := fun _ => rfl
  have accepted : ¬ (0.5 : Float) < 0.0 := by decide
  exact ⟨reachable, (reachable.faultless rfl quiet snapshot silent accepted none).1⟩

end Matcher

end InputBinding
