import InputBinding.Proofs.Recording
import InputBinding.Proofs.Replay

/-!
Ticks while a capture is open. If keys go down, the capture takes the tick: nothing is judged, and no binding is
touched but the one that a completed capture replaces. If none goes down, the tick is what it would be without
captures.
-/

namespace InputBinding

namespace Journaled

/-- An action neither depends on what a change alters in the state nor alters it itself. -/
def Disregards (change : σ → σ) (action : Journaled σ α) : Prop :=
  ∀ state journal, action.perform (change state) journal =
    (((action.perform state journal).1.1, change (action.perform state journal).1.2),
      (action.perform state journal).2)

variable {change : σ → σ}

theorem disregards_pure (value : α) : Disregards change (pure value) :=
  fun _ _ => rfl

theorem disregards_throw (fault : Fault) : Disregards change (throw fault : Journaled σ α) :=
  fun _ _ => rfl

theorem disregards_ofExcept (result : Except Fault α) : Disregards change (ofExcept result : Journaled σ α) :=
  fun _ _ => rfl

theorem disregards_note (notice : Notice) : Disregards change (note notice) :=
  fun _ _ => rfl

theorem disregards_noteAll (notices : List Notice) : Disregards change (noteAll notices) :=
  fun _ _ => rfl

theorem disregards_announce (event : Event) : Disregards change (announce event) := by
  rintro state ⟨_ | channel, notices⟩
  · rfl
  · rfl

theorem disregards_modify {next : σ → σ} (same : ∀ state, next (change state) = change (next state)) :
    Disregards change (modify next : Journaled σ PUnit) := by
  intro state journal
  simp [same]

theorem disregards_focus {view : σ → τ} {update : τ → σ → σ} (sameView : ∀ state, view (change state) = view state)
    (sameUpdate : ∀ part state, update part (change state) = change (update part state)) (action : Journaled τ α) :
    Disregards change (focus view update action) := by
  intro state journal
  simp [sameView, sameUpdate]

theorem Disregards.get {next : σ → Journaled σ α} (blind : ∀ state, next (change state) = next state)
    (later : ∀ state, Disregards change (next state)) : Disregards change (MonadState.get >>= next) := by
  intro state journal
  show (next (change state)).perform (change state) journal = _
  rw [blind state]
  exact later state state journal

theorem Disregards.bind {action : Journaled σ α} {next : α → Journaled σ β} (first : Disregards change action)
    (later : ∀ value, Disregards change (next value)) : Disregards change (action >>= next) := by
  intro state journal
  rw [perform_bind, perform_bind, first state journal]
  rcases action.perform state journal with ⟨⟨fault | value, middle⟩, between⟩
  · rfl
  · exact later value middle between

theorem Disregards.attempt {action : Journaled σ α} (disregards : Disregards change action) :
    Disregards change (Journaled.attempt action) := by
  intro state journal
  simp [disregards state journal]

end Journaled

open Journaled

namespace Matcher

def recording (capture : Option Capture) (matcher : Matcher) : Matcher :=
  { matcher with capture }

section Turns

variable (capture : Option Capture) (index : Nat)

theorem invoke_disregards (sink : Sink) (invocation : Invocation) :
    Disregards (recording capture) (invoke sink invocation) := by
  unfold invoke
  apply Disregards.bind (disregards_modify fun _ => by rfl) fun _ => (disregards_noteAll _).bind fun _ => ?_
  cases (sink invocation).fault with
  | none => exact disregards_pure _
  | some fault => exact disregards_throw fault

theorem contain_disregards (tick : Int) (fault : Fault) :
    Disregards (recording capture) (contain index tick fault) := by
  by_cases recoverable : fault.recoverable = true
  · unfold contain
    simp only [recoverable, Bool.not_true, Bool.false_eq_true, if_false]
    refine Disregards.get (fun _ => by rfl) fun matcher => ?_
    have reported : Disregards (recording capture) (do
        let message ← Journaled.ofExcept fault.message
        Journaled.announce (.fault tick index fault.name message) : Journaled Matcher Unit) :=
      (disregards_ofExcept _).bind fun _ => disregards_announce _
    split
    · exact reported
    · exact (disregards_note _).bind fun _ => (disregards_modify fun _ => by rfl).bind fun _ => reported
  · -- Such a fault is passed on before the state is read.
    intro matcher journal
    simp [contain, recoverable]

theorem matchBinding_disregards (binding : Binding) (frame : Frame) :
    Disregards (recording capture) (matchBinding index binding frame) := by
  have contained (fault : Fault) (outcome : Outcome) :
      Disregards (recording capture) (do contain index frame.tick fault; return outcome) :=
    (contain_disregards capture index frame.tick fault).bind fun _ => disregards_pure outcome
  have turned : Disregards (recording capture) (onTurn index binding (Turn.take index frame)) :=
    disregards_focus (fun _ => by rfl) (fun _ _ => by rfl) _
  unfold matchBinding
  apply turned.attempt.bind
  rintro (fault | _ | invocation)
  · exact contained fault _
  · exact disregards_pure _
  · apply (invoke_disregards capture frame.sink invocation).attempt.bind
    rintro (fault | _)
    · exact contained fault _
    · exact disregards_pure _

theorem matchAt_disregards (frame : Frame) : Disregards (recording capture) (matchAt index frame) := by
  unfold matchAt
  refine Disregards.get (fun _ => by rfl) fun matcher => ?_
  split
  · exact disregards_pure _
  · split
    · exact disregards_pure _
    · exact matchBinding_disregards capture index _ frame

theorem matchAll_disregards (frame : Frame) (indices : List Nat) :
    Disregards (recording capture) (matchAll frame indices) := by
  induction indices with
  | nil => exact disregards_pure _
  | cons index others ih =>
      exact (matchAt_disregards capture index frame).bind fun _ => ih.bind fun _ => disregards_pure _

end Turns

end Matcher

namespace Capture

/-- A capture is completed by keys, and its target is bound anew to what it has caught. -/
def Completes (capture : Capture) (position : Nat) (keys : List String) (table : Table)
    (after : Table × Capture) : Prop :=
  ∃ binding caught, table.bindings[position]? = some binding ∧ binding.rule.kind ≠ .sequence ∧
    catch? binding.rule.kind (capture.known binding.rule.kind ++ keysOf keys) = some caught ∧
    after = (table.put position (Binding.ofRule table.axisNames (binding.rule.withDescriptor caught.descriptor)), {})

theorem fed_spares {capture : Capture} {position : Nat} (target : capture.target = some (position : Int))
    (keys : List String) (table : Table) :
    ∃ completed after, fed keys (table, capture) = (.ok completed, after) ∧
      (after.1 = table ∨ capture.Completes position keys table after) := by
  simp only [fed, target]
  by_cases removed : (table.size : Int) ≤ position
  · exact ⟨false, (table, {}), by rw [if_pos removed], Or.inl rfl⟩
  · simp only [if_neg removed]
    cases found : table.binding position with
    | error fault =>
        obtain ⟨_, outside⟩ := binding_error_iff.mp found
        omega
    | ok binding =>
        by_cases sequence : binding.isSequence = true
        · exact ⟨false, (table, {}), by simp only [if_pos sequence], Or.inl rfl⟩
        · simp only [if_neg sequence, taken]
          cases done : catch? binding.rule.kind (capture.known binding.rule.kind ++ keysOf keys) with
          | none => exact ⟨false, (table, _), rfl, Or.inl rfl⟩
          | some caught =>
              have counted : ¬ (position : Int) < 0 := by omega
              have steady : binding.rule.kind ≠ .sequence := by simpa [Binding.isSequence] using sequence
              simp only [finished_put found, if_neg counted, Int.toNat_natCast]
              exact ⟨true, _, rfl, Or.inr ⟨binding, caught, getElem?_of_found found, steady, done, rfl⟩⟩

end Capture

namespace Matcher

variable {matcher : Matcher} {capture : Capture} {position : Nat} {delta : Float} {journal : Journal}

theorem perform_tick_captured (capturing : matcher.capture = some capture)
    (target : capture.target = some (position : Int)) (accepted : ¬ delta < 0.0) (quiet : journal.Quiet)
    (sink : Sink) {source : Source} (frame? : Option Int) {keys : List String}
    (pressed : source.justPressedKeys = .ok keys) (present : keys ≠ []) :
    let number := frame?.getD (matcher.frame + 1)
    let fed := (Capture.feed keys number).perform (matcher.table, capture) journal
    (tick sink source delta frame?).perform matcher journal =
      ((.ok { frame := number, captured := true },
        { matcher with frame := number, table := fed.1.2.1, capture := some fed.1.2.2 }), fed.2) ∧
    (fed.1.2.1 = matcher.table ∨ capture.Completes position keys matcher.table fed.1.2) := by
  intro number fed
  obtain ⟨completed, after, same, spared⟩ := Capture.fed_spares target keys matcher.table
  have isOpen : capture.isOpen = true := by simp [Capture.isOpen, target]
  obtain ⟨later, _, ended⟩ := (Capture.feed_follows keys number (matcher.table, capture)).quiet quiet
  rw [same] at ended
  refine ⟨?_, ?_⟩
  · simp [tick, accepted, feedCapture, feedKeys, capturing, isOpen, pressed, present, number, fed, ended, Except.map,
      perform_bind]
  · simpa only [fed, ended] using spared

theorem perform_tick_ignored (accepted : ¬ delta < 0.0) (sink : Sink) {source : Source} (frame? : Option Int)
    (pressed : source.justPressedKeys = .ok []) :
    let bare := (tick sink source delta frame?).perform (recording none matcher) journal
    (tick sink source delta frame?).perform matcher journal =
      ((bare.1.1, recording matcher.capture bare.1.2), bare.2) := by
  have turns (matcher : Matcher) : (tick sink source delta frame?).perform matcher journal =
      performTurns sink source delta frame? matcher journal := by
    have keyless : ¬ delta < 0.0 → matcher.capture.any Capture.isOpen = true → ∀ keys,
        source.justPressedKeys = .ok keys → keys = [] := by
      intro _ _ keys listed
      cases pressed.symm.trans listed
      rfl
    rcases perform_tick_keyless keyless with turns | ⟨fault, _, _, _, refused | unlisted⟩
    · exact turns
    · exact absurd refused accepted
    · cases pressed.symm.trans unlisted
  intro bare
  simp only [bare, turns]
  exact matchAll_disregards matcher.capture _ _
    ((recording none matcher).started source (frame?.getD (matcher.frame + 1))) journal

/-- While a capture is open, a tick with keys that go down does what they do to the capture and nothing else, and no
binding changes but the one that they complete. A tick without such keys is that of a matcher that captures nothing. -/
theorem tick_capturing (capturing : matcher.capture = some capture) (target : capture.target = some (position : Int))
    (accepted : ¬ delta < 0.0) (quiet : journal.Quiet) (sink : Sink) (source : Source) (frame? : Option Int) :
    let ended := (tick sink source delta frame?).perform matcher journal
    (∀ keys, source.justPressedKeys = .ok keys → keys ≠ [] →
      let number := frame?.getD (matcher.frame + 1)
      let fed := (Capture.feed keys number).perform (matcher.table, capture) journal
      ended = ((.ok { frame := number, fired := [], faulted := [], captured := true },
        { matcher with frame := number, table := fed.1.2.1, capture := some fed.1.2.2 }), fed.2) ∧
      (fed.1.2.1 = matcher.table ∨ capture.Completes position keys matcher.table fed.1.2)) ∧
    (source.justPressedKeys = .ok [] →
      let bare := (tick sink source delta frame?).perform (recording none matcher) journal
      ended = ((bare.1.1, recording (some capture) bare.1.2), bare.2)) := by
  refine ⟨?_, ?_⟩
  · intro keys pressed present
    exact perform_tick_captured capturing target accepted quiet sink frame? pressed present
  · rw [← capturing]
    exact perform_tick_ignored accepted sink frame?

def drafted : Matcher where
  table := { limit := 2, bindings := [
    Binding.ofRule none { descriptor := "Q", kind := .combo },
    { Binding.ofRule none Run.patientRule with cursor := 1, matched := ["a"] }] }
  capture := some { target := some 0, firstKey := some "A" }

theorem tick_capturing_drafted :
    let caught := (tick Run.refusingSink (Snapshot.toSource { justPressed := ["B"] }) 2.0 none).perform drafted {}
    let idle := (tick Run.refusingSink (Snapshot.toSource {}) 2.0 none).perform drafted {}
    (caught.1.1 = .ok { frame := 0, captured := true } ∧
      caught.1.2.table.bindings[0]?.map (·.rule.descriptor) = some "A+B" ∧
      caught.1.2.table.bindings[1]? = drafted.table.bindings[1]? ∧
      caught.1.2.capture = some {} ∧ caught.1.2.resolver.unknown = []) ∧
    idle.1.1 = .ok { frame := 0 } ∧ idle.1.2.table.bindings[1]?.map (·.cursor) = some 0 ∧
      idle.1.2.capture = drafted.capture := by
  intro caught idle
  have accepted : ¬ (2.0 : Float) < 0.0 := by decide
  have quiet : ({} : Journal).Quiet := Journal.quiet_of_no_channel rfl
  have capturing : drafted.capture = some { target := some ((0 : Nat) : Int), firstKey := some "A" } := rfl
  obtain ⟨captures, _⟩ := tick_capturing capturing rfl accepted quiet Run.refusingSink
    (Snapshot.toSource { justPressed := ["B"] }) none
  obtain ⟨_, ignores⟩ := tick_capturing capturing rfl accepted quiet Run.refusingSink (Snapshot.toSource {}) none
  obtain ⟨ended, _⟩ := captures ["B"] rfl (by decide)
  refine ⟨?_, ?_⟩
  · have found : drafted.table.binding 0 = .ok (Binding.ofRule none { descriptor := "Q", kind := .combo }) := rfl
    have fed := Capture.fed_drafting found (by decide) ["A"] ["B"]
    rw [show Capture.keysOf ["B"] = ["B"] by decide +kernel] at fed
    obtain ⟨_, _, completed⟩ := (Capture.feed_follows ["B"] 0
      (drafted.table, { target := some 0, firstKey := some "A" })).quiet quiet
    have outcome := (congrArg Prod.fst completed).trans fed
    have table : caught.1.2.table = drafted.table.put 0 (Binding.ofRule none { descriptor := "A+B", kind := .combo }) :=
      (congrArg (fun ended => ended.1.2.table) ended).trans (congrArg (fun outcome => outcome.2.1) outcome)
    have closed : caught.1.2.capture = some {} :=
      (congrArg (fun ended => ended.1.2.capture) ended).trans (congrArg (fun outcome => some outcome.2.2) outcome)
    refine ⟨congrArg (fun ended => ended.1.1) ended, ?_, ?_, closed,
      congrArg (fun ended => ended.1.2.resolver.unknown) ended⟩
    · rw [table]
      rfl
    · rw [table]
      rfl
  · rw [show idle = _ from ignores rfl]
    exact ⟨rfl, rfl, rfl⟩

end Matcher

end InputBinding
