import Mathlib.Data.List.Induction
import InputBinding.Capture
import InputBinding.Proofs.Keeping
import InputBinding.Proofs.Listing

/-!
What a capture may rewrite. It is opened only for a standard or combo rule of a button, and the keys that follow
rewrite the descriptor of that one rule; but the table can be edited under an open capture. Keys are refused if the
rule has become a sequence. They are not refused if it has become that of an axis.
-/

namespace InputBinding

open Journaled

namespace Capture

inductive Operation
  | edit (edit : Table.Edit)
  | begin (index tick : Int)
  | cancel
  | feed (batch : List String) (tick : Int)

def Operation.action : Operation → Journaled (Table × Capture) Unit
  | .edit change => onTable change.action
  | .begin index tick => do
      let state ← get
      onCapture (Capture.begin state.1 index tick)
  | .cancel => onCapture Capture.cancel
  | .feed batch tick => (fun _ => ()) <$> Capture.feed batch tick

/-- A table and its capture after operations, each with the journal that it found. Operations count whether they
return or fail. -/
def after (history : List (Operation × Journal)) (table : Table) : Table × Capture :=
  history.foldl (fun state step => (step.1.action.perform state step.2).1.2) (table, {})

theorem after_concat (history : List (Operation × Journal)) (step : Operation × Journal) (table : Table) :
    after (history ++ [step]) table = (step.1.action.perform (after history table) step.2).1.2 := by
  simp [after]

/-- How keys leave a table and its capture: the table as it was, or with a new descriptor for the rule that is
captured and no capture any more. A sequence is spared. -/
inductive Fed (table : Table) (target : Option Int) : Table × Capture → Prop
  | spares {capture : Capture} : capture.target = none ∨ capture.target = target → Fed table target (table, capture)
  | rewrites {index : Int} {binding : Binding} (descriptor : String) : target = some index →
      table.binding index = .ok binding → binding.isSequence = false → 0 ≤ index → index < table.size →
      Fed table target
        (table.put index.toNat (Binding.ofRule table.axisNames (binding.rule.withDescriptor descriptor)), {})

theorem perform_finish (index tick : Int) (descriptor : String) (state : Table × Capture) (journal : Journal) :
    ((finish index tick descriptor).perform state journal).1.2 =
      match (Table.setDescriptor index descriptor).perform state.1 journal with
      | ((.error _, table), _) => (table, state.2)
      | ((.ok _, table), _) => (table, {}) := by
  rcases performed : (Table.setDescriptor index descriptor).perform state.1 journal with ⟨⟨fault | _, table⟩, between⟩
  · simp [finish, onTable, perform_bind, performed]
  · simp [finish, onTable, onCapture, perform_bind, performed, state_announce]

section Keys

variable {index : Int} {binding : Binding} {table : Table} {capture : Capture}

theorem finish_leaves (found : table.binding index = .ok binding) (tick : Int) (descriptor : String) (capture : Capture)
    (journal : Journal) :
    let left := ((finish index tick descriptor).perform (table, capture) journal).1.2
    left = (table, capture) ∨ 0 ≤ index ∧ index < table.size ∧
      left = (table.put index.toNat (Binding.ofRule table.axisNames (binding.rule.withDescriptor descriptor)), {}) := by
  rw [perform_finish]
  rcases Table.setDescriptor_follows (fun table => table) index descriptor table journal with
    ⟨after, ended, _⟩ | ⟨_, fault, left, after, ended, same⟩
  · simp only [Table.Edit.outcome, found, Table.replaced] at ended
    by_cases outside : index < 0 ∨ table.size ≤ index
    · simp only [if_pos outside] at ended
      rw [ended]
      exact Or.inl rfl
    · simp only [if_neg outside] at ended
      rw [ended]
      exact Or.inr ⟨by omega, by omega, rfl⟩
  · have unchanged : left = table := same
    rw [ended, unchanged]
    exact Or.inl rfl

theorem finish_fed (opened : capture.target = some index) (found : table.binding index = .ok binding)
    (steady : binding.isSequence = false) (tick : Int) (descriptor : String) (journal : Journal) :
    Fed table (some index) ((finish index tick descriptor).perform (table, capture) journal).1.2 := by
  rcases finish_leaves found tick descriptor capture journal with same | ⟨nonnegative, inside, written⟩
  · rw [same]
    exact .spares (Or.inr opened)
  · rw [written]
    exact .rewrites descriptor rfl found steady nonnegative inside

theorem takeKeys_fed (opened : capture.target = some index) (found : table.binding index = .ok binding)
    (steady : binding.isSequence = false) (kind : Kind) (tick : Int) (keys : List String) (journal : Journal) :
    Fed table (some index) ((takeKeys kind index tick keys).perform (table, capture) journal).1.2 := by
  induction keys generalizing capture journal with
  | nil => exact .spares (Or.inr opened)
  | cons key others ih =>
      have finished (descriptor : String) (between : Journal) : Fed table (some index)
          (((fun _ => true) <$> finish index tick descriptor).perform (table, capture) between).1.2 := by
        rw [perform_map]
        exact finish_fed opened found steady tick descriptor between
      by_cases standard : kind = .standard
      · simpa [takeKeys, standard] using finished key journal
      · rcases marked : capture.firstKey with _ | first
        · have stillOpen : Capture.target { capture with firstKey := some key } = some index := opened
          simpa [takeKeys, standard, marked, onCapture, perform_bind] using ih stillOpen _
        · by_cases same : key = first
          · simpa [takeKeys, standard, marked, same, perform_bind] using ih opened journal
          · simpa [takeKeys, standard, marked, same, perform_bind] using finished _ journal

end Keys

theorem perform_cancel_state (capture : Capture) (journal : Journal) :
    (cancel.perform capture journal).1.2.target = none := by
  cases opened : capture.target with
  | none => simp [cancel, opened, perform_bind]
  | some index => simp [cancel, opened, perform_bind]

theorem abandon_fed (notice : Notice) (state : Table × Capture) (journal : Journal) :
    Fed state.1 state.2.target ((abandon notice).perform state journal).1.2 := by
  have closed := perform_cancel_state state.2 { journal with notices := journal.notices.push notice }
  simpa [abandon, onCapture, perform_bind] using Fed.spares (Or.inl closed)

theorem feed_fed (batch : List String) (tick : Int) (state : Table × Capture) (journal : Journal) :
    Fed state.1 state.2.target ((feed batch tick).perform state journal).1.2 := by
  rcases state with ⟨table, capture⟩
  rcases opened : capture.target with _ | index
  · simpa [feed, opened, perform_bind] using Fed.spares (Or.inr opened)
  · by_cases removed : (table.size : Int) ≤ index
    · simpa [feed, opened, removed, perform_bind] using abandon_fed _ (table, capture) journal
    · rcases found : table.binding index with fault | binding
      · simpa [feed, opened, removed, found, perform_bind] using Fed.spares (Or.inr opened)
      · by_cases sequence : binding.isSequence = true
        · simpa [feed, opened, removed, found, sequence, perform_bind] using abandon_fed _ (table, capture) journal
        · have taken := takeKeys_fed opened found (Bool.not_eq_true _ ▸ sequence) binding.rule.kind tick (keysOf batch)
            journal
          simpa [feed, opened, removed, found, sequence, perform_bind] using taken

def Opened (table : Table) (index : Int) (before after : Capture) : Prop :=
  after = before ∨
    after.target = some index ∧ ∃ binding, table.binding index = .ok binding ∧ refusal? binding.rule = none

theorem begin_passes {good : Capture → Prop} {table : Table} {index : Int} (tick : Int)
    (opens : ∀ binding, table.binding index = .ok binding → refusal? binding.rule = none →
      good { target := some index }) : Passes (fun _ => True) good (begin table index tick) := by
  have looked : Keeps (fun _ _ => True) good (fun result => result = table.binding index)
      (Journaled.ofExcept (table.binding index)) := keeps_ofExcept rfl
  unfold begin
  apply looked.bind fun _ _ _ _ => trivial
  intro binding found
  split
  · exact (passes_note _).bind fun _ => (passes_announce _).bind fun _ => passes_throw trivial
  · rename_i accepted
    have stored : Passes (fun _ => True) good (set ({ target := some index } : Capture)) :=
      passes_set (opens binding found.symm accepted)
    have started : Passes (fun _ => True) good
        (do
          set ({ target := some index } : Capture)
          note (.captureStarted index binding.rule.kind)
          announce (.captureStarted tick index)) :=
      stored.bind fun _ => (passes_note _).bind fun _ => passes_announce _
    apply Keeps.get
    intro capture _
    dsimp only
    split
    · exact (passes_note _).bind fun _ => started
    · exact started

theorem begin_opens (table : Table) (index tick : Int) (before : Capture) (journal : Journal) :
    Opened table index before ((begin table index tick).perform before journal).1.2 :=
  (begin_passes tick fun binding found accepted => Or.inr ⟨rfl, binding, found, accepted⟩).state (Or.inl rfl) journal

def AxisAt (index : Int) (table : Table) : Prop :=
  ∃ binding, table.binding index = .ok binding ∧ binding.rule.category = .axis

/-- An edit has made the rule at an index that of an axis while the capture was open for it; it is open for it, and
the rule is that of an axis, ever since. -/
def MadeAxis (history : List (Operation × Journal)) (table : Table) (index : Int) : Prop :=
  ∃ earlier change journal later, history = earlier ++ (.edit change, journal) :: later ∧
    (after earlier table).2.target = some index ∧ ¬ AxisAt index (after earlier table).1 ∧
    ∀ between rest, later = between ++ rest →
      (after (earlier ++ (.edit change, journal) :: between) table).2.target = some index ∧
        AxisAt index (after (earlier ++ (.edit change, journal) :: between) table).1

theorem MadeAxis.concat {history : List (Operation × Journal)} {table : Table} {index : Int}
    (made : MadeAxis history table index) {step : Operation × Journal}
    (opened : (after (history ++ [step]) table).2.target = some index)
    (axis : AxisAt index (after (history ++ [step]) table).1) : MadeAxis (history ++ [step]) table index := by
  obtain ⟨earlier, change, journal, later, rfl, wasOpen, wasNot, since⟩ := made
  refine ⟨earlier, change, journal, later ++ [step], by simp, wasOpen, wasNot, ?_⟩
  intro between rest split
  rcases List.eq_nil_or_concat rest with rfl | ⟨others, last, rfl⟩
  · rw [List.append_nil] at split
    rw [← split, ← List.cons_append, ← List.append_assoc]
    exact ⟨opened, axis⟩
  · rw [List.concat_eq_append, ← List.append_assoc] at split
    exact since between others (List.append_inj_left' split rfl)

theorem refusal_of_axis {rule : Rule} (axis : rule.category = .axis) : refusal? rule ≠ none := by
  unfold refusal?
  rw [if_pos axis]
  split <;> exact Option.some_ne_none _

theorem step_axis {operation : Operation} {state : Table × Capture} {journal : Journal} {index : Int}
    (opened : (operation.action.perform state journal).1.2.2.target = some index)
    (axis : AxisAt index (operation.action.perform state journal).1.2.1) :
    state.2.target = some index ∧ (AxisAt index state.1 ∨ ∃ change, operation = .edit change) := by
  cases operation with
  | edit change => exact ⟨opened, Or.inr ⟨change, rfl⟩⟩
  | begin other tick =>
      simp only [Operation.action, onCapture, perform_bind, perform_get, perform_focus] at opened axis
      rcases begin_opens state.1 other tick state.2 journal with same | ⟨target, binding, found, accepted⟩
      · rw [same] at opened
        exact ⟨opened, Or.inl axis⟩
      · rw [target] at opened
        cases opened
        obtain ⟨_, sameFound, isAxis⟩ := axis
        cases found.symm.trans sameFound
        exact absurd accepted (refusal_of_axis isAxis)
  | cancel =>
      simp only [Operation.action, onCapture, perform_focus, perform_cancel_state] at opened
      cases opened
  | feed batch tick =>
      have fed := feed_fed batch tick state journal
      simp only [Operation.action, perform_map] at opened axis
      generalize ((feed batch tick).perform state journal).1.2 = ended at fed opened axis
      cases fed with
      | spares kept =>
          rcases kept with closed | same
          · cases closed.symm.trans opened
          · exact ⟨same.symm.trans opened, Or.inl axis⟩
      | rewrites => cases opened

theorem madeAxis_of_open (table : Table) (history : List (Operation × Journal)) {index : Int}
    (opened : (after history table).2.target = some index) (axis : AxisAt index (after history table).1) :
    MadeAxis history table index := by
  induction history using List.reverseRecOn with
  | nil => cases opened
  | append_singleton earlier step ih =>
      have stillOpen := opened
      have stillAxis := axis
      rw [after_concat] at opened axis
      obtain ⟨wasOpen, was | ⟨change, edits⟩⟩ := step_axis opened axis
      · exact (ih wasOpen was).concat stillOpen stillAxis
      · by_cases was : AxisAt index (after earlier table).1
        · exact (ih wasOpen was).concat stillOpen stillAxis
        · obtain ⟨operation, journal⟩ := step
          cases edits
          refine ⟨earlier, change, journal, [], rfl, wasOpen, was, ?_⟩
          intro between rest split
          obtain ⟨rfl, _⟩ := List.append_eq_nil_iff.mp split.symm
          exact ⟨stillOpen, stillAxis⟩

/-- Whatever has been done to a table and its capture, the only rule that keys can change is the one that the
capture is open for, in nothing but its descriptor; it is a standard or combo rule, and that of a button, unless
an edit has made it that of an axis under the open capture. -/
theorem feed_rewrites (table : Table) (history : List (Operation × Journal)) (batch : List String) (tick : Int)
    (journal : Journal) {position : Nat}
    (changed : ((feed batch tick).perform (after history table) journal).1.2.1.bindings[position]? ≠
      (after history table).1.bindings[position]?) :
    (after history table).2.target = some (position : Int) ∧
    ∃ binding descriptor, (after history table).1.bindings[position]? = some binding ∧
      (binding.rule.kind = .standard ∨ binding.rule.kind = .combo) ∧
      (binding.rule.category = .button ∨ MadeAxis history table position) ∧
      ((feed batch tick).perform (after history table) journal).1.2.1 =
        (after history table).1.put position
          (Binding.ofRule (after history table).1.axisNames (binding.rule.withDescriptor descriptor)) := by
  have fed := feed_fed batch tick (after history table) journal
  generalize ((feed batch tick).perform (after history table) journal).1.2 = ended at fed changed ⊢
  cases fed with
  | spares => exact absurd rfl changed
  | @rewrites index binding descriptor opened found steady nonnegative inside =>
      obtain ⟨place, rfl⟩ := Int.eq_ofNat_of_zero_le nonnegative
      have here : place = position := by
        by_contra elsewhere
        exact changed (List.getElem?_set_ne elsewhere)
      subst here
      have there : (after history table).1.bindings[place]? = some binding := by
        rcases Table.binding_cases (after history table).1 place with
          ⟨other, _, _, present, looked⟩ | ⟨_, negative, _⟩ | ⟨_, looked⟩
        · cases looked.symm.trans found
          exact present
        · omega
        · cases looked.symm.trans found
      refine ⟨opened, binding, descriptor, there, ?_, ?_, rfl⟩
      · cases kind : binding.rule.kind with
        | standard => exact Or.inl rfl
        | combo => exact Or.inr rfl
        | sequence => simp [Binding.isSequence, kind] at steady
      · cases category : binding.rule.category with
        | button => exact Or.inl rfl
        | axis => exact Or.inr (madeAxis_of_open table history opened ⟨binding, found, category⟩)

def pair : Table where
  limit := 2
  bindings := [Binding.ofRule none { descriptor := "Q" }, Binding.ofRule none { descriptor := "W+E", kind := .combo }]

def regrown : List (Operation × Journal) := [
  (.begin 1 0, {}),
  (.feed ["A"] 0, {}),
  (.edit (.resize 1), {}),
  (.edit (.resize 2), {})]

theorem feed_rewrites_regrown :
    (after regrown pair).1.rules = [{ descriptor := "Q" }, {}] ∧
    ((feed ["B"] 1).perform (after regrown pair) {}).1.2.1.rules = [{ descriptor := "Q" }, { descriptor := "B" }] ∧
    (after regrown pair).2.target = some 1 ∧
    ∃ binding descriptor, (after regrown pair).1.bindings[1]? = some binding ∧
      ((feed ["B"] 1).perform (after regrown pair) {}).1.2.1 =
        (after regrown pair).1.put 1
          (Binding.ofRule (after regrown pair).1.axisNames (binding.rule.withDescriptor descriptor)) := by
  have before : (after regrown pair).1.rules = [{ descriptor := "Q" }, {}] := by decide +kernel
  have fed : ((feed ["B"] 1).perform (after regrown pair) {}).1.2.1.rules =
      [{ descriptor := "Q" }, { descriptor := "B" }] := by decide +kernel
  have changed : ((feed ["B"] 1).perform (after regrown pair) {}).1.2.1.bindings[1]? ≠
      (after regrown pair).1.bindings[1]? := by
    intro same
    have rules := congrArg (Option.map Binding.rule) same
    rw [← List.getElem?_map, ← List.getElem?_map] at rules
    rw [Table.rules] at before fed
    rw [before, fed] at rules
    revert rules
    decide +kernel
  obtain ⟨opened, binding, descriptor, there, _, _, ended⟩ := feed_rewrites pair regrown ["B"] 1 {} changed
  exact ⟨before, fed, opened, binding, descriptor, there, ended⟩

def lone : Table where
  limit := 1
  bindings := [Binding.ofRule none { descriptor := "Q" }]

def tilted : List (Operation × Journal) := [
  (.begin 0 0, {}),
  (.edit (.setRule 0 { descriptor := "Tilt", category := .axis }), {})]

theorem feed_rewrites_axis :
    (after tilted lone).1.rules = [{ descriptor := "Tilt", category := .axis }] ∧
    ((feed ["A"] 0).perform (after tilted lone) {}).1.1.toOption = some true ∧
    ((feed ["A"] 0).perform (after tilted lone) {}).1.2.1.rules = [{ descriptor := "A", category := .axis }] :=
  ⟨by decide +kernel, by decide +kernel, by decide +kernel⟩

end Capture

end InputBinding
