import InputBinding.Proofs.Containment
import InputBinding.Proofs.Edits

/-!
What an edit that fails leaves behind. Any subscriber may fail on any event that an edit gives rise to,
in the middle of a long list of rules; the bindings are stored after that, all at once. Only the axis
names are changed before their rules are read again, so they stay changed.
-/

namespace InputBinding.Table

open Journaled

theorem replaced_error {table : Table} {index : Int} {rule : Rule} {fault : Fault}
    (failed : (table.replaced index rule).1 = .error fault) : (table.replaced index rule).2 = table := by
  by_cases outside : index < 0 ∨ table.size ≤ index
  · simp only [replaced, if_pos outside]
  · simp only [replaced, if_neg outside] at failed
    cases failed

theorem Edit.outcome_error {edit : Edit} {table : Table} {fault : Fault}
    (failed : (edit.outcome table).1 = .error fault) : (edit.outcome table).2 = table := by
  cases edit with
  | load rules | setAxisNames axisNames => cases failed
  | resize size =>
      by_cases negative : size < 0
      · simp only [outcome, if_pos negative]
      · simp only [outcome, if_neg negative] at failed
        cases failed
  | setRule index rule => exact replaced_error failed
  | setDescriptor index descriptor =>
      cases found : table.binding index with
      | error missing => simp only [outcome, found]
      | ok binding =>
          simp only [outcome, found] at failed ⊢
          exact replaced_error failed

theorem Edit.kept_of_failed (edit : Edit) (table : Table) (journal : Journal) {fault : Fault}
    (failed : (edit.action.perform table journal).1.1 = .error fault) :
    edit.kept (edit.action.perform table journal).1.2 = edit.kept table := by
  rcases edit.follows table journal with ⟨after, ended, _⟩ | ⟨_, _, left, after, ended, same⟩
  · rw [ended] at failed ⊢
    exact congrArg edit.kept (outcome_error failed)
  · rw [ended]
    exact same

/-- An edit that fails leaves the table exactly as it was, except that new axis names stay in place. -/
theorem edit_atomic (edit : Edit) (table : Table) (journal : Journal) {fault : Fault}
    (failed : (edit.action.perform table journal).1.1 = .error fault) :
    (edit.action.perform table journal).1.2 =
      match edit with
      | .setAxisNames axisNames => { table with axisNames }
      | _ => table := by
  cases edit with
  | load rules => exact (Edit.load rules).kept_of_failed table journal failed
  | resize size => exact (Edit.resize size).kept_of_failed table journal failed
  | setRule index rule => exact (Edit.setRule index rule).kept_of_failed table journal failed
  | setDescriptor index descriptor => exact (Edit.setDescriptor index descriptor).kept_of_failed table journal failed
  | setAxisNames axisNames =>
      -- Once the names are stored, what is left to do is to load the same rules again.
      have loads : ((Edit.setAxisNames axisNames).action).perform table journal =
          ((Edit.load table.rules).action).perform { table with axisNames } journal :=
        perform_setAxisNames axisNames table journal
      rw [loads] at failed ⊢
      exact (Edit.load table.rules).kept_of_failed { table with axisNames } journal failed

def tilt : Rule := { descriptor := "Tilt>, a", kind := .sequence }

def tilting : Table where
  limit := 2
  bindings := [{ Binding.ofRule none tilt with cursor := 1, matched := ["Tilt>"] }]

theorem edit_atomic_unreadable :
    let ended := (Edit.load [{}, { descriptor := "(" }, {}]).action.perform tilting
      (Matcher.failingOn "mapping.malformed")
    ended.1.1 = .error (.foreign "ValueError" [.value] (.ok "no display")) ∧ ended.1.2 = tilting := by
  have failed : ((Edit.load [{}, { descriptor := "(" }, {}]).action.perform tilting
      (Matcher.failingOn "mapping.malformed")).1.1 = .error (.foreign "ValueError" [.value] (.ok "no display")) := rfl
  exact ⟨failed, edit_atomic _ tilting _ failed⟩

/-- Without axes the rule cannot be read any more, and the subscriber fails on the report of it: the table
says that there are no axes, and its binding still holds the test of one. -/
theorem setAxisNames_halfway :
    let created := (create 2 none [tilt] : Journaled Unit Table).perform () (Matcher.failingOn "mapping.malformed")
    ∃ table, created.1.1 = .ok table ∧
      let ended := (Edit.setAxisNames (some [])).action.perform table created.2
      ended.1.1 = .error (.foreign "ValueError" [.value] (.ok "no display")) ∧
        table.axisNames = none ∧ ended.1.2.axisNames = some [] ∧ ended.1.2.bindings = table.bindings ∧
        ended.1.2.bindings.map (·.descriptor.steps) =
          [[.single (.axis ⟨"Tilt", .positive, 0.0⟩), .single (.key "a")]] :=
  ⟨_, rfl, rfl, rfl, rfl, rfl, rfl⟩

end InputBinding.Table
