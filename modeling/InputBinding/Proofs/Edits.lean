import InputBinding.Proofs.Loading

/-!
Edits of a table, and what each of them comes to as a plain function of the table. Rules are read
before anything is stored, so a subscriber that fails on the way finds the table as it was.
-/

namespace InputBinding.Table

inductive Edit
  | load (rules : List Rule)
  | resize (size : Int)
  | setRule (index : Int) (rule : Rule)
  | setDescriptor (index : Int) (descriptor : String)
  | setAxisNames (axisNames : Option (List String))

def Edit.action : Edit → Journaled Table Unit
  | .load rules => Table.load rules
  | .resize size => (fun _ => ()) <$> Table.resize size
  | .setRule index rule => Table.setRule index rule
  | .setDescriptor index descriptor => Table.setDescriptor index descriptor
  | .setAxisNames axisNames => Table.setAxisNames axisNames

def reload (rules : List Rule) (table : Table) : Table :=
  { table with bindings := (rules.take table.limit).map (Binding.ofRule table.axisNames) }

def resized (size : Nat) (table : Table) : Table :=
  { table with bindings := table.bindings.take size ++
      (List.replicate (size - table.size) {}).map (Binding.ofRule table.axisNames) }

def replaced (index : Int) (rule : Rule) (table : Table) : Except Fault Unit × Table :=
  if index < 0 ∨ table.size ≤ index then (.error (.mappingOutOfRange index), table)
  else (.ok (), table.put index.toNat (Binding.ofRule table.axisNames rule))

/-- How an edit ends if no subscriber fails. -/
def Edit.outcome (table : Table) : Edit → Except Fault Unit × Table
  | .load rules => (.ok (), table.reload rules)
  | .resize size =>
      if size < 0 then (.error .negativeSize, table)
      else (.ok (), table.resized (min size.toNat table.limit))
  | .setRule index rule => table.replaced index rule
  | .setDescriptor index descriptor =>
      match table.binding index with
      | .ok found => table.replaced index (found.rule.withDescriptor descriptor)
      | .error fault => (.error fault, table)
  | .setAxisNames axisNames => (.ok (), { table with axisNames }.reload table.rules)

open Journaled

theorem resize_follows (kept : Table → τ) (size : Int) :
    Follows kept (resize size) fun table =>
      if size < 0 then (.error .negativeSize, table)
      else (.ok (min size.toNat table.limit), table.resized (min size.toNat table.limit)) := by
  intro table
  by_cases negative : size < 0
  · simp only [if_pos negative]
    refine (ofExcept_follows kept (.error .negativeSize) table).start (fun journal => ?_) rfl
    simp [resize, negative]
  · simp only [if_neg negative]
    have noted : Follows kept
        (if min size.toNat table.limit < size.toNat then note (.resizeClamped size table.limit) else pure ())
        fun table => (.ok (), table) := by
      split
      · exact note_follows kept _
      · exact pure_follows kept ()
    have stored (added : List Binding) : Follows kept
        (do
          modify fun current =>
            { current with bindings := current.bindings.take (min size.toNat table.limit) ++ added }
          note (.resized table.size (min size.toNat table.limit))
          return min size.toNat table.limit)
        fun current => (.ok (min size.toNat table.limit),
          { current with bindings := current.bindings.take (min size.toNat table.limit) ++ added }) :=
      fun _ _ => Or.inl ⟨_, rfl, id⟩
    have grown := noted.bind (fun _ => rfl) fun _ =>
      (buildAll_follows kept table.axisNames table.size
        (List.replicate (min size.toNat table.limit - table.size) {})).bind (fun _ => rfl) stored
    refine (grown table).start (fun journal => ?_) rfl
    by_cases clamped : min size.toNat table.limit < size.toNat
    · simp only [resize, negative, if_false, bind_pure_comp, perform_bind, perform_get, clamped, if_true, perform_note,
        perform_modify, perform_map]
    · simp only [resize, negative, if_false, bind_pure_comp, perform_bind, perform_get, clamped, pure_bind, perform_note,
        perform_modify, perform_map]

theorem setRule_follows (kept : Table → τ) (index : Int) (rule : Rule) :
    Follows kept (setRule index rule) fun table => table.replaced index rule := by
  intro table
  by_cases outside : index < 0 ∨ table.size ≤ index
  · simp only [replaced, if_pos outside]
    refine (ofExcept_follows kept (.error (.mappingOutOfRange index)) table).start (fun journal => ?_) rfl
    simp [setRule, outside, perform_bind]
  · simp only [replaced, if_neg outside]
    have stored (built : Binding) : Follows kept (modify (put index.toNat built) : Journaled Table PUnit)
        fun current => (.ok (), current.put index.toNat built) :=
      fun _ _ => Or.inl ⟨_, rfl, id⟩
    have built := (build_follows kept table.axisNames index.toNat rule).bind (fun _ => rfl) stored
    refine (built table).start (fun journal => ?_) rfl
    simp [setRule, outside, perform_bind]

theorem setDescriptor_follows (kept : Table → τ) (index : Int) (descriptor : String) :
    Follows kept (setDescriptor index descriptor) fun table => (Edit.setDescriptor index descriptor).outcome table := by
  intro table
  cases found : table.binding index with
  | error fault =>
      simp only [Edit.outcome, found]
      refine (ofExcept_follows kept (.error fault) table).start (fun journal => ?_) rfl
      simp [setDescriptor, found, perform_bind]
  | ok binding =>
      simp only [Edit.outcome, found]
      refine (setRule_follows kept index (binding.rule.withDescriptor descriptor) table).start
        (fun journal => ?_) rfl
      simp [setDescriptor, found, perform_bind]

theorem perform_setAxisNames (axisNames : Option (List String)) (table : Table) (journal : Journal) :
    (setAxisNames axisNames).perform table journal =
      (load table.rules).perform { table with axisNames } journal := by
  simp [setAxisNames, rules, perform_bind]

/-- The part of a table that an edit leaves alone if it fails. -/
def Edit.kept (edit : Edit) (table : Table) : Table :=
  match edit with
  | .setAxisNames _ => { table with axisNames := none }
  | _ => table

theorem Edit.follows (edit : Edit) : Follows edit.kept edit.action fun table => edit.outcome table := by
  cases edit with
  | load rules => exact load_follows _ rules
  | resize size =>
      intro table
      have ends := (resize_follows (Edit.resize size).kept size table).map fun _ => ()
      by_cases negative : size < 0
      · simpa [Edit.action, Edit.outcome, negative, Except.map] using ends
      · simpa [Edit.action, Edit.outcome, negative, Except.map] using ends
  | setRule index rule => exact setRule_follows _ index rule
  | setDescriptor index descriptor => exact setDescriptor_follows _ index descriptor
  | setAxisNames axisNames =>
      intro table
      exact (load_follows _ table.rules { table with axisNames }).start
        (fun journal => perform_setAxisNames axisNames table journal) rfl

end InputBinding.Table
