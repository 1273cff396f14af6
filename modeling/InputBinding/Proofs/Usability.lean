import InputBinding.Proofs.HeldKeys
import InputBinding.Proofs.Recording
import InputBinding.Proofs.Synonyms

/-!
What a capture is good for. The names of keys come from outside and become part of a descriptor just as they are, so
a name can change what the descriptor says: it may be refused, or stand for an axis, for a pair of axes or for
nothing. A binding that has been captured asks for the keys that went down exactly if their names can be written in
a descriptor, and then it fires while they are held.
-/

namespace InputBinding

open Journaled Text

/-! Reading the names of keys that stand in a descriptor alone. -/

namespace Grammar

variable {context : Context} {key first second : String}

theorem spells_self (isName : IsName key.toList) : SpellsAtom { name := key } key.toList :=
  .bare isName (padded_self _)

theorem parse_one_key_iff (button : context.category = .button) (trimmed : Trimmed key.toList)
    (nonempty : key.toList ≠ []) :
    (∃ read, parse context .standard key = .ok read ∧ read.steps = [.single (.key key)]) ↔
      IsName key.toList ∧ ¬ context.Declares key ∧ key ≠ "None" := by
  by_cases unbound : key = "None"
  · subst unbound
    have parsed : parse context .standard "None" = .ok { source := "None" } := parse_unbound (by decide)
    simp [parsed]
  · have bound : isUnboundText (strip key.toList) = false := by
      rw [trimmed.strip, Bool.eq_false_iff, Ne, isUnboundText_iff]
      rintro (empty | same)
      · exact nonempty empty
      · exact unbound (String.toList_injective same)
    rw [parse_bound_iff bound, trimmed.strip, readSteps_standard_iff]
    constructor
    · rintro ⟨name, spells, same⟩
      by_cases declared : context.Declares name
      · simp [Context.lonePart, declared] at same
      · simp only [Context.lonePart, button, reduceCtorEq, declared, or_self, if_false, List.cons.injEq,
          Step.single.injEq, Part.key.injEq, and_true] at same
        subst same
        exact ⟨spells.isName, declared, unbound⟩
    · rintro ⟨isName, undeclared, _⟩
      exact ⟨key, spells_self isName, by simp [Context.lonePart, button, undeclared]⟩

theorem parse_two_keys_iff (button : context.category = .button) :
    (∃ read, parse context .combo (first ++ "+" ++ second) = .ok read ∧
        read.steps = [.combo (.key first) (.key second)]) ↔
      (IsName first.toList ∧ ¬ context.Declares first) ∧ IsName second.toList ∧ ¬ context.Declares second := by
  have written : (first ++ "+" ++ second).toList = first.toList ++ '+' :: second.toList := by simp
  have leads (name : String) : context.Leads name ↔ context.Declares name := by simp [Context.Leads, button]
  rw [parse_bound_iff (bound_of_plus (by simp [written])), readSteps_combo_iff, written]
  simp only [spellsCombo_strip]
  constructor
  · rintro ⟨form, spells, _, same⟩
    generalize first.toList ++ '+' :: second.toList = text at spells
    cases spells with
    | @names left right _ _ leftSpells rightSpells =>
        by_cases leftDeclared : context.Declares left
        · simp [ComboForm.step, leads, leftDeclared] at same
        · by_cases rightDeclared : context.Declares right
          · simp [ComboForm.step, leads, leftDeclared, rightDeclared] at same
          · simp only [ComboForm.step, leads, leftDeclared, rightDeclared, if_false, List.cons.injEq, Step.combo.injEq,
              Part.key.injEq, and_true] at same
            obtain ⟨rfl, rfl⟩ := same
            exact ⟨⟨leftSpells.isName, leftDeclared⟩, rightSpells.isName, rightDeclared⟩
    | pair | group => simp [ComboForm.step, pairStep] at same
  · rintro ⟨⟨firstName, firstUndeclared⟩, secondName, secondUndeclared⟩
    refine ⟨.names first second, .names (spells_self firstName) (spells_self secondName), ?_, ?_⟩
    · exact fun both => secondUndeclared both.2
    · simp [ComboForm.step, leads, firstUndeclared, secondUndeclared]

end Grammar

namespace Capture

open Grammar

/-! The keys that a capture remembers, whatever has been done to it. -/

structure Neat (key : String) : Prop where
  nonempty : key.toList ≠ []
  trimmed : Trimmed key.toList

def Tidy (capture : Capture) : Prop :=
  ∀ key ∈ capture.firstKey, Neat key

def Tidied (state : Table × Capture) : Prop :=
  state.2.Tidy

theorem tidy_of_none {capture : Capture} (blank : capture.firstKey = none) : capture.Tidy := by
  simp [Tidy, blank]

theorem neat_of_keysOf {keys : List String} {key : String} (member : key ∈ keysOf keys) : Neat key := by
  obtain ⟨names, _, _, taken⟩ := keysOf_sorted keys
  rw [taken, List.mem_filter, List.mem_map] at member
  obtain ⟨⟨name, _, rfl⟩, some⟩ := member
  refine ⟨?_, ?_⟩
  · simpa [String.isEmpty_iff] using some
  · rw [trim, String.toList_ofList]
    exact trimmed_strip _

theorem onTable_tidy (action : Journaled Table α) : Passes (fun _ => True) Tidied (onTable action) :=
  Keeps.focus (passes_any action) (fun _ _ => trivial) fun _ _ tidy _ => tidy

theorem onCapture_tidy {action : Journaled Capture α} (passes : Passes (fun _ => True) Tidy action) :
    Passes (fun _ => True) Tidied (onCapture action) :=
  Keeps.focus passes (fun _ tidy => tidy) fun _ _ _ tidy => tidy

theorem cancel_tidy : Passes (fun _ => True) Tidy cancel := by
  apply Keeps.get
  intro capture _
  split
  · exact passes_pure ()
  · exact (passes_note _).bind fun _ => passes_set (tidy_of_none rfl)

theorem finish_tidy (index tick : Int) (descriptor : String) :
    Passes (fun _ => True) Tidied (finish index tick descriptor) :=
  (onTable_tidy _).bind fun _ => (onCapture_tidy (passes_set (tidy_of_none rfl))).bind fun _ =>
    (passes_note _).bind fun _ => passes_announce _

theorem takeKeys_tidy (kind : Kind) (index tick : Int) {keys : List String} (neat : ∀ key ∈ keys, Neat key) :
    Passes (fun _ => True) Tidied (takeKeys kind index tick keys) := by
  induction keys with
  | nil => exact passes_pure false
  | cons key others ih =>
      obtain ⟨neatKey, neatOthers⟩ := List.forall_mem_cons.mp neat
      unfold takeKeys
      split
      · exact (finish_tidy index tick key).bind fun _ => passes_pure true
      · apply Keeps.get
        intro state _
        split
        · have noted : Passes (fun _ => True) Tidy (modify ({ · with firstKey := some key })) :=
            passes_modify fun _ _ other same => Option.some.inj same ▸ neatKey
          exact (onCapture_tidy noted).bind fun _ => (passes_note _).bind fun _ => ih neatOthers
        · split
          · exact ih neatOthers
          · exact (finish_tidy index tick _).bind fun _ => passes_pure true

theorem abandon_tidy (notice : Notice) : Passes (fun _ => True) Tidied (abandon notice) :=
  (passes_note _).bind fun _ => (onCapture_tidy cancel_tidy).bind fun _ => passes_pure false

theorem feed_tidy (keys : List String) (tick : Int) : Passes (fun _ => True) Tidied (feed keys tick) := by
  apply Keeps.get
  rintro ⟨table, capture⟩ _
  dsimp only
  split
  · exact passes_pure false
  · split
    · exact abandon_tidy _
    · rename_i index _ _
      have looked : Passes (fun _ => True) Tidied (Journaled.ofExcept (table.binding index)) :=
        keeps_ofExcept fun _ _ => trivial
      apply looked.bind
      intro binding
      split
      · exact abandon_tidy _
      · exact takeKeys_tidy binding.rule.kind index tick fun _ => neat_of_keysOf

theorem Operation.tidy (operation : Operation) : Passes (fun _ => True) Tidied operation.action := by
  cases operation with
  | edit change => exact onTable_tidy change.action
  | begin index tick =>
      apply Keeps.get
      intro state _
      exact onCapture_tidy (begin_passes tick fun _ _ _ => tidy_of_none rfl)
  | cancel => exact onCapture_tidy cancel_tidy
  | feed keys tick =>
      rw [action, map_eq_pure_bind]
      exact (feed_tidy keys tick).bind fun _ => passes_pure ()

/-- A capture that operations have led to, each on the table that there was by then. In between, ticks may have gone
by and tables may have been replaced. -/
inductive Reached : Capture → Prop
  | closed : Reached {}
  | next {capture : Capture} (operation : Operation) (table : Table) (journal : Journal) : Reached capture →
      Reached (operation.action.perform (table, capture) journal).1.2.2

theorem Reached.tidy {capture : Capture} (reached : capture.Reached) : capture.Tidy := by
  induction reached with
  | closed => exact tidy_of_none rfl
  | @next capture operation table journal _ tidy =>
      have start : Tidied (table, capture) := tidy
      exact operation.tidy.state start journal

/-! Captures that are completed. -/

def Catch.keys : Catch → List String
  | .one key => [key]
  | .two first second => [first, second]

def Catch.step : Catch → Step
  | .one key => .single (.key key)
  | .two first second => .combo (.key first) (.key second)

def Catch.kind : Catch → Kind
  | .one _ => .standard
  | .two _ _ => .combo

theorem kind_of_catch? {kind : Kind} (steady : kind ≠ .sequence) {keys : List String} {caught : Catch}
    (catches : catch? kind keys = some caught) : kind = caught.kind := by
  cases keys with
  | nil => cases catches
  | cons key others =>
      cases kind with
      | standard =>
          simp only [catch?, if_true, Option.some.injEq] at catches
          rw [← catches]
          rfl
      | combo =>
          simp only [catch?, reduceCtorEq, if_false, Option.map_eq_some_iff] at catches
          obtain ⟨second, _, rfl⟩ := catches
          rfl
      | sequence => exact absurd rfl steady

theorem mem_of_catch? {kind : Kind} {keys : List String} {caught : Catch} (catches : catch? kind keys = some caught) :
    ∀ key ∈ caught.keys, key ∈ keys := by
  cases keys with
  | nil => cases catches
  | cons key others =>
      by_cases standard : kind = .standard
      · simp only [catch?, standard, if_true, Option.some.injEq] at catches
        subst catches
        simp [Catch.keys]
      · simp only [catch?, standard, if_false, Option.map_eq_some_iff] at catches
        obtain ⟨second, found, rfl⟩ := catches
        have member := List.mem_of_find?_eq_some found
        simp [Catch.keys, member]

theorem mem_of_known {kind : Kind} {capture : Capture} {key : String} (member : key ∈ capture.known kind) :
    key ∈ capture.firstKey := by
  obtain ⟨_, _ | first⟩ := capture <;> cases kind <;> simp_all [known, remembered]

theorem feed_completed {keys : List String} {tick : Int} {state : Table × Capture} {journal : Journal}
    (completed : ((feed keys tick).perform state journal).1.1 = .ok true) :
    (fed keys state).1 = .ok true ∧ ((feed keys tick).perform state journal).1.2 = (fed keys state).2 := by
  rcases feed_follows keys tick state journal with ⟨after, ended, _⟩ | ⟨_, fault, left, after, ended, _⟩
  · rw [ended] at completed ⊢
    exact ⟨completed, rfl⟩
  · rw [ended] at completed
    cases completed

theorem fed_completed {keys : List String} {state : Table × Capture} (completed : (fed keys state).1 = .ok true) :
    ∃ (position : Nat) (binding : Binding) (caught : Catch),
      state.2.target = some (position : Int) ∧ state.1.bindings[position]? = some binding ∧
      binding.rule.kind ≠ .sequence ∧
      catch? binding.rule.kind (state.2.known binding.rule.kind ++ keysOf keys) = some caught ∧
      (fed keys state).2 = (state.1.put position
        (Binding.ofRule state.1.axisNames (binding.rule.withDescriptor caught.descriptor)), {}) := by
  obtain ⟨table, capture⟩ := state
  cases opened : capture.target with
  | none => simp [fed, opened] at completed
  | some index =>
      by_cases removed : (table.size : Int) ≤ index
      · simp [fed, opened, removed] at completed
      · cases found : table.binding index with
        | error fault => simp [fed, opened, removed, found] at completed
        | ok binding =>
            by_cases sequence : binding.isSequence = true
            · simp [fed, opened, removed, found, sequence] at completed
            · have steady : binding.rule.kind ≠ .sequence := by simpa [Binding.isSequence] using sequence
              simp only [fed, opened, if_neg removed, found, if_neg sequence, taken] at completed ⊢
              cases catches : catch? binding.rule.kind (capture.known binding.rule.kind ++ keysOf keys) with
              | none => simp [catches] at completed
              | some caught =>
                  simp only [catches, finished_put found] at completed ⊢
                  by_cases negative : index < 0
                  · simp only [if_pos negative] at completed
                    cases completed
                  · obtain ⟨position, rfl⟩ := Int.eq_ofNat_of_zero_le (by omega : 0 ≤ index)
                    simp only [if_neg negative, Int.toNat_natCast]
                    exact ⟨position, binding, caught, rfl, getElem?_of_found found, steady, catches, rfl⟩

/-- Keys whose names can stand in a descriptor as they are. -/
def Catch.Expressible (axisNames : Option (List String)) (caught : Catch) : Prop :=
  (∀ key ∈ caught.keys, (∀ char ∈ [',', '+', '(', ')', '<', '>', '='], char ∉ key.toList) ∧
    ∀ names, axisNames = some names → key ∉ names) ∧
  caught ≠ .one "None"

instance (axisNames : Option (List String)) (caught : Catch) : Decidable (caught.Expressible axisNames) :=
  -- The instance that search finds may be the one that tries every character there is.
  letI (key : String) : Decidable (∀ char ∈ [',', '+', '(', ')', '<', '>', '='], char ∉ key.toList) :=
    List.decidableBAll (· ∉ key.toList) _
  inferInstanceAs (Decidable ((∀ key ∈ caught.keys, _ ∧ _) ∧ _))

theorem defect_none_iff {axisNames : Option (List String)} {rule : Rule} {steps : List Step} :
    ((Binding.ofRule axisNames rule).defect = none ∧ (Binding.ofRule axisNames rule).descriptor.steps = steps) ↔
      ∃ read, rule.parse axisNames = .ok read ∧ read.steps = steps := by
  unfold Binding.ofRule
  cases rule.parse axisNames with
  | error defect => simp
  | ok read => simp

theorem Neat.isName_iff {key : String} (neat : Neat key) :
    IsName key.toList ↔ ∀ char ∈ [',', '+', '(', ')', '<', '>', '='], char ∉ key.toList :=
  ⟨fun isName => isName.plain, fun plain => ⟨neat.nonempty, plain, neat.trimmed⟩⟩

theorem expressible_iff {axisNames : Option (List String)} {caught : Catch} (neat : ∀ key ∈ caught.keys, Neat key) :
    caught.Expressible axisNames ↔
      (∀ key ∈ caught.keys, IsName key.toList ∧ ¬ ∃ names, axisNames = some names ∧ key ∈ names) ∧
        caught ≠ .one "None" := by
  refine and_congr_left fun _ => forall₂_congr fun key member => ?_
  rw [(neat key member).isName_iff]
  simp

/-- The rule of a button is read as asking for the keys that it has captured exactly if they are expressible. -/
theorem captured_read_iff {rule : Rule} (button : rule.category = .button) (axisNames : Option (List String))
    {caught : Catch} (same : rule.kind = caught.kind) (neat : ∀ key ∈ caught.keys, Neat key) :
    let binding := Binding.ofRule axisNames (rule.withDescriptor caught.descriptor)
    (binding.defect = none ∧ binding.descriptor.steps = [caught.step]) ↔ caught.Expressible axisNames := by
  intro binding
  have category : (rule.context axisNames).category = .button := button
  have parsed : (rule.withDescriptor caught.descriptor).parse axisNames =
      parse (rule.context axisNames) caught.kind caught.descriptor := by
    rw [← same]
    rfl
  rw [defect_none_iff, parsed, expressible_iff neat]
  cases caught with
  | one key =>
      have neatKey := neat key (by simp [Catch.keys])
      rw [Catch.kind, Catch.descriptor, Catch.step, parse_one_key_iff category neatKey.trimmed neatKey.nonempty]
      simp [Catch.keys, Context.Declares, Rule.context, and_assoc]
  | two first second =>
      rw [Catch.kind, Catch.descriptor, Catch.step, parse_two_keys_iff category]
      simp [Catch.keys, Context.Declares, Rule.context]

theorem wants_of_read {rule : Rule} {axisNames : Option (List String)} {descriptor : String} {caught : Catch}
    (same : rule.kind = caught.kind)
    (read : (Binding.ofRule axisNames (rule.withDescriptor descriptor)).defect = none ∧
      (Binding.ofRule axisNames (rule.withDescriptor descriptor)).descriptor.steps = [caught.step]) :
    (Binding.ofRule axisNames (rule.withDescriptor descriptor)).Wants caught.keys := by
  have kind : (Binding.ofRule axisNames (rule.withDescriptor descriptor)).rule.kind = caught.kind := by
    rw [Binding.rule_ofRule, ← same]
    rfl
  cases caught with
  | one key => exact .one read.1 kind read.2
  | two first second => exact .two read.1 kind read.2

/-- However a capture has come about: if keys complete it on the rule of a button, then the rule is read as asking
for the keys that were caught exactly if these are expressible, and then it fires while they are held. -/
theorem completed_usable {capture : Capture} (reached : capture.Reached) (table : Table) (keys : List String)
    (tick : Int) (journal : Journal) (completed : ((feed keys tick).perform (table, capture) journal).1.1 = .ok true) :
    let ended := ((feed keys tick).perform (table, capture) journal).1.2
    ∃ (position : Nat) (binding : Binding) (caught : Catch),
      capture.target = some (position : Int) ∧ table.bindings[position]? = some binding ∧
      binding.rule.kind = caught.kind ∧
      catch? caught.kind (capture.known caught.kind ++ keysOf keys) = some caught ∧
      let captured := Binding.ofRule table.axisNames (binding.rule.withDescriptor caught.descriptor)
      ended = (table.put position captured, {}) ∧
      (binding.rule.category = .button →
        ((captured.defect = none ∧ captured.descriptor.steps = [caught.step]) ↔ caught.Expressible table.axisNames) ∧
        (caught.Expressible table.axisNames → ended.1.FiresWhileHeld position caught.keys)) := by
  intro ended
  have ends := feed_completed completed
  obtain ⟨position, binding, caught, target, found, steady, catches, left⟩ := fed_completed ends.1
  have same := kind_of_catch? steady catches
  have neat : ∀ key ∈ caught.keys, Neat key := by
    intro key member
    rcases List.mem_append.mp (mem_of_catch? catches key member) with remembered | pressed
    · exact reached.tidy key (mem_of_known remembered)
    · exact neat_of_keysOf pressed
  rw [same] at catches
  refine ⟨position, binding, caught, target, found, same, catches, ends.2.trans left, fun button => ?_⟩
  have readIff := captured_read_iff button table.axisNames same neat
  refine ⟨readIff, fun expressible => ?_⟩
  have wants := wants_of_read same (readIff.mpr expressible)
  have inside := (List.getElem?_eq_some_iff.mp found).1
  refine wants.fires ?_
  rw [show ended = _ from ends.2.trans left]
  exact List.getElem?_set_self inside

def half : Capture where
  target := some 1
  firstKey := some "B"

theorem half_reached : half.Reached := by
  have fed : (((Operation.feed ["B"] 0).action.perform (pair, { target := some 1 }) {}).1.2.2 : Capture) = half := by
    decide +kernel
  rw [← fed]
  exact .next _ _ _ (.next (.begin 1 0) pair {} .closed)

def holding (table : Table) (pressed : List String) : Run where
  matcher := { table }
  moments _ := { source := Snapshot.toSource { pressed }, delta := 0.5, sink := fun _ => {} }

theorem completed_usable_half :
    half.Reached ∧ ((feed ["C"] 1).perform (pair, half) {}).1.1 = .ok true ∧
    (∃ report, (holding ((feed ["C"] 1).perform (pair, half) {}).1.2.1 ["C", "B"]).result 2 = .ok report ∧
      (report.fired.filter fun invocation => invocation.mapping = 1) = [{ mapping := 1 }]) ∧
    ((feed ["X, Y"] 1).perform (pair, half) {}).1.1 = .ok true ∧
    ∃ captured, ((feed ["X, Y"] 1).perform (pair, half) {}).1.2.1.bindings[1]? = some captured ∧
      ¬ (captured.defect = none ∧ captured.descriptor.steps = [.combo (.key "B") (.key "X, Y")]) := by
  have plain : ((feed ["C"] 1).perform (pair, half) {}).1.1 = .ok true := eq_ok_of_toOption (by decide +kernel)
  have hostile : ((feed ["X, Y"] 1).perform (pair, half) {}).1.1 = .ok true := eq_ok_of_toOption (by decide +kernel)
  refine ⟨half_reached, plain, ?_, hostile, ?_⟩
  · obtain ⟨_, _, _, ⟨⟩, ⟨⟩, same, catches, _, usable⟩ := completed_usable half_reached pair ["C"] 1 {} plain
    have both : catch? .combo (half.known .combo ++ keysOf ["C"]) = some (.two "B" "C") := by decide +kernel
    rw [← same, Binding.rule_ofRule, both] at catches
    cases catches
    have fires := (usable rfl).2 (by decide)
    have calm : (holding ((feed ["C"] 1).perform (pair, half) {}).1.2.1 ["C", "B"]).Calm :=
      ⟨rfl, Journal.quiet_of_no_channel rfl⟩
    obtain ⟨reports, returns⟩ := fires (holding _ ["C", "B"]) rfl rfl 2 { pressed := ["C", "B"] } rfl (by decide)
      fun _ => rfl
    obtain ⟨report, returned⟩ := returns (by decide : ¬ (0.5 : Float) < 0.0)
      ((Journal.quiet_iff_admits.mp (calm.state 2).1).mono fun _ _ => False.elim)
    exact ⟨report, returned, (reports report returned).trans (by decide)⟩
  · obtain ⟨_, _, _, ⟨⟩, ⟨⟩, same, catches, ended, usable⟩ :=
      completed_usable half_reached pair ["X, Y"] 1 {} hostile
    have both : catch? .combo (half.known .combo ++ keysOf ["X, Y"]) = some (.two "B" "X, Y") := by decide +kernel
    rw [← same, Binding.rule_ofRule, both] at catches
    cases catches
    refine ⟨_, by rw [ended]; rfl, fun read => ?_⟩
    exact absurd ((usable rfl).1.mp read) (by decide)

end Capture

end InputBinding
