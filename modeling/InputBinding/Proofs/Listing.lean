import InputBinding.Proofs.Edits
import InputBinding.Proofs.Independence

/-!
A table as the plain list of its rules. Every edit does to the list what it says, or fails and does
nothing; each binding holds what its rule is read as under the current axis names; and progress is lost
by the bindings that an edit replaces, and by no others.
-/

namespace InputBinding

structure Listing where
  limit : Nat
  axisNames : Option (List String)
  rules : List Rule

/-- A binding holds what its rule is read as. A rule that cannot be read has no steps. -/
def Binding.ReadUnder (axisNames : Option (List String)) (binding : Binding) : Prop :=
  match binding.rule.parse axisNames with
  | .ok descriptor => binding.descriptor = descriptor ∧ binding.defect = none
  | .error defect => binding.descriptor = { source := binding.rule.descriptor, steps := [] } ∧
      binding.defect = some defect

theorem Binding.readUnder_ofRule (axisNames : Option (List String)) (rule : Rule) :
    (ofRule axisNames rule).ReadUnder axisNames := by
  unfold ReadUnder
  rw [rule_ofRule]
  cases parsed : rule.parse axisNames with
  | ok descriptor => simp [ofRule, parsed]
  | error defect => simp [ofRule, parsed]

/-- A table and the list that it stands for. -/
structure Listing.Shows (listing : Listing) (table : Table) : Prop where
  limit : table.limit = listing.limit
  axisNames : table.axisNames = listing.axisNames
  rules : table.rules = listing.rules
  bounded : table.size ≤ table.limit
  read : ∀ binding ∈ table.bindings, binding.ReadUnder table.axisNames

namespace Table

def Edit.revise (listing : Listing) : Edit → Except Fault Listing
  | .load rules => .ok { listing with rules := rules.take listing.limit }
  | .resize size =>
      if size < 0 then .error .negativeSize
      else
        let count := min size.toNat listing.limit
        .ok { listing with rules := listing.rules.take count ++ List.replicate (count - listing.rules.length) {} }
  | .setRule index rule =>
      if 0 ≤ index ∧ index < listing.rules.length then
        .ok { listing with rules := listing.rules.set index.toNat rule }
      else .error (.mappingOutOfRange index)
  | .setDescriptor index descriptor =>
      if 0 ≤ index ∧ index < listing.rules.length then
        .ok { listing with rules := listing.rules.modify index.toNat fun rule => rule.withDescriptor descriptor }
      else if index < 0 ∧ 0 ≤ index + listing.rules.length then .error (.mappingOutOfRange index)
      else .error .indexOutOfRange
  | .setAxisNames axisNames => .ok { listing with axisNames }

def Edit.revised (listing : Listing) (edit : Edit) : Listing :=
  match edit.revise listing with
  | .ok revised => revised
  | .error _ => listing

/-- The positions whose bindings an edit makes anew. -/
def Edit.Replaces (listing : Listing) (position : Nat) : Edit → Prop
  | .load _ | .setAxisNames _ => True
  | .resize _ => listing.rules.length ≤ position
  | .setRule index _ | .setDescriptor index _ => index = position

variable {listing : Listing} {table : Table}

theorem length_rules (shows : listing.Shows table) : listing.rules.length = table.size := by
  rw [← shows.rules]
  exact List.length_map _

theorem rules_ofRule (axisNames : Option (List String)) (rules : List Rule) :
    (rules.map (Binding.ofRule axisNames)).map (·.rule) = rules := by
  simp [Function.comp_def, Binding.rule_ofRule]

theorem shows_reload (table : Table) (rules : List Rule) :
    Listing.Shows ⟨table.limit, table.axisNames, rules.take table.limit⟩ (table.reload rules) where
  limit := rfl
  axisNames := rfl
  rules := rules_ofRule _ _
  bounded := by
    simp only [reload, size, List.length_map, List.length_take]
    omega
  read binding member := by
    obtain ⟨rule, _, rfl⟩ := List.mem_map.mp member
    exact Binding.readUnder_ofRule _ rule

theorem shows_resized (shows : listing.Shows table) {count : Nat} (allowed : count ≤ table.limit) :
    Listing.Shows { listing with
        rules := listing.rules.take count ++ List.replicate (count - listing.rules.length) {} }
      (table.resized count) where
  limit := shows.limit
  axisNames := shows.axisNames
  rules := by
    rw [length_rules shows, ← shows.rules]
    simp [resized, Table.rules, Binding.rule_ofRule]
  bounded := by
    simp only [resized, size, List.length_append, List.length_take, List.length_map, List.length_replicate]
    omega
  read binding member := by
    rcases List.mem_append.mp member with kept | added
    · exact shows.read binding (List.mem_of_mem_take kept)
    · obtain ⟨rule, _, rfl⟩ := List.mem_map.mp added
      exact Binding.readUnder_ofRule _ rule

theorem shows_put (shows : listing.Shows table) (position : Nat) (rule : Rule) :
    Listing.Shows { listing with rules := listing.rules.set position rule }
      (table.put position (Binding.ofRule table.axisNames rule)) where
  limit := shows.limit
  axisNames := shows.axisNames
  rules := by
    rw [← shows.rules]
    simp [put, Table.rules, List.map_set, Binding.rule_ofRule]
  bounded := by simpa [put, size] using shows.bounded
  read binding member := by
    rcases List.mem_or_eq_of_mem_set member with kept | rfl
    · exact shows.read binding kept
    · exact Binding.readUnder_ofRule _ rule

theorem binding_cases (table : Table) (index : Int) :
    (∃ found, 0 ≤ index ∧ index < table.size ∧ table.bindings[index.toNat]? = some found ∧
      table.binding index = .ok found) ∨
    (∃ found, index < 0 ∧ 0 ≤ index + table.size ∧ table.binding index = .ok found) ∨
    ((table.size ≤ index ∨ index + table.size < 0) ∧ table.binding index = .error .indexOutOfRange) := by
  have present (position : Nat) (bound : position < table.size) :
      ∃ found, table.bindings[position]? = some found := ⟨_, List.getElem?_eq_getElem bound⟩
  by_cases negative : index < 0
  · by_cases inside : 0 ≤ index + table.size
    · obtain ⟨found, there⟩ := present (index + table.size).toNat (by omega)
      have small : index + table.size < table.size := by omega
      exact Or.inr (Or.inl ⟨found, negative, inside, by
        simp only [binding, position?, if_pos negative, inside, small, and_self, if_true, Option.bind_some, there]⟩)
    · exact Or.inr (Or.inr ⟨Or.inr (by omega), by simp [binding, position?, negative, inside]⟩)
  · by_cases inside : index < table.size
    · obtain ⟨found, there⟩ := present index.toNat (by omega)
      have nonnegative : 0 ≤ index := by omega
      exact Or.inl ⟨found, nonnegative, inside, there, by
        simp [binding, position?, negative, inside, nonnegative, there]⟩
    · exact Or.inr (Or.inr ⟨Or.inl (by omega), by simp [binding, position?, negative, inside]⟩)

theorem Edit.outcome_shows (shows : listing.Shows table) (edit : Edit) :
    (edit.outcome table).1 = (edit.revise listing).map (fun _ => ()) ∧
      (edit.revised listing).Shows (edit.outcome table).2 := by
  have sameLength := length_rules shows
  have replaces (index : Int) (rule : Rule) :
      (table.replaced index rule).1 =
        ((Edit.setRule index rule).revise listing).map (fun _ => ()) ∧
      ((Edit.setRule index rule).revised listing).Shows (table.replaced index rule).2 := by
    by_cases inside : 0 ≤ index ∧ index < table.size
    · have accepted : ¬ (index < 0 ∨ table.size ≤ index) := by omega
      simp only [revised, revise, sameLength, inside, and_self, if_true, replaced, if_neg accepted]
      exact ⟨rfl, shows_put shows index.toNat rule⟩
    · have refused : index < 0 ∨ table.size ≤ index := by omega
      simp only [revised, revise, sameLength, inside, if_false, replaced, if_pos refused]
      exact ⟨rfl, shows⟩
  cases edit with
  | load rules =>
      refine ⟨rfl, ?_⟩
      have loaded := shows_reload table rules
      rw [shows.limit, shows.axisNames] at loaded
      exact loaded
  | resize size =>
      by_cases negative : size < 0
      · simp only [revised, revise, outcome, if_pos negative]
        exact ⟨rfl, shows⟩
      · simp only [revised, revise, outcome, if_neg negative]
        have shown := shows_resized shows (Nat.min_le_right size.toNat table.limit)
        rw [shows.limit] at shown ⊢
        exact ⟨rfl, shown⟩
  | setRule index rule => exact replaces index rule
  | setDescriptor index descriptor =>
      rcases binding_cases table index with
        ⟨found, nonnegative, inside, there, looked⟩ | ⟨found, negative, counted, looked⟩ | ⟨outside, looked⟩
      · have sameRule : listing.rules[index.toNat]? = some found.rule := by
          rw [← shows.rules, Table.rules, List.getElem?_map, there]
          rfl
        have modified : listing.rules.modify index.toNat (fun rule => rule.withDescriptor descriptor) =
            listing.rules.set index.toNat (found.rule.withDescriptor descriptor) := by
          rw [List.modify_eq_set_getElem?, sameRule]
          rfl
        have ends := replaces index (found.rule.withDescriptor descriptor)
        simp only [revised, revise, sameLength, nonnegative, inside, and_self, if_true] at ends
        simp only [outcome, looked, revised, revise, sameLength, nonnegative, inside, and_self, if_true, modified]
        exact ends
      · have refused : ¬ (0 ≤ index ∧ index < table.size) := by omega
        have ends := replaces index (found.rule.withDescriptor descriptor)
        simp only [revised, revise, sameLength, if_neg refused] at ends
        simp only [outcome, looked, revised, revise, sameLength, if_neg refused, negative, counted, and_self, if_true]
        exact ends
      · have refused : ¬ (0 ≤ index ∧ index < table.size) := by omega
        have uncounted : ¬ (index < 0 ∧ 0 ≤ index + table.size) := by omega
        simp only [outcome, looked, revised, revise, sameLength, if_neg refused, if_neg uncounted]
        exact ⟨rfl, shows⟩
  | setAxisNames axisNames =>
      have whole : table.rules.take table.limit = table.rules := by
        apply List.take_of_length_le
        rw [shows.rules, sameLength]
        exact shows.bounded
      have loaded : Listing.Shows ⟨table.limit, axisNames, table.rules.take table.limit⟩
          ({ table with axisNames }.reload table.rules) :=
        shows_reload { table with axisNames } table.rules
      rw [whole] at loaded
      exact ⟨rfl, shows.limit, rfl, loaded.rules.trans shows.rules, loaded.bounded, loaded.read⟩

end Table

def Binding.AtRest (binding : Binding) : Prop :=
  binding.toProgress = {}

theorem Binding.atRest_ofRule (axisNames : Option (List String)) (rule : Rule) : (ofRule axisNames rule).AtRest :=
  (congrArg Binding.toProgress (rest_ofRule axisNames rule) :).symm

namespace Table

variable {listing : Listing} {table : Table}

theorem atRest_of_mem_map {axisNames : Option (List String)} {rules : List Rule} {binding : Binding}
    (member : binding ∈ rules.map (Binding.ofRule axisNames)) : binding.AtRest := by
  obtain ⟨rule, _, rfl⟩ := List.mem_map.mp member
  exact Binding.atRest_ofRule axisNames rule

theorem resized_binding {count position : Nat} {binding : Binding}
    (found : (table.resized count).bindings[position]? = some binding) :
    (table.size ≤ position → binding.AtRest) ∧
      (position < table.size → table.bindings[position]? = some binding) := by
  have taken : (table.bindings.take count).length = min count table.size := List.length_take
  simp only [resized] at found
  constructor
  · intro beyond
    rw [List.getElem?_append_right (by omega)] at found
    exact atRest_of_mem_map (List.mem_of_getElem? found)
  · intro inside
    by_cases kept : position < count
    · rwa [List.getElem?_append_left (by omega), List.getElem?_take_of_lt kept] at found
    · have nothing : count - table.size = 0 := by omega
      simp only [nothing, List.replicate_zero, List.map_nil, List.append_nil] at found
      have bound := (List.getElem?_eq_some_iff.mp found).1
      omega

theorem replaced_binding {index : Int} {rule : Rule} {position : Nat} {binding : Binding}
    (found : (table.replaced index rule).2.bindings[position]? = some binding) :
    (index = position → binding.AtRest) ∧ (index ≠ position → table.bindings[position]? = some binding) := by
  by_cases outside : index < 0 ∨ table.size ≤ index
  · simp only [replaced, if_pos outside] at found
    have inside : position < table.size := (List.getElem?_eq_some_iff.mp found).1
    exact ⟨by omega, fun _ => found⟩
  · simp only [replaced, if_neg outside, put] at found
    by_cases here : index.toNat = position
    · have inside : position < table.bindings.length := by
        have bound := (List.getElem?_eq_some_iff.mp found).1
        rwa [List.length_set] at bound
      rw [here, List.getElem?_set_self inside, Option.some.injEq] at found
      subst found
      exact ⟨fun _ => Binding.atRest_ofRule _ _, by omega⟩
    · rw [List.getElem?_set_ne here] at found
      exact ⟨by omega, fun _ => found⟩

theorem Edit.outcome_binding (shows : listing.Shows table) (edit : Edit) {position : Nat} {binding : Binding}
    (found : (edit.outcome table).2.bindings[position]? = some binding) :
    (edit.Replaces listing position → binding.AtRest) ∧
      (¬ edit.Replaces listing position → table.bindings[position]? = some binding) := by
  cases edit with
  | load rules | setAxisNames axisNames =>
      exact ⟨fun _ => atRest_of_mem_map (List.mem_of_getElem? found), fun kept => absurd trivial kept⟩
  | resize size =>
      simp only [Replaces, length_rules shows, Nat.not_le]
      by_cases negative : size < 0
      · simp only [outcome, if_pos negative] at found
        have inside : position < table.size := (List.getElem?_eq_some_iff.mp found).1
        exact ⟨by omega, fun _ => found⟩
      · simp only [outcome, if_neg negative] at found
        exact resized_binding found
  | setRule index rule => exact replaced_binding found
  | setDescriptor index descriptor =>
      rcases binding_cases table index with
        ⟨other, _, _, _, looked⟩ | ⟨other, _, _, looked⟩ | ⟨outside, looked⟩
      · simp only [outcome, looked] at found
        exact replaced_binding found
      · simp only [outcome, looked] at found
        exact replaced_binding found
      · simp only [outcome, looked] at found
        have inside : position < table.size := (List.getElem?_eq_some_iff.mp found).1
        refine ⟨fun here => ?_, fun _ => found⟩
        have same : index = position := here
        omega

inductive Change
  | edited (edit : Edit)
  | progressed (made : Nat → Progress)

def withProgress (made : Nat → Progress) (table : Table) : Table :=
  { table with bindings := table.bindings.mapIdx fun index binding => { binding with toProgress := made index } }

def Change.perform (state : Table × Journal) : Change → Table × Journal
  | .edited edit =>
      let ended := edit.action.perform state.1 state.2
      (ended.1.2, ended.2)
  | .progressed made => (state.1.withProgress made, state.2)

def Change.revised (listing : Listing) : Change → Listing
  | .edited edit => edit.revised listing
  | .progressed _ => listing

theorem shows_withProgress (shows : listing.Shows table) (made : Nat → Progress) :
    listing.Shows (table.withProgress made) where
  limit := shows.limit
  axisNames := shows.axisNames
  rules := by
    rw [← shows.rules]
    exact List.ext_getElem (by simp [withProgress, rules]) (by simp [withProgress, rules])
  bounded := by simpa [withProgress, size] using shows.bounded
  read binding member := by
    obtain ⟨index, bound, rfl⟩ := List.mem_mapIdx.mp member
    exact shows.read table.bindings[index] (List.getElem_mem bound)

theorem Edit.perform_quiet (edit : Edit) (table : Table) {journal : Journal} (quiet : journal.Quiet) :
    ∃ after, after.Quiet ∧ edit.action.perform table journal = (edit.outcome table, after) :=
  (edit.follows table).quiet quiet

theorem changes_show (shows : listing.Shows table) {journal : Journal} (quiet : journal.Quiet)
    (changes : List Change) :
    (changes.foldl Change.revised listing).Shows (changes.foldl Change.perform (table, journal)).1 ∧
      (changes.foldl Change.perform (table, journal)).2.Quiet := by
  induction changes generalizing listing table journal with
  | nil => exact ⟨shows, quiet⟩
  | cons change later ih =>
      cases change with
      | edited edit =>
          obtain ⟨after, calm, ended⟩ := edit.perform_quiet table quiet
          have step := ih (edit.outcome_shows shows).2 calm
          simpa only [List.foldl_cons, Change.revised, Change.perform, ended] using step
      | progressed made =>
          have step := ih (shows_withProgress shows made) quiet
          exact step

/-- After any edits, with any progress made in between, a table shows the list that the same edits make of
a plain list of rules: within its limit, and with each rule read under the current axis names. The next
edit returns or fails as it does on the list, brings the bindings that it replaces to rest, and leaves
all others as they are. -/
theorem refines_listing {limit : Int} (allowed : 0 ≤ limit) (axisNames : Option (List String))
    (rules : List Rule) {journal : Journal} (quiet : journal.Quiet) (changes : List Change) :
    ∃ table opened,
      (create limit axisNames rules : Journaled Unit Table).perform () journal = ((.ok table, ()), opened) ∧
      (∀ binding ∈ table.bindings, binding.AtRest) ∧
      let listing := changes.foldl Change.revised ⟨limit.toNat, axisNames, rules.take limit.toNat⟩
      let current := changes.foldl Change.perform (table, opened)
      listing.Shows current.1 ∧
      ∀ edit : Edit,
        let ended := edit.action.perform current.1 current.2
        ended.1.1 = (edit.revise listing).map (fun _ => ()) ∧
        ∀ (position : Nat) (binding : Binding), ended.1.2.bindings[position]? = some binding →
          (edit.Replaces listing position → binding.AtRest) ∧
            (¬ edit.Replaces listing position → current.1.bindings[position]? = some binding) := by
  obtain ⟨opened, calm, created⟩ := create_quiet allowed axisNames rules () quiet
  have opens : Listing.Shows ⟨limit.toNat, axisNames, rules.take limit.toNat⟩
      { limit := limit.toNat, axisNames, bindings := (rules.take limit.toNat).map (Binding.ofRule axisNames) } :=
    shows_reload { limit := limit.toNat, axisNames } rules
  obtain ⟨shows, stillQuiet⟩ := changes_show opens calm changes
  refine ⟨_, opened, created, fun _ member => atRest_of_mem_map member, shows, ?_⟩
  intro edit
  obtain ⟨after, _, ended⟩ := edit.perform_quiet _ stillQuiet
  dsimp only
  rw [ended]
  exact ⟨(edit.outcome_shows shows).1, fun position binding found => edit.outcome_binding shows found⟩

def threeRules : List Rule := [
  { descriptor := "a, b", kind := .sequence },
  { descriptor := "Tilt>", kind := .sequence },
  {}]

theorem refines_listing_crowded :
    let changes : List Change := [.progressed fun _ => { cursor := 1, matched := ["a"] }, .edited (.resize 9),
      .edited (.setDescriptor (-1) "c")]
    (0 : Int) ≤ 2 ∧ ({} : Journal).Quiet ∧
    ∃ table opened, (create 2 none threeRules : Journaled Unit Table).perform () {} = ((.ok table, ()), opened) ∧
      let current := changes.foldl Change.perform (table, opened)
      Listing.Shows ⟨2, none, threeRules.take 2⟩ current.1 ∧
      let ended := (Edit.setRule 1 {}).action.perform current.1 current.2
      ended.1.1 = .ok () ∧
        ∀ binding, ended.1.2.bindings[0]? = some binding → current.1.bindings[0]? = some binding := by
  have allowed : (0 : Int) ≤ 2 := by decide
  have quiet : ({} : Journal).Quiet := Journal.quiet_of_no_channel rfl
  intro changes
  obtain ⟨table, opened, created, _, shows, next⟩ := refines_listing allowed none threeRules quiet changes
  obtain ⟨returned, others⟩ := next (.setRule 1 {})
  refine ⟨allowed, quiet, table, opened, created, shows, returned, ?_⟩
  intro binding found
  have elsewhere : ¬ (1 : Int) = (0 : Nat) := by decide
  exact (others 0 binding found).2 elsewhere

end Table

end InputBinding
