import InputBinding.Proofs.FloatOrder
import InputBinding.Proofs.HeldKeys
import InputBinding.Proofs.Levels
import InputBinding.Proofs.Shapes

/-!
More input never undoes a match. Where more keys are down and the axes point the same way, but further, whatever held
before still holds. Only a neutral test asks for less.
-/

namespace InputBinding

/-- A value points the way another does, and no less far. Zero and what is not a number point no way. -/
structure Outreaches (greater value : Float) : Prop where
  positive : 0.0 < value → 0.0 < greater ∧ value.abs ≤ greater.abs
  negative : value < 0.0 → greater < 0.0 ∧ value.abs ≤ greater.abs

theorem Outreaches.admits {greater value : Float} (outreaches : Outreaches greater value) {direction : Direction}
    (pointed : direction ≠ .neutral) {epsilon tolerance : Float}
    (admitted : direction.admits epsilon tolerance value = true) (other : Float) :
    direction.admits other tolerance greater = true := by
  have enough (far : value.abs ≤ greater.abs) (reached : ¬ value.abs < tolerance) : ¬ greater.abs < tolerance :=
    fun short => reached (float_lt_of_le_of_lt far short)
  cases direction with
  | neutral => exact absurd rfl pointed
  | positive =>
      simp only [Direction.admits, Bool.and_eq_true, Bool.not_eq_true', Bool.or_eq_false_iff, decide_eq_true_eq,
        decide_eq_false_iff_not] at admitted ⊢
      obtain ⟨⟨_, reached⟩, positive⟩ := admitted
      obtain ⟨still, far⟩ := outreaches.positive positive
      exact ⟨⟨(float_ne_of_lt still).2, enough far reached⟩, still⟩
  | negative =>
      simp only [Direction.admits, Bool.and_eq_true, Bool.not_eq_true', Bool.or_eq_false_iff, decide_eq_true_eq,
        decide_eq_false_iff_not] at admitted ⊢
      obtain ⟨⟨_, reached⟩, negative⟩ := admitted
      obtain ⟨still, far⟩ := outreaches.negative negative
      exact ⟨⟨(float_ne_of_lt still).1, enough far reached⟩, still⟩

namespace Inquiry

variable {test : α → Inquiry Bool} {items : List α}

theorem passes_of_all (passed : (all test items).answer = .ok true) :
    ∀ item ∈ items, (test item).answer = .ok true := by
  induction items with
  | nil => simp
  | cons item rest ih =>
      obtain ⟨first, tested, others⟩ := answer_bind_ok passed
      cases first with
      | false => cases others
      | true => exact List.forall_mem_cons.mpr ⟨tested, ih others⟩

theorem all_gives (passed : ∀ item ∈ items, (test item).Gives true) : (all test items).Gives true := by
  induction items with
  | nil => exact gives_pure true
  | cons item rest ih =>
      obtain ⟨first, others⟩ := List.forall_mem_cons.mp passed
      exact first.bind (ih others)

end Inquiry

namespace Snapshot

open Inquiry

/-- Both snapshots have the same keys and axes; whatever key is down in the one is down in the other, and the axes
point the same way, but further. -/
structure Exceeds (more less : Snapshot) : Prop where
  axes : ∀ name, more.isAxis name = less.isAxis name
  keys : ∀ name, more.isKey name = less.isKey name
  pressed : ∀ key ∈ less.pressed, key ∈ more.pressed
  justPressed : ∀ key ∈ less.justPressed, key ∈ more.justPressed
  values : ∀ name value greater, less.axisValue? name = some value → more.axisValue? name = some greater →
    Outreaches greater value

inductive Meets (snapshot : Snapshot) (epsilon : Float) (manner : Manner) : Part → Prop
  | axis {test : AxisTest} {value : Float} : snapshot.axisValue? test.name = some value →
      test.direction.admits epsilon test.tolerance value = true → Meets snapshot epsilon manner (.axis test)
  | key {name : String} : snapshot.isKey name = true → snapshot.down manner.edge name = true →
      Meets snapshot epsilon manner (.key name)
  | bare {name : String} {value : Float} : snapshot.isKey name = false → snapshot.axisValue? name = some value →
      manner.bareDirection.admits epsilon manner.bareTolerance value = true →
        Meets snapshot epsilon manner (.key name)

variable {snapshot less more : Snapshot} {epsilon : Float} {manner : Manner} {part : Part} {step : Step}

theorem isAxis_of_value {name : String} {value : Float} (found : snapshot.axisValue? name = some value) :
    snapshot.isAxis name = true := by
  rw [isAxis, found, Option.isSome_some]

theorem value_of_isAxis {name : String} (isAxis : snapshot.isAxis name = true) :
    ∃ value, snapshot.axisValue? name = some value :=
  Option.isSome_iff_exists.mp isAxis

theorem axisHolds_gives (epsilon : Float) {test : AxisTest} {value : Float}
    (found : snapshot.axisValue? test.name = some value) :
    (snapshot.toSource.axisHolds epsilon test).Gives (test.direction.admits epsilon test.tolerance value) := by
  have looked : (snapshot.toSource.findAxis test.name).Gives true :=
    (gives_ofExcept (congrArg Except.ok (isAxis_of_value found))).bind (gives_consult .axis test.name)
  have valued : snapshot.toSource.axisValue test.name = .ok value := by simp only [toSource, found]
  exact looked.bind ((gives_ofExcept valued).bind (gives_pure _))

theorem axisHolds_absent {test : AxisTest} (absent : snapshot.isAxis test.name = false) :
    (snapshot.toSource.axisHolds epsilon test).answer = .ok false := by
  simp [Source.axisHolds, Source.findAxis, toSource, absent]

theorem meets_axis {test : AxisTest} (holds : (snapshot.toSource.axisHolds epsilon test).answer = .ok true) :
    ∃ value, snapshot.axisValue? test.name = some value ∧
      test.direction.admits epsilon test.tolerance value = true := by
  cases isAxis : snapshot.isAxis test.name with
  | false =>
      rw [axisHolds_absent isAxis] at holds
      cases holds
  | true =>
      obtain ⟨value, found⟩ := value_of_isAxis isAxis
      rw [(axisHolds_gives epsilon found).1] at holds
      exact ⟨value, found, Except.ok.inj holds⟩

theorem meets_of_partHolds (holds : (snapshot.toSource.partHolds epsilon manner part).answer = .ok true) :
    snapshot.Meets epsilon manner part := by
  cases part with
  | axis test =>
      obtain ⟨value, found, admitted⟩ := meets_axis holds
      exact .axis found admitted
  | key name =>
      obtain ⟨nature, identified, holds⟩ := answer_bind_ok holds
      cases isKey : snapshot.isKey name with
      | true =>
          rw [(identify_key isKey).1] at identified
          cases identified
          refine .key isKey ?_
          cases edge : manner.edge <;> simpa [Source.keyDown, toSource, edge, down] using holds
      | false =>
          cases isAxis : snapshot.isAxis name with
          | true =>
              have named : nature = some .axis := by
                simpa [Source.identify, toSource, isKey, isAxis, eq_comm] using identified
              subst named
              obtain ⟨value, found, admitted⟩ := meets_axis holds
              exact .bare isKey found admitted
          | false =>
              have named : nature = none := by
                simpa [Source.identify, toSource, isKey, isAxis, eq_comm] using identified
              subst named
              cases holds

theorem Meets.gives (meets : snapshot.Meets epsilon manner part) :
    (snapshot.toSource.partHolds epsilon manner part).Gives true := by
  cases meets with
  | axis found admitted =>
      have gives := axisHolds_gives epsilon found
      rwa [admitted] at gives
  | @key name isKey down =>
      have held : (snapshot.toSource.keyDown manner.edge name).Gives true := by
        apply gives_ofExcept
        cases edge : manner.edge <;> simpa [Snapshot.down, toSource, edge] using down
      exact (identify_key isKey).bind held
  | @bare name value isKey found admitted =>
      have identified : (snapshot.toSource.identify name).Gives (some .axis) := by
        refine (gives_ofExcept (congrArg Except.ok isKey)).bind ?_
        exact (gives_ofExcept (congrArg Except.ok (isAxis_of_value found))).bind
          ((gives_consult .identifier name).bind (gives_pure _))
      have gives : (snapshot.toSource.axisHolds epsilon ⟨name, manner.bareDirection, manner.bareTolerance⟩).Gives
          (manner.bareDirection.admits epsilon manner.bareTolerance value) := axisHolds_gives epsilon found
      rw [admitted] at gives
      exact identified.bind gives

def Pointed (snapshot : Snapshot) (manner : Manner) : Part → Prop
  | .axis test => test.direction ≠ .neutral
  | .key name => manner.bareDirection ≠ .neutral ∨ ¬ (snapshot.isKey name = false ∧ snapshot.isAxis name = true)

theorem Meets.exceeded (meets : less.Meets epsilon manner part) (exceeds : more.Exceeds less)
    (pointed : less.Pointed manner part) (other : Float) : more.Meets other manner part := by
  have valued {name : String} {value : Float} (found : less.axisValue? name = some value) :
      ∃ greater, more.axisValue? name = some greater ∧ Outreaches greater value := by
    obtain ⟨greater, foundMore⟩ := value_of_isAxis ((exceeds.axes name).trans (isAxis_of_value found))
    exact ⟨greater, foundMore, exceeds.values name value greater found foundMore⟩
  cases meets with
  | axis found admitted =>
      obtain ⟨greater, foundMore, outreaches⟩ := valued found
      exact .axis foundMore (outreaches.admits pointed admitted other)
  | key isKey down =>
      refine .key ((exceeds.keys _).trans isKey) ?_
      cases edge : manner.edge with
      | true =>
          rw [edge] at down
          simpa [Snapshot.down] using exceeds.justPressed _ (by simpa [Snapshot.down] using down)
      | false =>
          rw [edge] at down
          simpa [Snapshot.down] using exceeds.pressed _ (by simpa [Snapshot.down] using down)
  | bare isKey found admitted =>
      obtain ⟨greater, foundMore, outreaches⟩ := valued found
      have bare := pointed.resolve_right fun resolved => resolved ⟨isKey, isAxis_of_value found⟩
      exact .bare ((exceeds.keys _).trans isKey) foundMore (outreaches.admits bare admitted other)

def swaps (snapshot : Snapshot) (left right : String) : Bool :=
  !snapshot.isAxis right && snapshot.isKey right && snapshot.isAxis left && !snapshot.isKey left

def parts (snapshot : Snapshot) : Step → List Part
  | .single part => [part]
  | .combo (.key left) (.axis right) =>
      if snapshot.swaps left right.name then [.axis { right with name := left }, .key right.name]
      else [.key left, .axis right]
  | .combo left right => [left, right]
  | .diagonal first second key => [.axis first, .axis second] ++ (key.map Part.key).toList

theorem isSwapped_eq (snapshot : Snapshot) (left right : String) :
    snapshot.toSource.isSwapped left right = .ok (snapshot.swaps left right) := by
  cases rightIsAxis : snapshot.isAxis right with
  | true => simp [Source.isSwapped, toSource, swaps, rightIsAxis, Pure.pure, Except.pure]
  | false =>
      cases rightIsKey : snapshot.isKey right with
      | false => simp [Source.isSwapped, toSource, swaps, rightIsAxis, rightIsKey, Pure.pure, Except.pure]
      | true =>
          cases leftIsAxis : snapshot.isAxis left <;>
            simp [Source.isSwapped, toSource, swaps, rightIsAxis, rightIsKey, leftIsAxis, Pure.pure, Except.pure]

theorem partsOf_gives (snapshot : Snapshot) (step : Step) :
    (snapshot.toSource.partsOf step).Gives (snapshot.parts step) := by
  cases step with
  | single part | diagonal first second key => exact gives_pure _
  | combo left right =>
      cases left with
      | axis test => exact gives_pure _
      | key left =>
          cases right with
          | key right => exact gives_pure _
          | axis test =>
              refine (gives_ofExcept (snapshot.isSwapped_eq left test.name)).bind ?_
              rw [parts]
              cases snapshot.swaps left test.name
              · exact gives_pure _
              · exact gives_pure _

theorem Exceeds.parts (exceeds : more.Exceeds less) (step : Step) : more.parts step = less.parts step := by
  have swapped (left right : String) : more.swaps left right = less.swaps left right := by
    simp only [swaps, exceeds.axes, exceeds.keys]
  cases step with
  | single part | diagonal first second key => rfl
  | combo left right => cases left <;> cases right <;> simp only [Snapshot.parts, swapped]

theorem pointed_of_names (tests : ∀ test ∈ part.tests, test.direction ≠ .neutral)
    (keyed : ∀ name ∈ part.keys, snapshot.Pointed manner (.key name)) : snapshot.Pointed manner part := by
  cases part with
  | axis test => exact tests test List.mem_cons_self
  | key name => exact keyed name List.mem_cons_self

theorem pointed_parts (tests : ∀ test ∈ step.tests, test.direction ≠ .neutral)
    (keyed : ∀ name ∈ step.keys, snapshot.Pointed manner (.key name)) :
    ∀ part ∈ snapshot.parts step, snapshot.Pointed manner part := by
  have both {first second : Part} (one : snapshot.Pointed manner first) (two : snapshot.Pointed manner second) :
      ∀ part ∈ [first, second], snapshot.Pointed manner part :=
    List.forall_mem_cons.mpr ⟨one, List.forall_mem_singleton.mpr two⟩
  cases step with
  | single part =>
      rw [parts, List.forall_mem_singleton]
      exact pointed_of_names tests keyed
  | diagonal first second key =>
      have firstPointed : snapshot.Pointed manner (.axis first) := tests first (by simp [Step.tests])
      have secondPointed : snapshot.Pointed manner (.axis second) := tests second (by simp [Step.tests])
      refine List.forall_mem_append.mpr ⟨both firstPointed secondPointed, fun part member => ?_⟩
      obtain ⟨name, named, rfl⟩ := Option.map_eq_some_iff.mp (Option.mem_toList.mp member)
      exact keyed name (Option.mem_toList.mpr named)
  | combo left right =>
      obtain ⟨leftTests, rightTests⟩ := List.forall_mem_append.mp tests
      obtain ⟨leftKeyed, rightKeyed⟩ := List.forall_mem_append.mp keyed
      have inOrder := both (pointed_of_names leftTests leftKeyed) (pointed_of_names rightTests rightKeyed)
      cases left with
      | axis test => exact inOrder
      | key left =>
          cases right with
          | key right => exact inOrder
          | axis test =>
              rw [parts]
              split
              · -- The suffix stood behind a key, which is no bare name of an axis.
                rename_i swapped
                simp only [swaps, Bool.and_eq_true, Bool.not_eq_true'] at swapped
                have isKey := swapped.1.1.2
                exact both (rightTests test List.mem_cons_self) (Or.inr (by simp [isKey]))
              · exact inOrder

theorem stepHolds_exceeded (exceeds : more.Exceeds less) (tests : ∀ test ∈ step.tests, test.direction ≠ .neutral)
    (keyed : ∀ name ∈ step.keys, less.Pointed manner (.key name))
    (holds : (less.toSource.stepHolds epsilon manner step).answer = .ok true) (other : Float) :
    (more.toSource.stepHolds other manner step).Gives true := by
  rw [Source.stepHolds, Inquiry.answer_bind, (less.partsOf_gives step).1, ok_bind] at holds
  refine (more.partsOf_gives step).bind (all_gives fun part member => ?_)
  rw [exceeds.parts] at member
  have meets := meets_of_partHolds (passes_of_all holds part member)
  exact (meets.exceeded exceeds (pointed_parts tests keyed part member) other).gives

end Snapshot

namespace Resolver

variable {resolver other : Resolver} {journal otherJournal : Journal}

theorem answer_of_returned {inquire : Float → Source → Inquiry α} {source : Source} (asks : resolver.Asks source)
    {value : α} (returned : ((ask inquire).perform resolver journal).1.1 = .ok value) :
    (inquire resolver.epsilon source).answer = .ok value := by
  have bound : resolver.source = some source := asks
  rcases ask_follows inquire resolver journal with ⟨after, ended, _⟩ | ⟨_, fault, left, after, ended, _⟩
  · simpa only [ended, bound] using returned
  · rw [ended] at returned
    cases returned

/-- A step that holds on a snapshot holds on every snapshot with the same keys and axes on which no key is up that was
down, and no axis is nearer to its middle or on its other side. This is so on the edge and at the level, whatever names
have been reported missing before and whoever listens, if the step tests no axis for staying in the middle, neither by
a test of its own nor by a bare name. -/
theorem stepHolds_more {less more : Snapshot} (exceeds : more.Exceeds less) {manner : Manner} {step : Step}
    (tests : ∀ test ∈ step.tests, test.direction ≠ .neutral)
    (bare : manner.bareDirection ≠ .neutral ∨
      ∀ name ∈ step.keys, ¬ (less.isKey name = false ∧ less.isAxis name = true))
    (asks : resolver.Asks less.toSource) (otherAsks : other.Asks more.toSource)
    (holds : ((stepHolds manner step).perform resolver journal).1.1 = .ok true) :
    ((stepHolds manner step).perform other otherJournal).1.1 = .ok true := by
  have answered : (less.toSource.stepHolds resolver.epsilon manner step).answer = .ok true :=
    answer_of_returned asks holds
  have keyed : ∀ name ∈ step.keys, less.Pointed manner (.key name) := fun name member =>
    bare.imp_right fun resolved => resolved name member
  have gives := Snapshot.stepHolds_exceeded exceeds tests keyed answered other.epsilon
  obtain ⟨left, after, ended⟩ : ∃ left after,
      (stepHolds manner step).perform other otherJournal = ((.ok true, left), after) :=
    ask_found otherAsks gives otherJournal
  rw [ended]

def tilted : Snapshot where
  pressed := ["Fire"]
  justPressed := ["Fire"]
  known := some ["Fire", "Jump"]
  axes := [("Tilt", 0.5), ("Roll", -0.0)]

def tiltedFurther : Snapshot where
  pressed := ["Jump", "Fire"]
  justPressed := ["Fire"]
  known := some ["Fire", "Jump"]
  axes := [("Tilt", 0.75), ("Roll", -0.25)]

theorem tiltedFurther_exceeds : tiltedFurther.Exceeds tilted where
  axes name := by
    by_cases roll : name = "Roll"
    · subst roll
      decide
    · by_cases tilt : name = "Tilt"
      · subst tilt
        decide
      · simp [Snapshot.isAxis, Snapshot.axisValue?, tilted, tiltedFurther, List.lookup_cons, beq_false_of_ne roll,
          beq_false_of_ne tilt]
  keys _ := rfl
  pressed := by decide
  justPressed := by decide
  values name value greater found foundMore := by
    by_cases roll : name = "Roll"
    · subst roll
      obtain rfl : -0.0 = value := Option.some.inj found
      obtain rfl : -0.25 = greater := Option.some.inj foundMore
      exact ⟨by decide, by decide⟩
    · by_cases tilt : name = "Tilt"
      · subst tilt
        obtain rfl : 0.5 = value := Option.some.inj found
        obtain rfl : 0.75 = greater := Option.some.inj foundMore
        exact ⟨by decide, by decide⟩
      · simp [Snapshot.axisValue?, tilted, List.lookup_cons, beq_false_of_ne roll, beq_false_of_ne tilt] at found

theorem stepHolds_more_tilted :
    let step := Step.combo (.key "Tilt") (.axis ⟨"Fire", .positive, 0.25⟩)
    let manner : Manner := { edge := true, bareDirection := .negative }
    let resolver : Resolver := { source := some tilted.toSource }
    let other : Resolver := { source := some tiltedFurther.toSource, unknown := [⟨.axis, "Tilt"⟩] }
    tiltedFurther.Exceeds tilted ∧ (∀ test ∈ step.tests, test.direction ≠ .neutral) ∧
      manner.bareDirection ≠ .neutral ∧ resolver.Asks tilted.toSource ∧ other.Asks tiltedFurther.toSource ∧
      ((stepHolds manner step).perform resolver {}).1.1 = .ok true ∧
      ((stepHolds manner step).perform other {}).1.1 = .ok true := by
  intro step manner resolver other
  have tests : ∀ test ∈ step.tests, test.direction ≠ .neutral := by decide
  have bare : manner.bareDirection ≠ .neutral := by decide
  have asks : resolver.Asks tilted.toSource := rfl
  have otherAsks : other.Asks tiltedFurther.toSource := rfl
  have holds : ((stepHolds manner step).perform resolver {}).1.1 = .ok true := rfl
  exact ⟨tiltedFurther_exceeds, tests, bare, asks, otherAsks, holds,
    stepHolds_more tiltedFurther_exceeds tests (Or.inl bare) asks otherAsks holds⟩

end Resolver

end InputBinding
