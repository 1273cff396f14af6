import InputBinding.Proofs.Deferral
import InputBinding.Proofs.Readings

/-!
Reading a descriptor without declared axis names. Whatever can be read with declared names can be read
without them, and the steps differ only in that they leave it to the source which names are axes.
-/

namespace InputBinding

variable {ε : Type}

def Relaxes (related : α → β → Prop) (strict : Except ε α) (lenient : Except ε β) : Prop :=
  ∀ value, strict = .ok value → ∃ other, lenient = .ok other ∧ related value other

theorem Relaxes.refl (result : Except ε α) : Relaxes Eq result result :=
  fun value succeeded => ⟨value, succeeded, rfl⟩

theorem Relaxes.ok {related : α → β → Prop} {value : α} {other : β} (holds : related value other) :
    Relaxes related (.ok value : Except ε α) (.ok other) := by
  rintro _ ⟨⟩
  exact ⟨other, rfl, holds⟩

theorem Relaxes.error {related : α → β → Prop} (error : ε) (lenient : Except ε β) :
    Relaxes related (.error error) lenient := by
  intro _ impossible
  cases impossible

theorem Relaxes.bind {related : α → β → Prop} {next : γ → δ → Prop} {strict : Except ε α}
    {lenient : Except ε β} {strictNext : α → Except ε γ} {lenientNext : β → Except ε δ}
    (first : Relaxes related strict lenient)
    (later : ∀ value other, related value other → Relaxes next (strictNext value) (lenientNext other)) :
    Relaxes next (strict >>= strictNext) (lenient >>= lenientNext) := by
  intro value succeeded
  obtain ⟨middle, ended, rest⟩ := bind_eq_ok succeeded
  obtain ⟨other, otherEnded, holds⟩ := first middle ended
  rw [otherEnded]
  exact later middle other holds value rest

theorem Relaxes.step {next : γ → δ → Prop} {strict lenient : Except ε α} {strictNext : α → Except ε γ}
    {lenientNext : α → Except ε δ} (first : Relaxes Eq strict lenient)
    (later : ∀ value, Relaxes next (strictNext value) (lenientNext value)) :
    Relaxes next (strict >>= strictNext) (lenient >>= lenientNext) :=
  first.bind fun value _ same => same ▸ later value

theorem Relaxes.mapM {related : β → γ → Prop} {strict : α → Except ε β} {lenient : α → Except ε γ}
    (each : ∀ item, Relaxes related (strict item) (lenient item)) (items : List α) :
    Relaxes (List.Forall₂ related) (items.mapM strict) (items.mapM lenient) := by
  induction items with
  | nil => exact Relaxes.ok .nil
  | cons item rest ih =>
      rw [List.mapM_cons, List.mapM_cons]
      exact (each item).bind fun value other head =>
        ih.bind fun values others tail => Relaxes.ok (.cons head tail)

namespace Grammar

def Context.deferred (context : Context) : Context :=
  { context with axisNames := none }

variable {context : Context} {names : List String}

theorem isAxis_iff (declared : context.axisNames = some names) (name : String) :
    context.isAxis name = decide (name ∈ names) := by
  simp [Context.isAxis, declared]

theorem requireAxis_deferred (name : String) :
    Relaxes Eq (requireAxis context name) (requireAxis context.deferred name) := by
  unfold requireAxis
  split
  · exact Relaxes.refl _
  · exact Relaxes.error _ _

theorem readKey_deferred (token : List Char) :
    Relaxes Eq (readKey context token) (readKey context.deferred token) := by
  unfold readKey
  apply (Relaxes.refl _).step
  intro atom
  cases atom.direction.isSome
  · cases context.isAxis atom.name
    · exact Relaxes.refl _
    · exact Relaxes.error _ _
  · exact Relaxes.error _ _

theorem readGroupName_deferred (token : List Char) :
    Relaxes Eq (readGroupName context token) (readGroupName context.deferred token) := by
  unfold readGroupName
  apply (Relaxes.refl _).step
  intro atom
  cases atom.direction.isSome
  · exact (requireAxis_deferred atom.name).step fun _ => Relaxes.refl _
  · exact Relaxes.error _ _

theorem readNamePair_deferred (body : List Char) :
    Relaxes Eq (readNamePair context body) (readNamePair context.deferred body) := by
  unfold readNamePair
  split
  · apply (readGroupName_deferred _).step
    intro first
    apply (readGroupName_deferred _).step
    intro second
    exact Relaxes.refl _
  · exact Relaxes.error _ _

theorem readGroupTail_deferred (tail : List Char) :
    Relaxes Eq (readGroupTail context tail) (readGroupTail context.deferred tail) := by
  unfold readGroupTail
  split
  · exact Relaxes.refl _
  · intro value succeeded
    obtain ⟨key, read, rfl⟩ := map_eq_ok succeeded
    obtain ⟨other, otherRead, rfl⟩ := readKey_deferred _ key read
    exact ⟨_, by simp [otherRead, Functor.map, Except.map], rfl⟩
  · exact Relaxes.error _ _

theorem readGroupBody_deferred (outerKey : Option String) (body : List Char) :
    Relaxes Eq (readGroupBody context outerKey body) (readGroupBody context.deferred outerKey body) := by
  unfold readGroupBody
  split
  · cases outerKey.isSome
    · apply (Relaxes.refl _).step
      intro halves
      apply (readKey_deferred _).step
      intro key
      apply (readNamePair_deferred _).step
      intro pair
      exact Relaxes.refl _
    · exact Relaxes.error _ _
  · apply (readNamePair_deferred _).step
    intro pair
    exact Relaxes.refl _

theorem readGroup_deferred (fragment : List Char) :
    Relaxes Eq (readGroup context fragment) (readGroup context.deferred fragment) := by
  unfold readGroup
  split
  · exact Relaxes.error _ _
  · apply (readGroupTail_deferred _).step
    intro key
    apply (Relaxes.refl _).step
    intro parts
    apply (readGroupBody_deferred _ _).step
    intro body
    exact Relaxes.refl _

theorem mem_of_isAxis (declared : context.axisNames = some names) {name : String}
    (axis : context.isAxis name = true) : name ∈ names := by
  simpa [isAxis_iff declared] using axis

theorem suffixedPart_deferred (context : Context) (atom : Atom) :
    suffixedPart context.deferred atom = .ok (match atom.direction with
      | some direction => .axis ⟨atom.name, direction, context.settings.firstTolerance⟩
      | none => .key atom.name) := by
  unfold suffixedPart
  cases atom.direction with
  | some direction => rfl
  | none => rfl

theorem relocateSuffix_deferred (left right : Atom) :
    relocateSuffix context.deferred left right = (left, right) := by
  simp [relocateSuffix, Context.isAxis, Context.deferred]

/-- A suffix behind the key of a declared axis moves to the axis; otherwise the two sides are read as
they are written. -/
theorem relocateSuffix_cases (declared : context.axisNames = some names) (left right : Atom) :
    (∃ direction, left.direction = none ∧ right.direction = some direction ∧ left.name ∈ names ∧
      right.name ∉ names ∧ relocateSuffix context left right =
        ({ left with direction := some direction }, { right with direction := none })) ∨
    relocateSuffix context left right = (left, right) := by
  unfold relocateSuffix
  split
  · rename_i relocates
    simp only [isAxis_iff declared, Bool.and_eq_true, Option.isNone_iff_eq_none, Option.isSome_iff_exists,
      decide_eq_true_eq, Bool.not_eq_true', decide_eq_false_iff_not] at relocates
    obtain ⟨⟨⟨⟨direction, suffix⟩, bare⟩, member⟩, outside⟩ := relocates
    exact Or.inl ⟨direction, bare, suffix, member, outside, by rw [suffix]⟩
  · exact Or.inr rfl

theorem readComboStep_deferred (declared : context.axisNames = some names) (fragment : List Char) :
    Relaxes (Step.Defers names { edge := true }) (readComboStep context fragment)
      (readComboStep context.deferred fragment) := by
  unfold readComboStep
  apply (Relaxes.refl _).step
  intro halves
  apply (Relaxes.refl _).step
  intro left
  apply (Relaxes.refl _).step
  intro right
  rw [relocateSuffix_deferred]
  intro step read
  rcases relocateSuffix_cases declared left right with ⟨direction, bare, suffix, member, outside, moved⟩ | kept
  · rw [moved] at read
    refine ⟨.combo (.key left.name) (.axis ⟨right.name, direction, context.settings.firstTolerance⟩), ?_, ?_⟩
    · simp [suffixedPart_deferred, bare, suffix, pure, Except.pure]
    · have step_eq : step = .combo (.axis ⟨left.name, direction, context.settings.firstTolerance⟩)
          (.key right.name) := by
        simpa [suffixedPart, requireAxis, Context.mayBeAxis, Context.isAxis, declared, member, outside,
          pure, Except.pure] using read.symm
      rw [step_eq]
      exact .swapped member outside
  · rw [kept] at read
    obtain ⟨leftPart, leftRead, read⟩ := bind_eq_ok read
    obtain ⟨rightPart, rightRead, read⟩ := bind_eq_ok read
    simp only [suffixedPart_deferred, ok_bind]
    rcases suffixedPart_cases leftRead with
      ⟨_, leftWritten, _, rfl⟩ | ⟨leftWritten, leftAxis, rfl⟩ | ⟨leftWritten, _, rfl⟩
    all_goals
      rcases suffixedPart_cases rightRead with
        ⟨_, rightWritten, _, rfl⟩ | ⟨rightWritten, rightAxis, rfl⟩ | ⟨rightWritten, _, rfl⟩
    all_goals
      simp only [leftWritten, rightWritten]
    -- Two axes are refused with declared names; else the bare names of axes are all that differs.
    · cases read
    · cases read
    · exact ⟨_, rfl, Except.ok.inj read ▸ .same _⟩
    · cases read
    · cases read
    · exact ⟨_, rfl, Except.ok.inj read ▸ .left (mem_of_isAxis declared leftAxis)⟩
    · exact ⟨_, rfl, Except.ok.inj read ▸ .same _⟩
    · exact ⟨_, rfl, Except.ok.inj read ▸ .right (mem_of_isAxis declared rightAxis)⟩
    · exact ⟨_, rfl, Except.ok.inj read ▸ .same _⟩

theorem readStep_deferred (declared : context.axisNames = some names) (fragment : List Char) :
    Relaxes (Step.Defers names { edge := true }) (readStep context fragment)
      (readStep context.deferred fragment) := by
  unfold readStep
  split
  · intro step read
    obtain ⟨other, otherRead, rfl⟩ := readGroup_deferred fragment step read
    exact ⟨step, otherRead, .same step⟩
  · split
    · exact Relaxes.error _ _
    · split
      · exact readComboStep_deferred declared fragment
      · apply (Relaxes.refl _).step
        intro atom step read
        obtain ⟨part, partRead, read⟩ := bind_eq_ok read
        cases read
        rw [suffixedPart_deferred]
        rcases suffixedPart_cases partRead with ⟨_, written, _, rfl⟩ | ⟨written, axis, rfl⟩ | ⟨written, _, rfl⟩
        · rw [written]
          exact ⟨_, rfl, .same _⟩
        · rw [written]
          exact ⟨_, rfl, .axis (mem_of_isAxis declared axis)⟩
        · rw [written]
          exact ⟨_, rfl, .same _⟩

theorem readSequence_deferred (declared : context.axisNames = some names) (text : List Char) :
    Relaxes (List.Forall₂ (Step.Defers names { edge := true })) (readSequence context text)
      (readSequence context.deferred text) := by
  unfold readSequence
  exact (Relaxes.refl _).step fun fragments => Relaxes.mapM (readStep_deferred declared) fragments

def Context.comboManner (context : Context) : Manner where
  bareDirection := context.settings.firstDirection
  bareTolerance := context.settings.firstTolerance

theorem readTwoNames_deferred (declared : context.axisNames = some names)
    (button : context.category = .button)
    (leftText rightText : List Char) :
    Relaxes (Step.Defers names context.comboManner) (readTwoNames context leftText rightText)
      (readTwoNames context.deferred leftText rightText) := by
  unfold readTwoNames
  apply (Relaxes.refl _).step
  intro left
  apply (Relaxes.refl _).step
  intro right
  have leftDeferred : context.deferred.leftIsAxis left.name = false := by
    simp [Context.leftIsAxis, Context.deferred, button]
  have rightDeferred : context.deferred.isAxis right.name = false := by
    simp [Context.isAxis, Context.deferred]
  have leftDeclared : context.leftIsAxis left.name = decide (left.name ∈ names) := by
    simp [Context.leftIsAxis, declared]
  simp only [leftDeferred, rightDeferred, leftDeclared, isAxis_iff declared]
  by_cases member : left.name ∈ names
  · by_cases other : right.name ∈ names
    · simp only [member, other, decide_true, if_true]
      exact Relaxes.error _ _
    · simp only [member, other, decide_true, decide_false, if_true]
      exact Relaxes.ok (.left member)
  · by_cases other : right.name ∈ names
    · simp only [member, other, decide_true, decide_false, if_true]
      exact Relaxes.ok (.right other)
    · simp only [member, other, decide_false]
      exact Relaxes.ok (.same _)

theorem readCombo_deferred (declared : context.axisNames = some names)
    (button : context.category = .button)
    (text : List Char) :
    Relaxes (Step.Defers names context.comboManner) (readCombo context text)
      (readCombo context.deferred text) := by
  unfold readCombo
  cases text.contains '+'
  · exact Relaxes.error _ _
  · cases text.any isSuffix
    · refine (Relaxes.refl _).step fun (left, right) => ?_
      dsimp only
      cases right.any isParenthesis
      · apply (Relaxes.refl _).step
        intro inner
        by_cases single : (cutNames inner).length = 1
        · simp only [single, if_true]
          exact readTwoNames_deferred declared button inner _
        · simp only [single, if_false]
          apply (readNamePair_deferred _).step
          intro pair
          apply (readKey_deferred _).step
          intro key
          exact Relaxes.ok (.same _)
      · exact Relaxes.error _ _
    · exact Relaxes.error _ _

theorem readStandard_deferred (declared : context.axisNames = some names) (text : List Char) :
    Relaxes (fun step deferred => Step.Defers names {} step deferred ∧ ∃ part, step = .single part)
      (readStandard context text) (readStandard context.deferred text) := by
  unfold readStandard
  cases text.any isReserved
  · apply (Relaxes.refl _).step
    intro atom
    cases atom.direction.isSome
    · have sameCategory : context.deferred.category = context.category := rfl
      have deferred : context.deferred.isAxis atom.name = false := by
        simp [Context.isAxis, Context.deferred]
      rw [sameCategory, deferred, isAxis_iff declared]
      by_cases axis : context.category = .axis
      · simp only [axis, decide_true, Bool.true_or, if_true]
        exact Relaxes.ok ⟨.same _, _, rfl⟩
      · by_cases member : atom.name ∈ names
        · simp only [axis, member, decide_true, decide_false, Bool.or_true, Bool.or_false, if_true]
          exact Relaxes.ok ⟨.axis member, _, rfl⟩
        · simp only [axis, member, decide_false, Bool.or_false]
          exact Relaxes.ok ⟨.same _, _, rfl⟩
    · exact Relaxes.error _ _
  · exact Relaxes.error _ _

end Grammar

structure Descriptor.Defers (names : List String) (rule : Rule) (descriptor deferred : Descriptor) : Prop where
  steps : List.Forall₂ (Step.Defers names rule.manner) descriptor.steps deferred.steps
  single : rule.kind = .standard → ∀ step ∈ descriptor.steps, ∃ part, step = .single part

theorem Rule.parse_deferred {rule : Rule} {names : List String}
    (button : rule.kind = .combo → rule.category = .button) :
    Relaxes (Descriptor.Defers names rule) (rule.parse (some names)) (rule.parse none) := by
  have declared : (rule.context (some names)).axisNames = some names := rfl
  have deferred : rule.context none = (rule.context (some names)).deferred := rfl
  unfold Rule.parse Grammar.parse
  rw [deferred]
  dsimp only
  cases Grammar.isUnboundText (Text.strip rule.descriptor.toList)
  · have finished (steps others : List Step) (defers : Descriptor.Defers names rule
        { source := rule.descriptor, steps } { source := rule.descriptor, steps := others }) :
        Relaxes (Descriptor.Defers names rule)
          (.ok { source := rule.descriptor, steps } : Except Defect Descriptor)
          (.ok { source := rule.descriptor, steps := others }) := Relaxes.ok defers
    refine Relaxes.bind ?_ finished
    unfold Grammar.readSteps
    apply (Relaxes.refl _).step
    intro _
    cases kind : rule.kind with
    | sequence =>
        have manner : rule.manner = { edge := true } := by simp [Rule.manner, kind]
        intro steps read
        obtain ⟨others, otherRead, defers⟩ := Grammar.readSequence_deferred declared _ steps read
        refine ⟨others, otherRead, manner ▸ defers, ?_⟩
        intro impossible
        rw [kind] at impossible
        cases impossible
    | combo =>
        have manner : rule.manner = (rule.context (some names)).comboManner := by
          simp [Rule.manner, kind, Grammar.Context.comboManner, Rule.context]
        apply (Grammar.readCombo_deferred declared (button kind) _).bind
        intro step other defers
        refine Relaxes.ok ⟨.cons (manner ▸ defers) .nil, ?_⟩
        intro impossible
        rw [kind] at impossible
        cases impossible
    | standard =>
        have manner : rule.manner = {} := by simp [Rule.manner, kind]
        apply (Grammar.readStandard_deferred declared _).bind
        intro step other defers
        refine Relaxes.ok ⟨.cons (manner ▸ defers.1) .nil, ?_⟩
        intro _ listed member
        simp only [List.mem_singleton] at member
        exact member ▸ defers.2
  · exact Relaxes.ok ⟨.nil, fun _ _ impossible => by cases impossible⟩

end InputBinding
