import InputBinding.Descriptor.Reader
import InputBinding.Proofs.Acceptance
import InputBinding.Proofs.RoundTrip

/-!
The grammars of combo and standard texts, apart from how they are read. A combo text joins two names, or
a pair of names and a key, by a plus, and the pair may stand in parentheses; blanks may stand around each
name and around the parentheses. A standard text is a name. Everything else is refused, with the whole text
in the fault.
-/

namespace InputBinding

namespace Grammar

open Text

variable {context : Context}

def Context.Leads (context : Context) (name : String) : Prop :=
  context.Declares name ∨ (context.axisNames = none ∧ context.category = .axis)

theorem leftIsAxis_iff_leads {name : String} : context.leftIsAxis name = true ↔ context.Leads name := by
  unfold Context.leftIsAxis Context.Leads Context.Declares
  cases context.axisNames <;> simp

instance (context : Context) (name : String) : Decidable (context.Leads name) :=
  decidable_of_iff _ leftIsAxis_iff_leads

inductive ComboForm
  | names (left right : String)
  | pair (first second key : String)
deriving DecidableEq, Repr

inductive SpellsCombo : ComboForm → List Char → Prop
  | names {left right : String} {leftText rightText : List Char} : SpellsAtom { name := left } leftText →
      SpellsAtom { name := right } rightText → SpellsCombo (.names left right) (leftText ++ '+' :: rightText)
  | pair {first second key : String} {pairText keyText : List Char} : SpellsPair first second pairText →
      SpellsAtom { name := key } keyText → SpellsCombo (.pair first second key) (pairText ++ '+' :: keyText)
  | group {first second key : String} {pairText text keyText : List Char} : SpellsPair first second pairText →
      Padded ('(' :: pairText ++ [')']) text → SpellsAtom { name := key } keyText →
      SpellsCombo (.pair first second key) (text ++ '+' :: keyText)

/-- What the declared axes, and the category without them, ask of a combo. -/
def ComboForm.Fits (context : Context) : ComboForm → Prop
  | .names left right => ¬ (context.Leads left ∧ context.Declares right)
  | .pair first second key => context.Permits first ∧ context.Permits second ∧ ¬ context.Declares key

instance (context : Context) (form : ComboForm) : Decidable (form.Fits context) :=
  match form with
  | .names _ _ => inferInstanceAs (Decidable (¬ (_ ∧ _)))
  | .pair _ _ _ => inferInstanceAs (Decidable (_ ∧ _ ∧ ¬ _))

def ComboForm.step (context : Context) : ComboForm → Step
  | .names left right =>
      if context.Leads left then .combo (.axis (context.settingTest left)) (.key right)
      else if context.Declares right then .combo (.key left) (.axis (context.settingTest right))
      else .combo (.key left) (.key right)
  | .pair first second key => pairStep context first second key

/-! Names and pairs have none of the characters that a combo text is searched for. -/

theorem isName_of_bare {name : String} {text : List Char} (spells : SpellsAtom { name } text) :
    IsName name.toList ∧ Padded name.toList text := by
  cases spells with
  | bare isName padded => exact ⟨isName, padded⟩

theorem isSuffix_blank {char : Char} (blank : isBlank char = true) : isSuffix char = false := by
  cases found : suffixDirection? char with
  | none => simp [isSuffix, found]
  | some direction =>
      rw [eq_suffix found, isBlank_suffix] at blank
      cases blank

theorem Padded.plain {core text : List Char} (padded : Padded core text)
    (plain : ∀ char ∈ core, isSuffix char = false) : ∀ char ∈ text, isSuffix char = false := by
  obtain ⟨before, after, beforeBlank, afterBlank, rfl⟩ := padded
  rw [List.forall_mem_append, List.forall_mem_append]
  refine ⟨⟨?_, plain⟩, ?_⟩
  · exact fun char member => isSuffix_blank (beforeBlank char member)
  · exact fun char member => isSuffix_blank (afterBlank char member)

theorem spellsAtom_plain {name : String} {text : List Char} (spells : SpellsAtom { name } text) :
    ∀ char ∈ text, isSuffix char = false := by
  obtain ⟨isName, padded⟩ := isName_of_bare spells
  exact padded.plain fun char member => ((isName_iff.mp isName).plain char member).1

theorem direction_eq_none {atom : Atom} {text : List Char} (spells : SpellsAtom atom text)
    (plain : ∀ char ∈ text, isSuffix char = false) : atom = { name := atom.name } := by
  cases spells with
  | bare => rfl
  | @suffixed name direction gap _ isName gapBlank padded =>
      obtain ⟨before, after, _, _, rfl⟩ := padded
      have suffix := plain direction.suffix (by simp)
      simp [isSuffix] at suffix

theorem SpellsPair.plain {first second : String} {text : List Char} (spells : SpellsPair first second text) :
    ∀ char ∈ text, isSuffix char = false := by
  obtain ⟨firstText, secondText, firstSpells, secondSpells, rfl⟩ := spells
  rw [List.forall_mem_append, List.forall_mem_cons, List.forall_mem_cons]
  exact ⟨spellsAtom_plain firstSpells, rfl, rfl, spellsAtom_plain secondSpells⟩

theorem SpellsPair.cut {first second : String} {text : List Char} (spells : SpellsPair first second text) :
    (cutNames text).length ≠ 1 := by
  obtain ⟨firstText, secondText, firstSpells, secondSpells, rfl⟩ := spells
  rw [cutNames_pair (firstSpells.not_reserved ',' rfl) (secondSpells.not_reserved ',' rfl)]
  simp

/-! The two sides of a plus. -/

theorem unwrapPair_ok {side names : List Char} (unwrapped : unwrapPair side = .ok names) :
    side = names ∨ ∃ inner, side = '(' :: inner ++ [')'] ∧ names = strip inner ∧ (cutNames names).length ≠ 1 := by
  unfold unwrapPair at unwrapped
  split at unwrapped
  · rename_i ends
    obtain ⟨opens, closes⟩ := ends
    obtain ⟨rest, rfl⟩ := List.head?_eq_some_iff.mp opens
    cases rest with
    | nil => cases closes
    | cons first others =>
        rw [List.getLast?_cons_cons] at closes
        have written := List.dropLast_append_getLast? ')' closes
        dsimp only at unwrapped
        split at unwrapped
        · cases unwrapped
        · rename_i several
          cases unwrapped
          refine Or.inr ⟨(first :: others).dropLast, ?_, rfl, several⟩
          rw [List.cons_append, written]
  · split at unwrapped
    · cases unwrapped
    · cases unwrapped
      exact Or.inl rfl

theorem unwrapPair_group {inner : List Char} (several : (cutNames (strip inner)).length ≠ 1) :
    unwrapPair ('(' :: inner ++ [')']) = .ok (strip inner) := by
  have ends : ('(' :: inner ++ [')']).getLast? = some ')' := List.getLast?_concat
  have inside : (('(' :: inner ++ [')']).drop 1).dropLast = inner := List.dropLast_concat
  rw [unwrapPair, if_pos ⟨rfl, ends⟩, inside]
  simp only [several, if_false]

theorem readTwoNames_eq {leftText rightText : List Char} {left right : Atom}
    (leftRead : readAtom leftText = .ok left) (rightRead : readAtom rightText = .ok right) :
    readTwoNames context leftText rightText =
      if (ComboForm.names left.name right.name).Fits context
      then .ok ((ComboForm.names left.name right.name).step context) else .error .axisPlusAxisCombo := by
  simp only [readTwoNames, leftRead, rightRead, ok_bind, ComboForm.Fits, ComboForm.step, ← leftIsAxis_iff_leads,
    ← isAxis_iff_declares]
  cases context.leftIsAxis left.name <;> cases context.isAxis right.name <;> rfl

/-! Combo texts. -/

theorem plus_plain {left right : List Char} (leftPlain : ∀ char ∈ left, isSuffix char = false)
    (rightPlain : ∀ char ∈ right, isSuffix char = false) :
    ∀ char ∈ left ++ '+' :: right, isSuffix char = false := by
  rw [List.forall_mem_append, List.forall_mem_cons]
  exact ⟨leftPlain, rfl, rightPlain⟩

theorem SpellsCombo.plain {form : ComboForm} {text : List Char} (spells : SpellsCombo form text) :
    ∀ char ∈ text, isSuffix char = false := by
  cases spells with
  | names left right => exact plus_plain (spellsAtom_plain left) (spellsAtom_plain right)
  | pair pair key => exact plus_plain pair.plain (spellsAtom_plain key)
  | @group _ _ _ pairText _ _ pair padded key =>
      have group : ∀ char ∈ '(' :: pairText ++ [')'], isSuffix char = false := by
        rw [List.forall_mem_append, List.forall_mem_cons]
        exact ⟨⟨rfl, pair.plain⟩, List.forall_mem_singleton.mpr rfl⟩
      exact plus_plain (padded.plain group) (spellsAtom_plain key)

theorem SpellsCombo.groups {form : ComboForm} {text : List Char} (spells : SpellsCombo form text) :
    checkGroups false text = .ok () := by
  cases spells with
  | names left right =>
      have whole := (left.whole.append whole_plus).append right.whole
      simpa using whole.checkGroups
  | pair pair key =>
      have plain := plus_no_parenthesis pair.no_parenthesis key.no_parenthesis
      have closed : checkGroups false ((_ ++ '+' :: _) ++ []) = checkGroups false [] := checkGroups_append plain []
      rw [List.append_nil] at closed
      exact closed
  | group pair padded key =>
      have group : Whole ('(' :: _ ++ ')' :: []) := whole_group pair.no_parenthesis (by simp) (by simp)
      have whole := ((padded.whole group).append whole_plus).append key.whole
      simpa using whole.checkGroups

/-! Reading a combo text: names that stand alone, and names in a pair. -/

def readSides (context : Context) (names right : List Char) : Except Defect Step :=
  if (cutNames names).length = 1 then readTwoNames context names right
  else do
    let (first, second) ← readNamePair context names
    let key ← readKey context right
    pure (pairStep context first second key)

theorem readTwoNames_sound {leftText rightText : List Char} {step : Step}
    (leftPlain : ∀ char ∈ leftText, isSuffix char = false) (rightPlain : ∀ char ∈ rightText, isSuffix char = false)
    (read : readTwoNames context (strip leftText) (strip rightText) = .ok step) :
    ∃ form, SpellsCombo form (leftText ++ '+' :: rightText) ∧ form.Fits context ∧ step = form.step context := by
  obtain ⟨left, leftRead, rest⟩ := bind_eq_ok read
  obtain ⟨right, rightRead, _⟩ := bind_eq_ok rest
  rw [readTwoNames_eq leftRead rightRead] at read
  split at read
  · rename_i fits
    cases read
    rw [readAtom_strip, readAtom_iff] at leftRead rightRead
    rw [direction_eq_none leftRead leftPlain] at leftRead
    rw [direction_eq_none rightRead rightPlain] at rightRead
    exact ⟨_, .names leftRead rightRead, fits, rfl⟩
  · cases read

theorem readCombo_ok {text : List Char} {step : Step} (read : readCombo context text = .ok step) :
    ∃ leftText rightText names, text = leftText ++ '+' :: rightText ∧
      (∀ char ∈ leftText, isSuffix char = false) ∧ (∀ char ∈ rightText, isSuffix char = false) ∧
      unwrapPair (strip leftText) = .ok names ∧ readSides context names (strip rightText) = .ok step := by
  unfold readCombo at read
  cases plus : text.contains '+'
  · simp only [plus] at read
    cases read
  · cases suffix : text.any isSuffix
    · simp only [plus, suffix] at read
      obtain ⟨⟨left, right⟩, split, read⟩ := bind_eq_ok read
      obtain ⟨leftText, rightText, rfl, rfl, rfl⟩ := splitPlus_ok split
      simp only [List.any_append, List.any_cons, Bool.or_eq_false_iff, List.any_eq_false, Bool.not_eq_true] at suffix
      obtain ⟨leftPlain, _, rightPlain⟩ := suffix
      dsimp only at read
      cases parenthesis : (strip rightText).any isParenthesis
      · simp only [parenthesis] at read
        obtain ⟨names, unwrapped, read⟩ := bind_eq_ok read
        exact ⟨leftText, rightText, names, rfl, leftPlain, rightPlain, unwrapped, read⟩
      · simp only [parenthesis] at read
        cases read
    · simp only [plus, suffix] at read
      cases read

theorem readCombo_sound {text : List Char} {step : Step} (read : readCombo context text = .ok step) :
    ∃ form, SpellsCombo form text ∧ form.Fits context ∧ step = form.step context := by
  obtain ⟨leftText, rightText, names, rfl, leftPlain, rightPlain, unwrapped, read⟩ := readCombo_ok read
  unfold readSides at read
  split at read
  · rename_i uncut
    rcases unwrapPair_ok unwrapped with rfl | ⟨_, _, _, several⟩
    · exact readTwoNames_sound leftPlain rightPlain read
    · exact absurd uncut several
  · obtain ⟨⟨first, second⟩, pairRead, read⟩ := bind_eq_ok read
    obtain ⟨key, keyRead, read⟩ := bind_eq_ok read
    cases read
    obtain ⟨pair, firstPermitted, secondPermitted⟩ := readNamePair_iff.mp pairRead
    obtain ⟨keySpells, undeclared⟩ := readKey_iff.mp keyRead
    rw [spellsAtom_strip] at keySpells
    refine ⟨.pair first second key, ?_, ⟨firstPermitted, secondPermitted, undeclared⟩, rfl⟩
    rcases unwrapPair_ok unwrapped with rfl | ⟨inner, enclosed, rfl, _⟩
    · exact .pair (spellsPair_strip.mp pair) keySpells
    · have padded := padded_strip leftText
      rw [enclosed] at padded
      exact .group (spellsPair_strip.mp pair) padded keySpells

theorem readCombo_join {leftText rightText names : List Char} (noPlus : '+' ∉ leftText)
    (leftSome : strip leftText ≠ []) {right : String} (rightSpells : SpellsAtom { name := right } rightText)
    (plain : ∀ char ∈ leftText ++ '+' :: rightText, isSuffix char = false)
    (unwrapped : unwrapPair (strip leftText) = .ok names) :
    readCombo context (leftText ++ '+' :: rightText) = readSides context names (strip rightText) := by
  have plus : (leftText ++ '+' :: rightText).contains '+' = true := by simp
  have noSuffix : (leftText ++ '+' :: rightText).any isSuffix = false := by
    rw [List.any_eq_false]
    intro char member
    simp [plain char member]
  have split := splitPlus_join noPlus (rightSpells.not_reserved '+' rfl) leftSome rightSpells.core.2.1
  have rightPlain : (strip rightText).any isParenthesis = false := by
    simpa using rightSpells.core.2.2.no_parenthesis
  simp only [readCombo, plus, noSuffix, split, rightPlain, unwrapped, Bool.not_true, Bool.false_eq_true, if_false,
    ok_bind, readSides]

theorem readSides_names {leftText rightText : List Char} {left right : String}
    (leftSpells : SpellsAtom { name := left } leftText) (rightSpells : SpellsAtom { name := right } rightText)
    (fits : (ComboForm.names left right).Fits context) :
    readSides context (strip leftText) (strip rightText) = .ok ((ComboForm.names left right).step context) := by
  have uncut := cutNames_uncut (leftSpells.core.2.2.not_reserved ',' rfl)
  have leftRead := readAtom_iff.mpr leftSpells.core.2.2
  have rightRead := readAtom_iff.mpr rightSpells.core.2.2
  rw [readSides, uncut, List.length_singleton, if_pos rfl, readTwoNames_eq leftRead rightRead, if_pos fits]

theorem readSides_pair {pairText keyText : List Char} {first second key : String}
    (pairSpells : SpellsPair first second pairText) (keySpells : SpellsAtom { name := key } keyText)
    (fits : (ComboForm.pair first second key).Fits context) :
    readSides context (strip pairText) (strip keyText) = .ok ((ComboForm.pair first second key).step context) := by
  have stripped := spellsPair_strip.mpr pairSpells
  have pairRead := readNamePair_iff.mpr ⟨stripped, fits.1, fits.2.1⟩
  have keyRead := readKey_iff.mpr ⟨keySpells.core.2.2, fits.2.2⟩
  rw [readSides, if_neg stripped.cut, pairRead, ok_bind, keyRead]
  rfl

theorem readCombo_complete {text : List Char} {form : ComboForm} (spells : SpellsCombo form text)
    (fits : form.Fits context) : readCombo context text = .ok (form.step context) := by
  have plain := spells.plain
  cases spells with
  | names left right =>
      have unwrapped := unwrapPair_plain left.core.2.2.no_parenthesis
      rw [readCombo_join (left.not_reserved '+' rfl) left.core.2.1 right plain unwrapped]
      exact readSides_names left right fits
  | pair pair key =>
      have unwrapped := unwrapPair_plain (spellsPair_strip.mpr pair).no_parenthesis
      rw [readCombo_join pair.no_plus pair.strip_nonempty key plain unwrapped]
      exact readSides_pair pair key fits
  | group pair padded key =>
      have unwrapped := unwrapPair_group (spellsPair_strip.mpr pair).cut
      have enclosed := padded.strip (trimmed_parentheses _)
      rw [← enclosed] at unwrapped
      rw [readCombo_join (padded.not_mem rfl (by simp [pair.no_plus])) (by simp [enclosed]) key plain unwrapped]
      exact readSides_pair pair key fits

theorem readSteps_combo_iff {text : List Char} {steps : List Step} :
    readSteps context .combo text = .ok steps ↔
      ∃ form, SpellsCombo form text ∧ form.Fits context ∧ steps = [form.step context] := by
  constructor
  · intro read
    obtain ⟨_, _, read⟩ := bind_eq_ok read
    obtain ⟨step, comboRead, read⟩ := bind_eq_ok read
    cases read
    obtain ⟨form, spells, fits, rfl⟩ := readCombo_sound comboRead
    exact ⟨form, spells, fits, rfl⟩
  · rintro ⟨form, spells, fits, rfl⟩
    rw [readSteps, spells.groups, ok_bind, readCombo_complete spells fits]
    rfl

/-! Standard texts. -/

def Context.lonePart (context : Context) (name : String) : Part :=
  if context.category = .axis ∨ context.Declares name then .axis { name } else .key name

theorem readStandard_iff {text : List Char} {step : Step} :
    readStandard context text = .ok step ↔
      ∃ name : String, SpellsAtom { name } text ∧ step = .single (context.lonePart name) := by
  have part (name : String) :
      (if context.category = .axis || context.isAxis name then pure (.single (.axis { name }))
        else pure (.single (.key name))) = (.ok (.single (context.lonePart name)) : Except Defect Step) := by
    simp only [Context.lonePart, Bool.or_eq_true, decide_eq_true_eq, isAxis_iff_declares]
    split
    · rfl
    · rfl
  constructor
  · intro read
    unfold readStandard at read
    cases reserved : text.any isReserved
    · simp only [reserved] at read
      obtain ⟨⟨name, _ | direction⟩, atomRead, read⟩ := bind_eq_ok read
      · refine ⟨name, readAtom_iff.mp atomRead, ?_⟩
        have same := (part name).symm.trans read
        cases same
        rfl
      · cases read
    · simp only [reserved] at read
      cases read
  · rintro ⟨name, spells, rfl⟩
    have plain : text.any isReserved = false := by
      rw [List.any_eq_false]
      intro char member reserved
      exact spells.not_reserved char reserved member
    simp only [readStandard, plain, readAtom_iff.mpr spells, Bool.false_eq_true, if_false, ok_bind,
      Option.isSome_none]
    exact part name

theorem readSteps_standard_iff {text : List Char} {steps : List Step} :
    readSteps context .standard text = .ok steps ↔
      ∃ name : String, SpellsAtom { name } text ∧ steps = [.single (context.lonePart name)] := by
  constructor
  · intro read
    obtain ⟨_, _, read⟩ := bind_eq_ok read
    obtain ⟨step, standardRead, read⟩ := bind_eq_ok read
    cases read
    obtain ⟨name, spells, rfl⟩ := readStandard_iff.mp standardRead
    exact ⟨name, spells, rfl⟩
  · rintro ⟨name, spells, rfl⟩
    rw [readSteps, spells.whole.checkGroups, ok_bind, readStandard_iff.mpr ⟨name, spells, rfl⟩]
    rfl

theorem spellsAtom_trimmed_iff {text : List Char} (trimmed : Trimmed text) :
    (∃ name : String, SpellsAtom { name } text) ↔ IsName text := by
  constructor
  · rintro ⟨name, spells⟩
    obtain ⟨isName, padded⟩ := isName_of_bare spells
    rwa [← padded.strip isName.trimmed, trimmed.strip] at isName
  · intro isName
    have written : (String.ofList text).toList = text := String.toList_ofList
    exact ⟨String.ofList text, .bare (by rwa [written]) (by rw [written]; exact padded_self text)⟩

/-! What is read from a text that stands for steps, and what a text that cannot be read raises. -/

theorem parse_of_bound {kind : Kind} {raw : String} (bound : isUnboundText (strip raw.toList) = false) :
    parse context kind raw =
      readSteps context kind (strip raw.toList) >>= fun steps => .ok { source := raw, steps } := by
  simp only [parse, bound, Bool.false_eq_true, if_false]
  rfl

theorem read_ok_iff {kind : Kind} {raw : String} (bound : isUnboundText (strip raw.toList) = false) :
    (∃ read, Descriptor.read context kind raw = .ok read) ↔
      ∃ steps, readSteps context kind (strip raw.toList) = .ok steps := by
  rw [Descriptor.read, parse_of_bound bound]
  cases readSteps context kind (strip raw.toList) with
  | error defect => simp [Except.mapError, bind, Except.bind]
  | ok steps => simp [Except.mapError, bind, Except.bind]

theorem read_malformed_iff {kind : Kind} {raw : String} :
    (∃ defect, Descriptor.read context kind raw = .error (.malformed raw defect)) ↔
      ¬ ∃ read, Descriptor.read context kind raw = .ok read := by
  rw [Descriptor.read]
  cases parse context kind raw with
  | error defect => simp [Except.mapError]
  | ok read => simp [Except.mapError]

/-- Combo and standard texts are accepted exactly as their grammars say, and every other text is reported
as malformed, just as it was given. -/
theorem read_one_step_iff (context : Context) (raw : String)
    (bound : ¬ (strip raw.toList = [] ∨ strip raw.toList = unboundText.toList)) :
    ((∃ read, Descriptor.read context .combo raw = .ok read) ↔
      ∃ form, SpellsCombo form (strip raw.toList) ∧ form.Fits context) ∧
    ((∃ read, Descriptor.read context .standard raw = .ok read) ↔ IsName (strip raw.toList)) ∧
    ((∃ defect, Descriptor.read context .combo raw = .error (.malformed raw defect)) ↔
      ¬ ∃ form, SpellsCombo form (strip raw.toList) ∧ form.Fits context) ∧
    ((∃ defect, Descriptor.read context .standard raw = .error (.malformed raw defect)) ↔
      ¬ IsName (strip raw.toList)) := by
  rw [← isUnboundText_iff, Bool.not_eq_true] at bound
  have combo : (∃ read, Descriptor.read context .combo raw = .ok read) ↔
      ∃ form, SpellsCombo form (strip raw.toList) ∧ form.Fits context := by
    rw [read_ok_iff bound]
    constructor
    · rintro ⟨steps, read⟩
      obtain ⟨form, spells, fits, _⟩ := readSteps_combo_iff.mp read
      exact ⟨form, spells, fits⟩
    · rintro ⟨form, spells, fits⟩
      exact ⟨_, readSteps_combo_iff.mpr ⟨form, spells, fits, rfl⟩⟩
  have standard : (∃ read, Descriptor.read context .standard raw = .ok read) ↔ IsName (strip raw.toList) := by
    rw [read_ok_iff bound, ← spellsAtom_trimmed_iff (trimmed_strip raw.toList)]
    constructor
    · rintro ⟨steps, read⟩
      obtain ⟨name, spells, _⟩ := readSteps_standard_iff.mp read
      exact ⟨name, spells⟩
    · rintro ⟨name, spells⟩
      exact ⟨_, readSteps_standard_iff.mpr ⟨name, spells, rfl⟩⟩
  exact ⟨combo, standard, read_malformed_iff.trans combo.not, read_malformed_iff.trans standard.not⟩

theorem read_one_step_iff_gamepad :
    (∃ read, Descriptor.read gamepad .combo " ( X, Y ) +Jump" = .ok read) ∧
    (∃ defect, Descriptor.read gamepad .standard " ( X, Y ) +Jump" =
      .error (.malformed " ( X, Y ) +Jump" defect)) := by
  obtain ⟨combo, _, _, standard⟩ := read_one_step_iff gamepad " ( X, Y ) +Jump" (by decide)
  refine ⟨combo.mpr ⟨.pair "X" "Y" "Jump", ?_, by decide⟩, standard.mpr (by decide)⟩
  have x : SpellsAtom { name := "X" } [' ', 'X'] := .bare (by decide) ⟨[' '], [], by decide, by decide, rfl⟩
  have y : SpellsAtom { name := "Y" } ['Y', ' '] := .bare (by decide) ⟨[], [' '], by decide, by decide, rfl⟩
  have jump : SpellsAtom { name := "Jump" } "Jump".toList := .bare (by decide) (padded_self _)
  have group : Padded ('(' :: ([' ', 'X'] ++ ',' :: ' ' :: ['Y', ' ']) ++ [')']) "( X, Y ) ".toList :=
    ⟨[], [' '], by decide, by decide, rfl⟩
  exact .group ⟨_, _, x, y, rfl⟩ group jump

end Grammar

end InputBinding
