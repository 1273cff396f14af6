import InputBinding.Proofs.Spellings

/-!
Reading accepts exactly the texts of the grammar. Each reader is shown to succeed on the texts that
spell its result and on no others, from single names up to whole sequences.
-/

namespace InputBinding

namespace Grammar

open Text

variable {context : Context}

def Atom.part (context : Context) (atom : Atom) : Part :=
  match atom.direction with
  | some direction => .axis ⟨atom.name, direction, context.settings.firstTolerance⟩
  | none => if context.isAxis atom.name then .axis { name := atom.name } else .key atom.name

def Form.step (context : Context) : Form → Step
  | .single atom => .single (atom.part context)
  | .combo left right =>
      let (left, right) := relocateSuffix context left right
      .combo (left.part context) (right.part context)
  | .group first second firstDirection secondDirection key =>
      .diagonal ⟨first, firstDirection, context.settings.firstTolerance⟩
        ⟨second, secondDirection, context.settings.secondTolerance⟩ key

/-! Atoms. -/

theorem eq_suffix {char : Char} {direction : Direction} (read : suffixDirection? char = some direction) :
    char = direction.suffix := by
  unfold suffixDirection? at read
  split at read
  · cases read
    assumption
  · split at read
    · cases read
      assumption
    · split at read
      · cases read
        assumption
      · cases read

theorem splitSuffix_some {text name : List Char} {direction : Direction}
    (split : splitSuffix text = (name, some direction)) :
    ∃ gap, Blank gap ∧ text = name ++ gap ++ [direction.suffix] := by
  unfold splitSuffix at split
  split at split
  · cases split
  · rename_i last ends
    split at split
    · cases split
    · rename_i found
      cases split
      refine ⟨(text.dropLast.reverse.takeWhile isBlank).reverse, ?_, ?_⟩
      · intro char member
        exact List.all_eq_true.mp List.all_takeWhile char (List.mem_reverse.mp member)
      · rw [stripRight, ← List.reverse_append, List.takeWhile_append_dropWhile, List.reverse_reverse,
          ← eq_suffix found]
        exact (List.dropLast_append_getLast? last ends).symm

theorem readAtom_split {token : List Char} {atom : Atom} (read : readAtom token = .ok atom) :
    splitSuffix (strip token) = (atom.name.toList, atom.direction) := by
  unfold readAtom at read
  rcases split : splitSuffix (strip token) with ⟨name, direction⟩
  simp only [split] at read
  split at read
  · cases read
  · split at read
    · cases read
    · split at read
      · cases read
        rw [String.toList_ofList]
      · split at read
        · cases read
        · cases read

theorem readAtom_strip (token : List Char) : readAtom (strip token) = readAtom token := by
  rw [readAtom, readAtom, (trimmed_strip token).strip]

theorem splitSuffix_gap {name gap : List Char} (clean : Clean name) (blank : Blank gap) (direction : Direction) :
    splitSuffix (name ++ gap ++ [direction.suffix]) = (name, some direction) := by
  simp [splitSuffix, stripRight_append blank, stripRight_eq clean.trimmed.last]

theorem Clean.readAtom_gap {name gap : List Char} (clean : Clean name) (blank : Blank gap)
    (direction : Direction) :
    Grammar.readAtom (name ++ gap ++ [direction.suffix]) = .ok ⟨String.ofList name, some direction⟩ := by
  have trimmed : Trimmed (name ++ gap ++ [direction.suffix]) := (isName_iff.mpr clean).trimmed_suffixed direction
  have plain : (name.find? fun char => isSuffix char || isReserved char) = none := by
    rw [List.find?_eq_none]
    intro char member
    simp [clean.plain char member]
  rw [Grammar.readAtom, trimmed.strip, splitSuffix_gap clean blank]
  simp [clean.nonempty, plain]

theorem readAtom_iff {token : List Char} {atom : Atom} :
    readAtom token = .ok atom ↔ SpellsAtom atom token := by
  constructor
  · intro read
    have isName := isName_iff.mpr (readAtom_clean read)
    have split := readAtom_split read
    have padded := padded_strip token
    obtain ⟨name, _ | direction⟩ := atom
    · rw [← readAtom_bare read rfl] at padded
      exact .bare isName padded
    · obtain ⟨gap, blank, written⟩ := splitSuffix_some split
      rw [written] at padded
      exact .suffixed isName blank padded
  · intro spells
    rw [← readAtom_strip]
    cases spells with
    | bare isName padded =>
        rw [padded.strip isName.trimmed]
        have read := (isName_iff.mp isName).readAtom none
        rwa [suffixed, String.ofList_toList] at read
    | suffixed isName blank padded =>
        rw [padded.strip (isName.trimmed_suffixed _), (isName_iff.mp isName).readAtom_gap blank,
          String.ofList_toList]

theorem suffixedPart_iff {atom : Atom} {part : Part} :
    suffixedPart context atom = .ok part ↔ atom.Suits context ∧ part = atom.part context := by
  obtain ⟨name, _ | direction⟩ := atom
  · cases declared : context.isAxis name <;>
      simp [suffixedPart, Atom.Suits, Atom.part, declared, eq_comm]
  · cases mayBe : context.mayBeAxis name
    · have refused : ¬ context.Permits name := by simp [← mayBeAxis_iff_permits, mayBe]
      simp [suffixedPart, Atom.Suits, requireAxis, mayBe, refused]
    · have permitted : context.Permits name := mayBeAxis_iff_permits.mp mayBe
      simp [suffixedPart, Atom.Suits, Atom.part, requireAxis, mayBe, permitted, pure, Except.pure, eq_comm]

theorem isAxis_part {atom : Atom} : (atom.part context).isAxis = true ↔ atom.IsAxis context := by
  obtain ⟨name, _ | direction⟩ := atom
  · cases declared : context.isAxis name
    · have undeclared := isAxis_eq_false_iff.mp declared
      simp [Atom.part, Atom.IsAxis, declared, undeclared, Part.isAxis]
    · have declares := isAxis_iff_declares.mp declared
      simp [Atom.part, Atom.IsAxis, declared, declares, Part.isAxis]
  · simp [Atom.part, Atom.IsAxis, Part.isAxis]

theorem readKey_iff {token : List Char} {name : String} :
    readKey context token = .ok name ↔ SpellsAtom { name } token ∧ ¬ context.Declares name := by
  constructor
  · intro read
    unfold readKey at read
    obtain ⟨⟨found, direction⟩, atomRead, read⟩ := bind_eq_ok read
    cases direction with
    | some direction => cases read
    | none =>
        cases declared : context.isAxis found
        · simp only [declared] at read
          cases read
          exact ⟨readAtom_iff.mp atomRead, isAxis_eq_false_iff.mp declared⟩
        · simp only [declared] at read
          cases read
  · rintro ⟨spells, undeclared⟩
    simp [readKey, readAtom_iff.mpr spells, isAxis_eq_false_iff.mpr undeclared, pure, Except.pure]

theorem readGroupName_iff {token : List Char} {name : String} :
    readGroupName context token = .ok name ↔ SpellsAtom { name } token ∧ context.Permits name := by
  constructor
  · intro read
    unfold readGroupName at read
    obtain ⟨⟨found, direction⟩, atomRead, read⟩ := bind_eq_ok read
    cases direction with
    | some direction => cases read
    | none =>
        obtain ⟨_, required, read⟩ := bind_eq_ok read
        cases read
        exact ⟨readAtom_iff.mp atomRead, mayBeAxis_iff_permits.mp (requireAxis_ok required)⟩
  · rintro ⟨spells, permitted⟩
    have mayBe := mayBeAxis_iff_permits.mpr permitted
    simp [readGroupName, readAtom_iff.mpr spells, requireAxis, mayBe, pure, Except.pure]

/-! Pairs of names and what a plus joins. -/

def SpellsPair (first second : String) (text : List Char) : Prop :=
  ∃ firstText secondText, SpellsAtom { name := first } firstText ∧
    SpellsAtom { name := second } secondText ∧ text = firstText ++ ',' :: ' ' :: secondText

theorem spellsPair_strip {first second : String} {text : List Char} :
    SpellsPair first second (strip text) ↔ SpellsPair first second text := by
  constructor
  · rintro ⟨firstText, secondText, firstSpells, secondSpells, written⟩
    obtain ⟨before, after, beforeBlank, afterBlank, padded⟩ := padded_strip text
    refine ⟨_, _, firstSpells.pad beforeBlank Blank.nil, secondSpells.pad Blank.nil afterBlank, ?_⟩
    rw [padded, written]
    simp
  · rintro ⟨firstText, secondText, firstSpells, secondSpells, rfl⟩
    obtain ⟨firstTrimmed, firstSome, firstCore⟩ := firstSpells.core
    obtain ⟨secondTrimmed, secondSome, secondCore⟩ := secondSpells.core
    obtain ⟨firstEnd, secondStart, firstBlank, secondBlank, stripped⟩ :=
      strip_between (padded_strip firstText) firstTrimmed firstSome (padded_strip secondText) secondTrimmed
        secondSome [',', ' ']
    refine ⟨_, _, firstCore.pad Blank.nil firstBlank, secondCore.pad secondBlank Blank.nil, ?_⟩
    simpa using stripped

theorem SpellsPair.no_plus {first second : String} {text : List Char} (spells : SpellsPair first second text) :
    '+' ∉ text := by
  obtain ⟨firstText, secondText, firstSpells, secondSpells, rfl⟩ := spells
  simp [firstSpells.not_reserved '+' rfl, secondSpells.not_reserved '+' rfl]

theorem SpellsPair.strip_nonempty {first second : String} {text : List Char}
    (spells : SpellsPair first second text) : strip text ≠ [] := by
  obtain ⟨firstText, secondText, _, _, written⟩ := spellsPair_strip.mpr spells
  simp [written]

theorem SpellsPair.no_parenthesis {first second : String} {text : List Char}
    (spells : SpellsPair first second text) : ∀ char ∈ text, isParenthesis char = false := by
  obtain ⟨firstText, secondText, firstSpells, secondSpells, rfl⟩ := spells
  exact pair_no_parenthesis firstSpells secondSpells

theorem readNamePair_iff {body : List Char} {first second : String} :
    readNamePair context body = .ok (first, second) ↔
      SpellsPair first second body ∧ context.Permits first ∧ context.Permits second := by
  constructor
  · intro read
    unfold readNamePair at read
    split at read
    · rename_i firstText secondText cut
      obtain ⟨firstName, firstRead, read⟩ := bind_eq_ok read
      obtain ⟨secondName, secondRead, read⟩ := bind_eq_ok read
      cases read
      obtain ⟨firstSpells, firstPermitted⟩ := readGroupName_iff.mp firstRead
      obtain ⟨secondSpells, secondPermitted⟩ := readGroupName_iff.mp secondRead
      have written := intercalate_cutNames body
      rw [cut] at written
      refine ⟨⟨firstText, secondText, firstSpells, secondSpells, ?_⟩, firstPermitted, secondPermitted⟩
      rw [← written]
      simp [List.intercalate_cons_cons]
    · cases read
  · rintro ⟨⟨firstText, secondText, firstSpells, secondSpells, rfl⟩, firstPermitted, secondPermitted⟩
    have cut := cutNames_pair (firstSpells.not_reserved ',' rfl) (secondSpells.not_reserved ',' rfl)
    have firstRead := readGroupName_iff.mpr ⟨firstSpells, firstPermitted⟩
    have secondRead := readGroupName_iff.mpr ⟨secondSpells, secondPermitted⟩
    simp [readNamePair, cut, firstRead, secondRead, pure, Except.pure]

theorem splitPlus_ok {text left right : List Char} (split : splitPlus text = .ok (left, right)) :
    ∃ leftText rightText, text = leftText ++ '+' :: rightText ∧ left = strip leftText ∧
      right = strip rightText := by
  unfold splitPlus at split
  split at split
  · rename_i leftText rightText cut
    split at split
    · cases split
    · cases split
      have written := intercalate_cutPlus text
      rw [cut] at written
      refine ⟨leftText, rightText, ?_, rfl, rfl⟩
      rw [← written]
      simp [List.intercalate_cons_cons]
  · cases split

theorem splitPlus_join {leftText rightText : List Char} (noPlus : '+' ∉ leftText) (noOther : '+' ∉ rightText)
    (leftSome : strip leftText ≠ []) (rightSome : strip rightText ≠ []) :
    splitPlus (leftText ++ '+' :: rightText) = .ok (strip leftText, strip rightText) := by
  simp [splitPlus, cutPlus_pair noPlus noOther, leftSome, rightSome]

theorem moves_iff {left right : Atom} :
    (right.direction.isSome && left.direction.isNone && context.isAxis left.name &&
      !context.isAxis right.name) = true ↔ Moves context left right := by
  simp only [Bool.and_eq_true, Bool.not_eq_true', isAxis_iff_declares, isAxis_eq_false_iff, Moves,
    Option.isSome_iff_ne_none, Option.isNone_iff_eq_none, and_assoc]

theorem fits_combo_iff {left right : Atom} :
    (Form.combo left right).Fits context ↔
      Balanced context (relocateSuffix context left right).1 (relocateSuffix context left right).2 := by
  unfold relocateSuffix Form.Fits
  by_cases moves : Moves context left right
  · rw [if_pos (moves_iff.mpr moves)]
    simp [moves]
  · rw [if_neg (moves_iff.not.mpr moves)]
    simp [moves]

theorem isAxis_eq_true_iff {part : Part} : part.isAxis = true ↔ ∃ test, part = .axis test := by
  cases part <;> simp [Part.isAxis]

theorem readComboStep_iff {text : List Char} {step : Step} :
    readComboStep context text = .ok step ↔ ∃ left right, Spells (.combo left right) text ∧
      (Form.combo left right).Fits context ∧ step = (Form.combo left right).step context := by
  constructor
  · intro read
    unfold readComboStep at read
    obtain ⟨⟨_, _⟩, split, read⟩ := bind_eq_ok read
    obtain ⟨leftText, rightText, rfl, rfl, rfl⟩ := splitPlus_ok split
    obtain ⟨left, leftRead, read⟩ := bind_eq_ok read
    obtain ⟨right, rightRead, read⟩ := bind_eq_ok read
    rw [readAtom_strip, readAtom_iff] at leftRead rightRead
    refine ⟨left, right, .combo leftRead rightRead, ?_⟩
    rw [fits_combo_iff, Form.step]
    generalize relocateSuffix context left right = relocated at *
    obtain ⟨leftAtom, rightAtom⟩ := relocated
    obtain ⟨_, leftPart, read⟩ := bind_eq_ok read
    obtain ⟨_, rightPart, read⟩ := bind_eq_ok read
    obtain ⟨leftSuits, rfl⟩ := suffixedPart_iff.mp leftPart
    obtain ⟨rightSuits, rfl⟩ := suffixedPart_iff.mp rightPart
    split at read
    · cases read
    · rename_i notBoth
      cases read
      refine ⟨⟨leftSuits, rightSuits, ?_⟩, rfl⟩
      rintro ⟨leftAxis, rightAxis⟩
      obtain ⟨leftTest, leftIs⟩ := isAxis_eq_true_iff.mp (isAxis_part.mpr leftAxis)
      obtain ⟨rightTest, rightIs⟩ := isAxis_eq_true_iff.mp (isAxis_part.mpr rightAxis)
      exact notBoth leftTest rightTest leftIs rightIs
  · rintro ⟨left, right, spells, fits, rfl⟩
    cases spells with
    | combo leftSpells rightSpells =>
        rw [fits_combo_iff] at fits
        have split := splitPlus_join (leftSpells.not_reserved '+' rfl) (rightSpells.not_reserved '+' rfl)
          leftSpells.core.2.1 rightSpells.core.2.1
        rw [readComboStep, split]
        simp only [ok_bind, readAtom_strip, readAtom_iff.mpr leftSpells, readAtom_iff.mpr rightSpells]
        rw [Form.step]
        generalize relocateSuffix context left right = relocated at *
        obtain ⟨leftAtom, rightAtom⟩ := relocated
        obtain ⟨leftSuits, rightSuits, notBoth⟩ := fits
        simp only [suffixedPart_iff.mpr ⟨leftSuits, rfl⟩, suffixedPart_iff.mpr ⟨rightSuits, rfl⟩, ok_bind]
        rw [← isAxis_part, ← isAxis_part] at notBoth
        split
        · rename_i leftIs rightIs
          rw [leftIs, rightIs] at notBoth
          exact absurd ⟨rfl, rfl⟩ notBoth
        · rfl

/-! Groups: what may follow the closing parenthesis, and what stands before the two suffixes. -/

inductive SpellsTail : Option String → List Char → Prop
  | blank {text : List Char} : Blank text → SpellsTail none text
  | key {name : String} {before keyText : List Char} : Blank before → SpellsAtom { name } keyText →
      SpellsTail (some name) (before ++ '+' :: keyText)

inductive SpellsBody (first second : String) : Option String → List Char → Prop
  | pair {text : List Char} : SpellsPair first second text → SpellsBody first second none text
  | keyed {name : String} {names keyText : List Char} : SpellsPair first second names →
      SpellsAtom { name } keyText → SpellsBody first second (some name) (names ++ '+' :: keyText)

theorem strip_blank {text : List Char} (blank : Blank text) : strip text = [] := by
  have trimmed : Trimmed ([] : List Char) := ⟨by simp, by simp⟩
  exact Padded.strip ⟨text, [], blank, Blank.nil, by simp⟩ trimmed

theorem strip_tail {name : String} {before keyText : List Char} (blank : Blank before)
    (spells : SpellsAtom { name } keyText) :
    ∃ token, strip (before ++ '+' :: keyText) = '+' :: token ∧ SpellsAtom { name } token := by
  obtain ⟨trimmed, nonempty, core⟩ := spells.core
  have plus : Trimmed ['+'] := trimmed_singleton (by decide)
  have padded : Padded ['+'] (before ++ ['+']) := ⟨before, [], blank, Blank.nil, by simp⟩
  obtain ⟨leftEnd, rightStart, leftBlank, rightBlank, stripped⟩ :=
    strip_between padded plus (by simp) (padded_strip keyText) trimmed nonempty []
  refine ⟨leftEnd ++ rightStart ++ strip keyText, by simpa using stripped, ?_⟩
  simpa using core.pad (leftBlank.append rightBlank) Blank.nil

theorem readGroupTail_iff {text : List Char} {key : Option String} :
    readGroupTail context (strip text) = .ok key ↔ SpellsTail key text ∧ Reserves context key := by
  constructor
  · intro read
    obtain ⟨before, after, beforeBlank, afterBlank, written⟩ := padded_strip text
    unfold readGroupTail at read
    split at read
    · rename_i nothing
      cases read
      rw [nothing, List.append_nil] at written
      rw [written]
      exact ⟨.blank (beforeBlank.append afterBlank), fun name impossible => by cases impossible⟩
    · rename_i token plus
      obtain ⟨name, keyRead, rfl⟩ := map_eq_ok read
      obtain ⟨spells, undeclared⟩ := readKey_iff.mp keyRead
      have padded := spells.pad Blank.nil afterBlank
      rw [plus] at written
      rw [written, List.append_assoc]
      refine ⟨.key beforeBlank padded, ?_⟩
      rintro _ ⟨⟩
      exact undeclared
    · cases read
  · rintro ⟨spells, reserves⟩
    cases spells with
    | blank blank =>
        rw [strip_blank blank]
        rfl
    | @key name before keyText blank keySpells =>
        obtain ⟨token, stripped, tokenSpells⟩ := strip_tail blank keySpells
        have read := readKey_iff.mpr ⟨tokenSpells, reserves name rfl⟩
        simp [stripped, readGroupTail, read, Functor.map, Except.map]

theorem splitGroupSuffixes_iff {inner body : List Char} {first second : Direction} :
    splitGroupSuffixes inner = .ok (body, first, second) ↔ inner = body ++ [first.suffix, second.suffix] := by
  constructor
  · intro split
    unfold splitGroupSuffixes at split
    split at split
    · rename_i last other rest reversed
      split at split
      · rename_i firstFound secondFound
        cases split
        rw [← List.reverse_reverse inner, reversed, eq_suffix firstFound, eq_suffix secondFound]
        simp
      · cases split
    · cases split
  · rintro rfl
    exact splitGroupSuffixes_written body first second

/-- A key may stand before the suffixes or behind the group, but not in both places. -/
def OneKey (inner outer key : Option String) : Prop :=
  (inner = none ∧ key = outer) ∨ (outer = none ∧ key = inner)

theorem readGroupBody_iff {outer key : Option String} {body : List Char} {first second : String}
    (outerReserves : Reserves context outer) :
    readGroupBody context outer body = .ok ((first, second), key) ↔
      ∃ inner, SpellsBody first second inner body ∧ OneKey inner outer key ∧
        context.Permits first ∧ context.Permits second ∧ Reserves context key := by
  constructor
  · intro read
    unfold readGroupBody at read
    split at read
    · cases outer with
      | some name => cases read
      | none =>
          obtain ⟨⟨names, token⟩, split, read⟩ := bind_eq_ok read
          obtain ⟨namesText, keyText, rfl, rfl, rfl⟩ := splitPlus_ok split
          obtain ⟨name, keyRead, read⟩ := bind_eq_ok read
          obtain ⟨pair, pairRead, read⟩ := bind_eq_ok read
          cases read
          obtain ⟨keySpells, undeclared⟩ := readKey_iff.mp keyRead
          obtain ⟨pairSpells, firstPermitted, secondPermitted⟩ := readNamePair_iff.mp pairRead
          rw [spellsAtom_strip] at keySpells
          rw [spellsPair_strip] at pairSpells
          refine ⟨some name, .keyed pairSpells keySpells, .inr ⟨rfl, rfl⟩, firstPermitted, secondPermitted, ?_⟩
          rintro _ ⟨⟩
          exact undeclared
    · obtain ⟨pair, pairRead, read⟩ := bind_eq_ok read
      cases read
      obtain ⟨pairSpells, firstPermitted, secondPermitted⟩ := readNamePair_iff.mp pairRead
      exact ⟨none, .pair pairSpells, .inl ⟨rfl, rfl⟩, firstPermitted, secondPermitted, outerReserves⟩
  · rintro ⟨inner, spells, oneKey, firstPermitted, secondPermitted, reserves⟩
    cases spells with
    | pair pairSpells =>
        have same : key = outer := by
          rcases oneKey with ⟨_, same⟩ | ⟨rfl, rfl⟩
          · exact same
          · rfl
        have read := readNamePair_iff.mpr ⟨pairSpells, firstPermitted, secondPermitted⟩
        simp [readGroupBody, pairSpells.no_plus, read, same, pure, Except.pure]
    | @keyed name names keyText pairSpells keySpells =>
        rcases oneKey with ⟨impossible, _⟩ | ⟨rfl, rfl⟩
        · cases impossible
        have split := splitPlus_join pairSpells.no_plus (keySpells.not_reserved '+' rfl)
          pairSpells.strip_nonempty keySpells.core.2.1
        have keyRead := readKey_iff.mpr ⟨keySpells.core.2.2, reserves name rfl⟩
        have pairRead := readNamePair_iff.mpr
          ⟨spellsPair_strip.mpr pairSpells, firstPermitted, secondPermitted⟩
        simp [readGroupBody, split, keyRead, pairRead, pure, Except.pure]

theorem Padded.opens {core text : List Char} (padded : Padded core text) (opens : text.head? = some '(') :
    ∃ after, Blank after ∧ text = core ++ after := by
  obtain ⟨before, after, beforeBlank, afterBlank, rfl⟩ := padded
  cases before with
  | nil => exact ⟨after, afterBlank, rfl⟩
  | cons head others =>
      cases opens
      exact absurd List.mem_cons_self (beforeBlank.not_mem rfl)

theorem Padded.head_open {core text : List Char} (padded : Padded core text) (opens : core.head? = some '(')
    {rest : List Char} (trimmed : Trimmed (text ++ rest)) : (text ++ rest).head? = some '(' := by
  obtain ⟨before, after, beforeBlank, _, rfl⟩ := padded
  cases before with
  | nil => simp [opens]
  | cons head others =>
      have blank := beforeBlank head List.mem_cons_self
      rw [trimmed.first head rfl] at blank
      cases blank

theorem spells_group_iff {text : List Char} {first second : String} {firstDirection secondDirection : Direction}
    {key : Option String} (opens : text.head? = some '(') :
    Spells (.group first second firstDirection secondDirection key) text ↔
      ∃ body after inner outer, text = enclosed body firstDirection secondDirection ++ after ∧
        SpellsBody first second inner body ∧ SpellsTail outer after ∧ OneKey inner outer key := by
  constructor
  · intro spells
    cases spells with
    | group firstSpells secondSpells padded =>
        obtain ⟨after, blank, written⟩ := padded.opens opens
        exact ⟨_, after, none, none, written, .pair ⟨_, _, firstSpells, secondSpells, rfl⟩, .blank blank,
          .inl ⟨rfl, rfl⟩⟩
    | @keyBehind _ _ key _ _ keyText groupText _ _ firstSpells secondSpells padded keySpells =>
        have starts : groupText.head? = some '(' := by
          cases groupText with
          | nil => cases opens
          | cons head others => exact opens
        obtain ⟨after, blank, rfl⟩ := padded.opens starts
        exact ⟨_, after ++ '+' :: keyText, none, some key, by simp, .pair ⟨_, _, firstSpells, secondSpells, rfl⟩,
          .key blank keySpells, .inl ⟨rfl, rfl⟩⟩
    | keyInside firstSpells secondSpells keySpells padded =>
        obtain ⟨after, blank, written⟩ := padded.opens opens
        exact ⟨_, after, some _, none, written, .keyed ⟨_, _, firstSpells, secondSpells, rfl⟩ keySpells,
          .blank blank, .inr ⟨rfl, rfl⟩⟩
  · rintro ⟨body, after, inner, outer, rfl, spellsBody, spellsTail, oneKey⟩
    cases spellsBody with
    | pair pair =>
        obtain ⟨firstText, secondText, firstSpells, secondSpells, rfl⟩ := pair
        cases spellsTail with
        | blank blank =>
            have keyless : key = none := by
              rcases oneKey with ⟨_, same⟩ | ⟨_, same⟩
              · exact same
              · exact same
            rw [keyless]
            exact .group firstSpells secondSpells ⟨[], after, Blank.nil, blank, rfl⟩
        | @key name before keyText blank keySpells =>
            rcases oneKey with ⟨_, rfl⟩ | ⟨impossible, _⟩
            · rw [← List.append_assoc]
              exact .keyBehind firstSpells secondSpells ⟨[], before, Blank.nil, blank, rfl⟩ keySpells
            · cases impossible
    | keyed pair keySpells =>
        obtain ⟨firstText, secondText, firstSpells, secondSpells, rfl⟩ := pair
        rcases oneKey with ⟨impossible, _⟩ | ⟨rfl, rfl⟩
        · cases impossible
        cases spellsTail with
        | blank blank =>
            exact .keyInside firstSpells secondSpells keySpells ⟨[], after, Blank.nil, blank, rfl⟩

theorem readGroup_enclosed {names : List Char} (closed : ')' ∉ names) (first second : Direction)
    (after : List Char) :
    readGroup context (enclosed names first second ++ after) =
      (do
        let outer ← readGroupTail context (strip after)
        let ((firstName, secondName), key) ← readGroupBody context outer names
        pure (.diagonal ⟨firstName, first, context.settings.firstTolerance⟩
          ⟨secondName, second, context.settings.secondTolerance⟩ key)) := by
  have notClose : ∀ char ∈ '(' :: names ++ [first.suffix, second.suffix], (char != ')') = true := by
    intro char member
    rw [bne_iff_ne]
    rintro rfl
    have noSuffix (direction : Direction) : ')' ≠ direction.suffix := by cases direction <;> decide
    simp [closed, noSuffix] at member
  have written : enclosed names first second ++ after =
      '(' :: names ++ [first.suffix, second.suffix] ++ ')' :: after := by
    simp [enclosed]
  rw [written, readGroup, List.dropWhile_append_of_pos notClose, List.takeWhile_append_of_pos notClose]
  simp [splitGroupSuffixes_written]

theorem SpellsBody.no_close {first second : String} {key : Option String} {text : List Char}
    (spells : SpellsBody first second key text) : ')' ∉ text := by
  intro member
  have plain : isParenthesis ')' = false := by
    cases spells with
    | pair pair => exact pair.no_parenthesis ')' member
    | keyed pair key =>
        obtain ⟨firstText, secondText, firstSpells, secondSpells, rfl⟩ := pair
        exact plus_no_parenthesis (pair_no_parenthesis firstSpells secondSpells) key.no_parenthesis ')' member
  cases plain

theorem readGroup_ok {text : List Char} {step : Step} (opens : text.head? = some '(')
    (read : readGroup context text = .ok step) :
    ∃ names first second after, ')' ∉ names ∧ text = enclosed names first second ++ after := by
  cases text with
  | nil => cases opens
  | cons head rest =>
      cases opens
      have parts : rest.takeWhile (· != ')') ++ rest.dropWhile (· != ')') = rest := List.takeWhile_append_dropWhile
      have closed : ')' ∉ rest.takeWhile (· != ')') := by
        intro member
        have different := List.all_eq_true.mp List.all_takeWhile ')' member
        simp at different
      have drop : ('(' :: rest).dropWhile (· != ')') = rest.dropWhile (· != ')') := rfl
      have take : (('(' :: rest).takeWhile (· != ')')).drop 1 = rest.takeWhile (· != ')') := rfl
      unfold readGroup at read
      rw [drop, take] at read
      split at read
      · cases read
      · rename_i close after dropped
        obtain ⟨outer, _, read⟩ := bind_eq_ok read
        obtain ⟨⟨names, first, second⟩, suffixes, _⟩ := bind_eq_ok read
        have inner := splitGroupSuffixes_iff.mp suffixes
        have isClose : close = ')' := by
          have stops := List.head?_dropWhile_not (· != ')') rest
          rw [dropped] at stops
          simpa using stops
        rw [inner] at closed
        rw [inner, dropped, isClose] at parts
        refine ⟨names, first, second, after, ?_, ?_⟩
        · intro member
          exact closed (List.mem_append_left _ member)
        · rw [← parts]
          simp [enclosed]

theorem readGroup_iff {text : List Char} {step : Step} (opens : text.head? = some '(') :
    readGroup context text = .ok step ↔ ∃ first second firstDirection secondDirection key,
      Spells (.group first second firstDirection secondDirection key) text ∧
        (Form.group first second firstDirection secondDirection key).Fits context ∧
        step = (Form.group first second firstDirection secondDirection key).step context := by
  constructor
  · intro read
    obtain ⟨names, firstDirection, secondDirection, after, closed, rfl⟩ := readGroup_ok opens read
    rw [readGroup_enclosed closed] at read
    obtain ⟨outer, tailRead, read⟩ := bind_eq_ok read
    obtain ⟨⟨⟨first, second⟩, key⟩, bodyRead, read⟩ := bind_eq_ok read
    cases read
    obtain ⟨tail, outerReserves⟩ := readGroupTail_iff.mp tailRead
    obtain ⟨inner, body, oneKey, firstPermitted, secondPermitted, reserves⟩ :=
      (readGroupBody_iff outerReserves).mp bodyRead
    have spells := (spells_group_iff opens).mpr ⟨names, after, inner, outer, rfl, body, tail, oneKey⟩
    exact ⟨first, second, firstDirection, secondDirection, key, spells,
      ⟨firstPermitted, secondPermitted, reserves⟩, rfl⟩
  · rintro ⟨first, second, firstDirection, secondDirection, key, spells, fits, rfl⟩
    obtain ⟨firstPermitted, secondPermitted, reserves⟩ := fits
    obtain ⟨names, after, inner, outer, rfl, body, tail, oneKey⟩ := (spells_group_iff opens).mp spells
    have outerReserves : Reserves context outer := by
      rcases oneKey with ⟨_, rfl⟩ | ⟨rfl, _⟩
      · exact reserves
      · intro name impossible
        cases impossible
    have tailRead := readGroupTail_iff.mpr ⟨tail, outerReserves⟩
    have bodyRead := (readGroupBody_iff outerReserves).mpr
      ⟨inner, body, oneKey, firstPermitted, secondPermitted, reserves⟩
    rw [readGroup_enclosed body.no_close, tailRead, ok_bind, bodyRead]
    rfl

/-! Steps. -/

theorem Spells.head_open {text : List Char} {first second : String} {firstDirection secondDirection : Direction}
    {key : Option String} (spells : Spells (.group first second firstDirection secondDirection key) text)
    (trimmed : Trimmed text) : text.head? = some '(' := by
  rw [← List.append_nil text] at trimmed ⊢
  cases spells with
  | group _ _ padded => exact padded.head_open rfl trimmed
  | keyBehind _ _ padded _ =>
      rw [List.append_nil] at trimmed ⊢
      exact padded.head_open rfl trimmed
  | keyInside _ _ _ padded => exact padded.head_open rfl trimmed

theorem readStep_trimmed_iff {text : List Char} {step : Step} (trimmed : Trimmed text) :
    readStep context text = .ok step ↔
      ∃ form, Spells form text ∧ form.Fits context ∧ step = form.step context := by
  constructor
  · intro read
    unfold readStep at read
    split at read
    · rename_i opens
      obtain ⟨first, second, firstDirection, secondDirection, key, group⟩ := (readGroup_iff opens).mp read
      exact ⟨_, group⟩
    · split at read
      · cases read
      · split at read
        · obtain ⟨left, right, combo⟩ := readComboStep_iff.mp read
          exact ⟨_, combo⟩
        · obtain ⟨atom, atomRead, read⟩ := bind_eq_ok read
          obtain ⟨part, partRead, read⟩ := bind_eq_ok read
          cases read
          obtain ⟨suits, rfl⟩ := suffixedPart_iff.mp partRead
          exact ⟨.single atom, .single (readAtom_iff.mp atomRead), suits, rfl⟩
  · rintro ⟨form, spells, fits, rfl⟩
    cases form with
    | single atom =>
        cases spells with
        | single atomSpells =>
            have noGroup := head?_ne_of_not_mem (atomSpells.not_reserved '(' rfl)
            have noParenthesis : text.any isParenthesis = false := by simpa using atomSpells.no_parenthesis
            have noPlus : text.contains '+' = false := by simpa using atomSpells.not_reserved '+' rfl
            rw [readStep, if_neg noGroup, noParenthesis, noPlus]
            simp [readAtom_iff.mpr atomSpells, suffixedPart_iff.mpr ⟨fits, rfl⟩, Form.step, pure, Except.pure]
    | combo left right =>
        have read := readComboStep_iff.mpr ⟨left, right, spells, fits, rfl⟩
        cases spells with
        | @combo _ _ leftText rightText leftSpells rightSpells =>
            have plain := plus_no_parenthesis leftSpells.no_parenthesis rightSpells.no_parenthesis
            have noGroup : (leftText ++ '+' :: rightText).head? ≠ some '(' := by
              intro opens
              cases plain '(' (List.mem_of_head? opens)
            have noParenthesis : (leftText ++ '+' :: rightText).any isParenthesis = false := by
              rw [List.any_eq_false]
              intro char member
              simp [plain char member]
            have plus : (leftText ++ '+' :: rightText).contains '+' = true := by simp
            rw [readStep, if_neg noGroup, noParenthesis, plus]
            exact read
    | group first second firstDirection secondDirection key =>
        have opens := spells.head_open trimmed
        rw [readStep, if_pos opens]
        exact (readGroup_iff opens).mpr ⟨_, _, _, _, _, spells, fits, rfl⟩

theorem readStep_iff {fragment : List Char} {step : Step} :
    readStep context (strip fragment) = .ok step ↔
      ∃ form, Spells form fragment ∧ form.Fits context ∧ step = form.step context := by
  rw [readStep_trimmed_iff (trimmed_strip fragment)]
  simp only [spells_strip]

theorem splitSteps_iff {text : List Char} {fragments : List (List Char)} :
    splitSteps text = .ok fragments ↔
      fragments = (cutSteps false text).map strip ∧ ∀ fragment ∈ fragments, fragment ≠ [] := by
  unfold splitSteps
  dsimp only
  split
  · rename_i someEmpty
    obtain ⟨piece, member, isEmpty⟩ := List.any_eq_true.mp someEmpty
    constructor
    · intro impossible
      cases impossible
    · rintro ⟨rfl, nonempty⟩
      exact absurd (List.isEmpty_iff.mp isEmpty) (nonempty piece member)
  · rename_i noneEmpty
    constructor
    · intro split
      cases split
      refine ⟨rfl, ?_⟩
      rintro fragment member rfl
      exact noneEmpty (List.any_eq_true.mpr ⟨[], member, rfl⟩)
    · rintro ⟨rfl, _⟩
      rfl

/-- What a piece of a sequence text is read as. -/
def Reads (context : Context) (fragment : List Char) (step : Step) : Prop :=
  ∃ form, Spells form fragment ∧ form.Fits context ∧ step = form.step context

theorem readSteps_iff {text : List Char} {steps : List Step} :
    readSteps context .sequence text = .ok steps ↔
      ∃ fragments, fragments ≠ [] ∧ text = [',', ' '].intercalate fragments ∧
        List.Forall₂ (Reads context) fragments steps := by
  constructor
  · intro read
    unfold readSteps at read
    obtain ⟨_, _, read⟩ := bind_eq_ok read
    obtain ⟨stripped, split, read⟩ := bind_eq_ok read
    obtain ⟨rfl, _⟩ := splitSteps_iff.mp split
    refine ⟨cutSteps false text, cutSteps_nonempty false text, (intercalate_cutSteps false text).symm, ?_⟩
    have each := List.forall₂_map_left_iff.mp (mapM_eq_ok_iff.mp read)
    exact each.imp fun fragment step => readStep_iff.mp
  · rintro ⟨fragments, nonempty, rfl, each⟩
    have spelled : ∀ fragment ∈ fragments, ∃ form, Spells form fragment := by
      intro fragment member
      obtain ⟨step, form, spells, _⟩ := exists_forall₂_iff.mp ⟨steps, each⟩ fragment member
      exact ⟨form, spells⟩
    -- A comma inside a group does not cut, so a join of fragments is cut where it was joined.
    obtain ⟨cuts, groups⟩ := cutSteps_join nonempty fun fragment member => by
      obtain ⟨form, spells⟩ := spelled fragment member
      exact spells.whole
    have split : splitSteps ([',', ' '].intercalate fragments) = .ok (fragments.map strip) := by
      rw [splitSteps_iff, cuts]
      refine ⟨rfl, ?_⟩
      intro stripped member
      obtain ⟨fragment, listed, rfl⟩ := List.mem_map.mp member
      obtain ⟨form, spells⟩ := spelled fragment listed
      exact spells.core.1
    have read : (fragments.map strip).mapM (readStep context) = .ok steps := by
      rw [mapM_eq_ok_iff, List.forall₂_map_left_iff]
      exact each.imp fun fragment step => readStep_iff.mpr
    rw [readSteps, groups, ok_bind]
    simp only [readSequence, split, ok_bind, read]

theorem isUnboundText_iff {text : List Char} :
    isUnboundText text = true ↔ text = [] ∨ text = unboundText.toList := by
  simp [isUnboundText]

theorem parse_unbound {kind : Kind} {raw : String} (unbound : isUnboundText (strip raw.toList) = true) :
    parse context kind raw = .ok { source := raw } := by
  simp [parse, unbound]

theorem parse_bound_iff {kind : Kind} {raw : String} {steps : List Step}
    (bound : isUnboundText (strip raw.toList) = false) :
    (∃ read, parse context kind raw = .ok read ∧ read.steps = steps) ↔
      readSteps context kind (strip raw.toList) = .ok steps := by
  constructor
  · rintro ⟨read, parsed, rfl⟩
    simp only [parse, bound, Bool.false_eq_true, if_false] at parsed
    obtain ⟨steps, stepsRead, parsed⟩ := bind_eq_ok parsed
    cases parsed
    exact stepsRead
  · intro stepsRead
    refine ⟨{ source := raw, steps }, ?_, rfl⟩
    simp only [parse, bound, Bool.false_eq_true, if_false, stepsRead]
    rfl

/-- The parser accepts exactly the grammar: the texts that stand for no steps, and the joins of
fragments that suit the declared axes, one step for each. -/
theorem parse_sequence_iff (context : Context) (raw : String) :
    ((∃ read, parse context .sequence raw = .ok read ∧ read.steps = []) ↔
      strip raw.toList = [] ∨ strip raw.toList = unboundText.toList) ∧
    ∀ count, 0 < count →
      ((∃ read, parse context .sequence raw = .ok read ∧ read.steps.length = count) ↔
        ¬ (strip raw.toList = [] ∨ strip raw.toList = unboundText.toList) ∧
        ∃ fragments, fragments.length = count ∧ strip raw.toList = [',', ' '].intercalate fragments ∧
          ∀ fragment ∈ fragments, ∃ form, Spells form fragment ∧ form.Fits context) := by
  rw [← isUnboundText_iff]
  cases unbound : isUnboundText (strip raw.toList) with
  | true =>
      have parsed : parse context .sequence raw = .ok { source := raw } := parse_unbound unbound
      refine ⟨⟨fun _ => rfl, fun _ => ⟨_, parsed, rfl⟩⟩, fun count positive => ⟨?_, ?_⟩⟩
      · rintro ⟨read, other, rfl⟩
        rw [parsed] at other
        cases other
        exact absurd positive (Nat.lt_irrefl 0)
      · rintro ⟨bound, _⟩
        exact absurd rfl bound
  | false =>
      refine ⟨⟨?_, fun impossible => by cases impossible⟩, fun count positive => ⟨?_, ?_⟩⟩
      · rintro ⟨read, parsed, nothing⟩
        obtain ⟨fragments, nonempty, _, each⟩ :=
          readSteps_iff.mp ((parse_bound_iff unbound).mp ⟨read, parsed, nothing⟩)
        cases each
        exact absurd rfl nonempty
      · rintro ⟨read, parsed, rfl⟩
        obtain ⟨fragments, _, joined, each⟩ := readSteps_iff.mp ((parse_bound_iff unbound).mp ⟨read, parsed, rfl⟩)
        refine ⟨Bool.false_ne_true, fragments, each.length_eq, joined, ?_⟩
        intro fragment member
        obtain ⟨step, form, spells, fits, _⟩ := exists_forall₂_iff.mp ⟨read.steps, each⟩ fragment member
        exact ⟨form, spells, fits⟩
      · rintro ⟨_, fragments, rfl, joined, accepted⟩
        have readable : ∀ fragment ∈ fragments, ∃ step, Reads context fragment step := by
          intro fragment member
          obtain ⟨form, spells, fits⟩ := accepted fragment member
          exact ⟨form.step context, form, spells, fits, rfl⟩
        obtain ⟨steps, each⟩ := exists_forall₂_iff.mpr readable
        have nonempty := List.ne_nil_of_length_pos positive
        obtain ⟨read, parsed, rfl⟩ :=
          (parse_bound_iff unbound).mpr (readSteps_iff.mpr ⟨fragments, nonempty, joined, each⟩)
        exact ⟨read, parsed, each.length_eq.symm⟩

def gamepad : Context := { axisNames := some ["X", "Y"] }

theorem parse_sequence_iff_gamepad :
    ∃ read, parse gamepad .sequence " X+Fire> , ( X, Y <=) +Jump" = .ok read ∧ read.steps.length = 2 := by
  apply ((parse_sequence_iff gamepad _).2 2 (by decide)).mpr
  refine ⟨by decide, ["X+Fire> ".toList, "( X, Y <=) +Jump".toList], rfl, by decide, ?_⟩
  have x : SpellsAtom { name := "X" } ['X'] := .bare (by decide) (padded_self _)
  have y : SpellsAtom { name := "Y" } ['Y', ' '] := .bare (by decide) ⟨[], [' '], by decide, by decide, rfl⟩
  have fire : SpellsAtom ⟨"Fire", some .positive⟩ "Fire> ".toList :=
    .suffixed (by decide) Blank.nil ⟨[], [' '], by decide, by decide, rfl⟩
  have jump : SpellsAtom { name := "Jump" } "Jump".toList := .bare (by decide) (padded_self _)
  have space : Blank [' '] := by decide
  intro fragment member
  simp only [List.mem_cons, List.not_mem_nil, or_false] at member
  rcases member with rfl | rfl
  · exact ⟨_, .combo x fire, by decide⟩
  · have group : Padded (enclosed (' ' :: 'X' :: ',' :: ' ' :: ['Y', ' ']) .negative .neutral) "( X, Y <=) ".toList :=
      ⟨[], [' '], by decide, by decide, by decide⟩
    exact ⟨_, .keyBehind (x.pad space Blank.nil) y group jump, by decide⟩

end Grammar

end InputBinding
