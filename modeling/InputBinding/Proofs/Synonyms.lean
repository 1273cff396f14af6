import InputBinding.Proofs.Exchanges

/-!
Spellings that are read alike. The key of a group may stand before its suffixes or behind its parenthesis,
the suffix of a declared axis behind the axis or behind the key it is joined to, and the pair of a combo with
or without parentheses. Such a spelling may be one step of a longer text, whatever stands before and behind it.
-/

namespace InputBinding

namespace Grammar

open Text

variable {context : Context}

/-- Whether two texts are both malformed or have the same steps. -/
def ReadAlike (context : Context) (kind : Kind) (text other : String) : Prop :=
  match parse context kind text, parse context kind other with
  | .ok read, .ok otherRead => read.steps = otherRead.steps
  | .error _, .error _ => True
  | _, _ => False

def pairBare (first second key : String) : String :=
  first ++ stepDelimiter ++ second ++ "+" ++ key

def pairEnclosed (first second key : String) : String :=
  "(" ++ first ++ stepDelimiter ++ second ++ ")+" ++ key

def keyInside (first second key : String) (firstDirection secondDirection : Direction) : String :=
  "(" ++ ((pairBare first second key).push firstDirection.suffix).push secondDirection.suffix ++ ")"

def keyBehind (first second key : String) (firstDirection secondDirection : Direction) : String :=
  "(" ++ ((first ++ stepDelimiter ++ second).push firstDirection.suffix).push secondDirection.suffix ++ ")+" ++ key

def suffixOnKey (axis key : String) (direction : Direction) : String :=
  axis ++ "+" ++ key.push direction.suffix

def suffixOnAxis (axis key : String) (direction : Direction) : String :=
  axis.push direction.suffix ++ "+" ++ key

def surrounded (before : List String) (text : String) (after : List String) : String :=
  stepDelimiter.intercalate (before ++ text :: after)

/-! The key of a group before its suffixes or behind its parenthesis. -/

theorem cut_inj {char : Char} {start otherStart rest otherRest : List Char} (absent : char ∉ start)
    (otherAbsent : char ∉ otherStart) (same : start ++ char :: rest = otherStart ++ char :: otherRest) :
    start = otherStart ∧ rest = otherRest := by
  have taken {piece : List Char} (absent : char ∉ piece) (after : List Char) :
      (piece ++ char :: after).takeWhile (· != char) = piece := by
    rw [List.takeWhile_append_of_pos fun head member => bne_iff_ne.mpr (ne_of_mem_of_not_mem member absent)]
    simp
  have starts := congrArg (List.takeWhile (· != char)) same
  rw [taken absent, taken otherAbsent] at starts
  subst starts
  exact ⟨rfl, (List.cons.inj (List.append_cancel_left same)).2⟩

theorem enclosed_inj {names otherNames after otherAfter : List Char} {first second otherFirst otherSecond : Direction}
    (closed : ')' ∉ names) (otherClosed : ')' ∉ otherNames)
    (same : enclosed names first second ++ after = enclosed otherNames otherFirst otherSecond ++ otherAfter) :
    names = otherNames ∧ first = otherFirst ∧ second = otherSecond ∧ after = otherAfter := by
  have open_close {body : List Char} (closed : ')' ∉ body) (left right : Direction) :
      ')' ∉ '(' :: body ++ [left.suffix, right.suffix] := by
    have noSuffix (direction : Direction) : ')' ≠ direction.suffix := by cases direction <;> decide
    simp [closed, noSuffix]
  have written (body rest : List Char) (left right : Direction) : enclosed body left right ++ rest =
      ('(' :: body ++ [left.suffix, right.suffix]) ++ ')' :: rest := by simp [enclosed]
  rw [written, written] at same
  obtain ⟨inside, rfl⟩ := cut_inj (open_close closed first second) (open_close otherClosed _ _) same
  obtain ⟨bodies, suffixes⟩ := List.append_inj' inside rfl
  obtain ⟨_, rfl⟩ := List.cons.inj bodies
  simp only [List.cons.injEq, and_true] at suffixes
  have firstRead := congrArg suffixDirection? suffixes.1
  have secondRead := congrArg suffixDirection? suffixes.2
  rw [suffixDirection?_suffix, suffixDirection?_suffix, Option.some_inj] at firstRead secondRead
  exact ⟨rfl, firstRead, secondRead, rfl⟩

theorem Spells.group_of_open {form : Form} {text : List Char} (spells : Spells form text) (opens : '(' ∈ text) :
    ∃ first second firstDirection secondDirection key,
      form = .group first second firstDirection secondDirection key := by
  cases spells with
  | single atom => exact absurd opens (atom.not_reserved '(' rfl)
  | combo left right => cases plus_no_parenthesis left.no_parenthesis right.no_parenthesis '(' opens
  | group => exact ⟨_, _, _, _, _, rfl⟩
  | keyBehind => exact ⟨_, _, _, _, _, rfl⟩
  | keyInside => exact ⟨_, _, _, _, _, rfl⟩

theorem spells_enclosed_iff {names after : List Char} (closed : ')' ∉ names) {first second : String}
    {firstDirection secondDirection firstWritten secondWritten : Direction} {key : Option String} :
    Spells (.group first second firstDirection secondDirection key)
        (enclosed names firstWritten secondWritten ++ after) ↔
      (firstDirection = firstWritten ∧ secondDirection = secondWritten) ∧
        ∃ inner outer, SpellsBody first second inner names ∧ SpellsTail outer after ∧ OneKey inner outer key := by
  rw [spells_group_iff rfl]
  constructor
  · rintro ⟨body, rest, inner, outer, written, spellsBody, spellsTail, oneKey⟩
    obtain ⟨rfl, rfl, rfl, rfl⟩ := enclosed_inj closed spellsBody.no_close written
    exact ⟨⟨rfl, rfl⟩, inner, outer, spellsBody, spellsTail, oneKey⟩
  · rintro ⟨⟨rfl, rfl⟩, inner, outer, spellsBody, spellsTail, oneKey⟩
    exact ⟨names, after, inner, outer, rfl, spellsBody, spellsTail, oneKey⟩

theorem spellsBody_keyed_iff {names keyText : List Char} (noPlus : '+' ∉ names) {first second : String}
    {inner : Option String} :
    SpellsBody first second inner (names ++ '+' :: keyText) ↔
      ∃ key, inner = some key ∧ SpellsPair first second names ∧ SpellsAtom { name := key } keyText := by
  constructor
  · intro spells
    generalize written : names ++ '+' :: keyText = text at spells
    cases spells with
    | pair pair =>
        subst written
        exact absurd (List.mem_append_right _ List.mem_cons_self) pair.no_plus
    | @keyed key pairText rest pair keySpells =>
        obtain ⟨rfl, _, rfl⟩ :=
          (List.append_cons_inj_of_notMem pair.no_plus (keySpells.not_reserved '+' rfl)).mp written.symm
        exact ⟨key, rfl, pair, keySpells⟩
  · rintro ⟨key, rfl, pair, keySpells⟩
    exact .keyed pair keySpells

theorem spellsBody_bare_iff {names : List Char} (noPlus : '+' ∉ names) {first second : String}
    {inner : Option String} :
    SpellsBody first second inner names ↔ inner = none ∧ SpellsPair first second names := by
  constructor
  · intro spells
    cases spells with
    | pair pair => exact ⟨rfl, pair⟩
    | keyed pair keySpells => exact absurd (List.mem_append_right _ List.mem_cons_self) noPlus
  · rintro ⟨rfl, pair⟩
    exact .pair pair

theorem spellsTail_nil_iff {outer : Option String} : SpellsTail outer [] ↔ outer = none := by
  constructor
  · intro spells
    generalize written : [] = text at spells
    cases spells with
    | blank => rfl
    | key => simp at written
  · rintro rfl
    exact .blank Blank.nil

theorem spellsTail_plus_iff {outer : Option String} {keyText : List Char} :
    SpellsTail outer ('+' :: keyText) ↔ ∃ key, outer = some key ∧ SpellsAtom { name := key } keyText := by
  constructor
  · intro spells
    generalize written : '+' :: keyText = text at spells
    cases spells with
    | blank blank =>
        subst written
        exact absurd List.mem_cons_self (blank.not_mem rfl)
    | @key name before rest blank keySpells =>
        cases before with
        | nil =>
            cases written
            exact ⟨name, rfl, keySpells⟩
        | cons head others =>
            cases written
            exact absurd List.mem_cons_self (blank.not_mem rfl)
  · rintro ⟨key, rfl, keySpells⟩
    exact .key Blank.nil keySpells

theorem reads_keyInside_iff {names keyText : List Char} (namesPlain : ∀ char ∈ names, isParenthesis char = false)
    (keyPlain : ∀ char ∈ keyText, isParenthesis char = false) (noPlus : '+' ∉ names) (first second : Direction)
    (step : Step) :
    Reads context (enclosed (names ++ '+' :: keyText) first second) step ↔
      Reads context (enclosed names first second ++ '+' :: keyText) step := by
  have closed : ')' ∉ names := fun member => by cases namesPlain ')' member
  have keyedClosed : ')' ∉ names ++ '+' :: keyText := by
    intro member
    cases plus_no_parenthesis namesPlain keyPlain ')' member
  have alike (form : Form) : Spells form (enclosed (names ++ '+' :: keyText) first second) ↔
      Spells form (enclosed names first second ++ '+' :: keyText) := by
    rw [← List.append_nil (enclosed (names ++ '+' :: keyText) first second)]
    constructor
    · intro spells
      obtain ⟨left, right, leftDirection, rightDirection, key, rfl⟩ := spells.group_of_open List.mem_cons_self
      obtain ⟨directions, inner, outer, body, tail, oneKey⟩ := (spells_enclosed_iff keyedClosed).mp spells
      obtain ⟨name, rfl, pair, keySpells⟩ := (spellsBody_keyed_iff noPlus).mp body
      obtain rfl := spellsTail_nil_iff.mp tail
      rcases oneKey with ⟨impossible, _⟩ | ⟨_, rfl⟩
      · cases impossible
      · exact (spells_enclosed_iff closed).mpr ⟨directions, none, some name, .pair pair,
          spellsTail_plus_iff.mpr ⟨name, rfl, keySpells⟩, .inl ⟨rfl, rfl⟩⟩
    · intro spells
      obtain ⟨left, right, leftDirection, rightDirection, key, rfl⟩ := spells.group_of_open List.mem_cons_self
      obtain ⟨directions, inner, outer, body, tail, oneKey⟩ := (spells_enclosed_iff closed).mp spells
      obtain ⟨rfl, pair⟩ := (spellsBody_bare_iff noPlus).mp body
      obtain ⟨name, rfl, keySpells⟩ := spellsTail_plus_iff.mp tail
      rcases oneKey with ⟨_, rfl⟩ | ⟨impossible, _⟩
      · exact (spells_enclosed_iff keyedClosed).mpr ⟨directions, some name, none, .keyed pair keySpells,
          .blank Blank.nil, .inr ⟨rfl, rfl⟩⟩
      · cases impossible
  simp only [Reads, alike]

/-! The suffix of an axis behind itself or behind the key it is joined to. -/

theorem spellsAtom_suffix_iff {atom : Atom} {text : List Char} {direction : Direction} :
    SpellsAtom atom (text ++ [direction.suffix]) ↔
      ∃ name, atom = ⟨name, some direction⟩ ∧ SpellsAtom { name } text := by
  constructor
  · intro spells
    generalize written : text ++ [direction.suffix] = whole at spells
    cases spells with
    | bare isName padded =>
        have plain := spellsAtom_plain (.bare isName padded) direction.suffix
        have suffix : isSuffix direction.suffix = true := by simp [isSuffix]
        rw [plain (by simp [← written])] at suffix
        cases suffix
    | @suffixed name found gap _ isName gapBlank padded =>
        obtain ⟨before, after, beforeBlank, afterBlank, rfl⟩ := padded
        rcases List.eq_nil_or_concat' after with rfl | ⟨others, last, rfl⟩
        · have ends : text ++ [direction.suffix] = (before ++ name.toList ++ gap) ++ [found.suffix] := by
            simpa using written
          obtain ⟨rfl, suffixes⟩ := List.append_inj' ends rfl
          have read := congrArg suffixDirection? (List.cons.inj suffixes).1
          rw [suffixDirection?_suffix, suffixDirection?_suffix, Option.some_inj] at read
          rw [read]
          exact ⟨name, rfl, .bare isName ⟨before, gap, beforeBlank, gapBlank, rfl⟩⟩
        · have ends : text ++ [direction.suffix] =
              (before ++ (name.toList ++ gap ++ [found.suffix]) ++ others) ++ [last] := by
            simpa using written
          obtain ⟨_, lasts⟩ := List.append_inj' ends rfl
          have blank := afterBlank last (by simp)
          rw [← (List.cons.inj lasts).1, isBlank_suffix] at blank
          cases blank
  · rintro ⟨name, rfl, spells⟩
    obtain ⟨isName, before, after, beforeBlank, afterBlank, rfl⟩ := isName_of_bare spells
    exact .suffixed isName afterBlank ⟨before, [], beforeBlank, Blank.nil, by simp⟩

theorem name_of_spells {name : String} {text : List Char} (spells : SpellsAtom { name } text) :
    name = String.ofList (strip text) := by
  obtain ⟨isName, padded⟩ := isName_of_bare spells
  rw [padded.strip isName.trimmed, String.ofList_toList]

theorem Spells.opens {first second : String} {firstDirection secondDirection : Direction} {key : Option String}
    {text : List Char} (spells : Spells (.group first second firstDirection secondDirection key) text) :
    '(' ∈ text := by
  have opens := (spells_strip.mpr spells).head_open (trimmed_strip text)
  obtain ⟨before, after, _, _, padded⟩ := padded_strip text
  rw [padded]
  exact List.mem_append_left _ (List.mem_append_right _ (List.mem_of_head? opens))

theorem reads_plus_iff {left right : List Char} (leftPlain : ∀ char ∈ left, isParenthesis char = false)
    (rightPlain : ∀ char ∈ right, isParenthesis char = false) (noPlus : '+' ∉ left) {step : Step} :
    Reads context (left ++ '+' :: right) step ↔ ∃ leftAtom rightAtom, SpellsAtom leftAtom left ∧
      SpellsAtom rightAtom right ∧ (Form.combo leftAtom rightAtom).Fits context ∧
        step = (Form.combo leftAtom rightAtom).step context := by
  constructor
  · rintro ⟨form, spells, fits, rfl⟩
    have noOpen : '(' ∉ left ++ '+' :: right := by
      intro member
      cases plus_no_parenthesis leftPlain rightPlain '(' member
    cases form with
    | single atom =>
        cases spells with
        | single spells => exact absurd (List.mem_append_right _ List.mem_cons_self) (spells.not_reserved '+' rfl)
    | combo leftAtom rightAtom =>
        generalize written : left ++ '+' :: right = text at spells
        cases spells with
        | combo leftSpells rightSpells =>
            obtain ⟨rfl, rfl⟩ := cut_inj noPlus (leftSpells.not_reserved '+' rfl) written
            exact ⟨_, _, leftSpells, rightSpells, fits, rfl⟩
    | group first second firstDirection secondDirection key => exact absurd spells.opens noOpen
  · rintro ⟨leftAtom, rightAtom, leftSpells, rightSpells, fits, rfl⟩
    exact ⟨_, .combo leftSpells rightSpells, fits, rfl⟩

theorem permits_iff_declares {names : List String} (declared : context.axisNames = some names) (name : String) :
    context.Permits name ↔ context.Declares name := by
  simp [Context.Permits, Context.Declares, declared]

theorem fits_suffixOnKey_iff {names : List String} (declared : context.axisNames = some names) {left : Atom}
    {key : String} (undeclared : ¬ context.Declares key) (direction : Direction) :
    (Form.combo left ⟨key, some direction⟩).Fits context ↔ left.direction = none ∧ context.Declares left.name := by
  have permits := permits_iff_declares declared
  by_cases bare : left.direction = none
  · by_cases leads : context.Declares left.name
    · simp [Form.Fits, Moves, Balanced, Atom.Suits, Atom.IsAxis, permits, bare, leads, undeclared]
    · simp [Form.Fits, Moves, Balanced, Atom.Suits, Atom.IsAxis, permits, bare, leads, undeclared]
  · simp [Form.Fits, Moves, Balanced, Atom.Suits, Atom.IsAxis, permits, bare, undeclared]

theorem fits_suffixOnAxis_iff {names : List String} (declared : context.axisNames = some names) {axis : String}
    {right : Atom} (direction : Direction) : (Form.combo ⟨axis, some direction⟩ right).Fits context ↔
      right.direction = none ∧ context.Declares axis ∧ ¬ context.Declares right.name := by
  have permits := permits_iff_declares declared
  by_cases bare : right.direction = none
  · simp [Form.Fits, Moves, Balanced, Atom.Suits, Atom.IsAxis, permits, bare]
  · simp [Form.Fits, Moves, Balanced, Atom.Suits, Atom.IsAxis, permits, bare]

def ReadsSteered (context : Context) (axisText keyText : List Char) (direction : Direction) (step : Step) : Prop :=
  ∃ axis key, SpellsAtom { name := axis } axisText ∧ SpellsAtom { name := key } keyText ∧ context.Declares axis ∧
    step = .combo (.axis ⟨axis, direction, context.settings.firstTolerance⟩) (.key key)

theorem step_suffixOnKey {axis key : String} (leads : context.Declares axis) (undeclared : ¬ context.Declares key)
    (direction : Direction) : (Form.combo { name := axis } ⟨key, some direction⟩).step context =
      .combo (.axis ⟨axis, direction, context.settings.firstTolerance⟩) (.key key) := by
  rw [← isAxis_iff_declares] at leads
  rw [← isAxis_eq_false_iff] at undeclared
  simp [Form.step, relocateSuffix, Atom.part, leads, undeclared]

theorem step_suffixOnAxis {axis key : String} (undeclared : ¬ context.Declares key) (direction : Direction) :
    (Form.combo ⟨axis, some direction⟩ { name := key }).step context =
      .combo (.axis ⟨axis, direction, context.settings.firstTolerance⟩) (.key key) := by
  rw [← isAxis_eq_false_iff] at undeclared
  simp [Form.step, relocateSuffix, Atom.part, undeclared]

section Steering

variable {axisText keyText : List Char} {names : List String} {direction : Direction} {step : Step}

theorem undeclared_of_spells (declared : context.axisNames = some names)
    (undeclared : String.ofList (strip keyText) ∉ names) {key : String}
    (spells : SpellsAtom { name := key } keyText) : ¬ context.Declares key := by
  rw [← name_of_spells spells] at undeclared
  simpa [Context.Declares, declared] using undeclared

theorem suffixed_no_parenthesis (plain : ∀ char ∈ axisText, isParenthesis char = false) (direction : Direction) :
    ∀ char ∈ axisText ++ [direction.suffix], isParenthesis char = false := by
  rw [List.forall_mem_append, List.forall_mem_singleton]
  exact ⟨plain, isParenthesis_suffix direction⟩

theorem reads_suffixOnKey_iff (axisPlain : ∀ char ∈ axisText, isParenthesis char = false)
    (keyPlain : ∀ char ∈ keyText, isParenthesis char = false) (noPlus : '+' ∉ axisText)
    (declared : context.axisNames = some names) (undeclared : String.ofList (strip keyText) ∉ names) :
    Reads context (axisText ++ '+' :: (keyText ++ [direction.suffix])) step ↔
      ReadsSteered context axisText keyText direction step := by
  rw [reads_plus_iff axisPlain (suffixed_no_parenthesis keyPlain direction) noPlus]
  constructor
  · rintro ⟨⟨axis, found⟩, rightAtom, axisSpells, suffixed, fits, rfl⟩
    obtain ⟨key, rfl, keySpells⟩ := spellsAtom_suffix_iff.mp suffixed
    have keyless := undeclared_of_spells declared undeclared keySpells
    obtain ⟨rfl, leads⟩ := (fits_suffixOnKey_iff declared keyless direction).mp fits
    exact ⟨axis, key, axisSpells, keySpells, leads, step_suffixOnKey leads keyless direction⟩
  · rintro ⟨axis, key, axisSpells, keySpells, leads, rfl⟩
    have keyless := undeclared_of_spells declared undeclared keySpells
    exact ⟨_, _, axisSpells, spellsAtom_suffix_iff.mpr ⟨key, rfl, keySpells⟩,
      (fits_suffixOnKey_iff declared keyless direction).mpr ⟨rfl, leads⟩,
      (step_suffixOnKey leads keyless direction).symm⟩

theorem reads_suffixOnAxis_iff (axisPlain : ∀ char ∈ axisText, isParenthesis char = false)
    (keyPlain : ∀ char ∈ keyText, isParenthesis char = false) (noPlus : '+' ∉ axisText)
    (declared : context.axisNames = some names) (undeclared : String.ofList (strip keyText) ∉ names) :
    Reads context ((axisText ++ [direction.suffix]) ++ '+' :: keyText) step ↔
      ReadsSteered context axisText keyText direction step := by
  have suffixedNoPlus : '+' ∉ axisText ++ [direction.suffix] := by simp [noPlus, suffix_ne_plus]
  rw [reads_plus_iff (suffixed_no_parenthesis axisPlain direction) keyPlain suffixedNoPlus]
  constructor
  · rintro ⟨leftAtom, ⟨key, found⟩, suffixed, keySpells, fits, rfl⟩
    obtain ⟨axis, rfl, axisSpells⟩ := spellsAtom_suffix_iff.mp suffixed
    obtain ⟨rfl, axisDeclared, keyless⟩ := (fits_suffixOnAxis_iff declared direction).mp fits
    exact ⟨axis, key, axisSpells, keySpells, axisDeclared, step_suffixOnAxis keyless direction⟩
  · rintro ⟨axis, key, axisSpells, keySpells, axisDeclared, rfl⟩
    have keyless := undeclared_of_spells declared undeclared keySpells
    have fits : (Form.combo ⟨axis, some direction⟩ { name := key }).Fits context :=
      (fits_suffixOnAxis_iff declared direction).mpr ⟨rfl, axisDeclared, keyless⟩
    exact ⟨_, _, spellsAtom_suffix_iff.mpr ⟨axis, rfl, axisSpells⟩, keySpells, fits,
      (step_suffixOnAxis keyless direction).symm⟩

end Steering

/-! The pair of a combo with or without parentheses. -/

theorem spellsCombo_bare_iff {pairText keyText : List Char} (pairPlain : ∀ char ∈ pairText, isParenthesis char = false)
    (noPlus : '+' ∉ pairText) (comma : ',' ∈ pairText) {form : ComboForm} :
    SpellsCombo form (pairText ++ '+' :: keyText) ↔ ∃ first second key, form = .pair first second key ∧
      SpellsPair first second pairText ∧ SpellsAtom { name := key } keyText := by
  constructor
  · intro spells
    generalize written : pairText ++ '+' :: keyText = text at spells
    cases spells with
    | names leftSpells rightSpells =>
        obtain ⟨rfl, rfl⟩ := cut_inj noPlus (leftSpells.not_reserved '+' rfl) written
        exact absurd comma (leftSpells.not_reserved ',' rfl)
    | pair pair keySpells =>
        obtain ⟨rfl, rfl⟩ := cut_inj noPlus pair.no_plus written
        exact ⟨_, _, _, rfl, pair, keySpells⟩
    | group pair padded keySpells =>
        obtain ⟨rfl, rfl⟩ := cut_inj noPlus (padded.not_mem rfl (by simp [pair.no_plus])) written
        obtain ⟨before, after, _, _, rfl⟩ := padded
        cases pairPlain '(' (by simp)
  · rintro ⟨first, second, key, rfl, pair, keySpells⟩
    exact .pair pair keySpells

theorem spellsCombo_enclosed_iff {pairText keyText : List Char} (noPlus : '+' ∉ pairText) {form : ComboForm} :
    SpellsCombo form ('(' :: pairText ++ [')'] ++ '+' :: keyText) ↔ ∃ first second key,
      form = .pair first second key ∧ SpellsPair first second pairText ∧ SpellsAtom { name := key } keyText := by
  have noPlusInside : '+' ∉ '(' :: pairText ++ [')'] := by simp [noPlus]
  constructor
  · intro spells
    generalize written : '(' :: pairText ++ [')'] ++ '+' :: keyText = text at spells
    cases spells with
    | names leftSpells rightSpells =>
        obtain ⟨rfl, rfl⟩ := cut_inj noPlusInside (leftSpells.not_reserved '+' rfl) written
        exact absurd (by simp) (leftSpells.not_reserved '(' rfl)
    | pair pair keySpells =>
        obtain ⟨rfl, rfl⟩ := cut_inj noPlusInside pair.no_plus written
        cases pair.no_parenthesis '(' (by simp)
    | group pair padded keySpells =>
        obtain ⟨rfl, rfl⟩ := cut_inj noPlusInside (padded.not_mem rfl (by simp [pair.no_plus])) written
        have same := padded.strip (trimmed_parentheses _)
        rw [(trimmed_parentheses pairText).strip] at same
        obtain ⟨_, inner⟩ := List.cons.inj same
        obtain rfl := List.append_cancel_right inner
        exact ⟨_, _, _, rfl, pair, keySpells⟩
  · rintro ⟨first, second, key, rfl, pair, keySpells⟩
    exact .group pair (padded_self _) keySpells

theorem strip_stripLeft (text : List Char) : strip (stripLeft text) = strip text := by
  have blank : Blank (text.takeWhile isBlank) := List.all_eq_true.mp List.all_takeWhile
  have stripped := strip_padLeft blank (stripLeft text)
  rw [stripLeft, List.takeWhile_append_dropWhile] at stripped
  exact stripped.symm

theorem strip_stripRight (text : List Char) : strip (stripRight text) = strip text := by
  have blank : Blank (text.reverse.takeWhile isBlank).reverse := by
    intro char member
    exact List.all_eq_true.mp List.all_takeWhile char (List.mem_reverse.mp member)
  have stripped := strip_padRight blank (stripRight text)
  rw [stripRight, ← List.reverse_append, List.takeWhile_append_dropWhile, List.reverse_reverse] at stripped
  exact stripped.symm

theorem stripLeft_plus (left right : List Char) :
    stripLeft (left ++ '+' :: right) = stripLeft left ++ '+' :: right := by
  rw [stripLeft, List.dropWhile_append]
  split
  · rename_i blank
    rw [stripLeft, List.isEmpty_iff.mp blank]
    rfl
  · rfl

theorem strip_plus (left right : List Char) :
    strip (left ++ '+' :: right) = stripLeft left ++ '+' :: stripRight right := by
  have backwards : (stripLeft left ++ '+' :: right).reverse = right.reverse ++ '+' :: (stripLeft left).reverse := by
    simp
  have stripped := stripLeft_plus right.reverse (stripLeft left).reverse
  rw [strip, stripLeft_plus, stripRight, backwards]
  rw [stripLeft] at stripped
  rw [stripped]
  simp [stripRight, stripLeft]

theorem SpellsCombo.pad {form : ComboForm} {text before after : List Char} (spells : SpellsCombo form text)
    (beforeBlank : Blank before) (afterBlank : Blank after) : SpellsCombo form (before ++ text ++ after) := by
  cases spells with
  | names left right =>
      have spells := SpellsCombo.names (left.pad beforeBlank Blank.nil) (right.pad Blank.nil afterBlank)
      simpa using spells
  | @pair first second _ pairText keyText pair key =>
      have padded : SpellsPair first second (before ++ pairText) := by
        rw [← spellsPair_strip, strip_padLeft beforeBlank]
        exact spellsPair_strip.mpr pair
      have spells := SpellsCombo.pair padded (key.pad Blank.nil afterBlank)
      simpa using spells
  | group pair padded key =>
      have spells := SpellsCombo.group pair (padded.pad beforeBlank Blank.nil) (key.pad Blank.nil afterBlank)
      simpa using spells

theorem SpellsCombo.core {form : ComboForm} {text : List Char} (spells : SpellsCombo form text) :
    SpellsCombo form (strip text) := by
  have left {atom : Atom} {side : List Char} (spells : SpellsAtom atom side) : SpellsAtom atom (stripLeft side) := by
    rw [← spellsAtom_strip, strip_stripLeft]
    exact spellsAtom_strip.mpr spells
  have right {atom : Atom} {side : List Char} (spells : SpellsAtom atom side) : SpellsAtom atom (stripRight side) := by
    rw [← spellsAtom_strip, strip_stripRight]
    exact spellsAtom_strip.mpr spells
  cases spells with
  | names leftSpells rightSpells =>
      rw [strip_plus]
      exact .names (left leftSpells) (right rightSpells)
  | pair pair key =>
      rw [strip_plus]
      refine .pair ?_ (right key)
      rw [← spellsPair_strip, strip_stripLeft]
      exact spellsPair_strip.mpr pair
  | @group _ _ _ pairText groupText keyText pair padded key =>
      rw [strip_plus]
      have stripped := padded_strip (stripLeft groupText)
      rw [strip_stripLeft, padded.strip (trimmed_parentheses pairText)] at stripped
      exact .group pair stripped (right key)

theorem spellsCombo_strip {form : ComboForm} {text : List Char} :
    SpellsCombo form (strip text) ↔ SpellsCombo form text := by
  refine ⟨fun spells => ?_, SpellsCombo.core⟩
  obtain ⟨before, after, beforeBlank, afterBlank, padded⟩ := padded_strip text
  rw [padded]
  exact spells.pad beforeBlank afterBlank

/-! Texts. -/

theorem readAlike_of_readSteps {kind : Kind} {text other : String}
    (bound : isUnboundText (strip text.toList) = false) (otherBound : isUnboundText (strip other.toList) = false)
    (same : ∀ steps, readSteps context kind (strip text.toList) = .ok steps ↔
      readSteps context kind (strip other.toList) = .ok steps) : ReadAlike context kind text other := by
  rw [ReadAlike, parse_of_bound bound, parse_of_bound otherBound]
  cases read : readSteps context kind (strip text.toList) with
  | ok steps =>
      rw [(same steps).mp read]
      exact rfl
  | error defect =>
      cases otherRead : readSteps context kind (strip other.toList) with
      | ok steps =>
          rw [(same steps).mpr otherRead] at read
          cases read
      | error otherDefect => trivial

theorem bound_of_plus {text : List Char} (plus : '+' ∈ text) : isUnboundText (strip text) = false := by
  obtain ⟨left, right, rfl⟩ := List.append_of_mem plus
  rw [Bool.eq_false_iff, Ne, isUnboundText_iff, strip_plus]
  rintro (empty | unbound)
  · simp at empty
  · have member : '+' ∈ unboundText.toList := by simp [← unbound]
    exact absurd member (by decide)

theorem toList_surrounded (before : List String) (text : String) (after : List String) :
    (surrounded before text after).toList =
      [',', ' '].intercalate (before.map String.toList ++ text.toList :: after.map String.toList) := by
  simp [surrounded, stepDelimiter, String.toList_intercalate]

theorem Exchangeable.readAlike {text other : String} (exchangeable : Exchangeable context text.toList other.toList)
    (plus : '+' ∈ text.toList) (otherPlus : '+' ∈ other.toList) (before after : List String) :
    ReadAlike context .sequence (surrounded before text after) (surrounded before other after) := by
  have bound {piece : String} (plus : '+' ∈ piece.toList) :
      isUnboundText (strip (surrounded before piece after).toList) = false := by
    apply bound_of_plus
    rw [toList_surrounded, intercalate_around]
    exact List.mem_append_left _ (List.mem_append_right _ plus)
  refine readAlike_of_readSteps (bound plus) (bound otherPlus) fun steps => ?_
  rw [readSteps_strip, readSteps_strip, toList_surrounded, toList_surrounded]
  exact exchangeable.readSteps_iff _ _ steps

theorem toList_keyInside (first second key : String) (firstDirection secondDirection : Direction) :
    (keyInside first second key firstDirection secondDirection).toList =
      enclosed ((first.toList ++ ',' :: ' ' :: second.toList) ++ '+' :: key.toList)
        firstDirection secondDirection := by
  simp [keyInside, pairBare, stepDelimiter, enclosed]

theorem toList_keyBehind (first second key : String) (firstDirection secondDirection : Direction) :
    (keyBehind first second key firstDirection secondDirection).toList =
      enclosed (first.toList ++ ',' :: ' ' :: second.toList) firstDirection secondDirection ++ '+' :: key.toList := by
  simp [keyBehind, stepDelimiter, enclosed]

theorem toList_suffixOnKey (axis key : String) (direction : Direction) :
    (suffixOnKey axis key direction).toList = axis.toList ++ '+' :: (key.toList ++ [direction.suffix]) := by
  simp [suffixOnKey]

theorem toList_suffixOnAxis (axis key : String) (direction : Direction) :
    (suffixOnAxis axis key direction).toList = (axis.toList ++ [direction.suffix]) ++ '+' :: key.toList := by
  simp [suffixOnAxis]

theorem toList_pairBare (first second key : String) :
    (pairBare first second key).toList = (first.toList ++ ',' :: ' ' :: second.toList) ++ '+' :: key.toList := by
  simp [pairBare, stepDelimiter]

theorem toList_pairEnclosed (first second key : String) : (pairEnclosed first second key).toList =
    '(' :: (first.toList ++ ',' :: ' ' :: second.toList) ++ [')'] ++ '+' :: key.toList := by
  simp [pairEnclosed, stepDelimiter]

theorem exchangeable_keyInside {names keyText : List Char} (namesPlain : ∀ char ∈ names, isParenthesis char = false)
    (keyPlain : ∀ char ∈ keyText, isParenthesis char = false) (noPlus : '+' ∉ names) (noComma : ',' ∉ keyText)
    (first second : Direction) : Exchangeable context (enclosed (names ++ '+' :: keyText) first second)
      (enclosed names first second ++ '+' :: keyText) := by
  have whole := whole_enclosed (plus_no_parenthesis namesPlain keyPlain) first second
  have keyWhole := whole_plain noComma keyPlain
  have otherWhole := ((whole_enclosed namesPlain first second).append whole_plus).append keyWhole
  rw [List.append_assoc, List.singleton_append] at otherWhole
  exact .of_whole whole otherWhole (reads_keyInside_iff namesPlain keyPlain noPlus first second) (stuck_open _)
    (stuck_open _)

theorem exchangeable_suffix {axisText keyText : List Char} (axisPlain : ∀ char ∈ axisText, isParenthesis char = false)
    (keyPlain : ∀ char ∈ keyText, isParenthesis char = false) (noPlus : '+' ∉ axisText) (noComma : ',' ∉ keyText)
    {names : List String} (declared : context.axisNames = some names)
    (undeclared : String.ofList (strip keyText) ∉ names) (direction : Direction) :
    Exchangeable context (axisText ++ '+' :: (keyText ++ [direction.suffix]))
      ((axisText ++ [direction.suffix]) ++ '+' :: keyText) where
  alike after steps := by
    obtain ⟨others, cut⟩ := cutSteps_behind after
    obtain ⟨pieces, begun, inside, resumed⟩ := resumes_plain axisPlain
    have begunPlain : ∀ char ∈ begun, isParenthesis char = false := by
      intro char member
      exact axisPlain char (inside char member)
    have begunNoPlus : '+' ∉ begun := fun member => noPlus (inside _ member)
    have cutTail {tail : List Char} (whole : Whole tail) (noSpace : (tail ++ behind after).head? ≠ some ' ') :
        cutSteps false (axisText ++ tail ++ behind after) = pieces ++ (begun ++ tail) :: others := by
      rw [List.append_assoc, resumed _ noSpace, cutSteps_whole_behind whole cut, prepend_cons]
    have suffixWhole : Whole [direction.suffix] := by
      apply whole_plain
      · simp [suffix_ne_comma]
      · exact List.forall_mem_singleton.mpr (isParenthesis_suffix direction)
    have plusKey := whole_plus.append (whole_plain noComma keyPlain)
    have onKey (start : List Char) : start ++ '+' :: (keyText ++ [direction.suffix]) =
        start ++ (['+'] ++ keyText ++ [direction.suffix]) := by simp
    have onAxis (start : List Char) : (start ++ [direction.suffix]) ++ '+' :: keyText =
        start ++ ([direction.suffix] ++ (['+'] ++ keyText)) := by simp
    rw [onKey, onAxis, cutTail (plusKey.append suffixWhole) (by simp),
      cutTail (suffixWhole.append plusKey) (by cases direction <;> simp [Direction.suffix]), ← onKey, ← onAxis]
    refine forall₂_reads_append_congr (forall₂_reads_cons_congr others fun step => ?_) pieces steps
    rw [reads_suffixOnKey_iff begunPlain keyPlain begunNoPlus declared undeclared,
      reads_suffixOnAxis_iff begunPlain keyPlain begunNoPlus declared undeclared]
  stuck := stuck_plus axisPlain (suffixed_no_parenthesis keyPlain direction)
  otherStuck := stuck_plus (suffixed_no_parenthesis axisPlain direction) keyPlain

theorem spells_trim {text : String} (isName : IsName (strip text.toList)) :
    SpellsAtom { name := trim text } text.toList := by
  have written : (trim text).toList = strip text.toList := String.toList_ofList
  exact .bare (by rwa [written]) (by rw [written]; exact padded_strip _)

theorem parse_steered {names : List String} (declared : context.axisNames = some names) {axis key : String}
    (axisPlain : ∀ char ∈ axis.toList, isParenthesis char = false)
    (keyPlain : ∀ char ∈ key.toList, isParenthesis char = false) (noPlus : '+' ∉ axis.toList)
    (undeclared : trim key ∉ names) (axisName : IsName (strip axis.toList)) (keyName : IsName (strip key.toList))
    (member : trim axis ∈ names) (direction : Direction) :
    ∃ read, parse context .sequence (suffixOnKey axis key direction) = .ok read ∧
      read.steps = [.combo (.axis ⟨trim axis, direction, context.settings.firstTolerance⟩) (.key (trim key))] := by
  have bound : isUnboundText (strip (suffixOnKey axis key direction).toList) = false :=
    bound_of_plus (by simp [toList_suffixOnKey])
  rw [parse_bound_iff bound, readSteps_strip, readSteps_iff]
  refine ⟨[(suffixOnKey axis key direction).toList], by simp, by simp, .cons ?_ .nil⟩
  rw [toList_suffixOnKey, reads_suffixOnKey_iff axisPlain keyPlain noPlus declared undeclared]
  exact ⟨_, _, spells_trim axisName, spells_trim keyName, ⟨names, declared, member⟩, rfl⟩

theorem readSteps_pair_iff {pairText keyText : List Char} (pairPlain : ∀ char ∈ pairText, isParenthesis char = false)
    (noPlus : '+' ∉ pairText) (comma : ',' ∈ pairText) (steps : List Step) :
    readSteps context .combo (strip (pairText ++ '+' :: keyText)) = .ok steps ↔
      readSteps context .combo (strip ('(' :: pairText ++ [')'] ++ '+' :: keyText)) = .ok steps := by
  simp only [readSteps_combo_iff, spellsCombo_strip, spellsCombo_bare_iff pairPlain noPlus comma,
    spellsCombo_enclosed_iff noPlus]

theorem no_parenthesis_of_plain {text chars : List Char} (plain : ∀ char ∈ '(' :: ')' :: chars, char ∉ text) :
    ∀ char ∈ text, isParenthesis char = false := by
  intro char member
  rw [isParenthesis, Bool.or_eq_false_iff, decide_eq_false_iff_not, decide_eq_false_iff_not]
  refine ⟨?_, ?_⟩
  · rintro rfl
    exact plain '(' (by simp) member
  · rintro rfl
    exact plain ')' (by simp) member

/-- The spellings that the grammar gives for one meaning are read alike. In a sequence they may be texts of
their own or one step among any others; an axis that is declared, with a key that is not, is then read from
either of its spellings. -/
theorem parse_synonyms (context : Context) (first second key : String)
    (direction firstDirection secondDirection : Direction) (before after : List String)
    (firstPlain : ∀ char ∈ ['(', ')', '+'], char ∉ first.toList)
    (secondPlain : ∀ char ∈ ['(', ')', '+'], char ∉ second.toList)
    (keyPlain : ∀ char ∈ ['(', ')', '+', ','], char ∉ key.toList) :
    ReadAlike context .sequence
      (surrounded before (keyInside first second key firstDirection secondDirection) after)
      (surrounded before (keyBehind first second key firstDirection secondDirection) after) ∧
    (∀ names, context.axisNames = some names → trim key ∉ names →
      ReadAlike context .sequence (surrounded before (suffixOnKey first key direction) after)
        (surrounded before (suffixOnAxis first key direction) after) ∧
      (IsName (strip first.toList) → IsName (strip key.toList) → trim first ∈ names →
        ∃ read, parse context .sequence (suffixOnKey first key direction) = .ok read ∧
          read.steps = [.combo (.axis ⟨trim first, direction, context.settings.firstTolerance⟩) (.key (trim key))])) ∧
    ReadAlike context .combo (pairBare first second key) (pairEnclosed first second key) := by
  have firstParentheses := no_parenthesis_of_plain firstPlain
  have keyParentheses := no_parenthesis_of_plain keyPlain
  have pairParentheses : ∀ char ∈ first.toList ++ ',' :: ' ' :: second.toList, isParenthesis char = false := by
    rw [List.forall_mem_append, List.forall_mem_cons, List.forall_mem_cons]
    exact ⟨firstParentheses, rfl, rfl, no_parenthesis_of_plain secondPlain⟩
  have firstPlus : '+' ∉ first.toList := firstPlain '+' (by simp)
  have pairPlus : '+' ∉ first.toList ++ ',' :: ' ' :: second.toList := by
    simp [firstPlus, secondPlain '+' (by simp)]
  have keyComma : ',' ∉ key.toList := keyPlain ',' (by simp)
  refine ⟨?_, fun names declared undeclared => ⟨?_, fun firstName keyName member => ?_⟩, ?_⟩
  · apply Exchangeable.readAlike
    · rw [toList_keyInside, toList_keyBehind]
      exact exchangeable_keyInside pairParentheses keyParentheses pairPlus keyComma _ _
    · simp [toList_keyInside, enclosed]
    · simp [toList_keyBehind]
  · apply Exchangeable.readAlike
    · rw [toList_suffixOnKey, toList_suffixOnAxis]
      exact exchangeable_suffix firstParentheses keyParentheses firstPlus keyComma declared undeclared direction
    · simp [toList_suffixOnKey]
    · simp [toList_suffixOnAxis]
  · exact parse_steered declared firstParentheses keyParentheses firstPlus undeclared firstName keyName member
      direction
  · apply readAlike_of_readSteps
    · exact bound_of_plus (by simp [toList_pairBare])
    · exact bound_of_plus (by simp [toList_pairEnclosed])
    · intro steps
      rw [toList_pairBare, toList_pairEnclosed]
      exact readSteps_pair_iff pairParentheses pairPlus (by simp) steps

theorem parse_synonyms_gamepad :
    ReadAlike gamepad .sequence "Fire, (X, Y+Jump<=)" "Fire, (X, Y<=)+Jump" ∧
    ReadAlike gamepad .sequence "Fire, X+Jump>" "Fire, X>+Jump" ∧
    (∃ read, parse gamepad .sequence "X+Jump>" = .ok read ∧
      read.steps = [.combo (.axis ⟨"X", .positive, gamepad.settings.firstTolerance⟩) (.key "Jump")]) ∧
    ReadAlike gamepad .combo "X, Y+Jump" "(X, Y)+Jump" := by
  obtain ⟨grouped, suffixed, paired⟩ := parse_synonyms gamepad "X" "Y" "Jump" .positive .negative .neutral ["Fire"] []
    (by simp) (by simp) (by simp)
  obtain ⟨steered, read⟩ := suffixed ["X", "Y"] rfl (by decide)
  exact ⟨grouped, steered, read (by decide) (by decide) (by decide), paired⟩

end Grammar

end InputBinding
