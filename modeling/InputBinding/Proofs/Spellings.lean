import InputBinding.Proofs.Canonical

/-!
The grammar of sequence texts as a relation, apart from how they are read. A fragment is a name, with
or without a suffix, two of these joined by a plus, or a group of two names with two suffixes and
perhaps a key; blanks may stand around each name. Which of these are allowed depends on the names
that are declared as axes.
-/

namespace InputBinding

namespace Grammar

open Text

def Blank (text : List Char) : Prop :=
  ∀ char ∈ text, isBlank char = true

instance (text : List Char) : Decidable (Blank text) :=
  List.decidableBAll (fun char => isBlank char = true) text

def Padded (core text : List Char) : Prop :=
  ∃ before after, Blank before ∧ Blank after ∧ text = before ++ core ++ after

structure IsName (name : List Char) : Prop where
  nonempty : name ≠ []
  plain : ∀ char ∈ [',', '+', '(', ')', '<', '>', '='], char ∉ name
  trimmed : Trimmed name

theorem trimmed_iff {text : List Char} :
    (text.head?.all fun char => !isBlank char) = true ∧ (text.getLast?.all fun char => !isBlank char) = true ↔
      Trimmed text := by
  simp only [Option.all_eq_true, Bool.not_eq_true']
  exact ⟨fun ends => ⟨ends.1, ends.2⟩, fun trimmed => ⟨trimmed.first, trimmed.last⟩⟩

instance (text : List Char) : Decidable (Trimmed text) :=
  decidable_of_iff _ trimmed_iff

instance (name : List Char) : Decidable (IsName name) :=
  -- The instance that search finds may be the one that tries every character there is.
  letI : Decidable (∀ char ∈ [',', '+', '(', ')', '<', '>', '='], char ∉ name) := List.decidableBAll (· ∉ name) _
  decidable_of_iff (name ≠ [] ∧ (∀ char ∈ [',', '+', '(', ')', '<', '>', '='], char ∉ name) ∧ Trimmed name)
    ⟨fun parts => ⟨parts.1, parts.2.1, parts.2.2⟩, fun isName => ⟨isName.nonempty, isName.plain, isName.trimmed⟩⟩

inductive SpellsAtom : Atom → List Char → Prop
  | bare {name : String} {text : List Char} : IsName name.toList → Padded name.toList text →
      SpellsAtom { name } text
  | suffixed {name : String} {direction : Direction} {gap text : List Char} : IsName name.toList →
      Blank gap → Padded (name.toList ++ gap ++ [direction.suffix]) text →
      SpellsAtom { name, direction := some direction } text

inductive Form
  | single (atom : Atom)
  | combo (left right : Atom)
  | group (first second : String) (firstDirection secondDirection : Direction) (key : Option String)
deriving DecidableEq, Repr

def enclosed (names : List Char) (first second : Direction) : List Char :=
  '(' :: names ++ [first.suffix, second.suffix] ++ [')']

inductive Spells : Form → List Char → Prop
  | single {atom : Atom} {text : List Char} : SpellsAtom atom text → Spells (.single atom) text
  | combo {left right : Atom} {leftText rightText : List Char} : SpellsAtom left leftText →
      SpellsAtom right rightText → Spells (.combo left right) (leftText ++ '+' :: rightText)
  | group {first second : String} {firstText secondText text : List Char}
      {firstDirection secondDirection : Direction} :
      SpellsAtom { name := first } firstText → SpellsAtom { name := second } secondText →
      Padded (enclosed (firstText ++ ',' :: ' ' :: secondText) firstDirection secondDirection) text →
      Spells (.group first second firstDirection secondDirection none) text
  | keyBehind {first second key : String} {firstText secondText keyText text : List Char}
      {firstDirection secondDirection : Direction} :
      SpellsAtom { name := first } firstText → SpellsAtom { name := second } secondText →
      Padded (enclosed (firstText ++ ',' :: ' ' :: secondText) firstDirection secondDirection) text →
      SpellsAtom { name := key } keyText →
      Spells (.group first second firstDirection secondDirection (some key)) (text ++ '+' :: keyText)
  | keyInside {first second key : String} {firstText secondText keyText text : List Char}
      {firstDirection secondDirection : Direction} :
      SpellsAtom { name := first } firstText → SpellsAtom { name := second } secondText →
      SpellsAtom { name := key } keyText →
      Padded (enclosed (firstText ++ ',' :: ' ' :: secondText ++ '+' :: keyText)
        firstDirection secondDirection) text →
      Spells (.group first second firstDirection secondDirection (some key)) text

def Context.Declares (context : Context) (name : String) : Prop :=
  ∃ names, context.axisNames = some names ∧ name ∈ names

def Context.Permits (context : Context) (name : String) : Prop :=
  ∀ names, context.axisNames = some names → name ∈ names

theorem isAxis_iff_declares {context : Context} {name : String} :
    context.isAxis name = true ↔ context.Declares name := by
  unfold Context.isAxis Context.Declares
  cases context.axisNames <;> simp

theorem isAxis_eq_false_iff {context : Context} {name : String} :
    context.isAxis name = false ↔ ¬ context.Declares name := by
  rw [← isAxis_iff_declares, Bool.not_eq_true]

theorem mayBeAxis_iff_permits {context : Context} {name : String} :
    context.mayBeAxis name = true ↔ context.Permits name := by
  unfold Context.mayBeAxis Context.Permits
  cases context.axisNames <;> simp

instance (context : Context) (name : String) : Decidable (context.Declares name) :=
  decidable_of_iff _ isAxis_iff_declares

instance (context : Context) (name : String) : Decidable (context.Permits name) :=
  decidable_of_iff _ mayBeAxis_iff_permits

def Atom.Suits (context : Context) (atom : Atom) : Prop :=
  atom.direction ≠ none → context.Permits atom.name

instance (context : Context) (atom : Atom) : Decidable (atom.Suits context) :=
  inferInstanceAs (Decidable (_ → _))

def Atom.IsAxis (context : Context) (atom : Atom) : Prop :=
  atom.direction ≠ none ∨ context.Declares atom.name

instance (context : Context) (atom : Atom) : Decidable (atom.IsAxis context) :=
  inferInstanceAs (Decidable (_ ∨ _))

/-- Whether a suffix behind the right name belongs to the left one: a declared axis without a suffix
beside a name that is no declared axis. -/
def Moves (context : Context) (left right : Atom) : Prop :=
  right.direction ≠ none ∧ left.direction = none ∧ context.Declares left.name ∧
    ¬ context.Declares right.name

instance (context : Context) (left right : Atom) : Decidable (Moves context left right) :=
  inferInstanceAs (Decidable (_ ∧ _))

def Balanced (context : Context) (left right : Atom) : Prop :=
  left.Suits context ∧ right.Suits context ∧ ¬ (left.IsAxis context ∧ right.IsAxis context)

instance (context : Context) (left right : Atom) : Decidable (Balanced context left right) :=
  inferInstanceAs (Decidable (_ ∧ _))

/-- The key of a group, if it has one, is no declared axis. -/
def Reserves (context : Context) (key : Option String) : Prop :=
  ∀ name, key = some name → ¬ context.Declares name

instance (context : Context) (key : Option String) : Decidable (Reserves context key) :=
  inferInstanceAs (Decidable (∀ name, key = some name → ¬ context.Declares name))

/-- What the declared axes ask of a fragment. -/
def Form.Fits (context : Context) : Form → Prop
  | .single atom => atom.Suits context
  | .combo left right =>
      (Moves context left right ∧
        Balanced context { left with direction := right.direction } { right with direction := none }) ∨
      (¬ Moves context left right ∧ Balanced context left right)
  | .group first second _ _ key => context.Permits first ∧ context.Permits second ∧ Reserves context key

instance (context : Context) (form : Form) : Decidable (form.Fits context) :=
  match form with
  | .single _ => inferInstanceAs (Decidable (Atom.Suits _ _))
  | .combo _ _ => inferInstanceAs (Decidable (_ ∨ _))
  | .group _ _ _ _ _ => inferInstanceAs (Decidable (_ ∧ _))

/-! Blanks. -/

theorem Blank.nil : Blank [] := by
  intro char impossible
  cases impossible

theorem Blank.append {left right : List Char} (leftBlank : Blank left) (rightBlank : Blank right) :
    Blank (left ++ right) := by
  intro char member
  rcases List.mem_append.mp member with member | member
  · exact leftBlank char member
  · exact rightBlank char member

theorem Blank.not_mem {text : List Char} (blank : Blank text) {char : Char} (ink : isBlank char = false) :
    char ∉ text := by
  intro member
  rw [blank char member] at ink
  cases ink

theorem padded_strip (text : List Char) : Padded (strip text) text := by
  refine ⟨text.takeWhile isBlank, ((stripLeft text).reverse.takeWhile isBlank).reverse, ?_, ?_, ?_⟩
  · exact List.all_eq_true.mp List.all_takeWhile
  · intro char member
    exact List.all_eq_true.mp List.all_takeWhile char (List.mem_reverse.mp member)
  · have right : strip text ++ ((stripLeft text).reverse.takeWhile isBlank).reverse = stripLeft text := by
      rw [strip, stripRight, ← List.reverse_append, List.takeWhile_append_dropWhile, List.reverse_reverse]
    rw [List.append_assoc, right]
    exact List.takeWhile_append_dropWhile.symm

theorem stripLeft_append {before : List Char} (blank : Blank before) (rest : List Char) :
    stripLeft (before ++ rest) = stripLeft rest :=
  List.dropWhile_append_of_pos blank

theorem stripRight_append {after : List Char} (blank : Blank after) (start : List Char) :
    stripRight (start ++ after) = stripRight start := by
  unfold stripRight
  rw [List.reverse_append, List.dropWhile_append_of_pos fun char member => blank char (List.mem_reverse.mp member)]

theorem Padded.strip {core text : List Char} (padded : Padded core text) (trimmed : Trimmed core) :
    strip text = core := by
  obtain ⟨before, after, beforeBlank, afterBlank, rfl⟩ := padded
  rw [Text.strip, List.append_assoc, stripLeft_append beforeBlank]
  cases core with
  | nil =>
      rw [List.nil_append, ← List.append_nil after, stripLeft_append afterBlank]
      rfl
  | cons first others =>
      have ink : stripLeft (first :: others ++ after) = first :: others ++ after := by
        apply stripLeft_eq
        intro char starts
        exact trimmed.first char starts
      rw [ink, stripRight_append afterBlank, stripRight_eq trimmed.last]

theorem Padded.pad {core text before after : List Char} (padded : Padded core text)
    (beforeBlank : Blank before) (afterBlank : Blank after) : Padded core (before ++ text ++ after) := by
  obtain ⟨first, last, firstBlank, lastBlank, rfl⟩ := padded
  exact ⟨before ++ first, last ++ after, beforeBlank.append firstBlank, lastBlank.append afterBlank, by simp⟩

theorem padded_self (text : List Char) : Padded text text :=
  ⟨[], [], Blank.nil, Blank.nil, by simp⟩

theorem strip_between {left right leftText rightText : List Char} (leftPadded : Padded left leftText)
    (leftTrimmed : Trimmed left) (leftSome : left ≠ []) (rightPadded : Padded right rightText)
    (rightTrimmed : Trimmed right) (rightSome : right ≠ []) (middle : List Char) :
    ∃ leftEnd rightStart, Blank leftEnd ∧ Blank rightStart ∧
      strip (leftText ++ middle ++ rightText) = (left ++ leftEnd) ++ middle ++ (rightStart ++ right) := by
  obtain ⟨before, leftEnd, beforeBlank, leftEndBlank, rfl⟩ := leftPadded
  obtain ⟨rightStart, after, rightStartBlank, afterBlank, rfl⟩ := rightPadded
  refine ⟨leftEnd, rightStart, leftEndBlank, rightStartBlank, ?_⟩
  have trimmed := trimmed_join leftTrimmed leftSome rightTrimmed rightSome (leftEnd ++ middle ++ rightStart)
  have padded : Padded (left ++ (leftEnd ++ middle ++ rightStart) ++ right)
      (before ++ left ++ leftEnd ++ middle ++ (rightStart ++ right ++ after)) :=
    ⟨before, after, beforeBlank, afterBlank, by simp⟩
  rw [padded.strip trimmed]
  simp

/-! Names and atoms. -/

theorem isName_iff {name : List Char} : IsName name ↔ Clean name := by
  constructor
  · intro isName
    refine ⟨isName.nonempty, ?_, isName.trimmed⟩
    intro char member
    have different (special : Char) (listed : special ∈ [',', '+', '(', ')', '<', '>', '=']) :
        char ≠ special := by
      rintro rfl
      exact isName.plain char listed member
    simp [isSuffix, suffixDirection?, isReserved, different]
  · intro clean
    refine ⟨clean.nonempty, ?_, clean.trimmed⟩
    intro char listed
    apply clean.not_mem
    simp only [List.mem_cons, List.not_mem_nil, or_false] at listed
    rcases listed with rfl | rfl | rfl | rfl | rfl | rfl | rfl <;> rfl

theorem SpellsAtom.isName {atom : Atom} {text : List Char} (spells : SpellsAtom atom text) :
    IsName atom.name.toList := by
  cases spells with
  | bare isName _ => exact isName
  | suffixed isName _ _ => exact isName

theorem SpellsAtom.pad {atom : Atom} {text before after : List Char} (spells : SpellsAtom atom text)
    (beforeBlank : Blank before) (afterBlank : Blank after) :
    SpellsAtom atom (before ++ text ++ after) := by
  cases spells with
  | bare isName padded => exact .bare isName (padded.pad beforeBlank afterBlank)
  | suffixed isName gap padded => exact .suffixed isName gap (padded.pad beforeBlank afterBlank)

theorem IsName.trimmed_suffixed {name gap : List Char} (isName : IsName name) (direction : Direction) :
    Trimmed (name ++ gap ++ [direction.suffix]) :=
  trimmed_join isName.trimmed isName.nonempty (trimmed_singleton (isBlank_suffix direction)) (by simp) gap

theorem SpellsAtom.core {atom : Atom} {text : List Char} (spells : SpellsAtom atom text) :
    Trimmed (strip text) ∧ strip text ≠ [] ∧ SpellsAtom atom (strip text) := by
  refine ⟨trimmed_strip text, ?_⟩
  cases spells with
  | bare isName padded =>
      rw [padded.strip isName.trimmed]
      exact ⟨isName.nonempty, .bare isName (padded_self _)⟩
  | suffixed isName gap padded =>
      rw [padded.strip (isName.trimmed_suffixed _)]
      exact ⟨by simp, .suffixed isName gap (padded_self _)⟩

theorem spellsAtom_strip {atom : Atom} {text : List Char} :
    SpellsAtom atom (strip text) ↔ SpellsAtom atom text := by
  constructor
  · intro spells
    obtain ⟨before, after, beforeBlank, afterBlank, written⟩ := padded_strip text
    rw [written]
    exact spells.pad beforeBlank afterBlank
  · intro spells
    exact spells.core.2.2

theorem isBlank_reserved {char : Char} (reserved : isReserved char = true) : isBlank char = false := by
  simp only [isReserved, Bool.or_eq_true, decide_eq_true_eq] at reserved
  rcases reserved with ((rfl | rfl) | rfl) | rfl <;> rfl

theorem Padded.not_mem {core text : List Char} (padded : Padded core text) {char : Char}
    (ink : isBlank char = false) (absent : char ∉ core) : char ∉ text := by
  obtain ⟨before, after, beforeBlank, afterBlank, rfl⟩ := padded
  simp [beforeBlank.not_mem ink, afterBlank.not_mem ink, absent]

theorem SpellsAtom.not_reserved {atom : Atom} {text : List Char} (spells : SpellsAtom atom text)
    (char : Char) (reserved : isReserved char = true) : char ∉ text := by
  have ink := isBlank_reserved reserved
  have absent := (isName_iff.mp spells.isName).not_reserved char reserved
  cases spells with
  | bare _ padded => exact padded.not_mem ink absent
  | @suffixed _ direction gap _ _ gapBlank padded =>
      apply padded.not_mem ink
      have noSuffix : char ≠ direction.suffix := by
        rintro rfl
        rw [isReserved_suffix] at reserved
        cases reserved
      simp [absent, gapBlank.not_mem ink, noSuffix]

/-! Fragments. -/

theorem trimmed_parentheses (inner : List Char) : Trimmed ('(' :: inner ++ [')']) := by
  have opens : Trimmed ['('] := trimmed_singleton (by decide)
  have closes : Trimmed [')'] := trimmed_singleton (by decide)
  exact trimmed_join opens (by simp) closes (by simp) inner

theorem trimmed_enclosed (names : List Char) (first second : Direction) :
    Trimmed (enclosed names first second) :=
  trimmed_parentheses (names ++ [first.suffix, second.suffix])

theorem enclosed_nonempty (names : List Char) (first second : Direction) :
    enclosed names first second ≠ [] := List.cons_ne_nil _ _

theorem Spells.pad {form : Form} {text before after : List Char} (spells : Spells form text)
    (beforeBlank : Blank before) (afterBlank : Blank after) : Spells form (before ++ text ++ after) := by
  cases spells with
  | single atom => exact .single (atom.pad beforeBlank afterBlank)
  | combo left right =>
      have spells := Spells.combo (left.pad beforeBlank Blank.nil) (right.pad Blank.nil afterBlank)
      simpa using spells
  | group first second padded => exact .group first second (padded.pad beforeBlank afterBlank)
  | keyBehind first second padded key =>
      have spells := Spells.keyBehind first second (padded.pad beforeBlank Blank.nil) (key.pad Blank.nil afterBlank)
      simpa using spells
  | keyInside first second key padded => exact .keyInside first second key (padded.pad beforeBlank afterBlank)

theorem Spells.core {form : Form} {text : List Char} (spells : Spells form text) :
    strip text ≠ [] ∧ Spells form (strip text) := by
  cases spells with
  | single atom => exact ⟨atom.core.2.1, .single atom.core.2.2⟩
  | @combo _ _ leftText rightText left right =>
      obtain ⟨leftTrimmed, leftSome, leftSpells⟩ := left.core
      obtain ⟨rightTrimmed, rightSome, rightSpells⟩ := right.core
      obtain ⟨leftEnd, rightStart, leftEndBlank, rightStartBlank, stripped⟩ :=
        strip_between (padded_strip leftText) leftTrimmed leftSome (padded_strip rightText) rightTrimmed
          rightSome ['+']
      rw [List.append_assoc, List.singleton_append] at stripped
      rw [stripped]
      refine ⟨by simp, ?_⟩
      have spells := Spells.combo (leftSpells.pad Blank.nil leftEndBlank) (rightSpells.pad rightStartBlank Blank.nil)
      simpa using spells
  | group first second padded =>
      rw [padded.strip (trimmed_enclosed _ _ _)]
      exact ⟨enclosed_nonempty _ _ _, .group first second (padded_self _)⟩
  | @keyBehind _ _ _ firstText secondText keyText text firstDirection secondDirection first second padded key =>
      obtain ⟨keyTrimmed, keySome, keySpells⟩ := key.core
      obtain ⟨leftEnd, rightStart, leftEndBlank, rightStartBlank, stripped⟩ :=
        strip_between padded (trimmed_enclosed _ _ _) (enclosed_nonempty _ _ _) (padded_strip keyText)
          keyTrimmed keySome ['+']
      rw [List.append_assoc, List.singleton_append] at stripped
      rw [stripped]
      refine ⟨by simp [enclosed], ?_⟩
      have group := (padded_self (enclosed (firstText ++ ',' :: ' ' :: secondText)
        firstDirection secondDirection)).pad Blank.nil leftEndBlank
      have spells := Spells.keyBehind first second group (keySpells.pad rightStartBlank Blank.nil)
      simpa using spells
  | keyInside first second key padded =>
      rw [padded.strip (trimmed_enclosed _ _ _)]
      exact ⟨enclosed_nonempty _ _ _, .keyInside first second key (padded_self _)⟩

theorem spells_strip {form : Form} {text : List Char} : Spells form (strip text) ↔ Spells form text := by
  constructor
  · intro spells
    obtain ⟨before, after, beforeBlank, afterBlank, written⟩ := padded_strip text
    rw [written]
    exact spells.pad beforeBlank afterBlank
  · intro spells
    exact spells.core.2

/-! Fragments are whole pieces: a text that joins them is cut into them again. -/

theorem Whole.append {left right : List Char} (leftWhole : Whole left) (rightWhole : Whole right) :
    Whole (left ++ right) := by
  intro rest
  obtain ⟨leftCuts, leftGroups⟩ := leftWhole (right ++ rest)
  obtain ⟨rightCuts, rightGroups⟩ := rightWhole rest
  rw [List.append_assoc, leftCuts, leftGroups, rightCuts, rightGroups]
  refine ⟨?_, rfl⟩
  simp [prepend]

theorem Blank.whole {text : List Char} (blank : Blank text) : Whole text := by
  apply whole_plain (blank.not_mem rfl)
  intro char member
  rw [Bool.eq_false_iff]
  intro parenthesis
  exact blank.not_mem (isBlank_reserved (isParenthesis_reserved parenthesis)) member

theorem Padded.whole {core text : List Char} (padded : Padded core text) (whole : Whole core) :
    Whole text := by
  obtain ⟨before, after, beforeBlank, afterBlank, rfl⟩ := padded
  exact (beforeBlank.whole.append whole).append afterBlank.whole

theorem SpellsAtom.no_parenthesis {atom : Atom} {text : List Char} (spells : SpellsAtom atom text) :
    ∀ char ∈ text, isParenthesis char = false :=
  Grammar.no_parenthesis spells.not_reserved

theorem SpellsAtom.whole {atom : Atom} {text : List Char} (spells : SpellsAtom atom text) : Whole text :=
  whole_plain (spells.not_reserved ',' rfl) spells.no_parenthesis

theorem whole_plus : Whole ['+'] := whole_plain (by decide) (List.forall_mem_singleton.mpr rfl)

theorem isParenthesis_suffix (direction : Direction) : isParenthesis direction.suffix = false := by
  cases direction <;> rfl

theorem enclosed_inside {names : List Char} (inner : ∀ char ∈ names, isParenthesis char = false)
    (first second : Direction) :
    ∀ char ∈ names ++ [first.suffix, second.suffix], isParenthesis char = false := by
  intro char member
  rcases List.mem_append.mp member with member | member
  · exact inner char member
  · simp only [List.mem_cons, List.not_mem_nil, or_false] at member
    rcases member with rfl | rfl
    · exact isParenthesis_suffix first
    · exact isParenthesis_suffix second

theorem whole_enclosed {names : List Char} (inner : ∀ char ∈ names, isParenthesis char = false)
    (first second : Direction) : Whole (enclosed names first second) := by
  have noComma : ',' ∉ ([] : List Char) := by simp
  have whole := whole_group (enclosed_inside inner first second) noComma (by simp)
  simpa [enclosed] using whole

theorem pair_no_parenthesis {first second : Atom} {firstText secondText : List Char}
    (firstSpells : SpellsAtom first firstText) (secondSpells : SpellsAtom second secondText) :
    ∀ char ∈ firstText ++ ',' :: ' ' :: secondText, isParenthesis char = false := by
  intro char member
  simp only [List.mem_append, List.mem_cons] at member
  rcases member with member | rfl | rfl | member
  · exact firstSpells.no_parenthesis char member
  · rfl
  · rfl
  · exact secondSpells.no_parenthesis char member

theorem plus_no_parenthesis {left right : List Char} (leftPlain : ∀ char ∈ left, isParenthesis char = false)
    (rightPlain : ∀ char ∈ right, isParenthesis char = false) :
    ∀ char ∈ left ++ '+' :: right, isParenthesis char = false := by
  intro char member
  rcases List.mem_append.mp member with member | member
  · exact leftPlain char member
  · rcases List.mem_cons.mp member with rfl | member
    · rfl
    · exact rightPlain char member

theorem Spells.whole {form : Form} {text : List Char} (spells : Spells form text) : Whole text := by
  cases spells with
  | single atom => exact atom.whole
  | combo left right => simpa using (left.whole.append whole_plus).append right.whole
  | group first second padded => exact padded.whole (whole_enclosed (pair_no_parenthesis first second) _ _)
  | keyBehind first second padded key =>
      have group := padded.whole (whole_enclosed (pair_no_parenthesis first second) _ _)
      simpa using (group.append whole_plus).append key.whole
  | keyInside first second key padded =>
      have names := plus_no_parenthesis (pair_no_parenthesis first second) key.no_parenthesis
      exact padded.whole (whole_enclosed names _ _)

end Grammar

end InputBinding
