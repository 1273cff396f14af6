import InputBinding.Descriptor.Grammar

/-!
Names in descriptor texts. A name that has been read is not empty, has no blanks at its ends and no
character that structures a text, and is read again as itself, with or without a suffix behind it.
-/

namespace InputBinding

namespace Text

structure Trimmed (text : List Char) : Prop where
  first : ∀ char, text.head? = some char → isBlank char = false
  last : ∀ char, text.getLast? = some char → isBlank char = false

theorem stripLeft_eq {text : List Char}
    (first : ∀ char, text.head? = some char → isBlank char = false) :
    stripLeft text = text := by
  cases text with
  | nil => rfl
  | cons char rest =>
      have ink := first char rfl
      simp [stripLeft, ink]

theorem stripRight_eq {text : List Char}
    (last : ∀ char, text.getLast? = some char → isBlank char = false) :
    stripRight text = text := by
  have reversed : stripLeft text.reverse = text.reverse := by
    apply stripLeft_eq
    intro char ends
    rw [List.head?_reverse] at ends
    exact last char ends
  unfold stripRight
  unfold stripLeft at reversed
  rw [reversed, List.reverse_reverse]

theorem Trimmed.strip {text : List Char} (trimmed : Trimmed text) : strip text = text := by
  unfold Text.strip
  rw [stripLeft_eq trimmed.first, stripRight_eq trimmed.last]

theorem head?_stripLeft {text : List Char} {char : Char} (starts : (stripLeft text).head? = some char) :
    isBlank char = false := by
  have ink := List.head?_dropWhile_not isBlank text
  unfold stripLeft at starts
  rw [starts] at ink
  exact ink

theorem getLast?_stripRight {text : List Char} {char : Char}
    (ends : (stripRight text).getLast? = some char) :
    isBlank char = false := by
  unfold stripRight at ends
  rw [List.getLast?_reverse] at ends
  exact head?_stripLeft ends

theorem stripRight_starts (text : List Char) : stripRight text <+: text := by
  unfold stripRight
  rw [← List.reverse_suffix, List.reverse_reverse]
  exact List.dropWhile_suffix isBlank

theorem head?_extends {start text : List Char} {char : Char} (isPrefix : start <+: text)
    (starts : start.head? = some char) : text.head? = some char := by
  obtain ⟨rest, rfl⟩ := isPrefix
  simp [starts]

theorem trimmed_strip (text : List Char) : Trimmed (strip text) where
  first _ starts := head?_stripLeft (head?_extends (stripRight_starts (stripLeft text)) starts)
  last _ ends := getLast?_stripRight ends

end Text

namespace Grammar

open Text

structure Clean (name : List Char) : Prop where
  nonempty : name ≠ []
  plain : ∀ char ∈ name, isSuffix char = false ∧ isReserved char = false
  trimmed : Trimmed name

@[simp] theorem suffixDirection?_suffix (direction : Direction) :
    suffixDirection? direction.suffix = some direction := by
  cases direction <;> rfl

theorem isBlank_suffix (direction : Direction) : isBlank direction.suffix = false := by
  cases direction <;> decide

theorem trimmed_splitSuffix {text : List Char} (trimmed : Trimmed text) :
    Trimmed (splitSuffix text).1 := by
  unfold splitSuffix
  split
  · exact trimmed
  · split
    · exact trimmed
    · constructor
      · intro char starts
        have inText := (stripRight_starts text.dropLast).trans (List.dropLast_prefix text)
        exact trimmed.first char (head?_extends inText starts)
      · intro char ends
        exact getLast?_stripRight ends

theorem readAtom_clean {token : List Char} {atom : Atom} (read : readAtom token = .ok atom) :
    Clean atom.name.toList := by
  unfold readAtom at read
  have trimmed := trimmed_splitSuffix (trimmed_strip token)
  rcases splitSuffix (strip token) with ⟨name, direction⟩
  dsimp only at read trimmed
  split at read
  · cases read
  · split at read
    · cases read
    · rename_i nonempty
      split at read
      · rename_i plain
        cases read
        rw [String.toList_ofList]
        constructor
        · simpa using nonempty
        · intro char member
          have neither := List.find?_eq_none.mp plain char member
          simpa using neither
        · exact trimmed
      · split at read
        · cases read
        · cases read

theorem readAtom_bare {token : List Char} {atom : Atom} (read : readAtom token = .ok atom)
    (bare : atom.direction = none) : atom.name.toList = strip token := by
  have whole : ∀ text : List Char, (splitSuffix text).2 = none → (splitSuffix text).1 = text := by
    intro text noSuffix
    unfold splitSuffix at noSuffix ⊢
    split at noSuffix
    · rfl
    · split at noSuffix
      · rfl
      · cases noSuffix
  have same := whole (strip token)
  unfold readAtom at read
  rcases splitSuffix (strip token) with ⟨name, direction⟩
  dsimp only at read same
  split at read
  · cases read
  · split at read
    · cases read
    · split at read
      · cases read
        rw [String.toList_ofList]
        exact same bare
      · split at read
        · cases read
        · cases read

def suffixed (name : List Char) : Option Direction → List Char
  | none => name
  | some direction => name ++ [direction.suffix]

variable {name : List Char}

theorem Clean.trimmed_suffixed (clean : Clean name) (direction : Option Direction) :
    Trimmed (suffixed name direction) := by
  cases direction with
  | none => exact clean.trimmed
  | some direction =>
      constructor
      · intro char starts
        cases name with
        | nil => exact absurd rfl clean.nonempty
        | cons first rest => exact clean.trimmed.first char starts
      · intro char ends
        rw [suffixed, List.getLast?_concat] at ends
        cases ends
        exact isBlank_suffix direction

theorem Clean.splitSuffix_suffixed (clean : Clean name) (direction : Option Direction) :
    splitSuffix (suffixed name direction) = (name, direction) := by
  cases direction with
  | some direction =>
      simp [splitSuffix, suffixed, stripRight_eq clean.trimmed.last]
  | none =>
      obtain ⟨last, ends⟩ := Option.isSome_iff_exists.mp (List.getLast?_isSome.mpr clean.nonempty)
      have plain := (clean.plain last (List.mem_of_getLast? ends)).1
      have noSuffix : suffixDirection? last = none := by
        simpa [isSuffix] using plain
      simp [splitSuffix, suffixed, ends, noSuffix]

theorem Clean.readAtom (clean : Clean name) (direction : Option Direction) :
    readAtom (suffixed name direction) = .ok ⟨String.ofList name, direction⟩ := by
  have nonempty : suffixed name direction ≠ [] := by
    intro empty
    have split := clean.splitSuffix_suffixed direction
    rw [empty] at split
    exact clean.nonempty (congrArg Prod.fst split).symm
  have plain : (name.find? fun char => isSuffix char || isReserved char) = none := by
    rw [List.find?_eq_none]
    intro char member
    simp [clean.plain char member]
  simp [Grammar.readAtom, (clean.trimmed_suffixed direction).strip, nonempty, clean.splitSuffix_suffixed,
    clean.nonempty, plain]

theorem Clean.not_mem (clean : Clean name) {char : Char}
    (special : (isSuffix char || isReserved char) = true) :
    char ∉ name := by
  intro member
  have neither := clean.plain char member
  simp [neither] at special

end Grammar

end InputBinding
