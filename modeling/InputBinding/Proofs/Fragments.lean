import InputBinding.Descriptor.Grammar

/-!
Cutting a text undoes joining its pieces: a comma and space inside a group cuts no step, and a piece
that is whole, with all its groups closed, leaves the scanners as it found them.
-/

namespace InputBinding

namespace Grammar

def prepend (start : List Char) (pieces : List (List Char)) : List (List Char) :=
  start.foldr consToFirst pieces

theorem prepend_cons (start first : List Char) (others : List (List Char)) :
    prepend start (first :: others) = (start ++ first) :: others := by
  induction start with
  | nil => rfl
  | cons char rest ih =>
      have step : prepend (char :: rest) (first :: others) =
          consToFirst char (prepend rest (first :: others)) := rfl
      rw [step, ih]
      rfl

theorem cutNames_append {start : List Char} (noComma : ',' ∉ start) (rest : List Char) :
    cutNames (start ++ rest) = prepend start (cutNames rest) := by
  induction start with
  | nil => rfl
  | cons char others ih =>
      simp only [List.mem_cons, not_or] at noComma
      have step : cutNames (char :: (others ++ rest)) = consToFirst char (cutNames (others ++ rest)) := by
        simp [cutNames, Ne.symm noComma.1]
      rw [List.cons_append, step, ih noComma.2]
      rfl

theorem cutPlus_append {start : List Char} (noPlus : '+' ∉ start) (rest : List Char) :
    cutPlus (start ++ rest) = prepend start (cutPlus rest) := by
  induction start with
  | nil => rfl
  | cons char others ih =>
      simp only [List.mem_cons, not_or] at noPlus
      have step : cutPlus (char :: (others ++ rest)) = consToFirst char (cutPlus (others ++ rest)) := by
        simp [cutPlus, Ne.symm noPlus.1]
      rw [List.cons_append, step, ih noPlus.2]
      rfl

theorem cutNames_uncut {text : List Char} (noComma : ',' ∉ text) : cutNames text = [text] := by
  have whole := cutNames_append noComma []
  rw [List.append_nil] at whole
  rw [whole, cutNames, prepend_cons, List.append_nil]

theorem cutPlus_uncut {text : List Char} (noPlus : '+' ∉ text) : cutPlus text = [text] := by
  have whole := cutPlus_append noPlus []
  rw [List.append_nil] at whole
  rw [whole, cutPlus, prepend_cons, List.append_nil]

theorem cutNames_pair {first second : List Char} (noComma : ',' ∉ first) (noOther : ',' ∉ second) :
    cutNames (first ++ ',' :: ' ' :: second) = [first, second] := by
  rw [cutNames_append noComma, cutNames, cutNames_uncut noOther, prepend_cons, List.append_nil]

theorem cutPlus_pair {left right : List Char} (noPlus : '+' ∉ left) (noOther : '+' ∉ right) :
    cutPlus (left ++ '+' :: right) = [left, right] := by
  rw [cutPlus_append noPlus, cutPlus, cutPlus_uncut noOther, prepend_cons, List.append_nil]

/-- The scanners come out of a piece as they went in. -/
def Whole (piece : List Char) : Prop :=
  ∀ rest, cutSteps false (piece ++ rest) = prepend piece (cutSteps false rest) ∧
    checkGroups false (piece ++ rest) = checkGroups false rest

theorem checkGroups_append {inside : Bool} {start : List Char}
    (noParenthesis : ∀ char ∈ start, isParenthesis char = false) (rest : List Char) :
    checkGroups inside (start ++ rest) = checkGroups inside rest := by
  induction start with
  | nil => rfl
  | cons char others ih =>
      have plain := noParenthesis char List.mem_cons_self
      simp only [isParenthesis, Bool.or_eq_false_iff, decide_eq_false_iff_not] at plain
      have step : checkGroups inside (char :: (others ++ rest)) = checkGroups inside (others ++ rest) := by
        simp [checkGroups, plain]
      rw [List.cons_append, step]
      exact ih fun other member => noParenthesis other (List.mem_cons_of_mem _ member)

theorem cutSteps_append {start : List Char} (noComma : ',' ∉ start)
    (noParenthesis : ∀ char ∈ start, isParenthesis char = false) (rest : List Char) :
    cutSteps false (start ++ rest) = prepend start (cutSteps false rest) := by
  induction start with
  | nil => rfl
  | cons char others ih =>
      have plain := noParenthesis char List.mem_cons_self
      simp only [isParenthesis, Bool.or_eq_false_iff, decide_eq_false_iff_not] at plain
      simp only [List.mem_cons, not_or] at noComma
      have step : cutSteps false (char :: (others ++ rest)) =
          consToFirst char (cutSteps false (others ++ rest)) := by
        simp [cutSteps, plain, Ne.symm noComma.1]
      rw [List.cons_append, step, ih noComma.2 fun other member =>
        noParenthesis other (List.mem_cons_of_mem _ member)]
      rfl

theorem cutSteps_inside {start : List Char} (noParenthesis : ∀ char ∈ start, isParenthesis char = false)
    (rest : List Char) : cutSteps true (start ++ rest) = prepend start (cutSteps true rest) := by
  induction start with
  | nil => rfl
  | cons char others ih =>
      have plain := noParenthesis char List.mem_cons_self
      simp only [isParenthesis, Bool.or_eq_false_iff, decide_eq_false_iff_not] at plain
      -- A comma and space is text here, so every character goes to the same piece.
      have step (text : List Char) : cutSteps true (char :: text) = consToFirst char (cutSteps true text) := by
        rcases text with _ | ⟨next, more⟩
        · simp [cutSteps, plain]
        · by_cases comma : char = ','
          · subst comma
            by_cases space : next = ' '
            · subst space
              simp only [cutSteps, if_true]
            · simp [cutSteps, space]
          · simp [cutSteps, plain, comma]
      rw [List.cons_append, step, ih fun other member =>
        noParenthesis other (List.mem_cons_of_mem _ member)]
      rfl

theorem whole_plain {piece : List Char} (noComma : ',' ∉ piece)
    (noParenthesis : ∀ char ∈ piece, isParenthesis char = false) : Whole piece :=
  fun rest => ⟨cutSteps_append noComma noParenthesis rest, checkGroups_append noParenthesis rest⟩

theorem whole_group {body tail : List Char} (inner : ∀ char ∈ body, isParenthesis char = false)
    (noComma : ',' ∉ tail) (outer : ∀ char ∈ tail, isParenthesis char = false) :
    Whole ('(' :: body ++ ')' :: tail) := by
  intro rest
  have text : '(' :: body ++ ')' :: tail ++ rest = '(' :: (body ++ ')' :: (tail ++ rest)) := by simp
  rw [text]
  constructor
  · rw [cutSteps, cutSteps_inside inner, cutSteps, cutSteps_append noComma outer]
    simp [prepend]
  · simp only [checkGroups, Bool.false_eq_true, if_false]
    rw [checkGroups_append inner]
    simp only [checkGroups, if_true]
    exact checkGroups_append outer rest

theorem cutSteps_join {pieces : List (List Char)} (nonempty : pieces ≠ [])
    (whole : ∀ piece ∈ pieces, Whole piece) :
    cutSteps false ([',', ' '].intercalate pieces) = pieces ∧
      checkGroups false ([',', ' '].intercalate pieces) = .ok () := by
  induction pieces with
  | nil => exact absurd rfl nonempty
  | cons first others ih =>
      obtain ⟨cuts, groups⟩ := whole first List.mem_cons_self ([',', ' '].intercalate others)
      cases others with
      | nil =>
          obtain ⟨cuts, groups⟩ := whole first List.mem_cons_self []
          rw [List.intercalate_singleton]
          rw [List.append_nil] at cuts groups
          rw [cuts, groups, cutSteps, prepend_cons, List.append_nil]
          exact ⟨rfl, rfl⟩
      | cons second more =>
          obtain ⟨cutsRest, groupsRest⟩ :=
            ih (by simp) fun piece member => whole piece (List.mem_cons_of_mem _ member)
          obtain ⟨cuts, groups⟩ :=
            whole first List.mem_cons_self (',' :: ' ' :: [',', ' '].intercalate (second :: more))
          have text : [',', ' '].intercalate (first :: second :: more) =
              first ++ ',' :: ' ' :: [',', ' '].intercalate (second :: more) := by
            simp [List.intercalate_cons_cons]
          rw [text, cuts, groups]
          constructor
          · simp only [cutSteps, Bool.false_eq_true, if_false, cutsRest, prepend_cons, List.append_nil]
          · simpa [checkGroups] using groupsRest

theorem consToFirst_nonempty (char : Char) (pieces : List (List Char)) : consToFirst char pieces ≠ [] := by
  cases pieces with
  | nil => exact List.cons_ne_nil _ _
  | cons first rest => exact List.cons_ne_nil _ _

theorem cutSteps_nonempty (inside : Bool) (text : List Char) : cutSteps inside text ≠ [] := by
  unfold cutSteps
  split
  · exact List.cons_ne_nil _ _
  · exact consToFirst_nonempty _ _
  · exact consToFirst_nonempty _ _
  · split
    · exact consToFirst_nonempty _ _
    · exact List.cons_ne_nil _ _
  · exact consToFirst_nonempty _ _

theorem cutNames_nonempty (text : List Char) : cutNames text ≠ [] := by
  unfold cutNames
  split
  · exact List.cons_ne_nil _ _
  · exact List.cons_ne_nil _ _
  · exact consToFirst_nonempty _ _

theorem cutPlus_nonempty (text : List Char) : cutPlus text ≠ [] := by
  unfold cutPlus
  split
  · exact List.cons_ne_nil _ _
  · exact List.cons_ne_nil _ _
  · exact consToFirst_nonempty _ _

theorem intercalate_consToFirst (separator : List Char) (char : Char) {pieces : List (List Char)}
    (nonempty : pieces ≠ []) :
    separator.intercalate (consToFirst char pieces) = char :: separator.intercalate pieces := by
  rcases pieces with _ | ⟨first, _ | ⟨second, others⟩⟩
  · exact absurd rfl nonempty
  · simp [consToFirst]
  · simp [consToFirst, List.intercalate_cons_cons]

theorem intercalate_nil_cons (separator : List Char) {pieces : List (List Char)} (nonempty : pieces ≠ []) :
    separator.intercalate ([] :: pieces) = separator ++ separator.intercalate pieces := by
  cases pieces with
  | nil => exact absurd rfl nonempty
  | cons first others => simp [List.intercalate_cons_cons]

theorem intercalate_cutSteps (inside : Bool) (text : List Char) :
    [',', ' '].intercalate (cutSteps inside text) = text := by
  induction inside, text using cutSteps.induct with
  | case1 inside => simp [cutSteps]
  | case2 inside rest ih => rw [cutSteps, intercalate_consToFirst _ _ (cutSteps_nonempty _ _), ih]
  | case3 inside rest ih => rw [cutSteps, intercalate_consToFirst _ _ (cutSteps_nonempty _ _), ih]
  | case4 rest ih =>
      rw [cutSteps, if_pos rfl, intercalate_consToFirst _ _ (cutSteps_nonempty _ _), ih]
  | case5 inside rest outside ih =>
      rw [cutSteps, if_neg outside, intercalate_nil_cons _ (cutSteps_nonempty _ _), ih]
      rfl
  | case6 inside char rest notOpen notClose notComma ih =>
      rw [cutSteps, intercalate_consToFirst _ _ (cutSteps_nonempty _ _), ih]
      · exact notOpen
      · exact notClose
      · exact notComma

theorem intercalate_cutNames (text : List Char) : [',', ' '].intercalate (cutNames text) = text := by
  induction text using cutNames.induct with
  | case1 => simp [cutNames]
  | case2 rest ih =>
      rw [cutNames, intercalate_nil_cons _ (cutNames_nonempty _), ih]
      rfl
  | case3 char rest notComma ih =>
      rw [cutNames, intercalate_consToFirst _ _ (cutNames_nonempty _), ih]
      exact notComma

theorem intercalate_cutPlus (text : List Char) : ['+'].intercalate (cutPlus text) = text := by
  induction text using cutPlus.induct with
  | case1 => simp [cutPlus]
  | case2 rest ih =>
      rw [cutPlus, intercalate_nil_cons _ (cutPlus_nonempty _), ih]
      rfl
  | case3 char rest notPlus ih =>
      rw [cutPlus, intercalate_consToFirst _ _ (cutPlus_nonempty _), ih]
      exact notPlus

theorem eq_of_cutSteps {inside : Bool} {text piece : List Char}
    (uncut : cutSteps inside text = [piece]) :
    piece = text := by
  have whole := intercalate_cutSteps inside text
  rwa [uncut, List.intercalate_singleton] at whole

end Grammar

end InputBinding
