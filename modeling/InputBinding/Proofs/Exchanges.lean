import InputBinding.Proofs.Combos

/-!
One fragment of a sequence text put in place of another. Blanks around the whole text do not matter, and a
text is cut at the same places whichever of two fragments stands in it; only in front of a group that is
still open is a fragment no step of its own, and then the whole text cannot be read.
-/

namespace InputBinding

namespace Grammar

open Text

variable {context : Context}

/-! Where the fragments of a text stand, and blanks around the whole text. -/

def lead (before : List (List Char)) : List Char :=
  before.flatMap fun piece => piece ++ [',', ' ']

def behind (after : List (List Char)) : List Char :=
  after.flatMap fun piece => ',' :: ' ' :: piece

theorem intercalate_behind (first : List Char) (others : List (List Char)) :
    [',', ' '].intercalate (first :: others) = first ++ behind others := by
  induction others generalizing first with
  | nil => simp [behind]
  | cons second more ih =>
      rw [List.intercalate_cons_cons, ih]
      simp [behind]

theorem intercalate_around (before : List (List Char)) (fragment : List Char) (after : List (List Char)) :
    [',', ' '].intercalate (before ++ fragment :: after) = lead before ++ fragment ++ behind after := by
  cases before with
  | nil => exact intercalate_behind fragment after
  | cons first others =>
      rw [List.cons_append, intercalate_behind]
      induction others generalizing first with
      | nil => simp [behind, lead]
      | cons second more ih => simpa [behind, lead] using ih second

theorem forall₂_reads_congr {fragments others : List (List Char)} {steps : List Step}
    (same : fragments.map strip = others.map strip) :
    List.Forall₂ (Reads context) fragments steps ↔ List.Forall₂ (Reads context) others steps := by
  have stripped (pieces : List (List Char)) : List.Forall₂ (Reads context) pieces steps ↔
      List.Forall₂ (fun piece step => readStep context piece = .ok step) (pieces.map strip) steps := by
    rw [List.forall₂_map_left_iff]
    exact ⟨fun each => each.imp fun _ _ => readStep_iff.mpr, fun each => each.imp fun _ _ => readStep_iff.mp⟩
  rw [stripped, stripped, same]

theorem Reads.strip_nonempty {fragment : List Char} {step : Step} (reads : Reads context fragment step) :
    strip fragment ≠ [] := by
  obtain ⟨form, spells, _⟩ := reads
  exact spells.core.1

theorem strip_idem (text : List Char) : strip (strip text) = strip text :=
  (trimmed_strip text).strip

theorem strip_pad {before after : List Char} (beforeBlank : Blank before) (afterBlank : Blank after)
    (text : List Char) : strip (before ++ text ++ after) = strip text :=
  ((padded_strip text).pad beforeBlank afterBlank).strip (trimmed_strip text)

theorem strip_padLeft {before : List Char} (blank : Blank before) (text : List Char) :
    strip (before ++ text) = strip text := by
  simpa using strip_pad blank Blank.nil text

theorem strip_padRight {after : List Char} (blank : Blank after) (text : List Char) :
    strip (text ++ after) = strip text :=
  strip_pad Blank.nil blank text

theorem intercalate_ends (first : List Char) (middle : List (List Char)) (last : List Char) :
    [',', ' '].intercalate (first :: middle ++ [last]) = first ++ (behind middle ++ [',', ' ']) ++ last := by
  rw [List.cons_append, intercalate_behind]
  simp [behind]

theorem readSteps_of_strip {text : List Char} {steps : List Step}
    (read : readSteps context .sequence (strip text) = .ok steps) : readSteps context .sequence text = .ok steps := by
  obtain ⟨fragments, nonempty, joined, each⟩ := readSteps_iff.mp read
  obtain ⟨before, after, beforeBlank, afterBlank, padded⟩ := padded_strip text
  rw [joined] at padded
  rcases fragments with _ | ⟨first, others⟩
  · exact absurd rfl nonempty
  rcases List.eq_nil_or_concat' others with rfl | ⟨middle, last, rfl⟩
  · refine readSteps_iff.mpr ⟨[before ++ first ++ after], by simp, by simpa using padded, ?_⟩
    refine (forall₂_reads_congr ?_).mp each
    rw [List.map_singleton, List.map_singleton, strip_pad beforeBlank afterBlank]
  · rw [← List.cons_append, intercalate_ends] at padded
    refine readSteps_iff.mpr ⟨(before ++ first) :: middle ++ [last ++ after], by simp, ?_, ?_⟩
    · rw [padded, intercalate_ends]
      simp
    · refine (forall₂_reads_congr ?_).mp each
      simp [strip_padLeft beforeBlank, strip_padRight afterBlank]

theorem readSteps_strip {text : List Char} {steps : List Step} :
    readSteps context .sequence (strip text) = .ok steps ↔ readSteps context .sequence text = .ok steps := by
  refine ⟨readSteps_of_strip, ?_⟩
  intro read
  obtain ⟨fragments, nonempty, rfl, each⟩ := readSteps_iff.mp read
  have ink : ∀ fragment ∈ fragments, strip fragment ≠ [] := by
    intro fragment member
    obtain ⟨step, reads⟩ := exists_forall₂_iff.mp ⟨steps, each⟩ fragment member
    exact reads.strip_nonempty
  rcases fragments with _ | ⟨first, others⟩
  · exact absurd rfl nonempty
  rcases List.eq_nil_or_concat' others with rfl | ⟨middle, last, rfl⟩
  · rw [List.intercalate_singleton]
    refine readSteps_iff.mpr ⟨[strip first], by simp, by simp, ?_⟩
    exact (forall₂_reads_congr (by simp [strip_idem])).mp each
  · obtain ⟨leftEnd, rightStart, leftBlank, rightBlank, stripped⟩ :=
      strip_between (padded_strip first) (trimmed_strip first) (ink first (by simp)) (padded_strip last)
        (trimmed_strip last) (ink last (by simp)) (behind middle ++ [',', ' '])
    rw [← List.cons_append, intercalate_ends, stripped, ← intercalate_ends]
    refine readSteps_iff.mpr ⟨_, by simp, rfl, (forall₂_reads_congr ?_).mp each⟩
    simp [strip_padLeft rightBlank, strip_padRight leftBlank, strip_idem]

/-! One fragment among others: the text in front of it either leaves a group open or not. -/

theorem readSteps_cut_iff {text : List Char} {steps : List Step} :
    readSteps context .sequence text = .ok steps ↔ List.Forall₂ (Reads context) (cutSteps false text) steps := by
  constructor
  · intro read
    obtain ⟨_, _, sequence⟩ := bind_eq_ok read
    obtain ⟨stripped, split, each⟩ := bind_eq_ok sequence
    obtain ⟨rfl, _⟩ := splitSteps_iff.mp split
    exact (List.forall₂_map_left_iff.mp (mapM_eq_ok_iff.mp each)).imp fun _ _ => readStep_iff.mp
  · intro each
    exact readSteps_iff.mpr ⟨_, cutSteps_nonempty false text, (intercalate_cutSteps false text).symm, each⟩

theorem checkGroups_of_read {text : List Char} {steps : List Step}
    (read : readSteps context .sequence text = .ok steps) : checkGroups false text = .ok () := by
  obtain ⟨_, closed, _⟩ := bind_eq_ok read
  exact closed

theorem consToFirst_resume (char : Char) (pieces : List (List Char)) (begun : List Char) :
    ∃ morePieces moreBegun, ∀ rest,
      consToFirst char (pieces ++ prepend begun rest) = morePieces ++ prepend moreBegun rest := by
  cases pieces with
  | nil => exact ⟨[], char :: begun, fun _ => rfl⟩
  | cons piece others => exact ⟨(char :: piece) :: others, begun, fun _ => rfl⟩

def Resumes (inside : Bool) (start : List Char) : Prop :=
  ∃ pieces begun isOpen, ∀ rest, rest.head? ≠ some ' ' →
    cutSteps inside (start ++ rest) = pieces ++ prepend begun (cutSteps isOpen rest) ∧
    (checkGroups inside (start ++ rest) = .ok () → checkGroups isOpen rest = .ok ())

theorem Resumes.cons {inside next : Bool} {char : Char} {start : List Char} (resumes : Resumes next start)
    (cuts : ∀ rest, rest.head? ≠ some ' ' →
      cutSteps inside (char :: (start ++ rest)) = consToFirst char (cutSteps next (start ++ rest)))
    (groups : ∀ rest, checkGroups inside (char :: (start ++ rest)) = .ok () →
      checkGroups next (start ++ rest) = .ok ()) : Resumes inside (char :: start) := by
  obtain ⟨pieces, begun, isOpen, resumed⟩ := resumes
  obtain ⟨morePieces, moreBegun, extended⟩ := consToFirst_resume char pieces begun
  refine ⟨morePieces, moreBegun, isOpen, fun rest noSpace => ?_⟩
  obtain ⟨cutsRest, groupsRest⟩ := resumed rest noSpace
  rw [List.cons_append, cuts rest noSpace, cutsRest, extended]
  exact ⟨rfl, fun closed => groupsRest (groups rest closed)⟩

theorem resumes (inside : Bool) (start : List Char) : Resumes inside start := by
  induction inside, start using cutSteps.induct with
  | case1 inside => exact ⟨[], [], inside, fun rest _ => ⟨rfl, id⟩⟩
  | case2 inside start ih =>
      refine ih.cons (fun rest _ => by rw [cutSteps]) fun rest closed => ?_
      cases inside
      · exact closed
      · cases closed
  | case3 inside start ih =>
      refine ih.cons (fun rest _ => by rw [cutSteps]) fun rest closed => ?_
      cases inside
      · cases closed
      · exact closed
  | case4 start ih => exact ih.cons (fun rest _ => by rw [List.cons_append, cutSteps, if_pos rfl]) fun _ => id
  | case5 inside start outside ih =>
      obtain ⟨pieces, begun, isOpen, resumed⟩ := ih
      refine ⟨[] :: pieces, begun, isOpen, fun rest noSpace => ?_⟩
      obtain ⟨cuts, groups⟩ := resumed rest noSpace
      rw [List.cons_append, List.cons_append, cutSteps, if_neg outside, cuts]
      exact ⟨rfl, groups⟩
  | case6 inside char start notOpen notClose notCut ih =>
      refine ih.cons (fun rest noSpace => ?_) fun rest closed => ?_
      · rw [cutSteps]
        · exact notOpen
        · exact notClose
        -- A comma at the end of the start cuts nothing, since no space follows it.
        · intro more comma spaced
          cases start with
          | nil => exact noSpace (congrArg List.head? spaced)
          | cons next others =>
              cases spaced
              exact notCut others comma rfl
      · rwa [checkGroups] at closed
        · exact notOpen
        · exact notClose

/-- A fragment that cannot be read behind a comma inside a group, whether or not another comma and space
follows it. -/
def Stuck (context : Context) (fragment : List Char) : Prop :=
  ∀ begun after steps, List.Forall₂ (Reads context)
      (prepend begun (cutSteps true (',' :: ' ' :: fragment ++ behind after))) steps →
    checkGroups true (',' :: ' ' :: fragment ++ behind after) ≠ .ok ()

theorem cutSteps_behind (after : List (List Char)) :
    ∃ others, cutSteps false (behind after) = [] :: others := by
  cases after with
  | nil => exact ⟨[], rfl⟩
  | cons piece others => exact ⟨cutSteps false (piece ++ behind others), rfl⟩

theorem lead_concat (others : List (List Char)) (last : List Char) :
    ∃ start, lead (others ++ [last]) = start ++ [',', ' '] :=
  ⟨lead others ++ last, by simp [lead]⟩

theorem forall₂_reads_append_congr {pieces others : List (List Char)}
    (same : ∀ steps, List.Forall₂ (Reads context) pieces steps ↔ List.Forall₂ (Reads context) others steps)
    (before : List (List Char)) (steps : List Step) :
    List.Forall₂ (Reads context) (before ++ pieces) steps ↔ List.Forall₂ (Reads context) (before ++ others) steps := by
  induction before generalizing steps with
  | nil => exact same steps
  | cons piece more ih => simp only [List.cons_append, List.forall₂_cons_left_iff, ih]

theorem forall₂_reads_drop {before after : List (List Char)} {steps : List Step}
    (each : List.Forall₂ (Reads context) (before ++ after) steps) :
    List.Forall₂ (Reads context) after (steps.drop before.length) := by
  induction before generalizing steps with
  | nil => exact each
  | cons piece more ih =>
      obtain ⟨step, others, _, rest, rfl⟩ := List.forall₂_cons_left_iff.mp each
      exact ih rest

/-- Whether two fragments are read alike at the start of a text and are stuck inside a group. -/
structure Exchangeable (context : Context) (fragment other : List Char) : Prop where
  alike : ∀ after steps, List.Forall₂ (Reads context) (cutSteps false (fragment ++ behind after)) steps ↔
    List.Forall₂ (Reads context) (cutSteps false (other ++ behind after)) steps
  stuck : Stuck context fragment
  otherStuck : Stuck context other

theorem Exchangeable.readSteps_iff {fragment other : List Char} (exchangeable : Exchangeable context fragment other)
    (before after : List (List Char)) (steps : List Step) :
    readSteps context .sequence ([',', ' '].intercalate (before ++ fragment :: after)) = .ok steps ↔
      readSteps context .sequence ([',', ' '].intercalate (before ++ other :: after)) = .ok steps := by
  rw [intercalate_around, intercalate_around]
  rcases List.eq_nil_or_concat' before with rfl | ⟨front, last, rfl⟩
  · simp only [readSteps_cut_iff, lead, List.flatMap_nil, List.nil_append]
    exact exchangeable.alike after steps
  · obtain ⟨start, written⟩ := lead_concat front last
    obtain ⟨pieces, begun, isOpen, resumed⟩ := resumes false start
    have text (piece : List Char) : lead (front ++ [last]) ++ piece ++ behind after =
        start ++ (',' :: ' ' :: piece ++ behind after) := by simp [written]
    rw [text, text]
    cases isOpen
    · have cuts (piece : List Char) : cutSteps false (start ++ (',' :: ' ' :: piece ++ behind after)) =
          (pieces ++ [begun]) ++ cutSteps false (piece ++ behind after) := by
        rw [(resumed _ (by simp)).1, List.cons_append, List.cons_append, cutSteps, if_neg Bool.false_ne_true,
          prepend_cons]
        simp
      rw [readSteps_cut_iff, readSteps_cut_iff, cuts, cuts]
      exact forall₂_reads_append_congr (exchangeable.alike after) _ steps
    · have unread {piece : List Char} (stuck : Stuck context piece) :
          ¬ readSteps context .sequence (start ++ (',' :: ' ' :: piece ++ behind after)) = .ok steps := by
        intro read
        obtain ⟨cuts, groups⟩ := resumed (',' :: ' ' :: piece ++ behind after) (by simp)
        have each := readSteps_cut_iff.mp read
        rw [cuts] at each
        exact stuck begun after _ (forall₂_reads_drop each) (groups (checkGroups_of_read read))
      exact iff_of_false (unread exchangeable.stuck) (unread exchangeable.otherStuck)

theorem forall₂_reads_cons_congr {piece other : List Char} (after : List (List Char))
    (alike : ∀ step, Reads context piece step ↔ Reads context other step) (steps : List Step) :
    List.Forall₂ (Reads context) (piece :: after) steps ↔ List.Forall₂ (Reads context) (other :: after) steps := by
  simp only [List.forall₂_cons_left_iff, alike]

theorem cutSteps_whole_behind {piece : List Char} (whole : Whole piece) {after others : List (List Char)}
    (cut : cutSteps false (behind after) = [] :: others) :
    cutSteps false (piece ++ behind after) = piece :: others := by
  rw [(whole _).1, cut, prepend_cons, List.append_nil]

theorem Exchangeable.of_whole {fragment other : List Char} (whole : Whole fragment) (otherWhole : Whole other)
    (alike : ∀ step, Reads context fragment step ↔ Reads context other step) (stuck : Stuck context fragment)
    (otherStuck : Stuck context other) : Exchangeable context fragment other where
  alike after steps := by
    obtain ⟨others, cut⟩ := cutSteps_behind after
    rw [cutSteps_whole_behind whole cut, cutSteps_whole_behind otherWhole cut]
    exact forall₂_reads_cons_congr others alike steps
  stuck := stuck
  otherStuck := otherStuck

theorem resumes_plain {text : List Char} (plain : ∀ char ∈ text, isParenthesis char = false) :
    ∃ pieces begun, (∀ char ∈ begun, char ∈ text) ∧ ∀ rest, rest.head? ≠ some ' ' →
      cutSteps false (text ++ rest) = pieces ++ prepend begun (cutSteps false rest) := by
  obtain ⟨pieces, begun, isOpen, resumed⟩ := resumes false text
  obtain ⟨cuts, groups⟩ := resumed [] (by simp)
  cases isOpen
  · refine ⟨pieces, begun, ?_, fun rest noSpace => (resumed rest noSpace).1⟩
    have joined := intercalate_cutSteps false (text ++ [])
    rw [cuts, cutSteps, prepend_cons, intercalate_around] at joined
    intro char member
    rw [← List.append_nil text, ← joined]
    simp [member]
  · rw [checkGroups_append plain] at groups
    cases groups rfl

/-! Spellings that are stuck inside a group: no second group opens there, and no comma follows a plus. -/

theorem stuck_open (rest : List Char) : Stuck context ('(' :: rest) := by
  intro begun after steps each closed
  cases closed

theorem suffix_ne_plus (direction : Direction) : '+' ≠ direction.suffix := by cases direction <;> decide

theorem suffix_ne_comma (direction : Direction) : ',' ≠ direction.suffix := by cases direction <;> decide

theorem Spells.one_plus {form : Form} {text : List Char} (spells : Spells form text) :
    '+' ∉ text ∨ ∃ left right, text = left ++ '+' :: right ∧ '+' ∉ left ∧ '+' ∉ right ∧ ',' ∉ right := by
  have noPlus {names : List Char} (plain : '+' ∉ names) (first second : Direction) :
      '+' ∉ enclosed names first second := by
    simp [enclosed, plain, suffix_ne_plus]
  cases spells with
  | single atom => exact .inl (atom.not_reserved '+' rfl)
  | combo left right =>
      exact .inr ⟨_, _, rfl, left.not_reserved '+' rfl, right.not_reserved '+' rfl, right.not_reserved ',' rfl⟩
  | group first second padded =>
      have pair : SpellsPair _ _ _ := ⟨_, _, first, second, rfl⟩
      exact .inl (padded.not_mem rfl (noPlus pair.no_plus _ _))
  | keyBehind first second padded key =>
      have pair : SpellsPair _ _ _ := ⟨_, _, first, second, rfl⟩
      exact .inr ⟨_, _, rfl, padded.not_mem rfl (noPlus pair.no_plus _ _), key.not_reserved '+' rfl,
        key.not_reserved ',' rfl⟩
  | @keyInside _ _ _ firstText secondText keyText _ firstDirection secondDirection first second key padded =>
      have pair : SpellsPair _ _ _ := ⟨_, _, first, second, rfl⟩
      obtain ⟨before, after, beforeBlank, afterBlank, rfl⟩ := padded
      have noPlusBefore : '+' ∉ before := beforeBlank.not_mem rfl
      have noPlusAfter : '+' ∉ after := afterBlank.not_mem rfl
      have noCommaAfter : ',' ∉ after := afterBlank.not_mem rfl
      refine .inr ⟨before ++ '(' :: (firstText ++ ',' :: ' ' :: secondText),
        keyText ++ [firstDirection.suffix, secondDirection.suffix, ')'] ++ after, by simp [enclosed], ?_, ?_, ?_⟩
      · simpa [noPlusBefore] using pair.no_plus
      · simp [key.not_reserved '+' rfl, noPlusAfter, suffix_ne_plus]
      · simp [key.not_reserved ',' rfl, noCommaAfter, suffix_ne_comma]

theorem Spells.no_comma_behind {form : Form} {left right : List Char} (spells : Spells form (left ++ '+' :: right)) :
    ',' ∉ right := by
  rcases spells.one_plus with absent | ⟨leftText, rightText, written, leftPlain, rightPlain, noComma⟩
  · exact absurd (List.mem_append_right _ List.mem_cons_self) absent
  · obtain ⟨_, _, rfl⟩ := (List.append_cons_inj_of_notMem leftPlain rightPlain).mp written.symm
    exact noComma

theorem stuck_plus {left right : List Char} (leftPlain : ∀ char ∈ left, isParenthesis char = false)
    (rightPlain : ∀ char ∈ right, isParenthesis char = false) : Stuck context (left ++ '+' :: right) := by
  intro begun after steps each closed
  have plain : ∀ char ∈ ',' :: ' ' :: (left ++ '+' :: right), isParenthesis char = false := by
    rw [List.forall_mem_cons, List.forall_mem_cons]
    exact ⟨rfl, rfl, plus_no_parenthesis leftPlain rightPlain⟩
  cases after with
  | nil =>
      rw [checkGroups_append plain] at closed
      cases closed
  | cons piece more =>
      rw [cutSteps_inside plain] at each
      have cut : cutSteps true (behind (piece :: more)) =
          consToFirst ',' (cutSteps true (' ' :: (piece ++ behind more))) := rfl
      obtain ⟨first, others, cutRest⟩ := List.exists_cons_of_ne_nil
        (cutSteps_nonempty true (' ' :: (piece ++ behind more)))
      rw [cut, cutRest, consToFirst, prepend_cons, prepend_cons] at each
      obtain ⟨step, _, ⟨form, spells, _⟩, _⟩ := List.forall₂_cons_left_iff.mp each
      have written : begun ++ (',' :: ' ' :: (left ++ '+' :: right) ++ ',' :: first) =
          (begun ++ ',' :: ' ' :: left) ++ '+' :: (right ++ ',' :: first) := by simp
      rw [written] at spells
      exact spells.no_comma_behind (List.mem_append_right _ List.mem_cons_self)

end Grammar

end InputBinding
