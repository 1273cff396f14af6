import InputBinding.Proofs.Acceptance

/-!
How a sequence text is checked and cut, told by its parentheses alone. Along a text that passes the check at most one
group is open at any place and none at the end. Such a text is cut at each comma and space outside the groups and
nowhere else, and every piece passes the check again.
-/

namespace InputBinding

namespace Grammar

open Text

variable {inside after now : Bool} {char : Char} {text rest piece : List Char}

def Leaves (inside now : Bool) (text : List Char) : Prop :=
  text.count '(' + inside.toNat = text.count ')' + now.toNat

theorem leaves_nil : Leaves inside now [] ↔ inside = now := by
  cases inside <;> cases now <;> simp [Leaves]

def Turns (char : Char) (inside after : Bool) : Prop :=
  ∀ now text, Leaves inside now (char :: text) ↔ Leaves after now text

theorem turns_open : Turns '(' false true := by
  intro now text
  simp [Leaves]

theorem turns_close : Turns ')' true false := by
  intro now text
  have opened : (')' :: text).count '(' = text.count '(' := List.count_cons_of_ne (by decide)
  simp only [Leaves, opened, List.count_cons_self, Bool.toNat_true, Bool.toNat_false]
  omega

theorem turns_plain (char : Char) (plain : isParenthesis char = false) (inside : Bool) : Turns char inside inside := by
  simp only [isParenthesis, Bool.or_eq_false_iff, decide_eq_false_iff_not] at plain
  intro now text
  simp [Leaves, List.count_cons_of_ne plain.1, List.count_cons_of_ne plain.2]

/-- No more than one group is open at any place, and none at the end. -/
structure Grouped (inside : Bool) (text : List Char) : Prop where
  sane : ∀ start, start <+: text → ∃ now, Leaves inside now start
  settled : Leaves inside false text

theorem grouped_iff :
    Grouped false text ↔
      (∀ start, start <+: text → start.count ')' = start.count '(' ∨ start.count '(' = start.count ')' + 1) ∧
        text.count ')' = text.count '(' := by
  have level (start : List Char) : (∃ now, Leaves false now start) ↔
      start.count ')' = start.count '(' ∨ start.count '(' = start.count ')' + 1 := by
    simp [Leaves, eq_comm]
  constructor
  · rintro ⟨sane, settled⟩
    refine ⟨fun start starts => (level start).mp (sane start starts), ?_⟩
    simpa [Leaves, eq_comm] using settled
  · rintro ⟨sane, settled⟩
    refine ⟨fun start starts => (level start).mpr (sane start starts), ?_⟩
    simpa [Leaves, eq_comm] using settled

theorem grouped_nil : Grouped inside [] ↔ inside = false := by
  constructor
  · intro grouped
    exact leaves_nil.mp grouped.settled
  · intro outside
    refine ⟨?_, leaves_nil.mpr outside⟩
    intro start starts
    rw [List.prefix_nil.mp starts]
    exact ⟨inside, leaves_nil.mpr rfl⟩

theorem grouped_cons (turns : Turns char inside after) : Grouped inside (char :: rest) ↔ Grouped after rest := by
  constructor
  · intro grouped
    refine ⟨?_, (turns _ _).mp grouped.settled⟩
    intro start starts
    obtain ⟨now, leaves⟩ := grouped.sane (char :: start) (List.cons_prefix_cons.mpr ⟨rfl, starts⟩)
    exact ⟨now, (turns now start).mp leaves⟩
  · intro grouped
    refine ⟨?_, (turns _ _).mpr grouped.settled⟩
    intro start starts
    rcases List.prefix_cons_iff.mp starts with rfl | ⟨others, rfl, othersStart⟩
    · exact ⟨inside, leaves_nil.mpr rfl⟩
    · obtain ⟨now, leaves⟩ := grouped.sane others othersStart
      exact ⟨now, (turns now others).mpr leaves⟩

theorem outside_of_open (grouped : Grouped inside ('(' :: rest)) : inside = false := by
  obtain ⟨now, leaves⟩ := grouped.sane ['('] (List.cons_prefix_cons.mpr ⟨rfl, List.nil_prefix⟩)
  cases inside with
  | false => rfl
  | true => cases now <;> simp [Leaves] at leaves

theorem inside_of_close (grouped : Grouped inside (')' :: rest)) : inside = true := by
  obtain ⟨now, leaves⟩ := grouped.sane [')'] (List.cons_prefix_cons.mpr ⟨rfl, List.nil_prefix⟩)
  cases inside with
  | true => rfl
  | false => cases now <;> simp [Leaves] at leaves

theorem checkGroups_iff (inside : Bool) (text : List Char) :
    checkGroups inside text = .ok () ↔ Grouped inside text := by
  induction inside, text using checkGroups.induct with
  | case1 => simp [checkGroups, grouped_nil]
  | case2 inside outside => simp [checkGroups, grouped_nil, outside]
  | case3 rest =>
      simp only [checkGroups, if_true, reduceCtorEq, false_iff]
      intro grouped
      cases outside_of_open grouped
  | case4 inside rest outside ih =>
      rw [Bool.not_eq_true] at outside
      subst outside
      simp only [checkGroups, Bool.false_eq_true, if_false]
      rw [ih, grouped_cons turns_open]
  | case5 rest ih =>
      simp only [checkGroups, if_true]
      rw [ih, grouped_cons turns_close]
  | case6 inside rest outside =>
      simp only [checkGroups, if_neg outside, reduceCtorEq, false_iff]
      intro grouped
      exact outside (inside_of_close grouped)
  | case7 inside char rest notOpen notClose ih =>
      have plain : isParenthesis char = false := by simpa [isParenthesis] using ⟨notOpen, notClose⟩
      rw [checkGroups, ih, grouped_cons (turns_plain char plain inside)]
      · exact notOpen
      · exact notClose

structure Uncut (inside : Bool) (piece : List Char) : Prop where
  grouped : Grouped inside piece
  guarded : ∀ before behind, piece = before ++ ',' :: ' ' :: behind → Leaves inside true before

theorem uncut_nil : Uncut false [] := by
  refine ⟨grouped_nil.mpr rfl, ?_⟩
  intro before behind written
  simp at written

theorem Uncut.cons (uncut : Uncut after piece) (turns : Turns char inside after)
    (whole : inside = false → char = ',' → ∀ others, piece ≠ ' ' :: others) : Uncut inside (char :: piece) := by
  refine ⟨(grouped_cons turns).mpr uncut.grouped, ?_⟩
  intro before behind written
  rcases List.cons_eq_append_iff.mp written with ⟨rfl, delimiter⟩ | ⟨others, rfl, split⟩
  · cases inside with
    | true => exact leaves_nil.mpr rfl
    | false =>
        simp only [List.cons.injEq] at delimiter
        exact absurd delimiter.2.symm (whole rfl delimiter.1.symm behind)
  · exact (turns true others).mpr (uncut.guarded others behind split)

theorem prefix_intercalate (separator first : List Char) (others : List (List Char)) :
    first <+: separator.intercalate (first :: others) := by
  cases others with
  | nil => simp
  | cons second more => simp [List.intercalate_cons_cons]

theorem prefix_of_cutSteps {first : List Char} {others : List (List Char)}
    (cut : cutSteps inside text = first :: others) : first <+: text := by
  have starts := prefix_intercalate [',', ' '] first others
  rwa [← cut, intercalate_cutSteps] at starts

/-- The pieces that a text is cut into when it is begun inside a group or outside all groups: only the first of them
may begin inside one. -/
def Cut (inside : Bool) (pieces : List (List Char)) : Prop :=
  ∃ first others, pieces = first :: others ∧ Uncut inside first ∧ ∀ piece ∈ others, Uncut false piece

theorem cut_cutSteps (grouped : Grouped inside text) : Cut inside (cutSteps inside text) := by
  induction inside, text using cutSteps.induct with
  | case1 inside =>
      have outside := grouped_nil.mp grouped
      subst outside
      exact ⟨[], [], rfl, uncut_nil, by simp⟩
  | case2 inside rest ih =>
      have outside := outside_of_open grouped
      subst outside
      obtain ⟨first, others, cut, uncut, each⟩ := ih ((grouped_cons turns_open).mp grouped)
      rw [cutSteps, cut]
      exact ⟨'(' :: first, others, rfl, uncut.cons turns_open (by simp), each⟩
  | case3 inside rest ih =>
      have within := inside_of_close grouped
      subst within
      obtain ⟨first, others, cut, uncut, each⟩ := ih ((grouped_cons turns_close).mp grouped)
      rw [cutSteps, cut]
      exact ⟨')' :: first, others, rfl, uncut.cons turns_close (by simp), each⟩
  | case4 rest ih =>
      have comma := turns_plain ',' rfl true
      obtain ⟨first, others, cut, uncut, each⟩ := ih ((grouped_cons comma).mp grouped)
      rw [cutSteps, if_pos rfl, cut]
      exact ⟨',' :: first, others, rfl, uncut.cons comma (by simp), each⟩
  | case5 inside rest outside ih =>
      rw [Bool.not_eq_true] at outside
      subst outside
      have comma := turns_plain ',' rfl false
      have space := turns_plain ' ' rfl false
      obtain ⟨first, others, cut, uncut, each⟩ := ih ((grouped_cons space).mp ((grouped_cons comma).mp grouped))
      rw [cutSteps, if_neg Bool.false_ne_true, cut]
      exact ⟨[], first :: others, rfl, uncut_nil, List.forall_mem_cons.mpr ⟨uncut, each⟩⟩
  | case6 inside char rest notOpen notClose notDelimiter ih =>
      have plain : isParenthesis char = false := by simpa [isParenthesis] using ⟨notOpen, notClose⟩
      have turns := turns_plain char plain inside
      obtain ⟨first, others, cut, uncut, each⟩ := ih ((grouped_cons turns).mp grouped)
      rw [cutSteps, cut]
      · refine ⟨char :: first, others, rfl, uncut.cons turns ?_, each⟩
        -- The piece starts as the text does, in which no space follows a comma here.
        rintro _ comma more rfl
        obtain ⟨tail, written⟩ := prefix_of_cutSteps cut
        exact notDelimiter (more ++ tail) comma written.symm
      · exact notOpen
      · exact notClose
      · exact notDelimiter

theorem uncut_of_mem (grouped : Grouped false text) (member : piece ∈ cutSteps false text) : Uncut false piece := by
  obtain ⟨first, others, cut, uncut, each⟩ := cut_cutSteps grouped
  rw [cut] at member
  rcases List.mem_cons.mp member with rfl | later
  · exact uncut
  · exact each piece later

theorem strip_eq_nil_iff : strip text = [] ↔ Blank text := by
  constructor
  · intro nothing
    obtain ⟨before, behind, beforeBlank, behindBlank, padded⟩ := padded_strip text
    rw [padded, nothing, List.append_nil]
    exact beforeBlank.append behindBlank
  · exact strip_blank

theorem splitSteps_of_blank (member : piece ∈ cutSteps false text) (blank : Blank piece) :
    splitSteps text = .error .emptyStep := by
  have someEmpty : ((cutSteps false text).map strip).any List.isEmpty = true := by
    rw [List.any_eq_true]
    exact ⟨strip piece, List.mem_map_of_mem member, by rw [strip_blank blank]; rfl⟩
  rw [splitSteps, if_pos someEmpty]

theorem splitSteps_of_ink (ink : ∀ piece ∈ cutSteps false text, ¬ Blank piece) :
    splitSteps text = .ok ((cutSteps false text).map strip) := by
  rw [splitSteps_iff]
  refine ⟨rfl, ?_⟩
  intro stripped member nothing
  obtain ⟨piece, listed, rfl⟩ := List.mem_map.mp member
  exact ink piece listed (strip_eq_nil_iff.mp nothing)

/-- The check accepts exactly the texts along which no more than one group is open, and none at the end. Such a text
is the join of its pieces, which pass the check in turn and hold a comma and space only inside a group; it is refused
for an empty step exactly if a piece is blank, and is otherwise split into the pieces without the blanks around them. -/
theorem splitSteps_exact (text : List Char) :
    (checkGroups false text = .ok () ↔
      (∀ start, start <+: text → start.count ')' = start.count '(' ∨ start.count '(' = start.count ')' + 1) ∧
        text.count ')' = text.count '(') ∧
    (checkGroups false text = .ok () →
      let pieces := cutSteps false text
      [',', ' '].intercalate pieces = text ∧
      (∀ piece ∈ pieces, checkGroups false piece = .ok ()) ∧
      (∀ piece ∈ pieces, ∀ before behind, piece = before ++ [',', ' '] ++ behind →
        before.count '(' = before.count ')' + 1) ∧
      ((∃ defect, splitSteps text = .error defect ∧ defect.reason = "empty step") ↔ ∃ piece ∈ pieces, Blank piece) ∧
      ((∀ piece ∈ pieces, ¬ Blank piece) → splitSteps text = .ok (pieces.map strip))) := by
  constructor
  · rw [checkGroups_iff, grouped_iff]
  · intro checked pieces
    have grouped := (checkGroups_iff false text).mp checked
    refine ⟨intercalate_cutSteps false text, ?_, ?_, ⟨?_, ?_⟩, splitSteps_of_ink⟩
    · intro piece member
      exact (checkGroups_iff false piece).mpr (uncut_of_mem grouped member).grouped
    · intro piece member before behind written
      have leaves := (uncut_of_mem grouped member).guarded before behind (by simpa using written)
      simpa [Leaves] using leaves
    · rintro ⟨defect, refused, _⟩
      by_contra ink
      have split := splitSteps_of_ink fun piece member blank => ink ⟨piece, member, blank⟩
      rw [refused] at split
      cases split
    · rintro ⟨piece, member, blank⟩
      exact ⟨_, splitSteps_of_blank member blank, rfl⟩

def crowded : List Char :=
  "(X, Y<>)+A, B,,  C".toList

theorem splitSteps_exact_crowded :
    checkGroups false crowded = .ok () ∧ (∀ piece ∈ cutSteps false crowded, ¬ Blank piece) ∧
      [',', ' '].intercalate (cutSteps false crowded) = crowded ∧
      splitSteps crowded = .ok ["(X, Y<>)+A".toList, "B,".toList, "C".toList] := by
  have checked : checkGroups false crowded = .ok () := by decide
  have ink : ∀ piece ∈ cutSteps false crowded, ¬ Blank piece := by decide
  obtain ⟨joined, _, _, _, split⟩ := (splitSteps_exact crowded).2 checked
  refine ⟨checked, ink, joined, ?_⟩
  rw [split ink]
  decide

end Grammar

end InputBinding
