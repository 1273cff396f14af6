import InputBinding.Proofs.NumberTexts

/-!
The strict codec keeps the laws of codecs. Values are read back from what is written of them, compact or indented,
and numbers that no JSON text can say are written as null.
-/

namespace InputBinding.Json

/-! ## Texts -/

theorem lowHex_control : ∀ code < 0x20,
    lowHex code = ['0', '0', Nat.digitChar (code / 16), Nat.digitChar (code % 16)] ∧
      codeUnit? '0' '0' (Nat.digitChar (code / 16)) (Nat.digitChar (code % 16)) = some code := by
  decide

theorem readBody_escapeChar (char : Char) (rest : List Char) :
    readBody (escapeChar char ++ rest) = (readBody rest).map fun (chars, after) => (char :: chars, after) := by
  unfold escapeChar
  split_ifs with special backspace feed newline carriage tab control
  · rcases special with rfl | rfl <;> rfl
  · subst backspace; rfl
  · subst feed; rfl
  · subst newline; rfl
  · subst carriage; rfl
  · subst tab; rfl
  · obtain ⟨written, unit⟩ := lowHex_control char.toNat control
    have below : char.toNat < 0xd800 ∨ 0xe000 ≤ char.toNat := Or.inl (by omega)
    rw [written]
    simp only [List.cons_append, List.nil_append]
    rw [readBody, unit]
    simp only [if_pos below, Char.ofNat_toNat]
  · rw [not_or] at special
    simp only [List.cons_append, List.nil_append]
    rw [readBody.eq_def]
    split <;> simp_all

theorem readBody_escaped (chars rest : List Char) :
    readBody (chars.flatMap escapeChar ++ '"' :: rest) = some (chars, rest) := by
  induction chars with
  | nil => rfl
  | cons char others ih => rw [List.flatMap_cons, List.append_assoc, readBody_escapeChar, ih]; rfl

/-! ## Blanks -/

def Blanks (chars : List Char) : Prop :=
  ∀ char ∈ chars, isSpace char = true

theorem blanks_lineBreak (level : Option Nat) : Blanks (lineBreak level) := by
  cases level with
  | none => simp [Blanks, lineBreak]
  | some count =>
      intro char member
      rcases List.mem_cons.mp member with rfl | blank
      · rfl
      · rw [List.eq_of_mem_replicate blank]
        rfl

theorem skipSpace_append {blanks : List Char} (all : Blanks blanks) (rest : List Char) :
    skipSpace (blanks ++ rest) = skipSpace rest :=
  List.dropWhile_append_of_pos all

theorem skipSpace_cons {char : Char} (visible : isSpace char = false) (rest : List Char) :
    skipSpace (char :: rest) = char :: rest := by
  simp [skipSpace, visible]

theorem skipSpace_skipSpace (chars : List Char) : skipSpace (skipSpace chars) = skipSpace chars :=
  List.dropWhile_idempotent _ chars

theorem readValue_skipSpace (fuel depth : Nat) (chars : List Char) :
    readValue fuel depth (skipSpace chars) = readValue fuel depth chars := by
  cases fuel with
  | zero => rw [readValue, readValue]
  | succ fuel => rw [readValue, readValue, skipSpace_skipSpace]

theorem readValue_blanks {blanks : List Char} (all : Blanks blanks) (fuel depth : Nat) (rest : List Char) :
    readValue fuel depth (blanks ++ rest) = readValue fuel depth rest := by
  rw [← readValue_skipSpace, skipSpace_append all, readValue_skipSpace]

/-! ## Objects -/

theorem insertMember_fresh {key : String} {members : List (String × Json)} (fresh : key ∉ members.map Prod.fst)
    (value : Json) : insertMember key value members = members ++ [(key, value)] := by
  induction members with
  | nil => rfl
  | cons member rest ih =>
      rw [List.map_cons, List.mem_cons, not_or] at fresh
      rw [insertMember, if_neg (Ne.symm fresh.1), ih fresh.2]
      rfl

theorem collapseMembers_distinct {members : List (String × Json)} (distinct : (members.map Prod.fst).Nodup) :
    collapseMembers members = members := by
  have keep : ∀ later earlier : List (String × Json), ((earlier ++ later).map Prod.fst).Nodup →
      later.foldl (fun kept member => insertMember member.1 member.2 kept) earlier = earlier ++ later := by
    intro later
    induction later with
    | nil => intro earlier _; simp
    | cons member rest ih =>
        intro earlier distinct
        have fresh : member.1 ∉ earlier.map Prod.fst := by
          rw [List.map_append, List.map_cons, List.nodup_append] at distinct
          exact fun old => distinct.2.2 _ old _ List.mem_cons_self rfl
        rw [List.foldl_cons, insertMember_fresh fresh, ih]
        · simp
        · simpa using distinct
  exact keep members [] distinct

/-! ## Values -/

def Begins (chars : List Char) : Prop :=
  ∃ first others, chars = first :: others ∧ isSpace first = false ∧ first ≠ ']'

theorem Numeric.exists_cons {chars : List Char} (numeric : Numeric chars) :
    ∃ first others, chars = first :: others ∧ (first = '-' ∨ first.isDigit = true) := by
  obtain ⟨first, head, shape⟩ := numeric
  obtain ⟨others, rfl⟩ := List.head?_eq_some_iff.mp head
  exact ⟨first, others, rfl, shape⟩

theorem numeric_char {first : Char} (shape : first = '-' ∨ first.isDigit = true) :
    isSpace first = false ∧ first ∉ ['"', '[', ']', '\x7b', 't', 'f', 'n'] := by
  rcases shape with rfl | isDigit
  · decide
  · refine ⟨?_, ?_⟩
    · rw [Bool.eq_false_iff]
      intro blank
      simp only [isSpace, Bool.or_eq_true, decide_eq_true_eq] at blank
      rcases blank with ((rfl | rfl) | rfl) | rfl <;> exact absurd isDigit (by decide)
    · intro member
      simp only [List.mem_cons, List.not_mem_nil, or_false] at member
      rcases member with rfl | rfl | rfl | rfl | rfl | rfl | rfl <;> exact absurd isDigit (by decide)

theorem Numeric.begins {chars : List Char} (numeric : Numeric chars) : Begins chars := by
  obtain ⟨first, others, rfl, shape⟩ := numeric.exists_cons
  obtain ⟨visible, other⟩ := numeric_char shape
  exact ⟨first, others, rfl, visible, fun close => other (by simp [close])⟩

theorem readValue_numeric {chars : List Char} (numeric : Numeric chars) (fuel depth : Nat) (rest : List Char) :
    readValue (fuel + 1) depth (chars ++ rest) = readNumber (chars ++ rest) := by
  obtain ⟨first, others, rfl, shape⟩ := numeric.exists_cons
  obtain ⟨visible, other⟩ := numeric_char shape
  rw [List.cons_append, readValue, skipSpace_cons visible]
  split <;> simp_all

theorem begins_render (level : Option Nat) (value : Json) : Begins (render level value) := by
  have begins (first : Char) (others : List Char) (visible : isSpace first = false) (other : first ≠ ']') :
      Begins (first :: others) := ⟨first, others, rfl, visible, other⟩
  match value with
  | .null => exact begins _ _ rfl (by decide)
  | .bool true => exact begins _ _ rfl (by decide)
  | .bool false => exact begins _ _ rfl (by decide)
  | .int number => exact (numeric_int number).begins
  | .float number =>
      by_cases finite : number.isFinite = true
      · exact (numeric_renderFloat finite).begins
      · rw [render, renderFloat, if_neg finite]
        exact begins _ _ rfl (by decide)
  | .text _ => exact begins _ _ rfl (by decide)
  | .list [] => exact begins _ _ rfl (by decide)
  | .list (_ :: _) => exact begins _ _ rfl (by decide)
  | .object [] => exact begins _ _ rfl (by decide)
  | .object (_ :: _) => exact begins _ _ rfl (by decide)

theorem readItems_skipSpace (fuel depth : Nat) (chars : List Char) :
    readItems fuel depth (skipSpace chars) = readItems fuel depth chars := by
  cases fuel with
  | zero => rw [readItems, readItems]
  | succ fuel => rw [readItems, readItems, readValue_skipSpace]

theorem readMembers_skipSpace (fuel depth : Nat) (chars : List Char) :
    readMembers fuel depth (skipSpace chars) = readMembers fuel depth chars := by
  cases fuel with
  | zero => rw [readMembers, readMembers]
  | succ fuel => rw [readMembers, readMembers, skipSpace_skipSpace]

theorem readValue_list {chars : List Char} (begins : Begins (skipSpace chars)) (fuel inner : Nat) :
    readValue (fuel + 1) (inner + 1) ('[' :: chars) =
      (readItems fuel inner chars).map fun (items, after) => (.list items, after) := by
  obtain ⟨first, others, shown, _, notClose⟩ := begins
  have stillOpen : ']' ≠ first := Ne.symm notClose
  rw [readValue, skipSpace_cons rfl, ← readItems_skipSpace, shown]
  simp only
  split <;> simp_all

theorem readValue_object {chars others : List Char} (shown : skipSpace chars = '"' :: others) (fuel inner : Nat) :
    readValue (fuel + 1) (inner + 1) ('\x7b' :: chars) =
      (readMembers fuel inner chars).map fun (members, after) => (.object (collapseMembers members), after) := by
  rw [readValue, skipSpace_cons rfl, ← readMembers_skipSpace, shown]
  simp only [shown]
  rfl

theorem stops_blanks {blanks : List Char} (all : Blanks blanks) {rest : List Char} (stops : Stops rest) :
    Stops (blanks ++ rest) := by
  cases blanks with
  | nil => exact stops
  | cons char others =>
      have blank := all char List.mem_cons_self
      rintro _ ⟨⟩
      simp only [isSpace, Bool.or_eq_true, decide_eq_true_eq] at blank
      rcases blank with ((rfl | rfl) | rfl) | rfl <;> decide

theorem stops_cons {char : Char} (shape : char.isDigit = false ∧ char ≠ '.' ∧ char ≠ 'e' ∧ char ≠ 'E') (rest : List Char) :
    Stops (char :: rest) := by
  rintro _ ⟨⟩
  exact shape

theorem exists_colon (level : Option Nat) : ∃ blanks, colon level = ':' :: blanks ∧ Blanks blanks := by
  cases level with
  | none => exact ⟨[], rfl, by simp [Blanks]⟩
  | some _ => exact ⟨[' '], rfl, by simp [Blanks, isSpace]⟩

def itemsText (level : Option Nat) : List Json → List Char
  | [] => []
  | item :: items => lineBreak level ++ (render level item ++ renderItems level items)

def membersText (level : Option Nat) : List (String × Json) → List Char
  | [] => []
  | (key, value) :: members =>
      lineBreak level ++ (renderText key ++ (colon level ++ (render level value ++ renderMembers level members)))

theorem renderItems_cons (level : Option Nat) (item : Json) (items : List Json) :
    renderItems level (item :: items) = ',' :: itemsText level (item :: items) := by
  simp [renderItems, itemsText]

theorem renderMembers_cons (level : Option Nat) (member : String × Json) (members : List (String × Json)) :
    renderMembers level (member :: members) = ',' :: membersText level (member :: members) := by
  simp [renderMembers, membersText]

theorem render_list (level : Option Nat) (item : Json) (items : List Json) :
    render level (.list (item :: items)) =
      '[' :: (itemsText (level.map (· + 1)) (item :: items) ++ (lineBreak level ++ [']'])) := by
  simp [render, itemsText]

theorem render_object (level : Option Nat) (member : String × Json) (members : List (String × Json)) :
    render level (.object (member :: members)) =
      '\x7b' :: (membersText (level.map (· + 1)) (member :: members) ++ (lineBreak level ++ ['\x7d'])) := by
  have same : colon (level.map (· + 1)) = colon level := by cases level <;> rfl
  simp [render, membersText, same]

theorem skipSpace_itemsText (level : Option Nat) (item : Json) (items : List Json) (rest : List Char) :
    skipSpace (itemsText level (item :: items) ++ rest) = render level item ++ (renderItems level items ++ rest) := by
  obtain ⟨first, others, shown, visible, _⟩ := begins_render level item
  rw [itemsText, List.append_assoc, skipSpace_append (blanks_lineBreak level), shown, List.append_assoc, List.cons_append,
    skipSpace_cons visible]

theorem skipSpace_membersText (level : Option Nat) (key : String) (value : Json) (members : List (String × Json))
    (rest : List Char) :
    skipSpace (membersText level ((key, value) :: members) ++ rest) =
      '"' :: (key.toList.flatMap escapeChar ++
        '"' :: (colon level ++ (render level value ++ (renderMembers level members ++ rest)))) := by
  rw [membersText, List.append_assoc, skipSpace_append (blanks_lineBreak level), renderText]
  simp only [List.cons_append, List.append_assoc, List.nil_append]
  exact skipSpace_cons rfl _

theorem begins_append {chars : List Char} (begins : Begins chars) (rest : List Char) : Begins (chars ++ rest) := by
  obtain ⟨first, others, rfl, shape⟩ := begins
  exact ⟨first, others ++ rest, rfl, shape⟩

theorem readValue_text (text : String) (fuel depth : Nat) (rest : List Char) :
    readValue (fuel + 1) depth (renderText text ++ rest) = some (.text text, rest) := by
  have body := readBody_escaped text.toList rest
  have same : renderText text ++ rest = '"' :: (text.toList.flatMap escapeChar ++ '"' :: rest) := by
    simp [renderText]
  rw [same, readValue, skipSpace_cons rfl]
  simp only [body, Option.map_some, String.ofList_toList]

theorem stops_items (level : Option Nat) (items : List Json) {blanks : List Char} (blank : Blanks blanks)
    (rest : List Char) : Stops (renderItems level items ++ (blanks ++ ']' :: rest)) := by
  cases items with
  | nil => exact stops_blanks blank (stops_cons (by decide) rest)
  | cons item items =>
      rw [renderItems_cons]
      exact stops_cons (by decide) _

theorem stops_members (level : Option Nat) (members : List (String × Json)) {blanks : List Char} (blank : Blanks blanks)
    (rest : List Char) : Stops (renderMembers level members ++ (blanks ++ '\x7d' :: rest)) := by
  cases members with
  | nil => exact stops_blanks blank (stops_cons (by decide) rest)
  | cons member members =>
      rw [renderMembers_cons]
      exact stops_cons (by decide) _

mutual

/-- A value is read back from what is written of it. Twice the length of the text is enough fuel, since a list
spends one unit on itself and two on each item, and every item stands behind a bracket or a comma. -/
theorem readValue_render (value : Json) {level : Option Nat} {levels fuel depth : Nat} {rest : List Char}
    (proper : Proper value) (shallow : fits levels value = true) (deep : levels < depth)
    (fuelled : 2 * (render level value).length + 1 ≤ fuel) (stops : Stops rest) :
    readValue fuel depth (render level value ++ rest) = some (value.kept, rest) := by
  obtain ⟨fuel, rfl⟩ : ∃ less, fuel = less + 1 := ⟨fuel - 1, by omega⟩
  match value with
  | .null => rfl
  | .bool true => rfl
  | .bool false => rfl
  | .int number =>
      rw [render, readValue_numeric (numeric_int number)]
      exact readNumber_int proper stops
  | .float number =>
      by_cases finite : number.isFinite = true
      · rw [render, readValue_numeric (numeric_renderFloat finite), kept, if_pos finite]
        exact readNumber_renderFloat finite stops
      · rw [render, renderFloat, kept, if_neg finite, if_neg finite]
        rfl
  | .text chars =>
      rw [render]
      exact readValue_text chars fuel depth rest
  | .list [] =>
      obtain ⟨inner, rfl⟩ : ∃ less, depth = less + 1 := ⟨depth - 1, by omega⟩
      rfl
  | .list (item :: items) =>
      obtain ⟨inner, rfl⟩ : ∃ less, depth = less + 1 := ⟨depth - 1, by omega⟩
      cases levels with
      | zero => cases shallow
      | succ levels =>
          rw [render_list] at fuelled ⊢
          simp only [List.length_cons, List.length_append] at fuelled
          simp only [List.cons_append, List.append_assoc, List.nil_append]
          rw [readValue_list, readItems_render (item :: items) proper shallow (by omega) (by simp) (by omega)
            (blanks_lineBreak level)]
          · rfl
          · rw [skipSpace_itemsText]
            exact begins_append (begins_render _ item) _
  | .object [] =>
      obtain ⟨inner, rfl⟩ : ∃ less, depth = less + 1 := ⟨depth - 1, by omega⟩
      rfl
  | .object ((key, value) :: members) =>
      obtain ⟨inner, rfl⟩ : ∃ less, depth = less + 1 := ⟨depth - 1, by omega⟩
      cases levels with
      | zero => cases shallow
      | succ levels =>
          have distinct : ((keptMembers ((key, value) :: members)).map Prod.fst).Nodup := by
            rw [map_fst_keptMembers]
            exact proper.1
          rw [render_object] at fuelled ⊢
          simp only [List.length_cons, List.length_append] at fuelled
          simp only [List.cons_append, List.append_assoc, List.nil_append]
          rw [readValue_object (skipSpace_membersText _ key value members _),
            readMembers_render ((key, value) :: members) proper.2 shallow (by omega) (by simp) (by omega)
              (blanks_lineBreak level)]
          simp only [Option.map_some, collapseMembers_distinct distinct, kept]

theorem readItems_render (items : List Json) {level : Option Nat} {levels fuel depth : Nat} {blanks rest : List Char}
    (proper : ProperItems items) (shallow : itemsFit levels items = true) (deep : levels < depth) (nonempty : items ≠ [])
    (fuelled : 2 * (itemsText level items).length + 2 ≤ fuel) (blank : Blanks blanks) :
    readItems fuel depth (itemsText level items ++ (blanks ++ ']' :: rest)) = some (keptItems items, rest) := by
  match items with
  | [] => exact absurd rfl nonempty
  | item :: others =>
      obtain ⟨fuel, rfl⟩ : ∃ less, fuel = less + 1 := ⟨fuel - 1, by omega⟩
      simp only [itemsFit, Bool.and_eq_true] at shallow
      simp only [itemsText, List.length_append] at fuelled
      rw [← readItems_skipSpace, skipSpace_itemsText, readItems,
        readValue_render item proper.1 shallow.1 deep (by omega) (stops_items level others blank rest)]
      cases others with
      | nil =>
          rw [renderItems, List.nil_append]
          simp only [Option.bind_eq_bind, Option.bind_some]
          rw [skipSpace_append blank, skipSpace_cons rfl]
          rfl
      | cons next others =>
          rw [renderItems_cons] at fuelled ⊢
          rw [List.length_cons] at fuelled
          simp only [Option.bind_eq_bind, Option.bind_some, List.cons_append]
          rw [skipSpace_cons rfl]
          simp only
          rw [readItems_render (next :: others) proper.2 shallow.2 deep (by simp) (by omega) blank]
          rfl

theorem readMembers_render (members : List (String × Json)) {level : Option Nat} {levels fuel depth : Nat}
    {blanks rest : List Char} (proper : ProperMembers members) (shallow : membersFit levels members = true)
    (deep : levels < depth) (nonempty : members ≠ []) (fuelled : 2 * (membersText level members).length + 2 ≤ fuel)
    (blank : Blanks blanks) :
    readMembers fuel depth (membersText level members ++ (blanks ++ '\x7d' :: rest)) = some (keptMembers members, rest) := by
  match members with
  | [] => exact absurd rfl nonempty
  | (key, value) :: others =>
      obtain ⟨fuel, rfl⟩ : ∃ less, fuel = less + 1 := ⟨fuel - 1, by omega⟩
      obtain ⟨behind, colon_eq, blankBehind⟩ := exists_colon level
      simp only [membersFit, Bool.and_eq_true] at shallow
      simp only [membersText, List.length_append] at fuelled
      rw [readMembers, skipSpace_membersText]
      simp only [readBody_escaped, Option.bind_eq_bind, Option.bind_some, colon_eq, List.cons_append]
      rw [skipSpace_cons rfl]
      simp only [readValue_blanks blankBehind]
      rw [readValue_render value proper.1 shallow.1 deep (by omega) (stops_members level others blank rest)]
      cases others with
      | nil =>
          rw [renderMembers, List.nil_append]
          simp only [Option.bind_some]
          rw [skipSpace_append blank, skipSpace_cons rfl]
          simp [keptMembers]
      | cons next others =>
          rw [renderMembers_cons] at fuelled ⊢
          rw [List.length_cons] at fuelled
          simp only [Option.bind_some, List.cons_append]
          rw [skipSpace_cons rfl]
          simp only
          rw [readMembers_render (next :: others) proper.2 shallow.2 deep (by simp) (by omega) blank]
          simp [keptMembers]

end

theorem read_write {value : Json} (proper : Proper value) {pretty : Bool} {text : String}
    (written : write? pretty value = some text) : read? text = some value.kept := by
  unfold write? at written
  split at written
  · rename_i shallow
    cases written
    have stops : Stops [] := fun _ impossible => by cases impossible
    have read := readValue_render value proper shallow (by decide : writeDepth < readDepth)
      (Nat.le_succ (2 * (render (if pretty then some 0 else none) value).length + 1)) stops
    rw [List.append_nil] at read
    simp only [read?, String.toList_ofList, read]
    rfl
  · cases written

theorem readBytes_toUTF8 (text : String) : readBytes? text.toUTF8 = read? text := by
  have decoded : String.fromUTF8? text.toUTF8 = some text := dif_pos text.isValidUTF8
  rw [readBytes?, decoded]
  rfl

mutual

theorem render_kept (level : Option Nat) (value : Json) : render level value.kept = render level value := by
  match value with
  | .null | .bool _ | .int _ | .text _ => rfl
  | .float number =>
      by_cases finite : number.isFinite = true
      · rw [kept, if_pos finite]
      · rw [kept, if_neg finite, render, render, renderFloat, if_neg finite]
  | .list [] => rfl
  | .list (item :: rest) => rw [kept, keptItems, render, render, render_kept _ item, renderItems_kept _ rest]
  | .object [] => rfl
  | .object ((key, value) :: rest) =>
      rw [kept, keptMembers, render, render, render_kept _ value, renderMembers_kept _ rest]

theorem renderItems_kept (level : Option Nat) (items : List Json) :
    renderItems level (keptItems items) = renderItems level items := by
  match items with
  | [] => rfl
  | item :: rest => rw [keptItems, renderItems, renderItems, render_kept level item, renderItems_kept level rest]

theorem renderMembers_kept (level : Option Nat) (members : List (String × Json)) :
    renderMembers level (keptMembers members) = renderMembers level members := by
  match members with
  | [] => rfl
  | (key, value) :: rest =>
      rw [keptMembers, renderMembers, renderMembers, render_kept level value, renderMembers_kept level rest]

end

mutual

theorem fits_kept (levels : Nat) (value : Json) : fits levels value.kept = fits levels value := by
  match levels, value with
  | _, .null | _, .bool _ | _, .int _ | _, .text _ => rfl
  | levels, .float number =>
      rw [kept]
      split <;> cases levels <;> rfl
  | 0, .list [] | 0, .list (_ :: _) | 0, .object _ => rfl
  | levels + 1, .list items => rw [kept, fits, fits, itemsFit_kept levels items]
  | levels + 1, .object members => rw [kept, fits, fits, membersFit_kept levels members]

theorem itemsFit_kept (levels : Nat) (items : List Json) : itemsFit levels (keptItems items) = itemsFit levels items := by
  match items with
  | [] => rfl
  | item :: rest => rw [keptItems, itemsFit, itemsFit, fits_kept levels item, itemsFit_kept levels rest]

theorem membersFit_kept (levels : Nat) (members : List (String × Json)) :
    membersFit levels (keptMembers members) = membersFit levels members := by
  match members with
  | [] => rfl
  | (key, value) :: rest => rw [keptMembers, membersFit, membersFit, fits_kept levels value, membersFit_kept levels rest]

end

mutual

theorem fits_more {levels : Nat} (value : Json) (shallow : fits levels value = true) {more : Nat}
    (room : levels ≤ more) : fits more value = true := by
  match more, value with
  | more, .null | more, .bool _ | more, .int _ | more, .float _ | more, .text _ => cases more <;> rfl
  | 0, .list _ | 0, .object _ =>
      obtain rfl := Nat.le_zero.mp room
      exact shallow
  | more + 1, .list [] => rfl
  | more + 1, .list (item :: rest) =>
      cases levels with
      | zero => cases shallow
      | succ levels => exact itemsFit_more (item :: rest) shallow (Nat.le_of_succ_le_succ room)
  | more + 1, .object members =>
      cases levels with
      | zero => cases shallow
      | succ levels => exact membersFit_more members shallow (Nat.le_of_succ_le_succ room)

theorem itemsFit_more {levels : Nat} (items : List Json) (shallow : itemsFit levels items = true) {more : Nat}
    (room : levels ≤ more) : itemsFit more items = true := by
  match items with
  | [] => rfl
  | item :: rest =>
      simp only [itemsFit, Bool.and_eq_true] at shallow ⊢
      exact ⟨fits_more item shallow.1 room, itemsFit_more rest shallow.2 room⟩

theorem membersFit_more {levels : Nat} (members : List (String × Json)) (shallow : membersFit levels members = true)
    {more : Nat} (room : levels ≤ more) : membersFit more members = true := by
  match members with
  | [] => rfl
  | (_, value) :: rest =>
      simp only [membersFit, Bool.and_eq_true] at shallow ⊢
      exact ⟨fits_more value shallow.1 room, membersFit_more rest shallow.2 room⟩

end

theorem strictCodec_lawful : strictCodec.Lawful where
  writes pretty value _ shallow := by
    have fit : fits writeDepth value = true := fits_more value shallow (by decide)
    refine ⟨String.ofList (render (if pretty then some 0 else none) value), ?_⟩
    simp only [strictCodec, write?, if_pos fit]
    rfl
  writesNull pretty value := by
    simp only [strictCodec, write?, fits_kept, render_kept]
  readsOwn pretty value text proper same written := by
    simp only [strictCodec] at written ⊢
    cases found : write? pretty value with
    | none =>
        rw [found] at written
        cases written
    | some shown =>
        rw [found] at written
        cases written
        rw [read_write proper found, same]
        rfl
  readsBytes text := by
    simp only [strictCodec, readBytes_toUTF8]

end InputBinding.Json
