import InputBinding.Json.Codec

/-!
What may be relied on of a codec, whichever it is. It reads its own texts as the values that they were written
of, and writes null for a number that is not finite, since no JSON text can say it.
-/

namespace InputBinding.Json

def Exact (value : Int) : Prop :=
  -0x8000000000000000 ≤ value ∧ value < 0x10000000000000000

mutual

/-- Whole numbers stay in the range in which they are exact, and no key stands twice in an object. -/
def Proper : Json → Prop
  | .int value => Exact value
  | .list items => ProperItems items
  | .object members => (members.map Prod.fst).Nodup ∧ ProperMembers members
  | _ => True

def ProperItems : List Json → Prop
  | [] => True
  | item :: rest => Proper item ∧ ProperItems rest

def ProperMembers : List (String × Json) → Prop
  | [] => True
  | (_, value) :: rest => Proper value ∧ ProperMembers rest

end

mutual

/-- A value with null for every number in it that is not finite. -/
def kept : Json → Json
  | .float value => if value.isFinite then .float value else .null
  | .list items => .list (keptItems items)
  | .object members => .object (keptMembers members)
  | value => value

def keptItems : List Json → List Json
  | [] => []
  | item :: rest => kept item :: keptItems rest

def keptMembers : List (String × Json) → List (String × Json)
  | [] => []
  | (key, value) :: rest => (key, kept value) :: keptMembers rest

end

/-- The least number of levels that every codec can write. The limits of codecs are far above it. -/
def leastLevels : Nat := 16

/-- The laws of a codec, compact or indented. -/
structure Codec.Lawful (codec : Codec) : Prop where
  writes : ∀ pretty value, Proper value → fits leastLevels value = true → ∃ text, codec.write pretty value = .ok text
  writesNull : ∀ pretty value, codec.write pretty value = codec.write pretty value.kept
  readsOwn : ∀ pretty value text, Proper value → value.kept = value → codec.write pretty value = .ok text →
    codec.readText text = .ok value
  readsBytes : ∀ text, codec.readBytes text.toUTF8 = codec.readText text

theorem map_fst_keptMembers (members : List (String × Json)) :
    (keptMembers members).map Prod.fst = members.map Prod.fst := by
  induction members with
  | nil => rfl
  | cons member rest ih => rw [keptMembers, List.map_cons, List.map_cons, ih]

mutual

theorem kept_kept (value : Json) : value.kept.kept = value.kept := by
  match value with
  | .null | .bool _ | .int _ | .text _ => rfl
  | .float number =>
      rw [kept]
      split
      · rw [kept, if_pos ‹_›]
      · rfl
  | .list items => rw [kept, kept, keptItems_keptItems items]
  | .object members => rw [kept, kept, keptMembers_keptMembers members]

theorem keptItems_keptItems (items : List Json) : keptItems (keptItems items) = keptItems items := by
  match items with
  | [] => rfl
  | item :: rest => rw [keptItems, keptItems, kept_kept item, keptItems_keptItems rest]

theorem keptMembers_keptMembers (members : List (String × Json)) :
    keptMembers (keptMembers members) = keptMembers members := by
  match members with
  | [] => rfl
  | (key, value) :: rest => rw [keptMembers, keptMembers, kept_kept value, keptMembers_keptMembers rest]

end

mutual

theorem proper_kept (value : Json) (proper : Proper value) : Proper value.kept := by
  match value with
  | .null | .bool _ | .int _ | .text _ => exact proper
  | .float number =>
      rw [kept]
      split <;> trivial
  | .list items => exact properItems_kept items proper
  | .object members =>
      refine ⟨?_, properMembers_kept members proper.2⟩
      rw [map_fst_keptMembers]
      exact proper.1

theorem properItems_kept (items : List Json) (proper : ProperItems items) : ProperItems (keptItems items) := by
  match items with
  | [] => trivial
  | item :: rest => exact ⟨proper_kept item proper.1, properItems_kept rest proper.2⟩

theorem properMembers_kept (members : List (String × Json)) (proper : ProperMembers members) :
    ProperMembers (keptMembers members) := by
  match members with
  | [] => trivial
  | (key, value) :: rest => exact ⟨proper_kept value proper.1, properMembers_kept rest proper.2⟩

end

theorem Codec.Lawful.reads_kept {codec : Codec} (lawful : codec.Lawful) {pretty : Bool} {value : Json} {text : String}
    (proper : Proper value) (written : codec.write pretty value = .ok text) : codec.readText text = .ok value.kept := by
  rw [lawful.writesNull] at written
  exact lawful.readsOwn pretty value.kept text (proper_kept value proper) (kept_kept value) written

end InputBinding.Json
