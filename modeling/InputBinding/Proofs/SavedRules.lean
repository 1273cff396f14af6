import InputBinding.Rule.Archive
import InputBinding.Proofs.FloatOrder
import InputBinding.Proofs.Readings
import InputBinding.Proofs.WrittenJson

/-!
Saved lists of rules are loaded as they were, whichever codec reads and writes them as long as it keeps the laws of
codecs. The one thing that a saved list cannot say is a time limit that is not finite.
-/

namespace InputBinding

open Float.Model

def InUnit (value : Float) : Prop :=
  0.0 ≤ value ∧ value ≤ 1.0 ∧ value.isNaN = false

theorem isFinite_between {value : Float} (low : 0.0 < value) (high : value < 1.0) : value.isFinite = true := by
  rw [float_lt_iff] at low high
  change value.toModel.unpack.isFinite = true
  generalize value.toModel.unpack = unpacked at low high
  cases unpacked with
  | notANumber => cases low
  | zero sign | finite sign => rfl
  | infinity sign =>
      cases sign with
      | positive => cases high
      | negative => cases low

theorem clampUnit_cases (value : Float) :
    clampUnit value = 0.0 ∨ clampUnit value = 1.0 ∨ (clampUnit value = value ∧ 0.0 < value ∧ value < 1.0) := by
  unfold clampUnit
  dsimp only
  by_cases low : 0.0 < value
  · rw [if_pos low]
    by_cases high : value < 1.0
    · exact Or.inr (Or.inr ⟨if_pos high, low, high⟩)
    · exact Or.inr (Or.inl (if_neg high))
  · rw [if_neg low]
    exact Or.inl (if_pos (by decide))

theorem clampUnit_inUnit (value : Float) : InUnit (clampUnit value) := by
  rcases clampUnit_cases value with zero | one | ⟨same, low, high⟩
  · rw [zero]
    exact ⟨by decide, by decide, by decide⟩
  · rw [one]
    exact ⟨by decide, by decide, by decide⟩
  · rw [same]
    exact ⟨float_le_of_lt low, float_le_of_lt high, (isNaN_of_le (float_le_of_lt low)).2⟩

theorem clampUnit_isFinite (value : Float) : (clampUnit value).isFinite = true := by
  rcases clampUnit_cases value with zero | one | ⟨same, low, high⟩
  · rw [zero]
    decide
  · rw [one]
    decide
  · rw [same]
    exact isFinite_between low high

theorem clampUnit_clampUnit (value : Float) : clampUnit (clampUnit value) = clampUnit value := by
  rcases clampUnit_cases value with zero | one | ⟨same, _⟩
  · rw [zero]
    decide
  · rw [one]
    decide
  · rw [same, same]

namespace Rule

/-- A rule whose tolerances are kept as they are when it is read. -/
def Clamped (rule : Rule) : Prop :=
  clampUnit rule.firstTolerance = rule.firstTolerance ∧ clampUnit rule.secondTolerance = rule.secondTolerance

theorem clamped_of_ofMembers {members : List (String × Json)} {rule : Rule} (read : ofMembers members = .ok rule) :
    rule.Clamped := by
  unfold ofMembers at read
  obtain ⟨category, _, read⟩ := bind_eq_ok read
  obtain ⟨kind, _, read⟩ := bind_eq_ok read
  obtain ⟨firstDirection, _, read⟩ := bind_eq_ok read
  obtain ⟨secondDirection, _, read⟩ := bind_eq_ok read
  obtain ⟨firstTolerance, _, read⟩ := bind_eq_ok read
  obtain ⟨secondTolerance, _, read⟩ := bind_eq_ok read
  obtain ⟨timeLimit, _, read⟩ := bind_eq_ok read
  cases read
  exact ⟨clampUnit_clampUnit firstTolerance, clampUnit_clampUnit secondTolerance⟩

def membersWith (rule : Rule) (limit : Json) : List (String × Json) :=
  rule.toMembers.dropLast ++ [("time_limit", limit)]

theorem toMembers_eq (rule : Rule) : rule.toMembers = rule.membersWith (.float rule.timeLimit) := rfl

theorem readCategory_members (rule : Rule) (limit : Json) : readCategory (rule.membersWith limit) = .ok rule.category := by
  have read : readLabel [.button, .axis] Category.label "InputCategory" (.text rule.category.label) = .ok rule.category := by
    cases rule.category <;> rfl
  exact read

theorem readKind_members (rule : Rule) (limit : Json) : readKind (rule.membersWith limit) = .ok rule.kind := by
  have read : readLabel [.standard, .combo, .sequence] Kind.label "InputType" (.text rule.kind.label) = .ok rule.kind := by
    cases rule.kind <;> rfl
  exact read

theorem readLabel_direction (direction : Direction) :
    readLabel [.neutral, .positive, .negative] Direction.label "AxisDirection" (.text direction.label) = .ok direction := by
  cases direction <;> rfl

theorem ofMembers_membersWith {rule : Rule} (clamped : rule.Clamped) (limit : Json) :
    ofMembers (rule.membersWith limit) = limit.toFloat.map fun value => { rule with timeLimit := value } := by
  obtain ⟨first, second⟩ := clamped
  have firstDirection : readDirection (rule.membersWith limit) "axis1_dir" = .ok rule.firstDirection :=
    readLabel_direction rule.firstDirection
  have secondDirection : readDirection (rule.membersWith limit) "axis2_dir" = .ok rule.secondDirection :=
    readLabel_direction rule.secondDirection
  have firstTolerance : readFloatField (rule.membersWith limit) "axis1_tolerance" = .ok rule.firstTolerance := rfl
  have secondTolerance : readFloatField (rule.membersWith limit) "axis2_tolerance" = .ok rule.secondTolerance := rfl
  have timeLimit : readFloatField (rule.membersWith limit) "time_limit" = limit.toFloat := rfl
  have descriptor : readDescriptor (rule.membersWith limit) = rule.descriptor := rfl
  unfold ofMembers
  rw [readCategory_members, readKind_members, firstDirection, secondDirection, firstTolerance, secondTolerance, timeLimit]
  simp only [ok_bind, descriptor, first, second]
  cases limit.toFloat <;> rfl

theorem ofMembers_toMembers {rule : Rule} (clamped : rule.Clamped) : ofMembers rule.toMembers = .ok rule := by
  rw [toMembers_eq, ofMembers_membersWith clamped]
  rfl

theorem keptMembers_toMembers {rule : Rule} (clamped : rule.Clamped) :
    Json.keptMembers rule.toMembers = rule.membersWith (Json.kept (.float rule.timeLimit)) := by
  have firstFinite : rule.firstTolerance.isFinite = true := by
    rw [← clamped.1]
    exact clampUnit_isFinite _
  have secondFinite : rule.secondTolerance.isFinite = true := by
    rw [← clamped.2]
    exact clampUnit_isFinite _
  simp [toMembers, membersWith, Json.keptMembers, Json.kept, firstFinite, secondFinite]

theorem ofMembers_kept {rule : Rule} (clamped : rule.Clamped) :
    ofMembers (Json.keptMembers rule.toMembers) =
      if rule.timeLimit.isFinite then .ok rule else .error (.notConvertible .null) := by
  rw [keptMembers_toMembers clamped, ofMembers_membersWith clamped, Json.kept]
  split <;> rfl

end Rule

namespace Archive

theorem clamped_of_rulesOf {value : Json} {rules : List Rule} (read : rulesOf value = .ok rules) :
    ∀ rule ∈ rules, rule.Clamped := by
  intro rule member
  cases value with
  | object members =>
      unfold rulesOf at read
      dsimp only at read
      split at read
      · cases read
      · split at read
        · obtain ⟨item, _, found⟩ := exists_of_mapM read rule member
          cases item with
          | object members => exact Rule.clamped_of_ofMembers found
          | null | bool _ | int _ | float _ | text _ | list _ => cases found
        · cases read
  | null | bool _ | int _ | float _ | text _ | list _ => cases read

theorem mapM_ruleOf {rules : List Rule} (clamped : ∀ rule ∈ rules, rule.Clamped) :
    (Json.keptItems (rules.map fun rule => .object rule.toMembers)).mapM ruleOf =
      if ∀ rule ∈ rules, rule.timeLimit.isFinite = true then .ok rules else .error (.notConvertible .null) := by
  induction rules with
  | nil => rfl
  | cons rule rest ih =>
      have first : ruleOf (Json.kept (.object rule.toMembers)) =
          if rule.timeLimit.isFinite then .ok rule else .error (.notConvertible .null) :=
        Rule.ofMembers_kept (clamped rule List.mem_cons_self)
      have others := ih fun other member => clamped other (List.mem_cons_of_mem rule member)
      rw [List.map_cons, Json.keptItems, List.mapM_cons, first, others]
      simp only [List.forall_mem_cons]
      by_cases finite : rule.timeLimit.isFinite = true
      · by_cases restFinite : ∀ other ∈ rest, other.timeLimit.isFinite = true
        · rw [if_pos finite, if_pos restFinite, if_pos ⟨finite, restFinite⟩]
          rfl
        · have notAll : ¬ (rule.timeLimit.isFinite = true ∧ ∀ other ∈ rest, other.timeLimit.isFinite = true) :=
            fun all => restFinite all.2
          rw [if_pos finite, if_neg restFinite, if_neg notAll]
          rfl
      · have notAll : ¬ (rule.timeLimit.isFinite = true ∧ ∀ other ∈ rest, other.timeLimit.isFinite = true) :=
          fun all => finite all.1
        rw [if_neg finite, if_neg notAll]
        rfl

theorem rulesOf_kept {rules : List Rule} (clamped : ∀ rule ∈ rules, rule.Clamped) :
    rulesOf (document rules).kept =
      if ∀ rule ∈ rules, rule.timeLimit.isFinite = true then .ok rules else .error (.notConvertible .null) :=
  mapM_ruleOf clamped

theorem proper_items (rules : List Rule) : Json.ProperItems (rules.map fun rule => .object rule.toMembers) := by
  induction rules with
  | nil => trivial
  | cons rule rest ih =>
      have keys : (rule.toMembers.map Prod.fst).Nodup := by
        change ["descriptor", "category", "type", "axis1_dir", "axis2_dir", "axis1_tolerance", "axis2_tolerance",
          "time_limit"].Nodup
        decide
      exact ⟨⟨keys, trivial, trivial, trivial, trivial, trivial, trivial, trivial, trivial, trivial⟩, ih⟩

theorem proper_document (rules : List Rule) : Json.Proper (document rules) := by
  have keys : ["schema_version", "mappings"].Nodup := by decide
  have version : Json.Exact currentVersion := by
    unfold Json.Exact currentVersion
    omega
  exact ⟨keys, version, proper_items rules, trivial⟩

theorem fits_document (rules : List Rule) : Json.fits Json.leastLevels (document rules) = true := by
  have items (count : Nat) : Json.itemsFit (count + 2) (rules.map fun rule => .object rule.toMembers) = true := by
    induction rules with
    | nil => rfl
    | cons rule rest ih =>
        rw [List.map_cons, Json.itemsFit, ih]
        rfl
  have list : Json.fits (Json.leastLevels - 1) (.list (rules.map fun rule => .object rule.toMembers)) = true :=
    items (Json.leastLevels - 4)
  change (true && (Json.fits (Json.leastLevels - 1) (.list (rules.map fun rule => .object rule.toMembers)) && true)) = true
  rw [list]
  rfl

section Codecs

variable {codec : Json.Codec} {rules : List Rule}

theorem clamped_of_bind {decoded : Except Fault Json} (loaded : decoded >>= rulesOf = .ok rules) :
    ∀ rule ∈ rules, rule.Clamped := by
  obtain ⟨value, _, read⟩ := bind_eq_ok loaded
  exact clamped_of_rulesOf read

theorem load_saved (lawful : codec.Lawful) (clamped : ∀ rule ∈ rules, rule.Clamped) {pretty : Bool} {saved : String}
    (written : save codec pretty rules = .ok saved) :
    load codec saved =
      if ∀ rule ∈ rules, rule.timeLimit.isFinite = true then .ok rules else .error (.notConvertible .null) := by
  rw [load, lawful.reads_kept (proper_document rules) written]
  exact rulesOf_kept clamped

/-- Whatever was loaded can be saved, in either layout. It is loaded from there as it was if every time limit is
finite, and else not at all: a time limit that is not finite is saved as null, which no number can be read from. -/
theorem load_save (lawful : codec.Lawful)
    (loaded : (∃ text, load codec text = .ok rules) ∨ ∃ bytes, loadBytes codec bytes = .ok rules) :
    (∀ rule ∈ rules, InUnit rule.firstTolerance ∧ InUnit rule.secondTolerance ∧
      Rule.ofMembers rule.toMembers = .ok rule) ∧
    ∀ pretty, ∃ saved, save codec pretty rules = .ok saved ∧
      loadBytes codec saved.toUTF8 = load codec saved ∧
      ((∀ rule ∈ rules, rule.timeLimit.isFinite = true) → load codec saved = .ok rules) ∧
      ((∃ rule ∈ rules, rule.timeLimit.isFinite = false) →
        ∃ fault, load codec saved = .error fault ∧ fault.name = "TypeError") := by
  have clamped : ∀ rule ∈ rules, rule.Clamped := by
    rcases loaded with ⟨text, fromText⟩ | ⟨bytes, fromBytes⟩
    · exact clamped_of_bind fromText
    · exact clamped_of_bind fromBytes
  constructor
  · intro rule member
    obtain ⟨first, second⟩ := clamped rule member
    refine ⟨?_, ?_, Rule.ofMembers_toMembers (clamped rule member)⟩
    · rw [← first]
      exact clampUnit_inUnit _
    · rw [← second]
      exact clampUnit_inUnit _
  · intro pretty
    obtain ⟨saved, written⟩ := lawful.writes pretty (document rules) (proper_document rules) (fits_document rules)
    have reloaded := load_saved lawful clamped written
    refine ⟨saved, written, ?_, ?_, ?_⟩
    · rw [loadBytes, lawful.readsBytes, load]
    · intro finite
      rw [reloaded, if_pos finite]
    · rintro ⟨rule, member, infinite⟩
      have notAll : ¬ ∀ rule ∈ rules, rule.timeLimit.isFinite = true := by
        intro finite
        rw [finite rule member] at infinite
        cases infinite
      exact ⟨_, by rw [reloaded, if_neg notAll], rfl⟩

end Codecs

def carelessText (limit : String) : String :=
  "\x7b\"mappings\": [\x7b\"time_limit\": \"" ++ limit ++ "\", \"type\": \"Combo\", \"descriptor\": 7, " ++
    "\"axis1_tolerance\": \"nan\", \"axis2_tolerance\": 2\x7d], \"schema_version\": true\x7d"

def carelessRule (limit : Float) : Rule :=
  { kind := .combo, descriptor := "7", firstTolerance := 0.0, secondTolerance := 1.0, timeLimit := limit }

theorem load_save_careless :
    Json.strictCodec.Lawful ∧
    (load Json.strictCodec (carelessText " 1_0.5") = .ok [carelessRule 10.5] ∧
      ∃ saved, save Json.strictCodec true [carelessRule 10.5] = .ok saved ∧
        load Json.strictCodec saved = .ok [carelessRule 10.5]) ∧
    (load Json.strictCodec (carelessText "-Infinity") = .ok [carelessRule (Decimal.infinity true)] ∧
      ∃ saved, save Json.strictCodec false [carelessRule (Decimal.infinity true)] = .ok saved ∧
        ∃ fault, load Json.strictCodec saved = .error fault ∧ fault.name = "TypeError") := by
  have lawful := Json.strictCodec_lawful
  have brief : load Json.strictCodec (carelessText " 1_0.5") = .ok [carelessRule 10.5] :=
    eq_ok_of_toOption (by decide +kernel)
  have endless : load Json.strictCodec (carelessText "-Infinity") = .ok [carelessRule (Decimal.infinity true)] :=
    eq_ok_of_toOption (by decide +kernel)
  obtain ⟨briefSaved, briefWritten, _, briefBack, _⟩ := (load_save lawful (Or.inl ⟨_, brief⟩)).2 true
  obtain ⟨endlessSaved, endlessWritten, _, _, endlessLost⟩ := (load_save lawful (Or.inl ⟨_, endless⟩)).2 false
  exact ⟨lawful, ⟨brief, briefSaved, briefWritten, briefBack (by decide +kernel)⟩,
    endless, endlessSaved, endlessWritten, endlessLost ⟨_, List.mem_singleton_self _, by decide +kernel⟩⟩

end Archive

end InputBinding
