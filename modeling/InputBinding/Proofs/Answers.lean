import Mathlib.Data.List.Forall2
import InputBinding.Inquiry

/-!
Results that may be faults, and the answers of inquiries: what is known once the whole has succeeded.
-/

namespace InputBinding

variable {ε : Type}

@[simp] theorem ok_bind (value : α) (next : α → Except ε β) : (Except.ok value >>= next) = next value := rfl

@[simp] theorem error_bind (error : ε) (next : α → Except ε β) :
    (Except.error error >>= next) = .error error := rfl

theorem bind_eq_ok {result : Except ε α} {next : α → Except ε β} {value : β}
    (succeeded : (result >>= next) = .ok value) :
    ∃ middle, result = .ok middle ∧ next middle = .ok value := by
  cases result with
  | error error => cases succeeded
  | ok middle => exact ⟨middle, rfl, succeeded⟩

theorem map_eq_ok {change : α → β} {result : Except ε α} {value : β}
    (mapped : result.map change = .ok value) : ∃ inner, result = .ok inner ∧ change inner = value := by
  cases result with
  | error error => cases mapped
  | ok inner => exact ⟨inner, rfl, Except.ok.inj mapped⟩

theorem eq_ok_of_toOption {result : Except ε α} {value : α} (found : result.toOption = some value) :
    result = .ok value := by
  cases result with
  | error _ => cases found
  | ok _ => exact congrArg Except.ok (Option.some.inj found)

theorem exists_forall₂_iff {related : α → β → Prop} {items : List α} :
    (∃ values, List.Forall₂ related items values) ↔ ∀ item ∈ items, ∃ value, related item value := by
  constructor
  · rintro ⟨values, each⟩
    induction each with
    | nil => simp
    | cons head _ ih =>
        intro item member
        rcases List.mem_cons.mp member with rfl | later
        · exact ⟨_, head⟩
        · exact ih item later
  · intro each
    induction items with
    | nil => exact ⟨[], .nil⟩
    | cons item rest ih =>
        obtain ⟨value, head⟩ := each item List.mem_cons_self
        obtain ⟨values, tail⟩ := ih fun other member => each other (List.mem_cons_of_mem _ member)
        exact ⟨value :: values, .cons head tail⟩

theorem mapM_eq_ok_iff {read : α → Except ε β} {items : List α} {values : List β} :
    items.mapM read = .ok values ↔ List.Forall₂ (fun item value => read item = .ok value) items values := by
  constructor
  · intro succeeded
    induction items generalizing values with
    | nil =>
        cases succeeded
        exact .nil
    | cons item rest ih =>
        rw [List.mapM_cons] at succeeded
        obtain ⟨first, head, succeeded⟩ := bind_eq_ok succeeded
        obtain ⟨others, tail, succeeded⟩ := bind_eq_ok succeeded
        cases succeeded
        exact .cons head (ih tail)
  · intro each
    induction each with
    | nil => rfl
    | cons head _ ih =>
        rw [List.mapM_cons, head, ok_bind, ih]
        rfl

theorem exists_of_mapM {read : α → Except ε β} {items : List α} {values : List β}
    (succeeded : items.mapM read = .ok values) :
    ∀ value ∈ values, ∃ item ∈ items, read item = .ok value := by
  have each := mapM_eq_ok_iff.mp succeeded
  induction each with
  | nil => simp
  | cons head tail ih =>
      intro value member
      rcases List.mem_cons.mp member with rfl | later
      · exact ⟨_, List.mem_cons_self, head⟩
      · obtain ⟨source, listed, read⟩ := ih (mapM_eq_ok_iff.mpr tail) value later
        exact ⟨source, List.mem_cons_of_mem _ listed, read⟩

namespace Inquiry

@[simp] theorem answer_ofExcept (answer : Except Fault α) : (ofExcept answer).answer = answer := rfl

@[simp] theorem answer_consult (lookup : Lookup) (name : String) (found : Bool) :
    (consult lookup name found).answer = .ok found := rfl

@[simp] theorem answer_map (change : α → β) (inquiry : Inquiry α) :
    (change <$> inquiry).answer = inquiry.answer >>= fun value => .ok (change value) := by
  rcases inquiry with ⟨consulted, fault | value⟩ <;> rfl

theorem answer_bind_ok {inquiry : Inquiry α} {next : α → Inquiry β} {value : β}
    (answered : (inquiry >>= next).answer = .ok value) :
    ∃ middle, inquiry.answer = .ok middle ∧ (next middle).answer = .ok value := by
  rw [answer_bind] at answered
  exact bind_eq_ok answered

theorem answer_all {test : α → Inquiry Bool} {items others : List α}
    (same : List.Forall₂ (fun item other => (test item).answer = (test other).answer) items others) :
    (all test items).answer = (all test others).answer := by
  induction same with
  | nil => rfl
  | cons head _ ih =>
      simp only [all, answer_bind, head]
      congr 1
      funext passed
      cases passed
      · rfl
      · exact ih

theorem answer_all_pair {test : α → Inquiry Bool} {first second : α} {passed : Bool}
    (tested : (test first).answer = .ok passed) (failed : (test second).answer = .ok false) :
    (all test [first, second]).answer = .ok false := by
  cases passed <;> simp [all, tested, failed]

end Inquiry

end InputBinding
