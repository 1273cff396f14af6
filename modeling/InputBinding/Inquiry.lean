import InputBinding.Source

/-!
What is found out by asking a source, together with the names that were looked up on the way. An
inquiry has no effects: the names are listed in order, to be reported afterwards.
-/

namespace InputBinding

inductive Lookup
  | key
  | axis
  | identifier
deriving DecidableEq, Repr

def Lookup.label : Lookup → String
  | .key => "key"
  | .axis => "axis"
  | .identifier => "identifier"

structure Marker where
  lookup : Lookup
  name : String
deriving DecidableEq, Repr

structure Consultation where
  marker : Marker
  found : Bool
deriving DecidableEq, Repr

structure Inquiry (α : Type) where
  consulted : List Consultation
  answer : Except Fault α

namespace Inquiry

def pure (value : α) : Inquiry α := ⟨[], .ok value⟩

/-- A failed inquiry goes no further, but what it looked up so far stays on record. -/
def bind (inquiry : Inquiry α) (next : α → Inquiry β) : Inquiry β :=
  match inquiry.answer with
  | .error fault => ⟨inquiry.consulted, .error fault⟩
  | .ok value => ⟨inquiry.consulted ++ (next value).consulted, (next value).answer⟩

instance : Monad Inquiry where
  pure := pure
  bind := bind

def ofExcept (answer : Except Fault α) : Inquiry α := ⟨[], answer⟩

def consult (lookup : Lookup) (name : String) (found : Bool) : Inquiry Bool :=
  ⟨[⟨⟨lookup, name⟩, found⟩], .ok found⟩

def all (test : α → Inquiry Bool) : List α → Inquiry Bool
  | [] => pure true
  | item :: rest => do
      if ← test item then all test rest else return false

@[simp] theorem consulted_pure (value : α) : (Pure.pure value : Inquiry α).consulted = [] := rfl

@[simp] theorem answer_pure (value : α) : (Pure.pure value : Inquiry α).answer = .ok value := rfl

@[simp] theorem answer_bind (inquiry : Inquiry α) (next : α → Inquiry β) :
    (inquiry >>= next).answer = inquiry.answer >>= fun value => (next value).answer := by
  rcases inquiry with ⟨consulted, fault | value⟩ <;> rfl

instance : LawfulMonad Inquiry := LawfulMonad.mk' Inquiry
  (fun inquiry => by
    rcases inquiry with ⟨consulted, fault | value⟩
    · rfl
    · simp [Functor.map, bind, pure])
  (fun _ _ => rfl)
  (fun inquiry next last => by
    rcases inquiry with ⟨consulted, fault | value⟩
    · rfl
    · show bind (bind _ _) _ = bind _ _
      rcases outcome : next value with ⟨others, fault | result⟩ <;>
        simp [bind, Bind.bind, outcome])

end Inquiry

end InputBinding
