import InputBinding.Channel
import InputBinding.Notice

/-!
Actions that change a state, may fail, and leave a record: events on a channel and notices for the
log. A failed action keeps what it has changed and recorded so far.
-/

namespace InputBinding

structure Journal where
  channel : Option Channel := none
  notices : Array Notice := #[]

abbrev Journaled (σ α : Type) := ExceptT Fault (StateT σ (StateM Journal)) α

namespace Journaled

def perform (action : Journaled σ α) (state : σ) (journal : Journal) : (Except Fault α × σ) × Journal :=
  ((ExceptT.run action).run state).run journal

def ofPerform (action : σ → Journal → (Except Fault α × σ) × Journal) : Journaled σ α :=
  ExceptT.mk fun state journal => action state journal

def ofExcept (result : Except Fault α) : Journaled σ α :=
  ofPerform fun state journal => ((result, state), journal)

def note (notice : Notice) : Journaled σ Unit :=
  ofPerform fun state journal =>
    ((.ok (), state), { journal with notices := journal.notices.push notice })

def noteAll (notices : List Notice) : Journaled σ Unit :=
  ofPerform fun state journal =>
    ((.ok (), state), { journal with notices := journal.notices ++ notices })

/-- Sends an event; the fault of a subscriber becomes the fault of the action. -/
def announce (event : Event) : Journaled σ Unit :=
  ofPerform fun state journal =>
    match journal.channel with
    | none => ((.ok (), state), journal)
    | some channel =>
        let (fault, channel) := channel.announce event
        let result := match fault with
          | none => .ok ()
          | some fault => .error fault
        ((result, state), { journal with channel := some channel })

def openChannel (fresh : Except Fault Channel) : Journaled σ Unit :=
  ofPerform fun state journal =>
    match journal.channel, fresh with
    | some _, _ => ((.ok (), state), journal)
    | none, .ok channel => ((.ok (), state), { journal with channel := some channel })
    | none, .error fault => ((.error fault, state), journal)

def attempt (action : Journaled σ α) : Journaled σ (Except Fault α) :=
  ofPerform fun state journal =>
    let ((result, state), journal) := action.perform state journal
    ((.ok result, state), journal)

def focus (view : σ → τ) (update : τ → σ → σ) (action : Journaled τ α) : Journaled σ α :=
  ofPerform fun state journal =>
    let ((result, part), journal) := action.perform (view state) journal
    ((result, update part state), journal)

def construct (start : τ) (action : Journaled τ Unit) : Journaled σ τ :=
  ofPerform fun state journal =>
    let ((result, built), journal) := action.perform start journal
    ((result.map fun _ => built, state), journal)

@[simp] theorem perform_ofPerform (action : σ → Journal → (Except Fault α × σ) × Journal) (state : σ)
    (journal : Journal) : (ofPerform action).perform state journal = action state journal := rfl

@[simp] theorem perform_pure (value : α) (state : σ) (journal : Journal) :
    (pure value : Journaled σ α).perform state journal = ((.ok value, state), journal) := rfl

@[simp] theorem perform_throw (fault : Fault) (state : σ) (journal : Journal) :
    (throw fault : Journaled σ α).perform state journal = ((.error fault, state), journal) := rfl

theorem perform_bind (action : Journaled σ α) (next : α → Journaled σ β) (state : σ) (journal : Journal) :
    (action >>= next).perform state journal =
      match action.perform state journal with
      | ((.ok value, state), journal) => (next value).perform state journal
      | ((.error fault, state), journal) => ((.error fault, state), journal) := by
  rcases outcome : action.perform state journal with ⟨⟨fault | value, state⟩, journal⟩ <;>
  · simp only [perform, ExceptT.run, StateT.run] at outcome
    simp only [perform, ExceptT.run, StateT.run, bind, ExceptT.bind, ExceptT.mk, StateT.bind, outcome]
    rfl

end Journaled

end InputBinding
