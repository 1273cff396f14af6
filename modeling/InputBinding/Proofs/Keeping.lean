import InputBinding.Proofs.Effects

/-!
Invariants of actions. Among subscribers that fail in known ways only, an action keeps an invariant of
its state and ends in a known way; the rules follow the primitives that actions are made of.
-/

namespace InputBinding

def Journal.Admits (allowed : Event → Fault → Prop) (journal : Journal) : Prop :=
  ∀ channel, journal.channel = some channel → ∀ subscriber ∈ channel.subscribers, ∀ event fault,
    subscriber.reaction event = some fault → allowed event fault

def Event.normalised (event : Event) : Event :=
  { event with category := Channel.normalise event.category }

variable {allowed : Event → Fault → Prop}

theorem Journal.quiet_iff_admits {journal : Journal} :
    journal.Quiet ↔ journal.Admits fun _ _ => False := by
  constructor
  · intro quiet channel found subscriber member event fault failed
    rw [quiet channel found subscriber member event] at failed
    cases failed
  · intro admits channel found subscriber member event
    exact Option.eq_none_iff_forall_ne_some.mpr fun fault => admits channel found subscriber member event fault

theorem Journal.Admits.mono {journal : Journal} {wider : Event → Fault → Prop} (admits : journal.Admits allowed)
    (widens : ∀ event fault, allowed event fault → wider event fault) : journal.Admits wider :=
  fun channel found subscriber member event fault failed =>
    widens event fault (admits channel found subscriber member event fault failed)

namespace Channel

theorem reach_fault {event : Event} {subscribers : List Subscriber} {fault : Fault}
    (reached : (reach event subscribers).2 = some fault) :
    ∃ subscriber ∈ subscribers, subscriber.reaction event = some fault := by
  induction subscribers with
  | nil => cases reached
  | cons subscriber rest ih =>
      cases reaction : subscriber.reaction event with
      | some other =>
          simp only [reach, reaction] at reached
          cases reached
          exact ⟨subscriber, List.mem_cons_self, reaction⟩
      | none =>
          simp only [reach, reaction] at reached
          obtain ⟨failing, member, failed⟩ := ih reached
          exact ⟨failing, List.mem_cons_of_mem _ member, failed⟩

theorem announce_fault {channel : Channel} {event : Event} {fault : Fault}
    (raised : (channel.announce event).1 = some fault) :
    ∃ subscriber ∈ channel.subscribers, subscriber.reaction event.normalised = some fault := by
  unfold announce emit at raised
  split at raised
  · exact reach_fault raised
  · cases raised

theorem subscribers_announce (channel : Channel) (event : Event) :
    (channel.announce event).2.subscribers = channel.subscribers := by
  unfold announce emit
  split <;> rfl

end Channel

namespace Journaled

/-- Among subscribers that fail as allowed, an action keeps an invariant of the state and ends as stated. -/
def Keeps (allowed : Event → Fault → Prop) (good : σ → Prop) (ends : Except Fault α → Prop)
    (action : Journaled σ α) : Prop :=
  ∀ state journal, good state → journal.Admits allowed →
    ends (action.perform state journal).1.1 ∧ good (action.perform state journal).1.2 ∧
      (action.perform state journal).2.Admits allowed

variable {good : σ → Prop} {ends : Except Fault α → Prop}

theorem keeps_pure {value : α} (ended : ends (.ok value)) : Keeps allowed good ends (pure value) :=
  fun _ _ holds admits => ⟨ended, holds, admits⟩

theorem keeps_throw {fault : Fault} (ended : ends (.error fault)) : Keeps allowed good ends (throw fault) :=
  fun _ _ holds admits => ⟨ended, holds, admits⟩

theorem keeps_ofExcept {result : Except Fault α} (ended : ends result) :
    Keeps allowed good ends (ofExcept result) :=
  fun _ _ holds admits => ⟨ended, holds, admits⟩

theorem keeps_note {ends : Except Fault Unit → Prop} (notice : Notice) (ended : ends (.ok ())) :
    Keeps allowed good ends (note notice) :=
  fun _ _ holds admits => ⟨ended, holds, admits⟩

theorem keeps_announce {ends : Except Fault Unit → Prop} {event : Event} (ended : ends (.ok ()))
    (failed : ∀ fault, allowed event.normalised fault → ends (.error fault)) :
    Keeps allowed good ends (announce event) := by
  intro state journal holds admits
  rcases journal with ⟨_ | channel, notices⟩
  · exact ⟨ended, holds, admits⟩
  · have stillAdmits : Journal.Admits allowed ⟨some (channel.announce event).2, notices⟩ := by
      intro other found subscriber member
      cases found
      rw [Channel.subscribers_announce] at member
      exact admits channel rfl subscriber member
    cases raised : (channel.announce event).1 with
    | none =>
        simp only [announce, perform_ofPerform, raised]
        exact ⟨ended, holds, stillAdmits⟩
    | some fault =>
        obtain ⟨subscriber, member, reaction⟩ := Channel.announce_fault raised
        simp only [announce, perform_ofPerform, raised]
        exact ⟨failed fault (admits channel rfl subscriber member _ fault reaction), holds, stillAdmits⟩

theorem state_announce (event : Event) (state : σ) (journal : Journal) :
    ((announce event).perform state journal).1.2 = state := by
  rcases journal with ⟨_ | channel, notices⟩
  · rfl
  · rfl

theorem keeps_get {ends : Except Fault σ → Prop} (ended : ∀ state, good state → ends (.ok state)) :
    Keeps allowed good ends get :=
  fun state _ holds admits => ⟨ended state holds, holds, admits⟩

theorem Keeps.get {next : σ → Journaled σ α} (later : ∀ state, good state → Keeps allowed good ends (next state)) :
    Keeps allowed good ends (MonadState.get >>= next) :=
  fun state journal holds admits => later state holds state journal holds admits

theorem keeps_modify {ends : Except Fault PUnit → Prop} {change : σ → σ} (ended : ends (.ok ()))
    (preserves : ∀ state, good state → good (change state)) :
    Keeps allowed good ends (modify change) :=
  fun state _ holds admits => ⟨ended, preserves state holds, admits⟩

theorem keeps_set {ends : Except Fault PUnit → Prop} {next : σ} (ended : ends (.ok ())) (kept : good next) :
    Keeps allowed good ends (set next) :=
  fun _ _ _ admits => ⟨ended, kept, admits⟩

theorem Keeps.bind {action : Journaled σ α} {next : α → Journaled σ β} {endsNext : Except Fault β → Prop}
    (first : Keeps allowed good ends action) (failed : ∀ fault, ends (.error fault) → endsNext (.error fault))
    (later : ∀ value, ends (.ok value) → Keeps allowed good endsNext (next value)) :
    Keeps allowed good endsNext (action >>= next) := by
  intro state journal holds admits
  obtain ⟨ended, kept, stillAdmits⟩ := first state journal holds admits
  rw [perform_bind]
  rcases performed : action.perform state journal with ⟨⟨fault | value, middle⟩, between⟩
  · rw [performed] at ended kept stillAdmits
    exact ⟨failed fault ended, kept, stillAdmits⟩
  · rw [performed] at ended kept stillAdmits
    exact later value ended middle between kept stillAdmits

theorem Keeps.attempt {action : Journaled σ α} (keeps : Keeps allowed good ends action) :
    Keeps allowed good (fun result => ∃ inner, result = .ok inner ∧ ends inner) (Journaled.attempt action) := by
  intro state journal holds admits
  obtain ⟨ended, kept, stillAdmits⟩ := keeps state journal holds admits
  rw [perform_attempt]
  exact ⟨⟨_, rfl, ended⟩, kept, stillAdmits⟩

theorem Keeps.focus {view : σ → τ} {update : τ → σ → σ} {part : τ → Prop} {action : Journaled τ α}
    (inner : Keeps allowed part ends action) (viewed : ∀ state, good state → part (view state))
    (updated : ∀ state inside, good state → part inside → good (update inside state)) :
    Keeps allowed good ends (Journaled.focus view update action) := by
  intro state journal holds admits
  obtain ⟨ended, kept, stillAdmits⟩ := inner (view state) journal (viewed state holds) admits
  exact ⟨ended, updated state _ holds kept, stillAdmits⟩

/-- Whatever faults subscribers raise, an action keeps an invariant of the state and raises no others. -/
def Passes (raised : Fault → Prop) (good : σ → Prop) (action : Journaled σ α) : Prop :=
  Keeps (fun _ => raised) good (fun result => ∀ fault, result = .error fault → raised fault) action

variable {raised : Fault → Prop}

theorem passes_pure (value : α) : Passes raised good (pure value) :=
  keeps_pure fun _ impossible => by cases impossible

theorem passes_throw {fault : Fault} (own : raised fault) : Passes raised good (throw fault : Journaled σ α) :=
  keeps_throw fun _ same => Except.error.inj same ▸ own

theorem passes_note (notice : Notice) : Passes raised good (note notice) :=
  keeps_note notice fun _ impossible => by cases impossible

theorem passes_announce (event : Event) : Passes raised good (announce event) :=
  keeps_announce (fun _ impossible => by cases impossible) fun _ others _ same => Except.error.inj same ▸ others

theorem passes_set {next : σ} (kept : good next) : Passes raised good (set next) :=
  keeps_set (fun _ impossible => by cases impossible) kept

theorem passes_modify {change : σ → σ} (preserves : ∀ state, good state → good (change state)) :
    Passes raised good (modify change) :=
  keeps_modify (fun _ impossible => by cases impossible) preserves

theorem Passes.bind {action : Journaled σ α} {next : α → Journaled σ β} (first : Passes raised good action)
    (later : ∀ value, Passes raised good (next value)) : Passes raised good (action >>= next) := by
  apply Keeps.bind first
  · intro fault ended other same
    exact Except.error.inj same ▸ ended fault rfl
  · exact fun value _ => later value

theorem passes_any (action : Journaled σ α) : Passes (fun _ => True) (fun _ => True) action :=
  fun _ _ _ _ => ⟨fun _ _ => trivial, trivial, fun _ _ _ _ _ _ _ => trivial⟩

theorem Passes.state {action : Journaled σ α} (passes : Passes (fun _ => True) good action) {state : σ}
    (holds : good state) (journal : Journal) : good (action.perform state journal).1.2 :=
  (passes state journal holds fun _ _ _ _ _ _ _ => trivial).2.1

def Lasts (good : σ → Prop) (gives : α → Prop) (action : Journaled σ α) : Prop :=
  Keeps (fun _ _ => False) good (fun result => ∀ value, result = .ok value → gives value) action

variable {gives : α → Prop}

theorem lasts_pure {value : α} (given : gives value) : Lasts good gives (pure value) :=
  keeps_pure fun _ same => Except.ok.inj same ▸ given

theorem lasts_throw (fault : Fault) : Lasts good gives (throw fault) :=
  keeps_throw fun _ impossible => by cases impossible

theorem lasts_ofExcept {result : Except Fault α} (given : ∀ value, result = .ok value → gives value) :
    Lasts good gives (ofExcept result) :=
  keeps_ofExcept given

theorem lasts_note (notice : Notice) : Lasts good (fun _ => True) (note notice) :=
  keeps_note notice fun _ _ => trivial

theorem lasts_announce (event : Event) : Lasts good (fun _ => True) (announce event) :=
  keeps_announce (fun _ _ => trivial) fun _ impossible => impossible.elim

theorem lasts_get : Lasts good good get :=
  keeps_get fun _ holds _ same => Except.ok.inj same ▸ holds

theorem lasts_modify {change : σ → σ} (preserves : ∀ state, good state → good (change state)) :
    Lasts good (fun _ => True) (modify change) :=
  keeps_modify (fun _ _ => trivial) preserves

theorem lasts_set {next : σ} (kept : good next) : Lasts good (fun _ => True) (set next) :=
  keeps_set (fun _ _ => trivial) kept

theorem Lasts.bind {action : Journaled σ α} {next : α → Journaled σ β} {givesNext : β → Prop}
    (first : Lasts good gives action) (later : ∀ value, gives value → Lasts good givesNext (next value)) :
    Lasts good givesNext (action >>= next) := by
  apply Keeps.bind first
  · intro fault _ value impossible
    cases impossible
  · intro value given
    exact later value (given value rfl)

theorem lasts_throw_bind (fault : Fault) (next : β → Journaled σ α) : Lasts good gives (throw fault >>= next) := by
  have stops : Lasts good (fun _ : β => False) (throw fault) := lasts_throw fault
  exact stops.bind fun _ impossible => impossible.elim

theorem Lasts.map {action : Journaled σ α} (lasts : Lasts good (fun _ => True) action) (change : α → β) :
    Lasts good (fun _ => True) (change <$> action) := by
  intro state journal holds admits
  obtain ⟨_, kept, stillAdmits⟩ := lasts state journal holds admits
  rw [perform_map]
  exact ⟨fun _ _ => trivial, kept, stillAdmits⟩

theorem Lasts.focus {view : σ → τ} {update : τ → σ → σ} {part : τ → Prop} {action : Journaled τ α}
    (inner : Lasts part gives action) (viewed : ∀ state, good state → part (view state))
    (updated : ∀ state inside, good state → part inside → good (update inside state)) :
    Lasts good gives (Journaled.focus view update action) :=
  Keeps.focus inner viewed updated

theorem Follows.lasts {kept : σ → τ} {action : Journaled σ α} {plain : σ → Except Fault α × σ}
    (follows : Follows kept action plain) (preserves : ∀ state, good state → good (plain state).2)
    (given : ∀ state value, (plain state).1 = .ok value → gives value) : Lasts good gives action := by
  intro state journal holds admits
  rcases follows state journal with ⟨after, ended, calm⟩ | ⟨loud, _⟩
  · rw [ended]
    have quiet := calm (Journal.quiet_iff_admits.mpr admits)
    exact ⟨given state, preserves state holds, Journal.quiet_iff_admits.mp quiet⟩
  · exact absurd (Journal.quiet_iff_admits.mpr admits) loud

end Journaled

end InputBinding
