import InputBinding.Proofs.Answers
import InputBinding.Resolver

/-!
What actions on a state and a journal amount to once the reports are left out. A plain function of
the state says how an action ends; only a subscriber that fails on an event can make it end otherwise.
-/

namespace InputBinding

def Channel.Quiet (channel : Channel) : Prop :=
  ∀ subscriber ∈ channel.subscribers, ∀ event, subscriber.reaction event = none

def Journal.Quiet (journal : Journal) : Prop :=
  ∀ channel, journal.channel = some channel → channel.Quiet

theorem Journal.quiet_of_no_channel {journal : Journal} (absent : journal.channel = none) : journal.Quiet := by
  intro channel found
  cases absent.symm.trans found

namespace Channel

theorem reach_quiet (event : Event) (subscribers : List Subscriber)
    (calm : ∀ subscriber ∈ subscribers, ∀ event, subscriber.reaction event = none) :
    (reach event subscribers).2 = none := by
  induction subscribers with
  | nil => rfl
  | cons subscriber rest ih =>
      have silent := calm subscriber (by simp) event
      simp only [reach, silent]
      exact ih fun other member => calm other (by simp [member])

theorem emit_quiet {channel : Channel} (quiet : channel.Quiet) (event : Event) :
    (channel.emit event).1 = none ∧ (channel.emit event).2.Quiet := by
  unfold emit
  split
  · exact ⟨reach_quiet event channel.subscribers quiet, quiet⟩
  · exact ⟨rfl, quiet⟩

end Channel

namespace Journaled

@[simp] theorem perform_get (state : σ) (journal : Journal) :
    (get : Journaled σ σ).perform state journal = ((.ok state, state), journal) := rfl

@[simp] theorem perform_set (next state : σ) (journal : Journal) :
    (set next : Journaled σ PUnit).perform state journal = ((.ok (), next), journal) := rfl

@[simp] theorem perform_modify (change : σ → σ) (state : σ) (journal : Journal) :
    (modify change : Journaled σ PUnit).perform state journal = ((.ok (), change state), journal) := rfl

@[simp] theorem perform_ofExcept (result : Except Fault α) (state : σ) (journal : Journal) :
    (ofExcept result).perform state journal = ((result, state), journal) := rfl

@[simp] theorem perform_note (notice : Notice) (state : σ) (journal : Journal) :
    (note notice).perform state journal =
      ((.ok (), state), { journal with notices := journal.notices.push notice }) := rfl

@[simp] theorem perform_noteAll (notices : List Notice) (state : σ) (journal : Journal) :
    (noteAll notices).perform state journal =
      ((.ok (), state), { journal with notices := journal.notices ++ notices }) := rfl

@[simp] theorem perform_attempt (action : Journaled σ α) (state : σ) (journal : Journal) :
    (attempt action).perform state journal =
      ((.ok (action.perform state journal).1.1, (action.perform state journal).1.2),
        (action.perform state journal).2) := rfl

@[simp] theorem perform_focus (view : σ → τ) (update : τ → σ → σ) (action : Journaled τ α)
    (state : σ) (journal : Journal) :
    (focus view update action).perform state journal =
      (((action.perform (view state) journal).1.1,
        update (action.perform (view state) journal).1.2 state),
        (action.perform (view state) journal).2) := rfl

@[simp] theorem perform_map (change : α → β) (action : Journaled σ α) (state : σ) (journal : Journal) :
    (change <$> action).perform state journal =
      (((action.perform state journal).1.1.map change, (action.perform state journal).1.2),
        (action.perform state journal).2) := by
  rw [map_eq_pure_bind, perform_bind]
  rcases action.perform state journal with ⟨⟨fault | value, after⟩, closing⟩ <;> rfl

/-- Started in a state, an action ends as expected, unless a subscriber fails on one of its events;
even then it leaves a part of the state alone. -/
def EndsAs (kept : σ → τ) (action : Journaled σ α) (state : σ) (expected : Except Fault α × σ) : Prop :=
  ∀ journal,
    (∃ after, action.perform state journal = (expected, after) ∧ (journal.Quiet → after.Quiet)) ∨
    (¬ journal.Quiet ∧ ∃ fault left after,
      action.perform state journal = ((.error fault, left), after) ∧ kept left = kept state)

/-- An action ends as a plain function of the state says. -/
def Follows (kept : σ → τ) (action : Journaled σ α) (plain : σ → Except Fault α × σ) : Prop :=
  ∀ state, EndsAs kept action state (plain state)

theorem EndsAs.start {kept : σ → τ} {action other : Journaled σ α} {state first : σ}
    {expected : Except Fault α × σ} (ends : EndsAs kept other first expected)
    (same : ∀ journal, action.perform state journal = other.perform first journal)
    (keeps : kept first = kept state) : EndsAs kept action state expected := by
  intro journal
  rw [same journal, ← keeps]
  exact ends journal

theorem EndsAs.quiet {kept : σ → τ} {action : Journaled σ α} {state : σ} {expected : Except Fault α × σ}
    (ends : EndsAs kept action state expected) {journal : Journal} (quiet : journal.Quiet) :
    ∃ after, after.Quiet ∧ action.perform state journal = (expected, after) := by
  rcases ends journal with ⟨after, ended, calm⟩ | ⟨loud, _⟩
  · exact ⟨after, calm quiet, ended⟩
  · exact absurd quiet loud

theorem EndsAs.map {kept : σ → τ} {action : Journaled σ α} {state : σ} {expected : Except Fault α × σ}
    (ends : EndsAs kept action state expected) (change : α → β) :
    EndsAs kept (change <$> action) state (expected.1.map change, expected.2) := by
  intro journal
  simp only [perform_map]
  rcases ends journal with ⟨after, ended, calm⟩ | ⟨loud, fault, left, after, ended, same⟩
  · exact Or.inl ⟨after, by rw [ended], calm⟩
  · exact Or.inr ⟨loud, fault, left, after, by rw [ended]; rfl, same⟩

theorem pure_follows (kept : σ → τ) (value : α) :
    Follows kept (pure value) fun state => (.ok value, state) :=
  fun _ journal => Or.inl ⟨journal, rfl, id⟩

theorem ofExcept_follows (kept : σ → τ) (result : Except Fault α) :
    Follows kept (ofExcept result) fun state => (result, state) :=
  fun _ journal => Or.inl ⟨journal, rfl, id⟩

theorem note_follows (kept : σ → τ) (notice : Notice) :
    Follows kept (note notice) fun state => (.ok (), state) :=
  fun _ _ => Or.inl ⟨_, rfl, id⟩

theorem announce_follows (kept : σ → τ) (event : Event) :
    Follows kept (announce event) fun state => (.ok (), state) := by
  intro state journal
  rcases journal with ⟨_ | channel, notices⟩
  · exact Or.inl ⟨_, rfl, id⟩
  · cases reached : (channel.announce event).1 with
    | none =>
        refine Or.inl ⟨⟨some (channel.announce event).2, notices⟩, ?_, ?_⟩
        · simp [announce, reached]
        · intro quiet other found
          cases found
          exact (Channel.emit_quiet (quiet channel rfl) _).2
    | some fault =>
        refine Or.inr ⟨?_, fault, state, ⟨some (channel.announce event).2, notices⟩, ?_, rfl⟩
        · intro quiet
          have silent : (channel.announce event).1 = none := (Channel.emit_quiet (quiet channel rfl) _).1
          exact Option.some_ne_none fault (reached.symm.trans silent)
        · simp [announce, reached]

theorem Follows.get {kept : σ → τ} {next : σ → Journaled σ α} {plain : σ → Except Fault α × σ}
    (later : ∀ state, EndsAs kept (next state) state (plain state)) :
    Follows kept (MonadState.get >>= next) plain :=
  fun state journal => later state journal

theorem Follows.bind {kept : σ → τ} {action : Journaled σ α} {plain : σ → Except Fault α × σ}
    {next : α → Journaled σ β} {plainNext : α → σ → Except Fault β × σ}
    (first : Follows kept action plain) (keeps : ∀ state, kept (plain state).2 = kept state)
    (later : ∀ value, Follows kept (next value) (plainNext value)) :
    Follows kept (action >>= next) fun state =>
      match plain state with
      | (.ok value, middle) => plainNext value middle
      | (.error fault, middle) => (.error fault, middle) := by
  intro state journal
  simp only [perform_bind]
  rcases first state journal with ⟨between, ended, calm⟩ | ⟨loud, fault, left, after, ended, same⟩
  · have middleKept := keeps state
    rcases outcome : plain state with ⟨fault | value, middle⟩
    · simp only [ended, outcome]
      exact Or.inl ⟨between, rfl, calm⟩
    · simp only [ended, outcome]
      rw [outcome] at middleKept
      rcases later value middle between with
        ⟨after, finished, stillCalm⟩ | ⟨loud, fault, left, after, finished, same⟩
      · exact Or.inl ⟨after, finished, fun quiet => stillCalm (calm quiet)⟩
      · exact Or.inr ⟨fun quiet => loud (calm quiet), fault, left, after, finished, same.trans middleKept⟩
  · simp only [ended]
    exact Or.inr ⟨loud, fault, left, after, rfl, same⟩

theorem EndsAs.focus (view : σ → τ) (update : τ → σ → σ) {kept : τ → υ} {whole : σ → ω}
    {action : Journaled τ α} {state : σ} {expected : Except Fault α × τ}
    (inner : EndsAs kept action (view state) expected)
    (keeps : ∀ part, kept part = kept (view state) → whole (update part state) = whole state) :
    EndsAs whole (Journaled.focus view update action) state (expected.1, update expected.2 state) := by
  intro journal
  simp only [perform_focus]
  rcases inner journal with ⟨after, ended, calm⟩ | ⟨loud, fault, left, after, ended, same⟩
  · simp only [ended]
    exact Or.inl ⟨after, rfl, calm⟩
  · simp only [ended]
    exact Or.inr ⟨loud, fault, update left state, after, rfl, keeps left same⟩

end Journaled

namespace Resolver

def outline (resolver : Resolver) : Resolver :=
  { resolver with unknown := [] }

def learn (resolver : Resolver) (consultation : Consultation) : Resolver :=
  { resolver with unknown :=
      if consultation.found then resolver.unknown.filter (· != consultation.marker)
      else if resolver.unknown.contains consultation.marker then resolver.unknown
      else resolver.unknown ++ [consultation.marker] }

def learnAll (consultations : List Consultation) (resolver : Resolver) : Resolver :=
  consultations.foldl learn resolver

theorem learn_known {resolver : Resolver} {consultation : Consultation} (found : consultation.found = true)
    (known : consultation.marker ∉ resolver.unknown) : resolver.learn consultation = resolver := by
  have unchanged : resolver.unknown.filter (· != consultation.marker) = resolver.unknown := by
    rw [List.filter_eq_self]
    intro marker member
    simp only [bne_iff_ne]
    rintro rfl
    exact known member
  simp [learn, found, unchanged]

@[simp] theorem outline_learn (resolver : Resolver) (consultation : Consultation) :
    (resolver.learn consultation).outline = resolver.outline := rfl

@[simp] theorem outline_learnAll (consultations : List Consultation) (resolver : Resolver) :
    (resolver.learnAll consultations).outline = resolver.outline := by
  induction consultations generalizing resolver with
  | nil => rfl
  | cons consultation rest ih => exact (ih (resolver.learn consultation)).trans (outline_learn _ _)

theorem report_follows (consultation : Consultation) :
    Journaled.Follows outline (report consultation) fun resolver => (.ok (), resolver.learn consultation) := by
  intro resolver
  by_cases missing : consultation.marker ∈ resolver.unknown
  · cases found : consultation.found
    · intro journal
      exact Or.inl ⟨journal, by simp [report, learn, found, missing, Journaled.perform_bind], id⟩
    · have ends : Journaled.EndsAs outline (report consultation) resolver _ :=
        (Journaled.note_follows outline (.identifierResolved consultation.marker.lookup.label
          consultation.marker.name) (resolver.learn consultation)).start
          (fun journal => by simp [report, learn, found, missing, Journaled.perform_bind]) rfl
      exact ends
  · cases found : consultation.found
    · have announced := (Journaled.note_follows outline (.identifierUnknown
          consultation.marker.lookup.label consultation.marker.name)).bind (fun _ => rfl) fun _ =>
        Journaled.announce_follows outline (.unknownIdentifier resolver.tick
          consultation.marker.lookup.label consultation.marker.name)
      have ends : Journaled.EndsAs outline (report consultation) resolver _ :=
        (announced { resolver with unknown := resolver.unknown ++ [consultation.marker] }).start
          (fun journal => by simp [report, found, missing, Journaled.perform_bind]) rfl
      simpa [learn, found, missing] using ends
    · intro journal
      exact Or.inl ⟨journal, by simp [report, learn_known found missing, found, missing, Journaled.perform_bind], id⟩

theorem reportAll_follows (consultations : List Consultation) :
    Journaled.Follows outline (reportAll consultations) fun resolver =>
      (.ok (), resolver.learnAll consultations) := by
  induction consultations with
  | nil => exact Journaled.pure_follows outline ()
  | cons consultation rest ih =>
      exact (report_follows consultation).bind (fun resolver => outline_learn resolver consultation)
        fun _ => ih

theorem ask_follows (inquire : Float → Source → Inquiry α) :
    Journaled.Follows outline (ask inquire) fun resolver =>
      match resolver.source with
      | none => (.error .sourceMissing, resolver)
      | some source =>
          ((inquire resolver.epsilon source).answer,
            resolver.learnAll (inquire resolver.epsilon source).consulted) := by
  intro resolver
  cases bound : resolver.source with
  | none =>
      have ends : Journaled.EndsAs outline (ask inquire) resolver _ :=
        (Journaled.ofExcept_follows outline (.error .sourceMissing) resolver).start
          (fun journal => by simp [ask, bound, Journaled.perform_bind]) rfl
      simpa [bound] using ends
  | some source =>
      have reported := (reportAll_follows (inquire resolver.epsilon source).consulted).bind
        (fun resolver => outline_learnAll _ resolver)
        fun _ => Journaled.ofExcept_follows outline (inquire resolver.epsilon source).answer
      have ends : Journaled.EndsAs outline (ask inquire) resolver _ :=
        (reported resolver).start (fun journal => by simp [ask, bound, Journaled.perform_bind]) rfl
      simpa [bound] using ends

end Resolver

end InputBinding
