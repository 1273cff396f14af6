import InputBinding.Proofs.FloatOrder
import InputBinding.Proofs.Runs
import InputBinding.Proofs.Sequences

/-!
Sequences over whole runs. A sequence fires at a tick exactly if the ticks up to it hold a successful
attempt: one tick for each step in order, nothing in between that breaks the attempt off, and all of
it within the time limit.
-/

namespace InputBinding

namespace Run

def firedBy (run : Run) (tick index : Nat) : List Invocation :=
  match run.result tick with
  | .ok report => report.fired.filter fun invocation => invocation.mapping = index
  | .error _ => []

def cursor? (run : Run) (tick index : Nat) : Option Nat :=
  (run.binding? tick index).map fun binding => binding.cursor

def timeAfter (run : Run) (start : Nat) : Nat → Float
  | 0 => 0.0
  | ticks + 1 => run.timeAfter start ticks + (run.moments (start + ticks + 1)).delta

def Triggers (run : Run) (tick : Nat) (step : Step) : Prop :=
  (run.moments tick).source.Triggers run.matcher.resolver.epsilon step

def Interrupts (run : Run) (tick : Nat) (step : Step) : Prop :=
  (run.moments tick).source.Interrupts step

/-- The steps of a sequence hold one after another, the last of them at the given tick. While the
next one is awaited it does not hold earlier and no key press interrupts it, and the limit is not
exceeded at any tick after the first. -/
structure Success (run : Run) (index : Nat) (binding : Binding) (times : Nat → Nat) (tick : Nat) : Prop where
  starts : run.cursor? (times 0) index = some 0
  ends : times (binding.descriptor.steps.length - 1) = tick
  increases : ∀ position, position + 1 < binding.descriptor.steps.length →
    times position < times (position + 1)
  triggers : ∀ position step, binding.descriptor.steps[position]? = some step →
    run.Triggers (times position) step
  unbroken : ∀ position step, binding.descriptor.steps[position + 1]? = some step →
    ∀ between, times position < between → between < times (position + 1) →
      ¬ run.Triggers between step ∧ ¬ run.Interrupts between step
  punctual : binding.rule.timeLimit ≤ 0.0 ∨ ∀ ticks, 0 < ticks → times 0 + ticks ≤ tick →
    ¬ binding.rule.timeLimit < run.timeAfter (times 0) ticks

/-- The first steps of a sequence have been made, each at its time, and the attempt still goes on when
the tick for the next one begins. -/
structure Attempt (run : Run) (index : Nat) (binding : Binding) (times : Nat → Nat) (made : Nat) : Prop where
  starts : run.cursor? (times 0) index = some 0
  increases : ∀ position < made, times position < times (position + 1)
  triggers : ∀ position < made, ∀ step, binding.descriptor.steps[position]? = some step →
    run.Triggers (times position) step
  unbroken : ∀ position < made, ∀ step, binding.descriptor.steps[position + 1]? = some step →
    ∀ between, times position < between → between < times (position + 1) →
      ¬ run.Triggers between step ∧ ¬ run.Interrupts between step
  punctual : 0.0 < binding.rule.timeLimit → ∀ ticks, 0 < ticks → times 0 + ticks < times made →
    ¬ binding.rule.timeLimit < run.timeAfter (times 0) ticks

/-- The first ticks of a run return, are no captures, and bring no fault to a sequence that is at its
start before them. -/
structure Tracks (run : Run) (index count : Nat) (binding : Binding) : Prop where
  found : run.binding? 0 index = some binding
  live : binding.inert = false
  sequence : binding.rule.kind = .sequence
  idle : binding.toProgress = {}
  undisturbed : ∀ tick < count, ∃ report, run.Regular tick report ∧ index ∉ report.faulted

def continued (times : Nat → Nat) (made later : Nat) : Nat → Nat :=
  fun position => if position < made then times position else later

/-- What is known of a sequence before a tick, if it began its attempt at the tick `start`. -/
structure Standing (run : Run) (index : Nat) (binding : Binding) (start tick : Nat) (current : Binding) :
    Prop where
  found : run.binding? tick index = some current
  same : current.rest = binding.rest
  fresh : current.cursor < binding.descriptor.steps.length
  elapsed : current.elapsed = run.timeAfter start (tick - 1 - start)
  waiting : current.cursor = 0 → start = tick
  begun : 0 < current.cursor → start < tick

def Underway (run : Run) (index : Nat) (binding : Binding) (tick : Nat) (current : Binding) : Prop :=
  ∃ times, run.Standing index binding (times 0) tick current ∧
    run.Attempt index binding times current.cursor ∧ times current.cursor = tick

def InTime (run : Run) (binding : Binding) (start tick : Nat) : Prop :=
  start < tick → 0.0 < binding.rule.timeLimit →
    ¬ binding.rule.timeLimit < run.timeAfter start (tick - start)

end Run

theorem SequenceTurn.keeps {index : Nat} {delta epsilon : Float} {source : Source}
    {binding after : Binding}
    {outcome : Outcome} (turn : SequenceTurn index delta epsilon source binding outcome after)
    (fresh : binding.cursor < binding.descriptor.steps.length) :
    after.rest = binding.rest ∧ after.cursor < binding.descriptor.steps.length := by
  have spent := Binding.rest_spend delta binding
  have nonempty : 0 < binding.descriptor.steps.length := by omega
  cases turn with
  | late overdue => exact ⟨rfl, nonempty⟩
  | completes step overdue expected triggers last => exact ⟨rfl, nonempty⟩
  | breaks step overdue expected notYet started interrupts => exact ⟨rfl, nonempty⟩
  | moves step overdue expected triggers more => exact ⟨spent, more⟩
  | waits step overdue expected notYet unbroken =>
      exact ⟨spent, (Binding.spend_cursor delta binding).1.symm ▸ fresh⟩

theorem SequenceTurn.fired {index : Nat} {delta epsilon : Float} {source : Source}
    {binding after : Binding}
    {outcome : Outcome} (turn : SequenceTurn index delta epsilon source binding outcome after) :
    outcome.fired.toList = [] ∨ outcome.fired.toList = [{ mapping := index }] := by
  cases turn with
  | late _ | breaks _ _ _ _ _ _ | moves _ _ _ _ _ | waits _ _ _ _ _ => exact Or.inl rfl
  | completes _ _ _ _ _ => exact Or.inr rfl

theorem SequenceTurn.cursor_le {index : Nat} {delta epsilon : Float} {source : Source}
    {binding after : Binding}
    {outcome : Outcome} (turn : SequenceTurn index delta epsilon source binding outcome after) :
    after.cursor ≤ binding.cursor + 1 ∧ (outcome.fired.toList ≠ [] → after.cursor = 0) := by
  have sameCursor := (Binding.spend_cursor delta binding).1
  cases turn with
  | late _ | breaks _ _ _ _ _ _ | completes _ _ _ _ _ => exact ⟨Nat.zero_le _, fun _ => rfl⟩
  | moves _ _ _ _ _ => exact ⟨Nat.le_refl _, fun completed => absurd rfl completed⟩
  | waits _ _ _ _ _ =>
      exact ⟨Nat.le_succ_of_le (Nat.le_of_eq sameCursor), fun completed => absurd rfl completed⟩

namespace Run

variable {run : Run} {index count start tick : Nat} {binding current : Binding} {times : Nat → Nat}

theorem Standing.rule (standing : run.Standing index binding start tick current) :
    current.rule = binding.rule := (congrArg Binding.rule standing.same :)

theorem Standing.descriptor (standing : run.Standing index binding start tick current) :
    current.descriptor = binding.descriptor := (congrArg Binding.descriptor standing.same :)

theorem Tracks.turn (tracks : run.Tracks index count binding) (bound : tick < count)
    (found : run.binding? tick index = some current) (same : current.rest = binding.rest)
    (fresh : current.cursor < binding.descriptor.steps.length) :
    ∃ outcome after, SequenceTurn index (run.moments tick).delta run.matcher.resolver.epsilon
        (run.moments tick).source current outcome after ∧
      run.binding? (tick + 1) index = some after ∧ run.firedBy tick index = outcome.fired.toList := by
  have sameRule : current.rule = binding.rule := (congrArg Binding.rule same :)
  have sameDescriptor : current.descriptor = binding.descriptor := (congrArg Binding.descriptor same :)
  have live : current.inert = false := (congrArg Binding.inert same : _).trans tracks.live
  obtain ⟨report, regular, unfaulted⟩ := tracks.undisturbed tick bound
  have setup : (run.state tick).1.setup = run.matcher.setup := setup_state fun earlier before => by
    obtain ⟨report, regular, _⟩ := tracks.undisturbed earlier (by omega)
    exact ⟨report, regular⟩
  have epsilon : (run.state tick).1.resolver.epsilon = run.matcher.resolver.epsilon :=
    (congrArg (fun matcher => matcher.resolver.epsilon) setup :)
  obtain ⟨outcome, fired, faulted, settles⟩ := regular.turn found
  have undisturbed : outcome.faulted = false := by
    cases disturbed : outcome.faulted
    · rfl
    · exact absurd (faulted.mpr disturbed) unfaulted
  obtain ⟨played, later⟩ := settles (Or.inr undisturbed)
  rw [epsilon] at played later
  refine ⟨outcome, _, ?_, later, ?_⟩
  · exact Binding.play_sequence live (sameRule ▸ tracks.sequence) (sameDescriptor ▸ fresh) played undisturbed
  · simp [firedBy, regular.1, fired]

theorem timeAfter_at (before : start < tick) :
    run.timeAfter start (tick - start) =
      run.timeAfter start (tick - 1 - start) + (run.moments tick).delta := by
  have ticks : tick - start = (tick - 1 - start) + 1 := by omega
  have last : start + (tick - 1 - start) + 1 = tick := by omega
  rw [ticks, timeAfter, last]

theorem Standing.elapsed_spend (tracks : run.Tracks index count binding)
    (standing : run.Standing index binding start tick current) :
    (current.spend (run.moments tick).delta).elapsed = run.timeAfter start (tick - start) := by
  have isSequence : current.isSequence = true := by
    simp [Binding.isSequence, standing.rule, tracks.sequence]
  rcases Nat.eq_zero_or_pos current.cursor with idle | begun
  · have first := standing.waiting idle
    have elapsed := standing.elapsed
    subst first
    simp only [Nat.sub_self, Nat.sub_right_comm start 1 start, Nat.zero_sub] at elapsed ⊢
    simpa [Binding.spend, Binding.inProgress, idle] using elapsed
  · rw [timeAfter_at (standing.begun begun), ← standing.elapsed]
    simp [Binding.spend, isSequence, Binding.inProgress, begun]

theorem Standing.overdue_iff (tracks : run.Tracks index count binding)
    (standing : run.Standing index binding start tick current) :
    (current.spend (run.moments tick).delta).overdue = true ↔
      0 < current.cursor ∧ 0.0 < binding.rule.timeLimit ∧
        binding.rule.timeLimit < run.timeAfter start (tick - start) := by
  have sameRule : (current.spend (run.moments tick).delta).rule = binding.rule :=
    (congrArg Binding.rule (Binding.rest_spend (run.moments tick).delta current) :).trans standing.rule
  have sameCursor := (Binding.spend_cursor (run.moments tick).delta current).1
  simp only [Binding.overdue, Binding.inProgress, standing.elapsed_spend tracks, sameRule, sameCursor,
    Bool.and_eq_true, decide_eq_true_eq, and_assoc]

theorem Standing.start_le (standing : run.Standing index binding start tick current) :
    start ≤ tick := by
  rcases Nat.eq_zero_or_pos current.cursor with idle | begun
  · exact Nat.le_of_eq (standing.waiting idle)
  · exact Nat.le_of_lt (standing.begun begun)

theorem Standing.move (tracks : run.Tracks index count binding)
    (standing : run.Standing index binding start tick current) {matched : List String}
    (found : run.binding? (tick + 1) index = some { current.spend (run.moments tick).delta with
      cursor := current.cursor + 1, matched })
    (more : current.cursor + 1 < binding.descriptor.steps.length) :
    run.Standing index binding start (tick + 1) { current.spend (run.moments tick).delta with
      cursor := current.cursor + 1, matched } where
  found := found
  same := (Binding.rest_spend _ current).trans standing.same
  fresh := more
  elapsed := standing.elapsed_spend tracks
  waiting := fun impossible => by cases impossible
  begun := fun _ => Nat.lt_succ_of_le standing.start_le

theorem Standing.wait (tracks : run.Tracks index count binding)
    (standing : run.Standing index binding start tick current) (begun : 0 < current.cursor)
    (found : run.binding? (tick + 1) index = some (current.spend (run.moments tick).delta)) :
    run.Standing index binding start (tick + 1) (current.spend (run.moments tick).delta) := by
  have sameCursor := (Binding.spend_cursor (run.moments tick).delta current).1
  constructor
  · exact found
  · exact (Binding.rest_spend _ current).trans standing.same
  · exact sameCursor.symm ▸ standing.fresh
  · exact standing.elapsed_spend tracks
  · omega
  · exact fun _ => Nat.lt_succ_of_le standing.start_le

theorem Standing.inTime (tracks : run.Tracks index count binding)
    (standing : run.Standing index binding start tick current)
    (overdue : (current.spend (run.moments tick).delta).overdue = false) :
    run.InTime binding start tick := by
  intro later limited late
  have begun : 0 < current.cursor := by
    by_contra idle
    have first := standing.waiting (by omega)
    omega
  rw [(standing.overdue_iff tracks).mpr ⟨begun, limited, late⟩] at overdue
  cases overdue

theorem Standing.expected (standing : run.Standing index binding start tick current) {step other : Step}
    (expected : current.expectedStep = some step)
    (here : binding.descriptor.steps[current.cursor]? = some other) : step = other := by
  rw [← standing.descriptor] at here
  exact Option.some.inj (expected.symm.trans here)

theorem Attempt.none (starts : run.cursor? tick index = some 0) :
    run.Attempt index binding (fun _ => tick) 0 where
  starts := starts
  increases := by omega
  triggers := by omega
  unbroken := by omega
  punctual := by omega

theorem Attempt.times_le {made earlier later : Nat} (attempt : run.Attempt index binding times made)
    (before : earlier ≤ later) (bound : later ≤ made) :
    times earlier + (later - earlier) ≤ times later := by
  induction later with
  | zero =>
      have first : earlier = 0 := by omega
      simp [first]
  | succ later ih =>
      have step := attempt.increases later (by omega)
      rcases Nat.lt_or_eq_of_le before with inside | same
      · have sofar := ih (by omega) (by omega)
        omega
      · simp [same]

theorem continued_before {made later position : Nat} (before : position < made) :
    continued times made later position = times position := by
  simp [continued, before]

theorem continued_made (times : Nat → Nat) (made later : Nat) :
    continued times made later made = later := by
  simp [continued]

theorem Attempt.punctual_next {made ticks : Nat} (attempt : run.Attempt index binding times made)
    (now : times made = tick) (timely : run.InTime binding (times 0) tick)
    (limited : 0.0 < binding.rule.timeLimit) (later : 0 < ticks) (before : times 0 + ticks < tick + 1) :
    ¬ binding.rule.timeLimit < run.timeAfter (times 0) ticks := by
  by_cases earlier : times 0 + ticks < tick
  · exact attempt.punctual limited ticks later (now ▸ earlier)
  · have ticksNow : ticks = tick - times 0 := by omega
    rw [ticksNow]
    exact timely (by omega) limited

theorem Attempt.move {made : Nat} (attempt : run.Attempt index binding times made)
    (now : times made = tick)
    (triggers : ∀ step, binding.descriptor.steps[made]? = some step → run.Triggers tick step)
    (timely : run.InTime binding (times 0) tick) :
    run.Attempt index binding (continued times (made + 1) (tick + 1)) (made + 1) := by
  have kept {position : Nat} (before : position < made + 1) :
      continued times (made + 1) (tick + 1) position = times position := continued_before before
  have last := continued_made times (made + 1) (tick + 1)
  constructor
  · rw [kept (Nat.zero_lt_succ made)]
    exact attempt.starts
  · intro position bound
    rw [kept bound]
    rcases Nat.lt_succ_iff_lt_or_eq.mp bound with before | rfl
    · rw [kept (Nat.succ_lt_succ before)]
      exact attempt.increases position before
    · rw [last, now]
      exact Nat.lt_succ_self tick
  · intro position bound step found
    rw [kept bound]
    rcases Nat.lt_succ_iff_lt_or_eq.mp bound with before | rfl
    · exact attempt.triggers position before step found
    · rw [now]
      exact triggers step found
  · intro position bound step found between after before
    rw [kept bound] at after
    rcases Nat.lt_succ_iff_lt_or_eq.mp bound with earlier | rfl
    · rw [kept (Nat.succ_lt_succ earlier)] at before
      exact attempt.unbroken position earlier step found between after before
    · rw [last] at before
      omega
  · intro limited ticks later before
    rw [kept (Nat.zero_lt_succ made)] at before ⊢
    rw [last] at before
    exact attempt.punctual_next now timely limited later before

theorem Attempt.wait {made : Nat} (attempt : run.Attempt index binding times (made + 1))
    (now : times (made + 1) = tick)
    (unbroken : ∀ step, binding.descriptor.steps[made + 1]? = some step →
      ¬ run.Triggers tick step ∧ ¬ run.Interrupts tick step)
    (timely : run.InTime binding (times 0) tick) :
    run.Attempt index binding (continued times (made + 1) (tick + 1)) (made + 1) := by
  have kept {position : Nat} (before : position < made + 1) :
      continued times (made + 1) (tick + 1) position = times position := continued_before before
  have last := continued_made times (made + 1) (tick + 1)
  constructor
  · rw [kept (Nat.zero_lt_succ made)]
    exact attempt.starts
  · intro position bound
    have step := attempt.increases position bound
    rw [kept bound]
    rcases Nat.lt_succ_iff_lt_or_eq.mp bound with before | rfl
    · rw [kept (Nat.succ_lt_succ before)]
      exact step
    · rw [last]
      omega
  · intro position bound step found
    rw [kept bound]
    exact attempt.triggers position bound step found
  · intro position bound step found between after before
    rw [kept bound] at after
    rcases Nat.lt_succ_iff_lt_or_eq.mp bound with earlier | rfl
    · rw [kept (Nat.succ_lt_succ earlier)] at before
      exact attempt.unbroken position bound step found between after before
    · rw [last] at before
      rcases Nat.lt_succ_iff_lt_or_eq.mp before with earlier | rfl
      · exact attempt.unbroken position bound step found between after (now ▸ earlier)
      · exact unbroken step found
  · intro limited ticks later before
    rw [kept (Nat.zero_lt_succ made)] at before ⊢
    rw [last] at before
    exact attempt.punctual_next now timely limited later before

theorem Underway.idle (found : run.binding? tick index = some current)
    (same : current.rest = binding.rest)
    (fresh : current.cursor < binding.descriptor.steps.length) (cursor : current.cursor = 0)
    (elapsed : current.elapsed = 0.0) : run.Underway index binding tick current := by
  refine ⟨fun _ => tick, ?_, ?_, rfl⟩
  · constructor
    · exact found
    · exact same
    · exact fresh
    · have noTicks : tick - 1 - tick = 0 := by omega
      rw [elapsed, noTicks, timeAfter]
    · intro _
      rfl
    · omega
  · rw [cursor]
    exact Attempt.none (by simp [cursor?, found, cursor])

theorem Underway.turn {outcome : Outcome} {after : Binding} (tracks : run.Tracks index count binding)
    (underway : run.Underway index binding tick current)
    (turn : SequenceTurn index (run.moments tick).delta run.matcher.resolver.epsilon
      (run.moments tick).source current outcome after)
    (found : run.binding? (tick + 1) index = some after) :
    run.Underway index binding (tick + 1) after := by
  obtain ⟨times, standing, attempt, now⟩ := underway
  obtain ⟨same, fresh⟩ := turn.keeps (standing.descriptor ▸ standing.fresh)
  rw [standing.same] at same
  rw [standing.descriptor] at fresh
  cases turn with
  | late _ => exact Underway.idle found same fresh rfl rfl
  | completes _ _ _ _ _ => exact Underway.idle found same fresh rfl rfl
  | breaks _ _ _ _ _ _ => exact Underway.idle found same fresh rfl rfl
  | moves step overdue expected triggers more =>
      refine ⟨continued times (current.cursor + 1) (tick + 1), ?_, ?_, continued_made _ _ _⟩
      · rw [continued_before (Nat.zero_lt_succ current.cursor)]
        exact standing.move tracks found fresh
      · exact attempt.move now (fun other here => standing.expected expected here ▸ triggers)
          (standing.inTime tracks overdue)
  | waits step overdue expected notYet unbroken =>
      have sameCursor := (Binding.spend_cursor (run.moments tick).delta current).1
      rcases Nat.eq_zero_or_pos current.cursor with idle | begun
      · refine Underway.idle found same fresh (sameCursor.trans idle) ?_
        rw [standing.elapsed_spend tracks, standing.waiting idle, Nat.sub_self, timeAfter]
      · obtain ⟨made, cursor⟩ : ∃ made, current.cursor = made + 1 := ⟨current.cursor - 1, by omega⟩
        rw [cursor] at attempt now
        rw [Underway, sameCursor, cursor]
        refine ⟨continued times (made + 1) (tick + 1), ?_, ?_, continued_made _ _ _⟩
        · rw [continued_before (Nat.zero_lt_succ made)]
          exact standing.wait tracks begun found
        · refine attempt.wait now ?_ (standing.inTime tracks overdue)
          intro other here
          exact standing.expected expected (cursor ▸ here) ▸ ⟨notYet, unbroken begun⟩

theorem Tracks.nonempty (tracks : run.Tracks index count binding) :
    0 < binding.descriptor.steps.length := by
  have live := tracks.live
  simp only [Binding.inert, Descriptor.isUnbound, Bool.or_eq_false_iff, List.isEmpty_eq_false_iff] at live
  exact List.length_pos_iff.mpr live.2

theorem Tracks.underway (tracks : run.Tracks index count binding) (bound : tick ≤ count) :
    ∃ current, run.Underway index binding tick current := by
  induction tick with
  | zero =>
      have cursor : binding.cursor = 0 := congrArg Progress.cursor tracks.idle
      have elapsed : binding.elapsed = 0.0 := congrArg Progress.elapsed tracks.idle
      exact ⟨binding, Underway.idle tracks.found rfl (cursor ▸ tracks.nonempty) cursor elapsed⟩
  | succ tick ih =>
      obtain ⟨current, times, standing, attempt⟩ := ih (by omega)
      obtain ⟨outcome, after, turn, found, _⟩ :=
        tracks.turn (by omega) standing.found standing.same standing.fresh
      exact ⟨after, Underway.turn tracks ⟨times, standing, attempt⟩ turn found⟩

theorem Standing.made (tracks : run.Tracks index count binding)
    (standing : run.Standing index binding start tick current) (bound : tick < count)
    (timely : run.InTime binding start tick)
    (triggers : ∀ step, binding.descriptor.steps[current.cursor]? = some step → run.Triggers tick step) :
    (current.cursor + 1 < binding.descriptor.steps.length →
      ∃ after, run.Standing index binding start (tick + 1) after ∧ after.cursor = current.cursor + 1) ∧
    (current.cursor + 1 = binding.descriptor.steps.length → run.firedBy tick index = [{ mapping := index }]) := by
  obtain ⟨outcome, after, turn, found, fired⟩ :=
    tracks.turn bound standing.found standing.same standing.fresh
  have held {step : Step} (expected : current.expectedStep = some step) : run.Triggers tick step := by
    refine triggers step ?_
    rw [← standing.descriptor]
    exact expected
  cases turn with
  | late overdue =>
      obtain ⟨begun, limited, late⟩ := (standing.overdue_iff tracks).mp overdue
      exact absurd late (timely (standing.begun begun) limited)
  | breaks step _ expected notYet _ _ => exact absurd (held expected) notYet
  | waits step _ expected notYet _ => exact absurd (held expected) notYet
  | completes step _ _ _ last =>
      rw [standing.descriptor] at last
      exact ⟨by omega, fun _ => fired⟩
  | moves step _ _ _ more =>
      rw [standing.descriptor] at more
      exact ⟨fun _ => ⟨_, standing.move tracks found more, rfl⟩, by omega⟩

theorem Standing.awaited (tracks : run.Tracks index count binding)
    (standing : run.Standing index binding start tick current) (bound : tick < count)
    (begun : 0 < current.cursor) (timely : run.InTime binding start tick)
    (unbroken : ∀ step, binding.descriptor.steps[current.cursor]? = some step →
      ¬ run.Triggers tick step ∧ ¬ run.Interrupts tick step) :
    ∃ after, run.Standing index binding start (tick + 1) after ∧ after.cursor = current.cursor := by
  obtain ⟨outcome, after, turn, found, fired⟩ :=
    tracks.turn bound standing.found standing.same standing.fresh
  have quiet {step : Step} (expected : current.expectedStep = some step) :
      ¬ run.Triggers tick step ∧ ¬ run.Interrupts tick step := by
    refine unbroken step ?_
    rw [← standing.descriptor]
    exact expected
  cases turn with
  | late overdue =>
      obtain ⟨_, limited, late⟩ := (standing.overdue_iff tracks).mp overdue
      exact absurd late (timely (standing.begun begun) limited)
  | breaks step _ expected _ _ interrupts => exact absurd interrupts (quiet expected).2
  | completes step _ expected triggers _ => exact absurd triggers (quiet expected).1
  | moves step _ expected triggers _ => exact absurd triggers (quiet expected).1
  | waits step _ _ _ _ =>
      exact ⟨_, standing.wait tracks begun found, (Binding.spend_cursor _ current).1⟩

theorem Attempt.inTime {made : Nat} (attempt : run.Attempt index binding times made)
    (before : tick < times made) :
    run.InTime binding (times 0) tick := by
  intro later limited
  exact attempt.punctual limited (tick - times 0) (by omega) (by omega)

theorem Attempt.standing {made : Nat} (tracks : run.Tracks index count binding)
    (attempt : run.Attempt index binding times made) (fresh : made < binding.descriptor.steps.length)
    (bound : times made ≤ count) {position : Nat} (reached : position ≤ made) :
    ∃ current, run.Standing index binding (times 0) (times position) current ∧
      current.cursor = position := by
  have sofar {earlier later : Nat} (before : earlier ≤ later) (inside : later ≤ made) :=
    attempt.times_le before inside
  induction position with
  | zero =>
      have first := sofar (Nat.zero_le made) (Nat.le_refl made)
      have inside : times 0 ≤ count := by omega
      obtain ⟨current, others, standing, _⟩ := tracks.underway inside
      have cursor : current.cursor = 0 := by
        simpa [cursor?, standing.found] using attempt.starts
      rw [standing.waiting cursor] at standing
      exact ⟨current, standing, cursor⟩
  | succ position ih =>
      obtain ⟨current, standing, cursor⟩ := ih (by omega)
      have start := sofar (Nat.zero_le position) (by omega)
      have step := attempt.increases position (by omega)
      have rest := sofar reached (Nat.le_refl made)
      obtain ⟨made, standingMade, cursorMade⟩ := (standing.made tracks (by omega)
        (attempt.inTime (by omega))
        (fun step found => attempt.triggers position (by omega) step (cursor ▸ found))).1 (by omega)
      -- From the step just made to the next one the sequence only waits, tick after tick.
      have awaiting (ticks : Nat) (before : times position + 1 + ticks ≤ times (position + 1)) :
          ∃ later, run.Standing index binding (times 0) (times position + 1 + ticks) later ∧
            later.cursor = position + 1 := by
        induction ticks with
        | zero => exact ⟨made, standingMade, by omega⟩
        | succ ticks ih =>
            obtain ⟨later, standingLater, cursorLater⟩ := ih (by omega)
            obtain ⟨after, standingAfter, cursorAfter⟩ := standingLater.awaited tracks (by omega) (by omega)
              (attempt.inTime (by omega)) fun step found =>
                attempt.unbroken position (by omega) step (cursorLater ▸ found) _ (by omega) (by omega)
            exact ⟨after, standingAfter, by omega⟩
      obtain ⟨ticks, there⟩ : ∃ ticks, times position + 1 + ticks = times (position + 1) :=
        ⟨times (position + 1) - (times position + 1), by omega⟩
      obtain ⟨later, standingLater, cursorLater⟩ := awaiting ticks (by omega)
      exact ⟨later, there ▸ standingLater, cursorLater⟩

theorem Success.attempt (success : run.Success index binding times tick) :
    run.Attempt index binding times (binding.descriptor.steps.length - 1) where
  starts := success.starts
  increases position bound := success.increases position (by omega)
  triggers position _ step found := success.triggers position step found
  unbroken position _ step found := success.unbroken position step found
  punctual limited ticks some before := by
    rw [success.ends] at before
    rcases success.punctual with unlimited | punctual
    · exact absurd limited (not_positive_of_le unlimited)
    · exact punctual ticks some (by omega)

theorem Attempt.success
    (attempt : run.Attempt index binding times (binding.descriptor.steps.length - 1))
    (ends : times (binding.descriptor.steps.length - 1) = tick)
    (timely : run.InTime binding (times 0) tick)
    (triggers : ∀ step, binding.descriptor.steps[binding.descriptor.steps.length - 1]? = some step →
      run.Triggers tick step) : run.Success index binding times tick where
  starts := attempt.starts
  ends := ends
  increases position bound := attempt.increases position (by omega)
  triggers position step found := by
    have inside := (List.getElem?_eq_some_iff.mp found).1
    rcases Nat.lt_or_ge position (binding.descriptor.steps.length - 1) with earlier | last
    · exact attempt.triggers position earlier step found
    · have same : position = binding.descriptor.steps.length - 1 := by omega
      subst same
      rw [ends]
      exact triggers step found
  unbroken position step found := by
    have inside := (List.getElem?_eq_some_iff.mp found).1
    exact attempt.unbroken position (by omega) step found
  punctual := by
    rcases positive_or_not binding.rule.timeLimit with limited | unlimited | boundless
    · apply Or.inr
      intro ticks later before
      exact attempt.punctual_next ends timely limited later (by omega)
    · exact Or.inl unlimited
    · exact Or.inr fun _ _ _ => boundless _

theorem Success.inTime (success : run.Success index binding times tick) :
    run.InTime binding (times 0) tick := by
  intro later limited
  rcases success.punctual with unlimited | punctual
  · exact absurd limited (not_positive_of_le unlimited)
  · exact punctual (tick - times 0) (by omega) (by omega)

theorem cursor_eq (standing : run.Standing index binding start tick current) :
    run.cursor? tick index = some current.cursor := by
  simp [cursor?, standing.found]

theorem Underway.success {outcome : Outcome} {after : Binding} (tracks : run.Tracks index count binding)
    (underway : run.Underway index binding tick current)
    (turn : SequenceTurn index (run.moments tick).delta run.matcher.resolver.epsilon
      (run.moments tick).source current outcome after)
    (completed : outcome.fired.toList ≠ []) : ∃ times, run.Success index binding times tick := by
  obtain ⟨times, standing, attempt, now⟩ := underway
  cases turn with
  | late _ | breaks _ _ _ _ _ _ | moves _ _ _ _ _ | waits _ _ _ _ _ => exact absurd rfl completed
  | completes step overdue expected triggers last =>
      rw [standing.descriptor] at last
      have cursor : current.cursor = binding.descriptor.steps.length - 1 := by omega
      refine ⟨times, (cursor ▸ attempt).success (cursor ▸ now) (standing.inTime tracks overdue) ?_⟩
      intro other here
      exact standing.expected expected (cursor ▸ here) ▸ triggers

theorem Success.fires (success : run.Success index binding times tick)
    (tracks : run.Tracks index count binding)
    (bound : tick < count) : run.firedBy tick index = [{ mapping := index }] := by
  have nonempty := tracks.nonempty
  obtain ⟨current, standing, cursor⟩ := success.attempt.standing tracks (by omega)
    (Nat.le_of_lt (success.ends ▸ bound)) (Nat.le_refl _)
  rw [success.ends] at standing
  have triggers (step : Step) (found : binding.descriptor.steps[current.cursor]? = some step) :
      run.Triggers tick step := by
    have holds := success.triggers current.cursor step found
    rwa [cursor, success.ends] at holds
  exact (standing.made tracks bound success.inTime triggers).2 (by omega)

/-- A sequence fires exactly at the ends of successful attempts, once and without a value. Its cursor
stays inside the sequence, moves on by at most one step in a tick and is back at the start after the
sequence has fired. -/
theorem fires_iff_success (tracks : run.Tracks index count binding) (bound : tick < count) :
    (run.firedBy tick index ≠ [] ↔ ∃ times, run.Success index binding times tick) ∧
    (run.firedBy tick index = [] ∨ run.firedBy tick index = [{ mapping := index }]) ∧
    ∃ before after, run.cursor? tick index = some before ∧ run.cursor? (tick + 1) index = some after ∧
      before < binding.descriptor.steps.length ∧ after < binding.descriptor.steps.length ∧
      after ≤ before + 1 ∧ (run.firedBy tick index ≠ [] → after = 0) := by
  obtain ⟨current, underway⟩ := tracks.underway (Nat.le_of_lt bound)
  have ⟨_, standing, _⟩ := underway
  obtain ⟨outcome, after, turn, found, fired⟩ :=
    tracks.turn bound standing.found standing.same standing.fresh
  obtain ⟨_, standingAfter, _⟩ := underway.turn tracks turn found
  refine ⟨⟨?_, ?_⟩, ?_, current.cursor, after.cursor, cursor_eq standing, cursor_eq standingAfter,
    standing.fresh, standingAfter.fresh, ?_⟩
  · intro completed
    rw [fired] at completed
    exact underway.success tracks turn completed
  · rintro ⟨times, success⟩
    simp [success.fires tracks bound]
  · rw [fired]
    exact turn.fired
  · rw [fired]
    exact turn.cursor_le

def twoPresses : Run where
  matcher := { table := { limit := 1, bindings :=
    [Binding.ofRule none { descriptor := "a, b", kind := .sequence, timeLimit := 1.0 }] } }
  moments tick := {
    source := Snapshot.toSource { justPressed := if tick = 0 then ["a"] else ["b"] }
    delta := 0.5
    sink := fun _ => {} }

theorem fires_iff_success_twoPresses :
    ∃ binding, twoPresses.Tracks 0 2 binding ∧ twoPresses.firedBy 1 0 = [{ mapping := 0 }] ∧
      ∃ times, twoPresses.Success 0 binding times 1 := by
  have undisturbed : ∀ tick < 2, ∃ report, twoPresses.Regular tick report ∧ 0 ∉ report.faulted := by
    intro tick bound
    match tick, bound with
    | 0, _ => exact ⟨_, ⟨rfl, rfl⟩, by decide⟩
    | 1, _ => exact ⟨_, ⟨rfl, rfl⟩, by decide⟩
  have tracks : twoPresses.Tracks 0 2 _ := ⟨rfl, rfl, rfl, rfl, undisturbed⟩
  exact ⟨_, tracks, rfl, (fires_iff_success tracks (by decide)).1.mp (by decide)⟩

end Run

end InputBinding
