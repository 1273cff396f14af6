import InputBinding.Proofs.Keeping
import InputBinding.Proofs.Retention

/-!
What becomes of the events that are sent to a channel. A subscriber gets those that are accepted while it is
subscribed, each once and in order, whoever else comes and goes; the newest of all that are accepted are
kept for those who look back.
-/

namespace InputBinding.Channel

def carried (events : List Event) (channel : Channel) : Channel :=
  { channel with
    history := events.foldl (fun history event => history.push event) channel.history
    deliveries := channel.deliveries ++
      events.flatMap fun event => channel.subscribers.map fun subscriber => (subscriber.token, event) }

theorem carried_append (earlier later : List Event) (channel : Channel) :
    channel.carried (earlier ++ later) = (channel.carried earlier).carried later := by
  simp only [carried, List.foldl_append, mk.injEq, true_and]
  apply Array.toList_inj.mp
  simp

theorem reach_all (event : Event) (subscribers : List Subscriber)
    (calm : ∀ subscriber ∈ subscribers, ∀ event, subscriber.reaction event = none) :
    reach event subscribers = (subscribers.map Subscriber.token, none) := by
  induction subscribers with
  | nil => rfl
  | cons subscriber rest ih =>
      have silent := calm subscriber (by simp) event
      have others := ih fun other member => calm other (by simp [member])
      simp [reach, silent, others]

theorem emit_eq {channel : Channel} (quiet : channel.Quiet) (event : Event) :
    channel.emit event = (none, if channel.accepts event.category then channel.carried [event] else channel) := by
  unfold emit
  split
  · simp [reach_all event _ quiet, carried, Function.comp_def]
  · rfl

inductive Operation
  | emit (event : Event)
  | announce (event : Event)
  | subscribe (reaction : Event → Option Fault)
  | unsubscribe (token : Int)
  | clear

namespace Operation

def perform (channel : Channel) : Operation → Channel
  | emit event => (channel.emit event).2
  | announce event => (channel.announce event).2
  | subscribe reaction => (channel.subscribe reaction).2
  | unsubscribe token => channel.unsubscribe token
  | clear => channel.clear

def sent? : Operation → Option Event
  | emit event => some event
  | announce event => some event.normalised
  | _ => none

def dismisses (token : Nat) : Operation → Bool
  | unsubscribe other => other == token
  | _ => false

def isClear : Operation → Bool
  | clear => true
  | _ => false

def Quiet (operation : Operation) : Prop :=
  ∀ reaction, operation = subscribe reaction → ∀ event, reaction event = none

end Operation

def after (history : List Operation) (channel : Channel) : Channel :=
  history.foldl Operation.perform channel

/-- A channel accepts a category if it is enabled and the words on its allowlist that are not blank, if
there are any, name the category. -/
def Allows (enabled : Bool) (allowlist : List String) (category : String) : Prop :=
  enabled = true ∧ ((∀ word ∈ allowlist, Text.trim word = "") ∨
    ∃ word ∈ allowlist, Text.trim word ≠ "" ∧ normalise word = category)

instance (enabled : Bool) (allowlist : List String) (category : String) :
    Decidable (Allows enabled allowlist category) :=
  inferInstanceAs (Decidable (_ ∧ (_ ∨ _)))

def accepted (enabled : Bool) (allowlist : List String) (history : List Operation) : List Event :=
  (history.filterMap Operation.sent?).filter fun event => Allows enabled allowlist event.category

/-- What has been handed to the holder of a token, in order. -/
def received (token : Nat) (channel : Channel) : List Event :=
  channel.deliveries.toList.filterMap fun delivery => if delivery.1 = token then some delivery.2 else none

def Filter.Selects (filter : Filter) (event : Event) : Prop :=
  (∀ category ∈ filter.category, event.category = category) ∧ (∀ name ∈ filter.name, event.name = name) ∧
    ∀ mapping ∈ filter.mapping, event.mapping = some mapping

instance (filter : Filter) (event : Event) : Decidable (filter.Selects event) :=
  inferInstanceAs (Decidable (_ ∧ _ ∧ _))

theorem passes_iff (filter : Filter) (event : Event) : filter.passes event = true ↔ filter.Selects event := by
  simp only [Filter.passes, Filter.Selects, Bool.and_eq_true, Option.all_eq_true, beq_iff_eq, Option.mem_def,
    and_assoc, eq_comm (a := event.category), eq_comm (a := event.name)]

variable {enabled : Bool} {allowlist : List String} {channel : Channel}

/-- A channel that accepts what its settings say, and in which nobody fails or has the token of another. -/
structure Orderly (enabled : Bool) (allowlist : List String) (channel : Channel) : Prop where
  accepts : ∀ category, channel.accepts category = decide (Allows enabled allowlist category)
  quiet : channel.Quiet
  given : ∀ subscriber ∈ channel.subscribers, subscriber.token < channel.nextToken
  distinct : (channel.subscribers.map Subscriber.token).Nodup
  past : ∀ delivery ∈ channel.deliveries.toList, delivery.1 < channel.nextToken

theorem orderly_create {capacity : Int} (created : create capacity enabled allowlist = .ok channel) :
    channel.Orderly enabled allowlist := by
  unfold create at created
  obtain ⟨history, _, created⟩ := bind_eq_ok created
  cases created
  refine ⟨?_, ?_, ?_, List.nodup_nil, ?_⟩
  · intro category
    rw [Bool.eq_iff_iff, decide_eq_true_iff]
    simp [Channel.accepts, Allows, List.filter_eq_nil_iff, and_assoc]
  · simp [Channel.Quiet]
  · simp
  · simp

namespace Orderly

theorem carried (orderly : channel.Orderly enabled allowlist) (event : Event) :
    (channel.carried [event]).Orderly enabled allowlist := by
  refine ⟨orderly.accepts, orderly.quiet, orderly.given, orderly.distinct, ?_⟩
  intro delivery member
  simp only [Channel.carried, List.flatMap_singleton, Array.toList_appendList, List.mem_append, List.mem_map] at member
  rcases member with old | ⟨subscriber, seated, rfl⟩
  · exact orderly.past delivery old
  · exact orderly.given subscriber seated

theorem emit (orderly : channel.Orderly enabled allowlist) (event : Event) :
    (channel.emit event).2.Orderly enabled allowlist := by
  rw [emit_eq orderly.quiet]
  dsimp only
  split
  · exact orderly.carried event
  · exact orderly

theorem subscribe (orderly : channel.Orderly enabled allowlist) {reaction : Event → Option Fault}
    (silent : ∀ event, reaction event = none) : (channel.subscribe reaction).2.Orderly enabled allowlist where
  accepts := orderly.accepts
  quiet subscriber member := by
    rcases List.mem_append.mp member with old | new
    · exact orderly.quiet subscriber old
    · rw [List.mem_singleton] at new
      rw [new]
      exact silent
  given subscriber member := by
    rcases List.mem_append.mp member with old | new
    · exact Nat.lt_succ_of_lt (orderly.given subscriber old)
    · rw [List.mem_singleton] at new
      rw [new]
      exact Nat.lt_succ_self channel.nextToken
  distinct := by
    simp only [Channel.subscribe, List.map_append, List.map_singleton]
    refine List.nodup_append.mpr ⟨orderly.distinct, List.pairwise_singleton _ _, ?_⟩
    rintro _ taken next new same
    obtain ⟨subscriber, member, rfl⟩ := List.mem_map.mp taken
    rw [List.mem_singleton.mp new] at same
    exact absurd same (Nat.ne_of_lt (orderly.given subscriber member))
  past delivery member := Nat.lt_succ_of_lt (orderly.past delivery member)

theorem unsubscribe (orderly : channel.Orderly enabled allowlist) (token : Int) :
    (channel.unsubscribe token).Orderly enabled allowlist where
  accepts := orderly.accepts
  quiet subscriber member := orderly.quiet subscriber (List.mem_filter.mp member).1
  given subscriber member := orderly.given subscriber (List.mem_filter.mp member).1
  distinct := orderly.distinct.sublist (List.filter_sublist.map _)
  past := orderly.past

theorem perform (orderly : channel.Orderly enabled allowlist) {operation : Operation} (quiet : operation.Quiet) :
    (operation.perform channel).Orderly enabled allowlist := by
  cases operation with
  | emit event => exact orderly.emit event
  | announce event => exact orderly.emit event.normalised
  | subscribe reaction => exact orderly.subscribe (quiet reaction rfl)
  | unsubscribe token => exact orderly.unsubscribe token
  | clear => exact ⟨orderly.accepts, orderly.quiet, orderly.given, orderly.distinct, orderly.past⟩

theorem after (orderly : channel.Orderly enabled allowlist) {history : List Operation}
    (quiet : ∀ operation ∈ history, operation.Quiet) : (channel.after history).Orderly enabled allowlist := by
  induction history generalizing channel with
  | nil => exact orderly
  | cons operation later ih =>
      exact ih (orderly.perform (quiet operation List.mem_cons_self)) fun other member =>
        quiet other (List.mem_cons_of_mem operation member)

end Orderly

def Seated (token : Nat) (channel : Channel) : Prop :=
  token ∈ channel.subscribers.map Subscriber.token

instance (token : Nat) (channel : Channel) : Decidable (channel.Seated token) :=
  inferInstanceAs (Decidable (token ∈ channel.subscribers.map Subscriber.token))

theorem filterMap_token (event : Event) (token : Nat) {tokens : List Nat} (distinct : tokens.Nodup) :
    tokens.filterMap (fun other => if other = token then some event else none) =
      if token ∈ tokens then [event] else [] := by
  induction tokens with
  | nil => rfl
  | cons first rest ih =>
      have others := ih (List.nodup_cons.mp distinct).2
      by_cases here : first = token
      · subst here
        have once : first ∉ rest := (List.nodup_cons.mp distinct).1
        simp only [List.filterMap_cons, if_true, others, if_neg once, List.mem_cons_self]
      · have same : token ∈ first :: rest ↔ token ∈ rest := by simp [Ne.symm here]
        simp only [List.filterMap_cons, if_neg here, others, same]

theorem accepted_append (earlier later : List Operation) :
    accepted enabled allowlist (earlier ++ later) =
      accepted enabled allowlist earlier ++ accepted enabled allowlist later := by
  rw [accepted, List.filterMap_append, List.filter_append]
  rfl

theorem accepted_sent {operation : Operation} {event : Event} (sent : operation.sent? = some event) :
    accepted enabled allowlist [operation] = if Allows enabled allowlist event.category then [event] else [] := by
  simp only [accepted, List.filterMap_cons, sent, List.filterMap_nil, List.filter_cons, List.filter_nil,
    decide_eq_true_eq]

theorem accepted_unsent {operation : Operation} (unsent : operation.sent? = none) :
    accepted enabled allowlist [operation] = [] := by
  simp only [accepted, List.filterMap_cons, unsent, List.filterMap_nil, List.filter_nil]

theorem received_emit (orderly : channel.Orderly enabled allowlist) (token : Nat) (event : Event) :
    received token (channel.emit event).2 = received token channel ++
      if channel.Seated token ∧ Allows enabled allowlist event.category then [event] else [] := by
  have handed : received token (channel.carried [event]) =
      received token channel ++ if channel.Seated token then [event] else [] := by
    have each := filterMap_token event token orderly.distinct
    rw [List.filterMap_map] at each
    simp only [received, carried, List.flatMap_singleton, Array.toList_appendList, List.filterMap_append,
      List.filterMap_map]
    exact congrArg _ each
  rw [emit_eq orderly.quiet, orderly.accepts]
  by_cases allowed : Allows enabled allowlist event.category
  · simp [allowed, handed]
  · simp [allowed]

theorem received_perform (orderly : channel.Orderly enabled allowlist) (token : Nat) (operation : Operation) :
    received token (operation.perform channel) = received token channel ++
      if channel.Seated token then accepted enabled allowlist [operation] else [] := by
  have sends (event : Event) (sent : operation.sent? = some event) :
      received token (channel.emit event).2 = received token channel ++
        if channel.Seated token then accepted enabled allowlist [operation] else [] := by
    rw [received_emit orderly, accepted_sent sent]
    split_ifs <;> simp_all
  cases operation with
  | emit event => exact sends event rfl
  | announce event => exact sends event.normalised rfl
  | subscribe reaction | unsubscribe token | clear =>
      rw [accepted_unsent rfl, ite_self, List.append_nil]
      rfl

theorem seated_perform (channel : Channel) (token : Nat) (operation : Operation) :
    (operation.perform channel).Seated token ↔
      (channel.Seated token ∧ operation.dismisses token = false) ∨
        (token = channel.nextToken ∧ ∃ reaction, operation = .subscribe reaction) := by
  cases operation with
  | emit event =>
      have same : (channel.emit event).2.subscribers = channel.subscribers := by
        unfold emit
        split <;> rfl
      simp [Operation.perform, Seated, Operation.dismisses, same]
  | announce event => simp [Operation.perform, Seated, Operation.dismisses, subscribers_announce]
  | subscribe reaction => simp [Operation.perform, Seated, Operation.dismisses, subscribe]
  | unsubscribe other =>
      simp only [Operation.perform, Seated, Operation.dismisses, unsubscribe, List.mem_map, List.mem_filter, bne_iff_ne,
        beq_eq_false_iff_ne]
      constructor
      · rintro ⟨subscriber, ⟨member, stays⟩, rfl⟩
        exact Or.inl ⟨⟨subscriber, member, rfl⟩, stays.symm⟩
      · rintro (⟨⟨subscriber, member, rfl⟩, stays⟩ | ⟨_, _, impossible⟩)
        · exact ⟨subscriber, ⟨member, stays.symm⟩, rfl⟩
        · cases impossible
  | clear => simp [Operation.perform, Seated, Operation.dismisses, clear]

theorem nextToken_perform (channel : Channel) (operation : Operation) :
    (operation.perform channel).nextToken =
      channel.nextToken + match operation with
        | .subscribe _ => 1
        | _ => 0 := by
  have emitted (event : Event) : (channel.emit event).2.nextToken = channel.nextToken := by
    unfold emit
    split <;> rfl
  cases operation with
  | emit event => exact emitted event
  | announce event => exact emitted event.normalised
  | subscribe reaction | unsubscribe token | clear => rfl

theorem nextToken_le_after (channel : Channel) (history : List Operation) : channel.nextToken ≤ (channel.after history).nextToken := by
  induction history generalizing channel with
  | nil => exact Nat.le_refl _
  | cons operation later ih =>
      have grows := nextToken_perform channel operation
      have rest : (operation.perform channel).nextToken ≤ (channel.after (operation :: later)).nextToken := ih _
      omega

theorem Orderly.token_lt (orderly : channel.Orderly enabled allowlist) {token : Nat} (seated : channel.Seated token) :
    token < channel.nextToken := by
  obtain ⟨subscriber, member, rfl⟩ := List.mem_map.mp seated
  exact orderly.given subscriber member

theorem after_append (earlier later : List Operation) (channel : Channel) :
    channel.after (earlier ++ later) = (channel.after earlier).after later :=
  List.foldl_append

theorem received_absent (orderly : channel.Orderly enabled allowlist) {token : Nat} (given : token < channel.nextToken)
    (absent : ¬ channel.Seated token) {later : List Operation} (quiet : ∀ operation ∈ later, operation.Quiet) :
    received token (channel.after later) = received token channel := by
  induction later generalizing channel with
  | nil => rfl
  | cons operation others ih =>
      have stillAbsent : ¬ (operation.perform channel).Seated token := by
        rw [seated_perform]
        rintro (⟨seated, _⟩ | ⟨new, _⟩)
        · exact absent seated
        · omega
      have stillGiven : token < (operation.perform channel).nextToken := by
        have grows := nextToken_perform channel operation
        omega
      have first := received_perform orderly token operation
      rw [if_neg absent, List.append_nil] at first
      have rest := ih (orderly.perform (quiet operation List.mem_cons_self)) stillGiven stillAbsent fun other member =>
        quiet other (List.mem_cons_of_mem operation member)
      exact rest.trans first

theorem received_new (orderly : channel.Orderly enabled allowlist) : received channel.nextToken channel = [] := by
  rw [received, List.filterMap_eq_nil_iff]
  intro delivery member
  exact if_neg (Nat.ne_of_lt (orderly.past delivery member))

theorem received_after (orderly : channel.Orderly enabled allowlist) {token : Nat} (seated : channel.Seated token)
    {later : List Operation} (quiet : ∀ operation ∈ later, operation.Quiet) :
    received token (channel.after later) = received token channel ++
      accepted enabled allowlist (later.takeWhile fun operation => !operation.dismisses token) := by
  induction later generalizing channel with
  | nil => exact (List.append_nil _).symm
  | cons operation others ih =>
      have nextOrderly := orderly.perform (quiet operation List.mem_cons_self)
      have othersQuiet : ∀ other ∈ others, other.Quiet := fun other member =>
        quiet other (List.mem_cons_of_mem operation member)
      have first := received_perform orderly token operation
      rw [if_pos seated] at first
      cases dismissed : operation.dismisses token with
      | false =>
          have stillSeated : (operation.perform channel).Seated token :=
            (seated_perform channel token operation).mpr (Or.inl ⟨seated, dismissed⟩)
          have rest := ih nextOrderly stillSeated othersQuiet
          rw [first, List.append_assoc, ← accepted_append] at rest
          rw [List.takeWhile_cons_of_pos (by simp [dismissed])]
          exact rest
      | true =>
          have absent : ¬ (operation.perform channel).Seated token := by
            rw [seated_perform]
            rintro (⟨_, kept⟩ | ⟨_, reaction, rfl⟩)
            · rw [dismissed] at kept
              cases kept
            · cases dismissed
          have given : token < (operation.perform channel).nextToken := by
            have before := orderly.token_lt seated
            have grows := nextToken_perform channel operation
            omega
          have silent : accepted enabled allowlist [operation] = [] := by
            cases operation with
            | unsubscribe other => rfl
            | emit event | announce event | subscribe reaction | clear => cases dismissed
          have rest := received_absent nextOrderly given absent othersQuiet
          rw [first, silent, List.append_nil] at rest
          rw [List.takeWhile_cons_of_neg (by simp [dismissed])]
          exact rest.trans (List.append_nil _).symm

/-- Two channels that make no difference to the holder of a token. -/
structure SameFor (token : Nat) (channel other : Channel) : Prop where
  nextToken : channel.nextToken = other.nextToken
  seated : channel.Seated token ↔ other.Seated token
  received : channel.received token = other.received token

theorem SameFor.after {token : Nat} {other : Channel} (same : SameFor token channel other)
    (orderly : channel.Orderly enabled allowlist) (otherOrderly : other.Orderly enabled allowlist)
    {later : List Operation} (quiet : ∀ operation ∈ later, operation.Quiet) :
    SameFor token (channel.after later) (other.after later) := by
  induction later generalizing channel other with
  | nil => exact same
  | cons operation others ih =>
      have operationQuiet := quiet operation List.mem_cons_self
      refine ih ⟨?_, ?_, ?_⟩ (orderly.perform operationQuiet) (otherOrderly.perform operationQuiet) fun next member =>
        quiet next (List.mem_cons_of_mem operation member)
      · rw [nextToken_perform, nextToken_perform, same.nextToken]
      · rw [seated_perform, seated_perform, same.seated, same.nextToken]
      · rw [received_perform orderly, received_perform otherOrderly, same.received]
        simp only [same.seated]

theorem sameFor_unsubscribe {token : Nat} {other : Int} (different : (token : Int) ≠ other) :
    SameFor token (channel.unsubscribe other) channel := by
  refine ⟨rfl, ?_, rfl⟩
  have kept := seated_perform channel token (.unsubscribe other)
  simpa [Operation.perform, Operation.dismisses, different.symm] using kept

/-- The history holds the newest of these events, as many as it has room for. -/
structure Retains (capacity : Nat) (events : List Event) (channel : Channel) : Prop where
  capacity : channel.history.capacity = capacity
  holds : channel.history.Holds (events.rtake channel.history.capacity)

theorem Retains.emit {capacity : Nat} {events : List Event} (retains : channel.Retains capacity events)
    (orderly : channel.Orderly enabled allowlist) (event : Event) :
    (channel.emit event).2.Retains capacity
      (events ++ if Allows enabled allowlist event.category then [event] else []) := by
  rw [emit_eq orderly.quiet, orderly.accepts]
  by_cases allowed : Allows enabled allowlist event.category
  · simp only [allowed, decide_true, if_true]
    exact ⟨retains.capacity, retains.holds.push event⟩
  · simpa only [allowed, decide_false, Bool.false_eq_true, if_false, List.append_nil] using retains

theorem retains_after {capacity : Int} (created : create capacity enabled allowlist = .ok channel)
    {history : List Operation} (quiet : ∀ operation ∈ history, operation.Quiet) :
    (channel.after history).Retains capacity.toNat
      (accepted enabled allowlist (history.rtakeWhile fun operation => !operation.isClear)) := by
  induction history using List.reverseRecOn with
  | nil =>
      unfold create at created
      obtain ⟨ring, made, created⟩ := bind_eq_ok created
      cases created
      exact ⟨(Ring.holds_create made).1, by simpa [accepted, after] using (Ring.holds_create made).2⟩
  | append_singleton earlier operation ih =>
      have earlierQuiet : ∀ other ∈ earlier, other.Quiet := fun other member =>
        quiet other (List.mem_append_left _ member)
      have retains := ih earlierQuiet
      have orderly := (orderly_create created).after earlierQuiet
      rw [after_append, List.rtakeWhile_concat]
      have sends (event : Event) (sent : operation.sent? = some event) :
          ((channel.after earlier).emit event).2.Retains capacity.toNat (accepted enabled allowlist
            ((earlier.rtakeWhile fun operation => !operation.isClear) ++ [operation])) := by
        rw [accepted_append, accepted_sent sent]
        exact retains.emit orderly event
      cases operation with
      | emit event => exact sends event rfl
      | announce event => exact sends event.normalised rfl
      | subscribe reaction | unsubscribe token =>
          simp only [Operation.isClear, Bool.not_false, if_true]
          rw [accepted_append, accepted_unsent rfl, List.append_nil]
          exact ⟨retains.capacity, retains.holds⟩
      | clear =>
          simp only [Operation.isClear, Bool.not_true, Bool.false_eq_true, if_false]
          refine ⟨retains.capacity, ?_⟩
          have nothing : accepted enabled allowlist [] = [] := rfl
          rw [nothing, List.rtake_nil]
          exact retains.holds.clear

/-- Each subscriber receives what is accepted between its subscription and the end of it; no token is given
out twice, so whoever unsubscribes leaves the others alone; and who looks back finds the newest of what was
accepted since the history was cleared. -/
theorem faithful {capacity : Int} (created : create capacity enabled allowlist = .ok channel)
    {history : List Operation} (quiet : ∀ operation ∈ history, operation.Quiet) :
    (∀ earlier reaction later, history = earlier ++ .subscribe reaction :: later →
      let token := ((channel.after earlier).subscribe reaction).1
      received token (channel.after history) =
        accepted enabled allowlist (later.takeWhile fun operation => !operation.dismisses token)) ∧
    (∀ earlier reaction between other later,
      history = earlier ++ .subscribe reaction :: (between ++ .subscribe other :: later) →
      ((channel.after earlier).subscribe reaction).1 ≠
        ((channel.after (earlier ++ .subscribe reaction :: between)).subscribe other).1) ∧
    (∀ earlier token later, history = earlier ++ .unsubscribe token :: later → ∀ other : Nat, (other : Int) ≠ token →
      received other (channel.after history) = received other (channel.after (earlier ++ later))) ∧
    ∀ filter, (channel.after history).lookBack none filter =
      ((accepted enabled allowlist (history.rtakeWhile fun operation => !operation.isClear)).rtake capacity.toNat).filter
        fun event => filter.Selects event := by
  have orderly := orderly_create created
  refine ⟨?_, ?_, ?_, ?_⟩
  · rintro earlier reaction later rfl
    have before := orderly.after fun operation member => quiet operation (List.mem_append_left _ member)
    have rest : ∀ operation ∈ later, operation.Quiet := fun operation member =>
      quiet operation (List.mem_append_right _ (List.mem_cons_of_mem _ member))
    have subscribed : (Operation.subscribe reaction).Quiet := quiet _ (List.mem_append_right _ List.mem_cons_self)
    have seated : ((Operation.subscribe reaction).perform (channel.after earlier)).Seated
        (channel.after earlier).nextToken :=
      (seated_perform _ _ _).mpr (Or.inr ⟨rfl, reaction, rfl⟩)
    have all := received_after (before.perform subscribed) seated rest
    have nothing : received (channel.after earlier).nextToken
        ((Operation.subscribe reaction).perform (channel.after earlier)) = [] := received_new before
    rw [nothing, List.nil_append] at all
    rw [after_append]
    exact all
  · rintro earlier reaction between other later rfl
    have grows := nextToken_le_after ((channel.after earlier).subscribe reaction).2 between
    rw [after_append]
    exact Nat.ne_of_lt grows
  · rintro earlier token later rfl other different
    have before := orderly.after fun operation member => quiet operation (List.mem_append_left _ member)
    have rest : ∀ operation ∈ later, operation.Quiet := fun operation member =>
      quiet operation (List.mem_append_right _ (List.mem_cons_of_mem _ member))
    have same := (sameFor_unsubscribe different).after (before.unsubscribe token) before rest
    rw [after_append, after_append]
    exact same.received
  · intro filter
    obtain ⟨sameCapacity, holds⟩ := retains_after created quiet
    rw [lookBack, Ring.newest, holds.toList, sameCapacity]
    apply List.filter_congr
    intro event _
    rw [Bool.eq_iff_iff, passes_iff, decide_eq_true_iff]

def silent (_ : Event) : Option Fault := none

def report (category name : String) : Event where
  tick := 0
  category
  name

def visits : List Operation := [
  .subscribe silent,
  .emit (report "capture" "started"),
  .subscribe silent,
  .announce (report " CAPTURE" "rejected"),
  .unsubscribe 7,
  .unsubscribe 1,
  .emit (report "Capture" "lost"),
  .announce (report "sequence" "filtered"),
  .announce (report "capture" "completed")]

def captureOnly : Channel where
  allowlist := ["capture"]
  history := { capacity := 2 }

theorem faithful_visits :
    create 2 true [" Capture ", " "] = .ok captureOnly ∧ (∀ operation ∈ visits, operation.Quiet) ∧
      (received 1 (captureOnly.after visits)).map (·.name) = ["started", "rejected"] ∧
      (received 2 (captureOnly.after visits)).map (·.name) = ["rejected", "completed"] ∧
      ((captureOnly.after visits).lookBack none {}).map (·.name) = ["rejected", "completed"] := by
  have created : create 2 true [" Capture ", " "] = .ok captureOnly := rfl
  have quiet : ∀ operation ∈ visits, operation.Quiet := by
    intro operation member reaction same event
    subst same
    simp only [visits, List.mem_cons, Operation.subscribe.injEq, reduceCtorEq, List.not_mem_nil, or_false, false_or,
      or_self] at member
    rw [member]
    rfl
  obtain ⟨each, _, _, kept⟩ := faithful created quiet
  have first : received 1 (captureOnly.after visits) = _ := each [] silent _ rfl
  have second : received 2 (captureOnly.after visits) = _ := each (visits.take 2) silent _ rfl
  refine ⟨created, quiet, ?_, ?_, ?_⟩
  · rw [first]
    decide
  · rw [second]
    decide
  · rw [kept]
    decide

end InputBinding.Channel
