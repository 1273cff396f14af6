import InputBinding.Proofs.Announcements
import InputBinding.Proofs.Consultations

/-!
When missing names are told of. Over any calls on a resolver, a look-up that finds nothing is told of just if the
look-up of that name before it, if there was one, has found it; the names held to be missing are those whose
latest look-up has found nothing.
-/

namespace InputBinding

open Journaled

namespace Consultation

def latest (marker : Marker) (earlier : List Consultation) : Option Bool :=
  (earlier.filter (·.marker == marker)).getLast?.map Consultation.found

@[simp] theorem latest_nil (marker : Marker) : latest marker [] = none := rfl

theorem latest_same (consultation : Consultation) (earlier : List Consultation) :
    latest consultation.marker (earlier ++ [consultation]) = some consultation.found := by
  simp [latest, List.filter_append]

theorem latest_other {consultation : Consultation} {marker : Marker} (other : marker ≠ consultation.marker)
    (earlier : List Consultation) : latest marker (earlier ++ [consultation]) = latest marker earlier := by
  simp [latest, List.filter_append, other.symm]

/-- A name is told of if a look-up finds nothing, unless that was so the last time already. -/
def alert (tick : Int) (earlier : List Consultation) (consultation : Consultation) : List Event :=
  if consultation.found || latest consultation.marker earlier == some false then []
  else [.unknownIdentifier tick consultation.marker.lookup.label consultation.marker.name]

def alerts (tick : Int) (earlier : List Consultation) : List Consultation → List Event
  | [] => []
  | consultation :: rest => consultation.alert tick earlier ++ alerts tick (earlier ++ [consultation]) rest

end Consultation

open Consultation

namespace Resolver

/-- A resolver holds those names missing whose latest look-up has found nothing. -/
def Recalls (resolver : Resolver) (earlier : List Consultation) : Prop :=
  ∀ marker, marker ∈ resolver.unknown ↔ latest marker earlier = some false

theorem mem_learn_same (resolver : Resolver) (consultation : Consultation) :
    consultation.marker ∈ (resolver.learn consultation).unknown ↔ consultation.found = false := by
  cases found : consultation.found with
  | true => simp [learn, found]
  | false => by_cases missing : consultation.marker ∈ resolver.unknown <;> simp [learn, found, missing]

theorem mem_learn_other {consultation : Consultation} {marker : Marker} (other : marker ≠ consultation.marker)
    (resolver : Resolver) : marker ∈ (resolver.learn consultation).unknown ↔ marker ∈ resolver.unknown := by
  cases found : consultation.found with
  | true => simp [learn, found, other]
  | false => by_cases missing : consultation.marker ∈ resolver.unknown <;> simp [learn, found, missing, other]

variable {resolver : Resolver} {earlier : List Consultation}

theorem recalls_learn (recalls : resolver.Recalls earlier) (consultation : Consultation) :
    (resolver.learn consultation).Recalls (earlier ++ [consultation]) := by
  intro marker
  by_cases same : marker = consultation.marker
  · subst same
    rw [latest_same, mem_learn_same, Option.some.injEq]
  · rw [latest_other same, mem_learn_other same]
    exact recalls marker

theorem recalls_learnAll (recalls : resolver.Recalls earlier) (consultations : List Consultation) :
    (resolver.learnAll consultations).Recalls (earlier ++ consultations) := by
  induction consultations generalizing resolver earlier with
  | nil => simpa [learnAll] using recalls
  | cons consultation rest ih =>
      rw [List.append_cons]
      exact ih (recalls_learn recalls consultation)

theorem news_of_recalls (recalls : resolver.Recalls earlier) (consultation : Consultation) :
    resolver.news consultation = consultation.alert resolver.tick earlier := by
  by_cases missing : consultation.marker ∈ resolver.unknown
  · simp [news, alert, missing, (recalls _).mp missing]
  · have present : latest consultation.marker earlier ≠ some false := fun last => missing ((recalls _).mpr last)
    simp [news, alert, missing, present]

theorem newsAll_of_recalls (recalls : resolver.Recalls earlier) (consultations : List Consultation) :
    resolver.newsAll consultations = alerts resolver.tick earlier consultations := by
  induction consultations generalizing resolver earlier with
  | nil => rfl
  | cons consultation rest ih =>
      rw [newsAll, alerts, news_of_recalls recalls, ih (recalls_learn recalls consultation)]
      rfl

/-- The look-ups that are reported: they end with the first on which a subscriber fails. -/
def reported : List Consultation → Resolver → Journal → List Consultation
  | [], _, _ => []
  | consultation :: rest, resolver, journal =>
      consultation :: match (report consultation).perform resolver journal with
        | ((.ok _, after), later) => reported rest after later
        | ((.error _, _), _) => []

theorem reportAll_leaves (consultations : List Consultation) (resolver : Resolver) (journal : Journal) :
    let ended := (reportAll consultations).perform resolver journal
    let made := reported consultations resolver journal
    ended.1.2 = resolver.learnAll made ∧
      ended.2.channel = journal.channel.map (Channel.sendAll (resolver.newsAll made)) := by
  induction consultations generalizing resolver journal with
  | nil => exact ⟨rfl, (sendAll_nothing _).symm⟩
  | cons consultation rest ih =>
      have first := report_leaves consultation resolver journal
      simp only [reportAll, reported, perform_bind]
      rcases performed : (report consultation).perform resolver journal with ⟨⟨fault | ⟨⟩, after⟩, later⟩
      · -- The subscriber that fails has been sent the event, and the name is learnt all the same.
        rw [performed] at first
        simpa only [learnAll, List.foldl, newsAll, List.append_nil] using first
      · rw [performed] at first
        obtain ⟨learnt, sent⟩ := first
        obtain ⟨learntLater, sentLater⟩ := ih after later
        simp only at learnt sent
        subst learnt
        exact ⟨learntLater, by rw [sentLater, sent, sendAll_map, newsAll]⟩

theorem reported_all (consultations : List Consultation) (resolver : Resolver) (journal : Journal) :
    reported consultations resolver journal = consultations ∨
      ¬ journal.Quiet ∧ reported consultations resolver journal <+: consultations ∧
        ∃ fault, ((reportAll consultations).perform resolver journal).1.1 = .error fault := by
  induction consultations generalizing resolver journal with
  | nil => exact Or.inl rfl
  | cons consultation rest ih =>
      simp only [reportAll, reported, perform_bind]
      rcases report_follows consultation resolver journal with
        ⟨later, ended, calm⟩ | ⟨loud, fault, left, later, ended, _⟩
      · simp only [ended]
        rcases ih (resolver.learn consultation) later with all | ⟨loud, front, failed⟩
        · exact Or.inl (by rw [all])
        · exact Or.inr ⟨fun quiet => loud (calm quiet), List.cons_prefix_cons.mpr ⟨rfl, front⟩, failed⟩
      · simp only [ended]
        exact Or.inr ⟨loud, List.cons_prefix_cons.mpr ⟨rfl, List.nil_prefix⟩, fault, rfl⟩

inductive Call
  | begin (source : Source) (tick : Int)
  | keyHolds (edge : Bool) (name : String)
  | axisHolds (test : AxisTest)
  | sampleAxis (name : String)
  | hasAxis (name : String)
  | identify (name : String)
  | stepHolds (manner : Manner) (step : Step)

namespace Call

def action : Call → Journaled Resolver Unit
  | .begin source tick => modify (Resolver.begin source tick)
  | .keyHolds edge name => (fun _ => ()) <$> Resolver.keyHolds edge name
  | .axisHolds test => (fun _ => ()) <$> Resolver.axisHolds test
  | .sampleAxis name => (fun _ => ()) <$> Resolver.sampleAxis name
  | .hasAxis name => (fun _ => ()) <$> Resolver.hasAxis name
  | .identify name => (fun _ => ()) <$> Resolver.identify name
  | .stepHolds manner step => (fun _ => ()) <$> Resolver.stepHolds manner step

def sightings (epsilon : Float) (source : Source) : Call → List Consultation
  | .begin _ _ => []
  | .keyHolds _ name => Source.sighting .key name (source.keyExists name)
  | .axisHolds test => Source.sighting .axis test.name (source.axisExists test.name)
  | .sampleAxis name | .hasAxis name => Source.sighting .axis name (source.axisExists name)
  | .identify name => Source.sighting .identifier name (source.resolves name)
  | .stepHolds manner step => source.stepSightings epsilon manner step

def consultations (call : Call) (resolver : Resolver) : List Consultation :=
  match resolver.source with
  | none => []
  | some source => call.sightings resolver.epsilon source

/-- The look-ups that a call makes among the subscribers of a journal. -/
def made (call : Call) (resolver : Resolver) (journal : Journal) : List Consultation :=
  reported (call.consultations resolver) resolver journal

theorem action_asks (call : Call) :
    (∃ source tick, call = .begin source tick) ∨
      ∃ (α : Type) (inquire : Float → Source → Inquiry α), call.action = (fun _ => ()) <$> ask inquire ∧
        ∀ epsilon source, (inquire epsilon source).consulted = call.sightings epsilon source := by
  cases call with
  | begin source tick => exact Or.inl ⟨source, tick, rfl⟩
  | keyHolds edge name => exact Or.inr ⟨_, _, rfl, fun _ source => source.consulted_keyHolds edge name⟩
  | axisHolds test => exact Or.inr ⟨_, _, rfl, fun epsilon source => source.consulted_axisHolds epsilon test⟩
  | sampleAxis name => exact Or.inr ⟨_, _, rfl, fun _ source => source.consulted_sampleAxis name⟩
  | hasAxis name => exact Or.inr ⟨_, _, rfl, fun _ source => source.consulted_findAxis name⟩
  | identify name => exact Or.inr ⟨_, _, rfl, fun _ source => source.consulted_identify name⟩
  | stepHolds manner step =>
      exact Or.inr ⟨_, _, rfl, fun epsilon source => source.consulted_stepHolds epsilon manner step⟩

theorem perform_action (call : Call) (resolver : Resolver) (journal : Journal) :
    let ended := call.action.perform resolver journal
    let told := (reportAll (call.consultations resolver)).perform resolver journal
    ended.1.2.unknown = told.1.2.unknown ∧ ended.2 = told.2 ∧
      ∀ fault, told.1.1 = .error fault → ended.1.1 = .error fault := by
  rcases call.action_asks with ⟨source, tick, rfl⟩ | ⟨α, inquire, asks, sees⟩
  · have silent : (begin source tick).consultations resolver = [] := by
      unfold consultations
      cases resolver.source <;> rfl
    rw [silent]
    exact ⟨rfl, rfl, fun _ failed => nomatch failed⟩
  · simp only [asks, perform_map, consultations]
    cases bound : resolver.source with
    | none => simp [ask, bound, perform_bind, reportAll]
    | some source =>
        have bare : (ask inquire).perform resolver journal =
            (do
              reportAll (call.sightings resolver.epsilon source)
              Journaled.ofExcept (inquire resolver.epsilon source).answer).perform resolver journal := by
          simp [ask, bound, perform_bind, sees]
        rw [bare, perform_bind]
        rcases (reportAll (call.sightings resolver.epsilon source)).perform resolver journal with
          ⟨⟨fault | ⟨⟩, after⟩, later⟩
        · exact ⟨rfl, rfl, fun _ failed => failed ▸ rfl⟩
        · exact ⟨rfl, rfl, fun _ failed => nomatch failed⟩

theorem action_leaves (call : Call) (resolver : Resolver) (journal : Journal) :
    let ended := call.action.perform resolver journal
    let made := call.made resolver journal
    ended.1.2.unknown = (resolver.learnAll made).unknown ∧
      ended.2.channel = journal.channel.map (Channel.sendAll (resolver.newsAll made)) := by
  obtain ⟨unknown, left, _⟩ := call.perform_action resolver journal
  obtain ⟨learnt, sent⟩ := reportAll_leaves (call.consultations resolver) resolver journal
  exact ⟨by rw [unknown, learnt, made], by rw [left, sent, made]⟩

theorem action_recalls (recalls : resolver.Recalls earlier) (call : Call) (journal : Journal) :
    (call.action.perform resolver journal).1.2.Recalls (earlier ++ call.made resolver journal) := by
  intro marker
  rw [(call.action_leaves resolver journal).1]
  exact recalls_learnAll recalls _ marker

theorem made_all (call : Call) (resolver : Resolver) (journal : Journal) :
    call.made resolver journal = call.consultations resolver ∨
      ¬ journal.Quiet ∧ call.made resolver journal <+: call.consultations resolver ∧
        ∃ fault, (call.action.perform resolver journal).1.1 = .error fault := by
  rcases reported_all (call.consultations resolver) resolver journal with all | ⟨loud, front, fault, failed⟩
  · exact Or.inl all
  · exact Or.inr ⟨loud, front, fault, (call.perform_action resolver journal).2.2 fault failed⟩

end Call

def after (resolver : Resolver) : List (Call × Journal) → Resolver
  | [] => resolver
  | (call, journal) :: rest => after (call.action.perform resolver journal).1.2 rest

def trace (resolver : Resolver) : List (Call × Journal) → List Consultation
  | [] => []
  | (call, journal) :: rest =>
      call.made resolver journal ++ trace (call.action.perform resolver journal).1.2 rest

theorem after_recalls (recalls : resolver.Recalls earlier) (history : List (Call × Journal)) :
    (resolver.after history).Recalls (earlier ++ resolver.trace history) := by
  induction history generalizing resolver earlier with
  | nil => simpa [after, Resolver.trace] using recalls
  | cons occasion rest ih =>
      obtain ⟨call, journal⟩ := occasion
      rw [Resolver.trace, ← List.append_assoc]
      exact ih (call.action_recalls recalls journal)

theorem create_recalls {epsilon : Float} {fresh : Resolver} (created : create epsilon = .ok fresh) :
    fresh.Recalls [] := by
  unfold create at created
  split at created
  · cases created
  · cases created
    simp [Recalls]

/-- Whatever calls came before, a call tells of the names that it misses and that were not missed the last time,
and of no others; the names held to be missing are then those whose latest look-up has found nothing. -/
theorem missing_told_once {epsilon : Float} {fresh : Resolver} (created : create epsilon = .ok fresh)
    (history : List (Call × Journal)) (call : Call) (journal : Journal) :
    let before := fresh.after history
    let earlier := fresh.trace history
    let ended := call.action.perform before journal
    let made := call.made before journal
    (made = call.consultations before ∨
        ¬ journal.Quiet ∧ made <+: call.consultations before ∧ ∃ fault, ended.1.1 = .error fault) ∧
      ended.2.channel = journal.channel.map (Channel.sendAll (alerts before.tick earlier made)) ∧
      ∀ marker, marker ∈ ended.1.2.unknown ↔ latest marker (earlier ++ made) = some false := by
  have recalls := after_recalls (create_recalls created) history
  refine ⟨call.made_all _ journal, ?_, call.action_recalls recalls journal⟩
  rw [(call.action_leaves _ journal).2, newsAll_of_recalls recalls]
  rfl

def noKeys : Snapshot where
  known := some []

def fireKey : Snapshot where
  known := some ["Fire"]

def listening : Journal where
  channel := some { history := { capacity := 3 } }

def wavering : List (Call × Journal) := [
  (.begin noKeys.toSource 4, listening),
  (.identify "Fire", listening),
  (.identify "Fire", listening),
  (.begin fireKey.toSource 5, listening),
  (.identify "Fire", listening),
  (.begin noKeys.toSource 6, listening)]

theorem missing_told_once_wavering :
    let fresh : Resolver := {}
    let fire : Marker := ⟨.identifier, "Fire"⟩
    let combo : Step := .combo (.key "Fire") (.axis ⟨"Tilt", .positive, 0.5⟩)
    let ended := (Call.stepHolds {} combo).action.perform (fresh.after wavering) listening
    create 0.0 = .ok fresh ∧ fresh.trace wavering = [⟨fire, false⟩, ⟨fire, false⟩, ⟨fire, true⟩] ∧
      ended.2.channel = listening.channel.map (Channel.sendAll [.unknownIdentifier 6 "identifier" "Fire"]) ∧
      fire ∈ ended.1.2.unknown := by
  intro fresh fire combo ended
  have created : create 0.0 = .ok fresh := rfl
  obtain ⟨_, sent, missing⟩ := missing_told_once created wavering (.stepHolds {} combo) listening
  refine ⟨created, rfl, sent, (missing fire).mpr ?_⟩
  decide

end Resolver

end InputBinding
