import InputBinding.Proofs.FrameCuts
import InputBinding.Proofs.Recovery

/-!
Steps on the edge and at the level. Both ask the same of the axes of a step; on the edge its keys must have
gone down in the frame, at the level they must be down at its end. A key that went down and up again within
the frame passes the one and not the other.
-/

namespace InputBinding

namespace Snapshot

variable {snapshot : Snapshot} {epsilon : Float}

def key? (snapshot : Snapshot) : Part → Option String
  | .axis _ => none
  | .key name => if snapshot.isKey name then some name else none

def down (edge : Bool) (snapshot : Snapshot) (key : String) : Bool :=
  (if edge then snapshot.justPressed else snapshot.pressed).contains key

theorem axisHolds_answers (snapshot : Snapshot) (epsilon : Float) (test : AxisTest) :
    ∃ holds, (snapshot.toSource.axisHolds epsilon test).answer = .ok holds :=
  exists_of_within (Source.axisHolds_within (Source.toSource_within snapshot) epsilon test)

theorem partHolds_eq (snapshot : Snapshot) (epsilon : Float) (manner : Manner) (part : Part) :
    ∃ holds, ∀ edge, (snapshot.toSource.partHolds epsilon { manner with edge } part).answer =
      .ok (holds && (snapshot.key? part).all (snapshot.down edge)) := by
  cases part with
  | axis test =>
      obtain ⟨holds, answered⟩ := axisHolds_answers snapshot epsilon test
      exact ⟨holds, fun edge => by simpa [key?, Source.partHolds] using answered⟩
  | key name =>
      obtain ⟨bare, answered⟩ :=
        axisHolds_answers snapshot epsilon ⟨name, manner.bareDirection, manner.bareTolerance⟩
      cases isKey : snapshot.isKey name with
      | true =>
          refine ⟨true, fun edge => ?_⟩
          cases edge <;> simp [Source.partHolds, Source.identify, Source.keyDown, toSource, key?, down, isKey]
      | false =>
          cases isAxis : snapshot.isAxis name with
          | true =>
              refine ⟨bare, fun edge => ?_⟩
              simpa [Source.partHolds, Source.identify, toSource, key?, isKey, isAxis] using answered
          | false =>
              refine ⟨false, fun edge => ?_⟩
              simp [Source.partHolds, Source.identify, toSource, key?, isKey, isAxis]

theorem all_partHolds (snapshot : Snapshot) (epsilon : Float) (manner : Manner) (parts : List Part) :
    ∃ holds, ∀ edge,
      (Inquiry.all (snapshot.toSource.partHolds epsilon { manner with edge }) parts).answer =
        .ok (holds && (parts.filterMap snapshot.key?).all (snapshot.down edge)) := by
  induction parts with
  | nil => exact ⟨true, fun _ => rfl⟩
  | cons part others ih =>
      obtain ⟨first, firstHolds⟩ := partHolds_eq snapshot epsilon manner part
      obtain ⟨rest, restHold⟩ := ih
      refine ⟨first && rest, fun edge => ?_⟩
      have whole : (first && rest && ((part :: others).filterMap snapshot.key?).all (snapshot.down edge)) =
          ((first && (snapshot.key? part).all (snapshot.down edge)) &&
            (rest && (others.filterMap snapshot.key?).all (snapshot.down edge))) := by
        cases found : snapshot.key? part with
        | none => simp [found, Bool.and_assoc]
        | some key =>
            simp only [List.filterMap_cons, found, List.all_cons, Option.all_some]
            ac_rfl
      rw [whole, Inquiry.all, Inquiry.answer_bind, firstHolds edge, ok_bind]
      cases first && (snapshot.key? part).all (snapshot.down edge) with
      | false => rfl
      | true => exact restHold edge

theorem stepHolds_eq (snapshot : Snapshot) (epsilon : Float) (manner : Manner) (step : Step) :
    ∃ parts holds, (snapshot.toSource.partsOf step).answer = .ok parts ∧ ∀ edge,
      (snapshot.toSource.stepHolds epsilon { manner with edge } step).answer =
        .ok (holds && (parts.filterMap snapshot.key?).all (snapshot.down edge)) := by
  obtain ⟨parts, answered⟩ := exists_of_within (Source.partsOf_within (Source.toSource_within snapshot) step)
  obtain ⟨holds, all⟩ := all_partHolds snapshot epsilon manner parts
  refine ⟨parts, holds, answered, fun edge => ?_⟩
  rw [Source.stepHolds, Inquiry.answer_bind, answered, ok_bind]
  exact all edge

end Snapshot

namespace Tracker

theorem justReleased_of_tapped (tracker : Tracker) (frame : Int) {key : String}
    (pressed : key ∈ (tracker.build frame).1.justPressed) (gone : key ∉ (tracker.build frame).1.pressed) :
    key ∈ (tracker.build frame).1.justReleased :=
  (Keys.accounted_after tracker.keyEvents tracker.pressed).gone_both key pressed gone

/-- Whatever a tracker has been told, a step that holds on the edge has all its keys just pressed, and it
holds at the level as well unless one of these keys was let go again within the frame. -/
theorem edge_at_level (tracker : Tracker) (frame : Int) (epsilon : Float) (manner : Manner) (step : Step) :
    let snapshot := (tracker.build frame).1
    ∃ parts edge level, (snapshot.toSource.partsOf step).answer = .ok parts ∧
      (snapshot.toSource.stepHolds epsilon { manner with edge := true } step).answer = .ok edge ∧
      (snapshot.toSource.stepHolds epsilon { manner with edge := false } step).answer = .ok level ∧
      (edge = true →
        (∀ key ∈ parts.filterMap snapshot.key?, key ∈ snapshot.justPressed) ∧
        (level = false ↔
          ∃ key ∈ parts.filterMap snapshot.key?, key ∈ snapshot.justReleased ∧ key ∉ snapshot.pressed)) := by
  intro snapshot
  obtain ⟨parts, holds, answered, all⟩ := snapshot.stepHolds_eq epsilon manner step
  refine ⟨parts, _, _, answered, all true, all false, ?_⟩
  intro edge
  obtain ⟨holds, down⟩ := Bool.and_eq_true_iff.mp edge
  have justPressed : ∀ key ∈ parts.filterMap snapshot.key?, key ∈ snapshot.justPressed := by
    intro key member
    simpa [Snapshot.down] using List.all_eq_true.mp down key member
  refine ⟨justPressed, ?_⟩
  rw [holds, Bool.true_and, List.all_eq_false]
  constructor
  · rintro ⟨key, member, up⟩
    have gone : key ∉ snapshot.pressed := by simpa [Snapshot.down] using up
    exact ⟨key, member, tracker.justReleased_of_tapped frame (justPressed key member) gone, gone⟩
  · rintro ⟨key, member, _, gone⟩
    exact ⟨key, member, by simpa [Snapshot.down] using gone⟩

/-- Two keys go down in one frame and one of them goes up again: together they hold on the edge, but not at
the level. -/
theorem edge_without_level :
    let tracker := ((({} : Tracker).press "A").press "B").release "A"
    let source := (tracker.build 0).1.toSource
    let step := Step.combo (.key "A") (.key "B")
    (source.stepHolds 0.0 { edge := true } step).answer = .ok true ∧
      (source.stepHolds 0.0 { edge := false } step).answer = .ok false :=
  ⟨rfl, rfl⟩

end Tracker

end InputBinding
