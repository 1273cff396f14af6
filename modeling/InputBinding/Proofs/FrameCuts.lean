import Mathlib.Data.List.Induction
import InputBinding.Tracker

/-!
Raw events cut into frames. Wherever the frames end, nothing is lost or invented: the same keys are held and the
same values read in the end, and the same keys have gone down and up on the way. Within a frame, the keys that
are reported to have gone down or up account for every change of what is held.
-/

namespace InputBinding

def InputEvent.key? : InputEvent → Option KeyEvent
  | key event => some event
  | _ => none

def InputEvent.axis? : InputEvent → Option AxisEvent
  | axis event => some event
  | _ => none

def KeyEvent.move? (event : KeyEvent) : Option (String × Bool) :=
  if (Text.trim event.key).isEmpty then none
  else if event.type = "key_down" then some (Text.trim event.key, true)
  else if event.type = "key_up" then some (Text.trim event.key, false)
  else none

def KeyEvent.leaves? (key : String) (event : KeyEvent) : Option Bool :=
  match event.move? with
  | some (name, down) => if name = key then some down else none
  | none => none

theorem KeyEvent.move?_eq {event : KeyEvent} {name : String} {down : Bool} (moves : event.move? = some (name, down)) :
    event.type = (if down then "key_down" else "key_up") ∧ Text.trim event.key = name := by
  unfold move? at moves
  by_cases blank : (Text.trim event.key).isEmpty
  · simp [blank] at moves
  · by_cases isDown : event.type = "key_down"
    · simp_all
    · by_cases isUp : event.type = "key_up" <;> simp_all

theorem KeyEvent.leaves?_eq {event : KeyEvent} {key : String} {down : Bool} (leaves : event.leaves? key = some down) :
    event.type = (if down then "key_down" else "key_up") ∧ Text.trim event.key = key := by
  unfold leaves? at leaves
  split at leaves
  case h_1 name held moves =>
    split at leaves
    case isTrue same =>
      cases leaves
      exact same ▸ move?_eq moves
    case isFalse => cases leaves
  case h_2 => cases leaves

def Snapshot.keys (snapshot : Snapshot) : Tracker.Keys where
  pressed := snapshot.pressed
  justPressed := snapshot.justPressed
  justReleased := snapshot.justReleased

namespace Tracker

inductive Call
  | press (key : String)
  | release (key : String)
  | setAxis (name : String) (value : Float)
  | consume (events : List InputEvent)

namespace Call

def perform (tracker : Tracker) : Call → Tracker
  | press key => tracker.press key
  | release key => tracker.release key
  | setAxis name value => tracker.setAxis name value
  | consume events => tracker.consume events

def keyEvents : Call → List KeyEvent
  | press key => [.down key]
  | release key => [.up key]
  | setAxis _ _ => []
  | consume events => events.filterMap InputEvent.key?

def axisEvents : Call → List AxisEvent
  | press _ | release _ => []
  | setAxis name value => [⟨name, value⟩]
  | consume events => events.filterMap InputEvent.axis?

end Call

structure Cut where
  frame : Int
  calls : List Call

namespace Cut

def keyEvents (cut : Cut) : List KeyEvent :=
  cut.calls.flatMap Call.keyEvents

def axisEvents (cut : Cut) : List AxisEvent :=
  cut.calls.flatMap Call.axisEvents

def run (tracker : Tracker) (cut : Cut) : Snapshot × Tracker :=
  (cut.calls.foldl Call.perform tracker).build cut.frame

end Cut

def frames : List Cut → Tracker → List Snapshot
  | [], _ => []
  | cut :: later, tracker => (cut.run tracker).1 :: frames later (cut.run tracker).2

def behind (cuts : List Cut) (tracker : Tracker) : Tracker :=
  cuts.foldl (fun tracker cut => (cut.run tracker).2) tracker

def Keys.after (events : List KeyEvent) (pressed : List String) : Keys :=
  events.foldl Keys.step { pressed }

/-- The last value that an axis is told, or the one that it has if it is told none. -/
def lastTold (events : List AxisEvent) (axis : String × Float) : Float :=
  ((events.filter fun event => event.name = axis.1).getLast?.map AxisEvent.value).getD axis.2

variable {tracker : Tracker} {key : String}

theorem foldl_applyAxis (events : List AxisEvent) (axes : List (String × Float)) :
    events.foldl applyAxis axes = axes.map fun axis => (axis.1, lastTold events axis) := by
  induction events using List.reverseRecOn with
  | nil => simp [lastTold]
  | append_singleton earlier event ih =>
      rw [List.foldl_append, ih, List.foldl_cons, List.foldl_nil, applyAxis, List.map_map]
      refine List.map_congr_left fun axis _ => ?_
      by_cases own : event.name = axis.1
      · simp [lastTold, own]
      · simp [lastTold, own, Ne.symm own]

theorem consume_eq (events : List InputEvent) (tracker : Tracker) :
    tracker.consume events = { tracker with
      keyEvents := tracker.keyEvents ++ events.filterMap InputEvent.key?
      axisEvents := tracker.axisEvents ++ events.filterMap InputEvent.axis? } := by
  induction events generalizing tracker with
  | nil => simp [consume]
  | cons event others ih =>
      have rest : tracker.consume (event :: others) = (tracker.consumeOne event).consume others := rfl
      rw [rest, ih]
      cases event with
      | key event => simp [consumeOne, addKeyEvent, InputEvent.key?, InputEvent.axis?, List.filterMap_cons]
      | axis event => simp [consumeOne, addAxisEvent, InputEvent.key?, InputEvent.axis?, List.filterMap_cons]
      | unknown => simp [consumeOne, InputEvent.key?, InputEvent.axis?, List.filterMap_cons]

theorem perform_eq (call : Call) (tracker : Tracker) :
    call.perform tracker = { tracker with
      keyEvents := tracker.keyEvents ++ call.keyEvents
      axisEvents := tracker.axisEvents ++ call.axisEvents } := by
  cases call with
  | press key | release key => simp [Call.perform, press, release, addKeyEvent, Call.keyEvents, Call.axisEvents]
  | setAxis name value => simp [Call.perform, setAxis, addAxisEvent, Call.keyEvents, Call.axisEvents]
  | consume events => exact consume_eq events tracker

theorem foldl_perform (calls : List Call) (tracker : Tracker) :
    calls.foldl Call.perform tracker = { tracker with
      keyEvents := tracker.keyEvents ++ calls.flatMap Call.keyEvents
      axisEvents := tracker.axisEvents ++ calls.flatMap Call.axisEvents } := by
  induction calls generalizing tracker with
  | nil => simp
  | cons call others ih =>
      rw [List.foldl_cons, ih, perform_eq]
      simp

theorem run_eq (cut : Cut) (tracker : Tracker) :
    let keys := Keys.after (tracker.keyEvents ++ cut.keyEvents) tracker.pressed
    let axes := (tracker.axisEvents ++ cut.axisEvents).foldl applyAxis tracker.axes
    (cut.run tracker).1.frame = cut.frame ∧ (cut.run tracker).1.keys = keys ∧ (cut.run tracker).1.axes = axes ∧
      (cut.run tracker).2 =
        { tracker with keyEvents := [], axisEvents := [], pressed := keys.pressed, axes } := by
  simp only [Cut.run, foldl_perform]
  exact ⟨rfl, rfl, rfl, rfl⟩

namespace Keys

variable {keys : Keys}

theorem mem_addOnce {name : String} {names : List String} :
    key ∈ addOnce name names ↔ key ∈ names ∨ key = name := by
  unfold addOnce
  split
  case isTrue present =>
    have member : name ∈ names := by simpa using present
    constructor
    · exact Or.inl
    · rintro (old | rfl)
      · exact old
      · exact member
  case isFalse => simp

theorem step_eq (keys : Keys) (event : KeyEvent) : keys.step event =
    match event.move? with
    | none => keys
    | some (name, true) =>
        if name ∈ keys.pressed then keys
        else { keys with pressed := keys.pressed ++ [name], justPressed := addOnce name keys.justPressed }
    | some (name, false) =>
        if name ∈ keys.pressed then
          { keys with pressed := keys.pressed.filter (· != name), justReleased := addOnce name keys.justReleased }
        else keys := by
  unfold step KeyEvent.move?
  by_cases blank : (Text.trim event.key).isEmpty
  · simp [blank]
  · by_cases down : event.type = "key_down"
    · simp [blank, down]
    · by_cases up : event.type = "key_up" <;> simp [blank, down, up]

theorem mem_step (keys : Keys) (event : KeyEvent) (key : String) :
    (key ∈ (keys.step event).pressed ↔ ((event.leaves? key).getD (keys.pressed.contains key)) = true) ∧
    (key ∈ (keys.step event).justPressed ↔
      key ∈ keys.justPressed ∨ event.leaves? key = some true ∧ key ∉ keys.pressed) ∧
    (key ∈ (keys.step event).justReleased ↔
      key ∈ keys.justReleased ∨ event.leaves? key = some false ∧ key ∈ keys.pressed) := by
  rw [step_eq, KeyEvent.leaves?]
  match event.move? with
  | none => simp
  | some (name, true) =>
      by_cases held : name ∈ keys.pressed
      · by_cases same : name = key
        · subst same
          simp [held]
        · simp [held, same]
      · by_cases same : name = key
        · subst same
          simp [held, mem_addOnce]
        · simp [held, same, mem_addOnce, Ne.symm same]
  | some (name, false) =>
      by_cases held : name ∈ keys.pressed
      · by_cases same : name = key
        · subst same
          simp [held, mem_addOnce]
        · simp [held, same, mem_addOnce, Ne.symm same]
      · by_cases same : name = key
        · subst same
          simp [held]
        · simp [held, same]

theorem leaves_down {event : KeyEvent} (was : key ∉ keys.pressed) (isHeld : key ∈ (keys.step event).pressed) :
    event.leaves? key = some true := by
  have held := (mem_step keys event key).1.mp isHeld
  cases moved : event.leaves? key with
  | none => simp [moved, was] at held
  | some down => simpa [moved] using held

theorem leaves_up {event : KeyEvent} (was : key ∈ keys.pressed) (isNotHeld : key ∉ (keys.step event).pressed) :
    event.leaves? key = some false := by
  have notHeld := mt (mem_step keys event key).1.mpr isNotHeld
  cases moved : event.leaves? key with
  | none => simp [moved, was] at notHeld
  | some down => simpa [moved] using notHeld

theorem pressed_step {other : Keys} (same : keys.pressed = other.pressed) (event : KeyEvent) :
    (keys.step event).pressed = (other.step event).pressed := by
  rw [step_eq, step_eq, same]
  match event.move? with
  | none => exact same
  | some (name, true) => by_cases held : name ∈ other.pressed <;> simp [held, same]
  | some (name, false) => by_cases held : name ∈ other.pressed <;> simp [held, same]

theorem after_concat (events : List KeyEvent) (event : KeyEvent) (pressed : List String) :
    after (events ++ [event]) pressed = (after events pressed).step event := by
  simp [after]

theorem pressed_foldl (events : List KeyEvent) (keys : Keys) :
    (events.foldl step keys).pressed = (after events keys.pressed).pressed := by
  induction events using List.reverseRecOn with
  | nil => rfl
  | append_singleton earlier event ih =>
      rw [after_concat, List.foldl_append, List.foldl_cons, List.foldl_nil]
      exact pressed_step ih event

theorem mem_foldl (events : List KeyEvent) (keys : Keys) :
    (key ∈ (events.foldl step keys).justPressed ↔
      key ∈ keys.justPressed ∨ key ∈ (after events keys.pressed).justPressed) ∧
    (key ∈ (events.foldl step keys).justReleased ↔
      key ∈ keys.justReleased ∨ key ∈ (after events keys.pressed).justReleased) := by
  induction events using List.reverseRecOn with
  | nil => simp [after]
  | append_singleton earlier event ih =>
      have held := pressed_foldl earlier keys
      obtain ⟨_, pressed, released⟩ := mem_step (earlier.foldl step keys) event key
      obtain ⟨_, afterPressed, afterReleased⟩ := mem_step (after earlier keys.pressed) event key
      rw [after_concat, List.foldl_append, List.foldl_cons, List.foldl_nil, pressed, released, afterPressed,
        afterReleased, ih.1, ih.2, held]
      exact ⟨or_assoc, or_assoc⟩

theorem after_append (earlier later : List KeyEvent) (pressed : List String) :
    let before := after earlier pressed
    (after (earlier ++ later) pressed).pressed = (after later before.pressed).pressed ∧
    ∀ key, (key ∈ (after (earlier ++ later) pressed).justPressed ↔
        key ∈ before.justPressed ∨ key ∈ (after later before.pressed).justPressed) ∧
      (key ∈ (after (earlier ++ later) pressed).justReleased ↔
        key ∈ before.justReleased ∨ key ∈ (after later before.pressed).justReleased) := by
  intro before
  have joined : after (earlier ++ later) pressed = later.foldl step before := List.foldl_append
  rw [joined]
  exact ⟨pressed_foldl later before, fun key => mem_foldl later before⟩

/-- What is held, and what is reported of it, after events that found some keys held. -/
structure Accounted (before : List String) (events : List KeyEvent) (keys : Keys) : Prop where
  held : ∀ key, key ∈ keys.pressed ↔
    ((events.filterMap (KeyEvent.leaves? key)).getLast?.getD (before.contains key)) = true
  gone_down : ∀ key ∈ keys.pressed, key ∉ before → key ∈ keys.justPressed
  gone_up : ∀ key ∈ before, key ∉ keys.pressed → key ∈ keys.justReleased
  gone_both : ∀ key ∈ keys.justPressed, key ∉ keys.pressed → key ∈ keys.justReleased
  down : ∀ key ∈ keys.justPressed, ∃ event ∈ events, event.type = "key_down" ∧ Text.trim event.key = key
  up : ∀ key ∈ keys.justReleased, ∃ event ∈ events, event.type = "key_up" ∧ Text.trim event.key = key

theorem Accounted.step {before : List String} {events : List KeyEvent} (accounted : Accounted before events keys)
    (event : KeyEvent) : Accounted before (events ++ [event]) (keys.step event) where
  held key := by
    rw [(mem_step keys event key).1, List.filterMap_append]
    cases moved : event.leaves? key with
    | some held => simp [moved]
    | none => simpa [moved] using accounted.held key
  gone_down key isHeld new := by
    rw [(mem_step keys event key).2.1]
    by_cases was : key ∈ keys.pressed
    · exact Or.inl (accounted.gone_down key was new)
    · exact Or.inr ⟨leaves_down was isHeld, was⟩
  gone_up key old isNotHeld := by
    rw [(mem_step keys event key).2.2]
    by_cases was : key ∈ keys.pressed
    · exact Or.inr ⟨leaves_up was isNotHeld, was⟩
    · exact Or.inl (accounted.gone_up key old was)
  gone_both key noted isNotHeld := by
    rw [(mem_step keys event key).2.2]
    by_cases was : key ∈ keys.pressed
    · exact Or.inr ⟨leaves_up was isNotHeld, was⟩
    · refine Or.inl (accounted.gone_both key ?_ was)
      rcases (mem_step keys event key).2.1.mp noted with earlier | ⟨goes, _⟩
      · exact earlier
      · exact absurd ((mem_step keys event key).1.mpr (by rw [goes]; rfl)) isNotHeld
  down key := by
    rw [(mem_step keys event key).2.1]
    rintro (old | ⟨goes, _⟩)
    · obtain ⟨other, member, rest⟩ := accounted.down key old
      exact ⟨other, List.mem_append_left _ member, rest⟩
    · exact ⟨event, List.mem_append_right _ List.mem_cons_self, KeyEvent.leaves?_eq goes⟩
  up key := by
    rw [(mem_step keys event key).2.2]
    rintro (old | ⟨goes, _⟩)
    · obtain ⟨other, member, rest⟩ := accounted.up key old
      exact ⟨other, List.mem_append_left _ member, rest⟩
    · exact ⟨event, List.mem_append_right _ List.mem_cons_self, KeyEvent.leaves?_eq goes⟩

theorem accounted_after (events : List KeyEvent) (before : List String) :
    Accounted before events (after events before) := by
  induction events using List.reverseRecOn with
  | nil => exact ⟨by simp [after], by simp [after], by simp [after], by simp [after], by simp [after], by simp [after]⟩
  | append_singleton earlier event ih =>
      rw [after_concat]
      exact ih.step event

end Keys

theorem frames_append (earlier later : List Cut) (tracker : Tracker) :
    frames (earlier ++ later) tracker = frames earlier tracker ++ frames later (behind earlier tracker) := by
  induction earlier generalizing tracker with
  | nil => rfl
  | cons cut rest ih => simp [frames, behind, ih]

theorem length_frames (cuts : List Cut) (tracker : Tracker) : (frames cuts tracker).length = cuts.length := by
  induction cuts generalizing tracker with
  | nil => rfl
  | cons cut rest ih => simp [frames, ih]

/-- The key events that wait for the frame after some others: a frame takes all that there are. -/
def waiting (earlier : List Cut) (tracker : Tracker) : List KeyEvent :=
  if earlier.isEmpty then tracker.keyEvents else []

/-- The keys that were held in the last of some frames, or before there were any. -/
def lastHeld (earlier : List Cut) (tracker : Tracker) : List String :=
  ((frames earlier tracker).getLast?.map Snapshot.pressed).getD tracker.pressed

theorem behind_eq (earlier : List Cut) (tracker : Tracker) :
    (behind earlier tracker).keyEvents = waiting earlier tracker ∧
      (behind earlier tracker).pressed = lastHeld earlier tracker := by
  induction earlier using List.reverseRecOn with
  | nil => exact ⟨rfl, rfl⟩
  | append_singleton others cut _ =>
      obtain ⟨_, keys, _, next⟩ := run_eq cut (behind others tracker)
      have last : behind (others ++ [cut]) tracker = (cut.run (behind others tracker)).2 := by simp [behind]
      have held : (cut.run (behind others tracker)).1.pressed = _ := congrArg Keys.pressed keys
      rw [last, next]
      exact ⟨by simp [waiting], by simp [lastHeld, frames_append, frames, held]⟩

theorem frames_cons (cut : Cut) (later : List Cut) (tracker : Tracker) :
    let keys := Keys.after (tracker.keyEvents ++ (cut :: later).flatMap Cut.keyEvents) tracker.pressed
    let axes := (tracker.axisEvents ++ (cut :: later).flatMap Cut.axisEvents).foldl applyAxis tracker.axes
    (∃ last, (frames (cut :: later) tracker).getLast? = some last ∧ last.pressed = keys.pressed ∧ last.axes = axes) ∧
    ∀ key, ((∃ snapshot ∈ frames (cut :: later) tracker, key ∈ snapshot.justPressed) ↔ key ∈ keys.justPressed) ∧
      ((∃ snapshot ∈ frames (cut :: later) tracker, key ∈ snapshot.justReleased) ↔ key ∈ keys.justReleased) := by
  induction later generalizing cut tracker with
  | nil =>
      obtain ⟨_, keys, axes, _⟩ := run_eq cut tracker
      simp only [List.flatMap_cons, List.flatMap_nil, List.append_nil]
      rw [← keys, ← axes]
      exact ⟨⟨_, rfl, rfl, rfl⟩, fun key => ⟨by simp [frames]; rfl, by simp [frames]; rfl⟩⟩
  | cons next others ih =>
      obtain ⟨_, keys, axes, rest⟩ := run_eq cut tracker
      have later := ih next (cut.run tracker).2
      rw [rest] at later
      simp only [List.nil_append] at later
      obtain ⟨⟨last, isLast, lastKeys, lastAxes⟩, noted⟩ := later
      have split : frames (cut :: next :: others) tracker =
          (cut.run tracker).1 :: frames (next :: others) (cut.run tracker).2 := rfl
      have sameKeys : tracker.keyEvents ++ (cut :: next :: others).flatMap Cut.keyEvents =
          (tracker.keyEvents ++ cut.keyEvents) ++ (next :: others).flatMap Cut.keyEvents := by simp
      have sameAxes : tracker.axisEvents ++ (cut :: next :: others).flatMap Cut.axisEvents =
          (tracker.axisEvents ++ cut.axisEvents) ++ (next :: others).flatMap Cut.axisEvents := by simp
      rw [split, rest, sameKeys, sameAxes]
      obtain ⟨pressed, joined⟩ := Keys.after_append (tracker.keyEvents ++ cut.keyEvents)
        ((next :: others).flatMap Cut.keyEvents) tracker.pressed
      refine ⟨⟨last, ?_, ?_, ?_⟩, fun key => ⟨?_, ?_⟩⟩
      · rw [List.getLast?_cons, isLast, Option.getD_some]
      · rw [lastKeys, pressed]
      · rw [lastAxes, ← List.foldl_append]
      · rw [(joined key).1, ← (noted key).1, ← keys]
        simp only [List.mem_cons, exists_eq_or_imp]
        rfl
      · rw [(joined key).2, ← (noted key).2, ← keys]
        simp only [List.mem_cons, exists_eq_or_imp]
        rfl

/-- However a series of calls is cut into frames, the last of them tells the same of keys and axes, which is of each
axis the last value that it was told, and the same keys go down and up in one frame or another; and in each frame,
what is held and what is reported account for the events of that frame and for what was held in the last. -/
theorem cuts_agree (tracker : Tracker) {first second : List Cut} (ended : first ≠ []) (endedToo : second ≠ [])
    (same : first.flatMap Cut.calls = second.flatMap Cut.calls) :
    (∃ last other, (frames first tracker).getLast? = some last ∧ (frames second tracker).getLast? = some other ∧
      last.pressed = other.pressed ∧ last.axes = other.axes ∧
      last.axes = tracker.axes.map fun axis =>
        (axis.1, lastTold (tracker.axisEvents ++ first.flatMap Cut.axisEvents) axis)) ∧
    (∀ key, ((∃ snapshot ∈ frames first tracker, key ∈ snapshot.justPressed) ↔
        ∃ snapshot ∈ frames second tracker, key ∈ snapshot.justPressed) ∧
      ((∃ snapshot ∈ frames first tracker, key ∈ snapshot.justReleased) ↔
        ∃ snapshot ∈ frames second tracker, key ∈ snapshot.justReleased)) ∧
    ∀ earlier cut later, first = earlier ++ cut :: later →
      ∃ snapshot, (frames first tracker)[earlier.length]? = some snapshot ∧ snapshot.frame = cut.frame ∧
        Keys.Accounted (lastHeld earlier tracker) (waiting earlier tracker ++ cut.keyEvents) snapshot.keys := by
  have sameKeys : first.flatMap Cut.keyEvents = second.flatMap Cut.keyEvents := by
    have told := congrArg (List.flatMap Call.keyEvents) same
    rwa [List.flatMap_assoc, List.flatMap_assoc] at told
  have sameAxes : first.flatMap Cut.axisEvents = second.flatMap Cut.axisEvents := by
    have told := congrArg (List.flatMap Call.axisEvents) same
    rwa [List.flatMap_assoc, List.flatMap_assoc] at told
  obtain ⟨cut, later, rfl⟩ := List.exists_cons_of_ne_nil ended
  obtain ⟨cutToo, laterToo, rfl⟩ := List.exists_cons_of_ne_nil endedToo
  obtain ⟨⟨last, isLast, lastKeys, lastAxes⟩, noted⟩ := frames_cons cut later tracker
  obtain ⟨⟨other, isOther, otherKeys, otherAxes⟩, otherNoted⟩ := frames_cons cutToo laterToo tracker
  refine ⟨⟨last, other, isLast, isOther, ?_, ?_, ?_⟩, fun key => ⟨?_, ?_⟩, ?_⟩
  · rw [lastKeys, otherKeys, sameKeys]
  · rw [lastAxes, otherAxes, sameAxes]
  · rw [lastAxes, foldl_applyAxis]
  · rw [(noted key).1, (otherNoted key).1, sameKeys]
  · rw [(noted key).2, (otherNoted key).2, sameKeys]
  · intro earlier cut later cutHere
    obtain ⟨keyEvents, pressed⟩ := behind_eq earlier tracker
    obtain ⟨frame, keys, _, _⟩ := run_eq cut (behind earlier tracker)
    refine ⟨(cut.run (behind earlier tracker)).1, ?_, frame, ?_⟩
    · rw [cutHere, frames_append, ← length_frames earlier tracker, List.getElem?_append_right (Nat.le_refl _)]
      simp [frames]
    · rw [keys, keyEvents, pressed]
      exact Keys.accounted_after _ _

def burst : List Call := [
  .press " Q ",
  .consume [.key ⟨"key_up", "Q"⟩, .unknown, .key ⟨"key_hold", "Q"⟩, .axis ⟨"Tilt", 0.5⟩],
  .press "Q",
  .press " ",
  .setAxis "Roll" 1.0,
  .release "Q"]

def atOnce : List Cut := [⟨0, burst⟩]

def inFour : List Cut := [⟨0, burst.take 1⟩, ⟨1, (burst.drop 1).take 2⟩, ⟨2, []⟩, ⟨3, burst.drop 3⟩]

theorem cuts_agree_burst :
    atOnce.flatMap Cut.calls = inFour.flatMap Cut.calls ∧
      (frames atOnce (create ["Tilt"] none)).map (fun snapshot =>
        (snapshot.pressed, snapshot.justPressed, snapshot.justReleased)) = [([], ["Q"], ["Q"])] ∧
      (frames inFour (create ["Tilt"] none)).map (fun snapshot =>
        (snapshot.pressed, snapshot.justPressed, snapshot.justReleased)) =
          [(["Q"], ["Q"], []), (["Q"], ["Q"], ["Q"]), (["Q"], [], []), ([], [], ["Q"])] ∧
      ∃ last other, (frames atOnce (create ["Tilt"] none)).getLast? = some last ∧
        (frames inFour (create ["Tilt"] none)).getLast? = some other ∧
        last.pressed = other.pressed ∧ last.axes = other.axes ∧ last.axes = [("Tilt", 0.5)] := by
  have same : atOnce.flatMap Cut.calls = inFour.flatMap Cut.calls := rfl
  obtain ⟨⟨last, other, isLast, isOther, keys, axes, told⟩, _⟩ :=
    cuts_agree (create ["Tilt"] none) (List.cons_ne_nil _ _) (List.cons_ne_nil _ _) same
  exact ⟨same, by decide, by decide, last, other, isLast, isOther, keys, axes, told⟩

end Tracker

end InputBinding
