import InputBinding.Proofs.Answers
import InputBinding.Resolver

/-!
The names that an inquiry looks up, in order. A source that fails on a look-up has not consulted the name; a step of
several parts looks up the names of its parts up to the first that does not hold.
-/

namespace InputBinding

namespace Inquiry

variable {inquiry : Inquiry α} {next : α → Inquiry β}

theorem consulted_ofExcept_bind (answer : Except Fault α) (next : α → Inquiry β) :
    (ofExcept answer >>= next).consulted =
      match answer with
      | .ok value => (next value).consulted
      | .error _ => [] := by
  cases answer <;> rfl

theorem consulted_bind_ok {value : α} (answered : inquiry.answer = .ok value) :
    (inquiry >>= next).consulted = inquiry.consulted ++ (next value).consulted := by
  obtain ⟨consulted, answer⟩ := inquiry
  cases answered
  rfl

theorem consulted_bind_error {fault : Fault} (failed : inquiry.answer = .error fault) :
    (inquiry >>= next).consulted = inquiry.consulted := by
  obtain ⟨consulted, answer⟩ := inquiry
  cases failed
  rfl

theorem consulted_bind_silent (silent : ∀ value, inquiry.answer = .ok value → (next value).consulted = []) :
    (inquiry >>= next).consulted = inquiry.consulted := by
  cases answered : inquiry.answer with
  | error fault => exact consulted_bind_error answered
  | ok value => rw [consulted_bind_ok answered, silent value answered, List.append_nil]

def passes (inquiry : Inquiry Bool) : Bool :=
  match inquiry.answer with
  | .ok passed => passed
  | .error _ => false

end Inquiry

def upTo (test : α → Bool) : List α → List α
  | [] => []
  | item :: rest => item :: if test item then upTo test rest else []

theorem Inquiry.consulted_all (test : α → Inquiry Bool) (items : List α) :
    (Inquiry.all test items).consulted =
      (upTo (fun item => (test item).passes) items).flatMap fun item => (test item).consulted := by
  induction items with
  | nil => rfl
  | cons item rest ih =>
      rw [Inquiry.all, upTo, List.flatMap_cons]
      cases answered : (test item).answer with
      | error fault => simp [consulted_bind_error answered, passes, answered]
      | ok passed => cases passed <;> simp [consulted_bind_ok answered, passes, answered, ih]

namespace Source

def sighting (lookup : Lookup) (name : String) : Except Fault Bool → List Consultation
  | .ok found => [⟨⟨lookup, name⟩, found⟩]
  | .error _ => []

def resolves (source : Source) (name : String) : Except Fault Bool := do
  if ← source.keyExists name then return true else source.axisExists name

/-- A bare name is looked up once more if it turns out to be that of an axis. -/
def partSightings (source : Source) : Part → List Consultation
  | .axis test => sighting .axis test.name (source.axisExists test.name)
  | .key name =>
      match source.keyExists name, source.axisExists name with
      | .ok false, .ok true => [⟨⟨.identifier, name⟩, true⟩, ⟨⟨.axis, name⟩, true⟩]
      | _, _ => sighting .identifier name (source.resolves name)

def stepSightings (source : Source) (epsilon : Float) (manner : Manner) (step : Step) : List Consultation :=
  match (source.partsOf step).answer with
  | .error _ => []
  | .ok parts => (upTo (fun part => (source.partHolds epsilon manner part).passes) parts).flatMap source.partSightings

variable (source : Source)

theorem consulted_findKey (name : String) :
    (source.findKey name).consulted = sighting .key name (source.keyExists name) := by
  rw [findKey, Inquiry.consulted_ofExcept_bind]
  cases source.keyExists name <;> rfl

theorem consulted_findAxis (name : String) :
    (source.findAxis name).consulted = sighting .axis name (source.axisExists name) := by
  rw [findAxis, Inquiry.consulted_ofExcept_bind]
  cases source.axisExists name <;> rfl

theorem resolves_of_key {source : Source} {name : String} (isKey : source.keyExists name = .ok true) :
    source.resolves name = .ok true := by
  rw [resolves, isKey]
  rfl

theorem resolves_of_axis {source : Source} {name : String} (notKey : source.keyExists name = .ok false) :
    source.resolves name = source.axisExists name := by
  rw [resolves, notKey]
  rfl

theorem consulted_identify (name : String) :
    (source.identify name).consulted = sighting .identifier name (source.resolves name) := by
  rw [identify, Inquiry.consulted_ofExcept_bind]
  cases asked : source.keyExists name with
  | error fault => simp only [resolves, asked, error_bind, sighting]
  | ok isKey =>
      cases isKey with
      | true =>
          rw [resolves_of_key asked]
          rfl
      | false =>
          rw [resolves_of_axis asked]
          simp only [Bool.false_eq_true, if_false, Inquiry.consulted_ofExcept_bind]
          cases source.axisExists name <;> rfl

theorem consulted_keyHolds (edge : Bool) (name : String) :
    (source.keyHolds edge name).consulted = sighting .key name (source.keyExists name) := by
  rw [keyHolds, Inquiry.consulted_bind_silent, consulted_findKey]
  rintro (_ | _) _ <;> rfl

theorem consulted_sampleAxis (name : String) :
    (source.sampleAxis name).consulted = sighting .axis name (source.axisExists name) := by
  rw [sampleAxis, Inquiry.consulted_bind_silent, consulted_findAxis]
  rintro (_ | _) _ <;> rfl

theorem consulted_axisHolds (epsilon : Float) (test : AxisTest) :
    (source.axisHolds epsilon test).consulted = sighting .axis test.name (source.axisExists test.name) := by
  rw [axisHolds, Inquiry.consulted_bind_silent, consulted_findAxis]
  rintro (_ | _) _
  · rfl
  · rw [if_pos rfl, Inquiry.consulted_ofExcept_bind]
    cases source.axisValue test.name <;> rfl

theorem consulted_partHolds (epsilon : Float) (manner : Manner) (part : Part) :
    (source.partHolds epsilon manner part).consulted = source.partSightings part := by
  cases part with
  | axis test => exact source.consulted_axisHolds epsilon test
  | key name =>
      rw [partHolds, partSightings]
      cases asked : source.keyExists name with
      | error fault =>
          have failed : (source.identify name).answer = .error fault := by simp [identify, asked]
          rw [Inquiry.consulted_bind_error failed, consulted_identify]
      | ok isKey =>
          cases isKey with
          | true =>
              have identified : (source.identify name).answer = .ok (some .key) := by
                simp [identify, asked]
              rw [Inquiry.consulted_bind_ok identified, consulted_identify]
              exact List.append_nil _
          | false =>
              cases axis : source.axisExists name with
              | error fault =>
                  have failed : (source.identify name).answer = .error fault := by simp [identify, asked, axis]
                  rw [Inquiry.consulted_bind_error failed, consulted_identify]
              | ok isAxis =>
                  have identified : (source.identify name).answer = .ok (if isAxis then some .axis else none) := by
                    simp [identify, asked, axis]
                  rw [Inquiry.consulted_bind_ok identified, consulted_identify, resolves_of_axis asked, axis]
                  cases isAxis with
                  | false => rfl
                  | true =>
                      -- The name is looked up a second time, now as that of an axis.
                      simp only [if_true, consulted_axisHolds, axis]
                      rfl

theorem consulted_partsOf (step : Step) : (source.partsOf step).consulted = [] := by
  cases step with
  | single part | diagonal first second key => rfl
  | combo left right =>
      cases left with
      | axis test => rfl
      | key left =>
          cases right with
          | key right => rfl
          | axis test =>
              rw [partsOf, orient, Inquiry.consulted_ofExcept_bind]
              rcases source.isSwapped left test.name with fault | _ | _ <;> rfl

theorem consulted_stepHolds (epsilon : Float) (manner : Manner) (step : Step) :
    (source.stepHolds epsilon manner step).consulted = source.stepSightings epsilon manner step := by
  rw [stepHolds, stepSightings]
  cases answered : (source.partsOf step).answer with
  | error fault => rw [Inquiry.consulted_bind_error answered, consulted_partsOf]
  | ok parts =>
      rw [Inquiry.consulted_bind_ok answered, consulted_partsOf, List.nil_append, Inquiry.consulted_all]
      exact List.flatMap_congr fun part _ => source.consulted_partHolds epsilon manner part

end Source

end InputBinding
