import Mathlib.Data.List.Sort
import InputBinding.Proofs.Rebinding

/-!
What keys an open capture catches, as a plain function of the keys: the first for a standard rule, the first and
the first that differs from it for a combo. A capture that is fed keys follows this function; in between it
remembers no more than the first key of a combo.
-/

namespace InputBinding

open Journaled

namespace Capture

inductive Catch
  | one (key : String)
  | two (first second : String)
deriving DecidableEq, Repr

def Catch.descriptor : Catch → String
  | .one key => key
  | .two first second => first ++ "+" ++ second

/-- What the keys of a whole capture come to, if they are enough for a rule of the kind. -/
def catch? (kind : Kind) : List String → Option Catch
  | [] => none
  | key :: others =>
      if kind = .standard then some (.one key)
      else (others.find? fun other => other != key).map (.two key)

/-- What a capture still needs to know of keys that were not enough. -/
def remembered (kind : Kind) (keys : List String) : List String :=
  if kind = .standard then [] else keys.head?.toList

theorem catch?_append {kind : Kind} {earlier : List String} (unfinished : catch? kind earlier = none)
    (keys : List String) : catch? kind (earlier ++ keys) = catch? kind (remembered kind earlier ++ keys) := by
  cases earlier with
  | nil => cases kind <;> rfl
  | cons first others =>
      by_cases standard : kind = .standard
      · simp [catch?, standard] at unfinished
      · simp only [catch?, standard, if_false, Option.map_eq_none_iff] at unfinished
        simp [catch?, remembered, standard, List.find?_append, unfinished]

theorem catch?_append_of_some {kind : Kind} {earlier : List String} {caught : Catch}
    (done : catch? kind earlier = some caught) (keys : List String) :
    catch? kind (earlier ++ keys) = some caught := by
  cases earlier with
  | nil => cases done
  | cons first others =>
      by_cases standard : kind = .standard
      · simpa [catch?, standard] using done
      · simp only [catch?, standard, if_false, Option.map_eq_some_iff] at done
        obtain ⟨second, found, rfl⟩ := done
        simp [catch?, standard, List.find?_append, found]

theorem nodup_eraseDups (names : List String) : names.eraseDups.Nodup := by
  induction size : names.length using Nat.strongRecOn generalizing names with
  | ind length ih =>
      cases names with
      | nil => simp
      | cons name others =>
          have shorter : (others.filter fun other => !other == name).length < length := by
            have bound := List.length_filter_le (fun other => !other == name) others
            simp only [List.length_cons] at size
            omega
          rw [List.eraseDups_cons, List.nodup_cons, List.mem_eraseDups]
          exact ⟨by simp, ih _ shorter _ rfl⟩

/-- The order in which keys that go down together are taken: each name once, by its characters, and only then
without the blanks around it. -/
theorem keysOf_sorted (keys : List String) : ∃ names : List String, names.Pairwise (· < ·) ∧
    (∀ name, name ∈ names ↔ name ∈ keys) ∧
    keysOf keys = (names.map Text.trim).filter fun key => !key.isEmpty := by
  have sorted : (keys.eraseDups.mergeSort fun left right => decide (left ≤ right)).Pairwise
      fun left right => decide (left ≤ right) = true :=
    List.pairwise_mergeSort (by simpa using fun _ _ _ => String.le_trans) (by simpa using String.le_total) _
  have once : (keys.eraseDups.mergeSort fun left right => decide (left ≤ right)).Nodup :=
    (List.mergeSort_perm _ _).nodup_iff.mpr (nodup_eraseDups keys)
  refine ⟨_, (sorted.and once).imp fun pair => Std.lt_of_le_of_ne (of_decide_eq_true pair.1) pair.2, ?_, rfl⟩
  intro name
  rw [(List.mergeSort_perm _ _).mem_iff, List.mem_eraseDups]

theorem keysOf_eq {keys names : List String} (sorted : names.Pairwise (· < ·))
    (same : ∀ name, name ∈ names ↔ name ∈ keys) :
    keysOf keys = (names.map Text.trim).filter fun key => !key.isEmpty := by
  obtain ⟨others, othersSorted, othersSame, taken⟩ := keysOf_sorted keys
  have equal : others = names := othersSorted.eq_of_mem_iff sorted fun name => (othersSame name).trans (same name).symm
  rw [taken, equal]

/-! Plain outcomes. -/

def opened (table : Table) (index : Int) (capture : Capture) : Except Fault Unit × Capture :=
  match table.binding index with
  | .error fault => (.error fault, capture)
  | .ok binding =>
      match refusal? binding.rule with
      | some reason => (.error (.unsupported reason), capture)
      | none => (.ok (), { target := some index })

theorem set_follows (kept : σ → τ) (next : σ) : Follows kept (set next) fun _ => (.ok (), next) :=
  fun _ journal => Or.inl ⟨journal, rfl, id⟩

theorem begin_follows (table : Table) (index tick : Int) :
    Follows (fun _ => ()) (begin table index tick) (opened table index) := by
  intro capture
  cases found : table.binding index with
  | error fault =>
      have failed : Follows (fun _ => ()) (Journaled.ofExcept (.error fault) : Journaled Capture Unit) _ :=
        ofExcept_follows _ _
      simp only [opened, found]
      exact (failed capture).start (fun journal => by simp [begin, found, perform_bind]) rfl
  | ok binding =>
      cases refused : refusal? binding.rule with
      | some reason =>
          have failed : Follows (fun _ => ())
              (Journaled.ofExcept (.error (.unsupported reason)) : Journaled Capture Unit) _ := ofExcept_follows _ _
          have rejected := (note_follows _ (.captureRejected index reason)).bind (fun _ => rfl) fun _ =>
            (announce_follows _ (.captureRejected tick index reason)).bind (fun _ => rfl) fun _ => failed
          simp only [opened, found, refused]
          exact (rejected capture).start (fun journal => by simp [begin, found, refused, perform_bind]) rfl
      | none =>
          have started := (set_follows (fun _ => ()) ({ target := some index } : Capture)).bind (fun _ => rfl) fun _ =>
            (note_follows _ (.captureStarted index binding.rule.kind)).bind (fun _ => rfl) fun _ =>
              announce_follows _ (.captureStarted tick index)
          simp only [opened, found, refused]
          cases before : capture.target with
          | none =>
              exact (started capture).start
                (fun journal => by simp [begin, found, refused, before, perform_bind]) rfl
          | some previous =>
              have restarted := (note_follows _ (.captureRestarted previous index)).bind (fun _ => rfl) fun _ => started
              exact (restarted capture).start (fun journal => by simp [begin, found, refused, before, perform_bind]) rfl

def finished (index : Int) (descriptor : String) (state : Table × Capture) : Except Fault Unit × (Table × Capture) :=
  match (Table.Edit.setDescriptor index descriptor).outcome state.1 with
  | (.ok _, table) => (.ok (), (table, {}))
  | (.error fault, table) => (.error fault, (table, state.2))

theorem finish_follows (index tick : Int) (descriptor : String) :
    Follows (fun _ => ()) (finish index tick descriptor) (finished index descriptor) := by
  have written : Follows (fun _ => ()) (onTable (Table.setDescriptor index descriptor)) fun state =>
      (((Table.Edit.setDescriptor index descriptor).outcome state.1).1,
        (((Table.Edit.setDescriptor index descriptor).outcome state.1).2, state.2)) :=
    fun state => (Table.setDescriptor_follows (fun _ => ()) index descriptor state.1).focus _ _ fun _ _ => rfl
  have closed : Follows (fun _ => ()) (onCapture (set ({} : Capture))) fun state => (.ok (), (state.1, {})) :=
    fun _ journal => Or.inl ⟨journal, rfl, id⟩
  have ended := written.bind (fun _ => rfl) fun _ => closed.bind (fun _ => rfl) fun _ =>
    (note_follows _ (.captureCompleted index descriptor)).bind (fun _ => rfl) fun _ =>
      announce_follows _ (.captureCompleted tick index descriptor)
  intro state
  have ends := ended state
  rcases outcome : (Table.Edit.setDescriptor index descriptor).outcome state.1 with ⟨fault | _, table⟩
  · simpa only [finish, finished, outcome] using ends
  · simpa only [finish, finished, outcome] using ends

def noted (kind : Kind) (keys : List String) (capture : Capture) : Capture :=
  if kind = .standard then capture else { capture with firstKey := (capture.firstKey.toList ++ keys).head? }

def known (kind : Kind) (capture : Capture) : List String :=
  remembered kind capture.firstKey.toList

def taken (kind : Kind) (index : Int) (keys : List String) (state : Table × Capture) :
    Except Fault Bool × (Table × Capture) :=
  match catch? kind (state.2.known kind ++ keys) with
  | none => (.ok false, (state.1, state.2.noted kind keys))
  | some caught =>
      let ended := finished index caught.descriptor (state.1, state.2.noted kind keys)
      (ended.1.map fun _ => true, ended.2)

theorem taken_nil (kind : Kind) (index : Int) (state : Table × Capture) :
    taken kind index [] state = (.ok false, state) := by
  obtain ⟨table, target, _ | first⟩ := state <;> cases kind <;> rfl

theorem taken_standard (index : Int) (key : String) (others : List String) (state : Table × Capture) :
    taken .standard index (key :: others) state =
      ((finished index key state).1.map fun _ => true, (finished index key state).2) := rfl

theorem taken_first {kind : Kind} (several : kind ≠ .standard) (index : Int) (key : String) (others : List String)
    (table : Table) (target : Option Int) :
    taken kind index (key :: others) (table, { target }) =
      taken kind index others (table, { target, firstKey := some key }) := by
  simp [taken, known, remembered, noted, several]

theorem taken_again {kind : Kind} (several : kind ≠ .standard) (index : Int) (key : String) (others : List String)
    (table : Table) (target : Option Int) :
    taken kind index (key :: others) (table, { target, firstKey := some key }) =
      taken kind index others (table, { target, firstKey := some key }) := by
  simp [taken, known, remembered, noted, several, catch?]

theorem taken_second {kind : Kind} (several : kind ≠ .standard) (index : Int) {first key : String}
    (differs : key ≠ first) (others : List String) (table : Table) (target : Option Int) :
    taken kind index (key :: others) (table, { target, firstKey := some first }) =
      let ended := finished index (first ++ "+" ++ key) (table, { target, firstKey := some first })
      (ended.1.map fun _ => true, ended.2) := by
  simp [taken, known, remembered, noted, several, catch?, differs, Catch.descriptor]

theorem takeKeys_follows (kind : Kind) (index tick : Int) (keys : List String) :
    Follows (fun _ => ()) (takeKeys kind index tick keys) (taken kind index keys) := by
  intro state
  induction keys generalizing state with
  | nil =>
      rw [taken_nil]
      exact pure_follows _ false state
  | cons key others ih =>
      by_cases standard : kind = .standard
      · subst standard
        rw [taken_standard]
        exact ((finish_follows index tick key state).map fun _ => true).start (fun journal => by simp [takeKeys]) rfl
      · obtain ⟨table, target, _ | first⟩ := state
        · rw [taken_first standard]
          have next := (note_follows (fun _ => ()) (.captureFirstKey index key)).bind (fun _ => rfl) fun _ => ih
          exact (next (table, { target, firstKey := some key })).start
            (fun journal => by simp [takeKeys, standard, onCapture, perform_bind]) rfl
        · by_cases same : key = first
          · subst same
            rw [taken_again standard]
            exact (ih _).start (fun journal => by simp [takeKeys, standard, perform_bind]) rfl
          · rw [taken_second standard index same]
            exact ((finish_follows index tick _ _).map fun _ => true).start
              (fun journal => by simp [takeKeys, standard, same, perform_bind]) rfl

def fed (keys : List String) (state : Table × Capture) : Except Fault Bool × (Table × Capture) :=
  match state.2.target with
  | none => (.ok false, state)
  | some index =>
      if (state.1.size : Int) ≤ index then (.ok false, (state.1, {}))
      else
        match state.1.binding index with
        | .error fault => (.error fault, state)
        | .ok binding =>
            if binding.isSequence then (.ok false, (state.1, {}))
            else taken binding.rule.kind index (keysOf keys) state

theorem abandon_ends (notice : Notice) {table : Table} {capture : Capture} {index : Int}
    (opened : capture.target = some index) :
    EndsAs (fun _ => ()) (abandon notice) (table, capture) (.ok false, (table, {})) := by
  intro journal
  refine Or.inl ⟨{ journal with
    notices := (journal.notices.push notice).push (.captureCancelled index capture.draft) }, ?_, id⟩
  simp [abandon, onCapture, cancel, opened, perform_bind, Except.map]

theorem feed_follows (keys : List String) (tick : Int) : Follows (fun _ => ()) (feed keys tick) (fed keys) := by
  apply Follows.get
  rintro ⟨table, capture⟩
  cases opened : capture.target with
  | none =>
      simp only [fed, opened]
      exact pure_follows _ false _
  | some index =>
      by_cases removed : (table.size : Int) ≤ index
      · simp only [fed, opened, if_pos removed]
        exact abandon_ends _ opened
      · cases found : table.binding index with
        | error fault =>
            have failed : Follows (fun _ => ())
                (Journaled.ofExcept (.error fault) : Journaled (Table × Capture) Bool) _ := ofExcept_follows _ _
            simp only [fed, opened, if_neg removed, found]
            exact (failed _).start (fun journal => by simp [perform_bind]) rfl
        | ok binding =>
            simp only [fed, opened, if_neg removed, found]
            by_cases sequence : binding.isSequence = true
            · simp only [if_pos sequence]
              exact (abandon_ends (.captureTargetBecameSequence index) opened).start
                (fun journal => by simp [sequence, perform_bind]) rfl
            · simp only [if_neg sequence]
              exact (takeKeys_follows binding.rule.kind index tick (keysOf keys) (table, capture)).start
                (fun journal => by simp [sequence, perform_bind]) rfl

end Capture

end InputBinding
