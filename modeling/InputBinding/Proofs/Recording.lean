import InputBinding.Proofs.Catches

/-!
Whole captures, from the opening to the last key. An index is refused when the capture is opened or never, except
that an index below zero, counted from the end, is only refused by the keys that would complete the capture.
From an index in the table, keys that come in any batches are recorded as one stream.
-/

namespace InputBinding

open Journaled

namespace Capture

/-- Keys that go down together, with the progress that the bindings have made by then and the journal of the moment. -/
structure Batch where
  keys : List String
  tick : Int := 0
  progress : Nat → Progress := fun _ => {}
  journal : Journal := {}

namespace Batch

def found (batch : Batch) (state : Table × Capture) : Table × Capture :=
  (state.1.withProgress batch.progress, state.2)

def feed (batch : Batch) (state : Table × Capture) : Except Fault Bool × (Table × Capture) :=
  ((Capture.feed batch.keys batch.tick).perform (batch.found state) batch.journal).1

def feedAll (batches : List Batch) (state : Table × Capture) : Table × Capture :=
  batches.foldl (fun state batch => (batch.feed state).2) state

/-- The keys of batches in the order in which a capture takes them: batch after batch, and within each of them in the
order of `keysOf_sorted`. -/
def pressed (batches : List Batch) : List String :=
  batches.flatMap fun batch => keysOf batch.keys

theorem feed_quiet {batch : Batch} (quiet : batch.journal.Quiet) (state : Table × Capture) :
    batch.feed state = fed batch.keys (batch.found state) := by
  obtain ⟨after, _, ended⟩ := (feed_follows batch.keys batch.tick (batch.found state)).quiet quiet
  rw [feed, ended]

theorem feedAll_concat (batches : List Batch) (batch : Batch) (state : Table × Capture) :
    feedAll (batches ++ [batch]) state = (batch.feed (feedAll batches state)).2 := by
  simp [feedAll]

theorem pressed_concat (batches : List Batch) (batch : Batch) :
    pressed (batches ++ [batch]) = pressed batches ++ keysOf batch.keys := by
  simp [pressed]

end Batch

def drafting (kind : Kind) (index : Int) (keys : List String) : Capture :=
  { target := some index, firstKey := (remembered kind keys).head? }

theorem known_drafting (kind : Kind) (index : Int) (keys : List String) :
    (drafting kind index keys).known kind = remembered kind keys := by
  cases keys <;> cases kind <;> rfl

theorem noted_drafting (kind : Kind) (index : Int) (keys more : List String) :
    (drafting kind index keys).noted kind more = drafting kind index (keys ++ more) := by
  by_cases standard : kind = .standard
  · simp [drafting, noted, remembered, standard]
  · cases keys <;> cases more <;> simp [drafting, noted, remembered, standard]

theorem finished_put {table : Table} {index : Int} {binding : Binding} (found : table.binding index = .ok binding)
    (descriptor : String) (capture : Capture) :
    finished index descriptor (table, capture) =
      if index < 0 then (.error (.mappingOutOfRange index), (table, capture))
      else (.ok (), (table.put index.toNat
        (Binding.ofRule table.axisNames (binding.rule.withDescriptor descriptor)), {})) := by
  rcases Table.binding_cases table index with ⟨_, nonnegative, inside, _⟩ | ⟨_, negative, _⟩ | ⟨_, looked⟩
  · have accepted : ¬ (index < 0 ∨ table.size ≤ index) := by omega
    have counted : ¬ index < 0 := by omega
    simp only [finished, Table.Edit.outcome, found, Table.replaced, if_neg accepted, if_neg counted]
  · simp only [finished, Table.Edit.outcome, found, Table.replaced, if_pos (Or.inl negative), if_pos negative]
  · cases looked.symm.trans found

theorem inside_of_found {table : Table} {index : Int} {binding : Binding} (found : table.binding index = .ok binding) :
    ¬ (table.size : Int) ≤ index := by
  rcases Table.binding_cases table index with ⟨_, _, inside, _⟩ | ⟨_, negative, _⟩ | ⟨_, looked⟩
  · omega
  · omega
  · cases looked.symm.trans found

theorem getElem?_of_found {table : Table} {position : Nat} {binding : Binding}
    (found : table.binding position = .ok binding) : table.bindings[position]? = some binding := by
  rcases Table.binding_cases table position with ⟨_, _, _, present, looked⟩ | ⟨_, negative, _⟩ | ⟨_, looked⟩
  · cases looked.symm.trans found
    exact present
  · omega
  · cases looked.symm.trans found

theorem fed_drafting {table : Table} {index : Int} {binding : Binding} (found : table.binding index = .ok binding)
    (steady : binding.rule.kind ≠ .sequence) (keys batch : List String) :
    fed batch (table, drafting binding.rule.kind index keys) =
      match catch? binding.rule.kind (remembered binding.rule.kind keys ++ keysOf batch) with
      | none => (.ok false, (table, drafting binding.rule.kind index (keys ++ keysOf batch)))
      | some caught =>
          if index < 0 then
            (.error (.mappingOutOfRange index), (table, drafting binding.rule.kind index (keys ++ keysOf batch)))
          else (.ok true, (table.put index.toNat
            (Binding.ofRule table.axisNames (binding.rule.withDescriptor caught.descriptor)), {})) := by
  have target : (drafting binding.rule.kind index keys).target = some index := rfl
  have steady : binding.isSequence = false := by simp [Binding.isSequence, steady]
  simp only [fed, target, if_neg (inside_of_found found), found, steady, Bool.false_eq_true, if_false, taken,
    known_drafting, noted_drafting]
  cases catch? binding.rule.kind (remembered binding.rule.kind keys ++ keysOf batch) with
  | none => rfl
  | some caught =>
      simp only [finished_put found]
      by_cases negative : index < 0
      · simp only [if_pos negative]
        rfl
      · simp only [if_neg negative]
        rfl

theorem binding_withProgress {table : Table} {index : Int} {binding : Binding}
    (found : table.binding index = .ok binding) (made : Nat → Progress) :
    ∃ progressed, (table.withProgress made).binding index = .ok progressed ∧ progressed.rule = binding.rule := by
  have sameSize : (table.withProgress made).size = table.size := by simp [Table.withProgress, Table.size]
  unfold Table.binding at found ⊢
  rw [sameSize]
  cases place : position? table.size index with
  | none =>
      rw [place] at found
      cases found
  | some position =>
      simp only [place, Option.bind_some] at found ⊢
      cases there : table.bindings[position]? with
      | none =>
          rw [there] at found
          cases found
      | some other =>
          rw [there] at found
          cases found
          exact ⟨{ binding with toProgress := made position }, by simp [Table.withProgress, there], rfl⟩

/-- A table with a capture that is open for a rule of the table, after keys that were not enough. -/
structure Drafts (rule : Rule) (axisNames : Option (List String)) (index : Int) (keys : List String)
    (state : Table × Capture) : Prop where
  names : state.1.axisNames = axisNames
  holds : ∃ binding, state.1.binding index = .ok binding ∧ binding.rule = rule
  capture : state.2 = drafting rule.kind index keys

section Runs

variable {rule : Rule} {axisNames : Option (List String)} {index : Int} {keys : List String} {state : Table × Capture}

theorem Drafts.found (drafts : Drafts rule axisNames index keys state) (batch : Batch) :
    Drafts rule axisNames index keys (batch.found state) := by
  obtain ⟨binding, found, same⟩ := drafts.holds
  obtain ⟨progressed, foundNow, sameRule⟩ := binding_withProgress found batch.progress
  exact ⟨drafts.names, ⟨progressed, foundNow, sameRule.trans same⟩, drafts.capture⟩

theorem Drafts.feed (drafts : Drafts rule axisNames index keys state) (steady : rule.kind ≠ .sequence) {batch : Batch}
    (quiet : batch.journal.Quiet) :
    batch.feed state =
      match catch? rule.kind (remembered rule.kind keys ++ keysOf batch.keys) with
      | none => (.ok false, ((batch.found state).1, drafting rule.kind index (keys ++ keysOf batch.keys)))
      | some caught =>
          if index < 0 then
            (.error (.mappingOutOfRange index),
              ((batch.found state).1, drafting rule.kind index (keys ++ keysOf batch.keys)))
          else (.ok true, ((batch.found state).1.put index.toNat
            (Binding.ofRule axisNames (rule.withDescriptor caught.descriptor)), {})) := by
  obtain ⟨sameNames, ⟨binding, found, rfl⟩, draft⟩ := drafts.found batch
  have split : batch.found state = ((batch.found state).1, drafting binding.rule.kind index keys) := by
    rw [← draft]
  rw [Batch.feed_quiet quiet, split, fed_drafting found steady, sameNames]

theorem Drafts.next (drafts : Drafts rule axisNames index keys state) (steady : rule.kind ≠ .sequence) {batch : Batch}
    (quiet : batch.journal.Quiet)
    (still : index < 0 ∨ catch? rule.kind (remembered rule.kind keys ++ keysOf batch.keys) = none) :
    Drafts rule axisNames index (keys ++ keysOf batch.keys) (batch.feed state).2 := by
  have found := drafts.found batch
  have kept : (batch.feed state).2 = ((batch.found state).1, drafting rule.kind index (keys ++ keysOf batch.keys)) := by
    rw [drafts.feed steady quiet]
    cases caught : catch? rule.kind (remembered rule.kind keys ++ keysOf batch.keys) with
    | none => rfl
    | some _ =>
        have negative : index < 0 := still.resolve_right (by simp [caught])
        simp only [if_pos negative]
  rw [kept]
  exact ⟨found.names, found.holds, rfl⟩

theorem catch?_of_append {kind : Kind} {earlier keys : List String}
    (unfinished : catch? kind (earlier ++ keys) = none) : catch? kind earlier = none := by
  cases done : catch? kind earlier with
  | none => rfl
  | some caught =>
      rw [catch?_append_of_some done] at unfinished
      cases unfinished

theorem Drafts.feedAll (drafts : Drafts rule axisNames index [] state) (steady : rule.kind ≠ .sequence)
    {batches : List Batch} (quiet : ∀ batch ∈ batches, batch.journal.Quiet)
    (still : index < 0 ∨ catch? rule.kind (Batch.pressed batches) = none) :
    Drafts rule axisNames index (Batch.pressed batches) (Batch.feedAll batches state) := by
  induction batches using List.reverseRecOn with
  | nil => exact drafts
  | append_singleton earlier batch ih =>
      rw [Batch.feedAll_concat]
      rw [Batch.pressed_concat] at still ⊢
      have before := ih (fun other member => quiet other (by simp [member])) (still.imp_right catch?_of_append)
      refine before.next steady (quiet batch (by simp)) (still.imp_right fun unfinished => ?_)
      rwa [← catch?_append (catch?_of_append unfinished)]

theorem feed_closed {state : Table × Capture} (closed : state.2 = {}) {batch : Batch} (quiet : batch.journal.Quiet) :
    batch.feed state = (.ok false, batch.found state) := by
  have target : (batch.found state).2.target = none := by
    simp [Batch.found, closed]
  rw [Batch.feed_quiet quiet, fed, target]

theorem Drafts.feedAll_closed (drafts : Drafts rule axisNames index [] state) (steady : rule.kind ≠ .sequence)
    (nonnegative : ¬ index < 0) {batches : List Batch} (quiet : ∀ batch ∈ batches, batch.journal.Quiet)
    {caught : Catch} (done : catch? rule.kind (Batch.pressed batches) = some caught) :
    (Batch.feedAll batches state).2 = {} := by
  induction batches using List.reverseRecOn generalizing caught with
  | nil => cases done
  | append_singleton earlier batch ih =>
      have earlierQuiet : ∀ other ∈ earlier, other.journal.Quiet := fun other member => quiet other (by simp [member])
      have lastQuiet := quiet batch (by simp)
      rw [Batch.feedAll_concat]
      rw [Batch.pressed_concat] at done
      cases before : catch? rule.kind (Batch.pressed earlier) with
      | some caught =>
          have closed := ih earlierQuiet before
          rw [feed_closed closed lastQuiet]
          exact closed
      | none =>
          have unfinished := drafts.feedAll steady earlierQuiet (Or.inr before)
          rw [catch?_append before] at done
          rw [unfinished.feed steady lastQuiet]
          simp only [done, if_neg nonnegative]

end Runs

theorem begin_ok {table : Table} {index tick : Int} {capture : Capture} {journal : Journal}
    (returned : ((begin table index tick).perform capture journal).1.1 = .ok ()) :
    ∃ binding, table.binding index = .ok binding ∧ refusal? binding.rule = none ∧
      ((begin table index tick).perform capture journal).1.2 = { target := some index } := by
  rcases begin_follows table index tick capture journal with ⟨after, ended, _⟩ | ⟨_, fault, left, after, ended, _⟩
  · rw [ended] at returned ⊢
    cases found : table.binding index with
    | error fault => simp [opened, found] at returned
    | ok binding =>
        cases refused : refusal? binding.rule with
        | some reason => simp [opened, found, refused] at returned
        | none => exact ⟨binding, rfl, refused, by simp [opened, found, refused]⟩
  · rw [ended] at returned
    cases returned

theorem refusal?_iff {rule : Rule} : refusal? rule = none ↔ rule.kind ≠ .sequence ∧ rule.category = .button := by
  cases kind : rule.kind <;> cases category : rule.category <;> simp [refusal?, kind, category]

theorem begin_quiet (table : Table) (index tick : Int) (capture : Capture) {journal : Journal} (quiet : journal.Quiet) :
    ((begin table index tick).perform capture journal).1 = opened table index capture := by
  obtain ⟨after, _, ended⟩ := (begin_follows table index tick capture).quiet quiet
  rw [ended]

theorem drafts_begin {table : Table} {index : Int} {binding : Binding} (found : table.binding index = .ok binding) :
    Drafts binding.rule table.axisNames index [] (table, { target := some index }) :=
  ⟨rfl, ⟨binding, found, rfl⟩, by cases binding.rule.kind <;> rfl⟩

theorem binding_error_iff {table : Table} {index : Int} {fault : Fault} :
    table.binding index = .error fault ↔
      fault = .indexOutOfRange ∧ (index < -table.size ∨ table.size ≤ index) := by
  rcases Table.binding_cases table index with ⟨_, _, _, _, looked⟩ | ⟨_, _, _, looked⟩ | ⟨outside, looked⟩
  · simp only [looked, reduceCtorEq, false_iff]
    omega
  · simp only [looked, reduceCtorEq, false_iff]
    omega
  · have bad : index < -table.size ∨ table.size ≤ index := by omega
    simp [looked, bad, eq_comm]

theorem opened_error_iff {table : Table} {index : Int} {capture : Capture} :
    (opened table index capture).1 = .error .indexOutOfRange ↔ index < -table.size ∨ table.size ≤ index := by
  cases found : table.binding index with
  | error fault =>
      obtain ⟨rfl, outside⟩ := binding_error_iff.mp found
      simp [opened, found, outside]
  | ok binding =>
      have inside : ¬ (index < -table.size ∨ table.size ≤ index) := by
        intro outside
        have missing := binding_error_iff.mpr ⟨rfl, outside⟩
        cases found.symm.trans missing
      cases refused : refusal? binding.rule with
      | some reason => simp [opened, found, refused, inside]
      | none => simp [opened, found, refused, inside]

theorem opened_unsupported_iff {table : Table} {index : Int} {capture : Capture} :
    (∃ reason, (opened table index capture).1 = .error (.unsupported reason)) ↔
      ∃ binding, table.binding index = .ok binding ∧
        (binding.rule.kind = .sequence ∨ binding.rule.category = .axis) := by
  cases found : table.binding index with
  | error fault =>
      obtain ⟨rfl, _⟩ := binding_error_iff.mp found
      simp [opened, found]
  | ok binding =>
      have refusable : (binding.rule.kind = .sequence ∨ binding.rule.category = .axis) ↔
          refusal? binding.rule ≠ none := by
        rw [Ne, refusal?_iff]
        cases binding.rule.kind <;> cases binding.rule.category <;> simp
      cases refused : refusal? binding.rule with
      | some reason => simp [opened, found, refused, refusable]
      | none => simp [opened, found, refused, refusable]

theorem opened_kept {table : Table} {index : Int} {capture : Capture} {fault : Fault}
    (failed : (opened table index capture).1 = .error fault) : (opened table index capture).2 = capture := by
  cases found : table.binding index with
  | error other => simp [opened, found]
  | ok binding =>
      cases refused : refusal? binding.rule with
      | some reason => simp [opened, found, refused]
      | none => simp [opened, found, refused] at failed

theorem feed_error_iff {table : Table} {index : Int} {binding : Binding} (found : table.binding index = .ok binding)
    (steady : binding.rule.kind ≠ .sequence) {earlier : List Batch} {next : Batch}
    (quiet : ∀ batch ∈ earlier ++ [next], batch.journal.Quiet) :
    (∃ fault, (next.feed (Batch.feedAll earlier (table, { target := some index }))).1 = .error fault) ↔
      index < 0 ∧ catch? binding.rule.kind
        (remembered binding.rule.kind (Batch.pressed earlier) ++ keysOf next.keys) ≠ none := by
  have earlierQuiet : ∀ batch ∈ earlier, batch.journal.Quiet := fun batch member => quiet batch (by simp [member])
  have nextQuiet := quiet next (by simp)
  have drafts := drafts_begin found
  have whileOpen (still : index < 0 ∨ catch? binding.rule.kind (Batch.pressed earlier) = none) :=
    (drafts.feedAll steady earlierQuiet still).feed steady nextQuiet
  by_cases negative : index < 0
  · rw [whileOpen (Or.inl negative)]
    cases catch? binding.rule.kind (remembered binding.rule.kind (Batch.pressed earlier) ++ keysOf next.keys) with
    | none => simp
    | some caught => simp [negative]
  · refine iff_of_false ?_ fun below => negative below.1
    rintro ⟨fault, failed⟩
    cases before : catch? binding.rule.kind (Batch.pressed earlier) with
    | some caught =>
        rw [feed_closed (drafts.feedAll_closed steady negative earlierQuiet before) nextQuiet] at failed
        cases failed
    | none =>
        rw [whileOpen (Or.inr before)] at failed
        split at failed
        · cases failed
        · rw [if_neg negative] at failed
          cases failed

/-- A capture is opened, or the index is refused and the capture that was open stays as it was. If keys that are
fed to it raise anything later, the index is below zero, and they are the keys that would complete it. -/
theorem begin_all_or_nothing (table : Table) (capture : Capture) (index tick : Int) {journal : Journal}
    (quiet : journal.Quiet) :
    let ended := ((begin table index tick).perform capture journal).1
    (ended.1 = .error .indexOutOfRange ↔ index < -table.size ∨ table.size ≤ index) ∧
    ((∃ reason, ended.1 = .error (.unsupported reason)) ↔ ∃ binding, table.binding index = .ok binding ∧
      (binding.rule.kind = .sequence ∨ binding.rule.category = .axis)) ∧
    (∀ fault, ended.1 = .error fault → ended.2 = capture) ∧
    (ended.1 = .ok () → ended.2 = { target := some index } ∧
      ∃ binding, table.binding index = .ok binding ∧
        ∀ earlier next, (∀ batch ∈ earlier ++ [next], batch.journal.Quiet) →
          ((∃ fault, (next.feed (Batch.feedAll earlier (table, ended.2))).1 = .error fault) ↔
            index < 0 ∧ catch? binding.rule.kind
              (remembered binding.rule.kind (Batch.pressed earlier) ++ keysOf next.keys) ≠ none)) := by
  refine ⟨?_, ?_, ?_, fun returned => ?_⟩
  · rw [begin_quiet table index tick capture quiet]
    exact opened_error_iff
  · rw [begin_quiet table index tick capture quiet]
    exact opened_unsupported_iff
  · rw [begin_quiet table index tick capture quiet]
    exact fun fault => opened_kept
  · obtain ⟨binding, found, accepted, target⟩ := begin_ok returned
    refine ⟨target, binding, found, fun earlier next calm => ?_⟩
    rw [target]
    exact feed_error_iff found (refusal?_iff.mp accepted).1 calm

theorem begin_all_or_nothing_lone :
    ({} : Journal).Quiet ∧ ((begin lone 0 0).perform { target := some 7, firstKey := some "A" } {}).1.1 = .ok () ∧
    ∀ (earlier : List Batch) (next : Batch), (∀ batch ∈ earlier ++ [next], batch.journal.Quiet) →
      ∃ completed, (next.feed (Batch.feedAll earlier (lone, { target := some 0 }))).1 = .ok completed := by
  have quiet : ({} : Journal).Quiet := Journal.quiet_of_no_channel rfl
  obtain ⟨_, _, _, returns⟩ := begin_all_or_nothing lone { target := some 7, firstKey := some "A" } 0 0 quiet
  have returned : ((begin lone 0 0).perform { target := some 7, firstKey := some "A" } {}).1.1 = .ok () := rfl
  obtain ⟨target, _, _, raises⟩ := returns returned
  refine ⟨quiet, returned, fun earlier next calm => ?_⟩
  have never := (raises earlier next calm).not.mpr fun below => absurd below.1 (by decide)
  rw [target] at never
  cases ended : (next.feed (Batch.feedAll earlier (lone, { target := some 0 }))).1 with
  | error fault => exact absurd ⟨fault, ended⟩ never
  | ok completed => exact ⟨completed, rfl⟩

/-- An index below zero is accepted, and the first key then raises what the opening should have. -/
theorem begin_below_zero :
    let batch : Batch := { keys := ["A"], tick := 1 }
    ((begin lone (-1) 0).perform {} {}).1 = (.ok (), { target := some (-1) }) ∧
    (batch.feed (lone, { target := some (-1) })).1 = .error (.mappingOutOfRange (-1)) ∧
    (batch.feed (lone, { target := some (-1) })).2.2 = { target := some (-1) } := by
  intro batch
  have found : lone.binding (-1) = .ok (Binding.ofRule none { descriptor := "Q" }) := rfl
  have standard : (Binding.ofRule none { descriptor := "Q" }).rule.kind = .standard := rfl
  have fed := (drafts_begin found).feed (by decide) (Journal.quiet_of_no_channel rfl : batch.journal.Quiet)
  have keys : keysOf batch.keys = ["A"] := by decide +kernel
  rw [standard, keys] at fed
  refine ⟨rfl, ?_, ?_⟩
  · rw [fed]
    rfl
  · rw [fed]
    rfl

/-- Keys that are fed to a capture in batches are taken as one stream, `Batch.pressed`: of each batch every name once,
sorted, then stripped, without the blank ones, as `keysOf_sorted` says. The capture is completed by the batch that
supplies the first key, or the first that differs from the first; nothing changes before and afterwards, and then
nothing but the descriptor of the one rule. -/
theorem feed_stream (table : Table) (before : Capture) (position : Nat) (tick : Int) (journal : Journal)
    (returned : ((begin table position tick).perform before journal).1.1 = .ok ()) :
    ∃ binding, table.bindings[position]? = some binding ∧ binding.rule.kind ≠ .sequence ∧
      ∀ earlier next, (∀ batch ∈ earlier ++ [next], batch.journal.Quiet) →
        let kind := binding.rule.kind
        let state := Batch.feedAll earlier (table, ((begin table position tick).perform before journal).1.2)
        let found := next.found state
        let ended := next.feed state
        match catch? kind (Batch.pressed earlier), catch? kind (Batch.pressed (earlier ++ [next])) with
        | none, none => ended.1 = .ok false ∧ ended.2.1 = found.1 ∧ ended.2.2.target = some (position : Int)
        | none, some caught =>
            ended = (.ok true, (found.1.put position
              (Binding.ofRule table.axisNames (binding.rule.withDescriptor caught.descriptor)), {}))
        | some _, _ => ended = (.ok false, found) ∧ found.2 = {} := by
  obtain ⟨binding, found, accepted, target⟩ := begin_ok returned
  have steady := (refusal?_iff.mp accepted).1
  have there := getElem?_of_found found
  have nonnegative : ¬ (position : Int) < 0 := by omega
  refine ⟨binding, there, steady, fun earlier next quiet => ?_⟩
  have earlierQuiet : ∀ batch ∈ earlier, batch.journal.Quiet := fun batch member => quiet batch (by simp [member])
  have nextQuiet := quiet next (by simp)
  have drafts := drafts_begin found
  rw [target, Batch.pressed_concat]
  dsimp only
  cases unfinished : catch? binding.rule.kind (Batch.pressed earlier) with
  | some caught =>
      have closed := drafts.feedAll_closed steady nonnegative earlierQuiet unfinished
      exact ⟨feed_closed closed nextQuiet, closed⟩
  | none =>
      have ended := (drafts.feedAll steady earlierQuiet (Or.inr unfinished)).feed steady nextQuiet
      rw [← catch?_append unfinished] at ended
      cases done : catch? binding.rule.kind (Batch.pressed earlier ++ keysOf next.keys) with
      | none =>
          rw [done] at ended
          simp [ended, drafting]
      | some caught =>
          rw [done] at ended
          simp only [ended, if_neg nonnegative, Int.toNat_natCast]

theorem feed_stream_pair :
    let earlier : List Batch := [{ keys := ["B", " "] }, { keys := ["B"], tick := 1 }]
    let next : Batch := { keys := ["C", " B "], tick := 2 }
    let state := Batch.feedAll earlier (pair, { target := some 1 })
    ((begin pair 1 0).perform {} {}).1.1 = .ok () ∧
    next.feed state =
      (.ok true, ((next.found state).1.put 1 (Binding.ofRule none { descriptor := "B+C", kind := .combo }), {})) := by
  intro earlier next state
  have returned : ((begin pair 1 0).perform {} {}).1.1 = .ok () := rfl
  obtain ⟨binding, there, _, stream⟩ := feed_stream pair {} 1 0 {} returned
  cases there
  have quiet : ∀ batch ∈ earlier ++ [next], batch.journal.Quiet := by
    intro batch member
    have silent : batch.journal.channel = none := by
      simp only [earlier, next, List.cons_append, List.nil_append, List.mem_cons, List.not_mem_nil, or_false] at member
      rcases member with rfl | rfl | rfl <;> rfl
    exact Journal.quiet_of_no_channel silent
  have first : keysOf ["B", " "] = ["B"] :=
    keysOf_eq (by decide +kernel : [" ", "B"].Pairwise (· < ·)) (by simp [or_comm])
  have second : keysOf ["B"] = ["B"] := by decide +kernel
  have third : keysOf ["C", " B "] = ["B", "C"] :=
    keysOf_eq (by decide +kernel : [" B ", "C"].Pairwise (· < ·)) (by simp [or_comm])
  have unfinished : catch? .combo (Batch.pressed earlier) = none := by
    simp [Batch.pressed, earlier, first, second, catch?]
  have done : catch? .combo (Batch.pressed (earlier ++ [next])) = some (.two "B" "C") := by
    simp [Batch.pressed, earlier, next, first, second, third, catch?]
  have completes := stream earlier next quiet
  dsimp only at completes
  rw [Binding.rule_ofRule, unfinished, done] at completes
  exact ⟨returned, completes⟩

end Capture

end InputBinding
