import InputBinding.Proofs.Runs

/-!
The bindings of a table that has just been created: one for each rule, in order, each read for itself.
Runs that open with such a table.
-/

namespace InputBinding

namespace Table

theorem build_follows (kept : σ → τ) (axisNames : Option (List String)) (index : Nat) (rule : Rule) :
    Journaled.Follows kept (build axisNames index rule) fun state =>
      (.ok (Binding.ofRule axisNames rule), state) := by
  cases refused : (Binding.ofRule axisNames rule).defect with
  | none =>
      simp only [build, refused]
      exact Journaled.pure_follows kept _
  | some defect =>
      simp only [build, refused]
      exact (Journaled.note_follows kept _).bind (fun _ => rfl) fun _ =>
        (Journaled.announce_follows kept _).bind (fun _ => rfl) fun _ => Journaled.pure_follows kept _

theorem buildAll_follows (kept : σ → τ) (axisNames : Option (List String)) (index : Nat)
    (rules : List Rule) :
    Journaled.Follows kept (buildAll axisNames index rules) fun state =>
      (.ok (rules.map (Binding.ofRule axisNames)), state) := by
  induction rules generalizing index with
  | nil => exact Journaled.pure_follows kept []
  | cons rule others ih =>
      exact (build_follows kept axisNames index rule).bind (fun _ => rfl) fun first =>
        (ih (index + 1)).bind (fun _ => rfl) fun rest => Journaled.pure_follows kept (first :: rest)

theorem load_follows (kept : Table → τ) (rules : List Rule) :
    Journaled.Follows kept (load rules) fun table =>
      (.ok (), { table with
        bindings := (rules.take table.limit).map (Binding.ofRule table.axisNames) }) := by
  intro table
  have noted : Journaled.Follows kept
      (if table.limit < rules.length then Journaled.note (.rulesTruncated rules.length table.limit)
        else pure ()) fun table => (.ok (), table) := by
    split
    · exact Journaled.note_follows _ _
    · exact Journaled.pure_follows _ ()
  have stored (bindings : List Binding) :
      Journaled.Follows kept
        (modify fun table => { table with bindings } : Journaled Table Unit)
        fun table => (.ok (), { table with bindings }) :=
    fun _ journal => Or.inl ⟨journal, rfl, id⟩
  have loaded := noted.bind (fun _ => rfl) fun _ =>
    (buildAll_follows _ table.axisNames 0 (rules.take table.limit)).bind (fun _ => rfl) stored
  refine (loaded table).start (fun journal => ?_) rfl
  by_cases truncated : table.limit < rules.length
  · simp [load, truncated, Journaled.perform_bind]
  · simp [load, truncated, Journaled.perform_bind]

theorem create_quiet {limit : Int} (allowed : 0 ≤ limit) (axisNames : Option (List String))
    (rules : List Rule) (state : σ) {journal : Journal} (quiet : journal.Quiet) :
    ∃ after, after.Quiet ∧ (create limit axisNames rules).perform state journal =
      ((.ok { limit := limit.toNat, axisNames, bindings :=
        (rules.take limit.toNat).map (Binding.ofRule axisNames) }, state), after) := by
  have accepted : ¬ limit < 0 := by omega
  obtain ⟨after, calm, ended⟩ :=
    (load_follows (fun table : Table => table) rules { limit := limit.toNat, axisNames }).quiet quiet
  exact ⟨after, calm, by simp [create, accepted, Journaled.construct, ended, Except.map]⟩

theorem bindings_of_create {limit : Int} {axisNames : Option (List String)} {rules : List Rule} {table : Table}
    {before after : Journal} (quiet : before.Quiet)
    (created : (create limit axisNames rules : Journaled Unit Table).perform () before =
      ((.ok table, ()), after)) :
    0 ≤ limit ∧ table.bindings = (rules.take limit.toNat).map (Binding.ofRule axisNames) := by
  by_cases allowed : 0 ≤ limit
  · obtain ⟨_, _, creates⟩ := create_quiet allowed axisNames rules () quiet
    rw [created] at creates
    have same := congrArg (fun ended => ended.1.1.map fun table => table.bindings) creates
    exact ⟨allowed, by simpa [Except.map] using same⟩
  · have negative : limit < 0 := by omega
    simp [create, negative] at created

end Table

/-- A run on a table that was created from rules, without a capture and without subscribers that fail. -/
structure Run.Opens (run : Run) (limit : Int) (axisNames : Option (List String)) (rules : List Rule) : Prop
    extends Run.Calm run where
  created : ∃ before after, before.Quiet ∧
    (Table.create limit axisNames rules : Journaled Unit Table).perform () before =
      ((.ok run.matcher.table, ()), after)

theorem Run.Opens.table {run : Run} {limit : Int} {axisNames : Option (List String)} {rules : List Rule}
    (opens : run.Opens limit axisNames rules) :
    0 ≤ limit ∧ run.matcher.table.bindings = (rules.take limit.toNat).map (Binding.ofRule axisNames) := by
  obtain ⟨_, _, quiet, created⟩ := opens.created
  exact Table.bindings_of_create quiet created

def Run.hosting (axisNames : Option (List String)) (rules : List Rule) (sink : Sink)
    (snapshots : Nat → Snapshot) : Run where
  matcher := { table := {
    limit := rules.length, axisNames, bindings := rules.map (Binding.ofRule axisNames) } }
  moments tick := { source := (snapshots tick).toSource, delta := 0.5, sink }

theorem Run.hosting_opens (axisNames : Option (List String)) (rules : List Rule) (sink : Sink)
    (snapshots : Nat → Snapshot) :
    (hosting axisNames rules sink snapshots).Opens rules.length axisNames rules where
  uncaptured := rfl
  quiet := Journal.quiet_of_no_channel rfl
  created := by
    have silent : ({} : Journal).Quiet := Journal.quiet_of_no_channel rfl
    obtain ⟨after, _, created⟩ :=
      Table.create_quiet (Int.natCast_nonneg rules.length) axisNames rules () silent
    refine ⟨{}, after, silent, ?_⟩
    simpa [hosting] using created

end InputBinding
