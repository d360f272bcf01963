import DbGateway.Policy.Semantics

/-!
# DbGateway.Policy.Columns

How far a column whitelist reaches.  `evaluate` receives the referenced column
names without their tables and checks them against the union of the lists of
all touched tables, so a list guards a table only as long as no other table of
the query lists the same name: `evaluate_reads_admitted` says exactly how much
isolation is left.
-/

namespace DbGateway

open AccessControl

namespace PolicyEvaluator

section Leak

variable [Python]

/-- Column lists isolate tables: a column refused on `a` alone is refused on
any two tables with `a` among them. -/
def ColumnsIsolated (evaluator : PolicyEvaluator) : Prop :=
  ∀ (principal : Principal) (databaseId a b c : String),
    (evaluator.evaluate principal databaseId [a] {c}).reason =
        "A referenced column is not allowed by policy." →
      (evaluator.evaluate principal databaseId [a, b] {c}).allowed = false

end Leak

/-- Two tables with a column list each. -/
def twoTables : PolicyEvaluator where
  policies :=
    [{ id := "employees", table := some "employees", columns := {"id", "name"} },
     { id := "customers", table := some "customers", columns := {"id", "salary"} }]

/-- Joining `customers` makes the unlisted `employees.salary` readable. -/
theorem not_columnsIsolated_twoTables :
    ¬ @ColumnsIsolated Python.ascii twoTables := by
  intro h
  have hleak := h ⟨"alice", "alice@corp.com", "tenant-a", ∅, []⟩ "db-a" "employees" "customers"
    "salary" (by decide)
  revert hleak
  decide

variable [Python] {evaluator : PolicyEvaluator} {principal : Principal} {databaseId : String}
  {tables : List String} {refs : Finset String}

/-- A policy granting one requested table is checked when any list containing
that table is. -/
theorem mem_tablePolicies_of_grants {p : Policy} {t : String} (hp : p ∈ evaluator.policies)
    (ht : t ∈ tables) (hg : lower t ∈ p.grants principal databaseId) :
    p ∈ evaluator.tablePolicies principal databaseId tables :=
  mem_tablePolicies.mpr ⟨hp, t, ht, hg⟩

/-- A column admitted for a table list is admitted for the column's own table,
or another table of the list has a policy naming it. -/
theorem admits_own_or_other {t c : String} (ht : t ∈ tables)
    (h : Admits (evaluator.whitelists principal databaseId tables) c) :
    Admits (evaluator.whitelists principal databaseId [t]) c ∨
      ∃ t' ∈ tables, lower t' ≠ lower t ∧
        ∃ p ∈ evaluator.policies, lower t' ∈ p.grants principal databaseId ∧ c ∈ p.columns := by
  simp only [whitelists, Admits, List.mem_map, forall_exists_index, and_imp,
    forall_apply_eq_imp_iff₂, exists_exists_and_eq_and] at h ⊢
  rcases h with hall | ⟨p, hp, hc⟩
  · refine .inl (.inl fun p hp => hall p ?_)
    obtain ⟨hps, t', ht', hg⟩ := mem_tablePolicies.mp hp
    rw [List.mem_singleton] at ht'
    exact mem_tablePolicies_of_grants hps ht (ht' ▸ hg)
  · obtain ⟨hps, t', ht', hg⟩ := mem_tablePolicies.mp hp
    by_cases heq : lower t' = lower t
    · refine .inl (.inr ⟨p, ?_, hc⟩)
      exact mem_tablePolicies_of_grants hps List.mem_cons_self (heq ▸ hg)
    · exact .inr ⟨t', ht', heq, p, hps, hg, hc⟩

/-- A request that passes also passes for one of its tables alone, as far as
that table's own lists admit the columns. -/
theorem Passes.alone (h : evaluator.Passes principal databaseId tables refs) {t : String}
    (ht : t ∈ tables) {refs' : Finset String}
    (hc : ∀ c ∈ refs', Admits (evaluator.whitelists principal databaseId [t]) c) :
    evaluator.Passes principal databaseId [t] refs' where
  nonempty := List.cons_ne_nil t []
  permits t' ht' := by
    rw [List.mem_singleton] at ht'
    exact ht' ▸ h.permits t ht
  admits := hc

/-- A denial for a column means the request does not pass. -/
theorem not_passes_of_column_reason (henabled : evaluator.enabled = true)
    (h : (evaluator.evaluate principal databaseId tables refs).reason =
      "A referenced column is not allowed by policy.") :
    ¬ evaluator.Passes principal databaseId tables refs := by
  intro hp
  rcases (passes_iff_allowed_or_attributeAbsent henabled).mp hp with ha | ⟨a, ha⟩
  · rw [evaluate_of_passes henabled hp] at h ha
    dsimp only at h ha
    split at h
    · next hf => simp [hf] at ha
    · exact absurd h (show ¬ "Allowed by policy." = _ by decide)
  · refine attributeAbsent_notMem_fixedReasons a ?_
    rw [← ha, h]
    simp [fixedReasons]

/-- **What a column whitelist still guards.**  If `c` is refused on `a` alone
and a query on `a` and `b` that reads `c` is allowed, a matching allow policy
of `b` lists `c`.  In general an allowed set of reads contains only columns
readable under the policies of their own table alone or listed by a matching
allow policy of another table of the query. -/
theorem evaluate_reads_admitted (policies : List Policy) (principal : Principal)
    (databaseId : String) :
    (∀ (a b c : String) (refs : Finset String),
      ((ofPolicies policies).evaluate principal databaseId [a] {c}).reason =
          "A referenced column is not allowed by policy." →
        c ∈ refs →
        ((ofPolicies policies).evaluate principal databaseId [a, b] refs).allowed = true →
          ∃ p ∈ policies, lower b ∈ p.grants principal databaseId ∧ c ∈ p.columns) ∧
    ∀ (tables : List String) (reads : Finset (String × String)),
      (∀ read ∈ reads, read.1 ∈ tables) →
        ((ofPolicies policies).evaluate principal databaseId tables
            (reads.image Prod.snd)).allowed = true →
          ∀ read ∈ reads,
            (ofPolicies policies).Passes principal databaseId [read.1] {read.2} ∨
              ∃ t ∈ tables, lower t ≠ lower read.1 ∧
                ∃ p ∈ policies, lower t ∈ p.grants principal databaseId ∧ read.2 ∈ p.columns := by
  have hsplit : ∀ {tables : List String} {refs : Finset String} {t c : String},
      ((ofPolicies policies).evaluate principal databaseId tables refs).allowed = true →
      t ∈ tables →
        c ∈ refs → (ofPolicies policies).Passes principal databaseId [t] {c} ∨
          ∃ t' ∈ tables, lower t' ≠ lower t ∧
            ∃ p ∈ policies, lower t' ∈ p.grants principal databaseId ∧ c ∈ p.columns := by
    intro tables refs t c hallowed ht hc
    have hpass := ((evaluate_allowed_iff rfl).mp hallowed).1
    refine (admits_own_or_other ht (hpass.admits c hc)).imp_left fun hown => ?_
    exact hpass.alone ht fun c' hc' => Finset.mem_singleton.mp hc' ▸ hown
  refine ⟨fun a b c refs hdenied hc hallowed => ?_,
    fun tables reads hreads hallowed read hread => ?_⟩
  · rcases hsplit hallowed List.mem_cons_self hc with hpass | ⟨t, ht, hne, hlist⟩
    · exact absurd hpass (not_passes_of_column_reason rfl hdenied)
    · rcases List.mem_cons.mp ht with rfl | ht
      · exact absurd rfl hne
      · rw [List.mem_singleton] at ht
        subst ht
        exact hlist
  · exact hsplit hallowed (hreads read hread) (Finset.mem_image_of_mem Prod.snd hread)

omit [Python] in
/-- On `twoTables` the leak of `salary` is explained by the list of
`customers`. -/
theorem evaluate_reads_admitted_twoTables :
    letI := Python.ascii
    ∃ p ∈ twoTables.policies,
      lower "customers" ∈ p.grants ⟨"alice", "alice@corp.com", "tenant-a", ∅, []⟩ "db-a" ∧
        "salary" ∈ p.columns :=
  letI := Python.ascii
  (evaluate_reads_admitted twoTables.policies ⟨"alice", "alice@corp.com", "tenant-a", ∅, []⟩
    "db-a").1 "employees" "customers" "salary" {"salary"} (by decide)
    (by decide) (by decide)

end PolicyEvaluator

end DbGateway
