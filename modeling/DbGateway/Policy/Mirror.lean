import DbGateway.Policy.Semantics

/-!
# DbGateway.Policy.Mirror

`effective_access` against `evaluate`.  Its docstring promises an exact mirror
of the query path; the display pass keeps every policy whose effect is not
`"deny"`, normalizes the name it is asked about, and collects one column union
over all tables, so the two sides part on unknown effects, on names that
`_normalize_identifier` changes, and on column lists of other tables.  Each
mirror is stated with the exact condition under which it holds.
-/

namespace DbGateway

open AccessControl

/-- Showing what is granted or unclear, and querying what is granted, differ
exactly on what is unclear but neither granted nor closed. -/
private theorem shown_iff_queryable {granted unclear closed : Prop} :
    ((granted ∨ unclear) ∧ ¬ closed ↔ granted ∧ ¬ closed) ↔ (unclear → granted ∨ closed) := by
  tauto

namespace PolicyEvaluator

theorem mergeRowScopes_eq_nil {ps : List Policy} (h : ∀ p ∈ ps, p.rowScope = []) :
    mergeRowScopes ps = [] := by
  induction ps with
  | nil => rfl
  | cons p ps ih =>
      have hp : p.rowScope = [] := h p List.mem_cons_self
      have hstep : mergeRowScopes (p :: ps) = mergeRowScopes ps := by
        simp [mergeRowScopes, hp, Dict.update]
      rw [hstep]
      exact ih fun q hq => h q (List.mem_cons_of_mem p hq)

variable [Python]

/-- A matching allow policy names the table. -/
def Granted (policies : List Policy) (principal : Principal) (databaseId table : String) : Prop :=
  ∃ p ∈ policies, table ∈ p.grants principal databaseId

/-- A matching deny policy names the table, or all tables. -/
def Closed (policies : List Policy) (principal : Principal) (databaseId table : String) : Prop :=
  ∃ p ∈ policies, table ∈ p.denies principal databaseId

/-- A matching policy with an effect other than `"allow"` and `"deny"` names
the table. -/
def Unclear (policies : List Policy) (principal : Principal) (databaseId table : String) : Prop :=
  ∃ p ∈ policies, p.AppliesTo principal databaseId ∧ p.effect ≠ "allow" ∧ p.effect ≠ "deny" ∧
    p.table = some table

variable {policies : List Policy} {principal : Principal} {databaseId : String}

/-! ## The display pass -/

theorem mem_displayed (hn : ∀ p ∈ policies, p.Normalized) {p : Policy} :
    p ∈ (ofPolicies policies).displayed principal databaseId ↔
      p ∈ policies ∧ p.AppliesTo principal databaseId := by
  simp only [displayed, List.mem_filter, Policy.matches_iff]
  constructor
  · rintro ⟨hp, ha, -⟩
    exact ⟨hp, ha⟩
  · rintro ⟨hp, ha⟩
    refine ⟨hp, ha, ?_⟩
    cases ht : p.table with
    | none => exact .inl rfl
    | some t => exact .inr (by rw [Option.getD_some, (hn p hp).table t ht])

theorem mem_allowByTable (hn : ∀ p ∈ policies, p.Normalized) {p : Policy} :
    p ∈ (ofPolicies policies).allowByTable principal databaseId ↔
      p ∈ policies ∧ p.AppliesTo principal databaseId ∧ p.effect ≠ "deny" ∧
        p.table.isSome = true := by
  simp only [allowByTable, List.mem_filter, mem_displayed hn, Bool.and_eq_true,
    decide_eq_true_eq]
  tauto

/-- A table is displayed when some kept policy names it and none denies it. -/
theorem mem_accessibleTables (hn : ∀ p ∈ policies, p.Normalized) {u : String} :
    u ∈ ((ofPolicies policies).effectiveAccess principal databaseId).accessibleTables ↔
      (Granted policies principal databaseId u ∨ Unclear policies principal databaseId u) ∧
        ¬ Closed policies principal databaseId u := by
  have hkept : (Granted policies principal databaseId u ∨
      Unclear policies principal databaseId u) ↔
        ∃ p ∈ (ofPolicies policies).allowByTable principal databaseId, p.table = some u := by
    simp only [mem_allowByTable hn, Granted, Unclear, Policy.grants, Set.mem_ofPred_eq]
    constructor
    · rintro (⟨p, hp, ha, he, ht⟩ | ⟨p, hp, ha, -, hd, ht⟩)
      · exact ⟨p, ⟨hp, ha, by rw [he]; decide, by rw [ht]; rfl⟩, ht⟩
      · exact ⟨p, ⟨hp, ha, hd, by rw [ht]; rfl⟩, ht⟩
    · rintro ⟨p, ⟨hp, ha, hd, -⟩, ht⟩
      by_cases he : p.effect = "allow"
      · exact .inl ⟨p, hp, ha, he, ht⟩
      · exact .inr ⟨p, hp, ha, he, hd, ht⟩
  have hclosed : Closed policies principal databaseId u ↔
      (∃ p ∈ (ofPolicies policies).displayed principal databaseId,
        p.effect = "deny" ∧ p.table = none) ∨
      ∃ p ∈ (ofPolicies policies).displayed principal databaseId,
        p.effect = "deny" ∧ p.table = some u := by
    simp only [mem_displayed hn, Closed, Policy.denies, Set.mem_ofPred_eq]
    constructor
    · rintro ⟨p, hp, ha, he, ht | ht⟩
      · exact .inl ⟨p, ⟨hp, ha⟩, he, ht⟩
      · exact .inr ⟨p, ⟨hp, ha⟩, he, ht⟩
    · rintro (⟨p, ⟨hp, ha⟩, he, ht⟩ | ⟨p, ⟨hp, ha⟩, he, ht⟩)
      · exact ⟨p, hp, ha, he, .inl ht⟩
      · exact ⟨p, hp, ha, he, .inr ht⟩
  rw [hkept, hclosed]
  simp only [effectiveAccess, Bool.not_true, Bool.false_eq_true, if_false]
  split
  · next hall =>
    obtain ⟨p, hp, hd⟩ := List.any_eq_true.mp hall
    simp only [Finset.notMem_empty, false_iff, not_and, not_not]
    exact fun _ => .inl ⟨p, hp, by simpa using hd⟩
  · next hall =>
    have hnone : ¬ ∃ p ∈ (ofPolicies policies).displayed principal databaseId,
        p.effect = "deny" ∧ p.table = none := by
      simpa using hall
    simp only [hnone, false_or, List.mem_toFinset, List.mem_filter, List.mem_filterMap,
      decide_eq_true_eq, and_assoc]

theorem tableAccessible_iff (hn : ∀ p ∈ policies, p.Normalized) {t : String} :
    ((ofPolicies policies).effectiveAccess principal databaseId).tableAccessible t = true ↔
      (Granted policies principal databaseId (normalizeIdentifier t) ∨
        Unclear policies principal databaseId (normalizeIdentifier t)) ∧
          ¬ Closed policies principal databaseId (normalizeIdentifier t) := by
  have hunrestricted :
      ((ofPolicies policies).effectiveAccess principal databaseId).unrestricted = false := by
    simp [effectiveAccess]
  rw [← mem_accessibleTables hn, EffectiveAccess.tableAccessible, hunrestricted]
  simp

/-! ## The query pass on one table -/

theorem lower_mem_permitted_iff {t : String} :
    lower t ∈ (ofPolicies policies).permitted principal databaseId ↔
      Granted policies principal databaseId (lower t) ∧
        ¬ Closed policies principal databaseId (lower t) := by
  simp only [permitted, mem_permitted, Granted, Closed, not_exists, not_and]

theorem passes_singleton_iff {t : String} {refs : Finset String} :
    (ofPolicies policies).Passes principal databaseId [t] refs ↔
      (Granted policies principal databaseId (lower t) ∧
        ¬ Closed policies principal databaseId (lower t)) ∧
          ∀ c ∈ refs, Admits ((ofPolicies policies).whitelists principal databaseId [t]) c := by
  rw [← lower_mem_permitted_iff]
  constructor
  · intro h
    exact ⟨h.permits t List.mem_cons_self, h.admits⟩
  · rintro ⟨hp, hc⟩
    refine ⟨List.cons_ne_nil t [], fun t' ht' => ?_, hc⟩
    rw [List.mem_singleton.mp ht']
    exact hp

/-! ## Tables -/

/-- The two sides answer alike about a table, on one request. -/
def TableMirror (policies : List Policy) (principal : Principal) (databaseId t : String) :
    Prop :=
  ((ofPolicies policies).effectiveAccess principal databaseId).tableAccessible t = true ↔
    ((ofPolicies policies).evaluate principal databaseId [t]).allowed = true ∨
      ∃ a, ((ofPolicies policies).evaluate principal databaseId [t]).reason = attributeAbsent a

/-- When the table mirror holds.  For a bare name: a policy with an unclear
effect is accompanied by an allow or a deny.  For a name that
`_normalize_identifier` changes: the stripped name is shown exactly when the
name itself is granted and not closed. -/
def TablesAgree (policies : List Policy) (principal : Principal) (databaseId t : String) : Prop :=
  if normalizeIdentifier t = t then
    Unclear policies principal databaseId t →
      Granted policies principal databaseId t ∨ Closed policies principal databaseId t
  else
    ((Granted policies principal databaseId (normalizeIdentifier t) ∨
        Unclear policies principal databaseId (normalizeIdentifier t)) ∧
          ¬ Closed policies principal databaseId (normalizeIdentifier t)) ↔
      Granted policies principal databaseId t ∧ ¬ Closed policies principal databaseId t

omit [Python] in
/-- An effect the evaluator does not know: shown, never queryable. -/
theorem not_tableMirror_unknown_effect :
    letI := Python.ascii
    ¬ ∀ (docs : List Json) (policies : List Policy), docs.mapM Policy.fromDict = .ok policies →
      ∀ (principal : Principal) (databaseId t : String), lower t = t →
        TableMirror policies principal databaseId t := by
  intro h
  have hmirror := h [.obj [("id", .str "p"), ("effect", .str "audit"), ("table", .str "album")]]
    [{ id := "p", effect := "audit", table := some "album" }] (by rfl)
    ⟨"alice", "alice@corp.com", "tenant-a", ∅, []⟩ "db-a" "album" (by decide)
  have hshown := hmirror.mp (by decide)
  rcases hshown with hallowed | ⟨a, ha⟩
  · revert hallowed
    decide
  · refine attributeAbsent_notMem_fixedReasons a ?_
    rw [← ha]
    decide

/-- **The table mirror, exactly**: over loaded documents, a lower-case table is
displayed exactly when it is queryable (attributes aside) if and only if
`TablesAgree`. -/
theorem tableMirror_iff {docs : List Json} (hload : docs.mapM Policy.fromDict = .ok policies)
    (principal : Principal) (databaseId : String) {t : String} (ht : lower t = t) :
    TableMirror policies principal databaseId t ↔
      TablesAgree policies principal databaseId t := by
  have hn := normalized_of_mapM_fromDict hload
  rw [TableMirror, tableAccessible_iff hn, ← passes_iff_allowed_or_attributeAbsent rfl,
    passes_singleton_iff, ht, TablesAgree]
  by_cases hbare : normalizeIdentifier t = t
  · rw [if_pos hbare, hbare]
    simp only [Finset.notMem_empty, false_implies, implies_true, and_true]
    exact shown_iff_queryable
  · rw [if_neg hbare]
    simp

omit [Python] in
/-- A document granting `album`, loaded. -/
theorem tableMirror_iff_album :
    letI := Python.ascii
    TableMirror [{ id := "p", table := some "album" }]
        ⟨"alice", "alice@corp.com", "tenant-a", ∅, []⟩ "db-a" "album" ↔
      TablesAgree [{ id := "p", table := some "album" }]
        ⟨"alice", "alice@corp.com", "tenant-a", ∅, []⟩ "db-a" "album" :=
  @tableMirror_iff Python.ascii _ [.obj [("id", .str "p"), ("table", .str "album")]] (by rfl) _ _
    _ (by decide)

/-! ## Columns -/

/-- A matching allow policy of the table lists the column. -/
def Lists (policies : List Policy) (principal : Principal) (databaseId table column : String) :
    Prop :=
  ∃ p ∈ policies, table ∈ p.grants principal databaseId ∧ column ∈ p.columns

/-- A matching allow policy of the table has a column list. -/
def HasList (policies : List Policy) (principal : Principal) (databaseId table : String) : Prop :=
  ∃ c, Lists policies principal databaseId table c

/-- The two sides answer alike about a column of a table. -/
def ColumnMirror (policies : List Policy) (principal : Principal) (databaseId t c : String) :
    Prop :=
  ((ofPolicies policies).effectiveAccess principal databaseId).columnAccessible t c = true ↔
    ((ofPolicies policies).evaluate principal databaseId [t] {c}).allowed = true

/-- When the column mirror holds for a displayed table.  For a table with
column lists: `c` is in one of them exactly when its normalized form is in
some table's list.  For a table without: no table has a list, or one of them
has the normalized `c`.  (A table name that `_normalize_identifier` changes
must moreover be queryable under both spellings alike.) -/
def ColumnsAgree (policies : List Policy) (principal : Principal) (databaseId t c : String) :
    Prop :=
  let shown := (∀ u, ¬ HasList policies principal databaseId u) ∨
    ∃ u, Lists policies principal databaseId u (normalizeIdentifier c)
  if normalizeIdentifier t = lower t then
    (HasList policies principal databaseId (lower t) →
      (Lists policies principal databaseId (lower t) c ↔
        ∃ u, Lists policies principal databaseId u (normalizeIdentifier c))) ∧
    (¬ HasList policies principal databaseId (lower t) → shown)
  else
    shown ↔ (Granted policies principal databaseId (lower t) ∧
        ¬ Closed policies principal databaseId (lower t)) ∧
      (HasList policies principal databaseId (lower t) →
        Lists policies principal databaseId (lower t) c)

/-- The column lists of one table, read as whitelists. -/
theorem admits_whitelists_singleton_iff {t c : String} :
    Admits ((ofPolicies policies).whitelists principal databaseId [t]) c ↔
      (HasList policies principal databaseId (lower t) →
        Lists policies principal databaseId (lower t) c) := by
  have hmem : ∀ {l : Finset String},
      l ∈ (ofPolicies policies).whitelists principal databaseId [t] ↔
        ∃ p ∈ policies, lower t ∈ p.grants principal databaseId ∧ p.columns = l := by
    intro l
    simp only [whitelists, List.mem_map, mem_tablePolicies, List.mem_singleton, exists_eq_left,
      and_assoc]
  have hlists : ∀ {c : String}, (∃ l ∈ (ofPolicies policies).whitelists principal databaseId [t],
      c ∈ l) ↔ Lists policies principal databaseId (lower t) c := by
    intro c
    constructor
    · rintro ⟨l, hl, hc⟩
      obtain ⟨p, hp, hg, rfl⟩ := hmem.mp hl
      exact ⟨p, hp, hg, hc⟩
    · rintro ⟨p, hp, hg, hc⟩
      exact ⟨p.columns, hmem.mpr ⟨p, hp, hg, rfl⟩, hc⟩
  have hempty : (∀ l ∈ (ofPolicies policies).whitelists principal databaseId [t], l = ∅) ↔
      ¬ HasList policies principal databaseId (lower t) := by
    constructor
    · rintro h ⟨c, hc⟩
      obtain ⟨l, hl, hcl⟩ := hlists.mpr hc
      rw [h l hl] at hcl
      exact Finset.notMem_empty c hcl
    · intro h l hl
      refine Finset.eq_empty_of_forall_notMem fun c hc => h ⟨c, hlists.mp ⟨l, hl, hc⟩⟩
  rw [Admits, hempty, hlists]
  exact (imp_iff_not_or).symm

theorem mem_allowedColumns (hn : ∀ p ∈ policies, p.Normalized)
    (heffect : ∀ p ∈ policies, p.effect = "allow" ∨ p.effect = "deny") {c : String} :
    c ∈ ((ofPolicies policies).effectiveAccess principal databaseId).allowedColumns ↔
      ∃ u, Lists policies principal databaseId u c := by
  have hcols : ((ofPolicies policies).effectiveAccess principal databaseId).allowedColumns =
      unionAll ((((ofPolicies policies).allowByTable principal databaseId).filter
        (·.columns ≠ ∅)).map (·.columns)) := by
    simp [effectiveAccess]
  rw [hcols, mem_unionAll]
  simp only [List.mem_map, List.mem_filter, mem_allowByTable hn, decide_eq_true_eq]
  constructor
  · rintro ⟨l, ⟨p, ⟨⟨hp, ha, hd, ht⟩, -⟩, rfl⟩, hc⟩
    obtain ⟨u, hu⟩ := Option.isSome_iff_exists.mp ht
    exact ⟨u, p, hp, ⟨ha, (heffect p hp).resolve_right hd, hu⟩, hc⟩
  · rintro ⟨u, p, hp, ⟨ha, he, hu⟩, hc⟩
    exact ⟨p.columns, ⟨p, ⟨⟨hp, ha, by rw [he]; decide, by rw [hu]; rfl⟩,
      Finset.ne_empty_of_mem hc⟩, rfl⟩, hc⟩

/-- What a displayed table shows of its columns. -/
theorem columnAccessible_iff (hn : ∀ p ∈ policies, p.Normalized)
    (heffect : ∀ p ∈ policies, p.effect = "allow" ∨ p.effect = "deny") {t c : String}
    (ht : ((ofPolicies policies).effectiveAccess principal databaseId).tableAccessible t = true) :
    ((ofPolicies policies).effectiveAccess principal databaseId).columnAccessible t c = true ↔
      (∀ u, ¬ HasList policies principal databaseId u) ∨
        ∃ u, Lists policies principal databaseId u (normalizeIdentifier c) := by
  have hunrestricted :
      ((ofPolicies policies).effectiveAccess principal databaseId).unrestricted = false := by
    simp [effectiveAccess]
  have hempty : ((ofPolicies policies).effectiveAccess principal databaseId).allowedColumns = ∅ ↔
      ∀ u, ¬ HasList policies principal databaseId u := by
    rw [Finset.eq_empty_iff_forall_notMem]
    simp only [mem_allowedColumns hn heffect, HasList, not_exists]
    exact forall_comm
  rw [EffectiveAccess.columnAccessible, ht, hunrestricted, ← mem_allowedColumns hn heffect,
    ← hempty]
  simp

/-- What a query for one column of one table is allowed, without row scopes. -/
theorem evaluate_column_allowed_iff {t c : String}
    (hscope : ∀ p ∈ policies, lower t ∈ p.grants principal databaseId → p.rowScope = []) :
    ((ofPolicies policies).evaluate principal databaseId [t] {c}).allowed = true ↔
      (Granted policies principal databaseId (lower t) ∧
        ¬ Closed policies principal databaseId (lower t)) ∧
      (HasList policies principal databaseId (lower t) →
        Lists policies principal databaseId (lower t) c) := by
  have hnil : mergeRowScopes ((ofPolicies policies).tablePolicies principal databaseId [t]) =
      [] := by
    refine mergeRowScopes_eq_nil fun p hp => ?_
    obtain ⟨hps, t', ht', hg⟩ := mem_tablePolicies.mp hp
    rw [List.mem_singleton] at ht'
    exact hscope p hps (ht' ▸ hg)
  rw [evaluate_allowed_iff rfl, hnil, passes_singleton_iff]
  simp only [List.not_mem_nil, false_implies, implies_true, and_true, Finset.mem_singleton,
    forall_eq, admits_whitelists_singleton_iff]

omit [Python] in
/-- A list on `invoice` hides the columns of the unlisted `album`. -/
theorem not_columnMirror_other_list :
    letI := Python.ascii
    ¬ ∀ (policies : List Policy), (∀ p ∈ policies, p.Normalized) →
      (∀ p ∈ policies, p.effect = "allow" ∨ p.effect = "deny") →
        ∀ (principal : Principal) (databaseId t c : String),
          ((ofPolicies policies).effectiveAccess principal databaseId).tableAccessible t = true →
          (∀ p ∈ policies, lower t ∈ p.grants principal databaseId → p.rowScope = []) →
            ColumnMirror policies principal databaseId t c := by
  intro h
  have hmirror := @h
    [{ id := "p", table := some "album" },
     { id := "q", table := some "invoice", columns := {"total"} }]
    (by decide) (by decide +kernel) ⟨"alice", "alice@corp.com", "tenant-a", ∅, []⟩
    "db-a" "album" "title" (by decide) (by simp)
  have hallowed := hmirror.mpr (by decide)
  revert hallowed
  decide

/-- **The column mirror, exactly**: over normalized policies that allow or
deny, a column of a displayed table without row scopes is displayed exactly
when it is queryable if and only if `ColumnsAgree`. -/
theorem columnMirror_iff (hn : ∀ p ∈ policies, p.Normalized)
    (heffect : ∀ p ∈ policies, p.effect = "allow" ∨ p.effect = "deny")
    (principal : Principal) (databaseId t c : String)
    (ht : ((ofPolicies policies).effectiveAccess principal databaseId).tableAccessible t = true)
    (hscope : ∀ p ∈ policies, lower t ∈ p.grants principal databaseId → p.rowScope = []) :
    ColumnMirror policies principal databaseId t c ↔
      ColumnsAgree policies principal databaseId t c := by
  rw [ColumnMirror, columnAccessible_iff hn heffect ht, evaluate_column_allowed_iff hscope,
    ColumnsAgree]
  by_cases hbare : normalizeIdentifier t = lower t
  · have hopen : Granted policies principal databaseId (lower t) ∧
        ¬ Closed policies principal databaseId (lower t) := by
      obtain ⟨hg | ⟨p, hp, -, ha, hd, -⟩, hc⟩ := (tableAccessible_iff hn).mp ht
      · exact hbare ▸ ⟨hg, hc⟩
      · rcases heffect p hp with he | he
        · exact absurd he ha
        · exact absurd he hd
    simp only [hbare, if_true, hopen, not_false_eq_true, and_self, true_and]
    by_cases hlist : HasList policies principal databaseId (lower t)
    · have hsome : ¬ ∀ u, ¬ HasList policies principal databaseId u := fun h => h _ hlist
      simp only [hlist, hsome, false_or, true_implies, not_true_eq_false, false_implies, and_true]
      exact iff_comm
    · simp only [hlist, false_implies, iff_true, true_and, not_false_eq_true, true_implies]
  · simp only [hbare, if_false]

omit [Python] in
/-- A single listed table: the two sides agree on its columns. -/
theorem columnMirror_iff_album :
    letI := Python.ascii
    ColumnMirror [{ id := "p", table := some "album", columns := {"title"} }]
        ⟨"alice", "alice@corp.com", "tenant-a", ∅, []⟩ "db-a" "album" "title" ↔
      ColumnsAgree [{ id := "p", table := some "album", columns := {"title"} }]
        ⟨"alice", "alice@corp.com", "tenant-a", ∅, []⟩ "db-a" "album" "title" :=
  @columnMirror_iff Python.ascii _ (by decide) (by decide +kernel) _ _ _ _
    (by decide) (by simp)

end PolicyEvaluator

end DbGateway
