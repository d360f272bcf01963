import DbGateway.Policy.Model
import DbGateway.Fallible

/-!
# DbGateway.Policy.Semantics

What a policy list means, in the terms of `DbGateway.AccessControl`: for a
principal and a database each policy grants and denies a set of tables, and a
request passes when every requested table is permitted and every referenced
column is admitted by the column lists of the policies that granted them.

`evaluate` is connected to this reading once, stage by stage
(`evaluate_of_passes`, `evaluate_of_not_passes`); the results about decisions
never unfold it again.
-/

namespace DbGateway

open AccessControl

namespace Policy

/-- `bound is None or bound == actual`, as a proposition. -/
theorem boundTo_iff {bound : Json} {actual : String} :
    boundTo bound actual = true ↔ bound = .null ∨ bound = .str actual := by
  cases bound <;> simp [boundTo, Json.same]

end Policy

namespace PolicyEvaluator

/-- The column test of `evaluate`, read as whitelists. -/
theorem columns_pass_iff {policies : List Policy} {refs : Finset String} :
    (refs ≠ ∅ && policies.filter (·.columns ≠ ∅) ≠ [] &&
        !(refs ⊆ unionAll ((policies.filter (·.columns ≠ ∅)).map (·.columns)) : Bool)) = false ↔
      ∀ c ∈ refs, Admits (policies.map (·.columns)) c := by
  have hunion : ∀ c, c ∈ unionAll ((policies.filter (·.columns ≠ ∅)).map (·.columns)) ↔
      c ∈ unionAll (policies.map (·.columns)) := by
    intro c
    simp only [mem_unionAll, List.mem_map, List.mem_filter, decide_eq_true_eq]
    constructor
    · rintro ⟨l, ⟨p, ⟨hp, -⟩, rfl⟩, hc⟩
      exact ⟨_, ⟨p, hp, rfl⟩, hc⟩
    · rintro ⟨l, ⟨p, hp, rfl⟩, hc⟩
      exact ⟨_, ⟨p, ⟨hp, Finset.ne_empty_of_mem hc⟩, rfl⟩, hc⟩
  have hnil : policies.filter (·.columns ≠ ∅) = [] ↔ ∀ l ∈ policies.map (·.columns), l = ∅ := by
    simp [List.filter_eq_nil_iff]
  rw [forall_admits_iff, Finset.ext hunion, ← hnil]
  by_cases hr : refs = ∅
  · simp [hr]
  · by_cases hn : policies.filter (·.columns ≠ ∅) = []
    · simp only [hn, ne_eq, not_true_eq_false, decide_false, Bool.and_false, Bool.false_and,
        true_or, or_true]
    · simp only [hr, hn, ne_eq, not_false_eq_true, decide_true, Bool.true_and, false_or,
        Bool.not_eq_false', decide_eq_true_eq]

/-- The reasons that do not depend on the principal's attributes. -/
def fixedReasons : List String :=
  ["No protected table could be identified.", "Denied by policy.",
    "No allow policy matched the requested table.", "A requested table is not allowed by policy.",
    "A referenced column is not allowed by policy."]

theorem attributeAbsent_notMem_fixedReasons (a : String) : attributeAbsent a ∉ fixedReasons := by
  have hprefix : "Required subject attribute '".toList.head? = some 'R' := by decide
  have hhead : (attributeAbsent a).toList.head? = some 'R' := by
    unfold attributeAbsent
    simp only [String.toList_append, List.head?_append, hprefix, Option.some_or]
  intro h
  have hreasons : ∀ r ∈ fixedReasons, r.toList.head? ≠ some 'R' := by decide
  exact hreasons _ h hhead

end PolicyEvaluator

variable [Python]

theorem lower_select : lower "select" = "select" := by
  rw [Python.lower_ascii "select" (ascii_of_all (by decide))]
  decide

namespace Policy

/-- The clauses of `_matches` that do not look at the table. -/
structure AppliesTo (policy : Policy) (principal : Principal) (databaseId : String) : Prop where
  org : policy.orgId = .null ∨ policy.orgId = .str principal.orgId
  user : policy.principalId = .null ∨ policy.principalId = .str principal.userId
  roles : policy.roles = ∅ ∨ policy.roles ∩ principal.roles ≠ ∅
  database : policy.databaseId = .null ∨ policy.databaseId = .str databaseId
  action : policy.action = "select" ∨ policy.action = "*"

theorem matches_iff {policy : Policy} {principal : Principal} {databaseId table : String} :
    policy.matches_ principal databaseId table = true ↔
      policy.AppliesTo principal databaseId ∧
        (policy.table = none ∨ policy.table = some (lower table)) := by
  simp only [matches_, Bool.and_eq_true, boundTo_iff, Bool.or_eq_true, decide_eq_true_eq,
    lower_select]
  constructor
  · rintro ⟨⟨⟨⟨⟨ho, hu⟩, hr⟩, hd⟩, ht⟩, ha⟩
    exact ⟨⟨ho, hu, hr, hd, ha.elim (fun h => h) .inl⟩, ht⟩
  · rintro ⟨⟨ho, hu, hr, hd, ha⟩, ht⟩
    exact ⟨⟨⟨⟨⟨ho, hu⟩, hr⟩, hd⟩, ht⟩, .inl ha⟩

/-- The tables an allow policy opens to a principal: the one it names. -/
def grants (principal : Principal) (databaseId : String) (policy : Policy) : Set String :=
  {t | policy.AppliesTo principal databaseId ∧ policy.effect = "allow" ∧ policy.table = some t}

/-- The tables a deny policy closes: the one it names, or all of them. -/
def denies (principal : Principal) (databaseId : String) (policy : Policy) : Set String :=
  {t | policy.AppliesTo principal databaseId ∧ policy.effect = "deny" ∧
    (policy.table = none ∨ policy.table = some t)}

/-- The invariant `from_dict` establishes: everything it lower-cases is
lower-case. -/
structure Normalized (policy : Policy) : Prop where
  effect : lower policy.effect = policy.effect
  roles : ∀ r ∈ policy.roles, lower r = r
  table : ∀ t, policy.table = some t → lower t = t
  columns : ∀ c ∈ policy.columns, lower c = c
  maskedColumns : ∀ c ∈ policy.maskedColumns, lower c = c
  action : lower policy.action = policy.action

theorem normalized_iff {policy : Policy} :
    policy.Normalized ↔
      lower policy.effect = policy.effect ∧ (∀ r ∈ policy.roles, lower r = r) ∧
        (∀ t ∈ policy.table, lower t = t) ∧ (∀ c ∈ policy.columns, lower c = c) ∧
        (∀ c ∈ policy.maskedColumns, lower c = c) ∧ lower policy.action = policy.action :=
  ⟨fun ⟨he, hr, ht, hc, hm, ha⟩ => ⟨he, hr, ht, hc, hm, ha⟩,
    fun ⟨he, hr, ht, hc, hm, ha⟩ => ⟨he, hr, ht, hc, hm, ha⟩⟩

instance (policy : Policy) : Decidable policy.Normalized := decidable_of_iff' _ normalized_iff

end Policy

theorem lower_of_mem_lowerSet {value : Json} {field : String} {s : Finset String}
    (h : lowerSet value field = .ok s) : ∀ x ∈ s, lower x = x := by
  unfold lowerSet at h
  cases hi : iterate ((value.getD field).or (.arr [])) with
  | error e => simp [hi, bind, Except.bind] at h
  | ok items =>
      simp only [hi, bind, Except.bind, pure, Except.pure, Except.ok.injEq] at h
      intro x hx
      rw [← h, List.mem_toFinset, List.mem_map] at hx
      obtain ⟨item, -, rfl⟩ := hx
      exact Python.lower_lower _

/-- Where each matched field of a loaded policy comes from. -/
structure Policy.LoadedFrom (value : Json) (policy : Policy) : Prop where
  effect : policy.effect = lower ((value.get? "effect").getD (.str "allow")).toStr
  orgId : policy.orgId = (value.getD "org_id").or (value.getD "organisation_id")
  principalId : policy.principalId = (value.getD "principal_id").or (value.getD "user_id")
  roles : lowerSet value "roles" = .ok policy.roles
  databaseId : policy.databaseId = value.getD "database_id"
  table : policy.table =
    if (value.getD "table").truthy then some (lower (value.getD "table").toStr) else none
  columns : lowerSet value "columns" = .ok policy.columns
  maskedColumns : lowerSet value "masked_columns" = .ok policy.maskedColumns
  action : policy.action = lower ((Policy.rawAction value).or (.str "select")).toStr

theorem Policy.loadedFrom_of_fromDict {value : Json} {policy : Policy}
    (h : Policy.fromDict value = .ok policy) : policy.LoadedFrom value := by
  unfold Policy.fromDict at h
  cases hr : lowerSet value "roles" with
  | error e => simp [hr, bind, Except.bind] at h
  | ok roles =>
  cases hc : lowerSet value "columns" with
  | error e => simp [hr, hc, bind, Except.bind] at h
  | ok columns =>
  cases hm : lowerSet value "masked_columns" with
  | error e => simp [hr, hc, hm, bind, Except.bind] at h
  | ok masked =>
  cases hs : rowScopeItems value with
  | error e => simp [hr, hc, hm, hs, bind, Except.bind] at h
  | ok scope =>
      simp only [hr, hc, hm, hs, bind, Except.bind, pure, Except.pure, Except.ok.injEq] at h
      subst h
      exact ⟨rfl, rfl, rfl, hr, rfl, rfl, hc, hm, rfl⟩

theorem Policy.LoadedFrom.normalized {value : Json} {policy : Policy}
    (h : policy.LoadedFrom value) : policy.Normalized where
  effect := by rw [h.effect, Python.lower_lower]
  roles := lower_of_mem_lowerSet h.roles
  table t ht := by
    rw [h.table] at ht
    split at ht
    · rw [← Option.some.inj ht, Python.lower_lower]
    · contradiction
  columns := lower_of_mem_lowerSet h.columns
  maskedColumns := lower_of_mem_lowerSet h.maskedColumns
  action := by rw [h.action, Python.lower_lower]

/-- Documents that load yield normalized policies only. -/
theorem normalized_of_mapM_fromDict {docs : List Json} {policies : List Policy}
    (h : docs.mapM Policy.fromDict = .ok policies) : ∀ p ∈ policies, p.Normalized := by
  have hloaded := Fallible.mapM_eq_ok_iff.mp h
  clear h
  induction hloaded with
  | nil => simp
  | cons hd _ ih =>
      exact List.forall_mem_cons.mpr ⟨(Policy.loadedFrom_of_fromDict hd).normalized, ih⟩

namespace PolicyEvaluator

variable {evaluator : PolicyEvaluator} {principal : Principal} {databaseId : String}
  {tables : List String} {refs : Finset String}

/-! ## The stages of `evaluate` -/

/-- Tables the policy list opens to the principal. -/
def permitted (self : PolicyEvaluator) (principal : Principal) (databaseId : String) :
    Set String :=
  AccessControl.permitted (Policy.grants principal databaseId)
    (Policy.denies principal databaseId) self.policies

/-- The column lists a request on the given tables is checked against. -/
def whitelists (self : PolicyEvaluator) (principal : Principal) (databaseId : String)
    (tables : List String) : List (Finset String) :=
  (self.tablePolicies principal databaseId tables).map (·.columns)

/-- The request clears the table stage and the column stage. -/
structure Passes (evaluator : PolicyEvaluator) (principal : Principal) (databaseId : String)
    (tables : List String) (refs : Finset String) : Prop where
  nonempty : tables ≠ []
  permits : ∀ t ∈ tables, lower t ∈ evaluator.permitted principal databaseId
  admits : ∀ c ∈ refs, Admits (evaluator.whitelists principal databaseId tables) c

theorem mem_applicable {p : Policy} :
    p ∈ evaluator.applicable principal databaseId tables ↔
      p ∈ evaluator.policies ∧ p.AppliesTo principal databaseId ∧
        ∃ t ∈ tables, p.table = none ∨ p.table = some (lower t) := by
  simp only [applicable, List.mem_filter, List.any_eq_true, Policy.matches_iff]
  constructor
  · rintro ⟨hp, t, ht, ha, hc⟩
    exact ⟨hp, ha, t, ht, hc⟩
  · rintro ⟨hp, ha, t, ht, hc⟩
    exact ⟨hp, t, ht, ha, hc⟩

theorem mem_tablePolicies {p : Policy} :
    p ∈ evaluator.tablePolicies principal databaseId tables ↔
      p ∈ evaluator.policies ∧ ∃ t ∈ tables, lower t ∈ p.grants principal databaseId := by
  simp only [tablePolicies, List.mem_filter, mem_applicable, Bool.and_eq_true,
    decide_eq_true_eq, Policy.grants, Set.mem_ofPred_eq]
  constructor
  · rintro ⟨⟨hp, ha, t, ht, hc⟩, he, hs⟩
    refine ⟨hp, t, ht, ha, he, hc.resolve_left fun hn => ?_⟩
    rw [hn] at hs
    exact absurd hs (by simp)
  · rintro ⟨hp, t, ht, ha, he, hc⟩
    exact ⟨⟨hp, ha, t, ht, .inr hc⟩, he, by rw [hc]; rfl⟩

/-- No applicable policy denies exactly when no requested table is denied. -/
theorem denies_eq_nil_iff :
    (evaluator.applicable principal databaseId tables).filter (·.effect = "deny") = [] ↔
      ∀ t ∈ tables, ∀ p ∈ evaluator.policies, lower t ∉ p.denies principal databaseId := by
  simp only [List.filter_eq_nil_iff, mem_applicable, decide_eq_true_eq, Policy.denies,
    Set.mem_ofPred_eq]
  constructor
  · rintro hd t ht p hp ⟨ha, he, hc⟩
    exact hd p ⟨hp, ha, t, ht, hc⟩ he
  · rintro hd p ⟨hp, ha, t, ht, hc⟩ he
    exact hd t ht p hp ⟨ha, he, hc⟩

/-- Every requested table is named by a matching allow policy exactly when
each of them is granted. -/
theorem covered_iff :
    (∀ t ∈ tables, some (lower t) ∈
        (evaluator.tablePolicies principal databaseId tables).map (·.table)) ↔
      ∀ t ∈ tables, ∃ p ∈ evaluator.policies, lower t ∈ p.grants principal databaseId := by
  constructor
  · intro h t ht
    obtain ⟨p, hp, hpt⟩ := List.mem_map.mp (h t ht)
    obtain ⟨hps, t', -, hg⟩ := mem_tablePolicies.mp hp
    exact ⟨p, hps, hg.1, hg.2.1, hpt⟩
  · intro h t ht
    obtain ⟨p, hp, hg⟩ := h t ht
    exact List.mem_map.mpr ⟨p, mem_tablePolicies.mpr ⟨hp, t, ht, hg⟩, hg.2.2⟩

/-- A request that clears both stages is decided by the attributes alone. -/
theorem evaluate_of_passes (henabled : evaluator.enabled = true)
    (h : evaluator.Passes principal databaseId tables refs) :
    evaluator.evaluate principal databaseId tables refs =
      let policies := evaluator.tablePolicies principal databaseId tables
      match (mergeRowScopes policies).find? fun kv => principal.lacks kv.2 with
      | some kv => ⟨false, attributeAbsent kv.2, [], [], ∅⟩
      | none => ⟨true, "Allowed by policy.", policies.map (·.id), mergeRowScopes policies,
          unionAll (policies.map (·.maskedColumns))⟩ := by
  have hden := denies_eq_nil_iff.mpr fun t ht => (mem_permitted.mp (h.permits t ht)).2
  have hcov := covered_iff.mpr fun t ht => (mem_permitted.mp (h.permits t ht)).1
  have hne : evaluator.tablePolicies principal databaseId tables ≠ [] := by
    obtain ⟨t, ts, rfl⟩ := List.exists_cons_of_ne_nil h.nonempty
    intro hnil
    have hmem := hcov t List.mem_cons_self
    rw [hnil] at hmem
    exact absurd hmem List.not_mem_nil
  have hany : (tables.any fun table =>
      some (lower table) ∉ (evaluator.tablePolicies principal databaseId tables).map (·.table)) =
        false := by
    simpa using hcov
  have hcol := columns_pass_iff.mpr h.admits
  unfold evaluate
  cases hfind : (mergeRowScopes (evaluator.tablePolicies principal databaseId tables)).find?
      fun kv => principal.lacks kv.2 with
  | none =>
      simp only [henabled, hden, hany, hcol, h.nonempty, hne, hfind, Bool.not_true,
        Bool.false_eq_true, if_false, ne_eq, not_true_eq_false]
  | some kv =>
      simp only [henabled, hden, hany, hcol, h.nonempty, hne, hfind, Bool.not_true,
        Bool.false_eq_true, if_false, ne_eq, not_true_eq_false]

/-- A request that fails a stage is denied for a reason of that stage. -/
theorem evaluate_of_not_passes (henabled : evaluator.enabled = true)
    (h : ¬ evaluator.Passes principal databaseId tables refs) :
    (evaluator.evaluate principal databaseId tables refs).allowed = false ∧
      (evaluator.evaluate principal databaseId tables refs).reason ∈ fixedReasons := by
  unfold evaluate
  rw [if_neg (by simp [henabled])]
  by_cases hnil : tables = []
  · rw [if_pos hnil]
    exact ⟨rfl, by simp [fixedReasons]⟩
  rw [if_neg hnil]
  dsimp only
  by_cases hden : (evaluator.applicable principal databaseId tables).filter (·.effect = "deny") = []
  swap
  · rw [if_pos hden]
    exact ⟨rfl, by simp [fixedReasons]⟩
  rw [if_neg (not_not.mpr hden)]
  by_cases hne : evaluator.tablePolicies principal databaseId tables = []
  · rw [if_pos hne]
    exact ⟨rfl, by simp [fixedReasons]⟩
  rw [if_neg hne]
  split
  · exact ⟨rfl, by simp [fixedReasons]⟩
  · next hany =>
    split
    · exact ⟨rfl, by simp [fixedReasons]⟩
    · next hcol =>
      refine absurd ⟨hnil, fun t ht => mem_permitted.mpr ⟨?_, ?_⟩, ?_⟩ h
      · exact covered_iff.mp (by simpa using hany) t ht
      · exact denies_eq_nil_iff.mp hden t ht
      · exact columns_pass_iff.mp (by simpa using hcol)

/-- **What `evaluate` allows**: both stages are cleared and the principal
carries every attribute the merged row scopes name. -/
theorem evaluate_allowed_iff (henabled : evaluator.enabled = true) :
    (evaluator.evaluate principal databaseId tables refs).allowed = true ↔
      evaluator.Passes principal databaseId tables refs ∧
        ∀ kv ∈ mergeRowScopes (evaluator.tablePolicies principal databaseId tables),
          principal.lacks kv.2 = false := by
  by_cases h : evaluator.Passes principal databaseId tables refs
  · rw [evaluate_of_passes henabled h]
    dsimp only
    cases hf : (mergeRowScopes (evaluator.tablePolicies principal databaseId tables)).find?
        fun kv => principal.lacks kv.2 with
    | some kv =>
        have hkv := List.find?_some hf
        have hmem := List.mem_of_find?_eq_some hf
        simp only [Bool.false_eq_true, false_iff, not_and]
        intro _ hall
        rw [hall kv hmem] at hkv
        exact Bool.false_ne_true hkv
    | none =>
        simp only [true_iff]
        refine ⟨h, fun kv hkv => ?_⟩
        simpa using List.find?_eq_none.mp hf kv hkv
  · rw [(evaluate_of_not_passes henabled h).1]
    simp [h]

/-- The request clears both stages exactly when it is allowed or is denied
only for an attribute the principal does not carry. -/
theorem passes_iff_allowed_or_attributeAbsent (henabled : evaluator.enabled = true) :
    evaluator.Passes principal databaseId tables refs ↔
      (evaluator.evaluate principal databaseId tables refs).allowed = true ∨
        ∃ a, (evaluator.evaluate principal databaseId tables refs).reason = attributeAbsent a := by
  by_cases h : evaluator.Passes principal databaseId tables refs
  · simp only [h, true_iff]
    rw [evaluate_of_passes henabled h]
    dsimp only
    split
    · next kv _ => exact .inr ⟨kv.2, rfl⟩
    · exact .inl rfl
  · obtain ⟨hdenied, hreason⟩ := evaluate_of_not_passes henabled h
    simp only [h, false_iff, hdenied, Bool.false_eq_true, false_or, not_exists]
    intro a ha
    exact attributeAbsent_notMem_fixedReasons a (ha ▸ hreason)

end PolicyEvaluator

end DbGateway
