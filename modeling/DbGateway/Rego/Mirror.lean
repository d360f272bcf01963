import DbGateway.Rego.Model
import DbGateway.AccessControl

/-!
# DbGateway.Rego.Mirror

What the Rego rules decide, in the terms of `DbGateway.AccessControl`, and how
far `effective_access` mirrors `evaluate`.

The two rules duplicate the whole matching chain.  `matchesPolicy_eq` says the
copies agree: the chain with a table clause is the chain without one, plus the
clause.  What is left between the rules is the object comprehension of
`collect_row_restrictions`, which only `evaluate` runs and which stops the
query on conflicting row scopes.
-/

namespace DbGateway.Rego

open AccessControl

variable [Opa]

/-! ## The duplicated chain -/

omit [Opa] in
theorem boundRule_and (policy : Json) (field actual : String) (x y : Bool) :
    boundRule policy field actual (x && y) = (boundRule policy field actual x && y) := by
  unfold boundRule
  cases y <;> simp

theorem rolesRule_and (policy : Json) (roles : List String) (x y : Bool) :
    rolesRule policy roles (x && y) = (rolesRule policy roles x && y) := by
  unfold rolesRule
  cases y <;> simp

theorem actionRule_and (policy : Json) (x y : Bool) :
    actionRule policy (x && y) = (actionRule policy x && y) := by
  unfold actionRule
  cases y <;> simp

/-- The clauses that do not look at the tables. -/
def applies (principal : InputPrincipal) (databaseId : String) (policy : Json) : Bool :=
  matchesPolicyForAccess policy { principal, databaseId }

theorem matchesPolicyForAccess_eq (policy : Json) (input : Input) :
    matchesPolicyForAccess policy input = applies input.principal input.databaseId policy := rfl

/-- The chain of `evaluate` is the chain of `effective_access` and the table
clause. -/
theorem matchesPolicy_eq (policy : Json) (input : Input) :
    matchesPolicy policy input =
      (applies input.principal input.databaseId policy && matchesPolicyTable policy input) := by
  have haction : matchesPolicyAction policy input =
      (matchesPolicyActionAccess policy input && matchesPolicyTable policy input) := by
    rw [matchesPolicyAction, matchesPolicyActionAccess, ← actionRule_and, Bool.true_and]
  rw [matchesPolicy, matchesPolicyPartial, matchesPolicyRest, matchesPolicyDatabase, haction,
    boundRule_and, rolesRule_and, boundRule_and, boundRule_and]
  rfl

/-! ## Fields -/

omit [Opa] in
theorem fieldIs_iff {obj : Json} {field value : String} :
    fieldIs obj field value = true ↔ obj.get? field = some (.str value) := by
  simp only [fieldIs, Option.any_eq_true, Json.same_str_iff]
  constructor
  · rintro ⟨v, hv, rfl⟩
    exact hv
  · exact fun h => ⟨_, h, rfl⟩

omit [Opa] in
theorem fieldNotNull_of_get? {obj : Json} {field s : String}
    (h : obj.get? field = some (.str s)) : fieldNotNull obj field = true := by
  simp [fieldNotNull, h, Json.same]

/-- The table clause, for lower-case tables. -/
theorem matchesPolicyTable_iff {policy : Json} {input : Input}
    (hlower : ∀ t ∈ input.tables, lower t = t) :
    matchesPolicyTable policy input = true ↔
      policy.get? "table" = none ∨
        ∃ t ∈ input.tables, policy.get? "table" = some (.str t) := by
  have hmap : (input.tables.map fun t => Json.str (lower t)) = input.tables.map Json.str :=
    List.map_congr_left fun t ht => by rw [hlower t ht]
  rw [matchesPolicyTable, hmap]
  cases hget : policy.get? "table" with
  | none => simp [hasField, hget]
  | some table =>
      simp only [hasField, hget, Option.isSome_some, Bool.true_and, Option.any_some,
        Bool.not_true, Bool.or_false, Bool.and_eq_true, Json.isIn_map_str_iff, reduceCtorEq,
        false_or, Option.some.injEq]
      constructor
      · exact fun h => h.2
      · rintro ⟨t, ht, rfl⟩
        exact ⟨fieldNotNull_of_get? hget, t, ht, rfl⟩

/-! ## Grants and denials -/

/-- The tables an allow document opens: the one it names. -/
def grants (principal : InputPrincipal) (databaseId : String) (policy : Json) : Set String :=
  {t | applies principal databaseId policy = true ∧
    policy.get? "effect" = some (.str "allow") ∧ policy.get? "table" = some (.str t)}

/-- The tables a deny document closes: the one it names, or all of them when
it has no table field. -/
def denies (principal : InputPrincipal) (databaseId : String) (policy : Json) : Set String :=
  {t | applies principal databaseId policy = true ∧
    policy.get? "effect" = some (.str "deny") ∧
      (policy.get? "table" = none ∨ policy.get? "table" = some (.str t))}

/-- Tables the documents open to the principal. -/
def permitted (policies : Json) (principal : InputPrincipal) (databaseId : String) :
    Set String :=
  AccessControl.permitted (grants principal databaseId) (denies principal databaseId)
    (items policies)

variable {policies : Json} {input : Input}

theorem violatesSod_eq_false (roles : List String) : violatesSod roles = false := rfl

theorem mem_evaluateAllows (policies : Json) (input : Input)
    (hlower : ∀ t ∈ input.tables, lower t = t) {p : Json} :
    p ∈ evaluateAllows policies input ↔
      p ∈ items policies ∧ ∃ t ∈ input.tables, t ∈ grants input.principal input.databaseId p := by
  simp only [evaluateAllows, List.mem_filter, Bool.and_eq_true, matchesPolicy_eq,
    matchesPolicyTable_iff hlower, isTableAllow, fieldIs_iff, grants, Set.mem_ofPred_eq]
  constructor
  · rintro ⟨hp, ⟨ha, hnone | ⟨t, ht, htable⟩⟩, ⟨he, hhas⟩, hnull⟩
    · rw [hasField, hnone] at hhas
      exact absurd hhas (by simp)
    · exact ⟨hp, t, ht, ha, he, htable⟩
  · rintro ⟨hp, t, ht, ha, he, htable⟩
    refine ⟨hp, ⟨ha, .inr ⟨t, ht, htable⟩⟩, ⟨he, ?_⟩, fieldNotNull_of_get? htable⟩
    rw [hasField, htable]
    rfl

theorem evaluateDenies_eq_nil_iff (hlower : ∀ t ∈ input.tables, lower t = t)
    (hne : input.tables ≠ []) :
    evaluateDenies policies input = [] ↔
      ∀ t ∈ input.tables, ∀ p ∈ items policies,
        t ∉ denies input.principal input.databaseId p := by
  simp only [evaluateDenies, List.filter_eq_nil_iff, Bool.and_eq_true, matchesPolicy_eq,
    matchesPolicyTable_iff hlower, fieldIs_iff, denies, Set.mem_ofPred_eq]
  constructor
  · rintro h t ht p hp ⟨ha, he, hnone | htable⟩
    · exact h p hp ⟨⟨ha, .inl hnone⟩, he⟩
    · exact h p hp ⟨⟨ha, .inr ⟨t, ht, htable⟩⟩, he⟩
  · rintro h p hp ⟨⟨ha, hnone | ⟨t, ht, htable⟩⟩, he⟩
    · obtain ⟨t, ts, hts⟩ := List.exists_cons_of_ne_nil hne
      exact h t (hts ▸ List.mem_cons_self) p hp ⟨ha, he, .inl hnone⟩
    · exact h t ht p hp ⟨ha, he, .inr htable⟩

theorem covered_iff (hlower : ∀ t ∈ input.tables, lower t = t) :
    (input.tables.all fun t =>
        (Json.str t).isIn ((evaluateAllows policies input).filterMap (·.get? "table"))) = true ↔
      ∀ t ∈ input.tables, ∃ p ∈ items policies,
        t ∈ grants input.principal input.databaseId p := by
  simp only [List.all_eq_true, Json.isIn_str_iff, List.mem_filterMap, mem_evaluateAllows _ _ hlower]
  constructor
  · intro h t ht
    obtain ⟨p, ⟨hp, t', -, hg⟩, htable⟩ := h t ht
    exact ⟨p, hp, hg.1, hg.2.1, htable⟩
  · intro h t ht
    obtain ⟨p, hp, hg⟩ := h t ht
    exact ⟨p, ⟨hp, t, ht, hg⟩, hg.2.2⟩

/-- The rule allows: it yields an object (no error) that says so. -/
def Allows (result : Except RegoError Decision) : Prop :=
  ∃ decision, result = .ok decision ∧ decision.allowed = true

/-- **What the `evaluate` rule allows**: every table permitted, the columns
checked, and row scopes that agree with each other. -/
theorem allows_evaluate_iff (input : Input) (hlower : ∀ t ∈ input.tables, lower t = t)
    (hne : input.tables ≠ []) :
    Allows (evaluate policies input) ↔
      (∀ t ∈ input.tables, t ∈ permitted policies input.principal input.databaseId) ∧
        checkColumns (columnPolicies (evaluateAllows policies input)) input.referencedColumns =
          true ∧
        consistent (scopePairs (evaluateAllows policies input)) = true := by
  have hperm : (∀ t ∈ input.tables, t ∈ permitted policies input.principal input.databaseId) ↔
      (∀ t ∈ input.tables, ∃ p ∈ items policies,
        t ∈ grants input.principal input.databaseId p) ∧
      ∀ t ∈ input.tables, ∀ p ∈ items policies,
        t ∉ denies input.principal input.databaseId p := by
    simp only [permitted, mem_permitted, forall_and]
  rw [hperm, ← covered_iff hlower, ← evaluateDenies_eq_nil_iff hlower hne]
  unfold evaluate
  rw [violatesSod_eq_false, if_neg Bool.false_ne_true]
  dsimp only
  by_cases hden : evaluateDenies policies input = []
  swap
  · rw [if_pos hden]
    simp [Allows, hden]
  rw [if_neg (not_not.mpr hden)]
  simp only [hden, and_true]
  by_cases hcov : (input.tables.all fun t =>
      (Json.str t).isIn ((evaluateAllows policies input).filterMap (·.get? "table"))) = true
  swap
  · simp [Allows, hcov]
  have hallows : evaluateAllows policies input ≠ [] := by
    obtain ⟨t, ts, hts⟩ := List.exists_cons_of_ne_nil hne
    intro hnil
    rw [hnil, hts] at hcov
    simp [Json.isIn] at hcov
  simp only [hcov, true_and, Bool.true_and, hallows, ne_eq, not_false_eq_true, decide_true]
  by_cases hcols : checkColumns (columnPolicies (evaluateAllows policies input))
      input.referencedColumns = true
  · rw [if_pos hcols]
    cases hcons : consistent (scopePairs (evaluateAllows policies input)) with
    | true => simp [Allows, objectOf, hcons, hcols, bind, Except.bind]
    | false => simp [Allows, objectOf, hcons, bind, Except.bind]
  · rw [if_neg hcols]
    simp [Allows, hcols]

/-! ## The displayed surface -/

theorem hasDenyAll_iff :
    hasDenyAll policies input.principal input.databaseId = true ↔
      ∃ p ∈ items policies, applies input.principal input.databaseId p = true ∧
        p.get? "effect" = some (.str "deny") ∧ p.get? "table" = none := by
  simp only [hasDenyAll, List.any_eq_true, Bool.and_eq_true, fieldIs_iff, matchesPolicy_eq,
    hasField, Bool.not_eq_true', Option.isSome_eq_false_iff, Option.isNone_iff_eq_none]
  constructor
  · rintro ⟨p, hp, ⟨he, hnone⟩, ha, -⟩
    exact ⟨p, hp, ha, he, hnone⟩
  · rintro ⟨p, hp, ha, he, hnone⟩
    exact ⟨p, hp, ⟨he, hnone⟩, ha, by simp [matchesPolicyTable, hasField, hnone]⟩

theorem mem_deniedTables_iff {t : String} :
    Json.str t ∈ deniedTables policies input ↔
      ∃ p ∈ items policies, applies input.principal input.databaseId p = true ∧
        p.get? "effect" = some (.str "deny") ∧ p.get? "table" = some (.str t) := by
  simp only [deniedTables, List.mem_filterMap, List.mem_filter, Bool.and_eq_true,
    matchesPolicyForAccess_eq, fieldIs_iff]
  constructor
  · rintro ⟨p, ⟨hp, ⟨ha, he⟩, -⟩, htable⟩
    exact ⟨p, hp, ha, he, htable⟩
  · rintro ⟨p, hp, ha, he, htable⟩
    exact ⟨p, ⟨hp, ⟨ha, he⟩, fieldNotNull_of_get? htable⟩, htable⟩

/-- What `effective_access` lists is exactly what the documents permit. -/
theorem mem_accessibleTables_iff {t : String} :
    Json.str t ∈ (effectiveAccess policies input).accessibleTables ↔
      t ∈ permitted policies input.principal input.databaseId := by
  have hallow : (∃ p ∈ accessAllows policies input, p.get? "table" = some (.str t)) ↔
      ∃ p ∈ items policies, t ∈ grants input.principal input.databaseId p := by
    simp only [accessAllows, List.mem_filter, Bool.and_eq_true, matchesPolicyForAccess_eq,
      isTableAllow, fieldIs_iff, grants, Set.mem_ofPred_eq]
    constructor
    · rintro ⟨p, ⟨hp, ha, ⟨he, -⟩, -⟩, htable⟩
      exact ⟨p, hp, ha, he, htable⟩
    · rintro ⟨p, hp, ha, he, htable⟩
      refine ⟨p, ⟨hp, ha, ⟨he, ?_⟩, fieldNotNull_of_get? htable⟩, htable⟩
      rw [hasField, htable]
      rfl
  have hdeny : (∀ p ∈ items policies, t ∉ denies input.principal input.databaseId p) ↔
      ¬ hasDenyAll policies input.principal input.databaseId = true ∧
        Json.str t ∉ deniedTables policies input := by
    rw [hasDenyAll_iff, mem_deniedTables_iff]
    simp only [denies, Set.mem_ofPred_eq]
    constructor
    · intro h
      exact ⟨fun ⟨p, hp, ha, he, hn⟩ => h p hp ⟨ha, he, .inl hn⟩,
        fun ⟨p, hp, ha, he, ht⟩ => h p hp ⟨ha, he, .inr ht⟩⟩
    · rintro ⟨hall, hone⟩ p hp ⟨ha, he, hn | ht⟩
      · exact hall ⟨p, hp, ha, he, hn⟩
      · exact hone ⟨p, hp, ha, he, ht⟩
  rw [permitted, mem_permitted, ← hallow, hdeny]
  unfold effectiveAccess
  rw [violatesSod_eq_false, if_neg Bool.false_ne_true]
  by_cases hall : hasDenyAll policies input.principal input.databaseId = true
  · rw [if_pos hall]
    simp [hall]
  · rw [if_neg hall]
    simp only [List.mem_filter, List.mem_filterMap, Bool.not_eq_true', hall, not_false_eq_true,
      true_and, Bool.eq_false_iff, ne_eq, Json.isIn_str_iff, Bool.false_eq_true]

/-! ## The mirror -/

/-- A table is listed exactly when a query for it alone, reading no column, is
allowed. -/
def TableMirror (policies : Json) (principal : InputPrincipal) (databaseId t : String) : Prop :=
  Json.str t ∈ (effectiveAccess policies { principal, databaseId }).accessibleTables ↔
    Allows (evaluate policies { principal, databaseId, tables := [t] })

/-- The matching allow documents that name the table. -/
def namingAllows (policies : Json) (principal : InputPrincipal) (databaseId t : String) :
    List Json :=
  (items policies).filter fun p =>
    applies principal databaseId p && fieldIs p "effect" "allow" && fieldIs p "table" t

theorem evaluateAllows_singleton {principal : InputPrincipal} {databaseId t : String}
    (ht : lower t = t) :
    evaluateAllows policies { principal, databaseId, tables := [t] } =
      namingAllows policies principal databaseId t := by
  refine List.filter_congr fun p hp => ?_
  have hmem : p ∈ evaluateAllows _ _ ↔ _ :=
    mem_evaluateAllows (.arr [p]) { principal, databaseId, tables := [t] } (by simpa using ht)
  simp only [evaluateAllows, items, List.mem_filter, List.mem_singleton, true_and,
    exists_eq_left] at hmem
  rw [Bool.eq_iff_iff, hmem]
  simp only [grants, Set.mem_ofPred_eq, Bool.and_eq_true, fieldIs_iff, and_assoc]

/-- Two allow policies scoping `album.region` by different attributes. -/
def conflictingScopes : Json :=
  .arr
    [.obj [("id", .str "p"), ("effect", .str "allow"), ("table", .str "album"),
       ("row_scope", .obj [("region", .str "region")])],
     .obj [("id", .str "q"), ("effect", .str "allow"), ("table", .str "album"),
       ("row_scope", .obj [("region", .str "area")])]]

omit [Opa] in
/-- With conflicting row scopes `album` is listed while every query for it is
an evaluation error. -/
theorem not_regoMirror_conflictingScopes :
    letI := Opa.ascii
    ¬ ∀ (policies : Json) (principal : InputPrincipal) (databaseId t : String), lower t = t →
      TableMirror policies principal databaseId t := by
  intro h
  have hmirror := h conflictingScopes ⟨"alice", "tenant-a", []⟩ "db-a" "album" (by decide)
  obtain ⟨decision, hdecision, -⟩ := hmirror.mp (Json.isIn_str_iff.mp (by decide))
  have hconflict : (@evaluate Opa.ascii conflictingScopes
      { principal := ⟨"alice", "tenant-a", []⟩, databaseId := "db-a", tables := ["album"] }) =
        .error .conflict := by rfl
  rw [hconflict] at hdecision
  contradiction

/-- **The Rego mirror, exactly**: a lower-case table is listed exactly when
`evaluate` allows it if and only if a matching deny closes the table or the row
scopes of its matching allow policies agree. -/
theorem regoMirror_iff (policies : Json) (principal : InputPrincipal) (databaseId : String)
    {t : String} (ht : lower t = t) :
    TableMirror policies principal databaseId t ↔
      (∃ p ∈ items policies, t ∈ denies principal databaseId p) ∨
        consistent (scopePairs (namingAllows policies principal databaseId t)) = true := by
  have hlower : ∀ t' ∈ [t], lower t' = t' := by simpa using ht
  rw [TableMirror, mem_accessibleTables_iff,
    allows_evaluate_iff { principal, databaseId, tables := [t] } hlower
      (List.cons_ne_nil t []), evaluateAllows_singleton ht]
  simp only [List.mem_singleton, forall_eq, checkColumns, List.isEmpty_nil, Bool.true_or,
    true_and]
  constructor
  · intro h
    by_cases hclosed : ∃ p ∈ items policies, t ∈ denies principal databaseId p
    · exact .inl hclosed
    · refine .inr ?_
      by_cases hgranted : ∃ p ∈ items policies, t ∈ grants principal databaseId p
      · exact (h.mp (mem_permitted.mpr ⟨hgranted, fun p hp hd => hclosed ⟨p, hp, hd⟩⟩)).2
      · have hnil : namingAllows policies principal databaseId t = [] := by
          refine List.filter_eq_nil_iff.mpr fun p hp hnaming => hgranted ⟨p, hp, ?_⟩
          simpa only [grants, Set.mem_ofPred_eq, Bool.and_eq_true, fieldIs_iff, and_assoc]
            using hnaming
        rw [hnil]
        rfl
  · rintro (⟨p, hp, hd⟩ | hcons)
    · have hnot : t ∉ permitted policies principal databaseId := fun hmem =>
        (mem_permitted.mp hmem).2 p hp hd
      simp [hnot]
    · simp [hcons]

omit [Opa] in
/-- Two policies that scope the rows of `album` alike, one of them for `alice`. -/
def agreeingScopes : Json := .arr
  [.obj [("effect", .str "allow"), ("table", .str "album"),
      ("row_scope", .obj [("owner", .str "user")])],
    .obj [("effect", .str "allow"), ("principal_id", .str "alice"), ("table", .str "album"),
      ("row_scope", .obj [("owner", .str "user"), ("region", .str "region")])]]

omit [Opa] in
theorem regoMirror_iff_album :
    letI := Opa.ascii
    TableMirror agreeingScopes ⟨"alice", "tenant-a", []⟩ "db-a" "album" ↔
      (∃ p ∈ items agreeingScopes, "album" ∈ denies ⟨"alice", "tenant-a", []⟩ "db-a" p) ∨
      consistent (scopePairs (namingAllows agreeingScopes ⟨"alice", "tenant-a", []⟩ "db-a"
        "album")) = true :=
  @regoMirror_iff Opa.ascii _ _ _ _ (by decide)

end DbGateway.Rego
