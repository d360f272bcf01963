import DbGateway.Policy.OpaReply
import DbGateway.Policy.Semantics
import DbGateway.Rego.Mirror

/-!
# DbGateway.Policy.Sidecar

`OpaPolicyEvaluator` against the sidecar it is written for: OPA serving
`gateway.rego` over the policy documents.  The two rules yield documents, the
documents travel as JSON, and the client reads them back.

Where the row scopes are objects of texts the reading loses nothing
(`decides_iff_served`): the query is allowed for what the documents permit, with
every mask and every row scope of every policy that allows it.  Scopes that
disagree stop the rule, and a rule that stops is a denial.
-/

namespace DbGateway

open AccessControl OpaReply

/-! ## What OPA answers -/

/-- OPA's JSON encoder, for what JSON does not have: a key that is no text. -/
structure Encoder where
  key : Json → String
  key_str : ∀ s, key (.str s) = s

namespace Sidecar

/-- `result` of `evaluate` -/
def decisionDocument (encoder : Encoder) (decision : Rego.Decision) : Json :=
  .obj
    [("allowed", .bool decision.allowed),
      ("masked_columns", .arr decision.maskedColumns),
      ("policy_ids", .arr decision.policyIds),
      ("reason", .str decision.reason),
      ("row_restrictions",
        .obj (decision.rowRestrictions.map fun kv => (encoder.key kv.1, kv.2)))]

/-- `result` of `effective_access` -/
def accessDocument (access : Rego.Access) : Json :=
  .obj
    [("accessible_tables", .arr access.accessibleTables),
      ("allowed_columns", .arr access.allowedColumns),
      ("masked_columns", .arr access.maskedColumns)]

variable [Rego.Opa]

/-- `POST /v1/data/gateway/evaluate`; a conflict is an internal error of OPA's. -/
def evaluate (encoder : Encoder) (policies : Json) (input : Rego.Input) : Except OpaError Json :=
  match Rego.evaluate policies input with
  | .ok decision => .ok (.obj [("result", decisionDocument encoder decision)])
  | .error .conflict => .error .http

/-- `POST /v1/data/gateway/effective_access` -/
def effectiveAccess (policies : Json) (input : Rego.Input) : Except OpaError Json :=
  .ok (.obj [("result", accessDocument (Rego.effectiveAccess policies input))])

end Sidecar

/-! ## The other path of the client -/

/-- The document `OpaPolicyEvaluator.effective_access` posts; it names no tables. -/
def accessDoc (principal : Principal) (databaseId : String) : Rego.Input where
  principal := inputPrincipal principal
  databaseId := databaseId

/-- The client with both of its paths. -/
structure OpaAccessClient extends OpaClient where
  postAccess : Rego.Input → Except OpaError Json

section

variable [Python]

/-- The body of the `try` in `effective_access`. -/
def OpaReply.readAccess (result : Json) : Except OpaError EffectiveAccess := do
  let accessibleTables ← asStrTuple (← get result "accessible_tables" (.arr [])) "accessible_tables"
  let allowedColumns ← asStrTuple (← get result "allowed_columns" (.arr [])) "allowed_columns"
  let maskedColumns ← asStrTuple (← get result "masked_columns" (.arr [])) "masked_columns"
  return {
    accessibleTables := accessibleTables.toFinset
    allowedColumns := allowedColumns.toFinset
    maskedColumns := maskedColumns.toFinset }

/-- `OpaPolicyEvaluator.effective_access` -/
def OpaAccessClient.effectiveAccess (self : OpaAccessClient) (principal : Principal)
    (databaseId : String) : Except OpaError EffectiveAccess :=
  if !self.enabled then .ok {}
  else
    match queryOpa (self.postAccess (accessDoc principal databaseId)) with
    | .null => .ok {}
    | .obj fields =>
        match readAccess (.obj fields) with
        | .error (.invalidOpaResponse _) => .ok {}
        | access => access
    | _ => .ok {}

end

namespace Sidecar

variable [Rego.Opa]

/-- The client of a sidecar that serves the documents. -/
def client (encoder : Encoder) (policies : Json) : OpaAccessClient where
  enabled := true
  post := evaluate encoder policies
  postAccess := effectiveAccess policies

/-! ## What the documents say -/

/-- Row scopes are objects of texts. -/
def Scoped (policies : Json) : Prop :=
  ∀ p ∈ Rego.items policies, ∀ scope, p.get? "row_scope" = some scope →
    ∃ fields : Dict String, scope = .obj (fields.map fun kv => (kv.1, .str kv.2))

/-- The document scopes the column by the attribute of the subject. -/
def Scopes (policy : Json) (column subjectAttribute : String) : Prop :=
  ∃ fields, policy.get? "row_scope" = some (.obj fields) ∧ (column, .str subjectAttribute) ∈ fields

/-- The document masks the column. -/
def Masks [Python] (policy : Json) (column : String) : Prop :=
  ∃ masked value, policy.get? "masked_columns" = some masked ∧ value ∈ Rego.items masked ∧
    value.toStr = column

/-- The document has a column list. -/
def HasList (policy : Json) : Prop :=
  ∃ columns, policy.get? "columns" = some columns ∧ Rego.countPos columns = true

/-- The column is on it. -/
def Lists (policy : Json) (column : String) : Prop :=
  ∃ columns, policy.get? "columns" = some columns ∧ Rego.countPos columns = true ∧
    .str column ∈ Rego.items columns

/-- The document is one of those that open a requested table. -/
def Opens (policies : Json) (principal : Principal) (databaseId : String) (tables : List String)
    (policy : Json) : Prop :=
  policy ∈ Rego.items policies ∧
    ∃ t ∈ tables, t ∈ Rego.grants (inputPrincipal principal) databaseId policy

/-! ## Reading the documents back -/

omit [Rego.Opa] in
theorem readDecision_document [Python] (encoder : Encoder) (decision : Rego.Decision) :
    readDecision (decisionDocument encoder decision) = .ok {
      allowed := decision.allowed
      reason := decision.reason
      policyIds := decision.policyIds.map Json.toStr
      rowRestrictions := Dict.ofPairs (decision.rowRestrictions.map fun kv =>
        (encoder.key kv.1, kv.2.toStr))
      maskedColumns := (decision.maskedColumns.map Json.toStr).toFinset } := by
  obtain ⟨allowed, reason, policyIds, rowRestrictions, maskedColumns⟩ := decision
  have hpairs : (rowRestrictions.map fun kv => (encoder.key kv.1, kv.2.toStr)) =
      (rowRestrictions.map fun kv => (encoder.key kv.1, kv.2)).map
        fun kv => (kv.1, kv.2.toStr) := by
    rw [List.map_map]
    rfl
  dsimp only
  rw [hpairs]
  cases allowed <;> rfl

theorem evaluate_client [Python] (encoder : Encoder) (policies : Json) (principal : Principal)
    (databaseId : String) {tables : List String} (htables : tables ≠ []) (refs : Finset String) :
    (client encoder policies).evaluate principal databaseId tables refs =
      match Rego.evaluate policies (inputDoc principal databaseId tables refs) with
      | .ok decision => readDecision (decisionDocument encoder decision)
      | .error .conflict => .ok
          ⟨false, "OPA policy evaluation failed (unreachable or invalid response).", [], [], ∅⟩ := by
  have hreply : queryOpa ((client encoder policies).post
      (inputDoc principal databaseId tables refs)) =
        match Rego.evaluate policies (inputDoc principal databaseId tables refs) with
        | .ok decision => decisionDocument encoder decision
        | .error .conflict => .null := by
    unfold client evaluate
    dsimp only
    cases Rego.evaluate policies (inputDoc principal databaseId tables refs) with
    | ok decision => rfl
    | error e => cases e; rfl
  unfold OpaClient.evaluate
  rw [if_neg (by simp [client]), if_neg htables, hreply]
  cases Rego.evaluate policies (inputDoc principal databaseId tables refs) with
  | ok decision =>
      have hread := readDecision_document encoder decision
      dsimp only
      rw [hread]
      unfold decisionDocument at hread ⊢
      dsimp only
      rw [hread]
  | error e => cases e; rfl

theorem effectiveAccess_client [Python] (encoder : Encoder) (policies : Json)
    (principal : Principal) (databaseId : String) :
    (client encoder policies).effectiveAccess principal databaseId = .ok {
      accessibleTables := ((Rego.effectiveAccess policies
        (accessDoc principal databaseId)).accessibleTables.map Json.toStr).toFinset
      allowedColumns := ((Rego.effectiveAccess policies
        (accessDoc principal databaseId)).allowedColumns.map Json.toStr).toFinset
      maskedColumns := ((Rego.effectiveAccess policies
        (accessDoc principal databaseId)).maskedColumns.map Json.toStr).toFinset } := rfl

/-! ## Row scopes -/

omit [Rego.Opa] in
/-- An object comprehension over texts stops exactly when a key gets two values. -/
theorem consistent_iff {pairs : List (Json × Json)}
    (htexts : ∀ e ∈ pairs, ∃ c a, e = (Json.str c, Json.str a)) :
    Rego.consistent pairs = true ↔
      ∀ c a a', (Json.str c, Json.str a) ∈ pairs → (Json.str c, Json.str a') ∈ pairs → a = a' := by
  simp only [Rego.consistent, List.all_eq_true]
  constructor
  · intro h c a a' ha ha'
    have hfirst := h _ ha
    have hsecond := h _ ha'
    cases hfind : pairs.find? fun first => first.1.same (.str c) with
    | none =>
        have hself := List.find?_eq_none.mp hfind _ ha
        exact absurd (Json.same_str_iff.mpr rfl) hself
    | some first =>
        rw [hfind, Option.all_some] at hfirst hsecond
        have heq := (Json.str_same_iff.mp hfirst).symm.trans (Json.str_same_iff.mp hsecond)
        exact Json.str.inj heq
  · intro h e he
    obtain ⟨c, a, rfl⟩ := htexts e he
    rw [Option.all_eq_true]
    intro first hfind
    obtain ⟨c', a', rfl⟩ := htexts first (List.mem_of_find?_eq_some hfind)
    have hkey := List.find?_some (p := fun first : Json × Json => first.1.same (.str c)) hfind
    obtain rfl := Json.str.inj (Json.same_str_iff.mp hkey)
    rw [h _ a a' he (List.mem_of_find?_eq_some hfind)]
    exact Json.same_str_iff.mpr rfl

section

variable {policies : Json} {principal : Principal} {databaseId : String} {tables : List String}
  {refs : Finset String}

theorem mem_evaluateAllows_iff (hlower : ∀ t ∈ tables, Rego.lower t = t) {p : Json} :
    p ∈ Rego.evaluateAllows policies (inputDoc principal databaseId tables refs) ↔
      Opens policies principal databaseId tables p :=
  Rego.mem_evaluateAllows policies (inputDoc principal databaseId tables refs) hlower

/-- The row scopes the rule merges, one by one. -/
theorem mem_scopePairs_iff (hscoped : Scoped policies) (hlower : ∀ t ∈ tables, Rego.lower t = t)
    {e : Json × Json} :
    e ∈ Rego.scopePairs (Rego.evaluateAllows policies
        (inputDoc principal databaseId tables refs)) ↔
      ∃ p c a, Opens policies principal databaseId tables p ∧ Scopes p c a ∧
        e = (.str c, .str a) := by
  simp only [Rego.scopePairs, List.mem_flatMap, mem_evaluateAllows_iff hlower]
  constructor
  · rintro ⟨p, hopens, he⟩
    cases hscope : p.get? "row_scope" with
    | none => simp [hscope] at he
    | some scope =>
        obtain ⟨fields, rfl⟩ := hscoped p hopens.1 scope hscope
        rw [hscope] at he
        obtain ⟨kv, hkv, rfl⟩ := List.mem_map.mp he
        obtain ⟨⟨c, a⟩, hca, rfl⟩ := List.mem_map.mp hkv
        exact ⟨p, c, a, hopens, ⟨_, hscope, List.mem_map_of_mem hca⟩, rfl⟩
  · rintro ⟨p, c, a, hopens, ⟨fields, hscope, hca⟩, rfl⟩
    refine ⟨p, hopens, ?_⟩
    rw [hscope]
    exact List.mem_map_of_mem hca

/-- Two documents that open a requested table scope no column by two attributes. -/
def Agree (policies : Json) (principal : Principal) (databaseId : String)
    (tables : List String) : Prop :=
  ∀ p p' c a a', Opens policies principal databaseId tables p →
    Opens policies principal databaseId tables p' → Scopes p c a → Scopes p' c a' → a = a'

theorem consistent_scopePairs_iff (hscoped : Scoped policies)
    (hlower : ∀ t ∈ tables, Rego.lower t = t) :
    Rego.consistent (Rego.scopePairs (Rego.evaluateAllows policies
        (inputDoc principal databaseId tables refs))) = true ↔
      Agree policies principal databaseId tables := by
  have hmem : ∀ {c a}, (Json.str c, Json.str a) ∈ Rego.scopePairs (Rego.evaluateAllows policies
      (inputDoc principal databaseId tables refs)) ↔
        ∃ p, Opens policies principal databaseId tables p ∧ Scopes p c a := by
    intro c a
    rw [mem_scopePairs_iff hscoped hlower]
    constructor
    · rintro ⟨p, c', a', hopens, hscope, heq⟩
      obtain ⟨hc, ha⟩ := Prod.mk.inj heq
      rw [Json.str.inj hc, Json.str.inj ha]
      exact ⟨p, hopens, hscope⟩
    · rintro ⟨p, hopens, hscope⟩
      exact ⟨p, c, a, hopens, hscope, rfl⟩
  rw [consistent_iff]
  · simp only [hmem]
    constructor
    · intro h p p' c a a' hp hp' hs hs'
      exact h c a a' ⟨p, hp, hs⟩ ⟨p', hp', hs'⟩
    · rintro h c a a' ⟨p, hp, hs⟩ ⟨p', hp', hs'⟩
      exact h p p' c a a' hp hp' hs hs'
  · intro e he
    obtain ⟨-, c, a, -, -, rfl⟩ := (mem_scopePairs_iff hscoped hlower).mp he
    exact ⟨c, a, rfl⟩

/-- The restrictions the client reads off the rule's object. -/
theorem mem_rowRestrictions_iff (encoder : Encoder) (hscoped : Scoped policies)
    (hlower : ∀ t ∈ tables, Rego.lower t = t)
    (hagree : Agree policies principal databaseId tables) [Python] {c a : String} :
    (c, a) ∈ Dict.ofPairs ((Rego.scopePairs (Rego.evaluateAllows policies
        (inputDoc principal databaseId tables refs))).map fun kv =>
          (encoder.key kv.1, kv.2.toStr)) ↔
      ∃ p, Opens policies principal databaseId tables p ∧ Scopes p c a := by
  have hmem : ∀ {kv : String × String}, kv ∈ (Rego.scopePairs (Rego.evaluateAllows policies
      (inputDoc principal databaseId tables refs))).map (fun kv =>
        (encoder.key kv.1, kv.2.toStr)) ↔
          ∃ p, Opens policies principal databaseId tables p ∧ Scopes p kv.1 kv.2 := by
    rintro ⟨c, a⟩
    simp only [List.mem_map, mem_scopePairs_iff hscoped hlower]
    constructor
    · rintro ⟨-, ⟨p, c', a', hopens, hscope, rfl⟩, heq⟩
      obtain ⟨hc, ha⟩ := Prod.mk.inj heq
      rw [encoder.key_str] at hc
      rw [Json.toStr_str] at ha
      exact ⟨p, hopens, hc ▸ ha ▸ hscope⟩
    · rintro ⟨p, hopens, hscope⟩
      refine ⟨_, ⟨p, c, a, hopens, hscope, rfl⟩, ?_⟩
      rw [encoder.key_str, Json.toStr_str]
  constructor
  · intro h
    exact hmem.mp ((Dict.mem_update h).resolve_left List.not_mem_nil)
  · rintro ⟨p, hopens, hscope⟩
    refine Dict.mem_update_of_mem (.inr (hmem.mpr ⟨p, hopens, hscope⟩)) fun kv' hkv' hkey => ?_
    obtain ⟨p', hopens', hscope'⟩ := hmem.mp hkv'
    obtain ⟨c', a'⟩ := kv'
    obtain rfl : c = c' := hkey
    exact hagree p p' c a a' hopens hopens' hscope hscope'

/-! ## Columns -/

/-- Every referenced column is on a list, where there are lists. -/
def Listed (policies : Json) (principal : Principal) (databaseId : String) (tables : List String)
    (refs : Finset String) : Prop :=
  (∀ p, Opens policies principal databaseId tables p → ¬ HasList p) ∨
    ∀ c ∈ refs, ∃ p, Opens policies principal databaseId tables p ∧ Lists p c

theorem checkColumns_iff (hlower : ∀ t ∈ tables, Rego.lower t = t) :
    Rego.checkColumns (Rego.columnPolicies (Rego.evaluateAllows policies
        (inputDoc principal databaseId tables refs)))
        (inputDoc principal databaseId tables refs).referencedColumns = true ↔
      Listed policies principal databaseId tables refs := by
  have hcolumn : ∀ {p : Json}, p ∈ Rego.columnPolicies (Rego.evaluateAllows policies
      (inputDoc principal databaseId tables refs)) ↔
        Opens policies principal databaseId tables p ∧ HasList p := by
    intro p
    rw [Rego.columnPolicies, List.mem_filter, mem_evaluateAllows_iff hlower, Option.any_eq_true]
    rfl
  have hlisted : ∀ {c : String}, Json.str c ∈ Rego.collect "columns" (Rego.columnPolicies
      (Rego.evaluateAllows policies (inputDoc principal databaseId tables refs))) ↔
        ∃ p, Opens policies principal databaseId tables p ∧ Lists p c := by
    intro c
    simp only [Rego.collect, List.mem_flatMap, hcolumn]
    constructor
    · rintro ⟨p, ⟨hopens, columns, hcolumns, hpos⟩, hc⟩
      rw [hcolumns] at hc
      exact ⟨p, hopens, columns, hcolumns, hpos, hc⟩
    · rintro ⟨p, hopens, columns, hcolumns, hpos, hc⟩
      refine ⟨p, ⟨hopens, columns, hcolumns, hpos⟩, ?_⟩
      rw [hcolumns]
      exact hc
  have hnone : (Rego.columnPolicies (Rego.evaluateAllows policies
      (inputDoc principal databaseId tables refs))).isEmpty = true ↔
        ∀ p, Opens policies principal databaseId tables p → ¬ HasList p := by
    rw [List.isEmpty_iff, List.eq_nil_iff_forall_not_mem]
    simp only [hcolumn, not_and]
  have hrefs : ∀ {c : String},
      c ∈ (inputDoc principal databaseId tables refs).referencedColumns ↔ c ∈ refs := by
    intro c
    exact Finset.mem_sort _
  have hempty : (inputDoc principal databaseId tables refs).referencedColumns.isEmpty = true ↔
      refs = ∅ := by
    rw [List.isEmpty_iff, List.eq_nil_iff_forall_not_mem, Finset.eq_empty_iff_forall_notMem]
    simp only [hrefs]
  rw [Rego.checkColumns, Bool.or_eq_true, Bool.or_eq_true, hempty, hnone, List.all_eq_true]
  simp only [hrefs, Json.isIn_str_iff, hlisted, Listed]
  constructor
  · rintro ((rfl | h) | h)
    · exact .inr fun c hc => absurd hc (Finset.notMem_empty c)
    · exact .inl h
    · exact .inr h
  · rintro (h | h)
    · exact .inl (.inr h)
    · exact .inr h

/-! ## The whole way -/

/-- What the rule yields where it allows. -/
theorem evaluate_allowed {input : Rego.Input} {decision : Rego.Decision}
    (h : Rego.evaluate policies input = .ok decision) (hallowed : decision.allowed = true) :
    decision.rowRestrictions = Rego.scopePairs (Rego.evaluateAllows policies input) ∧
      decision.maskedColumns =
        Rego.collect "masked_columns" (Rego.evaluateAllows policies input) := by
  unfold Rego.evaluate at h
  rw [Rego.violatesSod_eq_false, if_neg Bool.false_ne_true] at h
  dsimp only at h
  split at h
  · rw [← Except.ok.inj h] at hallowed
    contradiction
  · split at h
    · rw [Rego.objectOf] at h
      split at h
      · rw [← Except.ok.inj h]
        exact ⟨rfl, rfl⟩
      · contradiction
    · rw [← Except.ok.inj h] at hallowed
      contradiction

omit [Rego.Opa] in
theorem mem_collect_masks_iff [Python] {allows : List Json} {c : String} :
    c ∈ ((Rego.collect "masked_columns" allows).map Json.toStr).toFinset ↔
      ∃ p ∈ allows, Masks p c := by
  simp only [List.mem_toFinset, List.mem_map, Rego.collect, List.mem_flatMap, Masks]
  constructor
  · rintro ⟨value, ⟨p, hp, hvalue⟩, hc⟩
    cases hmasked : p.get? "masked_columns" with
    | none => simp [hmasked] at hvalue
    | some masked =>
        rw [hmasked] at hvalue
        exact ⟨p, hp, masked, value, hmasked, hvalue, hc⟩
  · rintro ⟨p, hp, masked, value, hmasked, hvalue, hc⟩
    refine ⟨value, ⟨p, hp, ?_⟩, hc⟩
    rw [hmasked]
    exact hvalue

/-- A document that opens a requested table is one of those the display collects. -/
theorem Opens.mem_accessAllows (hlower : ∀ t ∈ tables, Rego.lower t = t) {p : Json}
    (h : Opens policies principal databaseId tables p) :
    p ∈ Rego.accessAllows policies (accessDoc principal databaseId) := by
  have hmem : p ∈ Rego.evaluateAllows policies (inputDoc principal databaseId tables ∅) :=
    (mem_evaluateAllows_iff hlower).mpr h
  rw [Rego.evaluateAllows, List.mem_filter, Rego.matchesPolicy_eq, Bool.and_eq_true,
    Bool.and_eq_true] at hmem
  obtain ⟨hp, ⟨happlies, -⟩, hallow⟩ := hmem
  exact List.mem_filter.mpr ⟨hp, Bool.and_eq_true _ _ |>.mpr ⟨happlies, hallow⟩⟩

/-- Where a table is permitted nothing denies them all. -/
theorem effectiveAccess_masked {t : String}
    (ht : t ∈ Rego.permitted policies (inputPrincipal principal) databaseId) :
    (Rego.effectiveAccess policies (accessDoc principal databaseId)).maskedColumns =
      Rego.collect "masked_columns"
        (Rego.accessAllows policies (accessDoc principal databaseId)) := by
  have hopen : ¬ Rego.hasDenyAll policies (inputPrincipal principal) databaseId = true := by
    intro hall
    let access := accessDoc principal databaseId
    have hdeny : Rego.hasDenyAll policies access.principal access.databaseId = true := hall
    obtain ⟨p, hp, happlies, heffect, htable⟩ := Rego.hasDenyAll_iff.mp hdeny
    exact (mem_permitted.mp ht).2 p hp ⟨happlies, heffect, .inl htable⟩
  unfold Rego.effectiveAccess
  rw [Rego.violatesSod_eq_false, if_neg Bool.false_ne_true]
  exact congrArg _ (if_neg hopen)

/-- **The whole way**: through the sidecar a query is allowed exactly when every table is
permitted, its columns are listed and no row scope contradicts another; it is then
restricted by all the row scopes and all the masks of the documents that open its tables,
and the display shows the tables and marks the masked columns. -/
theorem evaluate_served [Python] (encoder : Encoder) (hscoped : Scoped policies)
    (principal : Principal) (databaseId : String) (hne : tables ≠ [])
    (hlower : ∀ t ∈ tables, Rego.lower t = t) (refs : Finset String) :
    ∃ decision access,
      (client encoder policies).evaluate principal databaseId tables refs = .ok decision ∧
      (client encoder policies).effectiveAccess principal databaseId = .ok access ∧
      (decision.allowed = true ↔
        (∀ t ∈ tables, t ∈ Rego.permitted policies (inputPrincipal principal) databaseId) ∧
          Listed policies principal databaseId tables refs ∧
          Agree policies principal databaseId tables) ∧
      (decision.allowed = true →
        (∀ c a, (c, a) ∈ decision.rowRestrictions ↔
          ∃ p, Opens policies principal databaseId tables p ∧ Scopes p c a) ∧
        (∀ c, c ∈ decision.maskedColumns ↔
          ∃ p, Opens policies principal databaseId tables p ∧ Masks p c) ∧
        (∀ t ∈ tables, t ∈ access.accessibleTables) ∧
        decision.maskedColumns ⊆ access.maskedColumns) := by
  have hallows : Rego.Allows (Rego.evaluate policies (inputDoc principal databaseId tables refs)) ↔
      (∀ t ∈ tables, t ∈ Rego.permitted policies (inputPrincipal principal) databaseId) ∧
        Listed policies principal databaseId tables refs ∧
        Agree policies principal databaseId tables := by
    have hagree : Rego.consistent (Rego.scopePairs (Rego.evaluateAllows policies
        (inputDoc principal databaseId tables refs))) = true ↔
          Agree policies principal databaseId tables := consistent_scopePairs_iff hscoped hlower
    rw [← checkColumns_iff hlower, ← hagree]
    exact Rego.allows_evaluate_iff (inputDoc principal databaseId tables refs) hlower hne
  rw [evaluate_client encoder policies principal databaseId hne refs,
    effectiveAccess_client encoder policies principal databaseId]
  cases hrule : Rego.evaluate policies (inputDoc principal databaseId tables refs) with
  | error e =>
      cases e with
      | conflict =>
          refine ⟨_, _, rfl, rfl, ?_, fun h => absurd h Bool.false_ne_true⟩
          rw [hrule] at hallows
          rw [← hallows]
          refine ⟨fun h => absurd h Bool.false_ne_true, ?_⟩
          rintro ⟨decision, hdecision, -⟩
          contradiction
  | ok decision =>
      refine ⟨_, _, readDecision_document encoder decision, rfl, ?_, fun hallowed => ?_⟩
      · rw [hrule] at hallows
        refine Iff.trans ?_ hallows
        exact ⟨fun h => ⟨decision, rfl, h⟩, fun ⟨d, hd, h⟩ => Except.ok.inj hd ▸ h⟩
      · obtain ⟨hrows, hmasks⟩ := evaluate_allowed hrule hallowed
        obtain ⟨hpermitted, -, hagree⟩ := hallows.mp ⟨decision, hrule, hallowed⟩
        have hmasked : ∀ c, c ∈ (decision.maskedColumns.map Json.toStr).toFinset ↔
            ∃ p, Opens policies principal databaseId tables p ∧ Masks p c := by
          intro c
          rw [hmasks, mem_collect_masks_iff]
          simp only [mem_evaluateAllows_iff hlower]
        refine ⟨fun c a => ?_, hmasked, fun t ht => ?_, fun c hc => ?_⟩
        · rw [hrows]
          exact mem_rowRestrictions_iff encoder hscoped hlower hagree
        · let access := accessDoc principal databaseId
          have hshown : Json.str t ∈ (Rego.effectiveAccess policies access).accessibleTables :=
            Rego.mem_accessibleTables_iff.mpr (hpermitted t ht)
          exact List.mem_toFinset.mpr (List.mem_map.mpr ⟨_, hshown, rfl⟩)
        · obtain ⟨p, hopens, hmask⟩ := (hmasked c).mp hc
          obtain ⟨t, ts, hts⟩ := List.exists_cons_of_ne_nil hne
          have hshown := effectiveAccess_masked (hpermitted t (hts ▸ List.mem_cons_self))
          dsimp only
          rw [hshown, mem_collect_masks_iff]
          exact ⟨p, hopens.mem_accessAllows hlower, hmask⟩

end

/-- A policy that opens `album`, for the rows of one's own region and without the titles. -/
def regionalAlbum : Json :=
  .obj [("id", .str "regional"), ("effect", .str "allow"), ("table", .str "album"),
    ("row_scope", .obj [("region", .str "region")]), ("masked_columns", .arr [.str "title"])]

/-- A policy that opens `artist`, for the rows of one's own organisation. -/
def ownArtist : Json :=
  .obj [("id", .str "own"), ("effect", .str "allow"), ("table", .str "artist"),
    ("row_scope", .obj [("tenant", .str "org_id"), ("region", .str "region")])]

/-- Both policies; where their row scopes name the same column, they name the same attribute. -/
def catalogue : Json := .arr [regionalAlbum, ownArtist]

omit [Rego.Opa] in
/-- Everyone reads both tables under them, joined. -/
theorem evaluate_served_catalogue :
    letI := Python.ascii
    letI := Rego.Opa.ascii
    let alice : Principal := ⟨"alice", "alice@corp.com", "tenant-a", ∅, []⟩
    let encoder : Encoder := ⟨fun | .str s => s | _ => "", fun _ => rfl⟩
    let tables := ["album", "artist"]
    ∃ decision access,
      (client encoder catalogue).evaluate alice "db-a" tables ∅ = .ok decision ∧
      (client encoder catalogue).effectiveAccess alice "db-a" = .ok access ∧
      (decision.allowed = true ↔
        (∀ t ∈ tables, t ∈ Rego.permitted catalogue (inputPrincipal alice) "db-a") ∧
          Listed catalogue alice "db-a" tables ∅ ∧
          Agree catalogue alice "db-a" tables) ∧
      (decision.allowed = true →
        (∀ c a, (c, a) ∈ decision.rowRestrictions ↔
          ∃ p, Opens catalogue alice "db-a" tables p ∧ Scopes p c a) ∧
        (∀ c, c ∈ decision.maskedColumns ↔
          ∃ p, Opens catalogue alice "db-a" tables p ∧ Masks p c) ∧
        (∀ t ∈ tables, t ∈ access.accessibleTables) ∧
        decision.maskedColumns ⊆ access.maskedColumns) := by
  refine @evaluate_served Rego.Opa.ascii _ _ Python.ascii _ ?_ _ _ (List.cons_ne_nil _ _)
    (by decide) ∅
  intro p hp scope hscope
  rcases List.mem_pair.mp hp with rfl | rfl
  · exact ⟨[("region", "region")], (Option.some.inj hscope).symm⟩
  · exact ⟨[("tenant", "org_id"), ("region", "region")], (Option.some.inj hscope).symm⟩

end Sidecar

end DbGateway
