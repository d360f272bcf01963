import DbGateway.Policy.Semantics
import DbGateway.Rego.Mirror
import Mathlib.Data.Finset.Sort
import Mathlib.Data.String.Basic

/-!
# DbGateway.Interchange

The two evaluators over the same documents: `PolicyEvaluator` on the policies
`from_dict` builds from them, and the Rego `evaluate` rule on the documents
themselves.

Python turns a missing, `null` or empty field into the same default and
lower-cases what it reads; Rego tells a missing field from a `null` one and
compares as written.  `NoDifference` says when this does not matter to a
request: a document closes, opens and lists the same for it on both sides.
`ReadsAlike` lists, field by field, the documents that make no difference to
any request.  Over documents that make none the evaluators agree, unless the
row scopes of an admitted request contradict each other (`evaluatorsAgree_iff`).
-/

namespace DbGateway

open AccessControl

/-- Corresponding lists have corresponding members. -/
theorem exists_mem_iff_of_forall₂ {α β : Type} {R : α → β → Prop} {P : α → Prop} {Q : β → Prop}
    {xs : List α} {ys : List β} (h : List.Forall₂ R xs ys)
    (hPQ : ∀ x y, R x y → (P x ↔ Q y)) : (∃ x ∈ xs, P x) ↔ ∃ y ∈ ys, Q y := by
  induction h with
  | nil => simp
  | cons hr _ ih => simp only [List.exists_mem_cons_iff, hPQ _ _ hr, ih]

/-! ## The request -/

/-- The principal as the gateway describes it to OPA. -/
def inputPrincipal (principal : Principal) : Rego.InputPrincipal :=
  ⟨principal.userId, principal.orgId, principal.roles.sort (· ≤ ·)⟩

/-- The document `OpaPolicyEvaluator.evaluate` posts for a request. -/
def inputDoc (principal : Principal) (databaseId : String) (tables : List String)
    (referencedColumns : Finset String) : Rego.Input where
  principal := inputPrincipal principal
  databaseId := databaseId
  tables := tables
  referencedColumns := referencedColumns.sort (· ≤ ·)

/-! ## Fields -/

/-- A field bound to one value: absent on both sides together with its alias,
or a non-empty string. -/
def BoundAlike (doc : Json) (field fallback : String) : Prop :=
  (doc.get? field = none ∧ doc.getD fallback = .null) ∨
    ∃ s, doc.get? field = some (.str s) ∧ s ≠ ""

section Fields

variable {doc : Json} {field : String}

theorem getD_of_get? {v : Json} (h : doc.get? field = some v) :
    doc.getD field = v := by
  rw [Json.getD, h, Option.getD_some]

theorem getD_of_none (h : doc.get? field = none) : doc.getD field = .null := by
  rw [Json.getD, h, Option.getD_none]

/-- A bound field, as Rego's rule reads it. -/
theorem boundRule_true_iff {actual : String} :
    Rego.boundRule doc field actual true = true ↔
      doc.get? field = none ∨ doc.get? field = some (.str actual) := by
  cases hget : doc.get? field with
  | none => simp [Rego.boundRule, Rego.hasField, hget]
  | some v =>
      simp only [Rego.boundRule, Rego.hasField, Rego.fieldNotNull, Rego.fieldIs, hget,
        Option.isSome_some, Option.any_some, Bool.true_and, Bool.and_true, Bool.not_true,
        Bool.or_false, Bool.and_eq_true, Json.same_str_iff, reduceCtorEq, false_or,
        Option.some.injEq]
      constructor
      · exact fun h => h.2
      · rintro rfl
        exact ⟨rfl, rfl⟩

theorem bound_iff {fallback actual : String} (h : BoundAlike doc field fallback) :
    ((doc.getD field).or (doc.getD fallback) = .null ∨
        (doc.getD field).or (doc.getD fallback) = .str actual) ↔
      Rego.boundRule doc field actual true = true := by
  rw [boundRule_true_iff]
  rcases h with ⟨hnone, hnull⟩ | ⟨s, hs, hne⟩
  · simp [getD_of_none hnone, hnull, hnone, Json.or]
  · simp [getD_of_get? hs, Json.or_of_truthy _ (Json.truthy_str_iff.mpr hne), hs]

/-- The principal's roles are outside the role hierarchy. -/
theorem expandedRoles_of_outside (roles : List String)
    (h : ∀ r ∈ roles, Rego.roleHierarchy.get? r = none) : Rego.expandedRoles roles = roles := by
  have hnil : (roles.flatMap fun r => (Rego.roleHierarchy.get? r).getD []) = [] := by
    rw [List.flatMap_eq_nil_iff]
    intro r hr
    rw [h r hr]
    rfl
  rw [Rego.expandedRoles, hnil, List.append_nil]

variable [Python]

theorem lowerSet_strings {names : List String}
    (h : doc.get? field = some (.arr (names.map .str))) :
    lowerSet doc field = .ok (names.map DbGateway.lower).toFinset := by
  have hor : (doc.getD field).or (.arr []) = .arr (names.map .str) := by
    rw [getD_of_get? h]
    cases names <;> simp [Json.or, Json.truthy]
  simp only [lowerSet, hor, iterate, bind, Except.bind, pure, Except.pure, List.map_map]
  rfl

theorem lowerSet_falsy (h : (doc.getD field).truthy = false) :
    lowerSet doc field = .ok ∅ := by
  rw [lowerSet, Json.or_of_not_truthy _ h]
  rfl

end Fields

/-- A merged row scope comes from one of the policies. -/
theorem mem_mergeRowScopes {ps : List Policy} {kv : String × String}
    (h : kv ∈ PolicyEvaluator.mergeRowScopes ps) : ∃ p ∈ ps, kv ∈ p.rowScope := by
  have hgen : ∀ (ps : List Policy) (d : Dict String),
      kv ∈ ps.foldl (fun restrictions policy => restrictions.update policy.rowScope) d →
        kv ∈ d ∨ ∃ p ∈ ps, kv ∈ p.rowScope := by
    intro ps
    induction ps with
    | nil => exact fun d hd => .inl hd
    | cons p ps ih =>
        intro d hd
        rcases ih _ hd with hd | ⟨q, hq, hkv⟩
        · rcases Dict.mem_update hd with hd | hd
          · exact .inl hd
          · exact .inr ⟨p, List.mem_cons_self, hd⟩
        · exact .inr ⟨q, List.mem_cons_of_mem p hq, hkv⟩
  exact (hgen ps [] h).resolve_left List.not_mem_nil

variable [Python] [Rego.Opa]

/-- The two evaluators answer alike. -/
def EvaluatorsAgree (docs : List Json) (policies : List Policy) (principal : Principal)
    (databaseId : String) (tables : List String) (referencedColumns : Finset String) : Prop :=
  Rego.Allows (Rego.evaluate (.arr docs)
      (inputDoc principal databaseId tables referencedColumns)) ↔
    ((PolicyEvaluator.ofPolicies policies).evaluate principal databaseId tables
      referencedColumns).allowed = true

/-! ## Documents read alike -/

/-- The fields of a document on which defaults, letter case and `null` make no
difference between the two readers. -/
structure ReadsAlike (principal : Principal) (doc : Json) : Prop where
  org : BoundAlike doc "org_id" "organisation_id"
  user : BoundAlike doc "principal_id" "user_id"
  /-- `database_id` is not `null`. -/
  database : doc.get? "database_id" ≠ some .null
  /-- `roles` is absent, or a non-empty array of names whose two lower-casings
  are held by the principal alike. -/
  roles : doc.get? "roles" = none ∨
    ∃ names : List String, doc.get? "roles" = some (.arr (names.map .str)) ∧ names ≠ [] ∧
      ∀ name ∈ names, DbGateway.lower name ∈ principal.roles ↔
        ∃ held ∈ principal.roles, Rego.lower name = Rego.lower held
  /-- `action` is absent or `null` together with `actions`, or `"*"`, or
  `"select"` in any letter case. -/
  action : (doc.getD "action" = .null ∧ doc.getD "actions" = .null) ∨
    doc.get? "action" = some (.str "*") ∨
    ∃ s, doc.get? "action" = some (.str s) ∧ s ≠ "" ∧
      DbGateway.lower s = "select" ∧ Rego.lower s = "select"
  /-- `effect` is `"allow"` or `"deny"` as written, or neither in any case. -/
  effect : ∃ e, doc.get? "effect" = some (.str e) ∧
    (e = "allow" ∨ e = "deny" ∨ (DbGateway.lower e ≠ "allow" ∧ DbGateway.lower e ≠ "deny"))
  /-- `table` is absent or a non-empty lower-case name. -/
  table : doc.get? "table" = none ∨
    ∃ t, doc.get? "table" = some (.str t) ∧ t ≠ "" ∧ DbGateway.lower t = t
  /-- `columns` is absent, `null` or empty, or an array of lower-case names. -/
  columns : (doc.getD "columns").truthy = false ∨
    ∃ names : List String, doc.get? "columns" = some (.arr (names.map .str)) ∧
      ∀ name ∈ names, DbGateway.lower name = name

/-- Neither side applies the document to the principal and database. -/
def Skipped (principal : Principal) (databaseId : String) (doc : Json) (policy : Policy) : Prop :=
  ¬ policy.AppliesTo principal databaseId ∧
    Rego.applies (inputPrincipal principal) databaseId doc = false

namespace ReadsAlike

variable {principal : Principal} {databaseId : String} {doc : Json} {policy : Policy}

/-! ## Field by field -/

theorem database_iff (h : ReadsAlike principal doc) :
    (doc.getD "database_id" = .null ∨ doc.getD "database_id" = .str databaseId) ↔
      Rego.boundRule doc "database_id" databaseId true = true := by
  rw [boundRule_true_iff]
  cases hget : doc.get? "database_id" with
  | none => simp [getD_of_none hget]
  | some v =>
      have hnull : v ≠ .null := fun hv => h.database (hv ▸ hget)
      simp [getD_of_get? hget, hnull]

theorem roles_iff (h : ReadsAlike principal doc) (hload : policy.LoadedFrom doc)
    (houtside : ∀ r ∈ principal.roles, Rego.roleHierarchy.get? r = none) :
    (policy.roles = ∅ ∨ policy.roles ∩ principal.roles ≠ ∅) ↔
      Rego.rolesRule doc (principal.roles.sort (· ≤ ·)) true = true := by
  rcases h.roles with hnone | ⟨names, hget, hne, hnames⟩
  · have hroles := hload.roles
    rw [lowerSet_falsy (by rw [getD_of_none hnone]; rfl), Except.ok.injEq] at hroles
    simp [← hroles, Rego.rolesRule, Rego.hasField, hnone]
  · have hroles := hload.roles
    rw [lowerSet_strings hget, Except.ok.injEq] at hroles
    have hexpand := expandedRoles_of_outside (principal.roles.sort (· ≤ ·))
      (by simpa using houtside)
    obtain ⟨name, rest, rfl⟩ := List.exists_cons_of_ne_nil hne
    have hnonempty : policy.roles ≠ ∅ := by
      rw [← hroles]
      simp
    have hinter : policy.roles ∩ principal.roles ≠ ∅ ↔
        ∃ n ∈ name :: rest, DbGateway.lower n ∈ principal.roles := by
      rw [← Finset.nonempty_iff_ne_empty, ← hroles]
      simp only [Finset.Nonempty, Finset.mem_inter, List.mem_toFinset, List.mem_map]
      constructor
      · rintro ⟨_, ⟨n, hn, rfl⟩, hheld⟩
        exact ⟨n, hn, hheld⟩
      · rintro ⟨n, hn, hheld⟩
        exact ⟨_, ⟨n, hn, rfl⟩, hheld⟩
    have hrego : Rego.rolesRule doc (principal.roles.sort (· ≤ ·)) true = true ↔
        ∃ n ∈ name :: rest, ∃ held ∈ principal.roles, Rego.lower n = Rego.lower held := by
      simp only [Rego.rolesRule, Rego.hasField, hget, Option.any_some, Option.isSome_some,
        Bool.and_true, Bool.not_true, Bool.or_false, Bool.and_eq_true]
      have hcount : Rego.countPos (.arr ((name :: rest).map .str)) = true := by
        simp [Rego.countPos, Rego.count]
      simp only [hcount, true_and, Rego.roleMatches, Rego.items, hexpand, List.any_map,
        List.any_eq_true, Function.comp_apply, decide_eq_true_eq, List.mem_map, Finset.mem_sort]
      exact exists_congr fun n => and_congr_right fun _ => exists_congr fun held =>
        and_congr_right fun _ => eq_comm
    simp only [hnonempty, false_or, hinter, hrego]
    exact exists_congr fun n => and_congr_right fun hn => hnames n hn

theorem action_iff (h : ReadsAlike principal doc) (hload : policy.LoadedFrom doc) :
    (policy.action = "select" ∨ policy.action = "*") ↔ Rego.actionRule doc true = true := by
  have hselect : Rego.lower "select" = "select" := by
    rw [Rego.Opa.lower_ascii "select" (ascii_of_all (by decide))]
    decide
  rw [hload.action]
  rcases h.action with ⟨hnull, hactions⟩ | hstar | ⟨s, hs, hne, hpython, hrego⟩
  · have hraw : (Policy.rawAction doc).or (.str "select") = .str "select" := by
      simp [Policy.rawAction, hnull, hactions, Json.or]
    have hrule : Rego.actionRule doc true = true := by
      cases hget : doc.get? "action" with
      | none => simp [Rego.actionRule, Rego.hasField, hget]
      | some v =>
          rw [getD_of_get? hget] at hnull
          subst hnull
          simp [Rego.actionRule, Rego.hasField, Rego.fieldIsNull, hget, Json.same]
    simp [hraw, lower_select, hrule]
  · have hraw : (Policy.rawAction doc).or (.str "select") = .str "*" := by
      simp [Policy.rawAction, getD_of_get? hstar, Json.or, Json.truthy]
    have hlower : DbGateway.lower "*" = "*" := by
      rw [Python.lower_ascii "*" (ascii_of_all (by decide))]
      decide
    have hrule : Rego.actionRule doc true = true := by
      simp [Rego.actionRule, Rego.hasField, Rego.fieldIs, hstar, Json.same]
    simp [hraw, hlower, hrule]
  · have hraw : (Policy.rawAction doc).or (.str "select") = .str s := by
      simp [Policy.rawAction, getD_of_get? hs, Json.or, Json.truthy_str_iff.mpr hne]
    have hrule : Rego.actionRule doc true = true := by
      simp [Rego.actionRule, Rego.hasField, Rego.fieldNotNull, Rego.fieldIs, hs, Json.same,
        hrego, hselect]
    simp [hraw, hpython, hrule]

theorem effect_iff (h : ReadsAlike principal doc) (hload : policy.LoadedFrom doc) {e : String}
    (he : e = "allow" ∨ e = "deny") :
    policy.effect = e ↔ doc.get? "effect" = some (.str e) := by
  have hlower : ∀ s, s = "allow" ∨ s = "deny" → DbGateway.lower s = s := by
    rintro s (rfl | rfl)
    · rw [Python.lower_ascii "allow" (ascii_of_all (by decide))]
      decide
    · rw [Python.lower_ascii "deny" (ascii_of_all (by decide))]
      decide
  obtain ⟨s, hs, hcase⟩ := h.effect
  rw [hload.effect, hs, Option.getD_some, Json.toStr_str, Option.some.injEq, Json.str.injEq]
  by_cases hknown : s = "allow" ∨ s = "deny"
  · rw [hlower s hknown]
  · obtain ⟨hallow, hdeny⟩ := (hcase.resolve_left fun h => hknown (.inl h)).resolve_left
      fun h => hknown (.inr h)
    rcases he with rfl | rfl
    · exact ⟨fun h => absurd h hallow, fun h => absurd (.inl h) hknown⟩
    · exact ⟨fun h => absurd h hdeny, fun h => absurd (.inr h) hknown⟩

theorem table_none_iff (h : ReadsAlike principal doc) (hload : policy.LoadedFrom doc) :
    policy.table = none ↔ doc.get? "table" = none := by
  rw [hload.table]
  rcases h.table with hnone | ⟨t, ht, hne, hlower⟩
  · simp [getD_of_none hnone, hnone]
  · simp [getD_of_get? ht, Json.truthy_str_iff.mpr hne, ht]

theorem table_some_iff (h : ReadsAlike principal doc) (hload : policy.LoadedFrom doc)
    {t : String} : policy.table = some t ↔ doc.get? "table" = some (.str t) := by
  rw [hload.table]
  rcases h.table with hnone | ⟨s, hs, hne, hlower⟩
  · simp [getD_of_none hnone, hnone]
  · simp [getD_of_get? hs, Json.truthy_str_iff.mpr hne, hs, hlower]

theorem columns_empty_iff (h : ReadsAlike principal doc) (hload : policy.LoadedFrom doc) :
    policy.columns = ∅ ↔ ((doc.get? "columns").any Rego.countPos) = false := by
  have hcolumns := hload.columns
  rcases h.columns with hfalsy | ⟨names, hget, -⟩
  · rw [lowerSet_falsy hfalsy, Except.ok.injEq] at hcolumns
    rw [← hcolumns]
    cases hget : doc.get? "columns" with
    | none => simp
    | some v =>
        rw [getD_of_get? hget] at hfalsy
        cases v <;> simp_all [Json.truthy, Rego.countPos, Rego.count]
  · rw [lowerSet_strings hget, Except.ok.injEq] at hcolumns
    rw [← hcolumns, hget]
    cases names <;> simp [Rego.countPos, Rego.count]

theorem mem_columns_iff (h : ReadsAlike principal doc) (hload : policy.LoadedFrom doc)
    {c : String} :
    c ∈ policy.columns ↔ Json.str c ∈ ((doc.get? "columns").map Rego.items).getD [] := by
  have hcolumns := hload.columns
  rcases h.columns with hfalsy | ⟨names, hget, hnames⟩
  · rw [lowerSet_falsy hfalsy, Except.ok.injEq] at hcolumns
    rw [← hcolumns]
    have hitems : ((doc.get? "columns").map Rego.items).getD [] = [] := by
      cases hget : doc.get? "columns" with
      | none => rfl
      | some v =>
          rw [getD_of_get? hget] at hfalsy
          cases v <;> simp_all [Json.truthy, Rego.items]
    simp [hitems]
  · rw [lowerSet_strings hget, Except.ok.injEq] at hcolumns
    have hid : names.map DbGateway.lower = names :=
      (List.map_congr_left hnames).trans (List.map_id names)
    rw [← hcolumns, hid, hget]
    simp [Rego.items]

/-! ## The document as a whole -/

/-- Both readers apply the document to the same requests. -/
theorem applies_iff (h : ReadsAlike principal doc) (hload : policy.LoadedFrom doc)
    (houtside : ∀ r ∈ principal.roles, Rego.roleHierarchy.get? r = none) :
    policy.AppliesTo principal databaseId ↔
      Rego.applies (inputPrincipal principal) databaseId doc = true := by
  have hchain : Rego.applies (inputPrincipal principal) databaseId doc =
      (Rego.boundRule doc "org_id" principal.orgId true &&
        (Rego.boundRule doc "principal_id" principal.userId true &&
          (Rego.rolesRule doc (principal.roles.sort (· ≤ ·)) true &&
            (Rego.boundRule doc "database_id" databaseId true && Rego.actionRule doc true)))) := by
    rw [← Rego.boundRule_and, ← Rego.rolesRule_and, ← Rego.boundRule_and, ← Rego.boundRule_and]
    rfl
  rw [hchain]
  simp only [Bool.and_eq_true]
  rw [← bound_iff h.org, ← bound_iff h.user, ← roles_iff h hload houtside, ← database_iff h,
    ← action_iff h hload, ← hload.orgId, ← hload.principalId, ← hload.databaseId]
  constructor
  · rintro ⟨ho, hu, hr, hd, ha⟩
    exact ⟨ho, hu, hr, hd, ha⟩
  · rintro ⟨ho, hu, hr, hd, ha⟩
    exact ⟨ho, hu, hr, hd, ha⟩

/-- Documents read alike grant the same tables. -/
theorem grants_eq (h : ReadsAlike principal doc) (hload : policy.LoadedFrom doc)
    (houtside : ∀ r ∈ principal.roles, Rego.roleHierarchy.get? r = none) :
    Rego.grants (inputPrincipal principal) databaseId doc =
      policy.grants principal databaseId := by
  ext t
  simp only [Rego.grants, Policy.grants, Set.mem_ofPred_eq, ← h.applies_iff hload houtside,
    h.effect_iff hload (.inl rfl), h.table_some_iff hload]

theorem denies_eq (h : ReadsAlike principal doc) (hload : policy.LoadedFrom doc)
    (houtside : ∀ r ∈ principal.roles, Rego.roleHierarchy.get? r = none) :
    Rego.denies (inputPrincipal principal) databaseId doc =
      policy.denies principal databaseId := by
  ext t
  simp only [Rego.denies, Policy.denies, Set.mem_ofPred_eq, ← h.applies_iff hload houtside,
    h.effect_iff hload (.inr rfl), h.table_none_iff hload, h.table_some_iff hload]

end ReadsAlike

/-! ## Documents that make no difference -/

/-- The column list of a document, as Rego reads it, and of its policy: there is one or
there is none, and it has the same of the columns. -/
structure ListsAlike (refs : Finset String) (doc : Json) (policy : Policy) : Prop where
  listed : (doc.get? "columns").any Rego.countPos = true ↔ policy.columns ≠ ∅
  mem : ∀ c ∈ refs, Json.str c ∈ ((doc.get? "columns").map Rego.items).getD [] ↔
    c ∈ policy.columns

/-- The document does the same to a request whichever side reads it: it closes one of the
tables, it opens the same ones, and if columns are referenced its list says the same of
them. -/
structure NoDifference (principal : Principal) (databaseId : String) (tables : List String)
    (refs : Finset String) (doc : Json) (policy : Policy) : Prop where
  closes : (∃ t ∈ tables, t ∈ Rego.denies (inputPrincipal principal) databaseId doc) ↔
    ∃ t ∈ tables, t ∈ policy.denies principal databaseId
  opens : ∀ t ∈ tables, t ∈ Rego.grants (inputPrincipal principal) databaseId doc ↔
    t ∈ policy.grants principal databaseId
  lists : refs.Nonempty → (∃ t ∈ tables, t ∈ policy.grants principal databaseId) →
    ListsAlike refs doc policy

section

variable {principal : Principal} {databaseId : String} {tables : List String}
  {refs : Finset String} {doc : Json} {policy : Policy}

omit [Python] in
/-- A document neither side applies makes no difference. -/
theorem Skipped.noDifference (h : Skipped principal databaseId doc policy) :
    NoDifference principal databaseId tables refs doc policy := by
  obtain ⟨hpython, hrego⟩ := h
  have happlies : ¬ Rego.applies (inputPrincipal principal) databaseId doc = true := by
    rw [hrego]
    exact Bool.false_ne_true
  exact {
    closes := ⟨fun ⟨_, _, h⟩ => absurd h.1 happlies, fun ⟨_, _, h⟩ => absurd h.1 hpython⟩
    opens := fun _ _ => ⟨fun h => absurd h.1 happlies, fun h => absurd h.1 hpython⟩
    lists := fun _ ⟨_, _, h⟩ => absurd h.1 hpython }

/-- A document whose fields are read alike makes no difference. -/
theorem ReadsAlike.noDifference (h : ReadsAlike principal doc) (hload : policy.LoadedFrom doc)
    (houtside : ∀ r ∈ principal.roles, Rego.roleHierarchy.get? r = none) :
    NoDifference principal databaseId tables refs doc policy where
  closes := by rw [h.denies_eq hload houtside]
  opens _ _ := by rw [h.grants_eq hload houtside]
  lists _ _ := {
    listed := by rw [ne_eq, h.columns_empty_iff hload, Bool.not_eq_false]
    mem := fun _ _ => (h.mem_columns_iff hload).symm }

end

/-! ## Agreement -/

variable {principal : Principal} {databaseId : String} {tables : List String}
  {refs : Finset String} {docs : List Json} {policies : List Policy}

/-- Corresponding documents and policies that make no difference. -/
abbrev Corresponding (principal : Principal) (databaseId : String) (tables : List String)
    (refs : Finset String) (docs : List Json) (policies : List Policy) : Prop :=
  List.Forall₂ (NoDifference principal databaseId tables refs) docs policies

omit [Python] in
/-- The request gets to the same tables. -/
theorem permits_iff (h : Corresponding principal databaseId tables refs docs policies) :
    (∀ t ∈ tables, t ∈ Rego.permitted (.arr docs) (inputPrincipal principal) databaseId) ↔
      ∀ t ∈ tables, t ∈ (PolicyEvaluator.ofPolicies policies).permitted principal databaseId := by
  have hopens : ∀ t ∈ tables, (∃ d ∈ docs, t ∈ Rego.grants (inputPrincipal principal) databaseId d) ↔
      ∃ p ∈ policies, t ∈ p.grants principal databaseId := fun t ht =>
    exists_mem_iff_of_forall₂ h fun _ _ hd => hd.opens t ht
  have hcloses : (∃ d ∈ docs, ∃ t ∈ tables,
      t ∈ Rego.denies (inputPrincipal principal) databaseId d) ↔
        ∃ p ∈ policies, ∃ t ∈ tables, t ∈ p.denies principal databaseId :=
    exists_mem_iff_of_forall₂ h fun _ _ hd => hd.closes
  simp only [Rego.permitted, PolicyEvaluator.permitted, mem_permitted, Rego.items]
  constructor
  · intro hpermits
    refine fun t ht => ⟨(hopens t ht).mp (hpermits t ht).1, fun p hp hdenied => ?_⟩
    obtain ⟨d, hd, t', ht', hclosed⟩ := hcloses.mpr ⟨p, hp, t, ht, hdenied⟩
    exact (hpermits t' ht').2 d hd hclosed
  · intro hpermits
    refine fun t ht => ⟨(hopens t ht).mpr (hpermits t ht).1, fun d hd hdenied => ?_⟩
    obtain ⟨p, hp, t', ht', hclosed⟩ := hcloses.mp ⟨d, hd, t, ht, hdenied⟩
    exact (hpermits t' ht').2 p hp hclosed

/-- The column checks agree. -/
theorem checkColumns_iff (h : Corresponding principal databaseId tables refs docs policies)
    (hpython : ∀ t ∈ tables, lower t = t) (hrego : ∀ t ∈ tables, Rego.lower t = t) :
    Rego.checkColumns (Rego.columnPolicies (Rego.evaluateAllows (.arr docs)
        (inputDoc principal databaseId tables refs)))
        (inputDoc principal databaseId tables refs).referencedColumns = true ↔
      ∀ c ∈ refs, Admits ((PolicyEvaluator.ofPolicies policies).whitelists principal databaseId
        tables) c := by
  set input := inputDoc principal databaseId tables refs with hinput
  have hrefs : ∀ c, c ∈ input.referencedColumns ↔ c ∈ refs := by
    intro c
    simp [hinput, inputDoc]
  rcases refs.eq_empty_or_nonempty with hempty | hsome
  · have hnone : input.referencedColumns = [] :=
      List.eq_nil_iff_forall_not_mem.mpr fun c hc => by
        rw [hrefs, hempty] at hc
        exact absurd hc (Finset.notMem_empty c)
    simp [Rego.checkColumns, hnone, hempty]
  have hallow : ∀ {d : Json}, d ∈ Rego.evaluateAllows (.arr docs) input ↔
      d ∈ docs ∧ ∃ t ∈ tables, t ∈ Rego.grants (inputPrincipal principal) databaseId d :=
    Rego.mem_evaluateAllows _ input hrego
  have htable : ∀ {p : Policy},
      p ∈ (PolicyEvaluator.ofPolicies policies).tablePolicies principal databaseId tables ↔
        p ∈ policies ∧ ∃ t ∈ tables, t ∈ p.grants principal databaseId := by
    intro p
    rw [PolicyEvaluator.mem_tablePolicies]
    refine and_congr_right fun _ => exists_congr fun t => and_congr_right fun ht => ?_
    rw [hpython t ht]
  -- a document with entries on one side has them on the other
  have hmatch : ∀ {P : Json → Prop} {Q : Policy → Prop},
      (∀ d p, ListsAlike refs d p → (P d ↔ Q p)) →
        ((∃ d ∈ Rego.evaluateAllows (.arr docs) input, P d) ↔
          ∃ p ∈ (PolicyEvaluator.ofPolicies policies).tablePolicies principal databaseId tables,
            Q p) := by
    intro P Q hPQ
    simp only [hallow, htable, and_assoc]
    refine exists_mem_iff_of_forall₂ h fun d p hno => ?_
    have hopens : (∃ t ∈ tables, t ∈ Rego.grants (inputPrincipal principal) databaseId d) ↔
        ∃ t ∈ tables, t ∈ p.grants principal databaseId :=
      exists_congr fun t => and_congr_right fun ht => hno.opens t ht
    rw [hopens]
    exact and_congr_right fun hgrants => hPQ d p (hno.lists hsome hgrants)
  have hlisted : ∀ c ∈ refs, Json.str c ∈ Rego.collect "columns" (Rego.columnPolicies
      (Rego.evaluateAllows (.arr docs) input)) ↔
        ∃ l ∈ (PolicyEvaluator.ofPolicies policies).whitelists principal databaseId tables,
          c ∈ l := by
    intro c hc
    have hstep := hmatch (P := fun d => (d.get? "columns").any Rego.countPos = true ∧
        Json.str c ∈ ((d.get? "columns").map Rego.items).getD []) (Q := fun p => c ∈ p.columns)
      fun d p halike => by
        rw [halike.listed, halike.mem c hc]
        exact ⟨fun h => h.2, fun h => ⟨Finset.ne_empty_of_mem h, h⟩⟩
    simp only [Rego.collect, Rego.columnPolicies, List.mem_flatMap, List.mem_filter, and_assoc,
      PolicyEvaluator.whitelists, List.mem_map, exists_exists_and_eq_and]
    exact hstep
  have hnone : Rego.columnPolicies (Rego.evaluateAllows (.arr docs) input) = [] ↔
      ∀ l ∈ (PolicyEvaluator.ofPolicies policies).whitelists principal databaseId tables,
        l = ∅ := by
    have hstep := hmatch (P := fun d => (d.get? "columns").any Rego.countPos = true)
      (Q := fun p => p.columns ≠ ∅) fun d p halike => halike.listed
    simp only [Rego.columnPolicies, List.filter_eq_nil_iff, PolicyEvaluator.whitelists,
      List.mem_map, forall_exists_index, and_imp, forall_apply_eq_imp_iff₂]
    have hneg := not_congr hstep
    push Not at hneg
    simpa using hneg
  rw [Rego.checkColumns]
  simp only [Bool.or_eq_true, List.isEmpty_iff, List.all_eq_true, Json.isIn_str_iff, hnone, hrefs]
  constructor
  · rintro ((hempty | hall) | hall) c hc
    · rw [← hrefs, hempty] at hc
      exact absurd hc List.not_mem_nil
    · exact .inl hall
    · exact .inr ((hlisted c hc).mp (hall c hc))
  · intro hadmits
    by_cases hall : ∀ l ∈ (PolicyEvaluator.ofPolicies policies).whitelists principal databaseId
        tables, l = ∅
    · exact .inl (.inr hall)
    · exact .inr fun c hc => (hlisted c hc).mpr ((hadmits c hc).resolve_left hall)

/-- The allow documents, as Rego reads them, that name one of the tables. -/
def namingAllows (docs : List Json) (principal : Principal) (databaseId : String)
    (tables : List String) : List Json :=
  docs.filter fun d =>
    Rego.applies (inputPrincipal principal) databaseId d && Rego.fieldIs d "effect" "allow" &&
      tables.any fun t => Rego.fieldIs d "table" t

omit [Python] in
theorem evaluateAllows_eq (hrego : ∀ t ∈ tables, Rego.lower t = t) :
    Rego.evaluateAllows (.arr docs) (inputDoc principal databaseId tables refs) =
      namingAllows docs principal databaseId tables := by
  refine List.filter_congr fun d _ => ?_
  have hmem : d ∈ Rego.evaluateAllows _ _ ↔ _ :=
    Rego.mem_evaluateAllows (.arr [d]) (inputDoc principal databaseId tables refs) hrego
  simp only [Rego.evaluateAllows, Rego.items, List.mem_filter, List.mem_singleton, true_and]
    at hmem
  rw [Bool.eq_iff_iff, hmem]
  simp only [Rego.grants, Set.mem_ofPred_eq, Bool.and_eq_true, Rego.fieldIs_iff, List.any_eq_true]
  constructor
  · rintro ⟨t, ht, ha, he, htable⟩
    exact ⟨⟨ha, he⟩, t, ht, htable⟩
  · rintro ⟨⟨ha, he⟩, t, ht, htable⟩
    exact ⟨t, ht, ha, he, htable⟩

/-- The row scopes can be merged, if it comes to that: of an admitted request no column is
given two attributes. -/
def ScopesAgree (docs : List Json) (policies : List Policy) (principal : Principal)
    (databaseId : String) (tables : List String) (refs : Finset String) : Prop :=
  (∀ t ∈ tables, t ∈ (PolicyEvaluator.ofPolicies policies).permitted principal databaseId) →
    (∀ c ∈ refs, Admits ((PolicyEvaluator.ofPolicies policies).whitelists principal databaseId
      tables) c) →
      Rego.consistent (Rego.scopePairs (namingAllows docs principal databaseId tables)) = true

omit [Python] [Rego.Opa] in
/-- A deny document with `"table": null` closes every table for Python and no
table for Rego. -/
theorem not_evaluatorsAgree_nullTable :
    letI := Python.ascii
    letI := Rego.Opa.ascii
    ¬ ∀ (docs : List Json) (policies : List Policy), docs.mapM Policy.fromDict = .ok policies →
      ∀ (principal : Principal) (databaseId : String) (tables : List String)
        (refs : Finset String),
        (∀ r ∈ principal.roles, Rego.roleHierarchy.get? r = none) →
        (∀ p ∈ policies, ∀ kv ∈ p.rowScope, principal.lacks kv.2 = false) →
        tables ≠ [] → (∀ t ∈ tables, lower t = t ∧ Rego.lower t = t) →
        (∀ c ∈ refs, lower c = c ∧ Rego.lower c = c) →
        EvaluatorsAgree docs policies principal databaseId tables refs := by
  intro h
  have hagree := h
    [.obj [("id", .str "p"), ("effect", .str "deny"), ("table", .null)],
      .obj [("id", .str "q"), ("effect", .str "allow"), ("table", .str "album")]]
    [{ id := "p", effect := "deny" }, { id := "q", table := some "album" }] (by rfl)
    ⟨"alice", "alice@corp.com", "tenant-a", ∅, []⟩ "db-a" ["album"] ∅ (by simp) (by decide)
    (by decide) (by decide) (by simp)
  have hallowed := hagree.mp (by
    simp only [inputDoc, inputPrincipal, Finset.sort_empty]
    exact ⟨_, rfl, by decide⟩)
  revert hallowed
  decide

/-- **Interchangeability**: over documents that make no difference to the request, the
evaluators answer alike exactly when the row scopes can be merged. -/
theorem evaluatorsAgree_iff (hload : docs.mapM Policy.fromDict = .ok policies)
    (hheld : ∀ p ∈ policies, ∀ kv ∈ p.rowScope, principal.lacks kv.2 = false)
    (hne : tables ≠ []) (hpython : ∀ t ∈ tables, lower t = t)
    (hrego : ∀ t ∈ tables, Rego.lower t = t)
    (hdocs : ∀ doc ∈ docs, ∀ policy, Policy.fromDict doc = .ok policy →
      NoDifference principal databaseId tables refs doc policy) :
    EvaluatorsAgree docs policies principal databaseId tables refs ↔
      ScopesAgree docs policies principal databaseId tables refs := by
  have hcorr : Corresponding principal databaseId tables refs docs policies :=
    ((List.forall₂_and_left _ _).mpr ⟨hdocs, Fallible.mapM_eq_ok_iff.mp hload⟩).imp
      fun _ policy ⟨hno, hpolicy⟩ => hno policy hpolicy
  -- the merged row scopes never stop Python
  have hattributes : ∀ kv ∈ PolicyEvaluator.mergeRowScopes
      ((PolicyEvaluator.ofPolicies policies).tablePolicies principal databaseId tables),
      principal.lacks kv.2 = false := by
    intro kv hkv
    obtain ⟨p, hp, hscope⟩ := mem_mergeRowScopes hkv
    exact hheld p (PolicyEvaluator.mem_tablePolicies.mp hp).1 kv hscope
  have hpasses : (PolicyEvaluator.ofPolicies policies).Passes principal databaseId tables refs ↔
      (∀ t ∈ tables, t ∈ (PolicyEvaluator.ofPolicies policies).permitted principal databaseId) ∧
        ∀ c ∈ refs, Admits ((PolicyEvaluator.ofPolicies policies).whitelists principal databaseId
          tables) c := by
    constructor
    · rintro ⟨-, hpermits, hadmits⟩
      refine ⟨fun t ht => ?_, hadmits⟩
      rw [← hpython t ht]
      exact hpermits t ht
    · rintro ⟨hpermits, hadmits⟩
      refine ⟨hne, fun t ht => ?_, hadmits⟩
      rw [hpython t ht]
      exact hpermits t ht
  rw [EvaluatorsAgree, PolicyEvaluator.evaluate_allowed_iff rfl,
    Rego.allows_evaluate_iff (inputDoc principal databaseId tables refs) hrego hne,
    checkColumns_iff hcorr hpython hrego, evaluateAllows_eq hrego, hpasses, ScopesAgree]
  have hpermits := permits_iff hcorr
  constructor
  · intro hagree ht hc
    exact (hagree.mpr ⟨⟨ht, hc⟩, hattributes⟩).2.2
  · intro hscopes
    constructor
    · rintro ⟨ht, hc, -⟩
      exact ⟨⟨hpermits.mp ht, hc⟩, hattributes⟩
    · rintro ⟨⟨ht, hc⟩, -⟩
      exact ⟨hpermits.mpr ht, hc, hscopes ht hc⟩

/-- An allow document in plain form. -/
def titleOfAlbum : Json :=
  .obj [("id", .str "q"), ("effect", .str "allow"), ("table", .str "album"),
    ("columns", .arr [.str "title"])]

omit [Python] [Rego.Opa] in
theorem fromDict_titleOfAlbum :
    letI := Python.ascii
    Policy.fromDict titleOfAlbum =
      .ok { id := "q", table := some "album", columns := {"title"} } := by
  rfl

theorem readsAlike_titleOfAlbum : ReadsAlike principal titleOfAlbum where
  org := .inl ⟨rfl, rfl⟩
  user := .inl ⟨rfl, rfl⟩
  database := by
    rw [show titleOfAlbum.get? "database_id" = none from rfl]
    simp
  roles := .inl rfl
  action := .inl ⟨rfl, rfl⟩
  effect := ⟨"allow", rfl, .inl rfl⟩
  table := .inr ⟨"album", rfl, by decide, by
    rw [Python.lower_ascii _ (ascii_of_all (by decide))]
    decide⟩
  columns := .inr ⟨["title"], rfl, by
    simp only [List.mem_singleton, forall_eq]
    rw [Python.lower_ascii _ (ascii_of_all (by decide))]
    decide⟩

/-- A deny document of another tenant, in capitals. -/
def otherTenant : Json :=
  .obj [("id", .str "o"), ("effect", .str "DENY"), ("org_id", .str "tenant-b")]

omit [Python] [Rego.Opa] in
theorem fromDict_otherTenant :
    letI := Python.ascii
    Policy.fromDict otherTenant =
      .ok { id := "o", effect := "deny", orgId := .str "tenant-b" } := by
  rfl

theorem skipped_otherTenant {databaseId : String} {policy : Policy}
    (hload : policy.LoadedFrom otherTenant) (horg : principal.orgId = "tenant-a") :
    Skipped principal databaseId otherTenant policy := by
  refine ⟨fun happlies => ?_, ?_⟩
  · have hbound := happlies.org
    have hwritten : (otherTenant.getD "org_id").or (otherTenant.getD "organisation_id") =
        .str "tenant-b" := rfl
    rw [hload.orgId, horg, hwritten] at hbound
    simp at hbound
  · rw [← Bool.not_eq_true, Rego.applies, inputPrincipal, horg]
    exact Bool.false_ne_true

omit [Python] [Rego.Opa] in
/-- The evaluators agree on `album`, under one column whitelist and beside a document that
neither of them applies. -/
theorem evaluatorsAgree_iff_album :
    letI := Python.ascii
    letI := Rego.Opa.ascii
    EvaluatorsAgree [titleOfAlbum, otherTenant]
        [{ id := "q", table := some "album", columns := {"title"} },
          { id := "o", effect := "deny", orgId := .str "tenant-b" }]
        ⟨"alice", "alice@corp.com", "tenant-a", ∅, []⟩ "db-a" ["album"] {"title"} ↔
      ScopesAgree [titleOfAlbum, otherTenant]
        [{ id := "q", table := some "album", columns := {"title"} },
          { id := "o", effect := "deny", orgId := .str "tenant-b" }]
        ⟨"alice", "alice@corp.com", "tenant-a", ∅, []⟩ "db-a" ["album"] {"title"} := by
  let _ := Python.ascii
  let _ := Rego.Opa.ascii
  refine evaluatorsAgree_iff (Fallible.mapM_eq_ok_iff.mpr (.cons fromDict_titleOfAlbum
    (.cons fromDict_otherTenant .nil))) (by decide) (by decide) (by decide) (by decide) ?_
  intro doc hdoc policy hpolicy
  have hload := Policy.loadedFrom_of_fromDict hpolicy
  rcases List.mem_cons.mp hdoc with rfl | hdoc
  · exact readsAlike_titleOfAlbum.noDifference hload (by simp)
  · obtain rfl := List.mem_singleton.mp hdoc
    exact (skipped_otherTenant hload rfl).noDifference

end DbGateway
