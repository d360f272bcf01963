import DbGateway.Dict
import DbGateway.Policy.Opa

/-!
# DbGateway.Policy.RowScopes

From the row scopes of the matching policies to the predicates of the
statement.  `evaluate` merges the scopes into one dictionary by column, and
`apply_row_restrictions` makes one predicate for each column it finds there, so
of two policies that scope a column by different attributes only the later one
is heard.
-/

namespace DbGateway

namespace PolicyEvaluator

open Sql

/-- The merged scopes have the columns of every policy. -/
theorem mem_keys_mergeRowScopes {policies : List Policy} {column : String} :
    column ∈ (mergeRowScopes policies).map Prod.fst ↔
      ∃ p ∈ policies, column ∈ p.rowScope.map Prod.fst := by
  have hgen : ∀ (policies : List Policy) (d : Dict String),
      column ∈ (policies.foldl (fun restrictions policy => restrictions.update policy.rowScope)
          d).map Prod.fst ↔
        column ∈ d.map Prod.fst ∨ ∃ p ∈ policies, column ∈ p.rowScope.map Prod.fst := by
    intro policies
    induction policies with
    | nil => simp
    | cons p policies ih =>
        intro d
        rw [List.foldl_cons, ih, Dict.mem_keys_update, or_assoc, List.exists_mem_cons_iff]
  rw [mergeRowScopes, hgen]
  simp

variable [Python]

/-- A matching allow policy that names a table. -/
structure Matching (principal : Principal) (databaseId : String) (tables : List String)
    (p : Policy) : Prop where
  allow : p.effect = "allow"
  named : p.table.isSome
  requested : ∃ t ∈ tables, p.matches_ principal databaseId t = true

/-- The restrictions put the predicate `column = <the attribute>` on the
statement. -/
def Imposes (principal : Principal) (restrictions : Dict String)
    (column subjectAttribute : String) : Prop :=
  ∃ resolved value, resolveRestrictions principal [] restrictions = .ok resolved ∧
    restrictionValue? principal subjectAttribute = some value ∧ (lower column, value) ∈ resolved

/-- No row restriction is lost: the decision imposes every entry of the row
scope of every matching policy. -/
def RowScopesKept (policies : List Policy) (principal : Principal) (databaseId : String)
    (tables : List String) (refs : Finset String) : Prop :=
  ∀ p ∈ policies, Matching principal databaseId tables p → ∀ scope ∈ p.rowScope,
    Imposes principal
      ((ofPolicies policies).evaluate principal databaseId tables refs).rowRestrictions
      scope.1 scope.2

/-- The principal carries every attribute the matching policies scope rows by,
and two that scope one column are the same to it. -/
def ScopesAgree (policies : List Policy) (principal : Principal) (databaseId : String)
    (tables : List String) : Prop :=
  ∀ p ∈ policies, Matching principal databaseId tables p → ∀ scope ∈ p.rowScope,
    (restrictionValue? principal scope.2).isSome ∧
      ∀ q ∈ policies, Matching principal databaseId tables q → ∀ scope' ∈ q.rowScope,
        lower scope'.1 = lower scope.1 →
          restrictionValue? principal scope'.2 = restrictionValue? principal scope.2

variable {policies : List Policy} {principal : Principal} {databaseId : String}
  {tables : List String} {refs : Finset String}

theorem mem_tablePolicies_iff_matching {p : Policy} :
    p ∈ (ofPolicies policies).tablePolicies principal databaseId tables ↔
      p ∈ policies ∧ Matching principal databaseId tables p := by
  simp only [tablePolicies, applicable, List.mem_filter, List.any_eq_true, Bool.and_eq_true,
    decide_eq_true_eq, and_assoc]
  refine and_congr_right fun _ => ?_
  constructor
  · rintro ⟨hmatch, hallow, hnamed⟩
    exact ⟨hallow, hnamed, hmatch⟩
  · rintro ⟨hallow, hnamed, hmatch⟩
    exact ⟨hmatch, hallow, hnamed⟩

/-- An allowed request is restricted by the merged scopes. -/
theorem rowRestrictions_of_allowed
    (hallowed :
      ((ofPolicies policies).evaluate principal databaseId tables refs).allowed = true) :
    ((ofPolicies policies).evaluate principal databaseId tables refs).rowRestrictions =
      mergeRowScopes ((ofPolicies policies).tablePolicies principal databaseId tables) := by
  have hpass := ((evaluate_allowed_iff rfl).mp hallowed).1
  rw [evaluate_of_passes rfl hpass] at hallowed ⊢
  dsimp only at hallowed ⊢
  split at hallowed
  · contradiction
  · rfl

/-- What restrictions impose for one column is one value. -/
theorem imposes_unique {restrictions : Dict String} {column column' a a' : String}
    (h : Imposes principal restrictions column a) (h' : Imposes principal restrictions column' a')
    (hcolumn : lower column' = lower column) :
    restrictionValue? principal a' = restrictionValue? principal a := by
  obtain ⟨resolved, value, hresolved, hvalue, hmem⟩ := h
  obtain ⟨resolved', value', hresolved', hvalue', hmem'⟩ := h'
  have hsame : resolved = resolved' := by simpa [hresolved] using hresolved'
  rw [hcolumn, ← hsame] at hmem'
  have hnodup : (resolved.map Prod.fst).Nodup := by
    by_cases hcarries : Carries principal restrictions
    · rw [resolveRestrictions_of_carries hcarries, Except.ok.injEq] at hresolved
      exact hresolved ▸ Dict.nodup_update (d := []) List.nodup_nil _
    · obtain ⟨message, herror⟩ := resolveRestrictions_of_not_carries hcarries []
      rw [herror] at hresolved
      contradiction
  have hget := (Dict.get?_eq_some_iff hnodup).mpr hmem
  rw [(Dict.get?_eq_some_iff hnodup).mpr hmem'] at hget
  rw [hvalue, hvalue', hget]

/-- Two policies for `album` that scope its rows by different attributes. -/
def twoOwners : List Policy :=
  [{ id := "own-rows", table := some "album", rowScope := [("owner", "user")] },
    { id := "org-rows", table := some "album", rowScope := [("owner", "org")] }]

omit [Python] in
/-- Only the predicate of the policy listed last is left. -/
theorem not_rowScopesKept_twoOwners :
    letI := Python.ascii
    ¬ ∀ (policies : List Policy) (principal : Principal) (databaseId : String)
      (tables : List String) (refs : Finset String),
      ((ofPolicies policies).evaluate principal databaseId tables refs).allowed = true →
        RowScopesKept policies principal databaseId tables refs := by
  let _ := Python.ascii
  intro h
  have hkept := h twoOwners ⟨"alice", "alice@corp.com", "tenant-a", ∅,
    [("user", .str "alice"), ("org", .str "tenant-a")]⟩ "db-a" ["album"] ∅ (by decide)
  have huser := hkept { id := "own-rows", table := some "album", rowScope := [("owner", "user")] }
    List.mem_cons_self ⟨rfl, rfl, "album", List.mem_cons_self, by decide⟩
    ("owner", "user") List.mem_cons_self
  have horg := hkept { id := "org-rows", table := some "album", rowScope := [("owner", "org")] }
    (List.mem_cons_of_mem _ List.mem_cons_self)
    ⟨rfl, rfl, "album", List.mem_cons_self, by decide⟩ ("owner", "org") List.mem_cons_self
  have hsame := imposes_unique huser horg rfl
  revert hsame
  decide

/-- Restrictions that are carried and agree impose each of them. -/
theorem imposes_of_agree {restrictions : Dict String} (hcarries : Carries principal restrictions)
    {column a a' : String}
    (hmem : (column, a') ∈ restrictions)
    (hagree : ∀ r ∈ restrictions, lower r.1 = lower column →
      restrictionValue? principal r.2 = restrictionValue? principal a) :
    Imposes principal restrictions column a := by
  obtain ⟨value, hvalue⟩ := Option.isSome_iff_exists.mp (hcarries _ hmem)
  have hpredicate : ∀ r ∈ restrictions, lower r.1 = lower column →
      (restrictionValue? principal r.2).getD "" = value := by
    intro r hr hcolumn
    rw [hagree r hr hcolumn, ← hagree _ hmem rfl, hvalue, Option.getD_some]
  refine ⟨_, value, resolveRestrictions_of_carries hcarries [], ?_,
    Dict.mem_update_of_mem (.inr ?_) fun predicate hp hcolumn => ?_⟩
  · rw [← hagree _ hmem rfl, hvalue]
  · exact List.mem_map.mpr ⟨_, hmem, by rw [hpredicate _ hmem rfl]⟩
  · obtain ⟨r, hr, rfl⟩ := List.mem_map.mp hp
    exact (hpredicate r hr hcolumn.symm).symm

/-- **What becomes of row scopes**: an allowed request gets every predicate its
matching policies ask for exactly when the principal carries their attributes
and they agree on the columns they share. -/
theorem rowScopesKept_iff (policies : List Policy) (principal : Principal) (databaseId : String)
    (tables : List String) (refs : Finset String)
    (hallowed :
      ((ofPolicies policies).evaluate principal databaseId tables refs).allowed = true) :
    RowScopesKept policies principal databaseId tables refs ↔
      ScopesAgree policies principal databaseId tables := by
  rw [RowScopesKept, rowRestrictions_of_allowed hallowed]
  constructor
  · intro hkept p hp hmatch scope hscope
    have himposes := hkept p hp hmatch scope hscope
    refine ⟨?_, fun q hq hmatch' scope' hscope' hcolumn =>
      imposes_unique himposes (hkept q hq hmatch' scope' hscope') hcolumn⟩
    obtain ⟨-, value, -, hvalue, -⟩ := himposes
    rw [hvalue]
    rfl
  · intro hagree p hp hmatch scope hscope
    have hsource : ∀ r ∈ mergeRowScopes
        ((ofPolicies policies).tablePolicies principal databaseId tables),
          ∃ q ∈ policies, Matching principal databaseId tables q ∧ r ∈ q.rowScope := by
      intro r hr
      obtain ⟨q, hq, hrq⟩ := mem_mergeRowScopes hr
      obtain ⟨hq, hmatch'⟩ := mem_tablePolicies_iff_matching.mp hq
      exact ⟨q, hq, hmatch', hrq⟩
    have hkey : scope.1 ∈ (mergeRowScopes
        ((ofPolicies policies).tablePolicies principal databaseId tables)).map Prod.fst :=
      mem_keys_mergeRowScopes.mpr ⟨p, mem_tablePolicies_iff_matching.mpr ⟨hp, hmatch⟩,
        List.mem_map_of_mem hscope⟩
    obtain ⟨merged, hmerged, hcolumn⟩ := List.mem_map.mp hkey
    have hmem : (scope.1, merged.2) ∈ mergeRowScopes
        ((ofPolicies policies).tablePolicies principal databaseId tables) := hcolumn ▸ hmerged
    refine imposes_of_agree (fun r hr => ?_) hmem fun r hr hsame => ?_
    · obtain ⟨q, hq, hmatch', hrq⟩ := hsource r hr
      exact (hagree q hq hmatch' r hrq).1
    · obtain ⟨q, hq, hmatch', hrq⟩ := hsource r hr
      exact (hagree p hp hmatch scope hscope).2 q hq hmatch' r hrq hsame

omit [Python] in
/-- With the same value of both attributes the later predicate is the earlier one. -/
theorem rowScopesKept_ownRows :
    letI := Python.ascii
    RowScopesKept twoOwners
      ⟨"alice", "alice@corp.com", "tenant-a", ∅, [("user", .str "alice"), ("org", .str "alice")]⟩
      "db-a" ["album"] ∅ := by
  let _ := Python.ascii
  let alice : Principal :=
    ⟨"alice", "alice@corp.com", "tenant-a", ∅, [("user", .str "alice"), ("org", .str "alice")]⟩
  have hvalue : ∀ p ∈ twoOwners, ∀ scope ∈ p.rowScope,
      restrictionValue? alice scope.2 = restrictionValue? alice "user" := by decide
  have hcarries : (restrictionValue? alice "user").isSome := by decide
  refine (rowScopesKept_iff twoOwners alice "db-a" ["album"] ∅ (by decide)).mpr
    fun p hp _ scope hscope => ?_
  rw [hvalue p hp scope hscope]
  exact ⟨hcarries, fun q hq _ scope' hscope' _ => hvalue q hq scope' hscope'⟩

end PolicyEvaluator

end DbGateway
