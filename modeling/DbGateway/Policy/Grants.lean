import DbGateway.Policy.Semantics

/-!
# DbGateway.Policy.Grants

What policies added to a list do to its decisions.

An inserted deny only takes away: where the longer list allows, the shorter one
made the same decision (`evaluate_inserted_denies`).  An inserted grant is not
only an addition, because the first column list turns "no list" into "these
columns": `evaluate_inserted_grant` says when it takes a request away.
-/

namespace DbGateway

open AccessControl

namespace PolicyEvaluator

variable {principal : Principal} {databaseId : String} {tables : List String}
  {refs : Finset String}

/-! ## Inserted denies -/

theorem grants_of_deny {p : Policy} (h : p.effect = "deny") :
    p.grants principal databaseId = ∅ := by
  ext t
  simp [Policy.grants, h]

theorem denies_of_allow {p : Policy} (h : p.effect = "allow") :
    p.denies principal databaseId = ∅ := by
  ext t
  simp [Policy.denies, h]

variable [Python]

/-- A deny closes a table exactly when it matches it. -/
theorem mem_denies_iff {p : Policy} (h : p.effect = "deny") {t : String} :
    lower t ∈ p.denies principal databaseId ↔ p.matches_ principal databaseId t = true := by
  rw [Policy.matches_iff]
  simp [Policy.denies, h]

/-- Denies are no grants: the policies a decision is made of stay the same. -/
theorem tablePolicies_inserted_denies {policies denies enlarged : List Policy}
    (h : Inserted policies denies enlarged) (hdeny : ∀ d ∈ denies, d.effect = "deny") :
    (ofPolicies enlarged).tablePolicies principal databaseId tables =
      (ofPolicies policies).tablePolicies principal databaseId tables := by
  unfold tablePolicies applicable
  rw [List.filter_filter, List.filter_filter]
  refine h.filter_eq fun d hd => ?_
  simp [hdeny d hd]

/-- Denies take away the requests on the tables they match, and no others. -/
theorem passes_inserted_denies {policies denies enlarged : List Policy}
    (h : Inserted policies denies enlarged) (hdeny : ∀ d ∈ denies, d.effect = "deny") :
    (ofPolicies enlarged).Passes principal databaseId tables refs ↔
      (ofPolicies policies).Passes principal databaseId tables refs ∧
        ∀ d ∈ denies, ∀ t ∈ tables, d.matches_ principal databaseId t = false := by
  have hpermits : ∀ {t}, lower t ∈ (ofPolicies enlarged).permitted principal databaseId ↔
      lower t ∈ (ofPolicies policies).permitted principal databaseId ∧
        ∀ d ∈ denies, d.matches_ principal databaseId t = false := by
    intro t
    unfold permitted
    rw [h.mem_permitted_of_denying fun d hd => grants_of_deny (hdeny d hd)]
    refine and_congr_right fun _ => forall₂_congr fun d hd => ?_
    rw [mem_denies_iff (hdeny d hd), Bool.not_eq_true]
  have hlists : (ofPolicies enlarged).whitelists principal databaseId tables =
      (ofPolicies policies).whitelists principal databaseId tables := by
    unfold whitelists
    rw [tablePolicies_inserted_denies h hdeny]
  constructor
  · intro hpass
    refine ⟨⟨hpass.nonempty, fun t ht => (hpermits.mp (hpass.permits t ht)).1, ?_⟩,
      fun d hd t ht => (hpermits.mp (hpass.permits t ht)).2 d hd⟩
    rw [← hlists]
    exact hpass.admits
  · intro ⟨hpass, hmatch⟩
    refine ⟨hpass.nonempty,
      fun t ht => hpermits.mpr ⟨hpass.permits t ht, fun d hd => hmatch d hd t ht⟩, ?_⟩
    rw [hlists]
    exact hpass.admits

/-- **Deny precedence**: where a list with denies inserted allows, none of them
matches a requested table, the list without them allows with the same
restrictions and masks, and each requested table is named by an allow policy of
its own. -/
theorem evaluate_inserted_denies {policies denies enlarged : List Policy}
    (h : Inserted policies denies enlarged) (hdeny : ∀ d ∈ denies, d.effect = "deny")
    (principal : Principal) (databaseId : String) (tables : List String) (refs : Finset String)
    (hallowed :
      ((ofPolicies enlarged).evaluate principal databaseId tables refs).allowed = true) :
    ((ofPolicies policies).evaluate principal databaseId tables refs).allowed = true ∧
      ((ofPolicies policies).evaluate principal databaseId tables refs).rowRestrictions =
        ((ofPolicies enlarged).evaluate principal databaseId tables refs).rowRestrictions ∧
      ((ofPolicies policies).evaluate principal databaseId tables refs).maskedColumns =
        ((ofPolicies enlarged).evaluate principal databaseId tables refs).maskedColumns ∧
      (∀ d ∈ denies, ∀ t ∈ tables, d.matches_ principal databaseId t = false) ∧
      ∀ t ∈ tables, ∃ p ∈ policies, p.effect = "allow" ∧ p.table = some (lower t) ∧
        p.matches_ principal databaseId t = true := by
  have hpass' := ((evaluate_allowed_iff rfl).mp hallowed).1
  obtain ⟨hpass, hmatch⟩ := (passes_inserted_denies h hdeny).mp hpass'
  have hsame : (ofPolicies policies).evaluate principal databaseId tables refs =
      (ofPolicies enlarged).evaluate principal databaseId tables refs := by
    rw [evaluate_of_passes rfl hpass, evaluate_of_passes rfl hpass',
      tablePolicies_inserted_denies h hdeny]
  rw [hsame]
  refine ⟨hallowed, rfl, rfl, hmatch, fun t ht => ?_⟩
  obtain ⟨p, hp, happlies, hallow, htable⟩ := (mem_permitted.mp (hpass.permits t ht)).1
  exact ⟨p, hp, hallow, htable, Policy.matches_iff.mpr ⟨happlies, .inr htable⟩⟩

omit [Python] in
/-- `album` is open to readers; the inserted deny closes `salaries`. -/
theorem evaluate_inserted_denies_album :
    letI := Python.ascii
    ((ofPolicies [{ id := "read-album", table := some "album" }]).evaluate
      ⟨"alice", "alice@corp.com", "tenant-a", ∅, []⟩ "db-a" ["Album"]).allowed = true :=
  letI := Python.ascii
  (evaluate_inserted_denies
    (.insert { id := "no-salaries", effect := "deny", table := some "salaries" }
      (.keep { id := "read-album", table := some "album" } .nil))
    (by decide) _ _ _ _ (by decide)).1

/-! ## An inserted grant -/

/-- Grants only add: an allow policy without a row scope, inserted anywhere,
takes no request away. -/
def GrantsOnlyAdd : Prop :=
  ∀ (pre post : List Policy) (a : Policy), a.effect = "allow" → a.rowScope = [] →
    ∀ (principal : Principal) (databaseId : String) (tables : List String)
      (refs : Finset String),
      ((ofPolicies (pre ++ post)).evaluate principal databaseId tables refs).allowed = true →
        ((ofPolicies (pre ++ a :: post)).evaluate principal databaseId tables refs).allowed = true

omit [Python] in
/-- `album` is open without a column list; a second grant lists `title`, and
`artist` is refused from then on. -/
theorem not_grantsOnlyAdd_album : ¬ @GrantsOnlyAdd Python.ascii := by
  intro h
  have hkept := h [{ id := "read-album", table := some "album" }] []
    { id := "read-title", table := some "album", columns := {"title"} } (by decide) rfl
    ⟨"alice", "alice@corp.com", "tenant-a", ∅, []⟩ "db-a" ["album"] {"artist"}
    (by decide)
  revert hkept
  decide

/-- A grant of a requested table takes a request away: it is the first to list
columns, and does not list all that are referenced. -/
def Narrows (policies : List Policy) (principal : Principal) (databaseId : String)
    (tables : List String) (refs : Finset String) (a : Policy) : Prop :=
  (∃ t ∈ tables, lower t ∈ a.grants principal databaseId) ∧
    (∀ p ∈ (ofPolicies policies).tablePolicies principal databaseId tables, p.columns = ∅) ∧
    a.columns ≠ ∅ ∧ ¬ refs ⊆ a.columns

/-- The policies a decision is made of, with an inserted policy among them or
not. -/
theorem tablePolicies_inserted {policies added enlarged : List Policy}
    (h : Inserted policies added enlarged) :
    Inserted ((ofPolicies policies).tablePolicies principal databaseId tables)
      ((ofPolicies added).tablePolicies principal databaseId tables)
      ((ofPolicies enlarged).tablePolicies principal databaseId tables) :=
  (h.filter _).filter _

theorem tablePolicies_singleton_of_grants {a : Policy}
    (h : ∃ t ∈ tables, lower t ∈ a.grants principal databaseId) :
    (ofPolicies [a]).tablePolicies principal databaseId tables = [a] := by
  have hmem : a ∈ (ofPolicies [a]).tablePolicies principal databaseId tables :=
    mem_tablePolicies.mpr ⟨List.mem_singleton_self a, h⟩
  have hsub : List.Sublist ((ofPolicies [a]).tablePolicies principal databaseId tables) [a] :=
    List.filter_sublist.trans List.filter_sublist
  cases List.sublist_singleton.mp hsub with
  | inl hnil =>
      rw [hnil] at hmem
      exact absurd hmem List.not_mem_nil
  | inr hsingle => exact hsingle

theorem tablePolicies_singleton_of_not_grants {a : Policy}
    (h : ¬ ∃ t ∈ tables, lower t ∈ a.grants principal databaseId) :
    (ofPolicies [a]).tablePolicies principal databaseId tables = [] := by
  refine List.eq_nil_iff_forall_not_mem.mpr fun p hp => ?_
  obtain ⟨hpa, hgrants⟩ := mem_tablePolicies.mp hp
  rw [List.mem_singleton.mp hpa] at hgrants
  exact h hgrants

/-- Where the list without the grant passes, the list with it passes unless
the grant narrows the request. -/
theorem passes_inserted_grant {policies enlarged : List Policy} {a : Policy}
    (h : Inserted policies [a] enlarged) (hallow : a.effect = "allow")
    (hpass : (ofPolicies policies).Passes principal databaseId tables refs) :
    (ofPolicies enlarged).Passes principal databaseId tables refs ↔
      ¬ Narrows policies principal databaseId tables refs a := by
  have hpermits : ∀ t ∈ tables, lower t ∈ (ofPolicies enlarged).permitted principal databaseId := by
    intro t ht
    refine h.permitted_subset_of_granting (fun p hp => ?_) (hpass.permits t ht)
    rw [List.mem_singleton.mp hp]
    exact denies_of_allow hallow
  have hiff : (ofPolicies enlarged).Passes principal databaseId tables refs ↔
      ∀ c ∈ refs, Admits ((ofPolicies enlarged).whitelists principal databaseId tables) c :=
    ⟨fun hp => hp.admits, fun hadmits => ⟨hpass.nonempty, hpermits, hadmits⟩⟩
  have hinserted : Inserted ((ofPolicies policies).tablePolicies principal databaseId tables)
      ((ofPolicies [a]).tablePolicies principal databaseId tables)
      ((ofPolicies enlarged).tablePolicies principal databaseId tables) :=
    tablePolicies_inserted h
  rw [hiff]
  by_cases hgrants : ∃ t ∈ tables, lower t ∈ a.grants principal databaseId
  · rw [tablePolicies_singleton_of_grants hgrants] at hinserted
    rw [whitelists, (hinserted.map (·.columns)).forall_admits_iff hpass.admits]
    simp only [Narrows, hgrants, true_and, not_and_or, not_not, not_forall, exists_prop,
      List.mem_map, exists_exists_and_eq_and, ne_eq]
    rw [← or_assoc, or_comm]
  · rw [tablePolicies_singleton_of_not_grants hgrants] at hinserted
    have hnarrows : ¬ Narrows policies principal databaseId tables refs a := fun hn => hgrants hn.1
    rw [whitelists, hinserted.eq_of_nil]
    exact iff_of_true hpass.admits hnarrows

omit [Python] in
/-- Without a row scope the grant leaves the merged scopes as they are. -/
theorem mergeRowScopes_inserted {policies enlarged : List Policy} {added : List Policy}
    (h : Inserted policies added enlarged) (hscope : ∀ p ∈ added, p.rowScope = []) :
    mergeRowScopes enlarged = mergeRowScopes policies := by
  refine h.foldl_eq (fun p hp restrictions => ?_) []
  rw [hscope p hp]
  rfl

/-- **What a grant adds and takes away**: a request that passes without the
grant passes with it, exactly unless the grant narrows it. -/
theorem evaluate_inserted_grant (pre post : List Policy) (a : Policy) (hallow : a.effect = "allow")
    (hscope : a.rowScope = []) (principal : Principal) (databaseId : String)
    (tables : List String) (refs : Finset String)
    (hallowed :
      ((ofPolicies (pre ++ post)).evaluate principal databaseId tables refs).allowed = true) :
    ((ofPolicies (pre ++ a :: post)).evaluate principal databaseId tables refs).allowed = true ↔
      ¬ Narrows (pre ++ post) principal databaseId tables refs a := by
  have hinserted := inserted_singleton pre post a
  obtain ⟨hpass, hcarried⟩ := (evaluate_allowed_iff rfl).mp hallowed
  have hscopes : mergeRowScopes
      ((ofPolicies (pre ++ a :: post)).tablePolicies principal databaseId tables) =
        mergeRowScopes ((ofPolicies (pre ++ post)).tablePolicies principal databaseId tables) := by
    refine mergeRowScopes_inserted (tablePolicies_inserted hinserted) fun p hp => ?_
    rw [List.mem_singleton.mp (mem_tablePolicies.mp hp).1]
    exact hscope
  rw [evaluate_allowed_iff rfl, hscopes, passes_inserted_grant hinserted hallow hpass]
  exact and_iff_left hcarried

omit [Python] in
/-- A further grant of `album` that lists what is read. -/
theorem evaluate_inserted_grant_album :
    letI := Python.ascii
    ((ofPolicies [{ id := "read-album", table := some "album" },
      { id := "read-title", table := some "album", columns := {"title"} }]).evaluate
        ⟨"alice", "alice@corp.com", "tenant-a", ∅, []⟩ "db-a" ["album"] {"title"}).allowed =
      true :=
  letI := Python.ascii
  (evaluate_inserted_grant [{ id := "read-album", table := some "album" }] []
    { id := "read-title", table := some "album", columns := {"title"} } (by decide) rfl
    _ _ _ _ (by decide)).mpr fun h => h.2.2.2 (by decide)

end PolicyEvaluator

end DbGateway
