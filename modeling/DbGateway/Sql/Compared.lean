import DbGateway.Sql.Allowlist
import DbGateway.Sql.Masking
import DbGateway.Sql.Walks

/-!
# DbGateway.Sql.Compared

The columns the checker compares with a column allowlist, before and after the
rewriting.

They are the columns below the projections of a `SELECT`; where it finds none, or
the statement is a set operation, the checker takes the names it scans from the
tokens of a select list.  The rewriting can add a column (of a row predicate in a
subquery of the select list) and it can leave none, so that names are scanned
which were not before (`ShowsColumns` says when it does neither).
-/

namespace DbGateway.Sql

open DefaultSqlSafetyChecker

/-! ## Select lists -/

/-- The projections whose names are scanned: those of the first `SELECT` outside
parentheses, and of the next ones as long as no `FROM` or set operator ends the scan, which
`UNION ALL`, as one token, does not. -/
def Query.scanned : Query → List Projection × Bool
  | .select _ expressions from_ _ _ _ _ _ _ => (expressions, from_.isSome)
  | .setOperation op all l r _ _ =>
      if l.scanned.2 || (!l.scanned.1.isEmpty && !(op = .union && all)) then (l.scanned.1, true)
      else (l.scanned.1 ++ r.scanned.1, r.scanned.2)
  | .with_ _ _ q => q.scanned
  | .subquery _ => ([], false)

theorem Projection.rewriteList_eq_map (w : Rewriting) (ps : List Projection) :
    Projection.rewriteList w ps = ps.map (Projection.rewrite w) := by
  induction ps with
  | nil => rfl
  | cons p ps ih => rw [Projection.rewriteList, ih, List.map_cons]

theorem Projection.mem_walkList {ps : List Projection} {node : Node} :
    node ∈ Projection.walkList ps ↔ ∃ p ∈ ps, node ∈ p.walk := by
  induction ps with
  | nil => simp [Projection.walkList]
  | cons p ps ih => simp [Projection.walkList, ih]

theorem Query.rootSelects_rewrite (w : Rewriting) (q : Query) :
    (q.rewrite w).rootSelects = q.rootSelects.map (Projection.rewriteList w) := by
  cases q with
  | with_ recursive ctes q => exact q.rootSelects_rewrite w
  | _ => rfl

theorem Query.scanned_rewrite (w : Rewriting) (q : Query) :
    (q.rewrite w).scanned = (Projection.rewriteList w q.scanned.1, q.scanned.2) := by
  cases q with
  | select distinct expressions from_ => cases from_ <;> rfl
  | setOperation op all l r =>
      have hempty : (Projection.rewriteList w l.scanned.1).isEmpty = l.scanned.1.isEmpty := by
        rw [Projection.rewriteList_eq_map, List.isEmpty_map]
      rw [Query.rewrite, Query.scanned, Query.scanned, l.scanned_rewrite w, r.scanned_rewrite w,
        hempty]
      split
      · rfl
      · simp only [Projection.rewriteList_eq_map, List.map_append]
  | with_ recursive ctes q => exact q.scanned_rewrite w
  | subquery q => rfl

theorem Query.scanned_of_rootSelects {ps : List Projection} : ∀ q : Query,
    q.rootSelects = some ps → q.scanned.1 = ps
  | .select _ _ _ _ _ _ _ _ _, h => Option.some.inj h
  | .with_ _ _ q, h => q.scanned_of_rootSelects h
  | .setOperation _ _ _ _ _ _, h => by cases h
  | .subquery _, h => by cases h

section

variable [Python]

/-! ## What the rewriting leaves -/

/-- A row predicate goes to the condition of the `SELECT`. -/
def Clause.isScoped (c : Clause) : Bool := !(qualifiers c.from_ c.joins).isEmpty

/-- No row predicate goes into a subquery of these projections. -/
def Unscoped (restrictions : Dict String) (ps : List Projection) : Prop :=
  restrictions = [] ∨ ∀ c ∈ Projection.clausesList ps, c.isScoped = false

/-- The names that `rewrite_masked_columns` looks for. -/
def isNulled (maskedColumns : Finset String) (n : Identifier) : Bool :=
  decide (lower n.name ∈ loweredColumns maskedColumns)

/-- No column of these projections is masked. -/
def Unmasked (maskedColumns : Finset String) (ps : List Projection) : Prop :=
  ∀ t n, Node.column t n ∈ Projection.walkList ps → isNulled maskedColumns n = false

/-- Some column of these projections is not masked. -/
def SomeUnmasked (maskedColumns : Finset String) (ps : List Projection) : Prop :=
  ∃ t n, Node.column t n ∈ Projection.walkList ps ∧ isNulled maskedColumns n = false

/-- No star stands in a restricted column or in a value it is restricted to. -/
def Starless (predicates : List (String × String)) : Prop :=
  ∀ cv ∈ predicates, '*' ∉ cv.1.toList ∧ '*' ∉ cv.2.toList

/-- The rewriting leaves the checker what it compares.  In a `SELECT`, no row predicate
goes into its select list, and there a column stays if one was masked.  Of another
statement, nothing is masked in the select list that is scanned, and if row predicates go
there, they have no star. -/
def ShowsColumns (decision : PolicyDecision) (principal : Principal) (q : Query) : Prop :=
  match q.rootSelects with
  | some ps => Unscoped decision.rowRestrictions ps ∧
      (Unmasked decision.maskedColumns ps ∨ SomeUnmasked decision.maskedColumns ps)
  | none => Unmasked decision.maskedColumns q.scanned.1 ∧
      (Unscoped decision.rowRestrictions q.scanned.1 ∨
        Starless (restrictionPredicates principal decision.rowRestrictions))

variable [Sqlglot]

/-- The second select list differs from the first in the conditions of its subqueries
only, and these have got no star. -/
def SameSelectList (ps ps' : List Projection) : Prop :=
  ∃ (resolved : Dict String) (nulled : Identifier → Bool),
    ps' = Projection.rewriteList (nullColumns nulled) (Projection.rewriteList (rowScope resolved) ps) ∧
      (∀ t n, Node.column t n ∈ Projection.walkList ps → nulled n = false) ∧
        (Unscoped resolved ps ∨ Starless resolved)

/-- A select list without scoped subqueries stays as it is. -/
theorem rewriteList_rowScope_of_unscoped {resolved : Dict String} {ps : List Projection}
    (h : Unscoped resolved ps) : Projection.rewriteList (rowScope resolved) ps = ps := by
  refine Projection.rewriteList_of_leaves ps ⟨fun _ _ _ => rfl, fun c hc => ?_⟩
  have hnone : scopePredicates resolved c.from_ c.joins = [] := by
    rcases h with rfl | h
    · rfl
    · have hqualifiers : qualifiers c.from_ c.joins = [] := by
        simpa [Clause.isScoped] using h c hc
      rw [scopePredicates, hqualifiers]
      exact List.flatMap_eq_nil_iff.mpr fun _ _ => rfl
  rw [where_rowScope, hnone]
  rfl

/-! ## Columns of a select list -/

omit [Sqlglot] in
/-- A column below a projection is selected. -/
theorem selected_of_walk {ps : List Projection} {t : Option Identifier} {n : Identifier}
    (h : Node.column t n ∈ Projection.walkList ps) :
    (lower (orStar (t.map Identifier.name)), lower n.name) ∈
      ps.flatMap Projection.selectedColumns := by
  obtain ⟨p, hp, hnode⟩ := Projection.mem_walkList.mp h
  refine List.mem_flatMap.mpr ⟨p, hp, ?_⟩
  cases p with
  | star => exact absurd hnode List.not_mem_nil
  | tableStar _ => exact List.mem_filterMap.mpr ⟨_, hnode, rfl⟩
  | item _ _ => exact List.mem_filterMap.mpr ⟨_, hnode, rfl⟩

omit [Python] [Sqlglot] in
theorem Projection.rewrite_nullColumns_ne_star (nulled : Identifier → Bool) {p : Projection}
    (h : p.rewrite (nullColumns nulled) = .star) : p = .star := by
  cases p with
  | star => rfl
  | tableStar t =>
      rw [Projection.rewrite] at h
      split at h <;> cases h
  | item e as_ =>
      cases e with
      | column t n =>
          cases as_ with
          | none =>
              rw [Projection.rewrite] at h
              split at h <;> cases h
          | some a => cases h
      | _ => cases as_ <;> cases h

omit [Sqlglot] in
/-- Masking selects no other column. -/
theorem selectedColumns_nullColumns (nulled : Identifier → Bool) (p : Projection) :
    (p.rewrite (nullColumns nulled)).selectedColumns ⊆ p.selectedColumns := by
  intro s hs
  have hwalk := p.walk_nullColumns nulled
  -- a projection other than a star selects what its nodes say
  have hnodes : ∀ p : Projection, p ≠ .star →
      p.selectedColumns = p.walk.filterMap Node.selectedColumn? := by
    intro p hp
    cases p with
    | star => exact absurd rfl hp
    | tableStar _ => rfl
    | item _ _ => rfl
  by_cases hstar : p = .star
  · rw [hstar] at hs ⊢
    exact hs
  · rw [hnodes _ fun h => hstar (p.rewrite_nullColumns_ne_star nulled h), hwalk] at hs
    obtain ⟨node, hnode, hselected⟩ := List.mem_filterMap.mp hs
    rw [hnodes p hstar]
    exact List.mem_filterMap.mpr ⟨node, (List.mem_filter.mp hnode).1, hselected⟩

omit [Sqlglot] in
theorem selectedColumns_rewriteList_subset (nulled : Identifier → Bool) (ps : List Projection) :
    (Projection.rewriteList (nullColumns nulled) ps).flatMap Projection.selectedColumns ⊆
      ps.flatMap Projection.selectedColumns := by
  intro s hs
  rw [Projection.rewriteList_eq_map, List.flatMap_map] at hs
  obtain ⟨p, hp, hs⟩ := List.mem_flatMap.mp hs
  exact List.mem_flatMap.mpr ⟨p, hp, selectedColumns_nullColumns nulled p hs⟩

omit [Sqlglot] in
/-- If one column is not masked, one is selected. -/
theorem selectedColumns_rewriteList_ne_nil {maskedColumns : Finset String}
    {ps : List Projection} (h : SomeUnmasked maskedColumns ps) :
    (Projection.rewriteList (nullColumns (isNulled maskedColumns)) ps).flatMap
      Projection.selectedColumns ≠ [] := by
  obtain ⟨t, n, hnode, hstays⟩ := h
  obtain ⟨p, hp, hnode⟩ := Projection.mem_walkList.mp hnode
  refine List.ne_nil_of_mem (selected_of_walk (t := t) (n := n)
    (Projection.mem_walkList.mpr ⟨p.rewrite (nullColumns (isNulled maskedColumns)), ?_, ?_⟩))
  · rw [Projection.rewriteList_eq_map]
    exact List.mem_map_of_mem hp
  · rw [p.walk_nullColumns]
    exact List.mem_filter.mpr ⟨hnode, by simp [Node.stays, hstays]⟩

omit [Sqlglot] in
/-- Where no column of the select list is masked, nulling changes nothing of it. -/
theorem rewriteList_nullColumns_of_unmasked {maskedColumns : Finset String}
    {ps : List Projection} (h : Unmasked maskedColumns ps) :
    Projection.rewriteList (nullColumns (isNulled maskedColumns)) ps = ps := by
  refine Projection.rewriteList_of_leaves ps ⟨fun t n hnode => ?_, fun _ _ => rfl⟩
  simp [nullColumns, h t n hnode]

end

end DbGateway.Sql
