import DbGateway.Sql.RowScope

/-!
# DbGateway.Sql.Walks

The nodes of a rewritten tree.

A rewriting changes columns and conditions.  What it does to the nodes of one
column and of one condition, it does to the nodes of a statement
(`Query.filter_walk_rewrite`): tables and common table expressions stay, and
where columns become `NULL` the other columns stay as well.
-/

namespace DbGateway.Sql

def Node.isColumn : Node → Bool
  | .column _ _ => true
  | _ => false

/-- The nodes one test finds after the rewriting are those another one finds before. -/
structure Rewriting.Filters (w : Rewriting) (before after : Node → Bool) : Prop where
  column : ∀ t n, ((w.column t n).getD (.column t n)).walk.filter after =
    [Node.column t n].filter before
  where_ : ∀ from_ joins where_ rewritten,
    (Expr.walkOption rewritten).filter after = (Expr.walkOption where_).filter before →
      (Expr.walkOption (w.where_ from_ joins rewritten)).filter after =
        (Expr.walkOption where_).filter before
  other : ∀ node, node.isColumn = false → after node = before node

section

variable {w : Rewriting} {before after : Node → Bool}

theorem Rewriting.Filters.of_some (hw : w.Filters before after) {t : Option Identifier}
    {n : Identifier} {e : Expr} (he : w.column t n = some e) :
    e.walk.filter after = [Node.column t n].filter before := by
  have hcolumn := hw.column t n
  rwa [he] at hcolumn

theorem Rewriting.Filters.of_none (hw : w.Filters before after) {t : Option Identifier}
    {n : Identifier} (he : w.column t n = none) :
    [Node.column t n].filter after = [Node.column t n].filter before := by
  have hcolumn := hw.column t n
  rwa [he] at hcolumn

theorem Rewriting.Filters.table (hw : w.Filters before after) (db : Option Identifier)
    (name : Identifier) : [Node.table db name].filter after = [Node.table db name].filter before := by
  rw [List.filter_singleton, List.filter_singleton, hw.other _ rfl]

theorem Rewriting.Filters.cte (hw : w.Filters before after) (name : Identifier) {nodes nodes' : List Node}
    (h : nodes'.filter after = nodes.filter before) :
    (Node.cte name :: nodes').filter after = (Node.cte name :: nodes).filter before := by
  rw [List.filter_cons, List.filter_cons, hw.other _ rfl, h]

mutual

theorem Expr.filter_walk_rewrite (hw : w.Filters before after) : ∀ e : Expr,
    (e.rewrite w).walk.filter after = e.walk.filter before
  | .column t n => hw.column t n
  | .literal _ => rfl
  | .func _ args => Expr.filter_walk_rewriteList hw args
  | .eq l r => by
      simp only [Expr.rewrite, Expr.walk, List.filter_append, l.filter_walk_rewrite hw,
        r.filter_walk_rewrite hw]
  | .and_ l r => by
      simp only [Expr.rewrite, Expr.walk, List.filter_append, l.filter_walk_rewrite hw,
        r.filter_walk_rewrite hw]
  | .aggregate _ args => Expr.filter_walk_rewriteList hw args
  | .scalar q => q.filter_walk_rewrite hw
  | .exists_ q => q.filter_walk_rewrite hw
  | .in_ e q => by
      simp only [Expr.rewrite, Expr.walk, List.filter_append, e.filter_walk_rewrite hw,
        q.filter_walk_rewrite hw]

theorem Expr.filter_walk_rewriteList (hw : w.Filters before after) : ∀ es : List Expr,
    (Expr.walkList (Expr.rewriteList w es)).filter after = (Expr.walkList es).filter before
  | [] => rfl
  | e :: es => by
      simp only [Expr.rewriteList, Expr.walkList, List.filter_append, e.filter_walk_rewrite hw,
        Expr.filter_walk_rewriteList hw es]

theorem Expr.filter_walk_rewriteOption (hw : w.Filters before after) : ∀ e : Option Expr,
    (Expr.walkOption (Expr.rewriteOption w e)).filter after = (Expr.walkOption e).filter before
  | none => rfl
  | some e => e.filter_walk_rewrite hw

theorem Projection.filter_walk_rewrite (hw : w.Filters before after) : ∀ p : Projection,
    (p.rewrite w).walk.filter after = p.walk.filter before
  | .star => rfl
  | .tableStar t => by
      rw [Projection.rewrite]
      split
      · next e he => exact hw.of_some he
      · next he => exact hw.of_none he
  | .item e as_ => by
      have he := e.filter_walk_rewrite hw
      cases e with
      | column t n =>
          cases as_ with
          | none =>
              rw [Projection.rewrite]
              split
              · next e he => exact hw.of_some he
              · next he => exact hw.of_none he
          | some a => rw [Projection.rewrite]; exact he; exact fun _ => nofun
      | _ => cases as_ <;> rw [Projection.rewrite] <;> first | exact he | nofun

theorem Projection.filter_walk_rewriteList (hw : w.Filters before after) :
    ∀ ps : List Projection, (Projection.walkList (Projection.rewriteList w ps)).filter after =
      (Projection.walkList ps).filter before
  | [] => rfl
  | p :: ps => by
      simp only [Projection.rewriteList, Projection.walkList, List.filter_append,
        p.filter_walk_rewrite hw, Projection.filter_walk_rewriteList hw ps]

/-- **What a rewriting does to the nodes** of a column and of a condition, it does to the
nodes of a statement. -/
theorem Query.filter_walk_rewrite (hw : w.Filters before after) : ∀ q : Query,
    (q.rewrite w).walk.filter after = q.walk.filter before
  | .select _ expressions from_ joins where_ group having order _ => by
      have hwhere := hw.where_ from_ joins where_ _ (Expr.filter_walk_rewriteOption hw where_)
      simp only [Query.rewrite, Query.walk, List.filter_append, hwhere,
        Projection.filter_walk_rewriteList hw expressions,
        Source.filter_walk_rewriteOption hw from_, Join.filter_walk_rewriteList hw joins,
        Expr.filter_walk_rewriteList hw group, Expr.filter_walk_rewriteOption hw having,
        Expr.filter_walk_rewriteList hw order]
  | .setOperation _ _ l r order _ => by
      simp only [Query.rewrite, Query.walk, List.filter_append, l.filter_walk_rewrite hw,
        r.filter_walk_rewrite hw, Expr.filter_walk_rewriteList hw order]
  | .with_ _ ctes q => by
      simp only [Query.rewrite, Query.walk, List.filter_append,
        Cte.filter_walk_rewriteList hw ctes, q.filter_walk_rewrite hw]
  | .subquery q => q.filter_walk_rewrite hw

theorem Cte.filter_walk_rewriteList (hw : w.Filters before after) : ∀ cs : List Cte,
    (Cte.walkList (Cte.rewriteList w cs)).filter after = (Cte.walkList cs).filter before
  | [] => rfl
  | .cte name _ q :: cs => by
      simp only [Cte.rewriteList, Cte.walkList, Cte.walk, List.filter_append,
        hw.cte name (q.filter_walk_rewrite hw), Cte.filter_walk_rewriteList hw cs]

theorem Source.filter_walk_rewrite (hw : w.Filters before after) : ∀ s : Source,
    (s.rewrite w).walk.filter after = s.walk.filter before
  | .table db name _ => hw.table db name
  | .derived q _ => q.filter_walk_rewrite hw
  | .paren s joins _ => by
      simp only [Source.rewrite, Source.walk, List.filter_append, s.filter_walk_rewrite hw,
        Join.filter_walk_rewriteList hw joins]

theorem Source.filter_walk_rewriteOption (hw : w.Filters before after) : ∀ s : Option Source,
    (Source.walkOption (Source.rewriteOption w s)).filter after =
      (Source.walkOption s).filter before
  | none => rfl
  | some s => s.filter_walk_rewrite hw

theorem Join.filter_walk_rewriteList (hw : w.Filters before after) : ∀ js : List Join,
    (Join.walkList (Join.rewriteList w js)).filter after = (Join.walkList js).filter before
  | [] => rfl
  | .join _ s on _ :: js => by
      simp only [Join.rewriteList, Join.walkList, Join.walk, List.filter_append,
        s.filter_walk_rewrite hw, Expr.filter_walk_rewriteOption hw on,
        Join.filter_walk_rewriteList hw js]

end

end

/-! ## Tables -/

/-- The tables and common table expressions among some nodes. -/
def tableNodes (nodes : List Node) : List Node := nodes.filter fun node => !node.isColumn

/-- A rewriting that only deals in columns. -/
abbrev Rewriting.KeepsTables (w : Rewriting) : Prop :=
  w.Filters (fun node => !node.isColumn) fun node => !node.isColumn

theorem Query.tableNodes_rewrite {w : Rewriting} (hw : w.KeepsTables) (q : Query) :
    tableNodes (q.rewrite w).walk = tableNodes q.walk :=
  q.filter_walk_rewrite hw

/-- A predicate of a scope is about columns. -/
theorem tableNodes_addPredicates (where_ : Option Expr) {predicates : List Expr}
    (h : ∀ p ∈ predicates, tableNodes p.walk = []) :
    tableNodes (Expr.walkOption (addPredicates where_ predicates)) =
      tableNodes (Expr.walkOption where_) := by
  induction predicates generalizing where_ with
  | nil => rfl
  | cons p predicates ih =>
      obtain ⟨hp, hrest⟩ := List.forall_mem_cons.mp h
      rw [addPredicates, List.foldl_cons, ← addPredicates, ih _ hrest]
      cases where_ with
      | none => exact hp
      | some e =>
          show tableNodes (e.walk ++ p.walk) = tableNodes e.walk
          rw [tableNodes, List.filter_append, ← tableNodes, ← tableNodes, hp, List.append_nil]

theorem keepsTables_rowScope [Python] [Sqlglot] (resolved : Dict String) :
    (rowScope resolved).KeepsTables where
  column _ _ := rfl
  where_ from_ joins where_ rewritten hrewritten := by
    refine (tableNodes_addPredicates rewritten fun p hp => ?_).trans hrewritten
    obtain ⟨cv, -, hp⟩ := List.mem_flatMap.mp hp
    obtain ⟨q, -, rfl⟩ := List.mem_map.mp hp
    rfl
  other _ _ := rfl

/-! ## Columns that become `NULL` -/

/-- A node that stays. -/
def Node.stays (nulled : Identifier → Bool) : Node → Bool
  | .column _ n => !nulled n
  | .table _ _ => true
  | .cte _ => true

/-- The columns that are not nulled stay, and all other nodes. -/
theorem filters_nullColumns (nulled : Identifier → Bool) :
    (nullColumns nulled).Filters (Node.stays nulled) fun _ => true where
  column t n := by
    cases h : nulled n with
    | true => simp [nullColumns, h, Expr.walk, Node.stays]
    | false => simp [nullColumns, h, Expr.walk, Node.stays]
  where_ _ _ _ _ h := h
  other node h := by
    cases node with
    | column _ _ => contradiction
    | table _ _ => rfl
    | cte _ => rfl

theorem Projection.walk_nullColumns (nulled : Identifier → Bool) (p : Projection) :
    (p.rewrite (nullColumns nulled)).walk = p.walk.filter (Node.stays nulled) := by
  have h := p.filter_walk_rewrite (filters_nullColumns nulled)
  rwa [List.filter_true] at h

theorem keepsTables_nullColumns (nulled : Identifier → Bool) :
    (nullColumns nulled).KeepsTables where
  column t n := by
    cases h : nulled n with
    | true => simp [nullColumns, h, Expr.walk, Node.isColumn]
    | false => simp [nullColumns, h, Expr.walk, Node.isColumn]
  where_ _ _ _ _ h := h
  other _ _ := rfl

/-! ## What is asked of the tables -/

theorem filterMap_tableNodes {β : Type} {f : Node → Option β} (h : ∀ t n, f (.column t n) = none)
    (nodes : List Node) : (tableNodes nodes).filterMap f = nodes.filterMap f := by
  rw [tableNodes, List.filterMap_filter]
  refine List.filterMap_congr fun node _ => ?_
  cases node with
  | column t n => exact (h t n).symm
  | table _ _ => rfl
  | cte _ => rfl

theorem all_tableNodes {p : Node → Bool} (h : ∀ t n, p (.column t n) = true)
    (nodes : List Node) : (tableNodes nodes).all p = nodes.all p := by
  rw [tableNodes, List.all_filter]
  congr 1
  funext node
  cases node with
  | column t n => exact (h t n).symm
  | table _ _ => rfl
  | cte _ => rfl

end DbGateway.Sql
