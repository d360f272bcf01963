import DbGateway.Sql.Sqlglot

/-!
# DbGateway.Sql.Rewrite

Rewriting a tree in place: what replaces a column reference, and what becomes
of the `WHERE` clause of a `SELECT`, everywhere in the statement.
-/

namespace DbGateway.Sql

/-- What a rewrite does at the nodes it changes. -/
structure Rewriting where
  /-- The expression a column reference is replaced by, if any. -/
  column : Option Identifier → Identifier → Option Expr
  /-- The condition of a `SELECT`, given its `FROM` clause. -/
  where_ : Option Source → List Join → Option Expr → Option Expr

variable (w : Rewriting)

mutual

def Expr.rewrite : Expr → Expr
  | .column t n => (w.column t n).getD (.column t n)
  | .literal l => .literal l
  | .func f args => .func f (Expr.rewriteList args)
  | .eq l r => .eq l.rewrite r.rewrite
  | .and_ l r => .and_ l.rewrite r.rewrite
  | .aggregate f args => .aggregate f (Expr.rewriteList args)
  | .scalar q => .scalar q.rewrite
  | .exists_ q => .exists_ q.rewrite
  | .in_ e q => .in_ e.rewrite q.rewrite

def Expr.rewriteList : List Expr → List Expr
  | [] => []
  | e :: es => e.rewrite :: Expr.rewriteList es

def Expr.rewriteOption : Option Expr → Option Expr
  | none => none
  | some e => some e.rewrite

/-- A replaced column keeps its name as a header when it is a projection of its
own. -/
def Projection.rewrite : Projection → Projection
  | .star => .star
  | .tableStar t =>
      match w.column (some t) ⟨"*", false⟩ with
      | some e => .item e (some ⟨"*", false⟩)
      | none => .tableStar t
  | .item (.column t n) none =>
      match w.column t n with
      | some e => .item e (some ⟨n.name, false⟩)
      | none => .item (.column t n) none
  | .item e as_ => .item e.rewrite as_

def Projection.rewriteList : List Projection → List Projection
  | [] => []
  | p :: ps => p.rewrite :: Projection.rewriteList ps

def Query.rewrite : Query → Query
  | .select distinct expressions from_ joins where_ group having order slice =>
      .select distinct (Projection.rewriteList expressions) (Source.rewriteOption from_)
        (Join.rewriteList joins) (w.where_ from_ joins (Expr.rewriteOption where_))
        (Expr.rewriteList group) (Expr.rewriteOption having) (Expr.rewriteList order) slice
  | .setOperation op all l r order slice =>
      .setOperation op all l.rewrite r.rewrite (Expr.rewriteList order) slice
  | .with_ recursive ctes q => .with_ recursive (Cte.rewriteList ctes) q.rewrite
  | .subquery q => .subquery q.rewrite

def Cte.rewriteList : List Cte → List Cte
  | [] => []
  | .cte name columns q :: cs => .cte name columns q.rewrite :: Cte.rewriteList cs

def Source.rewrite : Source → Source
  | .table db name as_ => .table db name as_
  | .derived q as_ => .derived q.rewrite as_
  | .paren s joins as_ => .paren s.rewrite (Join.rewriteList joins) as_

def Source.rewriteOption : Option Source → Option Source
  | none => none
  | some s => some s.rewrite

def Join.rewriteList : List Join → List Join
  | [] => []
  | .join kind s on matching :: js =>
      .join kind s.rewrite (Expr.rewriteOption on) matching :: Join.rewriteList js

end

/-- Column references of some names become `NULL`. -/
def nullColumns (nulled : Identifier → Bool) : Rewriting where
  column _ n := if nulled n then some (.literal .null) else none
  where_ _ _ where_ := where_

/-! ## What there is to rewrite -/

/-- What a rewriting reads of a `SELECT`. -/
structure Clause where
  from_ : Option Source
  joins : List Join
  where_ : Option Expr

mutual

/-- The `SELECT`s below an expression. -/
def Expr.clauses : Expr → List Clause
  | .column _ _ => []
  | .literal _ => []
  | .func _ args => Expr.clausesList args
  | .eq l r => l.clauses ++ r.clauses
  | .and_ l r => l.clauses ++ r.clauses
  | .aggregate _ args => Expr.clausesList args
  | .scalar q => q.clauses
  | .exists_ q => q.clauses
  | .in_ e q => e.clauses ++ q.clauses

def Expr.clausesList : List Expr → List Clause
  | [] => []
  | e :: es => e.clauses ++ Expr.clausesList es

def Expr.clausesOption : Option Expr → List Clause
  | none => []
  | some e => e.clauses

def Projection.clauses : Projection → List Clause
  | .star => []
  | .tableStar _ => []
  | .item e _ => e.clauses

def Projection.clausesList : List Projection → List Clause
  | [] => []
  | p :: ps => p.clauses ++ Projection.clausesList ps

def Query.clauses : Query → List Clause
  | .select _ expressions from_ joins where_ group having order _ =>
      ⟨from_, joins, where_⟩ :: (Projection.clausesList expressions ++
        Source.clausesOption from_ ++ Join.clausesList joins ++ Expr.clausesOption where_ ++
        Expr.clausesList group ++ Expr.clausesOption having ++ Expr.clausesList order)
  | .setOperation _ _ l r order _ => l.clauses ++ r.clauses ++ Expr.clausesList order
  | .with_ _ ctes q => Cte.clausesList ctes ++ q.clauses
  | .subquery q => q.clauses

def Cte.clausesList : List Cte → List Clause
  | [] => []
  | .cte _ _ q :: cs => q.clauses ++ Cte.clausesList cs

def Source.clauses : Source → List Clause
  | .table _ _ _ => []
  | .derived q _ => q.clauses
  | .paren s joins _ => s.clauses ++ Join.clausesList joins

def Source.clausesOption : Option Source → List Clause
  | none => []
  | some s => s.clauses

def Join.clausesList : List Join → List Clause
  | [] => []
  | .join _ s on _ :: js => s.clauses ++ Expr.clausesOption on ++ Join.clausesList js

end

/-- The rewriting finds nothing to change. -/
structure Rewriting.Leaves (w : Rewriting) (nodes : List Node) (clauses : List Clause) : Prop where
  column : ∀ t n, .column t n ∈ nodes → w.column t n = none
  where_ : ∀ c ∈ clauses, w.where_ c.from_ c.joins c.where_ = c.where_

variable {w}

theorem Rewriting.leaves_append {nodes nodes' : List Node} {clauses clauses' : List Clause} :
    w.Leaves (nodes ++ nodes') (clauses ++ clauses') ↔
      w.Leaves nodes clauses ∧ w.Leaves nodes' clauses' := by
  constructor
  · rintro ⟨hcolumn, hwhere⟩
    exact ⟨⟨fun t n h => hcolumn t n (List.mem_append_left _ h),
        fun c h => hwhere c (List.mem_append_left _ h)⟩,
      fun t n h => hcolumn t n (List.mem_append_right _ h),
        fun c h => hwhere c (List.mem_append_right _ h)⟩
  · rintro ⟨⟨hcolumn, hwhere⟩, ⟨hcolumn', hwhere'⟩⟩
    exact ⟨fun t n h => (List.mem_append.mp h).elim (hcolumn t n) (hcolumn' t n),
      fun c h => (List.mem_append.mp h).elim (hwhere c) (hwhere' c)⟩

theorem Rewriting.leaves_clause {nodes : List Node} {clauses : List Clause} {c : Clause} :
    w.Leaves nodes (c :: clauses) ↔
      w.where_ c.from_ c.joins c.where_ = c.where_ ∧ w.Leaves nodes clauses := by
  constructor
  · rintro ⟨hcolumn, hwhere⟩
    exact ⟨hwhere c List.mem_cons_self, hcolumn, fun d h => hwhere d (List.mem_cons_of_mem c h)⟩
  · rintro ⟨hc, hcolumn, hwhere⟩
    exact ⟨hcolumn, List.forall_mem_cons.mpr ⟨hc, hwhere⟩⟩

theorem Rewriting.Leaves.of_cte {nodes : List Node} {clauses : List Clause} {name : Identifier}
    (h : w.Leaves (.cte name :: nodes) clauses) : w.Leaves nodes clauses :=
  ⟨fun t n hmem => h.column t n (List.mem_cons_of_mem _ hmem), h.where_⟩

theorem Rewriting.Leaves.column_eq {t : Option Identifier} {n : Identifier}
    {clauses : List Clause} (h : w.Leaves [.column t n] clauses) : w.column t n = none :=
  h.column t n (List.mem_singleton_self _)

mutual

theorem Expr.rewrite_of_leaves : ∀ e : Expr, w.Leaves e.walk e.clauses → e.rewrite w = e
  | .column t n, h => by rw [Expr.rewrite, h.column_eq, Option.getD_none]
  | .literal _, _ => rfl
  | .func _ args, h => by rw [Expr.rewrite, Expr.rewriteList_of_leaves args h]
  | .eq l r, h => by
      obtain ⟨hl, hr⟩ := Rewriting.leaves_append.mp h
      rw [Expr.rewrite, l.rewrite_of_leaves hl, r.rewrite_of_leaves hr]
  | .and_ l r, h => by
      obtain ⟨hl, hr⟩ := Rewriting.leaves_append.mp h
      rw [Expr.rewrite, l.rewrite_of_leaves hl, r.rewrite_of_leaves hr]
  | .aggregate _ args, h => by rw [Expr.rewrite, Expr.rewriteList_of_leaves args h]
  | .scalar q, h => by rw [Expr.rewrite, q.rewrite_of_leaves h]
  | .exists_ q, h => by rw [Expr.rewrite, q.rewrite_of_leaves h]
  | .in_ e q, h => by
      obtain ⟨he, hq⟩ := Rewriting.leaves_append.mp h
      rw [Expr.rewrite, e.rewrite_of_leaves he, q.rewrite_of_leaves hq]

theorem Expr.rewriteList_of_leaves : ∀ es : List Expr,
    w.Leaves (Expr.walkList es) (Expr.clausesList es) → Expr.rewriteList w es = es
  | [], _ => rfl
  | e :: es, h => by
      obtain ⟨he, hes⟩ := Rewriting.leaves_append.mp h
      rw [Expr.rewriteList, e.rewrite_of_leaves he, Expr.rewriteList_of_leaves es hes]

theorem Expr.rewriteOption_of_leaves : ∀ e : Option Expr,
    w.Leaves (Expr.walkOption e) (Expr.clausesOption e) → Expr.rewriteOption w e = e
  | none, _ => rfl
  | some e, h => by rw [Expr.rewriteOption, e.rewrite_of_leaves h]

theorem Projection.rewrite_of_leaves : ∀ p : Projection,
    w.Leaves p.walk p.clauses → p.rewrite w = p
  | .star, _ => rfl
  | .tableStar t, h => by rw [Projection.rewrite, h.column_eq]
  | .item e as_, h => by
      have he := e.rewrite_of_leaves h
      cases e with
      | column t n =>
          cases as_ with
          | none => rw [Projection.rewrite, h.column_eq]
          | some a => rw [Projection.rewrite, he]; exact fun _ => nofun
      | _ => cases as_ <;> rw [Projection.rewrite, he] <;> nofun

theorem Projection.rewriteList_of_leaves : ∀ ps : List Projection,
    w.Leaves (Projection.walkList ps) (Projection.clausesList ps) →
      Projection.rewriteList w ps = ps
  | [], _ => rfl
  | p :: ps, h => by
      obtain ⟨hp, hps⟩ := Rewriting.leaves_append.mp h
      rw [Projection.rewriteList, p.rewrite_of_leaves hp, Projection.rewriteList_of_leaves ps hps]

/-- A tree without anything to rewrite stays as it is. -/
theorem Query.rewrite_of_leaves : ∀ q : Query, w.Leaves q.walk q.clauses → q.rewrite w = q
  | .select distinct expressions from_ joins where_ group having order slice, h => by
      rw [Query.walk, Query.clauses] at h
      simp only [Rewriting.leaves_clause, Rewriting.leaves_append] at h
      obtain ⟨hclause, ⟨⟨⟨⟨⟨hexpressions, hfrom⟩, hjoins⟩, hwhere⟩, hgroup⟩, hhaving⟩, horder⟩ := h
      rw [Query.rewrite, Projection.rewriteList_of_leaves expressions hexpressions,
        Source.rewriteOption_of_leaves from_ hfrom, Join.rewriteList_of_leaves joins hjoins,
        Expr.rewriteOption_of_leaves where_ hwhere, hclause,
        Expr.rewriteList_of_leaves group hgroup, Expr.rewriteOption_of_leaves having hhaving,
        Expr.rewriteList_of_leaves order horder]
  | .setOperation op all l r order slice, h => by
      rw [Query.walk, Query.clauses] at h
      simp only [Rewriting.leaves_append] at h
      obtain ⟨⟨hl, hr⟩, horder⟩ := h
      rw [Query.rewrite, l.rewrite_of_leaves hl, r.rewrite_of_leaves hr,
        Expr.rewriteList_of_leaves order horder]
  | .with_ recursive ctes q, h => by
      obtain ⟨hctes, hq⟩ := Rewriting.leaves_append.mp h
      rw [Query.rewrite, Cte.rewriteList_of_leaves ctes hctes, q.rewrite_of_leaves hq]
  | .subquery q, h => by rw [Query.rewrite, q.rewrite_of_leaves h]

theorem Cte.rewriteList_of_leaves : ∀ cs : List Cte,
    w.Leaves (Cte.walkList cs) (Cte.clausesList cs) → Cte.rewriteList w cs = cs
  | [], _ => rfl
  | .cte name columns q :: cs, h => by
      rw [Cte.walkList, Cte.walk, Cte.clausesList] at h
      obtain ⟨hq, hcs⟩ := Rewriting.leaves_append.mp h
      rw [Cte.rewriteList, q.rewrite_of_leaves hq.of_cte, Cte.rewriteList_of_leaves cs hcs]

theorem Source.rewrite_of_leaves : ∀ s : Source, w.Leaves s.walk s.clauses → s.rewrite w = s
  | .table _ _ _, _ => rfl
  | .derived q as_, h => by rw [Source.rewrite, q.rewrite_of_leaves h]
  | .paren s joins as_, h => by
      obtain ⟨hs, hjoins⟩ := Rewriting.leaves_append.mp h
      rw [Source.rewrite, s.rewrite_of_leaves hs, Join.rewriteList_of_leaves joins hjoins]

theorem Source.rewriteOption_of_leaves : ∀ s : Option Source,
    w.Leaves (Source.walkOption s) (Source.clausesOption s) → Source.rewriteOption w s = s
  | none, _ => rfl
  | some s, h => by rw [Source.rewriteOption, s.rewrite_of_leaves h]

theorem Join.rewriteList_of_leaves : ∀ js : List Join,
    w.Leaves (Join.walkList js) (Join.clausesList js) → Join.rewriteList w js = js
  | [], _ => rfl
  | .join kind s on matching :: js, h => by
      rw [Join.walkList, Join.walk, Join.clausesList] at h
      simp only [Rewriting.leaves_append] at h
      obtain ⟨⟨hs, hon⟩, hjs⟩ := h
      rw [Join.rewriteList, s.rewrite_of_leaves hs, Expr.rewriteOption_of_leaves on hon,
        Join.rewriteList_of_leaves js hjs]

end

/-- The rewriting that leaves every reference. -/
def nullNothing : Rewriting := nullColumns fun _ => false

/-- A rewriting that nulls nothing is the identity. -/
theorem Query.rewrite_nullNothing (q : Query) : q.rewrite nullNothing = q :=
  q.rewrite_of_leaves ⟨fun _ _ _ => rfl, fun _ _ => rfl⟩

theorem map_name_rewriteList (w : Rewriting) (cs : List Cte) :
    (Cte.rewriteList w cs).map Cte.name = cs.map Cte.name := by
  induction cs with
  | nil => rfl
  | cons c cs ih =>
      obtain ⟨name, columns, q⟩ := c
      rw [Cte.rewriteList, List.map_cons, List.map_cons, ih]
      rfl

/-- The rewriting leaves column references alone. -/
def Rewriting.KeepsColumns (w : Rewriting) : Prop := ∀ t n, w.column t n = none

namespace Rewriting.KeepsColumns

theorem column (hw : w.KeepsColumns) (t : Option Identifier) (n : Identifier) :
    (Expr.column t n).rewrite w = .column t n := by
  rw [Expr.rewrite, hw t n, Option.getD_none]

theorem tableStar (hw : w.KeepsColumns) (t : Identifier) :
    (Projection.tableStar t).rewrite w = .tableStar t := by
  rw [Projection.rewrite, hw]

theorem item (hw : w.KeepsColumns) (e : Expr) (as_ : Option Identifier) :
    (Projection.item e as_).rewrite w = .item (e.rewrite w) as_ := by
  cases e with
  | column t n =>
      cases as_ with
      | none =>
          rw [hw.column, Projection.rewrite, hw]
      | some a => rfl
  | _ => cases as_ <;> rfl

end Rewriting.KeepsColumns

end DbGateway.Sql
