import DbGateway.Sql.Names
import DbGateway.Sql.RowScope

/-!
# DbGateway.Sql.Sites

The places of a statement where a name is resolved, listed in the order of the
text, each with the scope it is read in, and the `FROM` clauses among them.

`apply_row_restrictions` adds, at each `FROM` clause, one reference for each
qualifier it finds there and each restricted column, and changes nothing else
(`Query.sites_rewrite`).
-/

namespace DbGateway.Sql

/-! ## Direct tables -/

/-- A table reference that stands directly in a `FROM` clause. -/
structure DirectTable where
  db : Option Identifier
  name : Identifier
  as_ : Option TableAlias

namespace DirectTable

/-- The name the clause gives it. -/
def label (t : DirectTable) : String := ((t.as_.map TableAlias.name).getD t.name).folded

/-- What `scan` records of it. -/
def qualifier? [Python] (t : DirectTable) : Option String :=
  (Source.table t.db t.name t.as_).qualifier?

end DirectTable

def Source.direct? : Source → Option DirectTable
  | .table db name as_ => some ⟨db, name, as_⟩
  | .derived _ _ => none
  | .paren _ _ _ => none

/-- The tables `_row_scope_from_tables` looks at. -/
def directTables (from_ : Option Source) (joins : List Join) : List DirectTable :=
  (from_.toList ++ joins.map Join.source).filterMap Source.direct?

/-- They are the tables it takes a qualifier from. -/
theorem mem_qualifiers_iff_direct [Python] {from_ : Option Source} {joins : List Join} {q : String} :
    q ∈ qualifiers from_ joins ↔ ∃ t ∈ directTables from_ joins, t.qualifier? = some q := by
  rw [mem_qualifiers]
  simp only [directTables, List.mem_filterMap]
  constructor
  · rintro ⟨s, hs, hq⟩
    cases s with
    | table db name as_ => exact ⟨⟨db, name, as_⟩, ⟨_, hs, rfl⟩, hq⟩
    | derived _ _ => contradiction
    | paren _ _ _ => contradiction
  · rintro ⟨t, ⟨s, hs, ht⟩, hq⟩
    cases s with
    | table db name as_ =>
        obtain rfl := Option.some.inj ht
        exact ⟨_, hs, hq⟩
    | derived _ _ => contradiction
    | paren _ _ _ => contradiction

/-! ## Sites -/

/-- A place of a statement where names are resolved, in the frames it sees. -/
inductive Site where
  | column (frames : List Frame) (table : Option Identifier) (name : Identifier)
  | tableStar (frames : List Frame) (table : Identifier)
  /-- A `FROM` clause, in the frames around it. -/
  | clause (ctes : Names) (frames : List Frame) (from_ : Option Source) (joins : List Join)

def Reference.isResolved : Reference → Bool
  | .column _ _ => true
  | .record _ _ => true
  | .unresolved => false

/-- The name has a meaning. -/
def Site.resolves : Site → Bool
  | .column frames t n => (resolve frames t n).isResolved
  | .tableStar frames t => (tableFields frames t).isSome
  | .clause _ _ _ _ => true

section

variable (catalog : Catalog) (fuel : Nat) (funcHeader : String → List String → String)

/-- The scope a `FROM` clause makes. -/
def clauseFrame (ctes : Names) (frames : List Frame) (from_ : Option Source)
    (joins : List Join) : Frame :=
  frameJoins catalog fuel funcHeader ctes frames
    (frameFrom catalog fuel funcHeader ctes frames from_) joins

mutual

/-- The sites of an expression. -/
def Expr.sites (ctes : Names) (frames : List Frame) : Expr → List Site
  | .column t n => [.column frames t n]
  | .literal _ => []
  | .func _ args => Expr.sitesList ctes frames args
  | .eq l r => l.sites ctes frames ++ r.sites ctes frames
  | .and_ l r => l.sites ctes frames ++ r.sites ctes frames
  | .aggregate _ args => Expr.sitesList ctes frames args
  | .scalar q => q.sites ctes frames
  | .exists_ q => q.sites ctes frames
  | .in_ e q => e.sites ctes frames ++ q.sites ctes frames

def Expr.sitesList (ctes : Names) (frames : List Frame) : List Expr → List Site
  | [] => []
  | e :: es => e.sites ctes frames ++ Expr.sitesList ctes frames es

def Expr.sitesOption (ctes : Names) (frames : List Frame) : Option Expr → List Site
  | none => []
  | some e => e.sites ctes frames

/-- Items of `GROUP BY`; one that names an output refers to no column. -/
def Expr.sitesGroup (ctes : Names) (frames : List Frame) (headers : List String) :
    List Expr → List Site
  | [] => []
  | e :: es =>
      (if (groupOutput? headers (frames.headD Frame.empty) e).isSome then []
        else e.sites ctes frames) ++ Expr.sitesGroup ctes frames headers es

/-- Items of `ORDER BY`, likewise. -/
def Expr.sitesOrder (ctes : Names) (frames : List Frame) (headers : List String) :
    List Expr → List Site
  | [] => []
  | e :: es =>
      (if (orderOutput? headers e).isSome then [] else e.sites ctes frames) ++
        Expr.sitesOrder ctes frames headers es

def Projection.sitesList (ctes : Names) (frames : List Frame) : List Projection → List Site
  | [] => []
  | .star :: ps => Projection.sitesList ctes frames ps
  | .tableStar t :: ps => .tableStar frames t :: Projection.sitesList ctes frames ps
  | .item e _ :: ps => e.sites ctes frames ++ Projection.sitesList ctes frames ps

/-- The sites of a query, the clause of a `SELECT` after its condition. -/
def Query.sites (ctes : Names) (frames : List Frame) : Query → List Site
  | .select _ expressions from_ joins where_ group having order _ =>
      let inner := clauseFrame catalog fuel funcHeader ctes frames from_ joins :: frames
      let headers := namesProjectAll catalog fuel funcHeader ctes inner expressions
      Projection.sitesList ctes inner expressions ++ (Source.sitesFrom ctes frames from_ ++
        (Join.sitesList ctes frames (frameFrom catalog fuel funcHeader ctes frames from_) joins ++
          (Expr.sitesOption ctes inner where_ ++ ([.clause ctes frames from_ joins] ++
            (Expr.sitesGroup ctes inner headers group ++ (Expr.sitesOption ctes inner having ++
              Expr.sitesOrder ctes inner headers order))))))
  | .setOperation _ _ l r order _ =>
      l.sites ctes frames ++ (r.sites ctes frames ++
        Expr.sitesOrder ctes frames (namesQuery catalog fuel funcHeader ctes frames l) order)
  | .with_ recursive cs q =>
      if recursive then
        let round := fun names => namesCtesTogether catalog fuel funcHeader (names ++ ctes) frames cs
        let names := Nat.iterate round fuel (cs.map Cte.startNames) ++ ctes
        Cte.sitesTogether names frames cs ++ q.sites names frames
      else
        Cte.sitesList ctes frames cs ++
          q.sites (namesCtes catalog fuel funcHeader ctes frames cs) frames
  | .subquery q => q.sites ctes frames

def Cte.sitesList (ctes : Names) (frames : List Frame) : List Cte → List Site
  | [] => []
  | .cte name columns q :: cs =>
      q.sites ctes frames ++ Cte.sitesList
        (namesCte catalog fuel funcHeader ctes frames (.cte name columns q) :: ctes) frames cs

def Cte.sitesTogether (ctes : Names) (frames : List Frame) : List Cte → List Site
  | [] => []
  | .cte _ _ q :: cs => q.sites ctes frames ++ Cte.sitesTogether ctes frames cs

def Source.sites (ctes : Names) (frames : List Frame) : Source → List Site
  | .table _ _ _ => []
  | .derived q _ => q.sites ctes frames
  | .paren s joins _ =>
      s.sites ctes frames ++
        Join.sitesList ctes frames (frameSource catalog fuel funcHeader ctes frames s) joins

def Source.sitesFrom (ctes : Names) (frames : List Frame) : Option Source → List Site
  | none => []
  | some s => s.sites ctes frames

def Join.sitesList (ctes : Names) (frames : List Frame) (left : Frame) : List Join → List Site
  | [] => []
  | .join kind s on matching :: js =>
      let frame := frameJoin catalog fuel funcHeader ctes frames left (.join kind s on matching)
      s.sites ctes frames ++ (Expr.sitesOption ctes (frame :: frames) on ++
        Join.sitesList ctes frames frame js)

end

end

/-! ## The sites of a rewritten statement -/

section Rewrite

variable {catalog : Catalog} {fuel : Nat} {funcHeader : String → List String → String}
  {w : Rewriting}

theorem clauseFrame_rewrite (hw : w.KeepsColumns) (ctes : Names) (frames : List Frame)
    (from_ : Option Source) (joins : List Join) :
    clauseFrame catalog fuel funcHeader ctes frames (Source.rewriteOption w from_)
        (Join.rewriteList w joins) =
      clauseFrame catalog fuel funcHeader ctes frames from_ joins := by
  rw [clauseFrame, clauseFrame, frameFrom_rewrite hw, frameJoins_rewrite hw]

/-- The predicates come after what was there. -/
theorem sitesOption_addPredicates (ctes : Names) (frames : List Frame) (where_ : Option Expr)
    (predicates : List Expr) :
    Expr.sitesOption catalog fuel funcHeader ctes frames (addPredicates where_ predicates) =
      Expr.sitesOption catalog fuel funcHeader ctes frames where_ ++
        predicates.flatMap (Expr.sites catalog fuel funcHeader ctes frames) := by
  induction predicates generalizing where_ with
  | nil => rw [addPredicates, List.foldl_nil, List.flatMap_nil, List.append_nil]
  | cons p ps ih =>
      have hstep : addPredicates where_ (p :: ps) =
          addPredicates (addPredicates where_ [p]) ps := rfl
      rw [hstep, ih, List.flatMap_cons, ← List.append_assoc]
      cases where_ with
      | none => rfl
      | some e => rfl

variable [Python] [Sqlglot] {resolved : Dict String}

/-- The references added at a `FROM` clause. -/
def Site.added (catalog : Catalog) (fuel : Nat) (funcHeader : String → List String → String)
    (resolved : Dict String) : Site → List Site
  | .clause ctes frames from_ joins =>
      resolved.flatMap fun cv => (qualifiers from_ joins).map fun q =>
        .column (clauseFrame catalog fuel funcHeader ctes frames from_ joins :: frames)
          (some (Sqlglot.toIdentifier q)) (Sqlglot.toIdentifier cv.1)
  | .column _ _ _ => []
  | .tableStar _ _ => []

/-- A site of the rewritten statement. -/
def Site.rewrite (w : Rewriting) : Site → Site
  | .clause ctes frames from_ joins =>
      .clause ctes frames (Source.rewriteOption w from_) (Join.rewriteList w joins)
  | site => site

/-- What becomes of a site. -/
def Site.restrict (catalog : Catalog) (fuel : Nat)
    (funcHeader : String → List String → String) (resolved : Dict String) (site : Site) :
    List Site :=
  site.added catalog fuel funcHeader resolved ++ [site.rewrite (rowScope resolved)]

/-- The sites of the predicates are the references added. -/
theorem sites_scopePredicates (ctes : Names) (frames : List Frame) (from_ : Option Source)
    (joins : List Join) :
    (scopePredicates resolved from_ joins).flatMap (Expr.sites catalog fuel funcHeader ctes
        (clauseFrame catalog fuel funcHeader ctes frames from_ joins :: frames)) =
      (Site.clause ctes frames from_ joins).added catalog fuel funcHeader resolved := by
  rw [scopePredicates, List.flatMap_assoc, Site.added]
  congr 1
  funext cv
  rw [List.flatMap_map, List.map_eq_flatMap]
  rfl

mutual

theorem Expr.sites_rewrite (ctes : Names) (frames : List Frame) : ∀ e : Expr,
    (e.rewrite (rowScope resolved)).sites catalog fuel funcHeader ctes frames =
      (e.sites catalog fuel funcHeader ctes frames).flatMap
        (Site.restrict catalog fuel funcHeader resolved)
  | .column _ _ => rfl
  | .literal _ => rfl
  | .func _ args => Expr.sitesList_rewrite ctes frames args
  | .eq l r => by
      rw [Expr.rewrite, Expr.sites, Expr.sites, List.flatMap_append,
        l.sites_rewrite ctes frames, r.sites_rewrite ctes frames]
  | .and_ l r => by
      rw [Expr.rewrite, Expr.sites, Expr.sites, List.flatMap_append,
        l.sites_rewrite ctes frames, r.sites_rewrite ctes frames]
  | .aggregate _ args => Expr.sitesList_rewrite ctes frames args
  | .scalar q => q.sites_rewrite ctes frames
  | .exists_ q => q.sites_rewrite ctes frames
  | .in_ e q => by
      rw [Expr.rewrite, Expr.sites, Expr.sites, List.flatMap_append,
        e.sites_rewrite ctes frames, q.sites_rewrite ctes frames]

theorem Expr.sitesList_rewrite (ctes : Names) (frames : List Frame) : ∀ es : List Expr,
    Expr.sitesList catalog fuel funcHeader ctes frames
        (Expr.rewriteList (rowScope resolved) es) =
      (Expr.sitesList catalog fuel funcHeader ctes frames es).flatMap
        (Site.restrict catalog fuel funcHeader resolved)
  | [] => rfl
  | e :: es => by
      rw [Expr.rewriteList, Expr.sitesList, Expr.sitesList, List.flatMap_append,
        e.sites_rewrite ctes frames, Expr.sitesList_rewrite ctes frames es]

theorem Expr.sitesOption_rewrite (ctes : Names) (frames : List Frame) : ∀ e : Option Expr,
    Expr.sitesOption catalog fuel funcHeader ctes frames
        (Expr.rewriteOption (rowScope resolved) e) =
      (Expr.sitesOption catalog fuel funcHeader ctes frames e).flatMap
        (Site.restrict catalog fuel funcHeader resolved)
  | none => rfl
  | some e => e.sites_rewrite ctes frames

theorem Expr.sitesGroup_rewrite (ctes : Names) (frames : List Frame) (headers : List String) :
    ∀ es : List Expr,
      Expr.sitesGroup catalog fuel funcHeader ctes frames headers
          (Expr.rewriteList (rowScope resolved) es) =
        (Expr.sitesGroup catalog fuel funcHeader ctes frames headers es).flatMap
          (Site.restrict catalog fuel funcHeader resolved)
  | [] => rfl
  | e :: es => by
      rw [Expr.rewriteList, Expr.sitesGroup, Expr.sitesGroup, List.flatMap_append,
        keepsColumns_rowScope.groupOutput?, Expr.sitesGroup_rewrite ctes frames headers es]
      congr 1
      split
      · rfl
      · exact e.sites_rewrite ctes frames

theorem Expr.sitesOrder_rewrite (ctes : Names) (frames : List Frame) (headers : List String) :
    ∀ es : List Expr,
      Expr.sitesOrder catalog fuel funcHeader ctes frames headers
          (Expr.rewriteList (rowScope resolved) es) =
        (Expr.sitesOrder catalog fuel funcHeader ctes frames headers es).flatMap
          (Site.restrict catalog fuel funcHeader resolved)
  | [] => rfl
  | e :: es => by
      rw [Expr.rewriteList, Expr.sitesOrder, Expr.sitesOrder, List.flatMap_append,
        keepsColumns_rowScope.orderOutput?, Expr.sitesOrder_rewrite ctes frames headers es]
      congr 1
      split
      · rfl
      · exact e.sites_rewrite ctes frames

theorem Projection.sitesList_rewrite (ctes : Names) (frames : List Frame) :
    ∀ ps : List Projection,
      Projection.sitesList catalog fuel funcHeader ctes frames
          (Projection.rewriteList (rowScope resolved) ps) =
        (Projection.sitesList catalog fuel funcHeader ctes frames ps).flatMap
          (Site.restrict catalog fuel funcHeader resolved)
  | [] => rfl
  | .star :: ps => Projection.sitesList_rewrite ctes frames ps
  | .tableStar t :: ps => by
      rw [Projection.rewriteList, keepsColumns_rowScope.tableStar, Projection.sitesList,
        Projection.sitesList, Projection.sitesList_rewrite ctes frames ps]
      rfl
  | .item e as_ :: ps => by
      rw [Projection.rewriteList, keepsColumns_rowScope.item, Projection.sitesList,
        Projection.sitesList, List.flatMap_append, e.sites_rewrite ctes frames,
        Projection.sitesList_rewrite ctes frames ps]

/-- **The rewriting adds references at the `FROM` clauses** and changes nothing
else. -/
theorem Query.sites_rewrite (ctes : Names) (frames : List Frame) : ∀ q : Query,
    (q.rewrite (rowScope resolved)).sites catalog fuel funcHeader ctes frames =
      (q.sites catalog fuel funcHeader ctes frames).flatMap
        (Site.restrict catalog fuel funcHeader resolved)
  | .select _ expressions from_ joins where_ group having order _ => by
      simp only [Query.rewrite, Query.sites, List.flatMap_append, List.flatMap_singleton,
        clauseFrame_rewrite keepsColumns_rowScope, frameFrom_rewrite keepsColumns_rowScope,
        namesProjectAll_rewrite keepsColumns_rowScope, where_rowScope,
        sitesOption_addPredicates, sites_scopePredicates, Site.restrict,
        Projection.sitesList_rewrite _ _ expressions, Source.sitesFrom_rewrite _ _ from_,
        Join.sitesList_rewrite _ _ _ joins, Expr.sitesOption_rewrite _ _ where_,
        Expr.sitesGroup_rewrite _ _ _ group, Expr.sitesOption_rewrite _ _ having,
        Expr.sitesOrder_rewrite _ _ _ order, List.append_assoc]
      rfl
  | .setOperation _ _ l r order _ => by
      rw [Query.rewrite, Query.sites, Query.sites, List.flatMap_append, List.flatMap_append,
        namesQuery_rewrite keepsColumns_rowScope, l.sites_rewrite ctes frames,
        r.sites_rewrite ctes frames, Expr.sitesOrder_rewrite ctes frames _ order]
  | .with_ recursive cs q => by
      simp only [Query.rewrite, Query.sites, map_startNames_rewriteList,
        namesCtes_rewrite keepsColumns_rowScope, namesCtesTogether_rewrite keepsColumns_rowScope,
        Cte.sitesTogether_rewrite _ frames cs, Cte.sitesList_rewrite _ frames cs,
        q.sites_rewrite _ frames]
      split
      · rw [List.flatMap_append]
      · rw [List.flatMap_append]
  | .subquery q => q.sites_rewrite ctes frames

theorem Cte.sitesList_rewrite (ctes : Names) (frames : List Frame) : ∀ cs : List Cte,
    Cte.sitesList catalog fuel funcHeader ctes frames (Cte.rewriteList (rowScope resolved) cs) =
      (Cte.sitesList catalog fuel funcHeader ctes frames cs).flatMap
        (Site.restrict catalog fuel funcHeader resolved)
  | [] => rfl
  | .cte name columns q :: cs => by
      rw [Cte.rewriteList, Cte.sitesList, Cte.sitesList, List.flatMap_append, namesCte, namesCte,
        namesQuery_rewrite keepsColumns_rowScope, q.sites_rewrite ctes frames,
        Cte.sitesList_rewrite _ frames cs]

theorem Cte.sitesTogether_rewrite (ctes : Names) (frames : List Frame) : ∀ cs : List Cte,
    Cte.sitesTogether catalog fuel funcHeader ctes frames
        (Cte.rewriteList (rowScope resolved) cs) =
      (Cte.sitesTogether catalog fuel funcHeader ctes frames cs).flatMap
        (Site.restrict catalog fuel funcHeader resolved)
  | [] => rfl
  | .cte _ _ q :: cs => by
      rw [Cte.rewriteList, Cte.sitesTogether, Cte.sitesTogether, List.flatMap_append,
        q.sites_rewrite ctes frames, Cte.sitesTogether_rewrite ctes frames cs]

theorem Source.sites_rewrite (ctes : Names) (frames : List Frame) : ∀ s : Source,
    (s.rewrite (rowScope resolved)).sites catalog fuel funcHeader ctes frames =
      (s.sites catalog fuel funcHeader ctes frames).flatMap
        (Site.restrict catalog fuel funcHeader resolved)
  | .table _ _ _ => rfl
  | .derived q _ => q.sites_rewrite ctes frames
  | .paren s joins _ => by
      rw [Source.rewrite, Source.sites, Source.sites, List.flatMap_append,
        frameSource_rewrite keepsColumns_rowScope, s.sites_rewrite ctes frames,
        Join.sitesList_rewrite ctes frames _ joins]

theorem Source.sitesFrom_rewrite (ctes : Names) (frames : List Frame) : ∀ s : Option Source,
    Source.sitesFrom catalog fuel funcHeader ctes frames
        (Source.rewriteOption (rowScope resolved) s) =
      (Source.sitesFrom catalog fuel funcHeader ctes frames s).flatMap
        (Site.restrict catalog fuel funcHeader resolved)
  | none => rfl
  | some s => s.sites_rewrite ctes frames

theorem Join.sitesList_rewrite (ctes : Names) (frames : List Frame) :
    ∀ (left : Frame) (js : List Join),
      Join.sitesList catalog fuel funcHeader ctes frames left
          (Join.rewriteList (rowScope resolved) js) =
        (Join.sitesList catalog fuel funcHeader ctes frames left js).flatMap
          (Site.restrict catalog fuel funcHeader resolved)
  | _, [] => rfl
  | left, .join _ s on _ :: js => by
      simp only [Join.rewriteList, Join.sitesList, List.flatMap_append, frameJoin,
        frameSource_rewrite keepsColumns_rowScope, s.sites_rewrite ctes frames,
        Expr.sitesOption_rewrite _ _ on, Join.sitesList_rewrite ctes frames _ js]

end

end Rewrite

end DbGateway.Sql
