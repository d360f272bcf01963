import DbGateway.Sql.RowScope
import DbGateway.Sql.Values

/-!
# DbGateway.Sql.RowNoninterference

Which restricted statements read nothing out of scope: those whose physical
tables all stand directly in the `FROM` clause of a `SELECT`, placed so that
the predicate reaches them (`Query.Scoped`).  Two databases that agree on the
rows in scope then give such a statement the same result.
-/

namespace DbGateway.Sql

open Rows

/-! ## Where predicates reach -/

section Condition

variable [Python] [Sqlglot] (catalog : Catalog) (restricted : List String)

/-- The predicate for a directly referenced physical table is about that
table. -/
structure Placed (db : Option Identifier) (name : Identifier) (as_ : Option TableAlias) :
    Prop where
  /-- `scan` does not skip it. -/
  named : lower (strip name.name) ≠ "" ∧ (aliasOrName name as_).name ≠ ""
  /-- Its qualifier, as `sqlglot` prints it, is still its name. -/
  qualifier : (Sqlglot.toIdentifier (aliasOrName name as_).name).folded =
    ((as_.map TableAlias.name).getD name).folded
  /-- Under its column aliases, a restricted column's name is still that
  column's. -/
  kept : ∀ c ∈ restricted, ∀ p,
    Fields.position?
        (renamed as_ (catalog (db.map Identifier.folded) name.folded)).zipIdx
        (Sqlglot.toIdentifier c).folded = some p →
      (catalog (db.map Identifier.folded) name.folded).idxOf?
        (Sqlglot.toIdentifier c).folded = some p

mutual

/-- Every physical table read stands directly in a `FROM` clause, well
placed. -/
def Expr.Scoped (scope : List String) : Expr → Prop
  | .column _ _ => True
  | .literal _ => True
  | .func _ args => Expr.ScopedList scope args
  | .eq l r => l.Scoped scope ∧ r.Scoped scope
  | .and_ l r => l.Scoped scope ∧ r.Scoped scope
  | .aggregate _ args => Expr.ScopedList scope args
  | .scalar q => q.Scoped scope
  | .exists_ q => q.Scoped scope
  | .in_ e q => e.Scoped scope ∧ q.Scoped scope

def Expr.ScopedList (scope : List String) : List Expr → Prop
  | [] => True
  | e :: es => e.Scoped scope ∧ Expr.ScopedList scope es

def Expr.ScopedOption (scope : List String) : Option Expr → Prop
  | none => True
  | some e => e.Scoped scope

def Projection.ScopedList (scope : List String) : List Projection → Prop
  | [] => True
  | .star :: ps => Projection.ScopedList scope ps
  | .tableStar _ :: ps => Projection.ScopedList scope ps
  | .item e _ :: ps => e.Scoped scope ∧ Projection.ScopedList scope ps

def Query.Scoped (scope : List String) : Query → Prop
  | .select _ expressions from_ joins where_ group having order _ =>
      Projection.ScopedList scope expressions ∧ Source.ScopedFrom scope from_ ∧
        Join.ScopedList scope joins ∧ Expr.ScopedOption scope where_ ∧
        Expr.ScopedList scope group ∧ Expr.ScopedOption scope having ∧
        Expr.ScopedList scope order
  | .setOperation _ _ l r order _ =>
      l.Scoped scope ∧ r.Scoped scope ∧ Expr.ScopedList scope order
  | .with_ recursive ctes q =>
      if recursive then
        Cte.ScopedTogether (ctes.map Cte.name ++ scope) ctes ∧
          q.Scoped (ctes.map Cte.name ++ scope)
      else Cte.ScopedList scope ctes ∧ q.Scoped ((ctes.map Cte.name).reverse ++ scope)
  | .subquery q => q.Scoped scope

def Cte.ScopedList (scope : List String) : List Cte → Prop
  | [] => True
  | .cte name _ q :: cs => q.Scoped scope ∧ Cte.ScopedList (name.folded :: scope) cs

def Cte.ScopedTogether (scope : List String) : List Cte → Prop
  | [] => True
  | .cte _ _ q :: cs => q.Scoped scope ∧ Cte.ScopedTogether scope cs

/-- A direct item of a `FROM` clause. -/
def Source.Scoped (scope : List String) : Source → Prop
  | .table db name as_ => isBound scope db name = true ∨ Placed catalog restricted db name as_
  | .derived q _ => q.Scoped scope
  | .paren s joins _ => s.Closed scope ∧ Join.ClosedList scope joins

def Source.ScopedFrom (scope : List String) : Option Source → Prop
  | none => True
  | some s => s.Scoped scope

def Join.ScopedList (scope : List String) : List Join → Prop
  | [] => True
  | .join _ s on _ :: js =>
      s.Scoped scope ∧ Expr.ScopedOption scope on ∧ Join.ScopedList scope js

/-- An item inside parentheses, where no predicate is added: no physical table
of its own. -/
def Source.Closed (scope : List String) : Source → Prop
  | .table db name _ => isBound scope db name = true
  | .derived q _ => q.Scoped scope
  | .paren s joins _ => s.Closed scope ∧ Join.ClosedList scope joins

def Join.ClosedList (scope : List String) : List Join → Prop
  | [] => True
  | .join _ s on _ :: js =>
      s.Closed scope ∧ Expr.ScopedOption scope on ∧ Join.ClosedList scope js

end

end Condition

/-! ## Two runs -/

section Runs

variable [Sqlglot] {V : Type} [Domain V] {catalog : Catalog} {restricted : List String}
  {resolved : Dict String}

/-- The databases agree on the rows in scope of every physical table. -/
def AgreeInScope (resolved : Dict String) (d₁ d₂ : Database V catalog) : Prop :=
  ∀ db name, (d₁.rows db name).filter (inScope resolved (catalog db name)) =
    (d₂.rows db name).filter (inScope resolved (catalog db name))

/-- Two runs of a statement restricted to the same values. -/
structure SharedScope (restricted : List String) (resolved : Dict String)
    (d₁ d₂ : Database V catalog) : Prop where
  nonempty : resolved ≠ []
  columns : ∀ cv ∈ resolved, cv.1 ∈ restricted
  agree : AgreeInScope resolved d₁ d₂

omit [Sqlglot] in
/-- A reference finds a table exactly when it is bound. -/
theorem lookupCte_eq_none_iff {α : Type} {ctes : List (String × α)} {db : Option Identifier}
    {name : Identifier} :
    lookupCte ctes db name = none ↔ isBound (ctes.map Prod.fst) db name = false := by
  cases db with
  | some _ => simp [lookupCte, isBound]
  | none =>
      simp only [lookupCte, isBound, Option.isNone_none, if_true, Bool.true_and,
        List.lookup_eq_none_iff, List.contains_eq_mem, decide_eq_false_iff_not, List.mem_map,
        not_exists, not_and, bne_iff_ne, ne_eq]
      exact ⟨fun h p hp hname => h p hp hname.symm, fun h p hp hname => h p hp hname.symm⟩

variable [DecidableEq V] {d₁ d₂ : Database V catalog} {fuel : Nat}

/-- One join of two guarded runs. -/
theorem Guarded.denoteJoin {quals : List String} {items items' : List Item} {ctes : Ctes V}
    {frames : List Frame} {env : List (Row V)} {x y : Frame × List (Row V)} {s : Source}
    (h : Guarded resolved quals items x y)
    (h' : Guarded resolved quals items' (denoteSource d₁ fuel ctes frames env s)
      (denoteSource d₂ fuel ctes frames env s)) {on : Option Expr}
    (hon : ∀ frames env, holds d₁ fuel ctes frames env [] on = holds d₂ fuel ctes frames env [] on)
    (kind : JoinKind) (matching : Matching) :
    Guarded resolved quals (items ++ items'.map (Item.after x.1.width))
      (Sql.denoteJoin d₁ fuel ctes frames env x (.join kind s on matching))
      (Sql.denoteJoin d₂ fuel ctes frames env y (.join kind s on matching)) := by
  simp only [Sql.denoteJoin, ← h.frame, ← h'.frame, ← hon]
  exact h.join h' _ _ kind

omit [Sqlglot] in
/-- Rounds that agree on the tables they are given agree after any number of
them. -/
theorem iterate_round_congr {cs : List Cte} {ctes : Ctes V} {frames : List Frame}
    {env : List (Row V)}
    (hround : ∀ tables : Ctes V, tables.map Prod.fst = cs.map Cte.name →
      denoteCtesTogether d₁ fuel (tables ++ ctes) frames env cs =
        denoteCtesTogether d₂ fuel (tables ++ ctes) frames env cs) (rounds : Nat) :
    Nat.iterate (fun tables => denoteCtesTogether d₁ fuel (tables ++ ctes) frames env cs) rounds
        (cs.map Cte.start) =
      Nat.iterate (fun tables => denoteCtesTogether d₂ fuel (tables ++ ctes) frames env cs) rounds
        (cs.map Cte.start) ∧
    (Nat.iterate (fun tables => denoteCtesTogether d₁ fuel (tables ++ ctes) frames env cs) rounds
        (cs.map (Cte.start (V := V)))).map Prod.fst = cs.map Cte.name := by
  induction rounds with
  | zero => exact ⟨rfl, by rw [Function.iterate_zero, id, map_start_fst]⟩
  | succ n ih =>
      obtain ⟨heq, hfst⟩ := ih
      rw [Function.iterate_succ_apply', Function.iterate_succ_apply', ← heq]
      exact ⟨hround _ hfst, by rw [denoteCtesTogether_fst]⟩

variable [Python]

/-- A well placed table's item is reached by the predicates. -/
theorem Placed.reached {db : Option Identifier} {name : Identifier} {as_ : Option TableAlias}
    {quals : List String} (h : Placed catalog restricted db name as_)
    (hcolumns : ∀ cv ∈ resolved, cv.1 ∈ restricted)
    (hquals : ∀ q, (Source.table db name as_).qualifier? = some q → q ∈ quals) :
    Item.Reached resolved quals
      ⟨((as_.map TableAlias.name).getD name).folded,
        catalog (db.map Identifier.folded) name.folded,
        renamed as_ (catalog (db.map Identifier.folded) name.folded), 0⟩ where
  named := by
    refine ⟨(aliasOrName name as_).name, hquals _ ?_, h.qualifier⟩
    simp [Source.qualifier?, h.named.1, h.named.2]
  kept cv hcv := h.kept cv.1 (hcolumns cv hcv)

/-! ## Statements in scope -/

mutual

/-- **Scoped expressions** have one value and one header. -/
theorem Expr.Scoped.congr (hruns : SharedScope restricted resolved d₁ d₂)
    {ctes : Ctes V} : ∀ (e : Expr), e.Scoped catalog restricted (ctes.map Prod.fst) →
    (∀ frames env group,
      denoteExpr d₁ fuel ctes frames env group (e.rewrite (rowScope resolved)) =
        denoteExpr d₂ fuel ctes frames env group (e.rewrite (rowScope resolved))) ∧
    ∀ frames env, headerOf d₁ fuel ctes frames env (e.rewrite (rowScope resolved)) =
      headerOf d₂ fuel ctes frames env (e.rewrite (rowScope resolved))
  | .column t n, _ => by
      refine ⟨fun frames env group => ?_, fun frames env => ?_⟩ <;>
        simp only [Expr.rewrite, rowScope, Option.getD_none, denoteExpr, headerOf]
  | .literal _, _ => by
      refine ⟨fun frames env group => ?_, fun frames env => ?_⟩ <;>
        simp only [Expr.rewrite, denoteExpr, headerOf]
  | .func f args, h => by
      obtain ⟨hargs, hheaders⟩ := Expr.Scoped.congrList hruns args h
      refine ⟨fun frames env group => ?_, fun frames env => ?_⟩
      · simp only [Expr.rewrite, denoteExpr, hargs]
      · simp only [Expr.rewrite, headerOf, hheaders]
  | .eq l r, h => by
      refine ⟨fun frames env group => ?_, fun frames env => ?_⟩
      · simp only [Expr.rewrite, denoteExpr, (Expr.Scoped.congr hruns l h.1).1,
          (Expr.Scoped.congr hruns r h.2).1]
      · simp only [Expr.rewrite, headerOf]
  | .and_ l r, h => by
      refine ⟨fun frames env group => ?_, fun frames env => ?_⟩
      · simp only [Expr.rewrite, denoteExpr, (Expr.Scoped.congr hruns l h.1).1,
          (Expr.Scoped.congr hruns r h.2).1]
      · simp only [Expr.rewrite, headerOf]
  | .aggregate f args, h => by
      refine ⟨fun frames env group => ?_, fun frames env => ?_⟩
      · simp only [Expr.rewrite, denoteExpr, (Expr.Scoped.congrList hruns args h).1]
      · simp only [Expr.rewrite, headerOf]
  | .scalar q, h => by
      refine ⟨fun frames env group => ?_, fun frames env => ?_⟩
      · simp only [Expr.rewrite, denoteExpr, Query.Scoped.congr hruns q h]
      · simp only [Expr.rewrite, headerOf, Query.Scoped.congr hruns q h]
  | .exists_ q, h => by
      refine ⟨fun frames env group => ?_, fun frames env => ?_⟩
      · simp only [Expr.rewrite, denoteExpr, Query.Scoped.congr hruns q h]
      · simp only [Expr.rewrite, headerOf]
  | .in_ e q, h => by
      refine ⟨fun frames env group => ?_, fun frames env => ?_⟩
      · simp only [Expr.rewrite, denoteExpr, (Expr.Scoped.congr hruns e h.1).1,
          Query.Scoped.congr hruns q h.2]
      · simp only [Expr.rewrite, headerOf]

theorem Expr.Scoped.congrList (hruns : SharedScope restricted resolved d₁ d₂)
    {ctes : Ctes V} : ∀ (es : List Expr),
    Expr.ScopedList catalog restricted (ctes.map Prod.fst) es →
    (∀ frames env group,
      denoteExprs d₁ fuel ctes frames env group (Expr.rewriteList (rowScope resolved) es) =
        denoteExprs d₂ fuel ctes frames env group (Expr.rewriteList (rowScope resolved) es)) ∧
    (∀ frames env, headersOf d₁ fuel ctes frames env (Expr.rewriteList (rowScope resolved) es) =
      headersOf d₂ fuel ctes frames env (Expr.rewriteList (rowScope resolved) es)) ∧
    (∀ frames env headers outputs, groupKey d₁ fuel ctes frames env headers outputs
        (Expr.rewriteList (rowScope resolved) es) =
      groupKey d₂ fuel ctes frames env headers outputs
        (Expr.rewriteList (rowScope resolved) es)) ∧
    ∀ frames env group headers outputs, orderKey d₁ fuel ctes frames env group headers outputs
        (Expr.rewriteList (rowScope resolved) es) =
      orderKey d₂ fuel ctes frames env group headers outputs
        (Expr.rewriteList (rowScope resolved) es)
  | [], _ => by simp only [Expr.rewriteList, denoteExprs, headersOf, groupKey, orderKey,
      implies_true, and_self]
  | e :: es, h => by
      obtain ⟨hvalue, hheader⟩ := Expr.Scoped.congr hruns e h.1
      obtain ⟨hvalues, hheaders, hgroup, horder⟩ :=
        Expr.Scoped.congrList hruns es h.2
      refine ⟨fun frames env group => ?_, fun frames env => ?_,
        fun frames env headers outputs => ?_, fun frames env group headers outputs => ?_⟩
      · simp only [Expr.rewriteList, denoteExprs, hvalue, hvalues]
      · simp only [Expr.rewriteList, headersOf, hheader, hheaders]
      · simp only [Expr.rewriteList, groupKey, hvalue, hgroup]
      · simp only [Expr.rewriteList, orderKey, hvalue, horder]

theorem Expr.Scoped.congrOption (hruns : SharedScope restricted resolved d₁ d₂)
    {ctes : Ctes V} : ∀ (e : Option Expr),
    Expr.ScopedOption catalog restricted (ctes.map Prod.fst) e → ∀ frames env group,
      holds d₁ fuel ctes frames env group (Expr.rewriteOption (rowScope resolved) e) =
        holds d₂ fuel ctes frames env group (Expr.rewriteOption (rowScope resolved) e)
  | none, _ => fun _ _ _ => rfl
  | some e, h => fun frames env group => by
      simp only [Expr.rewriteOption, holds, (Expr.Scoped.congr hruns e h).1]

theorem Projection.Scoped.congr (hruns : SharedScope restricted resolved d₁ d₂)
    {ctes : Ctes V} : ∀ (ps : List Projection),
    Projection.ScopedList catalog restricted (ctes.map Prod.fst) ps →
    (∀ frames env group,
      projectAll d₁ fuel ctes frames env group (Projection.rewriteList (rowScope resolved) ps) =
        projectAll d₂ fuel ctes frames env group
          (Projection.rewriteList (rowScope resolved) ps)) ∧
    ∀ frames env,
      projectAllHeaders d₁ fuel ctes frames env (Projection.rewriteList (rowScope resolved) ps) =
        projectAllHeaders d₂ fuel ctes frames env
          (Projection.rewriteList (rowScope resolved) ps)
  | [], _ => ⟨fun _ _ _ => rfl, fun _ _ => rfl⟩
  | .star :: ps, h => by
      obtain ⟨hvalues, hheaders⟩ := Projection.Scoped.congr hruns ps h
      refine ⟨fun frames env group => ?_, fun frames env => ?_⟩
      · simp only [Projection.rewriteList, Projection.rewrite, projectAll, project, hvalues]
      · simp only [Projection.rewriteList, Projection.rewrite, projectAllHeaders, projectHeaders,
          hheaders]
  | .tableStar t :: ps, h => by
      obtain ⟨hvalues, hheaders⟩ := Projection.Scoped.congr hruns ps h
      have hrewrite : (Projection.tableStar t).rewrite (rowScope resolved) = .tableStar t :=
        keepsColumns_rowScope.tableStar t
      refine ⟨fun frames env group => ?_, fun frames env => ?_⟩
      · simp only [Projection.rewriteList, hrewrite, projectAll, project, hvalues]
      · simp only [Projection.rewriteList, hrewrite, projectAllHeaders, projectHeaders, hheaders]
  | .item e as_ :: ps, h => by
      obtain ⟨hvalue, hheader⟩ := Expr.Scoped.congr hruns e h.1
      obtain ⟨hvalues, hheaders⟩ := Projection.Scoped.congr hruns ps h.2
      refine ⟨fun frames env group => ?_, fun frames env => ?_⟩
      · simp only [Projection.rewriteList, keepsColumns_rowScope.item, projectAll, project, hvalue, hvalues]
      · cases as_ <;> simp only [Projection.rewriteList, keepsColumns_rowScope.item,
          projectAllHeaders, projectHeaders, hheader, hheaders]

/-- **Scoped queries** have one result. -/
theorem Query.Scoped.congr (hruns : SharedScope restricted resolved d₁ d₂)
    {ctes : Ctes V} : ∀ (q : Query), q.Scoped catalog restricted (ctes.map Prod.fst) →
    ∀ frames env, denoteQuery d₁ fuel ctes frames env (q.rewrite (rowScope resolved)) =
      denoteQuery d₂ fuel ctes frames env (q.rewrite (rowScope resolved))
  | .select distinct expressions from_ joins where_ group having order slice, h => by
      obtain ⟨hexpressions, hfrom, hjoins, hwhere, hgroup, hhaving, horder⟩ := h
      intro frames env
      obtain ⟨hvalues, hheaders⟩ :=
        Projection.Scoped.congr hruns expressions hexpressions
      obtain ⟨-, -, hgroup, -⟩ := Expr.Scoped.congrList hruns group hgroup
      obtain ⟨-, -, -, horder⟩ := Expr.Scoped.congrList hruns order horder
      replace hhaving := Expr.Scoped.congrOption hruns having hhaving
      replace hwhere := Expr.Scoped.congrOption hruns where_ hwhere
      obtain ⟨items, hclause⟩ := Join.Scoped.guarded hruns (qualifiers from_ joins) joins hjoins
        (fun j hj q hq => mem_qualifiers.mpr
          ⟨j.source, List.mem_append_right _ (List.mem_map_of_mem hj), hq⟩) frames env
        (Source.Scoped.guardedFrom hruns (qualifiers from_ joins) from_ hfrom
          (fun s hs q hq => mem_qualifiers.mpr
            ⟨s, List.mem_append_left _ (hs ▸ List.mem_singleton_self s), hq⟩) frames env)
      simp only [Query.rewrite, denoteQuery]
      rcases hleft : denoteJoins d₁ fuel ctes frames env (denoteFrom d₁ fuel ctes frames env
        (Source.rewriteOption (rowScope resolved) from_))
        (Join.rewriteList (rowScope resolved) joins) with ⟨frame, rows⟩
      rcases hright : denoteJoins d₂ fuel ctes frames env (denoteFrom d₂ fuel ctes frames env
        (Source.rewriteOption (rowScope resolved) from_))
        (Join.rewriteList (rowScope resolved) joins) with ⟨frame', rows'⟩
      rw [hleft, hright] at hclause
      obtain rfl : frame = frame' := hclause.frame
      -- both runs keep rows in scope only, and judge each the same
      have hkept : (rows.filter fun row => holds d₁ fuel ctes (frame :: frames) (row :: env) []
          ((rowScope resolved).where_ from_ joins
            (Expr.rewriteOption (rowScope resolved) where_))) =
          rows'.filter fun row => holds d₂ fuel ctes (frame :: frames) (row :: env) []
            ((rowScope resolved).where_ from_ joins
              (Expr.rewriteOption (rowScope resolved) where_)) := by
        simp only [where_rowScope]
        rw [filter_addPredicates hclause.recorded hclause.reached _ rows, hclause.rows,
          filter_addPredicates hclause.recorded hclause.reached _ rows']
        refine List.filter_congr fun row _ => ?_
        rw [holds_addPredicates, holds_addPredicates, hwhere]
        congr 1
        exact all_congr_mem fun p hp => by rw [denoteExpr_scopePredicates_congr hp]
      simp only [hkept, hhaving, hvalues, hheaders, hgroup, horder]
  | .setOperation op all l r order slice, h => by
      obtain ⟨hl, hr, horder⟩ := h
      intro frames env
      replace horder := (Expr.Scoped.congrList hruns order horder).2.2.2
      simp only [Query.rewrite, denoteQuery, Query.Scoped.congr hruns l hl,
        Query.Scoped.congr hruns r hr, horder]
  | .with_ recursive cs q, h => by
      intro frames env
      simp only [Query.Scoped] at h
      simp only [Query.rewrite, denoteQuery]
      split at h
      · rw [if_pos ‹_›, if_pos ‹_›]
        have hround : ∀ tables : Ctes V, tables.map Prod.fst =
            (Cte.rewriteList (rowScope resolved) cs).map Cte.name →
            denoteCtesTogether d₁ fuel (tables ++ ctes) frames env
                (Cte.rewriteList (rowScope resolved) cs) =
              denoteCtesTogether d₂ fuel (tables ++ ctes) frames env
                (Cte.rewriteList (rowScope resolved) cs) := by
          intro tables htables
          refine Cte.Scoped.congrTogether hruns cs ?_ frames env
          rw [List.map_append, htables, map_name_rewriteList]
          exact h.1
        obtain ⟨heq, hfst⟩ := iterate_round_congr hround fuel
        rw [← heq]
        refine Query.Scoped.congr hruns q ?_ frames env
        rw [List.map_append, hfst, map_name_rewriteList]
        exact h.2
      · rw [if_neg ‹_›, if_neg ‹_›, ← Cte.Scoped.congr hruns cs h.1 frames env]
        refine Query.Scoped.congr hruns q ?_ frames env
        rw [denoteCtes_fst, map_name_rewriteList]
        exact h.2
  | .subquery q, h => by
      intro frames env
      simp only [Query.rewrite, denoteQuery, Query.Scoped.congr hruns q h]

theorem Cte.Scoped.congr (hruns : SharedScope restricted resolved d₁ d₂)
    {ctes : Ctes V} : ∀ (cs : List Cte),
    Cte.ScopedList catalog restricted (ctes.map Prod.fst) cs → ∀ frames env,
      denoteCtes d₁ fuel ctes frames env (Cte.rewriteList (rowScope resolved) cs) =
        denoteCtes d₂ fuel ctes frames env (Cte.rewriteList (rowScope resolved) cs)
  | [], _ => fun _ _ => rfl
  | .cte name columns q :: cs, h => by
      intro frames env
      simp only [Cte.rewriteList, denoteCtes, denoteCte,
        Query.Scoped.congr hruns q h.1 frames env]
      refine Cte.Scoped.congr hruns cs ?_ frames env
      exact h.2

theorem Cte.Scoped.congrTogether (hruns : SharedScope restricted resolved d₁ d₂)
    {ctes : Ctes V} : ∀ (cs : List Cte),
    Cte.ScopedTogether catalog restricted (ctes.map Prod.fst) cs → ∀ frames env,
      denoteCtesTogether d₁ fuel ctes frames env (Cte.rewriteList (rowScope resolved) cs) =
        denoteCtesTogether d₂ fuel ctes frames env (Cte.rewriteList (rowScope resolved) cs)
  | [], _ => fun _ _ => rfl
  | .cte name columns q :: cs, h => by
      intro frames env
      simp only [Cte.rewriteList, denoteCtesTogether, denoteCte,
        Query.Scoped.congr hruns q h.1 frames env,
        Cte.Scoped.congrTogether hruns cs h.2 frames env]

/-- A direct item: a physical table is guarded, anything else the same. -/
theorem Source.Scoped.guarded (hruns : SharedScope restricted resolved d₁ d₂)
    {ctes : Ctes V} (quals : List String) : ∀ (s : Source),
    s.Scoped catalog restricted (ctes.map Prod.fst) → (∀ q, s.qualifier? = some q → q ∈ quals) →
    ∀ frames env, ∃ items, Guarded resolved quals items
      (denoteSource d₁ fuel ctes frames env (s.rewrite (rowScope resolved)))
      (denoteSource d₂ fuel ctes frames env (s.rewrite (rowScope resolved)))
  | .table db name as_, h, hquals => by
      intro frames env
      simp only [Source.rewrite, denoteSource]
      cases hlookup : lookupCte ctes db name with
      | some t => exact ⟨[], Guarded.refl _⟩
      | none =>
          have hplaced := h.resolve_left (by rw [lookupCte_eq_none_iff.mp hlookup]; simp)
          exact ⟨_, Guarded.table hruns.nonempty (by simp [renamed, rename]) (hruns.agree _ _)
            (hplaced.reached hruns.columns hquals)⟩
  | .derived q as_, h, _ => by
      intro frames env
      simp only [Source.rewrite, denoteSource, Query.Scoped.congr hruns q h frames env]
      exact ⟨[], Guarded.refl _⟩
  | .paren s joins as_, h, _ => by
      intro frames env
      simp only [Source.rewrite, denoteSource, Source.Closed.congr hruns s h.1 frames env,
        Join.Closed.congr hruns joins h.2 frames env]
      exact ⟨[], Guarded.refl _⟩

theorem Source.Scoped.guardedFrom (hruns : SharedScope restricted resolved d₁ d₂)
    {ctes : Ctes V} (quals : List String) : ∀ (s : Option Source),
    Source.ScopedFrom catalog restricted (ctes.map Prod.fst) s →
    (∀ s', s = some s' → ∀ q, s'.qualifier? = some q → q ∈ quals) →
    ∀ frames env, ∃ items, Guarded resolved quals items
      (denoteFrom d₁ fuel ctes frames env (Source.rewriteOption (rowScope resolved) s))
      (denoteFrom d₂ fuel ctes frames env (Source.rewriteOption (rowScope resolved) s))
  | none, _, _ => fun _ _ => ⟨[], Guarded.refl _⟩
  | some s, h, hquals => Source.Scoped.guarded hruns quals s h (hquals s rfl)

theorem Join.Scoped.guarded (hruns : SharedScope restricted resolved d₁ d₂)
    {ctes : Ctes V} (quals : List String) : ∀ (js : List Join),
    Join.ScopedList catalog restricted (ctes.map Prod.fst) js →
    (∀ j ∈ js, ∀ q, j.source.qualifier? = some q → q ∈ quals) →
    ∀ frames env {x y}, (∃ items, Guarded resolved quals items x y) →
      ∃ items, Guarded resolved quals items
        (denoteJoins d₁ fuel ctes frames env x (Join.rewriteList (rowScope resolved) js))
        (denoteJoins d₂ fuel ctes frames env y (Join.rewriteList (rowScope resolved) js))
  | [], _, _ => fun _ _ _ _ h => h
  | .join kind s on matching :: js, h, hquals => by
      intro frames env x y ⟨items, hleft⟩
      obtain ⟨items', hright⟩ := Source.Scoped.guarded hruns quals s h.1
        (hquals _ List.mem_cons_self) frames env
      exact Join.Scoped.guarded hruns quals js h.2.2
        (fun j hj => hquals j (List.mem_cons_of_mem _ hj)) frames env
        ⟨_, hleft.denoteJoin hright (fun frames env =>
          Expr.Scoped.congrOption hruns on h.2.1 frames env []) kind matching⟩

theorem Source.Closed.congr (hruns : SharedScope restricted resolved d₁ d₂)
    {ctes : Ctes V} : ∀ (s : Source), s.Closed catalog restricted (ctes.map Prod.fst) →
    ∀ frames env, denoteSource d₁ fuel ctes frames env (s.rewrite (rowScope resolved)) =
      denoteSource d₂ fuel ctes frames env (s.rewrite (rowScope resolved))
  | .table db name as_, h => by
      intro frames env
      simp only [Source.rewrite, denoteSource]
      cases hlookup : lookupCte ctes db name with
      | some t => rfl
      | none =>
          rw [lookupCte_eq_none_iff] at hlookup
          simp only [Source.Closed, hlookup] at h
          exact absurd h Bool.false_ne_true
  | .derived q as_, h => by
      intro frames env
      simp only [Source.rewrite, denoteSource, Query.Scoped.congr hruns q h frames env]
  | .paren s joins as_, h => by
      intro frames env
      simp only [Source.rewrite, denoteSource, Source.Closed.congr hruns s h.1 frames env,
        Join.Closed.congr hruns joins h.2 frames env]

theorem Join.Closed.congr (hruns : SharedScope restricted resolved d₁ d₂)
    {ctes : Ctes V} : ∀ (js : List Join),
    Join.ClosedList catalog restricted (ctes.map Prod.fst) js → ∀ frames env left,
      denoteJoins d₁ fuel ctes frames env left (Join.rewriteList (rowScope resolved) js) =
        denoteJoins d₂ fuel ctes frames env left (Join.rewriteList (rowScope resolved) js)
  | [], _ => fun _ _ _ => rfl
  | .join kind s on matching :: js, h => by
      intro frames env left
      simp only [Join.rewriteList, denoteJoins, Sql.denoteJoin,
        Source.Closed.congr hruns s h.1 frames env,
        Expr.Scoped.congrOption hruns on h.2.1]
      exact Join.Closed.congr hruns js h.2.2 frames env _

end

/-! ## The rewrite -/

/-- The rewritten statement has one result on databases that agree on the rows
satisfying every restriction. -/
def RowsSeparated (V : Type) [Domain V] [DecidableEq V] (catalog : Catalog) (sql : String)
    (restrictions : Dict String) (principal : Principal) : Prop :=
  ∀ d₁ d₂ : Database V catalog,
    AgreeInScope (restrictionPredicates principal restrictions) d₁ d₂ →
      ∃ tree, applyRowRestrictions sql restrictions principal = .ok (.printed tree) ∧
        ∀ fuel, execute d₁ fuel tree = execute d₂ fuel tree

omit [Sqlglot] in
/-- Restrictions that agree where they name one column all reach the
statement. -/
theorem mem_resolved_iff {principal : Principal} {restrictions : Dict String}
    (hsame : ∀ r ∈ restrictions, ∀ r' ∈ restrictions, lower r.1 = lower r'.1 →
      restrictionValue? principal r.2 = restrictionValue? principal r'.2)
    (cv : String × String) :
    cv ∈ Dict.update [] (restrictionPredicates principal restrictions) ↔
      cv ∈ restrictionPredicates principal restrictions := by
  constructor
  · exact fun h => (Dict.mem_update h).resolve_left List.not_mem_nil
  · intro h
    refine Dict.mem_update_of_mem (.inr h) fun cv' h' hkey => ?_
    obtain ⟨r, hr, rfl⟩ := List.mem_map.mp h
    obtain ⟨r', hr', rfl⟩ := List.mem_map.mp h'
    rw [hsame r hr r' hr' hkey]

/-- **Rows out of scope do not interfere** with a statement whose physical
tables all stand where their predicates reach them. -/
theorem rowsSeparated_of_scoped {sql : String} {q : Query} {restrictions : Dict String}
    {principal : Principal} (hparse : parseOne sql = some q) (hne : restrictions ≠ [])
    (hcarries : Carries principal restrictions)
    (hsame : ∀ r ∈ restrictions, ∀ r' ∈ restrictions, lower r.1 = lower r'.1 →
      restrictionValue? principal r.2 = restrictionValue? principal r'.2)
    (hscoped : q.Scoped catalog (restrictions.map fun r => lower r.1) []) :
    RowsSeparated V catalog sql restrictions principal := by
  intro d₁ d₂ hagree
  have hmem := mem_resolved_iff hsame
  have hruns : SharedScope (restrictions.map fun r => lower r.1)
      (Dict.update [] (restrictionPredicates principal restrictions)) d₁ d₂ := by
    refine ⟨?_, fun cv hcv => ?_, fun db name => ?_⟩
    · obtain ⟨r, rest, rfl⟩ := List.exists_cons_of_ne_nil hne
      exact List.ne_nil_of_mem ((hmem _).mpr List.mem_cons_self)
    · obtain ⟨r, hr, rfl⟩ := List.mem_map.mp ((hmem cv).mp hcv)
      exact List.mem_map_of_mem hr
    · rw [inScope_congr_mem hmem]
      exact hagree db name
  refine ⟨_, applyRowRestrictions_of_carries hparse hne hcarries, fun fuel => ?_⟩
  rw [execute, execute]
  refine Query.Scoped.congr hruns q ?_ [] []
  exact hscoped

end Runs

/-! ## Two statements -/

/-- A principal of tenant `a`. -/
def tenantPrincipal : Principal :=
  ⟨"alice", "alice@corp.com", "a", ∅, [("tenant", .str "a")]⟩

/-- A statement reading `album` in parentheses. -/
def parenthesisedText : String := "SELECT title FROM (album)"

def parenthesisedQuery : Query :=
  .select false [.item (.column none ⟨"title", false⟩) none]
    (some (.paren (.table none ⟨"album", false⟩ none) [] none)) [] none [] none [] {}

/-- Another tenant's album is returned: a table in parentheses gets no
predicate. -/
theorem not_rowsSeparated_parenthesised :
    letI := Python.ascii
    ¬ ∀ (_ : Sqlglot) (catalog : Catalog) (sql : String) (q : Query) (restrictions : Dict String)
        (principal : Principal), parseOne sql = some q → restrictions ≠ [] →
      Carries principal restrictions → RowsSeparated Value catalog sql restrictions principal := by
  intro h
  have hcarries : @Carries Python.ascii tenantPrincipal [("tenant", "tenant")] := by
    unfold Carries
    decide
  have houtside : List.filter (@inScope (parserOf parenthesisedText parenthesisedQuery) Value _
      (@restrictionPredicates Python.ascii tenantPrincipal [("tenant", "tenant")])
      ["title", "tenant"]) [[.text "Heroes", .text "b"]] = [] := by decide
  obtain ⟨tree, htree, hequal⟩ := h (parserOf parenthesisedText parenthesisedQuery) albumCatalog
    parenthesisedText parenthesisedQuery [("tenant", "tenant")] tenantPrincipal
    (parseOne_parserOf _ _) (by decide) hcarries
    (albumDatabase []) (albumDatabase [("Heroes", "b")]) fun db name => by
      by_cases hname : name = "album"
      · subst hname
        exact houtside.symm
      · simp [albumDatabase, hname]
  rw [@applyRowRestrictions_of_carries Python.ascii (parserOf _ _) _ _ _ _ (parseOne_parserOf _ _)
    (by decide) hcarries] at htree
  obtain rfl : _ = tree := Statement.printed.inj (Except.ok.inj htree)
  have hrows := congrArg Table.rows (hequal 0)
  revert hrows
  decide

/-- A statement reading `album` in a common table expression, a derived table and a
subquery. -/
def recentText : String :=
  "WITH recent AS (SELECT a.title FROM album AS a) SELECT r.title FROM recent AS r " ++
    "JOIN (SELECT title FROM album) AS d ON r.title = d.title " ++
    "WHERE r.title IN (SELECT title FROM album)"

def recentQuery : Query :=
  .with_ false
    [.cte ⟨"recent", false⟩ []
      (.select false [.item (.column (some ⟨"a", false⟩) ⟨"title", false⟩) none]
        (some (.table none ⟨"album", false⟩ (some ⟨⟨"a", false⟩, []⟩))) [] none [] none [] {})]
    (.select false [.item (.column (some ⟨"r", false⟩) ⟨"title", false⟩) none]
      (some (.table none ⟨"recent", false⟩ (some ⟨⟨"r", false⟩, []⟩)))
      [.join .inner (.derived titleQuery (some ⟨⟨"d", false⟩, []⟩))
        (some (.eq (.column (some ⟨"r", false⟩) ⟨"title", false⟩)
          (.column (some ⟨"d", false⟩) ⟨"title", false⟩))) .none]
      (some (.in_ (.column (some ⟨"r", false⟩) ⟨"title", false⟩) titleQuery)) [] none [] {})

theorem album_placed {as_ : Option TableAlias}
    (has : as_ = none ∨ as_ = some ⟨⟨"a", false⟩, []⟩) :
    @Placed Python.ascii (parserOf recentText recentQuery) albumCatalog
      [@lower Python.ascii "tenant"] none ⟨"album", false⟩ as_ := by
  have hposition : ∀ p, Fields.position? ["title", "tenant"].zipIdx "tenant" = some p → 1 = p :=
    fun p hp => Option.some.inj (Eq.trans (by decide) hp)
  rcases has with rfl | rfl
  all_goals
    refine @Placed.mk Python.ascii (parserOf recentText recentQuery) _ _ _ _ _ (by decide)
      (by decide) fun c hc p hp => ?_
    obtain rfl := List.mem_singleton.mp hc
    obtain rfl := hposition p hp
    decide

theorem recentQuery_scoped :
    @Query.Scoped Python.ascii (parserOf recentText recentQuery) albumCatalog
      [@lower Python.ascii "tenant"] [] recentQuery := by
  simp only [recentQuery, titleQuery, Query.Scoped, Cte.ScopedList, Projection.ScopedList,
    Expr.Scoped, Source.ScopedFrom, Source.Scoped, Join.ScopedList, Expr.ScopedOption,
    Expr.ScopedList, and_true, true_and, Bool.false_eq_true, if_false]
  exact ⟨.inr (album_placed (.inr rfl)), .inl (by decide), .inr (album_placed (.inl rfl)),
    .inr (album_placed (.inl rfl))⟩

theorem rowsSeparated_of_scoped_recent :
    letI := Python.ascii
    letI := parserOf recentText recentQuery
    RowsSeparated Value albumCatalog recentText [("tenant", "tenant")] tenantPrincipal :=
  @rowsSeparated_of_scoped (parserOf recentText recentQuery) Value _ albumCatalog _ Python.ascii
    recentText recentQuery [("tenant", "tenant")] tenantPrincipal (parseOne_parserOf _ _)
    (by decide) (by unfold Carries; decide) (by decide +kernel) recentQuery_scoped

end DbGateway.Sql
