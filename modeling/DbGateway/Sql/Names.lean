import DbGateway.Sql.Rewrite
import DbGateway.Sql.Semantics

/-!
# DbGateway.Sql.Names

The names a statement gives before it runs: the headers of every query and the
scope of every `FROM` clause depend on the catalog alone
(`headers_denoteQuery`, `frame_denoteSource`), and a rewriting that leaves the
column references keeps them (`namesQuery_rewrite`, `frameSource_rewrite`).
-/

namespace DbGateway.Sql

/-- The headers of the common table expressions in scope. -/
abbrev Names := List (String × List String)

/-- The names a `WITH RECURSIVE` starts from. -/
def Cte.startNames (c : Cte) : String × List String := (c.name, [])

/-! ## Headers and scopes -/

section

variable (catalog : Catalog) (fuel : Nat) (funcHeader : String → List String → String)

mutual

/-- The header of an output without an alias. -/
def nameOf (ctes : Names) (frames : List Frame) : Expr → String
  | .column _ n => n.folded
  | .func f args => funcHeader f (namesOf ctes frames args)
  | .aggregate f _ => f
  | .scalar q => (namesQuery ctes frames q).headD "?column?"
  | .exists_ _ => "exists"
  | .literal _ => "?column?"
  | .eq _ _ => "?column?"
  | .and_ _ _ => "?column?"
  | .in_ _ _ => "?column?"

def namesOf (ctes : Names) (frames : List Frame) : List Expr → List String
  | [] => []
  | e :: es => nameOf ctes frames e :: namesOf ctes frames es

/-- The headers of a projection. -/
def namesProject (ctes : Names) (frames : List Frame) : Projection → List String
  | .star => (frames.headD Frame.empty).visible.map (·.1)
  | .tableStar t =>
      match tableFields frames t with
      | some (_, fields) => fields.map (·.1)
      | none => []
  | .item _ (some a) => [a.folded]
  | .item e none => [nameOf ctes frames e]

def namesProjectAll (ctes : Names) (frames : List Frame) : List Projection → List String
  | [] => []
  | p :: ps => namesProject ctes frames p ++ namesProjectAll ctes frames ps

/-- The headers of a query. -/
def namesQuery (ctes : Names) (frames : List Frame) : Query → List String
  | .select _ expressions from_ joins _ _ _ _ _ =>
      namesProjectAll ctes (frameJoins ctes frames (frameFrom ctes frames from_) joins :: frames)
        expressions
  | .setOperation _ _ l _ _ _ => namesQuery ctes frames l
  | .with_ recursive cs q =>
      if recursive then
        let round := fun names => namesCtesTogether (names ++ ctes) frames cs
        namesQuery (Nat.iterate round fuel (cs.map Cte.startNames) ++ ctes) frames q
      else namesQuery (namesCtes ctes frames cs) frames q
  | .subquery q => namesQuery ctes frames q

def namesCte (ctes : Names) (frames : List Frame) : Cte → String × List String
  | .cte name columns q => (name.folded, rename columns (namesQuery ctes frames q))

/-- Each common table expression sees the ones before it. -/
def namesCtes (ctes : Names) (frames : List Frame) : List Cte → Names
  | [] => ctes
  | c :: cs => namesCtes (namesCte ctes frames c :: ctes) frames cs

/-- One round of a recursive clause. -/
def namesCtesTogether (ctes : Names) (frames : List Frame) : List Cte → Names
  | [] => []
  | c :: cs => namesCte ctes frames c :: namesCtesTogether ctes frames cs

/-- The scope of a `FROM` item. -/
def frameSource (ctes : Names) (frames : List Frame) : Source → Frame
  | .table db name as_ =>
      Frame.item ((as_.map TableAlias.name).getD name).folded
        (renamed as_ ((lookupCte ctes db name).getD
          (catalog (db.map Identifier.folded) name.folded)))
  | .derived q as_ =>
      Frame.item (as_.map fun a => a.name.folded) (renamed as_ (namesQuery ctes frames q))
  | .paren s joins as_ => (frameJoins ctes frames (frameSource ctes frames s) joins).under as_

def frameFrom (ctes : Names) (frames : List Frame) : Option Source → Frame
  | none => Frame.empty
  | some s => frameSource ctes frames s

/-- The scope of a join, which its condition is read in. -/
def frameJoin (ctes : Names) (frames : List Frame) (left : Frame) : Join → Frame
  | .join _ s _ matching =>
      let right := frameSource ctes frames s
      left.join right (left.shared right matching)

def frameJoins (ctes : Names) (frames : List Frame) (left : Frame) : List Join → Frame
  | [] => left
  | j :: js => frameJoins ctes frames (frameJoin ctes frames left j) js

end

end

/-! ## Names of results -/

section Denote

variable {V : Type}

/-- The headers of common table expressions. -/
def heads (ctes : Ctes V) : Names := ctes.map fun c => (c.1, c.2.headers)

theorem heads_append (ctes ctes' : Ctes V) : heads (ctes ++ ctes') = heads ctes ++ heads ctes' :=
  List.map_append

theorem heads_start (cs : List Cte) :
    heads (cs.map (Cte.start (V := V))) = cs.map Cte.startNames := by
  rw [heads, List.map_map]
  exact List.map_congr_left fun ⟨_, _, _⟩ _ => rfl

theorem lookupCte_heads (ctes : Ctes V) (db : Option Identifier) (name : Identifier) :
    lookupCte (heads ctes) db name = (lookupCte ctes db name).map Table.headers := by
  cases db with
  | some _ => rfl
  | none =>
      simp only [lookupCte, Option.isNone_none, if_true]
      induction ctes with
      | nil => rfl
      | cons c ctes ih =>
          obtain ⟨n, t⟩ := c
          by_cases hname : name.folded == n
          · simp only [heads, List.map_cons, List.lookup_cons, hname, Option.map_some]
          · simpa only [heads, List.map_cons, List.lookup_cons, hname] using ih

variable [Domain V] [DecidableEq V] {catalog : Catalog} (d : Database V catalog) (fuel : Nat)

mutual

theorem headerOf_eq (ctes : Ctes V) (frames : List Frame) (env : List (Row V)) :
    ∀ e : Expr, headerOf d fuel ctes frames env e =
      nameOf catalog fuel (Domain.funcHeader V) (heads ctes) frames e
  | .column _ _ => rfl
  | .func f args => by rw [headerOf, nameOf, headersOf_eq ctes frames env args]
  | .aggregate _ _ => rfl
  | .scalar q => by rw [headerOf, nameOf, headers_denoteQuery ctes frames env q]
  | .exists_ _ => rfl
  | .literal _ => rfl
  | .eq _ _ => rfl
  | .and_ _ _ => rfl
  | .in_ _ _ => rfl

theorem headersOf_eq (ctes : Ctes V) (frames : List Frame) (env : List (Row V)) :
    ∀ es : List Expr, headersOf d fuel ctes frames env es =
      namesOf catalog fuel (Domain.funcHeader V) (heads ctes) frames es
  | [] => rfl
  | e :: es => by
      rw [headersOf, namesOf, headerOf_eq ctes frames env e, headersOf_eq ctes frames env es]

theorem projectAllHeaders_eq (ctes : Ctes V) (frames : List Frame) (env : List (Row V)) :
    ∀ ps : List Projection, projectAllHeaders d fuel ctes frames env ps =
      namesProjectAll catalog fuel (Domain.funcHeader V) (heads ctes) frames ps
  | [] => rfl
  | .star :: ps => by
      rw [projectAllHeaders, namesProjectAll, projectAllHeaders_eq ctes frames env ps]
      rfl
  | .tableStar _ :: ps => by
      rw [projectAllHeaders, namesProjectAll, projectAllHeaders_eq ctes frames env ps]
      rfl
  | .item e (some _) :: ps => by
      rw [projectAllHeaders, namesProjectAll, projectAllHeaders_eq ctes frames env ps]
      rfl
  | .item e none :: ps => by
      rw [projectAllHeaders, namesProjectAll, projectAllHeaders_eq ctes frames env ps,
        projectHeaders, namesProject, headerOf_eq ctes frames env e]

/-- **The headers of a result** are known before the query runs. -/
theorem headers_denoteQuery (ctes : Ctes V) (frames : List Frame) (env : List (Row V)) :
    ∀ q : Query, (denoteQuery d fuel ctes frames env q).headers =
      namesQuery catalog fuel (Domain.funcHeader V) (heads ctes) frames q
  | .select _ expressions from_ joins _ _ _ _ _ => by
      rw [denoteQuery, namesQuery, ← frame_denoteFrom ctes frames env from_,
        ← frame_denoteJoins ctes frames env _ joins]
      exact projectAllHeaders_eq ctes _ ([] :: env) expressions
  | .setOperation _ _ l _ _ _ => headers_denoteQuery ctes frames env l
  | .with_ recursive cs q => by
      rw [denoteQuery, namesQuery]
      cases recursive with
      | true =>
          have hrounds (n : Nat) : heads (Nat.iterate
                (fun tables => denoteCtesTogether d fuel (tables ++ ctes) frames env cs) n
                (cs.map Cte.start)) =
              Nat.iterate (fun names => namesCtesTogether catalog fuel (Domain.funcHeader V)
                (names ++ heads ctes) frames cs) n (cs.map Cte.startNames) := by
            induction n with
            | zero => exact heads_start cs
            | succ n ih =>
                rw [Function.iterate_succ_apply', Function.iterate_succ_apply', ← ih,
                  ← heads_append]
                exact heads_denoteCtesTogether _ frames env cs
          rw [if_pos rfl, if_pos rfl, headers_denoteQuery _ frames env q, heads_append, hrounds]
      | false =>
          rw [if_neg Bool.false_ne_true, if_neg Bool.false_ne_true,
            headers_denoteQuery _ frames env q, heads_denoteCtes ctes frames env cs]
  | .subquery q => headers_denoteQuery ctes frames env q

theorem heads_denoteCtes (ctes : Ctes V) (frames : List Frame) (env : List (Row V)) :
    ∀ cs : List Cte, heads (denoteCtes d fuel ctes frames env cs) =
      namesCtes catalog fuel (Domain.funcHeader V) (heads ctes) frames cs
  | [] => rfl
  | .cte name columns q :: cs => by
      rw [denoteCtes, namesCtes, heads_denoteCtes _ frames env cs, namesCte,
        ← headers_denoteQuery ctes frames env q]
      rfl

theorem heads_denoteCtesTogether (ctes : Ctes V) (frames : List Frame) (env : List (Row V)) :
    ∀ cs : List Cte, heads (denoteCtesTogether d fuel ctes frames env cs) =
      namesCtesTogether catalog fuel (Domain.funcHeader V) (heads ctes) frames cs
  | [] => rfl
  | .cte name columns q :: cs => by
      rw [denoteCtesTogether, namesCtesTogether, namesCte,
        ← heads_denoteCtesTogether ctes frames env cs, ← headers_denoteQuery ctes frames env q]
      rfl

/-- **The scope of a `FROM` item** is known before the query runs. -/
theorem frame_denoteSource (ctes : Ctes V) (frames : List Frame) (env : List (Row V)) :
    ∀ s : Source, (denoteSource d fuel ctes frames env s).1 =
      frameSource catalog fuel (Domain.funcHeader V) (heads ctes) frames s
  | .table db name as_ => by
      rw [denoteSource, frameSource, lookupCte_heads]
      cases lookupCte ctes db name with
      | none => rfl
      | some t => rfl
  | .derived q as_ => by rw [denoteSource, frameSource, headers_denoteQuery ctes frames env q]
  | .paren s joins as_ => by
      rw [denoteSource, frameSource, ← frame_denoteSource ctes frames env s,
        ← frame_denoteJoins ctes frames env _ joins]

theorem frame_denoteFrom (ctes : Ctes V) (frames : List Frame) (env : List (Row V)) :
    ∀ s : Option Source, (denoteFrom d fuel ctes frames env s).1 =
      frameFrom catalog fuel (Domain.funcHeader V) (heads ctes) frames s
  | none => rfl
  | some s => frame_denoteSource ctes frames env s

theorem frame_denoteJoins (ctes : Ctes V) (frames : List Frame) (env : List (Row V)) :
    ∀ (left : Frame × List (Row V)) (js : List Join),
      (denoteJoins d fuel ctes frames env left js).1 =
        frameJoins catalog fuel (Domain.funcHeader V) (heads ctes) frames left.1 js
  | _, [] => rfl
  | left, .join _ s _ matching :: js => by
      rw [denoteJoins, frameJoins, frame_denoteJoins ctes frames env _ js, frameJoin,
        ← frame_denoteSource ctes frames env s]
      rfl

end

end Denote

/-! ## The names of a rewritten statement -/

section Rewrite

variable {catalog : Catalog} {fuel : Nat} {funcHeader : String → List String → String}
  {w : Rewriting}

namespace Rewriting.KeepsColumns

/-- An item that names an output still does. -/
theorem orderOutput? (hw : w.KeepsColumns) (headers : List String) (e : Expr) :
    Sql.orderOutput? headers (e.rewrite w) = Sql.orderOutput? headers e := by
  cases e with
  | column t n => rw [hw.column]
  | literal l => rfl
  | _ => rfl

theorem groupOutput? (hw : w.KeepsColumns) (headers : List String) (frame : Frame) (e : Expr) :
    Sql.groupOutput? headers frame (e.rewrite w) = Sql.groupOutput? headers frame e := by
  cases e with
  | column t n => rw [hw.column]
  | literal l => rfl
  | _ => rfl

end Rewriting.KeepsColumns

theorem map_startNames_rewriteList (cs : List Cte) :
    (Cte.rewriteList w cs).map Cte.startNames = cs.map Cte.startNames := by
  have hnames := congrArg (List.map fun name => (name, ([] : List String)))
    (map_name_rewriteList w cs)
  rwa [List.map_map, List.map_map] at hnames

mutual

theorem nameOf_rewrite (hw : w.KeepsColumns) (ctes : Names) (frames : List Frame) :
    ∀ e : Expr, nameOf catalog fuel funcHeader ctes frames (e.rewrite w) =
      nameOf catalog fuel funcHeader ctes frames e
  | .column t n => by rw [hw.column]
  | .func f args => by rw [Expr.rewrite, nameOf, nameOf, namesOf_rewrite hw ctes frames args]
  | .aggregate _ _ => rfl
  | .scalar q => by rw [Expr.rewrite, nameOf, nameOf, namesQuery_rewrite hw ctes frames q]
  | .exists_ _ => rfl
  | .literal _ => rfl
  | .eq _ _ => rfl
  | .and_ _ _ => rfl
  | .in_ _ _ => rfl

theorem namesOf_rewrite (hw : w.KeepsColumns) (ctes : Names) (frames : List Frame) :
    ∀ es : List Expr, namesOf catalog fuel funcHeader ctes frames (Expr.rewriteList w es) =
      namesOf catalog fuel funcHeader ctes frames es
  | [] => rfl
  | e :: es => by
      rw [Expr.rewriteList, namesOf, namesOf, nameOf_rewrite hw ctes frames e,
        namesOf_rewrite hw ctes frames es]

theorem namesProjectAll_rewrite (hw : w.KeepsColumns) (ctes : Names) (frames : List Frame) :
    ∀ ps : List Projection,
      namesProjectAll catalog fuel funcHeader ctes frames (Projection.rewriteList w ps) =
        namesProjectAll catalog fuel funcHeader ctes frames ps
  | [] => rfl
  | .star :: ps => by
      rw [Projection.rewriteList, namesProjectAll, namesProjectAll,
        namesProjectAll_rewrite hw ctes frames ps]
      rfl
  | .tableStar t :: ps => by
      rw [Projection.rewriteList, namesProjectAll, namesProjectAll,
        namesProjectAll_rewrite hw ctes frames ps, hw.tableStar]
  | .item e (some a) :: ps => by
      rw [Projection.rewriteList, namesProjectAll, namesProjectAll,
        namesProjectAll_rewrite hw ctes frames ps, hw.item]
      rfl
  | .item e none :: ps => by
      rw [Projection.rewriteList, namesProjectAll, namesProjectAll,
        namesProjectAll_rewrite hw ctes frames ps, hw.item, namesProject, namesProject,
        nameOf_rewrite hw ctes frames e]

/-- **The headers** of a rewritten query are those of the query. -/
theorem namesQuery_rewrite (hw : w.KeepsColumns) (ctes : Names) (frames : List Frame) :
    ∀ q : Query, namesQuery catalog fuel funcHeader ctes frames (q.rewrite w) =
      namesQuery catalog fuel funcHeader ctes frames q
  | .select _ expressions from_ joins _ _ _ _ _ => by
      rw [Query.rewrite, namesQuery, namesQuery, frameFrom_rewrite hw ctes frames from_,
        frameJoins_rewrite hw ctes frames _ joins, namesProjectAll_rewrite hw ctes _ expressions]
  | .setOperation _ _ l _ _ _ => by
      rw [Query.rewrite, namesQuery, namesQuery, namesQuery_rewrite hw ctes frames l]
  | .with_ recursive cs q => by
      rw [Query.rewrite, namesQuery, namesQuery, map_startNames_rewriteList,
        namesCtes_rewrite hw ctes frames cs]
      simp only [namesCtesTogether_rewrite hw _ frames cs, namesQuery_rewrite hw _ frames q]
  | .subquery q => by
      rw [Query.rewrite, namesQuery, namesQuery, namesQuery_rewrite hw ctes frames q]

theorem namesCtes_rewrite (hw : w.KeepsColumns) (ctes : Names) (frames : List Frame) :
    ∀ cs : List Cte, namesCtes catalog fuel funcHeader ctes frames (Cte.rewriteList w cs) =
      namesCtes catalog fuel funcHeader ctes frames cs
  | [] => rfl
  | .cte name columns q :: cs => by
      rw [Cte.rewriteList, namesCtes, namesCtes, namesCte, namesCte,
        namesQuery_rewrite hw ctes frames q, namesCtes_rewrite hw _ frames cs]

theorem namesCtesTogether_rewrite (hw : w.KeepsColumns) (ctes : Names) (frames : List Frame) :
    ∀ cs : List Cte,
      namesCtesTogether catalog fuel funcHeader ctes frames (Cte.rewriteList w cs) =
        namesCtesTogether catalog fuel funcHeader ctes frames cs
  | [] => rfl
  | .cte name columns q :: cs => by
      rw [Cte.rewriteList, namesCtesTogether, namesCtesTogether, namesCte, namesCte,
        namesQuery_rewrite hw ctes frames q, namesCtesTogether_rewrite hw ctes frames cs]

/-- **The scope** of a rewritten item is that of the item. -/
theorem frameSource_rewrite (hw : w.KeepsColumns) (ctes : Names) (frames : List Frame) :
    ∀ s : Source, frameSource catalog fuel funcHeader ctes frames (s.rewrite w) =
      frameSource catalog fuel funcHeader ctes frames s
  | .table _ _ _ => rfl
  | .derived q as_ => by
      rw [Source.rewrite, frameSource, frameSource, namesQuery_rewrite hw ctes frames q]
  | .paren s joins as_ => by
      rw [Source.rewrite, frameSource, frameSource, frameSource_rewrite hw ctes frames s,
        frameJoins_rewrite hw ctes frames _ joins]

theorem frameFrom_rewrite (hw : w.KeepsColumns) (ctes : Names) (frames : List Frame) :
    ∀ s : Option Source,
      frameFrom catalog fuel funcHeader ctes frames (Source.rewriteOption w s) =
        frameFrom catalog fuel funcHeader ctes frames s
  | none => rfl
  | some s => frameSource_rewrite hw ctes frames s

theorem frameJoins_rewrite (hw : w.KeepsColumns) (ctes : Names) (frames : List Frame) :
    ∀ (left : Frame) (js : List Join),
      frameJoins catalog fuel funcHeader ctes frames left (Join.rewriteList w js) =
        frameJoins catalog fuel funcHeader ctes frames left js
  | _, [] => rfl
  | left, .join _ s _ _ :: js => by
      rw [Join.rewriteList, frameJoins, frameJoins, frameJoin, frameJoin,
        frameSource_rewrite hw ctes frames s, frameJoins_rewrite hw ctes frames _ js]

end

end Rewrite

end DbGateway.Sql
