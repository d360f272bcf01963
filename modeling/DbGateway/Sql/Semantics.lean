import DbGateway.Rows
import DbGateway.Sql.Scope
import Mathlib.Data.List.GetD

/-!
# DbGateway.Sql.Semantics

What a query returns over a database.  Scalar functions, aggregates and
comparisons are those of a `Domain`; the relational part is written out:
joins of every kind, `WHERE`, grouping, `HAVING`, projection with stars,
`DISTINCT`, ordering and limits, set operations, correlated subqueries and
`WITH [RECURSIVE]`.

A table is a list of rows, so results have an order.  `WITH RECURSIVE` is
evaluated by iteration from empty tables; `fuel` bounds the rounds.  A reference
PostgreSQL rejects reads as `NULL`: whether a query is rejected depends on its
text alone.
-/

namespace DbGateway.Sql

open Rows

/-- The values of a database and what is computed on them. -/
class Domain (V : Type) where
  literal : Literal → V
  /-- Operators, functions and casts. -/
  func : String → List V → V
  eq : V → V → V
  and_ : V → V → V
  /-- A condition holds: it is neither false nor `NULL`. -/
  isTrue : V → Bool
  aggregate : String → List (List V) → V
  /-- A whole row as a value. -/
  record : List (String × V) → V
  ofBool : Bool → V
  /-- `IN` a list of values. -/
  member : V → List V → V
  /-- The order of sort keys, given which are descending. -/
  le : List Bool → List V → List V → Bool
  /-- The header of a call, given those of its arguments. -/
  funcHeader : String → List String → String
  isTrue_and : ∀ a b, isTrue (and_ a b) = (isTrue a && isTrue b)
  isTrue_null_eq : ∀ v, isTrue (eq (literal .null) v) = false

/-- The columns of the physical tables, by schema and name. -/
abbrev Catalog := Option String → String → List String

abbrev Row (V : Type) := List V

/-- The rows of the physical tables, of the catalog's widths. -/
structure Database (V : Type) (catalog : Catalog) where
  rows : Option String → String → List (Row V)
  width : ∀ db name, ∀ row ∈ rows db name, row.length = (catalog db name).length

/-- A result: headers and rows. -/
structure Table (V : Type) where
  headers : List String
  rows : List (Row V)

variable {V : Type}

/-! ## Rows -/

/-- The first `width` entries, filled up with a default. -/
def fit {α : Type} (default : α) (width : Nat) (row : List α) : List α :=
  (List.range width).map fun i => row.getD i default

def JoinKind.keepsLeft : JoinKind → Bool
  | .left => true
  | .full => true
  | _ => false

def JoinKind.keepsRight : JoinKind → Bool
  | .right => true
  | .full => true
  | _ => false

section

variable [Domain V]

/-- SQL `NULL`. -/
def null : V := Domain.literal Literal.null

/-- The value at a position of an environment of rows. -/
def valueAt (env : List (Row V)) (level position : Nat) : V :=
  (env.getD level []).getD position null

/-- What a reference reads. -/
def Reference.value (env : List (Row V)) : Reference → V
  | .column level p => valueAt env level p
  | .record level fields => Domain.record (fields.map fun f => (f.1, valueAt env level f.2))
  | .unresolved => null

/-- The values of a set of fields of one level. -/
def fieldValues (env : List (Row V)) (level : Nat) (fields : Fields) : List V :=
  fields.map fun f => valueAt env level f.2

variable [DecidableEq V]

/-- The value of a merged column. -/
def coalesce (a b : V) : V := if a = null then b else a

/-- The row of a join. -/
def combine (left right : Frame) (shared : List (String × Nat × Nat)) (l r : Row V) : Row V :=
  fit null left.width l ++ fit null right.width r ++
    shared.map fun s => coalesce (l.getD s.2.1 null) (r.getD s.2.2 null)

theorem getD_fit {α : Type} {default : α} {width i : Nat} {row : List α} (h : i < width) :
    (fit default width row).getD i default = row.getD i default := by
  simp [fit, List.getD_eq_getElem?_getD, h]

section Combine

variable {left right : Frame} {shared : List (String × Nat × Nat)} {l r : Row V}

theorem combine_getD_left {i : Nat} (h : i < left.width) :
    (combine left right shared l r).getD i null = l.getD i null := by
  rw [combine, List.append_assoc, List.getD_append _ _ _ _ (by simpa [fit] using h), getD_fit h]

theorem combine_getD_right {j : Nat} (h : j < right.width) :
    (combine left right shared l r).getD (left.width + j) null = r.getD j null := by
  have hleft : (fit null left.width l : Row V).length = left.width := by simp [fit]
  rw [combine, List.append_assoc, List.getD_append_right _ _ _ _ (by rw [hleft]; omega), hleft,
    Nat.add_sub_cancel_left, List.getD_append _ _ _ _ (by simpa [fit] using h), getD_fit h]

end Combine

/-- The shared columns are equal. -/
def sharedEqual (left : Frame) (shared : List (String × Nat × Nat)) (row : Row V) : Bool :=
  shared.all fun s =>
    Domain.isTrue (Domain.eq (row.getD s.2.1 null) (row.getD (left.width + s.2.2) null))

/-- `DISTINCT`, `ORDER BY`, `OFFSET` and `LIMIT` over rows with their sort
keys. -/
def finish (distinct ordered : Bool) (slice : Slice) (rows : List (Row V × Row V)) :
    List (Row V) :=
  let rows := if distinct then dedupOn Prod.snd rows else rows
  let rows := if ordered then sortOn (Domain.le slice.descending) Prod.fst rows else rows
  let rows := (rows.map Prod.snd).drop slice.offset
  match slice.limit with
  | none => rows
  | some n => rows.take n

/-- A set operation on rows. -/
def SetOperator.apply (op : SetOperator) (all : Bool) (left right : List (Row V)) :
    List (Row V) :=
  match op, all with
  | .union, true => left ++ right
  | .union, false => dedupOn id (left ++ right)
  | .intersect, true => left.bagInter right
  | .intersect, false => dedupOn id (left.filter (· ∈ right))
  | .except, true => left.diff right
  | .except, false => dedupOn id (left.filter (· ∉ right))

end

/-- The tables a `WITH RECURSIVE` starts from. -/
def Cte.start : Cte → String × Table V
  | .cte name _ _ => (name.folded, ⟨[], []⟩)

theorem map_start_fst (cs : List Cte) :
    (cs.map (Cte.start (V := V))).map Prod.fst = cs.map Cte.name := by
  rw [List.map_map]
  exact List.map_congr_left fun ⟨_, _, _⟩ _ => rfl

/-- The common table expressions in scope, innermost first. -/
abbrev Ctes (V : Type) := List (String × Table V)

/-- A table reference bound by a common table expression. -/
def lookupCte {α : Type} (ctes : List (String × α)) (db : Option Identifier) (name : Identifier) :
    Option α :=
  if db.isNone then ctes.lookup name.folded else none

/-! ## Queries -/

section Denote

variable [Domain V] [DecidableEq V] {catalog : Catalog} (d : Database V catalog) (fuel : Nat)

mutual

/-- The value of an expression; `group` are the rows its aggregates range
over. -/
def denoteExpr (ctes : Ctes V) (frames : List Frame) (env group : List (Row V)) : Expr → V
  | .column t n => (resolve frames t n).value env
  | .literal l => Domain.literal l
  | .func f args => Domain.func f (denoteExprs ctes frames env group args)
  | .eq l r => Domain.eq (denoteExpr ctes frames env group l) (denoteExpr ctes frames env group r)
  | .and_ l r =>
      Domain.and_ (denoteExpr ctes frames env group l) (denoteExpr ctes frames env group r)
  | .aggregate f args =>
      Domain.aggregate f (group.map fun row => denoteExprs ctes frames (row :: env.tail) [] args)
  | .scalar q => ((denoteQuery ctes frames env q).rows.headD []).headD null
  | .exists_ q => Domain.ofBool (!(denoteQuery ctes frames env q).rows.isEmpty)
  | .in_ e q =>
      Domain.member (denoteExpr ctes frames env group e)
        ((denoteQuery ctes frames env q).rows.map fun row => row.headD null)

def denoteExprs (ctes : Ctes V) (frames : List Frame) (env group : List (Row V)) :
    List Expr → List V
  | [] => []
  | e :: es => denoteExpr ctes frames env group e :: denoteExprs ctes frames env group es

/-- A condition; a missing one holds. -/
def holds (ctes : Ctes V) (frames : List Frame) (env group : List (Row V)) : Option Expr → Bool
  | none => true
  | some e => Domain.isTrue (denoteExpr ctes frames env group e)

/-- The header of an output without an alias. -/
def headerOf (ctes : Ctes V) (frames : List Frame) (env : List (Row V)) : Expr → String
  | .column _ n => n.folded
  | .func f args => Domain.funcHeader V f (headersOf ctes frames env args)
  | .aggregate f _ => f
  | .scalar q => (denoteQuery ctes frames env q).headers.headD "?column?"
  | .exists_ _ => "exists"
  | .literal _ => "?column?"
  | .eq _ _ => "?column?"
  | .and_ _ _ => "?column?"
  | .in_ _ _ => "?column?"

def headersOf (ctes : Ctes V) (frames : List Frame) (env : List (Row V)) : List Expr → List String
  | [] => []
  | e :: es => headerOf ctes frames env e :: headersOf ctes frames env es

/-- The outputs of a projection. -/
def project (ctes : Ctes V) (frames : List Frame) (env group : List (Row V)) :
    Projection → List V
  | .star => fieldValues env 0 (frames.headD Frame.empty).visible
  | .tableStar t =>
      match tableFields frames t with
      | some (level, fields) => fieldValues env level fields
      | none => []
  | .item e _ => [denoteExpr ctes frames env group e]

def projectAll (ctes : Ctes V) (frames : List Frame) (env group : List (Row V)) :
    List Projection → List V
  | [] => []
  | p :: ps => project ctes frames env group p ++ projectAll ctes frames env group ps

/-- The headers of a projection. -/
def projectHeaders (ctes : Ctes V) (frames : List Frame) (env : List (Row V)) :
    Projection → List String
  | .star => (frames.headD Frame.empty).visible.map (·.1)
  | .tableStar t =>
      match tableFields frames t with
      | some (_, fields) => fields.map (·.1)
      | none => []
  | .item _ (some a) => [a.folded]
  | .item e none => [headerOf ctes frames env e]

def projectAllHeaders (ctes : Ctes V) (frames : List Frame) (env : List (Row V)) :
    List Projection → List String
  | [] => []
  | p :: ps => projectHeaders ctes frames env p ++ projectAllHeaders ctes frames env ps

/-- The grouping key of a row, whose outputs may be named by it. -/
def groupKey (ctes : Ctes V) (frames : List Frame) (env : List (Row V)) (headers : List String)
    (outputs : Row V) : List Expr → Row V
  | [] => []
  | e :: es =>
      (match groupOutput? headers (frames.headD Frame.empty) e with
        | some i => outputs.getD i null
        | none => denoteExpr ctes frames env [] e) ::
      groupKey ctes frames env headers outputs es

/-- The sort key of a row. -/
def orderKey (ctes : Ctes V) (frames : List Frame) (env group : List (Row V))
    (headers : List String) (outputs : Row V) : List Expr → Row V
  | [] => []
  | e :: es =>
      (match orderOutput? headers e with
        | some i => outputs.getD i null
        | none => denoteExpr ctes frames env group e) ::
      orderKey ctes frames env group headers outputs es

/-- The result of a query. -/
def denoteQuery (ctes : Ctes V) (frames : List Frame) (env : List (Row V)) : Query → Table V
  | .select distinct expressions from_ joins where_ group having order slice =>
      let (frame, rows) := denoteJoins ctes frames env (denoteFrom ctes frames env from_) joins
      let frames := frame :: frames
      let headers := projectAllHeaders ctes frames ([] :: env) expressions
      let kept := rows.filter fun row => holds ctes frames (row :: env) [] where_
      let units :=
        if isGrouped expressions group having order then
          if group.isEmpty then [kept]
          else groupOn (fun row => groupKey ctes frames (row :: env) headers
            (projectAll ctes frames (row :: env) [row] expressions) group) kept
        else kept.map ([·])
      let units := units.filter fun unit => holds ctes frames (unit.headD [] :: env) unit having
      let outputs := units.map fun unit =>
        let outputs := projectAll ctes frames (unit.headD [] :: env) unit expressions
        (orderKey ctes frames (unit.headD [] :: env) unit headers outputs order, outputs)
      ⟨headers, finish distinct (!order.isEmpty) slice outputs⟩
  | .setOperation op all l r order slice =>
      let left := denoteQuery ctes frames env l
      let right := denoteQuery ctes frames env r
      -- operands of different widths are rejected
      let rows :=
        if left.headers.length = right.headers.length then op.apply all left.rows right.rows
        else left.rows
      ⟨left.headers, finish false (!order.isEmpty) slice (rows.map fun row =>
        (orderKey ctes frames env [] left.headers row order, row))⟩
  | .with_ recursive cs q =>
      if recursive then
        let round := fun tables => denoteCtesTogether (tables ++ ctes) frames env cs
        denoteQuery (Nat.iterate round fuel (cs.map Cte.start) ++ ctes) frames env q
      else denoteQuery (denoteCtes ctes frames env cs) frames env q
  | .subquery q => denoteQuery ctes frames env q

def denoteCte (ctes : Ctes V) (frames : List Frame) (env : List (Row V)) : Cte → String × Table V
  | .cte name columns q =>
      let t := denoteQuery ctes frames env q
      (name.folded, ⟨rename columns t.headers, t.rows⟩)

/-- Each common table expression sees the ones before it. -/
def denoteCtes (ctes : Ctes V) (frames : List Frame) (env : List (Row V)) : List Cte → Ctes V
  | [] => ctes
  | c :: cs => denoteCtes (denoteCte ctes frames env c :: ctes) frames env cs

/-- One round of a recursive clause: all see the same tables. -/
def denoteCtesTogether (ctes : Ctes V) (frames : List Frame) (env : List (Row V)) :
    List Cte → Ctes V
  | [] => []
  | c :: cs => denoteCte ctes frames env c :: denoteCtesTogether ctes frames env cs

/-- The scope and rows of a `FROM` item. -/
def denoteSource (ctes : Ctes V) (frames : List Frame) (env : List (Row V)) :
    Source → Frame × List (Row V)
  | .table db name as_ =>
      let alias_ := ((as_.map TableAlias.name).getD name).folded
      match lookupCte ctes db name with
      | some t => (Frame.item alias_ (renamed as_ t.headers), t.rows)
      | none =>
          (Frame.item alias_ (renamed as_ (catalog (db.map Identifier.folded) name.folded)),
            d.rows (db.map Identifier.folded) name.folded)
  | .derived q as_ =>
      let t := denoteQuery ctes frames env q
      (Frame.item (as_.map fun a => a.name.folded) (renamed as_ t.headers), t.rows)
  | .paren s joins as_ =>
      let (frame, rows) := denoteJoins ctes frames env (denoteSource ctes frames env s) joins
      (frame.under as_, rows)

def denoteFrom (ctes : Ctes V) (frames : List Frame) (env : List (Row V)) :
    Option Source → Frame × List (Row V)
  | none => (Frame.empty, [[]])
  | some s => denoteSource ctes frames env s

def denoteJoin (ctes : Ctes V) (frames : List Frame) (env : List (Row V))
    (left : Frame × List (Row V)) : Join → Frame × List (Row V)
  | .join kind s on matching =>
      let right := denoteSource ctes frames env s
      let shared := left.1.shared right.1 matching
      let frame := left.1.join right.1 shared
      (frame, join (combine left.1 right.1 shared)
        (fun row => sharedEqual left.1 shared row &&
          holds ctes (frame :: frames) (row :: env) [] on)
        kind.keepsLeft kind.keepsRight [] [] left.2 right.2)

def denoteJoins (ctes : Ctes V) (frames : List Frame) (env : List (Row V))
    (left : Frame × List (Row V)) : List Join → Frame × List (Row V)
  | [] => left
  | j :: js => denoteJoins ctes frames env (denoteJoin ctes frames env left j) js

end

/-! ## Names of common table expressions -/

theorem denoteCte_fst (ctes : Ctes V) (frames : List Frame) (env : List (Row V)) (c : Cte) :
    (denoteCte d fuel ctes frames env c).1 = c.name := by
  cases c
  rfl

theorem denoteCtes_fst (ctes : Ctes V) (frames : List Frame) (env : List (Row V))
    (cs : List Cte) :
    (denoteCtes d fuel ctes frames env cs).map Prod.fst =
      (cs.map Cte.name).reverse ++ ctes.map Prod.fst := by
  induction cs generalizing ctes with
  | nil => rfl
  | cons c cs ih =>
      rw [denoteCtes, ih, List.map_cons, denoteCte_fst]
      simp

theorem denoteCtesTogether_fst (ctes : Ctes V) (frames : List Frame) (env : List (Row V))
    (cs : List Cte) :
    (denoteCtesTogether d fuel ctes frames env cs).map Prod.fst = cs.map Cte.name := by
  induction cs with
  | nil => rfl
  | cons c cs ih => rw [denoteCtesTogether, List.map_cons, ih, denoteCte_fst, List.map_cons]

/-- A statement, executed. -/
def execute (q : Query) : Table V := denoteQuery d fuel [] [] [] q

end Denote

end DbGateway.Sql
