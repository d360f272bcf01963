import DbGateway.Sql.Names

/-!
# DbGateway.Sql.Lineage

The columns of physical tables whose values reach the outputs of a query: what
a projection computes with, through derived tables, common table expressions
and `UNION`.  A column that is only compared, grouped or sorted by does not
flow.
-/

namespace DbGateway.Sql

/-- A column of a physical table. -/
structure BaseColumn where
  db : Option String
  table : String
  name : String
deriving DecidableEq

/-- Where a value comes from. -/
abbrev Origins := List BaseColumn

/-- The origins of the outputs of the common table expressions in scope. -/
abbrev Lineages := List (String × List Origins)

/-- The origins of the value at a position. -/
def originAt (levels : List (List Origins)) (level position : Nat) : Origins :=
  (levels.getD level []).getD position []

def Reference.origins (levels : List (List Origins)) : Reference → Origins
  | .column level p => originAt levels level p
  | .record level fields => fields.flatMap fun f => originAt levels level f.2
  | .unresolved => []

/-- The origins of a joined row; a merged column has both. -/
def combineOrigins (left right : Frame) (shared : List (String × Nat × Nat))
    (l r : List Origins) : List Origins :=
  fit [] left.width l ++ fit [] right.width r ++
    shared.map fun s => l.getD s.2.1 [] ++ r.getD s.2.2 []

/-- The rows of a `UNION` come from both sides; the other operators keep rows of
the left one. -/
def SetOperator.origins : SetOperator → List Origins → List Origins → List Origins
  | .union, left, right =>
      if left.length = right.length then List.zipWith (· ++ ·) left right else left
  | .intersect, left, _ => left
  | .except, left, _ => left

/-- The origins a `WITH RECURSIVE` starts from. -/
def Cte.startOrigins (c : Cte) : String × List Origins := (c.name, [])

section

variable (catalog : Catalog) (fuel : Nat) (funcHeader : String → List String → String)

mutual

/-- The columns an expression computes with. -/
def originsExpr (ctes : Names) (flows : Lineages) (frames : List Frame)
    (levels : List (List Origins)) : Expr → Origins
  | .column t n => (resolve frames t n).origins levels
  | .literal _ => []
  | .func _ args => originsExprs ctes flows frames levels args
  | .eq l r => originsExpr ctes flows frames levels l ++ originsExpr ctes flows frames levels r
  | .and_ l r => originsExpr ctes flows frames levels l ++ originsExpr ctes flows frames levels r
  | .aggregate _ args => originsExprs ctes flows frames levels args
  | .scalar q => (originsQuery ctes flows frames levels q).headD []
  | .exists_ _ => []
  | .in_ e q =>
      originsExpr ctes flows frames levels e ++ (originsQuery ctes flows frames levels q).headD []

def originsExprs (ctes : Names) (flows : Lineages) (frames : List Frame)
    (levels : List (List Origins)) : List Expr → Origins
  | [] => []
  | e :: es => originsExpr ctes flows frames levels e ++ originsExprs ctes flows frames levels es

/-- The origins of the outputs of a projection. -/
def originsProject (ctes : Names) (flows : Lineages) (frames : List Frame)
    (levels : List (List Origins)) : Projection → List Origins
  | .star => (frames.headD Frame.empty).visible.map fun f => originAt levels 0 f.2
  | .tableStar t =>
      match tableFields frames t with
      | some (level, fields) => fields.map fun f => originAt levels level f.2
      | none => []
  | .item e _ => [originsExpr ctes flows frames levels e]

def originsProjectAll (ctes : Names) (flows : Lineages) (frames : List Frame)
    (levels : List (List Origins)) : List Projection → List Origins
  | [] => []
  | p :: ps =>
      originsProject ctes flows frames levels p ++ originsProjectAll ctes flows frames levels ps

/-- The origins of the outputs of a query. -/
def originsQuery (ctes : Names) (flows : Lineages) (frames : List Frame)
    (levels : List (List Origins)) : Query → List Origins
  | .select _ expressions from_ joins _ _ _ _ _ =>
      let first := frameFrom catalog fuel funcHeader ctes frames from_
      originsProjectAll ctes flows
        (frameJoins catalog fuel funcHeader ctes frames first joins :: frames)
        (originsJoins ctes flows frames levels first (originsFrom ctes flows frames levels from_)
          joins :: levels)
        expressions
  | .setOperation op _ l r _ _ =>
      op.origins (originsQuery ctes flows frames levels l)
        (originsQuery ctes flows frames levels r)
  | .with_ recursive cs q =>
      if recursive then
        let names := Nat.iterate (fun names =>
          namesCtesTogether catalog fuel funcHeader (names ++ ctes) frames cs) fuel
          (cs.map Cte.startNames) ++ ctes
        let round := fun found => originsCtesTogether names (found ++ flows) frames levels cs
        originsQuery names (Nat.iterate round fuel (cs.map Cte.startOrigins) ++ flows) frames levels
          q
      else
        originsQuery (namesCtes catalog fuel funcHeader ctes frames cs)
          (originsCtes ctes flows frames levels cs) frames levels q
  | .subquery q => originsQuery ctes flows frames levels q

def originsCte (ctes : Names) (flows : Lineages) (frames : List Frame)
    (levels : List (List Origins)) : Cte → String × List Origins
  | .cte name _ q => (name.folded, originsQuery ctes flows frames levels q)

def originsCtes (ctes : Names) (flows : Lineages) (frames : List Frame)
    (levels : List (List Origins)) : List Cte → Lineages
  | [] => flows
  | c :: cs =>
      originsCtes (namesCte catalog fuel funcHeader ctes frames c :: ctes)
        (originsCte ctes flows frames levels c :: flows) frames levels cs

def originsCtesTogether (ctes : Names) (flows : Lineages) (frames : List Frame)
    (levels : List (List Origins)) : List Cte → Lineages
  | [] => []
  | c :: cs =>
      originsCte ctes flows frames levels c :: originsCtesTogether ctes flows frames levels cs

/-- The origins of the columns of a `FROM` item. -/
def originsSource (ctes : Names) (flows : Lineages) (frames : List Frame)
    (levels : List (List Origins)) : Source → List Origins
  | .table db name _ =>
      match lookupCte flows db name with
      | some columns => columns
      | none => (catalog (db.map Identifier.folded) name.folded).map fun column =>
          [⟨db.map Identifier.folded, name.folded, column⟩]
  | .derived q _ => originsQuery ctes flows frames levels q
  | .paren s joins _ =>
      originsJoins ctes flows frames levels (frameSource catalog fuel funcHeader ctes frames s)
        (originsSource ctes flows frames levels s) joins

def originsFrom (ctes : Names) (flows : Lineages) (frames : List Frame)
    (levels : List (List Origins)) : Option Source → List Origins
  | none => []
  | some s => originsSource ctes flows frames levels s

def originsJoins (ctes : Names) (flows : Lineages) (frames : List Frame)
    (levels : List (List Origins)) (left : Frame) (columns : List Origins) :
    List Join → List Origins
  | [] => columns
  | .join kind s on matching :: js =>
      let right := frameSource catalog fuel funcHeader ctes frames s
      originsJoins ctes flows frames levels
        (frameJoin catalog fuel funcHeader ctes frames left (.join kind s on matching))
        (combineOrigins left right (left.shared right matching) columns
          (originsSource ctes flows frames levels s)) js

end

end

/-- A column's values reach the result, once the recursive clauses have had
rounds enough. -/
def Flows (catalog : Catalog) (funcHeader : String → List String → String) (q : Query)
    (column : BaseColumn) : Prop :=
  ∃ rounds, ∀ fuel ≥ rounds,
    ∃ origins ∈ originsQuery catalog fuel funcHeader [] [] [] [] q, column ∈ origins

end DbGateway.Sql
