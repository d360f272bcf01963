import DbGateway.Sql.Rewrite
import DbGateway.Sql.Semantics

/-!
# DbGateway.Sql.Flow

Where the values of some columns can go.  The analysis follows the evaluation
of a statement (`DbGateway.Sql.Semantics`) with one Boolean for each value: it
is *tainted* if it may depend on a hidden column.  A query is described by a
`Shape`: its headers, its tainted outputs, and whether the rows themselves
depend on tainted data, because a condition, a key or an elimination of
duplicates looked at some.

References whose name is `nulled` read as `NULL`, so the analysis of a query
is about its rewriting by `nullColumns`.
-/

namespace DbGateway.Sql

/-- What the analysis is about. -/
structure Labels where
  /-- The references that read as `NULL`. -/
  nulled : Identifier → Bool
  /-- The hidden columns of physical tables. -/
  hidden : String → Bool
  /-- The header of a call. -/
  funcHeader : String → List String → String

/-- What is known of a result. -/
structure Shape where
  headers : List String
  /-- The rows depend on tainted data. -/
  rows : Bool
  /-- The outputs that do. -/
  columns : List Bool
deriving DecidableEq

/-- The shapes of the common table expressions in scope. -/
abbrev Shapes := List (String × Shape)

/-- What is known of a `FROM` item: its scope, whether its rows depend on
tainted data, and which columns do. -/
structure SourceShape where
  frame : Frame
  rows : Bool
  columns : List Bool

/-! ## Taints -/

/-- The taint of a position. -/
def taintAt (taints : List (List Bool)) (level position : Nat) : Bool :=
  (taints.getD level []).getD position false

def Reference.tainted (taints : List (List Bool)) : Reference → Bool
  | .column level p => taintAt taints level p
  | .record level fields => fields.any fun f => taintAt taints level f.2
  | .unresolved => false

/-- The taints of a set of fields, by header. -/
def fieldTaints (taints : List (List Bool)) (level : Nat) (fields : Fields) :
    List (String × Bool) :=
  fields.map fun f => (f.1, taintAt taints level f.2)

/-- Outputs that are tainted on either side. -/
def orTaints : List Bool → List Bool → List Bool
  | [], us => us
  | ts, [] => ts
  | t :: ts, u :: us => (t || u) :: orTaints ts us

/-- The taints of a joined row. -/
def combineTaints (left right : Frame) (shared : List (String × Nat × Nat))
    (l r : List Bool) : List Bool :=
  fit false left.width l ++ fit false right.width r ++
    shared.map fun s => l.getD s.2.1 false || r.getD s.2.2 false

/-- The equality of shared columns looks at tainted data. -/
def sharedTainted (left : Frame) (shared : List (String × Nat × Nat)) (columns : List Bool) :
    Bool :=
  shared.any fun s => columns.getD s.2.1 false || columns.getD (left.width + s.2.2) false

/-- Whether a set operation compares rows. -/
def SetOperator.compares (op : SetOperator) (all : Bool) : Bool :=
  !(op = .union && all)

/-- The shape a `WITH RECURSIVE` starts from. -/
def Cte.startShape : Cte → String × Shape
  | .cte name _ _ => (name.folded, ⟨[], false, []⟩)

/-! ## The analysis -/

section

variable (labels : Labels) (catalog : Catalog) (fuel : Nat)

/-- A key item as the rewriting leaves it. -/
def nulledKey : Expr → Expr
  | .column t n => if labels.nulled n then .literal .null else .column t n
  | e => e

mutual

/-- The value of an expression is tainted. -/
def flowExpr (ctes : Shapes) (frames : List Frame) (taints : List (List Bool)) : Expr → Bool
  | .column t n => !labels.nulled n && (resolve frames t n).tainted taints
  | .literal _ => false
  | .func _ args => flowExprs ctes frames taints args
  | .eq l r => flowExpr ctes frames taints l || flowExpr ctes frames taints r
  | .and_ l r => flowExpr ctes frames taints l || flowExpr ctes frames taints r
  | .aggregate _ args => flowExprs ctes frames taints args
  | .scalar q =>
      (flowQuery ctes frames taints q).rows ||
        (flowQuery ctes frames taints q).columns.headD false
  | .exists_ q => (flowQuery ctes frames taints q).rows
  | .in_ e q =>
      flowExpr ctes frames taints e || (flowQuery ctes frames taints q).rows ||
        (flowQuery ctes frames taints q).columns.headD false

/-- One of the expressions is tainted. -/
def flowExprs (ctes : Shapes) (frames : List Frame) (taints : List (List Bool)) :
    List Expr → Bool
  | [] => false
  | e :: es => flowExpr ctes frames taints e || flowExprs ctes frames taints es

def flowOption (ctes : Shapes) (frames : List Frame) (taints : List (List Bool)) :
    Option Expr → Bool
  | none => false
  | some e => flowExpr ctes frames taints e

/-- The header of an output without an alias. -/
def flowHeader (ctes : Shapes) (frames : List Frame) (taints : List (List Bool)) :
    Expr → String
  | .column _ n => if labels.nulled n then "?column?" else n.folded
  | .func f args => labels.funcHeader f (flowHeaders ctes frames taints args)
  | .aggregate f _ => f
  | .scalar q => (flowQuery ctes frames taints q).headers.headD "?column?"
  | .exists_ _ => "exists"
  | .literal _ => "?column?"
  | .eq _ _ => "?column?"
  | .and_ _ _ => "?column?"
  | .in_ _ _ => "?column?"

def flowHeaders (ctes : Shapes) (frames : List Frame) (taints : List (List Bool)) :
    List Expr → List String
  | [] => []
  | e :: es => flowHeader ctes frames taints e :: flowHeaders ctes frames taints es

/-- The outputs of a projection, by header. -/
def flowProject (ctes : Shapes) (frames : List Frame) (taints : List (List Bool)) :
    Projection → List (String × Bool)
  | .star => fieldTaints taints 0 (frames.headD Frame.empty).visible
  | .tableStar t =>
      -- a nulled star is one output
      if labels.nulled ⟨"*", false⟩ then [("*", false)]
      else
        match tableFields frames t with
        | some (level, fields) => fieldTaints taints level fields
        | none => []
  | .item e (some a) => [(a.folded, flowExpr ctes frames taints e)]
  | .item (.column t n) none =>
      -- a nulled projection keeps its name
      if labels.nulled n then [(Identifier.folded ⟨n.name, false⟩, false)]
      else [(n.folded, (resolve frames t n).tainted taints)]
  | .item e none => [(flowHeader ctes frames taints e, flowExpr ctes frames taints e)]

def flowProjectAll (ctes : Shapes) (frames : List Frame) (taints : List (List Bool)) :
    List Projection → List (String × Bool)
  | [] => []
  | p :: ps => flowProject ctes frames taints p ++ flowProjectAll ctes frames taints ps

/-- A grouping key looks at tainted data. -/
def flowGroupKey (ctes : Shapes) (frames : List Frame) (taints : List (List Bool))
    (headers : List String) (columns : List Bool) : List Expr → Bool
  | [] => false
  | e :: es =>
      (match groupOutput? headers (frames.headD Frame.empty) (nulledKey labels e) with
        | some i => columns.getD i false
        | none => flowExpr ctes frames taints e) ||
      flowGroupKey ctes frames taints headers columns es

/-- A sort key looks at tainted data. -/
def flowOrderKey (ctes : Shapes) (frames : List Frame) (taints : List (List Bool))
    (headers : List String) (columns : List Bool) : List Expr → Bool
  | [] => false
  | e :: es =>
      (match orderOutput? headers (nulledKey labels e) with
        | some i => columns.getD i false
        | none => flowExpr ctes frames taints e) ||
      flowOrderKey ctes frames taints headers columns es

/-- The shape of a query. -/
def flowQuery (ctes : Shapes) (frames : List Frame) (taints : List (List Bool)) : Query → Shape
  | .select distinct expressions from_ joins where_ group having order _ =>
      let source := flowJoins ctes frames taints (flowFrom ctes frames taints from_) joins
      let frames := source.frame :: frames
      let taints := source.columns :: taints
      let outputs := flowProjectAll ctes frames taints expressions
      let headers := outputs.map Prod.fst
      let columns := outputs.map Prod.snd
      { headers
        rows := source.rows || flowOption ctes frames taints where_ ||
          flowGroupKey ctes frames taints headers columns group ||
          flowOption ctes frames taints having ||
          flowOrderKey ctes frames taints headers columns order || (distinct && columns.any id)
        columns }
  | .setOperation op all l r order _ =>
      let left := flowQuery ctes frames taints l
      let right := flowQuery ctes frames taints r
      let same := decide (left.headers.length = right.headers.length)
      let columns := if same then orTaints left.columns right.columns else left.columns
      { headers := left.headers
        rows := left.rows || (same && (right.rows || (op.compares all && columns.any id))) ||
          flowOrderKey ctes frames taints left.headers columns order
        columns }
  | .with_ recursive cs q =>
      if recursive then
        let round := fun shapes => flowCtesTogether (shapes ++ ctes) frames taints cs
        flowQuery (Nat.iterate round fuel (cs.map Cte.startShape) ++ ctes) frames taints q
      else flowQuery (flowCtes ctes frames taints cs) frames taints q
  | .subquery q => flowQuery ctes frames taints q

def flowCte (ctes : Shapes) (frames : List Frame) (taints : List (List Bool)) :
    Cte → String × Shape
  | .cte name columns q =>
      let s := flowQuery ctes frames taints q
      (name.folded, { s with headers := rename columns s.headers })

def flowCtes (ctes : Shapes) (frames : List Frame) (taints : List (List Bool)) :
    List Cte → Shapes
  | [] => ctes
  | c :: cs => flowCtes (flowCte ctes frames taints c :: ctes) frames taints cs

def flowCtesTogether (ctes : Shapes) (frames : List Frame) (taints : List (List Bool)) :
    List Cte → Shapes
  | [] => []
  | c :: cs => flowCte ctes frames taints c :: flowCtesTogether ctes frames taints cs

def flowSource (ctes : Shapes) (frames : List Frame) (taints : List (List Bool)) :
    Source → SourceShape
  | .table db name as_ =>
      let alias_ := ((as_.map TableAlias.name).getD name).folded
      match lookupCte ctes db name with
      | some s => ⟨Frame.item alias_ (renamed as_ s.headers), s.rows, s.columns⟩
      | none =>
          let columns := catalog (db.map Identifier.folded) name.folded
          ⟨Frame.item alias_ (renamed as_ columns), false, columns.map labels.hidden⟩
  | .derived q as_ =>
      let s := flowQuery ctes frames taints q
      ⟨Frame.item (as_.map fun a => a.name.folded) (renamed as_ s.headers), s.rows, s.columns⟩
  | .paren s joins as_ =>
      let source := flowJoins ctes frames taints (flowSource ctes frames taints s) joins
      { source with frame := source.frame.under as_ }

def flowFrom (ctes : Shapes) (frames : List Frame) (taints : List (List Bool)) :
    Option Source → SourceShape
  | none => ⟨Frame.empty, false, []⟩
  | some s => flowSource ctes frames taints s

def flowJoin (ctes : Shapes) (frames : List Frame) (taints : List (List Bool))
    (left : SourceShape) : Join → SourceShape
  | .join _ s on matching =>
      let right := flowSource ctes frames taints s
      let shared := left.frame.shared right.frame matching
      let frame := left.frame.join right.frame shared
      let columns := combineTaints left.frame right.frame shared left.columns right.columns
      { frame
        rows := left.rows || right.rows || sharedTainted left.frame shared columns ||
          flowOption ctes (frame :: frames) (columns :: taints) on
        columns }

def flowJoins (ctes : Shapes) (frames : List Frame) (taints : List (List Bool))
    (left : SourceShape) : List Join → SourceShape
  | [] => left
  | j :: js => flowJoins ctes frames taints (flowJoin ctes frames taints left j) js

end

/-- The shape of a statement. -/
def flow (q : Query) : Shape := flowQuery labels catalog fuel [] [] [] q

end

end DbGateway.Sql
