import DbGateway.Sql.Syntax

/-!
# DbGateway.Sql.Scope

How PostgreSQL resolves names.  A `FROM` clause makes one frame: the columns
that are visible without a qualifier, in the order of `*`, and the columns of
each table alias, all as positions in the joined row.  `USING` and `NATURAL`
append one merged position per shared column; it takes the place of the two
columns it equates.

A name is looked up in the innermost frame first; one that is no column but a
table alias is that table's whole row.
-/

namespace DbGateway.Sql

/-- Named positions of a row. -/
abbrev Fields := List (String × Nat)

namespace Fields

/-- The fields of a row that follows `offset` others. -/
def shift (offset : Nat) (fields : Fields) : Fields := fields.map fun (n, p) => (n, offset + p)

/-- The position of the one field of a name. -/
def position? (fields : Fields) (name : String) : Option Nat :=
  match fields.filter (·.1 = name) with
  | [(_, p)] => some p
  | _ => none

theorem position?_shift (offset : Nat) (fields : Fields) (name : String) :
    position? (shift offset fields) name =
      (position? fields name).map (offset + ·) := by
  have hfilter : (shift offset fields).filter (·.1 = name) =
      shift offset (fields.filter (·.1 = name)) := by
    rw [shift, List.filter_map]
    rfl
  rw [position?, position?, hfilter]
  generalize fields.filter (·.1 = name) = found
  rcases found with _ | ⟨f, _ | ⟨g, rest⟩⟩ <;> rfl

end Fields

/-- What one `FROM` clause brings into scope. -/
structure Frame where
  width : Nat
  visible : Fields
  tables : List (String × Fields)

namespace Frame

/-- No `FROM` clause. -/
def empty : Frame := ⟨0, [], []⟩

/-- A single item: its columns, and its alias if it has one. -/
def item (name : Option String) (headers : List String) : Frame where
  width := headers.length
  visible := headers.zipIdx
  tables := name.toList.map fun n => (n, headers.zipIdx)

/-- The columns a join equates, as positions left and right. -/
def shared (left right : Frame) : Matching → List (String × Nat × Nat)
  | .none => []
  | .using columns => columns.filterMap fun c =>
      match left.visible.position? c.folded, right.visible.position? c.folded with
      | some i, some j => some (c.folded, i, j)
      | _, _ => none
  | .natural => left.visible.filterMap fun (n, i) =>
      (right.visible.position? n).map fun j => (n, i, j)

/-- The scope of a join: merged columns, then the rest from left to right. -/
def join (left right : Frame) (shared : List (String × Nat × Nat)) : Frame :=
  let base := left.width + right.width
  let merged : Fields := shared.zipIdx.map fun (s, i) => (s.1, base + i)
  let rest (fields : Fields) : Fields := fields.filter fun f => f.1 ∉ shared.map (·.1)
  { width := base + shared.length
    visible := merged ++ rest left.visible ++ rest (right.visible.shift left.width)
    tables := left.tables ++ right.tables.map fun (n, fields) => (n, fields.shift left.width) }

end Frame

/-- Headers under an alias's column list. -/
def rename (columns : List Identifier) (headers : List String) : List String :=
  headers.zipIdx.map fun (h, i) => (columns[i]?.map Identifier.folded).getD h

/-- A parenthesised join under an alias: the alias hides what it wraps. -/
def Frame.under (as_ : Option TableAlias) (frame : Frame) : Frame :=
  match as_ with
  | none => frame
  | some a =>
      let visible := (rename a.columns (frame.visible.map (·.1))).zip (frame.visible.map (·.2))
      ⟨frame.width, visible, [(a.name.folded, visible)]⟩

/-- The columns of an item under its alias. -/
def renamed (as_ : Option TableAlias) (headers : List String) : List String :=
  rename ((as_.map TableAlias.columns).getD []) headers

/-! ## References -/

/-- Search the frames from the inside out for the one entry of a name. -/
def findUp {α : Type} (entries : Frame → List (String × α)) (name : String) :
    Nat → List Frame → Option (Nat × α)
  | _, [] => none
  | level, frame :: frames =>
      match (entries frame).filter (·.1 = name) with
      | [] => findUp entries name (level + 1) frames
      | [(_, a)] => some (level, a)
      | _ => none

/-- The columns of a table alias, and the level it is found at. -/
def tableFields (frames : List Frame) (table : Identifier) : Option (Nat × Fields) :=
  findUp Frame.tables table.folded 0 frames

/-- What a column reference denotes; names PostgreSQL rejects are
`unresolved`. -/
inductive Reference where
  | column (level position : Nat)
  | record (level : Nat) (fields : Fields)
  | unresolved

/-- Resolve a column reference. -/
def resolve (frames : List Frame) (table : Option Identifier) (name : Identifier) : Reference :=
  match table with
  | some t =>
      match tableFields frames t with
      | some (level, fields) =>
          match fields.position? name.folded with
          | some p => .column level p
          | none => .unresolved
      | none => .unresolved
  | none =>
      match findUp Frame.visible name.folded 0 frames with
      | some (level, p) => .column level p
      | none =>
          match tableFields frames name with
          | some (level, fields) => .record level fields
          | none => .unresolved

/-! ## Clauses that name outputs -/

/-- The output an ordinal names. -/
def ordinal? (headers : List String) : Expr → Option Nat
  | .literal (.number text) => text.toNat?.bind fun n =>
      if 1 ≤ n ∧ n ≤ headers.length then some (n - 1) else none
  | _ => none

/-- The output an `ORDER BY` item names: an ordinal, or a bare output name. -/
def orderOutput? (headers : List String) : Expr → Option Nat
  | .column none name => headers.idxOf? name.folded
  | e => ordinal? headers e

/-- The output a `GROUP BY` item names: a bare name means an input column
first. -/
def groupOutput? (headers : List String) (frame : Frame) : Expr → Option Nat
  | .column none name =>
      if frame.visible.any (·.1 = name.folded) then none else headers.idxOf? name.folded
  | e => ordinal? headers e

mutual

/-- The expression contains an aggregate of its own query. -/
def Expr.hasAggregate : Expr → Bool
  | .column _ _ => false
  | .literal _ => false
  | .func _ args => Expr.anyAggregate args
  | .eq l r => l.hasAggregate || r.hasAggregate
  | .and_ l r => l.hasAggregate || r.hasAggregate
  | .aggregate _ _ => true
  | .scalar _ => false
  | .exists_ _ => false
  | .in_ e _ => e.hasAggregate

def Expr.anyAggregate : List Expr → Bool
  | [] => false
  | e :: es => e.hasAggregate || Expr.anyAggregate es

end

def Projection.hasAggregate : Projection → Bool
  | .item e _ => e.hasAggregate
  | _ => false

/-- The rows are grouped, if only into one group. -/
def isGrouped (expressions : List Projection) (group : List Expr) (having : Option Expr)
    (order : List Expr) : Bool :=
  !group.isEmpty || having.isSome || expressions.any Projection.hasAggregate ||
    Expr.anyAggregate order

end DbGateway.Sql
