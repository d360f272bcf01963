import DbGateway.Python

/-!
# DbGateway.Sql.Syntax

Query trees as `sqlglot` returns them for PostgreSQL: a parenthesised table or
join in `FROM` is a wrapper around a table with its joins (`Source.paren`), a
`WITH` clause belongs to the query it precedes, and a comma in `FROM` is a join
without a condition.
-/

namespace DbGateway.Sql

/-- An identifier, and whether the statement quotes it. -/
structure Identifier where
  name : String
  quoted : Bool := false
deriving DecidableEq

/-- The name PostgreSQL reads: unquoted identifiers are folded. -/
def Identifier.folded (i : Identifier) : String :=
  if i.quoted then i.name else mapChars Char.toLower i.name

/-- `AS name (columns)` after a `FROM` item. -/
structure TableAlias where
  name : Identifier
  columns : List Identifier := []
deriving DecidableEq

inductive Literal where
  | null
  | bool (b : Bool)
  | number (text : String)
  | string (text : String)
deriving DecidableEq

inductive JoinKind where
  | inner
  | left
  | right
  | full
deriving DecidableEq

/-- The columns a join equates besides its `ON` condition. -/
inductive Matching where
  | none
  | using (columns : List Identifier)
  | natural
deriving DecidableEq

inductive SetOperator where
  | union
  | intersect
  | except
deriving DecidableEq

/-- The rest of `ORDER BY`, `LIMIT` and `OFFSET`. -/
structure Slice where
  descending : List Bool := []
  limit : Option Nat := none
  offset : Nat := 0
deriving DecidableEq

mutual

inductive Expr where
  | column (table : Option Identifier) (name : Identifier)
  | literal (value : Literal)
  /-- An operator, function, `CASE` or cast. -/
  | func (name : String) (args : List Expr)
  | eq (left right : Expr)
  | and_ (left right : Expr)
  /-- `count(*)` is the aggregate without arguments. -/
  | aggregate (name : String) (args : List Expr)
  | scalar (query : Query)
  | exists_ (query : Query)
  | in_ (left : Expr) (query : Query)

inductive Projection where
  | star
  | tableStar (table : Identifier)
  | item (expr : Expr) (as_ : Option Identifier)

inductive Query where
  | select (distinct : Bool) (expressions : List Projection) (from_ : Option Source)
      (joins : List Join) (where_ : Option Expr) (group : List Expr) (having : Option Expr)
      (order : List Expr) (slice : Slice)
  | setOperation (op : SetOperator) (all : Bool) (left right : Query) (order : List Expr)
      (slice : Slice)
  | with_ (recursive : Bool) (ctes : List Cte) (query : Query)
  /-- A query in parentheses. -/
  | subquery (query : Query)

inductive Cte where
  | cte (name : Identifier) (columns : List Identifier) (query : Query)

inductive Source where
  | table (db : Option Identifier) (name : Identifier) (as_ : Option TableAlias)
  | derived (query : Query) (as_ : Option TableAlias)
  | paren (source : Source) (joins : List Join) (as_ : Option TableAlias)

inductive Join where
  | join (kind : JoinKind) (source : Source) (on : Option Expr) (matching : Matching)

end

/-- The name a common table expression binds. -/
def Cte.name : Cte → String
  | .cte name _ _ => name.folded

/-! ## Walks -/

/-- The nodes the gateway looks for. -/
inductive Node where
  | table (db : Option Identifier) (name : Identifier)
  | cte (name : Identifier)
  | column (table : Option Identifier) (name : Identifier)

mutual

/-- `walk`, restricted to the nodes of interest.  Only which nodes there are is
observable, so they are listed in the order of the text. -/
def Expr.walk : Expr → List Node
  | .column t n => [.column t n]
  | .literal _ => []
  | .func _ args => Expr.walkList args
  | .eq l r => l.walk ++ r.walk
  | .and_ l r => l.walk ++ r.walk
  | .aggregate _ args => Expr.walkList args
  | .scalar q => q.walk
  | .exists_ q => q.walk
  | .in_ e q => e.walk ++ q.walk

def Expr.walkList : List Expr → List Node
  | [] => []
  | e :: es => e.walk ++ Expr.walkList es

def Expr.walkOption : Option Expr → List Node
  | none => []
  | some e => e.walk

def Projection.walk : Projection → List Node
  | .star => []
  -- a `Column` node around a star, whose name is the star
  | .tableStar t => [.column (some t) ⟨"*", false⟩]
  | .item e _ => e.walk

def Projection.walkList : List Projection → List Node
  | [] => []
  | p :: ps => p.walk ++ Projection.walkList ps

def Query.walk : Query → List Node
  | .select _ expressions from_ joins where_ group having order _ =>
      Projection.walkList expressions ++ Source.walkOption from_ ++ Join.walkList joins ++
        Expr.walkOption where_ ++ Expr.walkList group ++ Expr.walkOption having ++
        Expr.walkList order
  | .setOperation _ _ l r order _ => l.walk ++ r.walk ++ Expr.walkList order
  | .with_ _ ctes q => Cte.walkList ctes ++ q.walk
  | .subquery q => q.walk

def Cte.walk : Cte → List Node
  | .cte name _ q => .cte name :: q.walk

def Cte.walkList : List Cte → List Node
  | [] => []
  | c :: cs => c.walk ++ Cte.walkList cs

def Source.walk : Source → List Node
  | .table db name _ => [.table db name]
  | .derived q _ => q.walk
  | .paren s joins _ => s.walk ++ Join.walkList joins

def Source.walkOption : Option Source → List Node
  | none => []
  | some s => s.walk

def Join.walk : Join → List Node
  | .join _ s on _ => s.walk ++ Expr.walkOption on

def Join.walkList : List Join → List Node
  | [] => []
  | j :: js => j.walk ++ Join.walkList js

end

/-- `root.selects` of a root that is a `Select`. -/
def Query.rootSelects : Query → Option (List Projection)
  | .select _ expressions _ _ _ _ _ _ _ => some expressions
  | .with_ _ _ q => q.rootSelects
  | .setOperation _ _ _ _ _ _ => none
  | .subquery _ => none

end DbGateway.Sql
