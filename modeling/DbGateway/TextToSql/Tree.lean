import DbGateway.Sql.Syntax

/-!
# DbGateway.TextToSql.Tree

Query trees as the text-to-SQL service sees them, and the scope of their range
variables.

The pre-check looks at the whole `FROM` grammar of PostgreSQL, so it is all
here: table functions, `VALUES`, `UNNEST` and `LATERAL` besides tables and
subqueries.  Of an expression only its columns and its subqueries are kept apart.
-/

namespace DbGateway.TextToSql

open Sql (Identifier TableAlias)

mutual

inductive Expr where
  /-- `exp.Column`, with the last part of its qualifier; `t.*` is one around a
  star. -/
  | column (table : Option Identifier) (name : Identifier)
  | star
  | literal (text : String)
  /-- `exp.Alias` -/
  | alias_ (this : Expr) (name : Identifier)
  /-- `exp.AggFunc` -/
  | aggregate (name : String) (args : List Expr)
  /-- Any other operator, function, cast, row or window. -/
  | node (name : String) (args : List Expr)
  /-- `exp.Subquery` in an expression; it has no alias. -/
  | subquery (query : Query)
  | exists_ (query : Query)

inductive Query where
  /-- `distinctOn` are the expressions of `DISTINCT ON`; `clauses` those of
  `WHERE`, `HAVING`, `WINDOW`, `ORDER BY`, `LIMIT` and `OFFSET`. -/
  | select (ctes : List Cte) (distinct : Bool) (distinctOn expressions : List Expr)
      (from_ : Option Source) (joins : List Join) (group clauses : List Expr)
  | setOperation (ctes : List Cte) (left right : Query) (order : List Expr)
  /-- A query in parentheses. -/
  | subquery (ctes : List Cte) (query : Query) (order : List Expr)

inductive Cte where
  | cte (name : Identifier) (query : Query)

/-- An item of `FROM`. -/
inductive Source where
  | table (name : Identifier) (as_ : Option TableAlias)
  /-- `exp.Table` around a function -/
  | function (name : Identifier) (args : List Expr) (as_ : Option TableAlias)
  | values (rows : List Expr) (as_ : Option TableAlias)
  | unnest (args : List Expr) (as_ : Option TableAlias)
  /-- `exp.Lateral`, which takes over the alias of its subquery. -/
  | lateral (query : Query) (as_ : Option TableAlias)
  | lateralFunction (name : Identifier) (args : List Expr) (as_ : Option TableAlias)
  | derived (query : Query) (as_ : Option TableAlias)
  /-- A table or a join in parentheses, which is an `exp.Subquery` too. -/
  | paren (source : Source) (joins : List Join) (as_ : Option TableAlias)

inductive Join where
  | comma (source : Source)
  | join (source : Source) (on : Option Expr)

end

/-- What `sqlglot.parse` returns for a statement: a query, or something else. -/
inductive Statement where
  | query (q : Query)
  | other

/-! ## Nodes -/

/-- The nodes the pre-check looks for, with what it reads of them.  A name that
is not there is empty. -/
inductive Node where
  | table (alias_ name : String)
  | cte (alias_ : String)
  | subquery (alias_ : String)
  | column (table : Option Identifier) (name : Identifier)

/-- `node.alias` -/
def aliasName (as_ : Option TableAlias) : String :=
  match as_ with
  | some a => a.name.name
  | none => ""

mutual

/-- The nodes `find_all` goes through, in the order of the text. -/
def Expr.walk : Expr → List Node
  | .column table name => [.column table name]
  | .star => []
  | .literal _ => []
  | .alias_ this _ => this.walk
  | .aggregate _ args => Expr.walkList args
  | .node _ args => Expr.walkList args
  | .subquery query => .subquery "" :: query.walk
  | .exists_ query => query.walk

def Expr.walkList : List Expr → List Node
  | [] => []
  | e :: es => e.walk ++ Expr.walkList es

def Expr.walkOption : Option Expr → List Node
  | none => []
  | some e => e.walk

def Query.walk : Query → List Node
  | .select ctes _ distinctOn expressions from_ joins group clauses =>
      Cte.walkList ctes ++ Source.walkOption from_ ++ Join.walkList joins ++
        Expr.walkList distinctOn ++ Expr.walkList expressions ++ Expr.walkList group ++
        Expr.walkList clauses
  | .setOperation ctes left right order =>
      Cte.walkList ctes ++ left.walk ++ right.walk ++ Expr.walkList order
  | .subquery ctes query order =>
      .subquery "" :: (Cte.walkList ctes ++ query.walk ++ Expr.walkList order)

def Cte.walkList : List Cte → List Node
  | [] => []
  | .cte name query :: cs => .cte name.name :: query.walk ++ Cte.walkList cs

def Source.walk : Source → List Node
  | .table name as_ => [.table (aliasName as_) name.name]
  -- the name of a table node that is a function is empty
  | .function _ args as_ => .table (aliasName as_) "" :: Expr.walkList args
  | .values rows _ => Expr.walkList rows
  | .unnest args _ => Expr.walkList args
  | .lateral query _ => .subquery "" :: query.walk
  | .lateralFunction _ args _ => Expr.walkList args
  | .derived query as_ => .subquery (aliasName as_) :: query.walk
  | .paren source joins as_ =>
      .subquery (aliasName as_) :: (source.walk ++ Join.walkList joins)

def Source.walkOption : Option Source → List Node
  | none => []
  | some s => s.walk

def Join.walkList : List Join → List Node
  | [] => []
  | .comma source :: js => source.walk ++ Join.walkList js
  | .join source on :: js => source.walk ++ Expr.walkOption on ++ Join.walkList js

end

/-- The order of `find_all`, which goes breadth first through the nodes as `sqlglot`
keeps them. -/
class FindAll where
  nodes : Query → List Node
  perm : ∀ query, (nodes query).Perm query.walk

/-- In the order of the text. -/
@[reducible] def FindAll.inOrder : FindAll := ⟨Query.walk, fun _ => .refl _⟩

/-! ## Range variables -/

/-- A name that columns can be qualified with, and what gives it. -/
structure RangeVariable where
  name : Identifier
  /-- It is the name or alias of a table, or the alias of a table function or of
  a derived table. -/
  tabular : Bool

/-- The name PostgreSQL gives to `UNNEST` without an alias. -/
def unnestName : Identifier := ⟨"unnest", false⟩

/-- The range variable of an alias. -/
def aliased (tabular : Bool) (as_ : Option TableAlias) : List RangeVariable :=
  (as_.map fun a => ⟨a.name, tabular⟩).toList

/-- The range variable of a function, which is its alias or else its name. -/
def called (tabular : Bool) (name : Identifier) : Option TableAlias → List RangeVariable
  | some a => [⟨a.name, tabular⟩]
  | none => [⟨name, false⟩]

mutual

/-- The range variables a `FROM` item brings into scope.  An alias of a join
hides those of the join. -/
def Source.variables : Source → List RangeVariable
  | .table name none => [⟨name, true⟩]
  | .table _ (some a) => [⟨a.name, true⟩]
  | .function name _ as_ => called true name as_
  | .values _ as_ => aliased false as_
  | .unnest _ as_ => called false unnestName as_
  | .lateral _ as_ => aliased false as_
  | .lateralFunction name _ as_ => called false name as_
  | .derived _ as_ => aliased true as_
  | .paren source joins none => source.variables ++ Join.variables joins
  | .paren _ _ (some a) => [⟨a.name, true⟩]

def Join.variables : List Join → List RangeVariable
  | [] => []
  | .comma source :: js => source.variables ++ Join.variables js
  | .join source _ :: js => source.variables ++ Join.variables js

end

/-- The range variables of a `FROM` clause. -/
def fromVariables (from_ : Option Source) (joins : List Join) : List RangeVariable :=
  (match from_ with
    | some source => source.variables
    | none => []) ++ Join.variables joins

/-- What `ORDER BY` after a query sees: the range variables of the query, even
one in parentheses, but none of a set operation. -/
def Query.sortScope (scope : List RangeVariable) : Query → List RangeVariable
  | .select _ _ _ _ from_ joins _ _ => fromVariables from_ joins ++ scope
  | .setOperation _ _ _ _ => []
  | .subquery _ query _ => query.sortScope scope

/-! ## References -/

/-- A qualifier, and the range variable it names. -/
abbrev Reference := Identifier × Option RangeVariable

/-- The innermost range variable of the name, as PostgreSQL compares names. -/
def resolve (scope : List RangeVariable) (qualifier : Identifier) : Option RangeVariable :=
  scope.find? fun v => v.name.folded = qualifier.folded

mutual

/-- The qualifiers of a tree in a scope, the innermost range variables first. -/
def Expr.references (scope : List RangeVariable) : Expr → List Reference
  | .column none _ => []
  | .column (some qualifier) _ => [(qualifier, resolve scope qualifier)]
  | .star => []
  | .literal _ => []
  | .alias_ this _ => this.references scope
  | .aggregate _ args => Expr.referencesList scope args
  | .node _ args => Expr.referencesList scope args
  | .subquery query => query.references scope
  | .exists_ query => query.references scope

def Expr.referencesList (scope : List RangeVariable) : List Expr → List Reference
  | [] => []
  | e :: es => e.references scope ++ Expr.referencesList scope es

def Expr.referencesOption (scope : List RangeVariable) : Option Expr → List Reference
  | none => []
  | some e => e.references scope

def Query.references (scope : List RangeVariable) : Query → List Reference
  | .select ctes _ distinctOn expressions from_ joins group clauses =>
      Cte.references scope ctes ++ Source.referencesOption scope from_ ++
        Join.references scope (fromVariables from_ []) (fromVariables from_ []) joins ++
        Expr.referencesList (fromVariables from_ joins ++ scope) distinctOn ++
        Expr.referencesList (fromVariables from_ joins ++ scope) expressions ++
        Expr.referencesList (fromVariables from_ joins ++ scope) group ++
        Expr.referencesList (fromVariables from_ joins ++ scope) clauses
  | .setOperation ctes left right order =>
      Cte.references scope ctes ++ left.references scope ++ right.references scope ++
        Expr.referencesList [] order
  | .subquery ctes query order =>
      Cte.references scope ctes ++ query.references scope ++
        Expr.referencesList (query.sortScope scope) order

/-- A common table expression sees the scope of its query, not its `FROM`. -/
def Cte.references (scope : List RangeVariable) : List Cte → List Reference
  | [] => []
  | .cte _ query :: cs => query.references scope ++ Cte.references scope cs

/-- `before` are the range variables of the items to the left, which functions
and `LATERAL` see. -/
def Source.references (scope before : List RangeVariable) : Source → List Reference
  | .table _ _ => []
  | .function _ args _ => Expr.referencesList (before ++ scope) args
  | .values rows _ => Expr.referencesList scope rows
  | .unnest args _ => Expr.referencesList (before ++ scope) args
  | .lateral query _ => query.references (before ++ scope)
  | .lateralFunction _ args _ => Expr.referencesList (before ++ scope) args
  | .derived query _ => query.references scope
  | .paren source joins _ =>
      source.references scope before ++
        Join.references scope (source.variables ++ before) source.variables joins

def Source.referencesOption (scope : List RangeVariable) : Option Source → List Reference
  | none => []
  | some s => s.references scope []

/-- `joined` are the range variables of the join so far, which its conditions
see. -/
def Join.references (scope before joined : List RangeVariable) : List Join → List Reference
  | [] => []
  | .comma source :: js =>
      source.references scope before ++
        Join.references scope (source.variables ++ before) source.variables js
  | .join source on :: js =>
      source.references scope before ++
        Expr.referencesOption (source.variables ++ joined ++ scope) on ++
        Join.references scope (source.variables ++ before) (source.variables ++ joined) js

end

/-- Every qualifier names an item of `FROM` that is visible where it stands. -/
def Query.Visible (q : Query) : Prop := ∀ r ∈ q.references [], r.2.isSome = true

end DbGateway.TextToSql
