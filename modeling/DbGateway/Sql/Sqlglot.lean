import DbGateway.Sql.Syntax

/-!
# DbGateway.Sql.Sqlglot

The third-party parser, and what the gateway calls of it.
-/

namespace DbGateway.Sql

/-- `sqlglot` -/
class Sqlglot where
  /-- `sqlglot.parse(sql, read="postgres")`; `none` when it raises. -/
  parsePostgres : String → Option (List Query)
  /-- `sqlglot.parse(sql)` -/
  parseDefault : String → Option (List Query)
  /-- `exp.to_identifier(name)`, which decides whether to quote. -/
  toIdentifier : String → Identifier
  toIdentifier_name : ∀ name, (toIdentifier name).name = name

variable [Sqlglot]

/-- `AstSqlAnalyzer.parse_statements` -/
def parseStatements (sql : String) : List Query :=
  if sql = "" || strip sql = "" then []
  else
    match Sqlglot.parsePostgres sql with
    | some statements => statements
    | none => (Sqlglot.parseDefault sql).getD []

/-- `sqlglot.parse_one(sql, read="postgres")` -/
def parseOne (sql : String) : Option Query := (Sqlglot.parsePostgres sql).bind List.head?

theorem parseStatements_of_parse {sql : String} {statements : List Query} (hblank : strip sql ≠ "")
    (hparse : Sqlglot.parsePostgres sql = some statements) : parseStatements sql = statements := by
  have hne : sql ≠ "" := fun h => hblank (by rw [h]; decide)
  rw [parseStatements, if_neg (by simp [hne, hblank]), hparse]

theorem parseOne_of_parse {sql : String} {q : Query} {rest : List Query}
    (hparse : Sqlglot.parsePostgres sql = some (q :: rest)) : parseOne sql = some q := by
  rw [parseOne, hparse]
  rfl

end DbGateway.Sql
