import DbGateway.Dict
import DbGateway.Sql.Tables

/-!
# DbGateway.Sql.SafetyChecker

`DefaultSqlSafetyChecker` of `sql_safety_checker.py`: its rules, the walk of
`AstSqlAnalyzer.is_strictly_read_only`, and the allowlists of tables and of
selected columns.

The text is read twice, as a tree by `sqlglot` and as grouped tokens by
`sqlparse`; the trees are those of statements that only read.
-/

namespace DbGateway.Sql

/-! ## Tokens -/

/-- The token types the checker tells apart. -/
inductive TokenType where
  | keyword
  | dml
  | ddl
  | dcl
  /-- Any other kind of keyword. -/
  | keywordOther
  /-- `Comment`, `Comment.Single` and `Comment.Multiline`. -/
  | comment
  | other
deriving DecidableEq

/-- What an identifier says of its names: `get_parent_name()` and
`get_real_name()`. -/
structure TokenName where
  parentName : Option String
  realName : Option String

inductive TokenGroup where
  | identifier (names : TokenName)
  /-- `get_identifiers()`; a plain token among them has no names. -/
  | identifierList (identifiers : List (Option TokenName))
  | function
  | other

inductive Token where
  /-- A token, its value, and that value in upper case. -/
  | leaf (ttype : TokenType) (value upper : String)
  | group (kind : TokenGroup) (tokens : List Token)

/-- A statement as `sqlparse` groups it, and its `get_type().upper()`. -/
structure ParsedStatement where
  type : String
  tokens : List Token

mutual

/-- The types and values of the tokens below. -/
def Token.flatten : Token → List (TokenType × String)
  | .leaf ttype value _ => [(ttype, value)]
  | .group _ tokens => Token.flattenList tokens

def Token.flattenList : List Token → List (TokenType × String)
  | [] => []
  | t :: ts => t.flatten ++ Token.flattenList ts

end

/-- `str(token)` -/
def Token.text (t : Token) : String := String.join (t.flatten.map Prod.snd)

/-- A keyword of any kind among some, by its upper-case form. -/
def Token.isKeyword (words : List String) : Token → Bool
  | .leaf ttype _ upper =>
      decide (ttype ∈ [.keyword, .dml, .ddl, .dcl, .keywordOther]) && decide (upper ∈ words)
  | .group _ _ => false

/-- `sqlparse`, and what `sqlglot` says of the functions of a tree. -/
class Sqlparse where
  /-- `sqlparse.parse(sql)`; `none` when it raises. -/
  parse : String → Option (List ParsedStatement)
  /-- The names of the `Func` and `Anonymous` nodes. -/
  functionNames : Query → List String

variable [Python] [Sqlglot] [Sqlparse]

/-! ## Rules -/

/-- `FORBIDDEN_FUNCTIONS` -/
def forbiddenFunctions : List String :=
  ["pg_read_file", "pg_read_binary_file", "pg_write_file", "pg_write_binary_file",
    "pg_file_write", "pg_file_rename", "pg_file_unlink", "pg_execute_server_program",
    "pg_terminate_backend", "pg_cancel_backend", "pg_sleep", "pg_sleep_for", "pg_sleep_until",
    "pg_advisory_lock", "pg_advisory_lock_shared", "pg_try_advisory_lock",
    "pg_try_advisory_lock_shared", "pg_advisory_xact_lock", "pg_advisory_xact_lock_shared",
    "dblink", "dblink_exec", "dblink_connect", "dblink_open", "dblink_fetch", "dblink_close",
    "dblink_disconnect", "lo_import", "lo_export", "lo_create", "lo_unlink", "lo_from_bytea",
    "lo_put", "lo_truncate", "query_to_xml", "table_to_xml", "cursor_to_xml", "copy"]

/-- The keywords of `_contains_forbidden_mutation`. -/
def mutationKeywords : List String :=
  ["delete", "insert", "update", "drop", "create", "alter", "commit", "rollback", "truncate",
    "grant", "revoke", "merge", "call", "execute"]

/-- A token type that can be a mutation. -/
def TokenType.mutates (ttype : TokenType) : Bool :=
  decide (ttype ∈ [.ddl, .dml, .keyword, .dcl])

/-- `s.replace(c, "")` for some characters. -/
def removeChars (cs : List Char) (s : String) : String :=
  String.ofList (s.toList.filter fun c => decide (c ∉ cs))

/-- `normalize_function_name` -/
def normalizeFunctionName (name : String) : String :=
  if name = "" then ""
  else lower (strip (afterLastDot (removeChars ['"', Char.ofNat 96, '\''] name)))

/-- `SingleStatementRule` -/
def singleStatementRule (raw : String) : Bool :=
  (Sqlparse.parse raw).any fun statements => decide (statements.length = 1)

/-- `MustBeSelectRule` -/
def mustBeSelectRule (stmt : ParsedStatement) (raw : String) : Bool :=
  if stmt.type = "SELECT" then true
  else if stmt.type = "UNKNOWN" then
    (Re.search (Re.Pattern.seqs [.boundary, Re.Pattern.word "select", .boundary])
      raw.toList).isSome
  else false

/-- `NoCommentRule` -/
def noCommentRule (stmt : ParsedStatement) : Bool :=
  !(Token.flattenList stmt.tokens).any fun t => decide (t.1 = .comment)

/-- `NoForbiddenKeywordsRule` -/
def noForbiddenKeywordsRule (forbidden : List String) (stmt : ParsedStatement) : Bool :=
  !(Token.flattenList stmt.tokens).any fun t => t.1.mutates && decide (lower t.2 ∈ forbidden)

/-- `ForbiddenFunctionsRule` -/
def forbiddenFunctionsRule (forbidden : List String) (raw : String) : Bool :=
  match parseOne raw with
  | none => false
  | some parsed => (Sqlparse.functionNames parsed).all fun name =>
      decide (normalizeFunctionName name ∉ forbidden)

/-- The schema and name of a table, normalised, without what is empty. -/
def tableParts (db : Option Identifier) (name : Identifier) : List String :=
  (([db.map Identifier.name, some name.name].filterMap id).filter (· ≠ "")).map fun p =>
    lower (strip (removeChars ['"', Char.ofNat 96] p))

/-- `qualified.startswith(prefix) or unqualified.startswith(prefix)` -/
def hasPrefix (parts : List String) (forbiddenPrefix : String) : Bool :=
  forbiddenPrefix.toList.isPrefixOf (String.intercalate "." parts).toList ||
    forbiddenPrefix.toList.isPrefixOf (parts.getLastD "").toList

/-- `ForbiddenTableRule` -/
def forbiddenTableRule (forbiddenPrefixes : List String) (raw : String) : Bool :=
  match parseOne raw with
  | none => false
  | some parsed => parsed.walk.all fun node =>
      match node with
      | .table db name =>
          (tableParts db name).isEmpty ||
            !forbiddenPrefixes.any fun p => hasPrefix (tableParts db name) p
      | _ => true

/-- `_contains_forbidden_mutation` -/
def containsForbiddenMutation (stmt : ParsedStatement) : Bool :=
  (Token.flattenList stmt.tokens).any fun t =>
    t.1.mutates && decide (lower (strip t.2) ∈ mutationKeywords)

/-- `AstSqlAnalyzer.is_strictly_read_only` -/
def isStrictlyReadOnly (sql : String) : Bool :=
  match parseStatements sql with
  | [root] => (Sqlparse.functionNames root).all fun name =>
      decide (normalizeFunctionName name ∉ forbiddenFunctions)
  | _ => false

/-! ## Selected columns -/

/-- A selected column: its qualifier, `*` without one, and its name. -/
abbrev SelectedColumn := String × String

/-- `name or "*"` -/
def orStar (name : Option String) : String :=
  match name with
  | none => "*"
  | some n => if n = "" then "*" else n

/-- A `Column` node below a projection. -/
def Node.selectedColumn? : Node → Option SelectedColumn
  | .column t n => some (lower (orStar (t.map Identifier.name)), lower n.name)
  | .table _ _ => none
  | .cte _ => none

/-- What a projection of the root adds. -/
def Projection.selectedColumns (p : Projection) : List SelectedColumn :=
  match p with
  | .star => [("*", "*")]
  | .tableStar _ => p.walk.filterMap Node.selectedColumn?
  | .item _ _ => p.walk.filterMap Node.selectedColumn?

/-- `AstSqlAnalyzer.extract_selected_columns_by_table`, as pairs. -/
def extractSelectedColumnsByTable (sql : String) : List SelectedColumn :=
  match parseStatements sql with
  | [] => []
  | root :: _ => (root.rootSelects.getD []).flatMap Projection.selectedColumns

omit [Python] [Sqlglot] [Sqlparse] in
/-- The names a token stands for; a plain token in a list raises. -/
def Token.names? : Token → Option (List TokenName)
  | .group (.identifierList identifiers) _ => identifiers.mapM id
  | .group (.identifier names) _ => some [names]
  | _ => some []

/-- The identifiers with a name. -/
def TokenName.selected? (names : TokenName) : Option SelectedColumn :=
  match names.realName with
  | none => none
  | some name => if name = "" then none else some (lower (orStar names.parentName), lower name)

/-- A token of the select clause. -/
def Token.selectedColumns? (t : Token) : Option (List SelectedColumn) :=
  match t with
  | .group .function _ => some (if '*' ∈ t.text.toList then [("*", "*")] else [])
  | _ => t.names?.map (List.filterMap TokenName.selected?)

/-- The scan of `_extract_selected_columns`, inside the select clause or before
it. -/
def scanSelectedColumns : Bool → List Token → Option (List SelectedColumn)
  | _, [] => some []
  | inSelect, t :: ts =>
      if t.isKeyword ["SELECT"] then scanSelectedColumns true ts
      else if inSelect && t.isKeyword ["FROM", "WHERE", "GROUP", "HAVING", "ORDER", "LIMIT",
          "UNION", "INTERSECT", "EXCEPT", "JOIN", "LEFT", "RIGHT", "FULL", "OUTER", "INNER",
          "CROSS"] then some []
      else if inSelect then do
        let columns ← t.selectedColumns?
        let rest ← scanSelectedColumns inSelect ts
        return columns ++ rest
      else scanSelectedColumns inSelect ts

/-- The scan of `_extract_table_names`. -/
def scanTableNames : Bool → List Token → Option (List String)
  | _, [] => some []
  | inFrom, t :: ts =>
      if t.isKeyword ["FROM", "JOIN"] then scanTableNames true ts
      else if inFrom && t.isKeyword ["WHERE", "GROUP", "HAVING", "ORDER", "LIMIT", "UNION",
          "INTERSECT", "EXCEPT"] then some []
      else if inFrom then do
        let names ← t.names?
        let rest ← scanTableNames inFrom ts
        return (names.filterMap TokenName.selected?).map Prod.snd ++ rest
      else scanTableNames inFrom ts

/-! ## The checker -/

structure DefaultSqlSafetyChecker where
  maxQueryLength : Nat
  tableAllowlist : Finset String
  columnAllowlist : Dict (Finset String)

namespace DefaultSqlSafetyChecker

/-- `DefaultSqlSafetyChecker(max_query_length, table_allowlist, column_allowlist)` -/
def init (maxQueryLength : Nat) (tableAllowlist : Finset String)
    (columnAllowlist : Dict (Finset String)) : DefaultSqlSafetyChecker where
  maxQueryLength
  tableAllowlist := tableAllowlist.image lower
  columnAllowlist := Dict.ofPairs (columnAllowlist.map fun entry =>
    (lower entry.1, entry.2.image lower))

/-- `self.rules` -/
def rules (stmt : ParsedStatement) (raw : String) : Bool :=
  singleStatementRule raw && mustBeSelectRule stmt raw && noCommentRule stmt &&
    noForbiddenKeywordsRule (mutationKeywords ++ ["copy"]) stmt &&
    forbiddenFunctionsRule forbiddenFunctions raw &&
    forbiddenTableRule ["pg_", "information_schema"] raw

/-- `tables` -/
def tables? (stmt : ParsedStatement) (raw : String) : Option (List String) :=
  (scanTableNames false stmt.tokens).map fun fallback =>
    if extractTables raw = [] then fallback else extractTables raw

/-- `selected_columns` -/
def selectedColumns? (stmt : ParsedStatement) (raw : String) : Option (List SelectedColumn) :=
  if extractSelectedColumnsByTable raw = [] then scanSelectedColumns false stmt.tokens
  else some (extractSelectedColumnsByTable raw)

/-- `requested_columns` -/
def requestedColumns (selected : List SelectedColumn) (tableName : String) : List String :=
  (selected.filter fun s => s.1 = "*" || s.1 = tableName).map Prod.snd

/-- The loop over the column allowlist. -/
def allowsColumns (self : DefaultSqlSafetyChecker) (tables : List String)
    (selected : List SelectedColumn) : Bool :=
  self.columnAllowlist.all fun entry =>
    decide (entry.1 ∉ tables) ||
      (requestedColumns selected entry.1).all fun column => decide (column ∈ entry.2)

/-- `_enforces_allowlist` -/
def enforcesAllowlist (self : DefaultSqlSafetyChecker) (stmt : ParsedStatement) (raw : String) :
    Option Bool :=
  if self.tableAllowlist = ∅ ∧ self.columnAllowlist = [] then some true
  else do
    let tables ← tables? stmt raw
    if self.tableAllowlist ≠ ∅ ∧ ∃ table ∈ tables, table ∉ self.tableAllowlist then
      return false
    else if self.columnAllowlist = [] then
      return true
    else
      let selected ← selectedColumns? stmt raw
      if ∃ s ∈ selected, s.2 = "*" then
        return false
      else
        return self.allowsColumns tables selected

/-- `is_safe_select_query`: what raises is rejected. -/
def isSafeSelectQuery (self : DefaultSqlSafetyChecker) (query : String) : Bool :=
  if query = "" || strip query = "" then false
  else if Char.ofNat 0 ∈ query.toList then false
  else if query.length > self.maxQueryLength then false
  else
    match Sqlparse.parse query with
    | none => false
    | some [] => false
    | some (stmt :: _) =>
        rules stmt query && !containsForbiddenMutation stmt && isStrictlyReadOnly query &&
          (self.enforcesAllowlist stmt query).getD false

end DefaultSqlSafetyChecker

end DbGateway.Sql
