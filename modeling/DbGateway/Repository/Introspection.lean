import DbGateway.Repository.Session

/-!
# DbGateway.Repository.Introspection

`introspect_schema` of `sql_query_repository.py`: the live schema, read from the
catalog of the database table by table.

Rows of results always have a mapping, so the readings by position that the code
keeps for rows without one are left out.
-/

namespace DbGateway.Repository

open Dialogue (Program)

/-! ## What is read -/

structure ColumnInfo where
  name : String
  type : String
  nullable : Bool
  isPrimary : Bool
deriving DecidableEq

structure ForeignKeyInfo where
  column : String
  foreignSchema : String
  foreignTable : String
  foreignColumn : String
deriving DecidableEq

structure TableInfo where
  name : String
  schemaName : String
  columns : List ColumnInfo
  foreignKeys : List ForeignKeyInfo
deriving DecidableEq

/-! ## SQLite -/

/-- `re.match(r'^[A-Za-z_][A-Za-z0-9_]*$', table)`; the `$` also matches before a
last line break. -/
def isTableName (table : String) : Bool :=
  match table.toList with
  | [] => false
  | c :: cs =>
      let named := fun cs : List Char => cs.all fun c => c.isAlphanum || c = '_'
      (c.isAlpha || c = '_') &&
        (named cs || (cs.getLast? = some '\n' && named cs.dropLast))

/-- `'"' + table.replace('"', '""') + '"'` -/
def quoted (table : String) : String :=
  "\"" ++ String.ofList (table.toList.flatMap fun c => if c = '"' then ['"', '"'] else [c]) ++ "\""

/-- The query for the tables of an SQLite database. -/
def sqliteTables : String :=
  "SELECT name FROM sqlite_master WHERE type='table' AND name NOT LIKE 'sqlite_%' ORDER BY name"

/-- `f"PRAGMA table_info({quoted})"` -/
def pragmaTableInfo (table : String) : String := "PRAGMA table_info(" ++ quoted table ++ ")"

/-- `f"PRAGMA foreign_key_list({quoted})"` -/
def pragmaForeignKeyList (table : String) : String :=
  "PRAGMA foreign_key_list(" ++ quoted table ++ ")"

section

variable {V : Type} (jsonOf : V → Json)

/-- `row[i]` -/
def cell (row : Dict V) (i : Nat) : Except Exn Json :=
  match row[i]? with
  | some entry => .ok (jsonOf entry.2)
  | none => .error (.raised "IndexError" "tuple index out of range" none)

/-- `dict(row._mapping)` -/
def mapping (row : Dict V) : Json := .obj (row.map fun entry => (entry.1, jsonOf entry.2))

/-- `value > 0` -/
def positive : Json → Except Exn Bool
  | .bool b => .ok b
  | .int n => .ok (0 < n)
  | .float q => .ok (0 < q)
  | _ => .error (.raised "TypeError" "'>' not supported between these instances" none)

variable [Python]

/-- A row of `PRAGMA table_info`. -/
def sqliteColumn (row : Dict V) : Except Exn ColumnInfo := do
  let column := mapping jsonOf row
  let isPrimary ← match column.get? "pk" with
    | some pk => positive pk
    | none => .ok ((column.get? "is_primary").getD (.bool false)).truthy
  return {
    name := ((column.get? "name").getD (.str "")).toStr
    type := ((column.get? "type").getD (.str "TEXT")).toStr
    nullable := match column.get? "notnull" with
      | some notnull => notnull.same (.int 0) || notnull.same (.bool false)
      | none => ((column.get? "nullable").getD (.bool true)).truthy
    isPrimary }

/-- A row of `PRAGMA foreign_key_list`. -/
def sqliteForeignKey (row : Dict V) : ForeignKeyInfo :=
  let key := mapping jsonOf row
  { column := ((key.get? "from").getD (.str "")).toStr
    foreignSchema := "main"
    foreignTable := ((key.get? "table").getD (.str "")).toStr
    foreignColumn := ((key.get? "to").getD (.str "")).toStr }

/-- One table of an SQLite database. -/
def introspectSqliteTable (table : String) : Talk V TableInfo := do
  let columns ← execute (pragmaTableInfo table) []
  let columns ← Talk.of (columns.fetchall.bind (List.mapM (sqliteColumn jsonOf)))
  let keys ← execute (pragmaForeignKeyList table) []
  let keys ← Talk.of keys.fetchall
  return {
    name := table
    schemaName := "main"
    columns
    foreignKeys := keys.map (sqliteForeignKey jsonOf) }

/-- The names among what the catalog gives. -/
def sqliteTableName (row : Dict V) : Except Exn (Option String) :=
  (cell jsonOf row 0).bind fun
    | .str table => .ok (if isTableName table then some table else none)
    | _ => .error (.raised "TypeError" "expected string or bytes-like object" none)

/-- `_introspect_sqlite`.  The names are checked as the loop comes to them; no row
can fail after a table was read but by the type of its name. -/
def introspectSqlite : Talk V (List TableInfo) := do
  let tables ← execute sqliteTables []
  let tables ← Talk.of tables.fetchall
  let read ← Program.forEach tables fun row => do
    match ← Talk.of (sqliteTableName jsonOf row) with
    | none => return none
    | some table => return some (← introspectSqliteTable jsonOf table)
  return read.filterMap id

end

/-! ## PostgreSQL -/

def postgresqlTables : String :=
  "\n            SELECT table_schema, table_name\n            FROM information_schema.tables\n" ++
  "            WHERE table_schema NOT IN ('pg_catalog', 'information_schema', 'meta')\n" ++
  "              AND table_type = 'BASE TABLE'\n            ORDER BY table_schema, table_name\n        "

def postgresqlColumns : String :=
  "\n                SELECT column_name, data_type, is_nullable\n" ++
  "                FROM information_schema.columns\n" ++
  "                WHERE table_schema = :schema AND table_name = :table\n" ++
  "                ORDER BY ordinal_position\n            "

def postgresqlPrimaryKeys : String :=
  "\n                SELECT kcu.column_name\n" ++
  "                FROM information_schema.table_constraints tc\n" ++
  "                JOIN information_schema.key_column_usage kcu\n" ++
  "                  ON tc.constraint_name = kcu.constraint_name\n" ++
  "                  AND tc.table_schema = kcu.table_schema\n" ++
  "                WHERE tc.constraint_type = 'PRIMARY KEY'\n" ++
  "                  AND tc.table_schema = :schema\n" ++
  "                  AND tc.table_name = :table\n            "

def postgresqlForeignKeys : String :=
  "\n                SELECT\n                    kcu.column_name AS column_name,\n" ++
  "                    ccu.table_schema AS foreign_schema,\n" ++
  "                    ccu.table_name AS foreign_table,\n" ++
  "                    ccu.column_name AS foreign_column\n" ++
  "                FROM information_schema.table_constraints tc\n" ++
  "                JOIN information_schema.key_column_usage kcu\n" ++
  "                  ON tc.constraint_name = kcu.constraint_name\n" ++
  "                  AND tc.table_schema = kcu.table_schema\n" ++
  "                JOIN information_schema.constraint_column_usage ccu\n" ++
  "                  ON ccu.constraint_name = tc.constraint_name\n" ++
  "                WHERE tc.constraint_type = 'FOREIGN KEY'\n" ++
  "                  AND tc.table_schema = :schema\n" ++
  "                  AND tc.table_name = :table\n            "

section

variable {V : Type} (jsonOf : V → Json) [Python]

/-- A row of `information_schema.columns`. -/
def postgresqlColumn (primary : List Json) (row : Dict V) : Except Exn ColumnInfo := do
  let name ← cell jsonOf row 0
  let type ← cell jsonOf row 1
  let nullable ← cell jsonOf row 2
  return {
    name := name.toStr
    type := type.toStr
    nullable := nullable.same (.str "YES")
    isPrimary := primary.any name.same }

/-- A foreign key with the columns it refers to. -/
def postgresqlForeignKey (row : Dict V) : Except Exn ForeignKeyInfo := do
  return {
    column := (← cell jsonOf row 0).toStr
    foreignSchema := (← cell jsonOf row 1).toStr
    foreignTable := (← cell jsonOf row 2).toStr
    foreignColumn := (← cell jsonOf row 3).toStr }

/-- One table of a PostgreSQL database. -/
def introspectPostgresqlTable (schemaName tableName : Json) : Talk V TableInfo := do
  let parameters := [("schema", schemaName), ("table", tableName)]
  let columns ← execute postgresqlColumns parameters
  let columns ← Talk.of columns.fetchall
  let primary ← execute postgresqlPrimaryKeys parameters
  let primary ← Talk.of (primary.fetchall.bind (List.mapM fun row => cell jsonOf row 0))
  let keys ← execute postgresqlForeignKeys parameters
  let keys ← Talk.of keys.fetchall
  let columns ← Talk.of (columns.mapM (postgresqlColumn jsonOf primary))
  let keys ← Talk.of (keys.mapM (postgresqlForeignKey jsonOf))
  return { name := tableName.toStr, schemaName := schemaName.toStr, columns, foreignKeys := keys }

/-- `_introspect_postgresql` -/
def introspectPostgresql : Talk V (List TableInfo) := do
  let tables ← execute postgresqlTables []
  let tables ← Talk.of tables.fetchall
  Program.forEach tables fun row => do
    let schemaName ← Talk.of (cell jsonOf row 0)
    let tableName ← Talk.of (cell jsonOf row 1)
    introspectPostgresqlTable jsonOf schemaName tableName

/-- `type(e).__name__` -/
def Exn.name : Exn → String
  | .forbiddenSqlStatement _ => "ForbiddenSqlStatementError"
  | .sqlStatementExecution _ => "SqlStatementExecutionError"
  | .valueError _ => "ValueError"
  | .timeoutError => "TimeoutError"
  | .cancelled => "CancelledError"
  | .raised name _ _ => name

/-- `introspect_schema` -/
def SqlQueryRepository.introspectSchema (self : SqlQueryRepository V) : Talk V (List TableInfo) :=
  (self.getConn none fun dialectName =>
    if dialectName = "sqlite" then introspectSqlite jsonOf else introspectPostgresql jsonOf).except
    fun e =>
      match e with
      | .cancelled => Program.raise .cancelled
      | e => Program.raise (.sqlStatementExecution
          ("Error introspecting database schema: " ++ e.name ++ ": " ++ e.text))

end

end DbGateway.Repository
