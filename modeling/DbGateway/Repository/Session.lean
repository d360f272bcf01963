import DbGateway.Dialogue
import DbGateway.Repository.Cost
import DbGateway.Repository.Fetch
import DbGateway.Repository.Limit
import DbGateway.Schema.Text
import DbGateway.Sql.SafetyChecker

/-!
# DbGateway.Repository.Session

`SqlQueryRepository` of `sql_query_repository.py`, as it talks to the database:
connections are taken, set up and given back, and statements executed on them.

Nothing is assumed of the database: each call is answered by anything or raises
anything, a timeout and a cancellation of the waiting task included.  Logging is
left out.
-/

namespace DbGateway.Repository

open Dialogue (Program)
open Sql (DefaultSqlSafetyChecker PythonUpper Sqlglot Sqlparse)

/-! ## Exceptions -/

/-- An exception in flight. -/
inductive Exn where
  | forbiddenSqlStatement (message : String)
  | sqlStatementExecution (message : String)
  | valueError (message : String)
  | timeoutError
  /-- No `Exception`, so that `except Exception` lets it pass. -/
  | cancelled
  | raised (name text : String) (cause : Option (String × String))

/-- `str(e)` -/
def Exn.text : Exn → String
  | .forbiddenSqlStatement message => "Forbidden SQL statement: " ++ message
  | .sqlStatementExecution message => message
  | .valueError message => message
  | .timeoutError => ""
  | .cancelled => ""
  | .raised _ text _ => text

/-- The name and the text of `error.__cause__ or error`. -/
def Exn.rootCause : Exn → String × String
  | .forbiddenSqlStatement message =>
      ("ForbiddenSqlStatementError", "Forbidden SQL statement: " ++ message)
  | .sqlStatementExecution message => ("SqlStatementExecutionError", message)
  | .valueError message => ("ValueError", message)
  | .timeoutError => ("TimeoutError", "")
  | .cancelled => ("CancelledError", "")
  | .raised name text cause => cause.getD (name, text)

/-- What `raise_sql_execution_exception` raises. -/
def sqlExecutionException (message : String) (error : Exn) : Exn :=
  .sqlStatementExecution (strip ("\n[SqlStatementExecutionError]\n" ++ message ++
    "\n↳ Caused by " ++ error.rootCause.1 ++ ": " ++ error.rootCause.2 ++ "\n"))

/-! ## Calls -/

section

variable {V : Type}

/-- What a statement has given. -/
structure Result (V : Type) where
  /-- The rows to fetch; `none` when it returns none. -/
  cursor : Option (Cursor (Dict V))

/-- A call of the engine or of the connection. -/
inductive Call where
  | connect
  | execute (text : String) (parameters : Dict Json)
  | close

/-- What a call gives; a connection is known by the name of its dialect. -/
def Answer (V : Type) : Call → Type
  | .connect => String
  | .execute _ _ => Result V
  | .close => Unit

/-- A program over the database. -/
abbrev Talk (V α : Type) := Program Call (Answer V) Exn α

/-- A value, or an exception. -/
def Talk.of {α : Type} (outcome : Except Exn α) : Talk V α := .done outcome

/-- `await engine.connect()` -/
def connect : Talk V String := Program.perform Call.connect

/-- `await conn.execute(text(…), …)` -/
def execute (text : String) (parameters : Dict Json) : Talk V (Result V) :=
  Program.perform (Call.execute text parameters)

/-- `await conn.close()` -/
def close : Talk V Unit := Program.perform Call.close

/-- `result.fetchall()` -/
def Result.fetchall (self : Result V) : Except Exn (List (Dict V)) :=
  match self.cursor with
  | some cursor => .ok cursor.rows
  | none => .error (.raised "ResourceClosedError"
      "This result object does not return rows. It has been closed automatically." none)

end

/-! ## The repository -/

/-- `_READONLY_ROLE_PATTERN.fullmatch` -/
def isRoleName (name : String) : Bool :=
  match name.toList with
  | [] => false
  | c :: cs => (c.isAlpha || c = '_') && cs.all fun c => c.isAlphanum || c = '_' || c = '$'

/-- A bare PostgreSQL role name. -/
structure RoleName where
  name : String
  bare : isRoleName name = true

/-- `validate_readonly_role_name` -/
def validateReadonlyRoleName (roleName : Option String) : Except Exn (Option RoleName) :=
  match roleName with
  | none => .ok none
  | some roleName =>
      if bare : isRoleName (strip roleName) = true then .ok (some ⟨strip roleName, bare⟩)
      else .error (.valueError ("SQL_READONLY_ROLE must be a bare PostgreSQL role name (not a " ++
        "qualified identifier or a literal)."))

/-- `SqlQueryRepository`, as configured.  The timeouts are in milliseconds as they
are sent to the database. -/
structure SqlQueryRepository (V : Type) where
  sqlSafetyChecker : DefaultSqlSafetyChecker
  settings : Settings V
  queryTimeoutSeconds : Rat
  statementTimeoutMs : Int
  lockTimeoutMs : Int
  readonlyRole : Option RoleName
  dataSchema : String
  metadataSchema : String
  queryCostThreshold : Rat
  queryCostAction : CostAction

namespace SqlQueryRepository

section

variable {V α : Type} (self : SqlQueryRepository V)

/-- The statements that set a connection up. -/
def setup (schemaName : Option String) (dialectName : String) : List String :=
  if dialectName = "postgresql" then
    ["SET SESSION CHARACTERISTICS AS TRANSACTION READ ONLY;"] ++
    (self.readonlyRole.toList.map fun role => "SET ROLE " ++ role.name ++ ";") ++
    ["SET SESSION statement_timeout = '" ++ toString self.statementTimeoutMs ++ "';",
      "SET SESSION lock_timeout = '" ++ toString self.lockTimeoutMs ++ "';"] ++
    ((schemaName.filter (· ≠ "")).toList.map fun schemaName => "SET search_path TO " ++ schemaName)
  else []

/-- `async with self.get_conn(schema_name) as conn` -/
def getConn (schemaName : Option String) (body : String → Talk V α) : Talk V α :=
  (connect.bind fun dialectName =>
    ((Program.forEach (self.setup schemaName dialectName) fun text => execute text []).bind
      fun _ => body dialectName).finally_ close).except
    fun e =>
      match e with
      | .sqlStatementExecution message => Program.raise (.sqlStatementExecution message)
      | .cancelled => Program.raise .cancelled
      | e => Program.raise (sqlExecutionException "Error connecting to database" e)

end

variable [Python] {V : Type} (self : SqlQueryRepository V) (ofText : String → V)
  (jsonOf : V → Json)

/-- `_execute_query`, once it has a result and its loop has ended
(`executeQuery_eq`). -/
def fetchResult (cursor : Option (Cursor (Dict V))) : Except LimitExceeded (List (Dict V)) :=
  match cursor with
  | none => .ok []
  | some cursor =>
      match (fetched self.settings.maxRowLimit cursor.rows).result? with
      | some rows => rows.bind (conclude ofText jsonOf self.settings)
      | none => .ok []

/-- The loop ends, and with nothing else. -/
theorem executeQuery_eq (cursor : Option (Cursor (Dict V))) :
    (∃ n, executeQuery ofText jsonOf self.settings cursor n =
        some (self.fetchResult ofText jsonOf cursor)) ∧
      ∀ n answer, executeQuery ofText jsonOf self.settings cursor n = some answer →
        answer = self.fetchResult ofText jsonOf cursor := by
  cases cursor with
  | none => exact ⟨⟨0, rfl⟩, fun n answer h => (Option.some.inj h).symm⟩
  | some cursor =>
      have hsame : ∀ n answer, executeQuery ofText jsonOf self.settings (some cursor) n =
          some answer → answer = self.fetchResult ofText jsonOf (some cursor) := by
        intro n answer hanswer
        obtain ⟨result, hresult, rfl⟩ := Option.map_eq_some_iff.mp hanswer
        simp only [fetchResult, result?_fetchingAfter hresult]
      obtain ⟨n, hn⟩ := reaches_fetched_rows self.settings.maxRowLimit cursor
      have hends : (fetchingAfter self.settings.maxRowLimit cursor n).result?.isSome := by
        rw [fetchingAfter, hn]
        unfold fetched
        split <;> rfl
      obtain ⟨result, hresult⟩ := Option.isSome_iff_exists.mp hends
      have hanswer : executeQuery ofText jsonOf self.settings (some cursor) n =
          some (result.bind (conclude ofText jsonOf self.settings)) := by
        rw [executeQuery, hresult]
        rfl
      exact ⟨⟨n, by rw [hanswer, hsame n _ hanswer]⟩, hsame⟩

/-- `_execute_query` under its timeout, and what its exceptions become. -/
def runStatement (sql : String) (params : Option (Dict Json)) : Talk V (List (Dict V)) :=
  (((execute sql (params.getD [])).bind fun result =>
      Talk.of ((self.fetchResult ofText jsonOf result.cursor).mapError fun exceeded =>
        .sqlStatementExecution exceeded.message)).except
    fun e =>
      match e with
      | .timeoutError => Program.raise (.sqlStatementExecution ("SQL query timed out after " ++
          Python.floatRepr self.queryTimeoutSeconds ++ " seconds."))
      | e => Program.raise e).except
    fun e =>
      match e with
      | .sqlStatementExecution message => Program.raise (.sqlStatementExecution message)
      | .cancelled => Program.raise .cancelled
      | e => Program.raise (sqlExecutionException "Error executing SQL statement" e)

/-- `self._data_schema.replace("_", "").isalnum()` -/
def isSchemaName (schema : String) : Bool :=
  let cs := schema.toList.filter (· ≠ '_')
  !cs.isEmpty && cs.all Python.isAlnum

/-- `int` of more digits than it reads. -/
def tooManyDigits : Exn :=
  .valueError "Exceeds the limit (4300 digits) for integer string conversion"

variable [PythonUpper] [PythonTables] [Sqlglot] [Sqlparse]

/-- `execute_sql_statement` -/
def executeSqlStatement (sql : String) (params : Option (Dict Json)) : Talk V (List (Dict V)) :=
  if !self.sqlSafetyChecker.isSafeSelectQuery sql then
    Program.raise (.forbiddenSqlStatement "Only simple SELECT statements are allowed.")
  else
    match ensureLimit self.settings.maxRowLimit sql with
    | none => Program.raise tooManyDigits
    | some sql =>
        if (evaluateQueryCost self.queryCostThreshold self.queryCostAction sql).decision =
            .deny then
          Program.raise (.forbiddenSqlStatement
            "Query exceeds the configured cost threshold and is rejected.")
        else if !isSchemaName self.dataSchema then
          Program.raise
            (.valueError "SQL_DATA_SCHEMA must be a valid PostgreSQL schema identifier.")
        else
          self.getConn (some self.dataSchema) fun _ => self.runStatement ofText jsonOf sql params

/-- What `explain_query_cost` returns. -/
structure Explanation where
  dialect : String
  supported : Bool
  totalCost : Json := .null
  plan : Json := .obj []
  error : Option String := none

/-- The summary of a plan. -/
def summarize (rows : List (Dict V)) : Except Exn Explanation :=
  -- `rows[0][0] if rows and rows[0] and len(rows[0]) else []`
  let payload := ((rows.head?.bind List.head?).map fun cell => jsonOf cell.2).getD (.arr [])
  if !payload.truthy then .ok { dialect := "postgresql", supported := true }
  else
    let plan := match payload with
      | .arr (.obj fields :: _) => ((Json.obj fields).get? "Plan").getD (.obj [])
      | _ => .obj []
    match plan with
    | .obj _ =>
        .ok { dialect := "postgresql", supported := true, totalCost := plan.getD "Total Cost", plan }
    | _ => .error (.raised "AttributeError" "object has no attribute 'get'" none)

/-- The `except Exception` of `explain_query_cost` -/
def unexplained : Exn → Talk V Explanation
  | .cancelled => Program.raise .cancelled
  | e => Talk.of (.ok { dialect := "postgresql", supported := false, error := some e.text })

/-- `explain_query_cost` -/
def explainQueryCost (sql : String) : Talk V Explanation :=
  if !self.sqlSafetyChecker.isSafeSelectQuery sql then
    Program.raise (.forbiddenSqlStatement "Only simple SELECT statements are allowed.")
  else
    match ensureLimit self.settings.maxRowLimit sql with
    | none => Program.raise tooManyDigits
    | some limited =>
        (self.getConn (some self.dataSchema) fun dialectName =>
          if dialectName ≠ "postgresql" then
            Talk.of (.ok { dialect := dialectName, supported := false })
          else
            (execute ("EXPLAIN (FORMAT JSON) " ++ strip limited) []).bind fun result =>
              Talk.of (result.fetchall.bind (summarize jsonOf))).except unexplained

/-- `_build_similarity_query` -/
def similarityQuery : String :=
  "\n            SELECT raw_json\n            FROM schema_embeddings\n            " ++
    "ORDER BY (embeddings <#> CAST(:query_embeddings AS vector)) ASC\n            LIMIT 4\n            "

/-- `row[0]` of every row, which `_format_schema_rows` reads as the tables of an
entry. -/
def schemaEntries (rows : List (Dict V)) : Except Exn (List (Dict Json)) :=
  rows.mapM fun row =>
    match row.head?.map fun cell => jsonOf cell.2 with
    | some (.obj fields) => .ok fields
    | some _ => .error (.raised "AttributeError" "object has no attribute 'items'" none)
    | none => .error (.raised "IndexError" "tuple index out of range" none)

/-- `get_table_schema` -/
def getTableSchema (queryEmbeddings : List Rat) : Talk V String :=
  (self.getConn (some self.metadataSchema) fun _ =>
    (execute similarityQuery [("query_embeddings", .str ("[" ++
      String.intercalate "," (queryEmbeddings.map Python.floatRepr) ++ "]"))]).bind fun result =>
        Talk.of ((result.fetchall.bind (schemaEntries jsonOf)).bind fun entries =>
          (Schema.formatSchemaRows entries).mapError fun _ =>
            .raised "AttributeError" "object has no attribute 'items'" none)).except
    fun e =>
      match e with
      | .cancelled => Program.raise .cancelled
      | _ => Program.raise (.sqlStatementExecution ("Schema embeddings are unavailable or " ++
          "incompatible with the configured embedding dimensions. " ++
          "Regenerate schema embeddings before using text-to-SQL."))

end SqlQueryRepository

end DbGateway.Repository
