import DbGateway.Repository.Introspection
import DbGateway.Sql.Allowlist

/-!
# DbGateway.Repository.Mediation

What reaches a tenant's database, whatever it answers.

A method of the repository takes one connection at most, sets it up completely
before it executes anything of its own, executes only what it may, and gives the
connection back (`database_mediated`).  What `execute_sql_statement` returns are the rows
of the one statement it has executed; what it raises is one of a few exceptions
(`executeSqlStatement_does`).
-/

namespace DbGateway.Repository

open Dialogue (Program Exchange)
open Dialogue.Program (Does)
open Sql (PythonUpper Sqlglot Sqlparse)

/-! ## Connections -/

section

variable {V α β : Type} {self : SqlQueryRepository V}

/-- The calls of a run, with what came of them. -/
abbrev Trace (V : Type) := List (Exchange Call (Answer V) Exn)

/-- A statement of the setup that was executed. -/
def setUp (statement : String × Result V) : Exchange Call (Answer V) Exn :=
  ⟨.execute statement.1 [], .ok statement.2⟩

/-- What `get_conn` makes of an exception. -/
def wrapped : Exn → Exn
  | .sqlStatementExecution message => .sqlStatementExecution message
  | .cancelled => .cancelled
  | e => sqlExecutionException "Error connecting to database" e

/-- What `get_conn` makes of a result, once the connection was closed or not. -/
def concluded (closed : Except Exn Unit) (result : Except Exn α) : Except Exn α :=
  (match closed with
    | .ok () => result
    | .error e => .error e).mapError wrapped

/-- A run with a connection: `Q` says what its body did. -/
inductive Connected (self : SqlQueryRepository V) (schemaName : Option String)
    (Q : String → Trace V → Except Exn α → Prop) : Trace V → Except Exn α → Prop
  | refused (e : Exn) : Connected self schemaName Q [⟨.connect, .error e⟩] (.error (wrapped e))
  /-- A statement of the setup has failed, the last one. -/
  | failed (dialectName : String) (before : List (String × Result V)) (text : String) (e : Exn)
      (closed : Except Exn Unit)
      (h : before.map Prod.fst ++ [text] <+: self.setup schemaName dialectName) :
      Connected self schemaName Q (⟨.connect, .ok dialectName⟩ ::
        (before.map setUp ++ [⟨.execute text [], .error e⟩] ++ [⟨.close, closed⟩]))
        (concluded closed (.error e))
  | served (dialectName : String) (done : List (String × Result V)) (body : Trace V)
      (result : Except Exn α) (closed : Except Exn Unit)
      (hsetup : done.map Prod.fst = self.setup schemaName dialectName)
      (h : Q dialectName body result) :
      Connected self schemaName Q (⟨.connect, .ok dialectName⟩ ::
        (done.map setUp ++ body ++ [⟨.close, closed⟩])) (concluded closed result)

/-- How the setup of a connection ends. -/
inductive SetUp (statements : List String) : Trace V → Except Exn (List (Result V)) → Prop
  | complete (done : List (String × Result V)) (h : done.map Prod.fst = statements) :
      SetUp statements (done.map setUp) (.ok (done.map Prod.snd))
  | failed (before : List (String × Result V)) (text : String) (e : Exn)
      (h : before.map Prod.fst ++ [text] <+: statements) :
      SetUp statements (before.map setUp ++ [⟨.execute text [], .error e⟩]) (.error e)

/-- The statements of the setup, one after another until one fails. -/
theorem forEach_execute_does (statements : List String) :
    (Program.forEach statements fun text => (execute text [] : Talk V (Result V))).Does
      (SetUp statements) := by
  induction statements with
  | nil => exact Program.does_done (.complete [] rfl)
  | cons first rest ih =>
      refine Program.does_call fun answer => ?_
      cases answer with
      | error e => exact Program.does_done (.failed [] first e (List.prefix_append [first] rest))
      | ok result =>
          refine ih.bind (fun trace results h => Program.does_done ?_) fun trace e h => ?_
          · cases h with
            | complete done hdone =>
                rw [List.append_nil]
                exact .complete ((first, result) :: done) (congrArg (first :: ·) hdone)
          · cases h with
            | failed before text e hbefore =>
                exact .failed ((first, result) :: before) text e
                  (List.cons_prefix_cons.mpr ⟨rfl, hbefore⟩)

/-- **The connection rule**: whatever its body does, a connection is set up before
it and closed after it. -/
theorem getConn_does {schemaName : Option String} {body : String → Talk V α}
    {Q : String → Trace V → Except Exn α → Prop} (h : ∀ dialectName, (body dialectName).Does
      (Q dialectName)) : (self.getConn schemaName body).Does (Connected self schemaName Q) := by
  have hclosed : ∀ {dialectName : String} {trace : Trace V} {result : Except Exn α},
      (∀ closed, Connected self schemaName Q (⟨.connect, .ok dialectName⟩ ::
        (trace ++ [⟨.close, closed⟩])) (concluded closed result)) →
      ((close : Talk V Unit).andThen (Program.settle result)).Does fun last outcome =>
        Connected self schemaName Q (⟨.connect, .ok dialectName⟩ :: (trace ++ last))
          (outcome.mapError wrapped) := by
    intro dialectName trace result hconnected
    refine Program.does_call fun answer => ?_
    cases answer with
    | ok done => exact Program.does_done (hconnected (.ok done))
    | error e => exact Program.does_done (hconnected (.error e))
  have hbody : ∀ dialectName, (((Program.forEach (self.setup schemaName dialectName) fun text =>
      (execute text [] : Talk V (Result V))).bind fun _ => body dialectName).finally_ close).Does
        fun trace result => Connected self schemaName Q (⟨.connect, .ok dialectName⟩ :: trace)
          (result.mapError wrapped) := by
    intro dialectName
    have hrun : ((Program.forEach (self.setup schemaName dialectName) fun text =>
        (execute text [] : Talk V (Result V))).bind fun _ => body dialectName).Does
          fun trace result => ∀ closed, Connected self schemaName Q (⟨.connect, .ok dialectName⟩ ::
            (trace ++ [⟨.close, closed⟩])) (concluded closed result) := by
      refine (forEach_execute_does _).bind (fun trace results hsetup => ?_) fun trace e hsetup => ?_
      · cases hsetup with
        | complete done hdone =>
            refine (h dialectName).weaken fun body result hbody closed => ?_
            exact .served dialectName done body result closed hdone hbody
      · cases hsetup with
        | failed before text e hbefore =>
            exact fun closed => .failed dialectName before text e closed hbefore
    exact hrun.andThen fun trace result hconnected => hclosed hconnected
  refine Does.except (Q := fun trace result => Connected self schemaName Q trace
    (result.mapError wrapped)) ?_ (fun trace a h => h) fun trace e h => ?_
  · refine Program.does_call fun answer => ?_
    cases answer with
    | ok dialectName => exact hbody dialectName
    | error e => exact Program.does_done (.refused e)
  · have hwrapped : Connected self schemaName Q (trace ++ []) (.error (wrapped e)) := by
      rw [List.append_nil]
      exact h
    cases e with
    | sqlStatementExecution message => exact Program.does_done hwrapped
    | cancelled => exact Program.does_done hwrapped
    | forbiddenSqlStatement message => exact Program.does_done hwrapped
    | valueError message => exact Program.does_done hwrapped
    | timeoutError => exact Program.does_done hwrapped
    | raised name text cause => exact Program.does_done hwrapped

end

/-! ## Statements -/

section

variable [Python] [PythonUpper] [PythonTables] [Sqlglot] [Sqlparse] {V : Type}
  (self : SqlQueryRepository V) (ofText : String → V) (jsonOf : V → Json)

/-- The text that may be executed for a statement. -/
structure Approved (repository : SqlQueryRepository V) (sql text : String) : Prop where
  safe : repository.sqlSafetyChecker.isSafeSelectQuery sql = true
  bounded : ensureLimit repository.settings.maxRowLimit sql = some text
  affordable : (evaluateQueryCost repository.queryCostThreshold repository.queryCostAction
    text).decision ≠ .deny

/-- What becomes of the database's answer. -/
def statementResult (answer : Except Exn (Result V)) : Except Exn (List (Dict V)) :=
  match answer with
  | .ok result => (self.fetchResult ofText jsonOf result.cursor).mapError fun exceeded =>
      .sqlStatementExecution exceeded.message
  | .error (.sqlStatementExecution message) => .error (.sqlStatementExecution message)
  | .error .cancelled => .error .cancelled
  | .error .timeoutError => .error (.sqlStatementExecution ("SQL query timed out after " ++
      Python.floatRepr self.queryTimeoutSeconds ++ " seconds."))
  | .error e => .error (sqlExecutionException "Error executing SQL statement" e)

omit [PythonUpper] [PythonTables] [Sqlglot] [Sqlparse] in
/-- A statement is run by one call, and its result is read off the answer. -/
theorem runStatement_does (sql : String) (params : Option (Dict Json)) :
    (self.runStatement ofText jsonOf sql params).Does fun trace result =>
      ∃ answer, trace = [⟨.execute sql (params.getD []), answer⟩] ∧
        result = statementResult self ofText jsonOf answer := by
  refine Program.does_call fun answer => ?_
  cases answer with
  | ok result =>
      have hresult : statementResult self ofText jsonOf (.ok result) =
          (self.fetchResult ofText jsonOf result.cursor).mapError fun exceeded =>
            .sqlStatementExecution exceeded.message := rfl
      cases hfetched : self.fetchResult ofText jsonOf result.cursor with
      | ok rows =>
          rw [hfetched] at hresult
          simp only [Program.andThen, Talk.of, hfetched, Except.mapError]
          exact Program.does_done ⟨.ok result, rfl, hresult.symm⟩
      | error exceeded =>
          rw [hfetched] at hresult
          simp only [Program.andThen, Talk.of, hfetched, Except.mapError]
          exact Program.does_done ⟨.ok result, rfl, hresult.symm⟩
  | error e =>
      cases e with
      | forbiddenSqlStatement message => exact Program.does_done ⟨_, rfl, rfl⟩
      | sqlStatementExecution message => exact Program.does_done ⟨_, rfl, rfl⟩
      | valueError message => exact Program.does_done ⟨_, rfl, rfl⟩
      | timeoutError => exact Program.does_done ⟨_, rfl, rfl⟩
      | cancelled => exact Program.does_done ⟨_, rfl, rfl⟩
      | raised name text cause => exact Program.does_done ⟨_, rfl, rfl⟩

/-- The messages of a `ForbiddenSqlStatementError`. -/
def refusals : List String :=
  ["Only simple SELECT statements are allowed.",
    "Query exceeds the configured cost threshold and is rejected."]

/-- The messages of a `ValueError`. -/
def invalidities : List String :=
  ["Exceeds the limit (4300 digits) for integer string conversion",
    "SQL_DATA_SCHEMA must be a valid PostgreSQL schema identifier."]

/-- What `execute_sql_statement` does: it refuses the statement, or executes the
text that may be executed for it, once, on a connection that was set up. -/
inductive Executed (sql : String) (params : Option (Dict Json)) :
    Trace V → Except Exn (List (Dict V)) → Prop
  | forbidden (message : String) (h : message ∈ refusals) :
      Executed sql params [] (.error (.forbiddenSqlStatement message))
  | invalid (message : String) (h : message ∈ invalidities) :
      Executed sql params [] (.error (.valueError message))
  | connected {text : String} {trace : Trace V} {result : Except Exn (List (Dict V))}
      (happroved : Approved self sql text)
      (hschema : SqlQueryRepository.isSchemaName self.dataSchema = true)
      (h : Connected self (some self.dataSchema) (fun _ body result => ∃ answer,
        body = [⟨.execute text (params.getD []), answer⟩] ∧
          result = statementResult self ofText jsonOf answer) trace result) :
      Executed sql params trace result

theorem executeSqlStatement_does (sql : String) (params : Option (Dict Json)) :
    (self.executeSqlStatement ofText jsonOf sql params).Does
      (Executed self ofText jsonOf sql params) := by
  unfold SqlQueryRepository.executeSqlStatement
  cases hsafe : self.sqlSafetyChecker.isSafeSelectQuery sql with
  | false => exact Program.does_done (.forbidden _ List.mem_cons_self)
  | true =>
      rw [if_neg (by simp)]
      cases hlimit : ensureLimit self.settings.maxRowLimit sql with
      | none => exact Program.does_done (.invalid _ List.mem_cons_self)
      | some text =>
          dsimp only
          split
          · exact Program.does_done (.forbidden _ (List.mem_cons_of_mem _ List.mem_cons_self))
          · next hcost =>
              cases hschema : SqlQueryRepository.isSchemaName self.dataSchema with
              | false =>
                  exact Program.does_done (.invalid _ (List.mem_cons_of_mem _ List.mem_cons_self))
              | true =>
                  rw [if_neg (by simp)]
                  refine (getConn_does fun _ => runStatement_does self ofText jsonOf text
                    params).weaken fun trace result h => ?_
                  exact .connected ⟨hsafe, hlimit, hcost⟩ hschema h

/-! ## Rows -/

omit [Python] [PythonUpper] [PythonTables] [Sqlglot] [Sqlparse] in
/-- A value comes of a value, and of a connection that was closed. -/
theorem concluded_ok {α : Type} {closed : Except Exn Unit} {result : Except Exn α} {a : α} :
    concluded closed result = .ok a ↔ closed = .ok () ∧ result = .ok a := by
  cases closed with
  | error e => exact ⟨fun h => (nomatch h), fun h => (nomatch h.1)⟩
  | ok done =>
      cases result with
      | error e => exact ⟨fun h => (nomatch h), fun h => (nomatch h.2)⟩
      | ok b => exact ⟨fun h => ⟨rfl, h⟩, fun h => h.2⟩

omit [PythonUpper] [PythonTables] [Sqlglot] [Sqlparse] in
theorem statementResult_ok {answer : Except Exn (Result V)} {rows : List (Dict V)}
    (h : statementResult self ofText jsonOf answer = .ok rows) :
    ∃ result, answer = .ok result ∧ self.fetchResult ofText jsonOf result.cursor = .ok rows := by
  cases answer with
  | error e => cases e <;> exact nomatch h
  | ok result =>
      rw [statementResult] at h
      cases hfetched : self.fetchResult ofText jsonOf result.cursor with
      | error exceeded =>
          rw [hfetched] at h
          exact nomatch h
      | ok fetched =>
          rw [hfetched] at h
          exact ⟨result, rfl, hfetched.trans (congrArg _ (Except.ok.inj h))⟩

/-- A connection that was set up, one statement on it, and the rows it gave. -/
inductive Fetched (sql : String) (params : Option (Dict Json)) : Trace V → List (Dict V) → Prop
  | mk {text dialectName : String} {done : List (String × Result V)} {result : Result V}
      {rows : List (Dict V)} (happroved : Approved self sql text)
      (hsetup : done.map Prod.fst = self.setup (some self.dataSchema) dialectName)
      (hrows : self.fetchResult ofText jsonOf result.cursor = .ok rows) :
      Fetched sql params (⟨.connect, .ok dialectName⟩ :: (done.map setUp ++
        [⟨.execute text (params.getD []), .ok result⟩, ⟨.close, .ok ()⟩])) rows

/-- The rows that are returned were fetched. -/
theorem Executed.fetched {sql : String} {params : Option (Dict Json)} {trace : Trace V}
    {rows : List (Dict V)} (h : Executed self ofText jsonOf sql params trace (.ok rows)) :
    Fetched self ofText jsonOf sql params trace rows := by
  generalize hresult : (Except.ok rows : Except Exn (List (Dict V))) = result at h
  cases h with
  | forbidden message h => exact nomatch hresult
  | invalid message h => exact nomatch hresult
  | connected happroved hschema h =>
      cases h with
      | refused e => exact nomatch hresult
      | failed dialectName before text e closed h => exact nomatch (concluded_ok.mp hresult.symm).2
      | served dialectName done body result closed hsetup h =>
          obtain ⟨rfl, hstatement⟩ := concluded_ok.mp hresult.symm
          obtain ⟨answer, rfl, rfl⟩ := h
          obtain ⟨result, rfl, hrows⟩ := statementResult_ok self ofText jsonOf hstatement
          rw [List.append_assoc]
          exact .mk happroved hsetup hrows

/-! ## Failures -/

/-- What is raised on a connection, or for want of one. -/
inductive Failure : Exn → Prop
  | execution (message : String) : Failure (.sqlStatementExecution message)
  | cancelled : Failure .cancelled

omit [Python] [PythonUpper] [PythonTables] [Sqlglot] [Sqlparse] in
theorem failure_wrapped (e : Exn) : Failure (wrapped e) := by
  cases e with
  | cancelled => exact .cancelled
  | sqlStatementExecution message => exact .execution message
  | forbiddenSqlStatement message => exact .execution _
  | valueError message => exact .execution _
  | timeoutError => exact .execution _
  | raised name text cause => exact .execution _

omit [Python] [PythonUpper] [PythonTables] [Sqlglot] [Sqlparse] in
theorem failure_concluded {α : Type} {closed : Except Exn Unit} {result : Except Exn α} {e : Exn}
    (h : concluded closed result = .error e) : Failure e := by
  cases closed with
  | error e' => exact Except.error.inj h ▸ failure_wrapped e'
  | ok done =>
      cases result with
      | error e' => exact Except.error.inj h ▸ failure_wrapped e'
      | ok a => exact nomatch h

/-- Whatever the database raises, one of these comes out. -/
theorem Executed.failure {sql : String} {params : Option (Dict Json)} {trace : Trace V} {e : Exn}
    (h : Executed self ofText jsonOf sql params trace (.error e)) (hreached : trace ≠ []) :
    Failure e := by
  generalize hresult : (Except.error e : Except Exn (List (Dict V))) = result at h
  cases h with
  | forbidden message h => exact absurd rfl hreached
  | invalid message h => exact absurd rfl hreached
  | connected happroved hschema h =>
      cases h with
      | refused e' => exact Except.error.inj hresult ▸ failure_wrapped e'
      | failed dialectName before text e' closed h => exact failure_concluded hresult.symm
      | served dialectName done body result closed hsetup h => exact failure_concluded hresult.symm

/-! ## Methods -/

/-- What the repository can be asked. -/
inductive Method where
  | executeSqlStatement (sql : String) (params : Option (Dict Json))
  | explainQueryCost (sql : String)
  | introspectSchema
  | getTableSchema (queryEmbeddings : List Rat)

/-- A method, for what it does to the database. -/
def SqlQueryRepository.perform : Method → Talk V Unit
  | .executeSqlStatement sql params =>
      (self.executeSqlStatement ofText jsonOf sql params).bind fun _ => pure ()
  | .explainQueryCost sql => (self.explainQueryCost jsonOf sql).bind fun _ => pure ()
  | .introspectSchema => (self.introspectSchema jsonOf).bind fun _ => pure ()
  | .getTableSchema queryEmbeddings =>
      (self.getTableSchema jsonOf queryEmbeddings).bind fun _ => pure ()

/-- The schema a method sets its connection to. -/
def Method.schemaName : Method → Option String
  | .executeSqlStatement _ _ => some self.dataSchema
  | .explainQueryCost _ => some self.dataSchema
  | .introspectSchema => none
  | .getTableSchema _ => some self.metadataSchema

/-- The queries of the catalog of an SQLite database. -/
inductive SqliteCatalog : Call → Prop
  | tables : SqliteCatalog (.execute sqliteTables [])
  | columns (table : String) (h : isTableName table = true) :
      SqliteCatalog (.execute (pragmaTableInfo table) [])
  | foreignKeys (table : String) (h : isTableName table = true) :
      SqliteCatalog (.execute (pragmaForeignKeyList table) [])

/-- The queries of the catalog of any other database. -/
inductive PostgresqlCatalog : Call → Prop
  | tables : PostgresqlCatalog (.execute postgresqlTables [])
  | ofTable (text : String) (schemaName tableName : Json)
      (h : text ∈ [postgresqlColumns, postgresqlPrimaryKeys, postgresqlForeignKeys]) :
      PostgresqlCatalog (.execute text [("schema", schemaName), ("table", tableName)])

/-- The calls a method may make on a connection that is set up. -/
def Permitted (method : Method) (dialectName : String) (c : Call) : Prop :=
  match method with
  | .executeSqlStatement sql params =>
      ∃ text, Approved self sql text ∧ c = .execute text (params.getD [])
  | .explainQueryCost sql => dialectName = "postgresql" ∧
      self.sqlSafetyChecker.isSafeSelectQuery sql = true ∧
        ∃ limited, ensureLimit self.settings.maxRowLimit sql = some limited ∧
          c = .execute ("EXPLAIN (FORMAT JSON) " ++ strip limited) []
  | .introspectSchema =>
      if dialectName = "sqlite" then SqliteCatalog c else PostgresqlCatalog c
  | .getTableSchema _ => ∃ embeddings, c = .execute SqlQueryRepository.similarityQuery
      [("query_embeddings", .str embeddings)]

/-- A run with one connection, on which no more than permitted is executed. -/
def Session (schemaName : Option String) (P : String → Call → Prop) (trace : Trace V) : Prop :=
  ∃ result : Except Exn Unit, Connected self schemaName
    (fun dialectName body _ => ∀ exchange ∈ body, P dialectName exchange.call) trace result

variable {self}

omit [Python] [PythonUpper] [PythonTables] [Sqlglot] [Sqlparse] in
theorem Connected.session {α : Type} {schemaName : Option String}
    {Q : String → Trace V → Except Exn α → Prop} {P : String → Call → Prop} {trace : Trace V}
    {result : Except Exn α} (h : Connected self schemaName Q trace result)
    (hQ : ∀ dialectName body result, Q dialectName body result →
      ∀ exchange ∈ body, P dialectName exchange.call) : Session self schemaName P trace := by
  cases h with
  | refused e => exact ⟨_, .refused e⟩
  | failed dialectName before text e closed h =>
      exact ⟨_, .failed dialectName before text e closed h⟩
  | served dialectName done body result closed hsetup h =>
      exact ⟨_, .served dialectName done body (.ok ()) closed hsetup (hQ _ _ _ h)⟩

/-- The connection was taken. -/
def isTaken (exchange : Exchange Call (Answer V) Exn) : Bool :=
  match exchange with
  | ⟨.connect, .ok _⟩ => true
  | _ => false

/-- The connection is given back. -/
def isGivenBack (exchange : Exchange Call (Answer V) Exn) : Bool :=
  match exchange.call with
  | .close => true
  | _ => false

omit [Python] [PythonUpper] [PythonTables] [Sqlglot] [Sqlparse] in
theorem countP_execute {P : Call → Prop}
    (hP : ∀ c, P c → ∃ text parameters, c = .execute text parameters)
    {body : Trace V} (h : ∀ exchange ∈ body, P exchange.call) :
    body.countP isTaken = 0 ∧ body.countP isGivenBack = 0 := by
  have hexecute : ∀ exchange ∈ body, isTaken exchange = false ∧ isGivenBack exchange = false := by
    rintro ⟨c, answer⟩ hmem
    obtain ⟨text, parameters, rfl⟩ := hP c (h _ hmem)
    exact ⟨rfl, rfl⟩
  rw [List.countP_eq_zero, List.countP_eq_zero]
  exact ⟨fun x hx => by simp [(hexecute x hx).1], fun x hx => by simp [(hexecute x hx).2]⟩

omit [Python] [PythonUpper] [PythonTables] [Sqlglot] [Sqlparse] in
/-- What is taken is given back. -/
theorem Session.balanced {schemaName : Option String} {P : String → Call → Prop}
    (hP : ∀ dialectName c, P dialectName c → ∃ text parameters, c = .execute text parameters)
    {trace : Trace V} (h : Session self schemaName P trace) :
    trace.countP isTaken = trace.countP isGivenBack := by
  have hsetup : ∀ done : List (String × Result V),
      (done.map setUp).countP isTaken = 0 ∧ (done.map setUp).countP isGivenBack = 0 := by
    intro done
    refine countP_execute (P := fun c => ∃ text parameters, c = .execute text parameters)
      (fun c hc => hc) fun exchange hmem => ?_
    obtain ⟨statement, -, rfl⟩ := List.mem_map.mp hmem
    exact ⟨_, _, rfl⟩
  have hconnect : ∀ {dialectName : String} (rest : Trace V),
      (⟨.connect, .ok dialectName⟩ :: rest : Trace V).countP isTaken = rest.countP isTaken + 1 ∧
        (⟨.connect, .ok dialectName⟩ :: rest : Trace V).countP isGivenBack =
          rest.countP isGivenBack :=
    fun rest => ⟨List.countP_cons_of_pos rfl, List.countP_cons_of_neg Bool.false_ne_true⟩
  have hclose : ∀ closed : Except Exn Unit,
      ([⟨.close, closed⟩] : Trace V).countP isTaken = 0 ∧
        ([⟨.close, closed⟩] : Trace V).countP isGivenBack = 1 := fun closed => ⟨rfl, rfl⟩
  obtain ⟨result, h⟩ := h
  cases h with
  | refused e => rfl
  | failed dialectName before text e closed h =>
      have hfailed : ([⟨.execute text [], .error e⟩] : Trace V).countP isTaken = 0 ∧
          ([⟨.execute text [], .error e⟩] : Trace V).countP isGivenBack = 0 := ⟨rfl, rfl⟩
      simp only [(hconnect _).1, (hconnect _).2, List.countP_append, hsetup before, hfailed,
        hclose closed]
  | served dialectName done body result closed hdone h =>
      have hbody := countP_execute (hP dialectName) h
      simp only [(hconnect _).1, (hconnect _).2, List.countP_append, hsetup done, hbody,
        hclose closed]

/-! ## What is executed -/

open Dialogue.Program (Calls calls_done calls_perform)

omit [Python] [PythonUpper] [PythonTables] [Sqlglot] [Sqlparse] in
/-- What a method does is what its program does. -/
theorem erased_does {α : Type} {p : Talk V α} {Q : Trace V → Prop}
    (h : p.Does fun trace _ => Q trace) :
    (p.bind fun _ => (pure () : Talk V Unit)).Does fun trace _ => Q trace := by
  refine h.bind (fun trace a htrace => Program.does_done ?_) fun trace e htrace => htrace
  rw [List.append_nil]
  exact htrace

omit [Python] [PythonUpper] [PythonTables] [Sqlglot] [Sqlparse] in
/-- A body that calls what it may, and a handler that calls nothing. -/
theorem getConn_session {α : Type} {schemaName : Option String} {body : String → Talk V α}
    {P : String → Call → Prop} (h : ∀ dialectName, Calls (P dialectName) (body dialectName))
    {handler : Exn → Talk V α} (hhandler : ∀ e, ∃ result, handler e = .done result) :
    ((self.getConn schemaName body).except handler).Does fun trace _ =>
      Session self schemaName P trace := by
  have hsession : (self.getConn schemaName body).Does fun trace _ =>
      Session self schemaName P trace :=
    (getConn_does h).weaken fun trace result hconnected =>
      hconnected.session fun _ _ _ hcalls => hcalls
  refine hsession.except (fun trace a htrace => htrace) fun trace e htrace => ?_
  obtain ⟨result, hresult⟩ := hhandler e
  rw [hresult]
  refine Program.does_done ?_
  rw [List.append_nil]
  exact htrace

theorem explainQueryCost_does (sql : String) :
    (self.explainQueryCost jsonOf sql).Does fun trace _ => trace = [] ∨
      Session self (some self.dataSchema) (Permitted self (.explainQueryCost sql)) trace := by
  unfold SqlQueryRepository.explainQueryCost
  cases hsafe : self.sqlSafetyChecker.isSafeSelectQuery sql with
  | false => exact Program.does_done (.inl rfl)
  | true =>
      rw [if_neg (by simp)]
      cases hlimit : ensureLimit self.settings.maxRowLimit sql with
      | none => exact Program.does_done (.inl rfl)
      | some limited =>
          refine Does.weaken (getConn_session (fun dialectName => ?_) fun e => ?_)
            fun _ _ => .inr
          · split
            · exact calls_done _
            · next hdialect =>
                refine Calls.bind (calls_perform ?_) fun result => calls_done _
                exact ⟨not_not.mp hdialect, hsafe, limited, hlimit, rfl⟩
          · cases e <;> exact ⟨_, rfl⟩

omit [Python] [PythonUpper] [PythonTables] [Sqlglot] [Sqlparse] in
theorem isTableName_of_sqliteTableName {row : Dict V} {table : String}
    (h : sqliteTableName jsonOf row = .ok (some table)) : isTableName table = true := by
  unfold sqliteTableName at h
  cases hcell : cell jsonOf row 0 with
  | error e =>
      rw [hcell] at h
      exact nomatch h
  | ok value =>
      rw [hcell] at h
      cases value with
      | str name =>
          by_cases hname : isTableName name = true
          · simp only [Except.bind, hname, if_true, Except.ok.injEq, Option.some.injEq] at h
            exact h ▸ hname
          · simp [Except.bind, hname] at h
      | null => exact nomatch h
      | bool b => exact nomatch h
      | int n => exact nomatch h
      | float q => exact nomatch h
      | arr items => exact nomatch h
      | obj fields => exact nomatch h

omit [PythonUpper] [PythonTables] [Sqlglot] [Sqlparse] in
theorem introspectSqlite_calls : Calls SqliteCatalog (introspectSqlite jsonOf) := by
  refine Calls.bind (calls_perform .tables) fun tables => ?_
  refine Calls.bind (calls_done _) fun rows => ?_
  refine Calls.bind (Calls.forEach fun row => ?_) fun read => calls_done _
  refine Program.calls_done_bind fun found hfound => ?_
  cases found with
  | none => exact calls_done _
  | some table =>
      have htable := isTableName_of_sqliteTableName jsonOf hfound
      refine Calls.bind ?_ fun info => calls_done _
      refine Calls.bind (calls_perform (.columns table htable)) fun columns => ?_
      refine Calls.bind (calls_done _) fun columns => ?_
      refine Calls.bind (calls_perform (.foreignKeys table htable)) fun keys => ?_
      exact Calls.bind (calls_done _) fun keys => calls_done _

omit [PythonUpper] [PythonTables] [Sqlglot] [Sqlparse] in
theorem introspectPostgresql_calls : Calls PostgresqlCatalog (introspectPostgresql jsonOf) := by
  refine Calls.bind (calls_perform .tables) fun tables => ?_
  refine Calls.bind (calls_done _) fun rows => Calls.forEach fun row => ?_
  refine Calls.bind (calls_done _) fun schemaName => ?_
  refine Calls.bind (calls_done _) fun tableName => ?_
  refine Calls.bind (calls_perform (.ofTable _ schemaName tableName (by simp))) fun columns => ?_
  refine Calls.bind (calls_done _) fun columns => ?_
  refine Calls.bind (calls_perform (.ofTable _ schemaName tableName (by simp))) fun primary => ?_
  refine Calls.bind (calls_done _) fun primary => ?_
  refine Calls.bind (calls_perform (.ofTable _ schemaName tableName (by simp))) fun keys => ?_
  refine Calls.bind (calls_done _) fun keys => ?_
  refine Calls.bind (calls_done _) fun columns => ?_
  exact Calls.bind (calls_done _) fun keys => calls_done _

/-- Everything a method may do is to execute. -/
theorem Permitted.execute {method : Method} {dialectName : String} {c : Call}
    (h : Permitted self method dialectName c) : ∃ text parameters, c = .execute text parameters := by
  cases method with
  | executeSqlStatement sql params =>
      obtain ⟨text, -, rfl⟩ := h
      exact ⟨_, _, rfl⟩
  | explainQueryCost sql =>
      obtain ⟨-, -, limited, -, rfl⟩ := h
      exact ⟨_, _, rfl⟩
  | introspectSchema =>
      rw [Permitted] at h
      by_cases hdialect : dialectName = "sqlite"
      · rw [if_pos hdialect] at h
        cases h <;> exact ⟨_, _, rfl⟩
      · rw [if_neg hdialect] at h
        cases h <;> exact ⟨_, _, rfl⟩
  | getTableSchema queryEmbeddings =>
      obtain ⟨embeddings, rfl⟩ := h
      exact ⟨_, _, rfl⟩

/-- What reaches a tenant's database: a method calls nothing, or does what it may
on one connection, and gives it back. -/
theorem perform_does (self : SqlQueryRepository V) (ofText : String → V) (jsonOf : V → Json)
    (method : Method) : (self.perform ofText jsonOf method).Does fun trace _ =>
      trace = [] ∨ Session self (method.schemaName self) (Permitted self method) trace := by
  cases method with
  | executeSqlStatement sql params =>
      refine erased_does ((executeSqlStatement_does self ofText jsonOf sql params).weaken
        fun trace result h => ?_)
      cases h with
      | forbidden message h => exact .inl rfl
      | invalid message h => exact .inl rfl
      | @connected text trace result happroved hschema h =>
          refine .inr (h.session ?_)
          rintro dialectName body result ⟨answer, rfl, -⟩ exchange hmem
          rw [List.mem_singleton.mp hmem]
          exact ⟨text, happroved, rfl⟩
  | explainQueryCost sql => exact erased_does (explainQueryCost_does jsonOf sql)
  | introspectSchema =>
      refine erased_does (Does.weaken (getConn_session (fun dialectName => ?_) fun e => ?_)
        fun _ _ => .inr)
      · by_cases hdialect : dialectName = "sqlite"
        · rw [if_pos hdialect]
          refine (introspectSqlite_calls jsonOf).weaken fun trace _ h exchange hmem => ?_
          rw [Permitted, if_pos hdialect]
          exact h exchange hmem
        · rw [if_neg hdialect]
          refine (introspectPostgresql_calls jsonOf).weaken fun trace _ h exchange hmem => ?_
          rw [Permitted, if_neg hdialect]
          exact h exchange hmem
      · cases e <;> exact ⟨_, rfl⟩
  | getTableSchema queryEmbeddings =>
      refine erased_does (Does.weaken (getConn_session (fun dialectName => ?_) fun e => ?_)
        fun _ _ => .inr)
      · exact Calls.bind (calls_perform ⟨_, rfl⟩) fun result => calls_done _
      · cases e <;> exact ⟨_, rfl⟩

/-- **What reaches a tenant's database**: whatever the database answers, a method
of the repository calls nothing, or takes one connection, sets it up completely
before it executes what it may and nothing else, and gives it back. -/
theorem database_mediated {self : SqlQueryRepository V} {ofText : String → V} {jsonOf : V → Json}
    {method : Method} {trace : Trace V} {result : Except Exn Unit}
    (h : (self.perform ofText jsonOf method).Runs trace result) :
    (trace = [] ∨ Session self (method.schemaName self) (Permitted self method) trace) ∧
      trace.countP isTaken = trace.countP isGivenBack := by
  have hsession := perform_does self ofText jsonOf method trace result h
  refine ⟨hsession, ?_⟩
  rcases hsession with rfl | hsession
  · rfl
  · exact hsession.balanced fun _ _ => Permitted.execute

end

section

variable {V : Type}

open Sql (titleText titleQuery parserOf tokensOf albumTokens)

local instance : Python := Python.folding
local instance : PythonTables := PythonTables.folding
local instance : PythonUpper := PythonUpper.ascii
local instance : Sqlglot := parserOf titleText titleQuery
local instance : Sqlparse :=
  tokensOf (albumTokens ⟨none, some "title"⟩ ⟨none, some "album"⟩ "title" "album")

/-- A repository of titles, for a tenant served by a read-only role. -/
def titleRepository (V : Type) : SqlQueryRepository V where
  sqlSafetyChecker := ⟨10000, ∅, []⟩
  settings := ⟨5000, 1048576, none, []⟩
  queryTimeoutSeconds := 30
  statementTimeoutMs := 30000
  lockTimeoutMs := 5000
  readonlyRole := some ⟨"gateway_reader", by decide⟩
  dataSchema := "public"
  metadataSchema := "metadata"
  queryCostThreshold := 100
  queryCostAction := .warn

/-- The statement with the default cap. -/
def boundedTitle : String := titleText ++ " LIMIT 100"

theorem approved_title : Approved (titleRepository V) titleText boundedTitle :=
  ⟨(by decide : (Sql.DefaultSqlSafetyChecker.mk 10000 ∅ []).isSafeSelectQuery titleText = true),
    (by decide : ensureLimit 5000 titleText = some boundedTitle),
    (by decide : (evaluateQueryCost 100 .warn boundedTitle).decision ≠ .deny)⟩

theorem executeSqlStatement_title (ofText : String → V) (jsonOf : V → Json) :
    (titleRepository V).executeSqlStatement ofText jsonOf titleText none =
      (titleRepository V).getConn (some "public") fun _ =>
        (titleRepository V).runStatement ofText jsonOf boundedTitle none := by
  have hcost := (approved_title (V := V)).affordable
  have hschema : SqlQueryRepository.isSchemaName (titleRepository V).dataSchema = true := by
    show SqlQueryRepository.isSchemaName "public" = true
    decide
  rw [SqlQueryRepository.executeSqlStatement, approved_title.safe, approved_title.bounded]
  simp only [hcost, hschema, Bool.not_true, Bool.false_eq_true, if_false]
  rfl

/-- A statement whose connection is lost. -/
def lostTitle : Trace Nat :=
  ⟨.connect, .ok "postgresql"⟩ ::
    ((((titleRepository Nat).setup (some "public") "postgresql").map fun text =>
        (text, ⟨none⟩)).map setUp ++
      [⟨.execute boundedTitle [], .error (.raised "OperationalError" "connection lost" none)⟩] ++
        [⟨.close, .ok ()⟩])

theorem database_mediated_title :
    (lostTitle = [] ∨ Session (titleRepository Nat) (some "public") (Permitted (titleRepository Nat)
        (.executeSqlStatement titleText none)) lostTitle) ∧
      lostTitle.countP isTaken = lostTitle.countP isGivenBack := by
  have hrun : ∃ result, ((titleRepository Nat).perform (fun _ => 0) (fun n => .int n)
      (.executeSqlStatement titleText none)).Runs lostTitle result := by
    rw [SqlQueryRepository.perform, executeSqlStatement_title]
    exact ⟨_, .call (.call (.call (.call (.call (.call (.call (.call (.done _))))))))⟩
  obtain ⟨result, hrun⟩ := hrun
  exact database_mediated hrun

end

end DbGateway.Repository
