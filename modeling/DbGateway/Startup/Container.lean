import DbGateway.Repository.Mediation
import DbGateway.Startup.Secrets
import DbGateway.Tenant.Config
import DbGateway.Tenant.ReadOnlyUrl
import DbGateway.Tenant.Services

/-!
# DbGateway.Startup.Container

`setup_container`: the repository a tenant's connection is served by, from what a
process finds in its environment.

A guarded process sets up no PostgreSQL connection without a role that may only
read, and the repository takes that role on every connection before it executes
anything else, whatever the database answers (`readonly_in_production`).

Numbers of the environment that are not finite are left out, and row limits
under zero.
-/

namespace DbGateway.Startup

open Fallible (bind_eq_ok_iff pure_eq_ok_iff)
open Repository (Call CostAction Exn Method Result RoleName Session SqlQueryRepository Trace setUp)
open Sql (DefaultSqlSafetyChecker PythonUpper Sqlglot Sqlparse startsWith)
open Tenant (Container)
open Tenant.Config (Number PythonNumbers)

/-! ## Numbers -/

section

variable [PythonNumbers] (self : Host)

/-- `int(os.getenv(name, default))` -/
def Host.int (name default : String) : Except StartupError Int :=
  (PythonNumbers.intOfStr (self.getenvOr name default)).mapError .valueError

/-- `float(os.getenv(name, default))`, of finite floats -/
def Host.float (name default : String) : Except StartupError Rat :=
  match PythonNumbers.floatOfStr (self.getenvOr name default) with
  | .ok (.finite q) => .ok q
  | .ok _ => .error (.raised "not finite")
  | .error message => .error (.valueError message)

/-- `pool_settings_from_env` and `pool_settings_from_config` -/
structure PoolSettings where
  poolSize : Int
  maxOverflow : Int
  poolTimeout : Rat
  poolRecycle : Int

/-- A check that raises. -/
def require (condition : Bool) (message : String) : Except StartupError Unit :=
  if condition then .ok () else .error (.valueError message)

/-- `pool_settings_from_env` -/
def poolSettingsFromEnv : Except StartupError PoolSettings := do
  let poolSize ← self.int "DB_POOL_SIZE" "5"
  let maxOverflow ← self.int "DB_MAX_OVERFLOW" "10"
  let poolTimeout ← self.float "DB_POOL_TIMEOUT_SECONDS" "30"
  let poolRecycle ← self.int "DB_POOL_RECYCLE_SECONDS" "1800"
  require (1 ≤ poolSize) "DB_POOL_SIZE must be at least 1."
  require (0 ≤ maxOverflow) "DB_MAX_OVERFLOW must be >= 0."
  require (0 < poolTimeout) "DB_POOL_TIMEOUT_SECONDS must be greater than zero."
  require (0 ≤ poolRecycle) "DB_POOL_RECYCLE_SECONDS must be >= 0."
  return { poolSize, maxOverflow, poolTimeout, poolRecycle }

/-- A setting of the tenant, if it has one, is checked and replaces the default. -/
def override {α : Type} (value : Option α) (valid : α → Bool) (message : String) (default : α) :
    Except StartupError α :=
  match value with
  | none => .ok default
  | some value => if valid value then .ok value else .error (.valueError message)

/-- `pool_settings_from_config` -/
def poolSettingsFromConfig (config : Container) : Except StartupError PoolSettings := do
  let defaults ← poolSettingsFromEnv self
  let poolSize ← override config.poolSize (1 ≤ ·) "pool_size must be at least 1." defaults.poolSize
  let maxOverflow ← override config.maxOverflow (0 ≤ ·) "max_overflow must be >= 0."
    defaults.maxOverflow
  let poolTimeout ← override config.poolTimeout (0 < ·) "pool_timeout must be greater than zero."
    defaults.poolTimeout
  let poolRecycle ← override config.poolRecycle (0 ≤ ·) "pool_recycle must be >= 0."
    defaults.poolRecycle
  return { poolSize, maxOverflow, poolTimeout, poolRecycle }

end

/-! ## Lists -/

section

variable [Python]

/-- `value.strip().lower()` of the values between separators, blank ones aside -/
def names (separator : Char) (rawValue : String) : List String :=
  (((rawValue.toList.splitOn separator).map fun value => strip (String.ofList value)).filter
    (· ≠ "")).map lower

/-- `_parse_table_allowlist` -/
def parseTableAllowlist (rawValue : String) : Finset String := (names ',' rawValue).toFinset

/-- `_parse_sensitive_columns` -/
def parseSensitiveColumns (rawValue : String) : List String := names ',' rawValue

/-- `text.split(sep, 1)`, unpacked -/
def unpackOnce (separator : Char) (text : String) : Except StartupError (String × String) :=
  if separator ∈ text.toList then
    let (first, rest) := SqliteUrl.splitOnce [separator] text.toList
    .ok (String.ofList first, String.ofList rest)
  else .error (.valueError "not enough values to unpack (expected 2, got 1)")

/-- `_parse_column_allowlist` -/
def parseColumnAllowlist (rawValue : String) : Except StartupError (Dict (Finset String)) :=
  ((((rawValue.toList.splitOn ';').map String.ofList).filter fun entry => strip entry ≠ "").mapM
    fun entry => (unpackOnce ':' entry).map fun (tableName, columns) =>
      (lower (strip tableName), (names ',' columns).toFinset)).map Dict.ofPairs

/-- A value between single quotes, without them. -/
def unquoted (value : String) : String :=
  if value.toList.head? = some '\'' && value.toList.getLast? = some '\'' then
    String.ofList (value.toList.drop 1).dropLast
  else value

/-- `_parse_row_filter`; `equals` compares a value of the database with a text. -/
def parseRowFilter {V : Type} (equals : V → String → Bool) (rawValue : String) :
    Except StartupError (Option (Dict V → Bool)) :=
  if strip rawValue = "" then .ok none
  else (unpackOnce '=' rawValue).map fun (key, value) => some fun row =>
    (row.lookup (lower (strip key))).any fun cell => equals cell (unquoted (strip value))

end

/-! ## The repository -/

section

variable [Python] [PythonNumbers] {V : Type}

/-- `_READONLY_ROLE_PATTERN`, of what the environment has -/
def readRole (roleName : Option String) : Except StartupError (Option RoleName) :=
  (Repository.validateReadonlyRoleName roleName).mapError fun
    | .valueError message => .valueError message
    | e => .raised e.text

/-- `enforce_readonly_role_guardrail` -/
def enforceReadonlyRoleGuardrail (host : Host) (connectionString : String) (production : Bool) :
    Except StartupError Unit :=
  if !startsWith connectionString "postgresql" || !production then .ok ()
  else
    let roleName := strip (host.getenvOr "SQL_READONLY_ROLE" "")
    if roleName = "" then
      .error (.runtimeError ("Production PostgreSQL tenants require SQL_READONLY_ROLE: the login " ++
        "session must SET ROLE to the dedicated SELECT-only role provisioned " ++
        "by scripts/setup_least_privilege_gateway_role.sql."))
    else (readRole (some roleName)).map fun _ => ()

/-- `self._query_cost_action` -/
def costAction (value : String) : CostAction :=
  if value = "allow" then .allow else if value = "warn" then .warn else .deny

/-- `int(seconds * 1000)`, of finite products -/
def milliseconds (toMs : Rat → Option Int) (seconds : Rat) : Except StartupError Int :=
  match toMs seconds with
  | some ms => .ok ms
  | none => .error .overflowError

/-- `SqlQueryRepository(…)` -/
def SqlQueryRepository.init (host : Host) (toMs : Rat → Option Int)
    (sqlSafetyChecker : DefaultSqlSafetyChecker) (queryTimeoutSeconds : Rat)
    (sensitiveColumns : List String) (rowFilter : Option (Dict V → Bool))
    (dataSchema metadataSchema : String) : Except StartupError (SqlQueryRepository V) := do
  require (0 < queryTimeoutSeconds) "SQL_QUERY_TIMEOUT_SECONDS must be greater than zero."
  let maxRowLimit ← host.int "SQL_QUERY_MAX_ROW_LIMIT" "5000"
  -- a limit under zero is left out
  require (0 ≤ maxRowLimit) "left out"
  let maxResultBytes ← host.int "SQL_QUERY_MAX_RESULT_BYTES" "5242880"
  let queryCostThreshold ← host.float "SQL_QUERY_COST_THRESHOLD" "16"
  let queryCostAction := costAction (lower (strip (host.getenvOr "SQL_QUERY_COST_ACTION" "deny")))
  let lockTimeout ← host.float "SQL_LOCK_TIMEOUT_SECONDS" "5"
  let lockTimeoutMs ← milliseconds toMs lockTimeout
  require (0 < lockTimeoutMs) "SQL_LOCK_TIMEOUT_SECONDS must be greater than zero."
  -- `os.getenv("SQL_READONLY_ROLE") or None`
  let readonlyRole ← readRole ((host.getenv "SQL_READONLY_ROLE").filter (· ≠ ""))
  let statementTimeoutMs ← milliseconds toMs queryTimeoutSeconds
  return {
    sqlSafetyChecker
    settings := ⟨maxRowLimit.toNat, maxResultBytes, rowFilter, sensitiveColumns.map lower⟩
    queryTimeoutSeconds, statementTimeoutMs, lockTimeoutMs, readonlyRole, dataSchema
    metadataSchema, queryCostThreshold, queryCostAction }

/-- An engine: its URL, and the settings of its pool on PostgreSQL. -/
structure Engine where
  url : String
  pool : Option PoolSettings

/-- `data_schema or os.getenv(name, default)` -/
def Host.orSetting (self : Host) (value name default : String) : String :=
  if value ≠ "" then value else self.getenvOr name default

/-- The engine of a container; `createAsyncEngine` is what SQLAlchemy makes of it. -/
def Engine.create (host : Host) (createAsyncEngine : Engine → Except StartupError Unit)
    (container : Container) (url : String) : Except StartupError Engine := do
  let engine ←
    if startsWith url "postgresql" then
      (poolSettingsFromConfig host container).map fun pool => ⟨url, some pool⟩
    else .ok ⟨url, none⟩
  createAsyncEngine engine
  return engine

/-- `setup_container`, for what a container is given -/
def setupContainer (host : Host) (createAsyncEngine : Engine → Except StartupError Unit)
    (toMs : Rat → Option Int) (equals : V → String → Bool) (container : Container) :
    Except StartupError (Engine × SqlQueryRepository V) := do
  let url := String.ofList (Tenant.normalizeConnectionString container.connectionString.toList)
  enforceReadonlyRoleGuardrail host url (host.isEnvironmentProduction && !host.isCi)
  let engine ← Engine.create host createAsyncEngine container url
  let columnAllowlist ← parseColumnAllowlist (host.getenvOr "SQL_ALLOWED_COLUMNS" "")
  let sqlSafetyChecker := DefaultSqlSafetyChecker.init 10000
    (parseTableAllowlist (host.getenvOr "SQL_ALLOWED_TABLES" "")) columnAllowlist
  let queryTimeoutSeconds ← host.float "SQL_QUERY_TIMEOUT_SECONDS" "30"
  let rowFilter ← parseRowFilter equals (host.getenvOr "SQL_ROW_FILTER" "")
  let repository ← SqlQueryRepository.init host toMs sqlSafetyChecker queryTimeoutSeconds
    (parseSensitiveColumns (host.getenvOr "SQL_SENSITIVE_COLUMNS" "")) rowFilter
    (host.orSetting container.dataSchema "SQL_DATA_SCHEMA" "public")
    (host.orSetting container.metadataSchema "SQL_METADATA_SCHEMA" "meta")
  return (engine, repository)

/-! ## The role -/

omit [Python] [PythonNumbers] in
/-- A PostgreSQL URL is left as it is. -/
theorem normalize_postgresql {connectionString : String}
    (h : startsWith connectionString "postgresql" = true) :
    String.ofList (Tenant.normalizeConnectionString connectionString.toList) = connectionString := by
  obtain ⟨rest, hrest⟩ := List.isPrefixOf_iff_prefix.mp h
  have hsqlite : Tenant.isSqlite connectionString.toList = false := by
    rw [← hrest]
    rfl
  rw [Tenant.normalizeConnectionString, hsqlite, Bool.false_and, if_neg Bool.false_ne_true,
    String.ofList_toList]

omit [Python] [PythonNumbers] in
theorem readRole_some {roleName : String} {role : Option RoleName}
    (h : readRole (some roleName) = .ok role) : ∃ r, role = some r ∧ r.name = strip roleName := by
  by_cases bare : Repository.isRoleName (strip roleName) = true
  · simp only [readRole, Repository.validateReadonlyRoleName, dif_pos bare] at h
    exact ⟨⟨strip roleName, bare⟩, (Except.ok.inj h).symm, rfl⟩
  · simp only [readRole, Repository.validateReadonlyRoleName, dif_neg bare] at h
    exact nomatch h

/-- The repository takes the role the environment names. -/
theorem SqlQueryRepository.init_role {host : Host} {toMs : Rat → Option Int}
    {sqlSafetyChecker : DefaultSqlSafetyChecker} {queryTimeoutSeconds : Rat}
    {sensitiveColumns : List String} {rowFilter : Option (Dict V → Bool)}
    {dataSchema metadataSchema : String} {repository : SqlQueryRepository V}
    (h : SqlQueryRepository.init host toMs sqlSafetyChecker queryTimeoutSeconds sensitiveColumns
      rowFilter dataSchema metadataSchema = .ok repository) :
    readRole ((host.getenv "SQL_READONLY_ROLE").filter (· ≠ "")) = .ok repository.readonlyRole := by
  unfold SqlQueryRepository.init at h
  simp only [bind_eq_ok_iff] at h
  obtain ⟨_, _, _, _, _, _, _, _, _, _, _, _, _, _, _, _, role, hrole, _, _, h⟩ := h
  rw [← pure_eq_ok_iff.mp h]
  exact hrole

/-- What a container is set up with. -/
theorem setupContainer_ok {host : Host} {createAsyncEngine : Engine → Except StartupError Unit}
    {toMs : Rat → Option Int} {equals : V → String → Bool} {container : Container}
    {engine : Engine} {repository : SqlQueryRepository V}
    (h : setupContainer host createAsyncEngine toMs equals container = .ok (engine, repository)) :
    enforceReadonlyRoleGuardrail host
        (String.ofList (Tenant.normalizeConnectionString container.connectionString.toList))
        (host.isEnvironmentProduction && !host.isCi) = .ok () ∧
      readRole ((host.getenv "SQL_READONLY_ROLE").filter (· ≠ "")) =
        .ok repository.readonlyRole := by
  unfold setupContainer at h
  simp only [bind_eq_ok_iff, pure_eq_ok_iff] at h
  obtain ⟨_, hguard, _, _, _, _, _, _, _, _, repository', hrepository, h⟩ := h
  rw [← (Prod.mk.inj h).2]
  exact ⟨hguard, SqlQueryRepository.init_role hrepository⟩

/-- A guarded process names a role to every repository of a PostgreSQL tenant. -/
theorem role_of_guarded {host : Host} {createAsyncEngine : Engine → Except StartupError Unit}
    {toMs : Rat → Option Int} {equals : V → String → Bool} {container : Container}
    {engine : Engine} {repository : SqlQueryRepository V} (hguarded : host.Guarded)
    (hpostgresql : startsWith container.connectionString "postgresql" = true)
    (h : setupContainer host createAsyncEngine toMs equals container = .ok (engine, repository)) :
    ∃ role, repository.readonlyRole = some role ∧
      role.name = strip (host.getenvOr "SQL_READONLY_ROLE" "") := by
  obtain ⟨hguard, hrole⟩ := setupContainer_ok h
  rw [normalize_postgresql hpostgresql, host.guarded_iff.mp hguarded] at hguard
  simp only [enforceReadonlyRoleGuardrail, hpostgresql, Bool.not_true, Bool.or_self,
    Bool.false_eq_true, if_false] at hguard
  split at hguard
  · exact nomatch hguard
  · next hne =>
    cases hname : host.getenv "SQL_READONLY_ROLE" with
    | none =>
        rw [Host.getenvOr, hname] at hne
        exact absurd (by decide) hne
    | some roleName =>
        have hset : roleName ≠ "" := by
          rintro rfl
          rw [Host.getenvOr, hname] at hne
          exact hne (by decide)
        rw [hname, Option.filter_some, if_pos (decide_eq_true hset)] at hrole
        rw [Host.getenvOr, hname]
        exact readRole_some hrole

end

/-! ## What is executed under it -/

section

variable {V : Type}

/-- The first statement of every PostgreSQL connection -/
def readOnlyText : String := "SET SESSION CHARACTERISTICS AS TRANSACTION READ ONLY;"

/-- and the second one. -/
def setRoleText (role : RoleName) : String := "SET ROLE " ++ role.name ++ ";"

/-- A statement was executed. -/
def Succeeded (trace : Trace V) (text : String) : Prop := ∃ result, setUp (text, result) ∈ trace

/-- After `before`, every statement is one of the first two, or is executed after
both. -/
def Shielded (role : RoleName) (before : Trace V) : Trace V → Prop
  | [] => True
  | exchange :: rest =>
      (∀ text parameters, exchange.call = Call.execute text parameters →
        text = readOnlyText ∨ (Succeeded before readOnlyText ∧
          (text = setRoleText role ∨ Succeeded before (setRoleText role)))) ∧
        Shielded role (before ++ [exchange]) rest

variable {role : RoleName} {before trace : Trace V}

theorem Succeeded.append {text : String} (h : Succeeded before text) (rest : Trace V) :
    Succeeded (before ++ rest) text :=
  h.imp fun _ hmem => List.mem_append_left rest hmem

theorem succeeded_setUp (before : Trace V) (text : String) (result : Result V) :
    Succeeded (before ++ [setUp (text, result)]) text :=
  ⟨result, List.mem_append_right before (List.mem_singleton_self _)⟩

/-- Once both were executed, whatever follows. -/
theorem shielded_of_succeeded (hreadOnly : Succeeded before readOnlyText)
    (hrole : Succeeded before (setRoleText role)) : Shielded role before trace := by
  induction trace generalizing before with
  | nil => trivial
  | cons exchange rest ih =>
      exact ⟨fun _ _ _ => .inr ⟨hreadOnly, .inr hrole⟩,
        ih (hreadOnly.append [exchange]) (hrole.append [exchange])⟩

/-- What is no statement. -/
theorem Shielded.other {exchange : Dialogue.Exchange Call (Repository.Answer V) Exn}
    (hcall : ∀ text parameters, exchange.call ≠ Call.execute text parameters)
    (h : Shielded role (before ++ [exchange]) trace) : Shielded role before (exchange :: trace) :=
  ⟨fun text parameters hexecute => absurd hexecute (hcall text parameters), h⟩

/-- The first statement, whatever comes of it. -/
theorem Shielded.readOnly {answer : Except Exn (Result V)}
    (h : Shielded role (before ++ [⟨.execute readOnlyText [], answer⟩]) trace) :
    Shielded role before (⟨.execute readOnlyText [], answer⟩ :: trace) :=
  ⟨fun _ _ hexecute => .inl (Call.execute.inj hexecute).1.symm, h⟩

/-- The second one, after the first. -/
theorem Shielded.setRole {answer : Except Exn (Result V)} (hbefore : Succeeded before readOnlyText)
    (h : Shielded role (before ++ [⟨.execute (setRoleText role) [], answer⟩]) trace) :
    Shielded role before (⟨.execute (setRoleText role) [], answer⟩ :: trace) :=
  ⟨fun _ _ hexecute => .inr ⟨hbefore, .inl (Call.execute.inj hexecute).1.symm⟩, h⟩

/-- Both statements at the head of a setup, and whatever follows. -/
theorem shielded_setUp {statements : List (String × Result V)} {rest : List String}
    (hstatements : statements.map Prod.fst = readOnlyText :: setRoleText role :: rest) :
    Shielded role before (statements.map setUp ++ trace) := by
  obtain ⟨⟨text, readOnly⟩, statements, rfl, rfl, hrest⟩ := List.map_eq_cons_iff.mp hstatements
  obtain ⟨⟨text, setRole⟩, statements, rfl, rfl, -⟩ := List.map_eq_cons_iff.mp hrest
  have hfirst := succeeded_setUp before readOnlyText readOnly
  exact .readOnly (.setRole hfirst
    (shielded_of_succeeded (hfirst.append _) (succeeded_setUp _ (setRoleText role) setRole)))

variable {repository : SqlQueryRepository V}

/-- The setup of a PostgreSQL connection begins with both. -/
theorem setup_postgresql (hrole : repository.readonlyRole = some role)
    (schemaName : Option String) : ∃ rest,
      repository.setup schemaName "postgresql" = readOnlyText :: setRoleText role :: rest := by
  rw [SqlQueryRepository.setup, if_pos rfl, hrole]
  exact ⟨_, rfl⟩

/-- A session with PostgreSQL is shielded by the role of its repository. -/
theorem Session.shielded {schemaName : Option String} {P : String → Call → Prop}
    (hrole : repository.readonlyRole = some role) (h : Session repository schemaName P trace)
    (hdialect : ∀ dialectName, (⟨.connect, .ok dialectName⟩ : Dialogue.Exchange Call
      (Repository.Answer V) Exn) ∈ trace → dialectName = "postgresql") :
    Shielded role [] trace := by
  obtain ⟨rest, hsetup⟩ := setup_postgresql hrole schemaName
  obtain ⟨result, h⟩ := h
  cases h with
  | refused e => exact .other (fun _ _ => Call.noConfusion) trivial
  | failed dialectName done text e closed h =>
      obtain rfl := hdialect dialectName List.mem_cons_self
      rw [hsetup] at h
      refine .other (fun _ _ => Call.noConfusion) ?_
      rw [List.append_assoc]
      match done, h with
      | [], h =>
          obtain ⟨rfl, -⟩ := List.cons_prefix_cons.mp h
          exact .readOnly (.other (fun _ _ => Call.noConfusion) trivial)
      | [(_, readOnly)], h =>
          obtain ⟨rfl, hrest⟩ := List.cons_prefix_cons.mp h
          obtain ⟨rfl, -⟩ := List.cons_prefix_cons.mp hrest
          exact .readOnly (.setRole (succeeded_setUp _ readOnlyText readOnly)
            (.other (fun _ _ => Call.noConfusion) trivial))
      | (_, readOnly) :: (_, setRole) :: done, h =>
          obtain ⟨rfl, hrest⟩ := List.cons_prefix_cons.mp h
          obtain ⟨rfl, -⟩ := List.cons_prefix_cons.mp hrest
          exact shielded_setUp rfl
  | served dialectName done body result closed hdone h =>
      obtain rfl := hdialect dialectName List.mem_cons_self
      rw [List.append_assoc]
      exact .other (fun _ _ => Call.noConfusion) (shielded_setUp (hdone.trans hsetup))

end

section

variable [Python] [PythonNumbers] [PythonUpper] [PythonTables] [Sqlglot] [Sqlparse] {V : Type}

/-- **Read-only in production.**  Where a guarded process has set up a PostgreSQL
tenant, every statement that any method executes, whatever the database answers,
is executed on a session that is read-only and has taken the role the environment
names, but for the two statements that make it so. -/
theorem readonly_in_production {host : Host} {createAsyncEngine : Engine → Except StartupError Unit}
    {toMs : Rat → Option Int} {equals : V → String → Bool} {container : Container}
    {engine : Engine} {repository : SqlQueryRepository V} {ofText : String → V} {jsonOf : V → Json}
    {method : Method} {trace : Trace V} {result : Except Exn Unit} (hguarded : host.Guarded)
    (hpostgresql : startsWith container.connectionString "postgresql" = true)
    (hsetup : setupContainer host createAsyncEngine toMs equals container = .ok (engine, repository))
    (hrun : (repository.perform ofText jsonOf method).Runs trace result)
    (hdialect : ∀ dialectName, (⟨.connect, .ok dialectName⟩ : Dialogue.Exchange Call
      (Repository.Answer V) Exn) ∈ trace → dialectName = "postgresql") :
    ∃ role : RoleName, role.name = strip (host.getenvOr "SQL_READONLY_ROLE" "") ∧
      Shielded role [] trace := by
  obtain ⟨role, hrole, hname⟩ := role_of_guarded hguarded hpostgresql hsetup
  refine ⟨role, hname, ?_⟩
  rcases Repository.perform_does repository ofText jsonOf method trace result hrun with rfl | h
  · trivial
  · exact Session.shielded hrole h hdialect

end

section

open Sql (titleText titleQuery parserOf tokensOf albumTokens)

/-- The numbers of a process that sets none. -/
@[reducible] def defaultNumbers : PythonNumbers where
  intOfStr s :=
    match ([("5", 5), ("10", 10), ("1800", 1800), ("5000", 5000), ("5242880", 5242880)] :
      List (String × Int)).lookup s with
    | some n => .ok n
    | none => .error ("invalid literal for int() with base 10: '" ++ s ++ "'")
  floatOfStr s :=
    match ([("30", 30), ("16", 16), ("5", 5)] : List (String × Rat)).lookup s with
    | some q => .ok (.finite q)
    | none => .error ("could not convert string to float: '" ++ s ++ "'")
  floatOfInt n := some n

local instance python : Python := Python.folding
local instance : PythonTables := PythonTables.folding
local instance : PythonUpper := PythonUpper.ascii
local instance : PythonNumbers := defaultNumbers
local instance : Sqlglot := parserOf titleText titleQuery
local instance : Sqlparse :=
  tokensOf (albumTokens ⟨none, some "title"⟩ ⟨none, some "album"⟩ "title" "album")

/-- Production, with a role and all defaults. -/
def readerHost : Host where
  getenv name := [("SQL_READONLY_ROLE", "gateway_reader")].lookup name
  open_ _ := .missing

/-- A tenant on PostgreSQL. -/
def mainContainer : Container :=
  ⟨"postgresql://db/main", "public", "meta", "tenant-a", "db-a", "primary", none, none, none, none⟩

/-- `int(seconds * 1000)` -/
def wholeMs (seconds : Rat) : Option Int := some (seconds.num * 1000 / seconds.den)

/-- The catalog is not readable for the role. -/
def deniedTrace : Trace Nat :=
  [⟨.connect, .ok "postgresql"⟩,
    setUp (readOnlyText, ⟨none⟩), setUp ("SET ROLE gateway_reader;", ⟨none⟩),
    setUp ("SET SESSION statement_timeout = '30000';", ⟨none⟩),
    setUp ("SET SESSION lock_timeout = '5000';", ⟨none⟩),
    ⟨.execute Repository.postgresqlTables [],
      .error (.raised "ProgrammingError" "permission denied" none)⟩,
    ⟨.close, .ok ()⟩]

theorem isRoleName_reader : Repository.isRoleName "gateway_reader" = true := by decide

/-- The repository of the tenant. -/
def readerRepository : SqlQueryRepository Nat where
  sqlSafetyChecker := .init 10000 ∅ []
  settings := ⟨5000, 5242880, none, []⟩
  queryTimeoutSeconds := 30
  statementTimeoutMs := 30000
  lockTimeoutMs := 5000
  readonlyRole := some ⟨"gateway_reader", isRoleName_reader⟩
  dataSchema := "public"
  metadataSchema := "meta"
  queryCostThreshold := 16
  queryCostAction := .deny

theorem readonly_in_production_main : ∃ role : RoleName,
    role.name = "gateway_reader" ∧ Shielded role [] deniedTrace := by
  have hguarded : readerHost.Guarded := by
    constructor <;> decide
  have hsetup : setupContainer readerHost (fun _ => .ok ()) wholeMs (fun n s => toString n = s)
      mainContainer = .ok (⟨"postgresql://db/main", some ⟨5, 10, 30, 1800⟩⟩, readerRepository) := rfl
  have hrun : ∃ result, (readerRepository.perform (fun _ => 0) (fun n => .int n)
      .introspectSchema).Runs deniedTrace result :=
    ⟨_, .call (.call (.call (.call (.call (.call (.call (.done _)))))))⟩
  obtain ⟨result, hrun⟩ := hrun
  have hdialect : ∀ dialectName, (⟨.connect, .ok dialectName⟩ : Dialogue.Exchange Call
      (Repository.Answer Nat) Exn) ∈ deniedTrace → dialectName = "postgresql" := by
    intro dialectName hmem
    simp only [deniedTrace, setUp, List.mem_cons, List.not_mem_nil, or_false] at hmem
    rcases hmem with h | h | h | h | h | h | h <;> cases h
    rfl
  have hname : strip (readerHost.getenvOr "SQL_READONLY_ROLE" "") = "gateway_reader" := by decide
  obtain ⟨role, hrole, hshielded⟩ :=
    readonly_in_production hguarded (by decide) hsetup hrun hdialect
  exact ⟨role, hrole.trans hname, hshielded⟩

end

end DbGateway.Startup
