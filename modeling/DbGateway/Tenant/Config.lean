import DbGateway.Dict
import DbGateway.Json
import DbGateway.Tenant.Resolver
import DbGateway.Fallible

/-!
# DbGateway.Tenant.Config

`services/tenant_database_resolver.py`: how a JSON configuration becomes
bindings.

The class has an `__init__` of its own, so `dataclass` makes none, and nothing
calls `__post_init__`.  Which configurations lead to bindings that would pass it
is said by `postInit_iff`.
-/

namespace DbGateway.Tenant.Config

/-! ## Values -/

/-- An exception. -/
inductive Raised where
  | valueError (message : String)
  | typeError
  | attributeError
  | overflowError

/-- A `float` -/
inductive Number where
  | finite (q : Rat)
  | inf
  | negInf
  | nan

/-- Conversions of numbers. -/
class PythonNumbers where
  /-- `int` of a string; an error is the message of a `ValueError` -/
  intOfStr : String → Except String Int
  /-- `float` of a string, likewise -/
  floatOfStr : String → Except String Number
  /-- `float` of an integer; `none` is an `OverflowError` -/
  floatOfInt : Int → Option Rat

section

variable [PythonNumbers]

/-- A number of JSON that is too large for a float, such as `1e400`: the decoder reads it
as infinite. -/
def isInfinite (q : Rat) : Bool :=
  let bound : Rat := 2 ^ 1024 - 2 ^ 970
  bound ≤ q || q ≤ -bound

/-- `int(value)`, which has no integer for an infinite float -/
def toInt : Json → Except Raised Int
  | .bool b => .ok (if b then 1 else 0)
  | .int n => .ok n
  | .float q => if isInfinite q then .error .overflowError else .ok (q.num.tdiv q.den)
  | .str s => (PythonNumbers.intOfStr s).mapError .valueError
  | _ => .error .typeError

/-- `float(value)` -/
def toFloat : Json → Except Raised Number
  | .bool b => .ok (.finite (if b then 1 else 0))
  | .int n =>
      match PythonNumbers.floatOfInt n with
      | some q => .ok (.finite q)
      | none => .error .overflowError
  | .float q => .ok (if isInfinite q then (if 0 < q then .inf else .negInf) else .finite q)
  | .str s => (PythonNumbers.floatOfStr s).mapError .valueError
  | _ => .error .typeError

/-- `if value is not None: value = int(value)` -/
def optionalInt : Json → Except Raised (Option Int)
  | .null => .ok none
  | value => (toInt value).map some

/-- `if value is not None: value = float(value)` -/
def optionalFloat : Json → Except Raised (Option Number)
  | .null => .ok none
  | value => (toFloat value).map some

end

/-- `value.items()` -/
def items : Json → Except Raised (Dict Json)
  | .obj fields => .ok fields
  | _ => .error .attributeError

/-- `value.strip()` -/
def stripped : Json → Except Raised String
  | .str s => .ok (strip s)
  | _ => .error .attributeError

/-- `word in text` -/
def mentions (text word : String) : Bool := decide (word.toList <:+: text.toList)

/-- `needle in value` -/
def isInside (needle : String) : Json → Except Raised Bool
  | .str s => .ok (mentions s needle)
  | .arr items => .ok (Json.isIn (.str needle) items)
  | .obj fields => .ok (fields.any fun kv => kv.1 == needle)
  | _ => .error .typeError

/-- `entry.get(key, default)` -/
def field (entry : Dict Json) (key : String) (default : Json := .null) : Json :=
  (entry.get? key).getD default

/-! ## Schema names -/

section

variable [Python]

/-- `schema_name.replace("_", "").isalnum()` -/
def isIdentifier (schemaName : String) : Bool :=
  let rest := schemaName.toList.filter (· ≠ '_')
  !rest.isEmpty && rest.all Python.isAlnum

/-- The check of a schema name. -/
def checkSchema : Json → Except Raised Unit
  | .str schemaName =>
      if isIdentifier schemaName then .ok ()
      else .error (.valueError "Configured schema names must be valid identifiers.")
  | _ => .error .attributeError

/-- A schema name that passes the check. -/
def IsSchema (schema : Json) : Prop := ∃ s, schema = .str s ∧ isIdentifier s = true

theorem isSchema_str {s : String} : IsSchema (.str s) ↔ isIdentifier s = true := by
  simp [IsSchema]

theorem checkSchema_eq_ok_iff {schema : Json} :
    checkSchema schema = .ok () ↔ IsSchema schema := by
  cases schema with
  | str s => cases h : isIdentifier s with
    | true => simp [checkSchema, IsSchema, h]
    | false => simp [checkSchema, IsSchema, h]
  | _ => simp [checkSchema, IsSchema]

end

/-! ## The class -/

/-- `TenantDatabaseConfig`, as it comes from JSON. -/
structure TenantDatabaseConfig where
  orgId : String
  databaseId : String
  credentialMode : String
  connectionString : Json
  replicaConnectionString : Json
  useReadReplica : Bool
  roleName : Json
  credsDir : Json
  host : Json
  port : Int
  dbName : Json
  dataSchema : Json
  metadataSchema : Json
  poolSize : Option Int
  maxOverflow : Option Int
  poolTimeout : Option Number
  poolRecycle : Option Int

/-- The arguments of `__init__`. -/
structure Arguments where
  orgId : String
  databaseId : String
  connectionString : Json := .null
  credentialMode : String := "static"
  replicaConnectionString : Json := .null
  useReadReplica : Option Bool := none
  roleName : Json := .str ""
  credsDir : Json := .str "/creds"
  host : Json := .str ""
  port : Int := 5432
  dbName : Json := .str ""
  dataSchema : Json := .str "public"
  metadataSchema : Json := .str "meta"
  poolSize : Option Int := none
  maxOverflow : Option Int := none
  poolTimeout : Option Number := none
  poolRecycle : Option Int := none

namespace TenantDatabaseConfig

/-- What `__init__` sets in the new keyword format. -/
def ofArguments (args : Arguments) : TenantDatabaseConfig where
  orgId := args.orgId
  databaseId := args.databaseId
  credentialMode := args.credentialMode
  connectionString := args.connectionString.or (.str "")
  replicaConnectionString := args.replicaConnectionString
  useReadReplica := args.useReadReplica.getD args.replicaConnectionString.truthy
  roleName := args.roleName
  credsDir := args.credsDir
  host := args.host
  port := args.port
  dbName := args.dbName
  dataSchema := args.dataSchema
  metadataSchema := args.metadataSchema
  poolSize := args.poolSize
  maxOverflow := args.maxOverflow
  poolTimeout := args.poolTimeout
  poolRecycle := args.poolRecycle

/-- What `__init__` sets in the legacy positional format. -/
def ofLegacy (args : Arguments) : TenantDatabaseConfig where
  orgId := args.orgId
  databaseId := args.databaseId
  credentialMode := "static"
  connectionString := args.connectionString
  replicaConnectionString := args.replicaConnectionString
  useReadReplica := args.useReadReplica.getD args.replicaConnectionString.truthy
  roleName := .str ""
  credsDir := args.credsDir
  host := .str ""
  port := 5432
  dbName := .str ""
  dataSchema := args.dataSchema
  metadataSchema := args.metadataSchema
  poolSize := args.poolSize
  maxOverflow := args.maxOverflow
  poolTimeout := args.poolTimeout
  poolRecycle := args.poolRecycle

/-- `__init__`: the format is told by `connection_string is not None and "://" in
connection_string`. -/
def init (args : Arguments) : Except Raised TenantDatabaseConfig :=
  match args.connectionString with
  | .null => .ok (ofArguments args)
  | connectionString =>
      (isInside "://" connectionString).map fun legacy =>
        if legacy then ofLegacy args else ofArguments args

/-- Without a connection string the arguments are taken as they are. -/
theorem init_of_null {args : Arguments} (h : args.connectionString = .null) :
    init args = .ok (ofArguments args) := by
  rw [init, h]

/-- In static mode the two formats come to the same; the connection string only
has to be something that `in` takes. -/
theorem init_eq_ok_iff_of_static {args : Arguments} {self : TenantDatabaseConfig}
    (hconnection : args.connectionString.truthy = true) (hmode : args.credentialMode = "static")
    (hrole : args.roleName = .str "") (hhost : args.host = .str "") (hport : args.port = 5432)
    (hdb : args.dbName = .str "") :
    init args = .ok self ↔
      (∃ legacy, isInside "://" args.connectionString = .ok legacy) ∧ ofArguments args = self := by
  have hsame : ofLegacy args = ofArguments args := by
    rw [ofLegacy, ofArguments, Json.or_of_truthy _ hconnection, hmode, hrole, hhost, hport, hdb]
  have hinit : init args = (isInside "://" args.connectionString).map fun legacy =>
      if legacy then ofLegacy args else ofArguments args := by
    cases hvalue : args.connectionString with
    | null =>
        rw [hvalue] at hconnection
        contradiction
    | _ =>
        rw [init, hvalue]
  rw [hinit, Fallible.map_eq_ok_iff]
  simp only [hsame, ite_self]
  exact ⟨fun ⟨legacy, hlegacy, hself⟩ => ⟨⟨legacy, hlegacy⟩, hself⟩,
    fun ⟨⟨legacy, hlegacy⟩, hself⟩ => ⟨legacy, hlegacy, hself⟩⟩

/-- The fields that the credential mode requires. -/
def checkMode (self : TenantDatabaseConfig) : Except Raised Unit :=
  if self.credentialMode = "static" then
    match stripped self.connectionString with
    | .ok connectionString =>
        if connectionString = "" then .error (.valueError "Static mode requires connection_string.")
        else .ok ()
    | .error e => .error e
  else if self.credentialMode = "rotated" then
    if !self.roleName.truthy then .error (.valueError "Rotated mode requires role_name.")
    else if !self.host.truthy then .error (.valueError "Rotated mode requires host.")
    else if !self.dbName.truthy then .error (.valueError "Rotated mode requires db_name.")
    else .ok ()
  else .error (.valueError ("Unknown credential_mode: " ++ self.credentialMode))

/-- `__post_init__` -/
def postInit [Python] (self : TenantDatabaseConfig) : Except Raised Unit :=
  if strip self.orgId = "" then .error (.valueError "org_id is required.")
  else if strip self.databaseId = "" then .error (.valueError "database_id is required.")
  else if !isValidDatabaseId self.databaseId then
    .error (.valueError "Tenant database identifiers must be opaque logical identifiers.")
  else do
    checkSchema self.dataSchema
    checkSchema self.metadataSchema
    self.checkMode

theorem strip_ne_of_isValidDatabaseId {databaseId : String}
    (h : isValidDatabaseId databaseId = true) : strip databaseId ≠ "" := by
  intro hempty
  rw [isValidDatabaseId, hempty] at h
  contradiction

/-- The fields that the credential mode requires are there. -/
def HasModeFields (self : TenantDatabaseConfig) : Prop :=
  self.credentialMode = "static" ∧ (∃ s, self.connectionString = .str s ∧ strip s ≠ "") ∨
    self.credentialMode = "rotated" ∧ self.roleName.truthy = true ∧ self.host.truthy = true ∧
      self.dbName.truthy = true

theorem checkMode_eq_ok_iff {self : TenantDatabaseConfig} :
    self.checkMode = .ok () ↔ self.HasModeFields := by
  rw [checkMode, HasModeFields]
  by_cases hstatic : self.credentialMode = "static"
  · cases hvalue : self.connectionString with
    | str s =>
        by_cases hs : strip s = ""
        · simp [hstatic, stripped, hs]
        · simp [hstatic, stripped, hs]
    | _ => simp [hstatic, stripped]
  · by_cases hrotated : self.credentialMode = "rotated"
    · cases hrole : self.roleName.truthy with
      | false => simp [hrotated]
      | true =>
          cases hhost : self.host.truthy with
          | false => simp [hrotated]
          | true => cases hdb : self.dbName.truthy with
            | false => simp [hrotated]
            | true => simp [hrotated]
    · simp [hstatic, hrotated]

/-- What `__post_init__` asks for. -/
theorem postInit_eq_ok_iff [Python] {self : TenantDatabaseConfig} : self.postInit = .ok () ↔
    strip self.orgId ≠ "" ∧ isValidDatabaseId self.databaseId = true ∧
      IsSchema self.dataSchema ∧ IsSchema self.metadataSchema ∧ self.HasModeFields := by
  rw [postInit]
  by_cases horg : strip self.orgId = ""
  · simp [horg]
  rw [if_neg horg]
  by_cases hid : isValidDatabaseId self.databaseId = true
  · rw [if_neg (strip_ne_of_isValidDatabaseId hid), if_neg (by simp [hid])]
    simp only [Fallible.unit_bind_eq_ok_iff, checkSchema_eq_ok_iff, checkMode_eq_ok_iff, hid, horg,
      ne_eq, not_false_eq_true, true_and]
  · have hfalse : isValidDatabaseId self.databaseId = false := Bool.eq_false_iff.mpr hid
    split
    · simp [hfalse]
    · simp [hfalse]

end TenantDatabaseConfig

/-! ## The unified format -/

section

variable [Python] [PythonNumbers]

/-- `entry.get("credential_mode", "static")` -/
def modeOf (entry : Dict Json) : Json := field entry "credential_mode" (.str "static")

/-- The connection pool settings of an entry. -/
structure Pool where
  size : Option Int
  maxOverflow : Option Int
  timeout : Option Number
  recycle : Option Int

/-- The pool settings, converted. -/
def poolSettings (entry : Dict Json) : Except Raised Pool := do
  let size ← optionalInt (field entry "pool_size")
  let maxOverflow ← optionalInt (field entry "max_overflow")
  let timeout ← optionalFloat (field entry "pool_timeout")
  let recycle ← optionalInt (field entry "pool_recycle")
  return { size, maxOverflow, timeout, recycle }

/-- `bool(use_read_replica)`, where `None` is made `True` for a replica. -/
def usesReplica (useReadReplica replica : Json) : Bool :=
  match useReadReplica with
  | .null => replica.truthy
  | useReadReplica => useReadReplica.truthy

/-- The arguments for an entry in static mode. -/
def staticArguments (tenantId databaseId : String) (dbConfig : Dict Json) (pool : Pool) :
    Arguments where
  orgId := tenantId
  databaseId
  credentialMode := "static"
  connectionString := field dbConfig "connection_string"
  dataSchema := field dbConfig "data_schema" (.str "public")
  metadataSchema := field dbConfig "metadata_schema" (.str "meta")
  replicaConnectionString := field dbConfig "replica_connection_string"
  useReadReplica :=
    usesReplica (field dbConfig "use_read_replica") (field dbConfig "replica_connection_string")
  poolSize := pool.size
  maxOverflow := pool.maxOverflow
  poolTimeout := pool.timeout
  poolRecycle := pool.recycle

/-- The arguments for an entry in rotated mode. -/
def rotatedArguments (tenantId databaseId : String) (dbConfig : Dict Json) (pool : Pool)
    (port : Int) : Arguments where
  orgId := tenantId
  databaseId
  credentialMode := "rotated"
  roleName := field dbConfig "role_name"
  host := field dbConfig "host"
  port
  dbName := field dbConfig "db_name"
  credsDir := field dbConfig "creds_dir" (.str "/creds")
  dataSchema := field dbConfig "data_schema" (.str "public")
  metadataSchema := field dbConfig "metadata_schema" (.str "meta")
  poolSize := pool.size
  maxOverflow := pool.maxOverflow
  poolTimeout := pool.timeout
  poolRecycle := pool.recycle

/-- The body of the loops of `_parse_config`, for an object. -/
def parseDatabase (tenantId databaseId : String) (dbConfig : Dict Json) :
    Except Raised TenantDatabaseConfig := do
  let credentialMode := modeOf dbConfig
  let place := tenantId ++ "/" ++ databaseId
  let pool ← poolSettings dbConfig
  if credentialMode.same (.str "static") then
    if !(field dbConfig "connection_string").truthy then
      .error (.valueError ("Static mode requires connection_string for " ++ place))
    else TenantDatabaseConfig.init (staticArguments tenantId databaseId dbConfig pool)
  else if credentialMode.same (.str "rotated") then
    if !(field dbConfig "role_name").truthy then
      .error (.valueError ("Rotated mode requires role_name for " ++ place))
    else if !(field dbConfig "host").truthy then
      .error (.valueError ("Rotated mode requires host for " ++ place))
    else if !(field dbConfig "db_name").truthy then
      .error (.valueError ("Rotated mode requires db_name for " ++ place))
    else do
      let port ← toInt (field dbConfig "port" (.int 5432))
      TenantDatabaseConfig.init (rotatedArguments tenantId databaseId dbConfig pool port)
  else
    .error (.valueError ("Unknown credential_mode: " ++ credentialMode.toStr ++ " for " ++ place))

/-- `_parse_config` -/
def parseConfig (config : Json) : Except Raised (List TenantDatabaseConfig) := do
  let tenants ← items (field (← items config) "tenants" (.obj []))
  let result ← tenants.mapM fun (tenantId, tenantData) => do
    let databases ← items (field (← items tenantData) "databases" (.obj []))
    databases.mapM fun (databaseId, dbConfig) => do
      parseDatabase tenantId databaseId (← items dbConfig)
  return result.flatten

/-! ## The legacy format -/

/-- What a mapping `{database: value}` stands for. -/
def legacyEntry (orgId databaseId : String) : Json → Except Raised (Dict Json)
  | .str value =>
      .ok [("org_id", .str orgId), ("database_id", .str databaseId),
        ("connection_string", .str value), ("credential_mode", .str "static")]
  | .obj value =>
      let entry := Dict.set (Dict.set value "org_id" (.str orgId)) "database_id" (.str databaseId)
      if (Dict.get? entry "credential_mode").isSome then .ok entry
      else if (Dict.get? entry "connection_string").isSome then
        .ok (Dict.set entry "credential_mode" (.str "static"))
      else if (Dict.get? entry "role_name").isSome then
        .ok (Dict.set entry "credential_mode" (.str "rotated"))
      else .ok (Dict.set entry "credential_mode" (.str "static"))
  | _ => .error (.valueError "Tenant database connection configuration is invalid.")

/-- The entries of `_parse_bindings`. -/
def legacyEntries : Json → Except Raised (List (Dict Json))
  | .arr entries =>
      entries.mapM fun
        | .obj entry => .ok entry
        | _ => .error (.valueError "Tenant database entries must be objects.")
  | .obj parsed =>
      if (Dict.get? parsed "org_id").isSome && (Dict.get? parsed "database_id").isSome then
        .ok [parsed]
      else do
        let entries ← parsed.mapM fun (orgId, databases) =>
          match databases with
          | .obj databases =>
              databases.mapM fun (databaseId, value) => legacyEntry orgId databaseId value
          | _ => .error (.valueError "Tenant database mappings must be nested objects.")
        return entries.flatten
  | _ => .error (.valueError "Tenant database configuration must be a JSON object or array.")

/-- `entry.get(key) or ...`, starting from a value -/
def firstOf (entry : Dict Json) (start : Json) (keys : List String) : Json :=
  keys.foldl (fun value key => value.or (field entry key)) start

/-- `replica_connection_string` before it is stripped -/
def replicaOf (entry : Dict Json) : Json :=
  let replica := firstOf entry .null
    ["replica_connection_string", "read_replica_connection_string", "replica_url",
      "read_replica_url"]
  ["replica", "read_replica"].foldl (fun replica key =>
    match field entry key with
    | .obj nested => firstOf nested replica ["connection_string", "database_url", "url"]
    | _ => replica) replica

/-- `str(entry.get(key, os.getenv(name, default)))` -/
def schemaOf (environ : Dict String) (entry : Dict Json) (key name default : String) : String :=
  (field entry key (.str ((environ.get? name).getD default))).toStr

/-- `replica_connection_string.strip()`, or `None` where that is nothing -/
def strippedReplica : Json → Json
  | .str replica => if strip replica ≠ "" then .str (strip replica) else .null
  | _ => .null

/-- The arguments for a legacy entry in static mode. -/
def legacyStaticArguments (environ : Dict String) (orgId databaseId connectionString : String)
    (entry : Dict Json) (pool : Pool) : Arguments where
  orgId := strip orgId
  databaseId := strip databaseId
  credentialMode := "static"
  connectionString := .str (strip connectionString)
  dataSchema := .str (schemaOf environ entry "data_schema" "SQL_DATA_SCHEMA" "public")
  metadataSchema := .str (schemaOf environ entry "metadata_schema" "SQL_METADATA_SCHEMA" "meta")
  replicaConnectionString := strippedReplica (replicaOf entry)
  useReadReplica := usesReplica (field entry "use_read_replica") (replicaOf entry)
  poolSize := pool.size
  maxOverflow := pool.maxOverflow
  poolTimeout := pool.timeout
  poolRecycle := pool.recycle

/-- The arguments for a legacy entry in rotated mode. -/
def legacyRotatedArguments (environ : Dict String)
    (orgId databaseId roleName host dbName : String) (port : Int) (entry : Dict Json)
    (pool : Pool) : Arguments where
  orgId := strip orgId
  databaseId := strip databaseId
  credentialMode := "rotated"
  roleName := .str roleName
  host := .str host
  port
  dbName := .str dbName
  credsDir := field entry "creds_dir" (.str "/creds")
  dataSchema := .str (schemaOf environ entry "data_schema" "SQL_DATA_SCHEMA" "public")
  metadataSchema := .str (schemaOf environ entry "metadata_schema" "SQL_METADATA_SCHEMA" "meta")
  poolSize := pool.size
  maxOverflow := pool.maxOverflow
  poolTimeout := pool.timeout
  poolRecycle := pool.recycle

/-- `entry["org_id"]` and `entry["database_id"]`, which have to be strings. -/
def entryIds (entry : Dict Json) : Except Raised (String × String) :=
  match field entry "org_id", field entry "database_id" with
  | .str orgId, .str databaseId => .ok (orgId, databaseId)
  | _, _ => .error (.valueError "Tenant database entries require org_id and database_id.")

/-- The body of the second loop of `_parse_bindings`. -/
def parseEntry (environ : Dict String) (entry : Dict Json) :
    Except Raised TenantDatabaseConfig := do
  let credentialMode := modeOf entry
  if credentialMode.same (.str "static") then
    let pool ← poolSettings entry
    let (orgId, databaseId) ← entryIds entry
    match firstOf entry .null ["connection_string", "database_url", "url"] with
    | .str connectionString =>
        if strip connectionString = "" then
          .error (.valueError "Static mode entries require connection_string.")
        else
          TenantDatabaseConfig.init
            (legacyStaticArguments environ orgId databaseId connectionString entry pool)
    | _ => .error (.valueError "Static mode entries require connection_string.")
  else if credentialMode.same (.str "rotated") then
    let pool ← poolSettings entry
    let (orgId, databaseId) ← entryIds entry
    if !(field entry "role_name").truthy then
      .error (.valueError "Rotated mode entries require role_name.")
    else if !(field entry "host").truthy then
      .error (.valueError "Rotated mode entries require host.")
    else if !(field entry "db_name").truthy then
      .error (.valueError "Rotated mode entries require db_name.")
    else do
      let roleName ← stripped (field entry "role_name")
      let host ← stripped (field entry "host")
      let port ← toInt (field entry "port" (.int 5432))
      let dbName ← stripped (field entry "db_name")
      TenantDatabaseConfig.init
        (legacyRotatedArguments environ orgId databaseId roleName host dbName port entry pool)
  else .error (.valueError ("Unknown credential_mode: " ++ credentialMode.toStr))

/-- `_parse_bindings` -/
def parseBindings (environ : Dict String) (parsed : Json) :
    Except Raised (List TenantDatabaseConfig) := do
  (← legacyEntries parsed).mapM (parseEntry environ)

/-! ## What is parsed -/

/-- An entry of the unified format that is accepted, and its binding. -/
theorem parseDatabase_eq_ok_iff {tenantId databaseId : String} {dbConfig : Dict Json}
    {binding : TenantDatabaseConfig} :
    parseDatabase tenantId databaseId dbConfig = .ok binding ↔
      ∃ pool, poolSettings dbConfig = .ok pool ∧
        (modeOf dbConfig = .str "static" ∧ (field dbConfig "connection_string").truthy = true ∧
            (∃ legacy, isInside "://" (field dbConfig "connection_string") = .ok legacy) ∧
            .ofArguments (staticArguments tenantId databaseId dbConfig pool) = binding ∨
          modeOf dbConfig = .str "rotated" ∧ (field dbConfig "role_name").truthy = true ∧
            (field dbConfig "host").truthy = true ∧ (field dbConfig "db_name").truthy = true ∧
            ∃ port, toInt (field dbConfig "port" (.int 5432)) = .ok port ∧
              .ofArguments (rotatedArguments tenantId databaseId dbConfig pool port) = binding) := by
  rw [parseDatabase, Fallible.bind_eq_ok_iff]
  refine exists_congr fun pool => and_congr_right fun _ => ?_
  by_cases hstatic : modeOf dbConfig = .str "static"
  · rw [if_pos (Json.same_str_iff.mpr hstatic), Fallible.check_eq_ok_iff]
    simp only [hstatic, true_and, Json.str.injEq, String.reduceEq, false_and, or_false]
    refine and_congr_right fun hconnection => ?_
    exact TenantDatabaseConfig.init_eq_ok_iff_of_static hconnection rfl rfl rfl rfl rfl
  · rw [if_neg (mt Json.same_str_iff.mp hstatic)]
    by_cases hrotated : modeOf dbConfig = .str "rotated"
    · rw [if_pos (Json.same_str_iff.mpr hrotated)]
      simp only [Fallible.check_eq_ok_iff, Fallible.bind_eq_ok_iff, hrotated, true_and,
        Json.str.injEq, String.reduceEq, false_and, false_or]
      refine and_congr_right fun _ => and_congr_right fun _ => and_congr_right fun _ => ?_
      refine exists_congr fun port => and_congr_right fun _ => ?_
      rw [TenantDatabaseConfig.init_of_null rfl, Except.ok.injEq]
    · rw [if_neg (mt Json.same_str_iff.mp hrotated)]
      simp [hstatic, hrotated]

omit [Python] [PythonNumbers] in
theorem entryIds_eq_ok_iff {entry : Dict Json} {ids : String × String} :
    entryIds entry = .ok ids ↔
      field entry "org_id" = .str ids.1 ∧ field entry "database_id" = .str ids.2 := by
  obtain ⟨orgId, databaseId⟩ := ids
  rw [entryIds]
  split
  case h_1 orgId' databaseId' horg hdatabase => simp [horg, hdatabase]
  case h_2 hnot =>
    constructor
    · intro h
      contradiction
    · intro h
      exact (hnot orgId databaseId h.1 h.2).elim

omit [Python] [PythonNumbers] in
theorem stripped_eq_ok_iff {value : Json} {s : String} :
    stripped value = .ok s ↔ ∃ t, value = .str t ∧ strip t = s := by
  cases value with
  | str t => simp [stripped]
  | _ => simp [stripped]

/-- A legacy entry that is accepted, and its binding. -/
theorem parseEntry_eq_ok {environ : Dict String} {entry : Dict Json}
    {binding : TenantDatabaseConfig} (h : parseEntry environ entry = .ok binding) :
    ∃ orgId databaseId pool, field entry "org_id" = .str orgId ∧
      field entry "database_id" = .str databaseId ∧
      (modeOf entry = .str "static" ∧ (∃ connectionString, strip connectionString ≠ "" ∧
          binding = .ofArguments
            (legacyStaticArguments environ orgId databaseId connectionString entry pool)) ∨
        modeOf entry = .str "rotated" ∧ ∃ roleName host dbName port,
          field entry "role_name" = .str roleName ∧ field entry "host" = .str host ∧
          field entry "db_name" = .str dbName ∧
          binding = .ofArguments (legacyRotatedArguments environ orgId databaseId (strip roleName)
            (strip host) (strip dbName) port entry pool)) := by
  rw [parseEntry] at h
  by_cases hstatic : modeOf entry = .str "static"
  · rw [if_pos (Json.same_str_iff.mpr hstatic)] at h
    simp only [Fallible.bind_eq_ok_iff, entryIds_eq_ok_iff] at h
    obtain ⟨pool, hpool, ⟨orgId, databaseId⟩, ⟨horg, hdatabase⟩, h⟩ := h
    refine ⟨orgId, databaseId, pool, horg, hdatabase, .inl ⟨hstatic, ?_⟩⟩
    split at h
    case h_1 connectionString hconnection =>
      split at h
      case isTrue => contradiction
      case isFalse hblank =>
        have hne : strip connectionString ≠ "" := hblank
        rw [TenantDatabaseConfig.init_eq_ok_iff_of_static (by
          simpa [legacyStaticArguments, Json.truthy_str_iff] using hne) rfl rfl rfl rfl rfl] at h
        exact ⟨connectionString, hne, h.2.symm⟩
    case h_2 => contradiction
  · rw [if_neg (mt Json.same_str_iff.mp hstatic)] at h
    by_cases hrotated : modeOf entry = .str "rotated"
    · rw [if_pos (Json.same_str_iff.mpr hrotated)] at h
      simp only [Fallible.bind_eq_ok_iff, entryIds_eq_ok_iff, Fallible.check_eq_ok_iff,
        stripped_eq_ok_iff] at h
      obtain ⟨pool, hpool, ⟨orgId, databaseId⟩, ⟨horg, hdatabase⟩, hrole, hhost, hdb, h⟩ := h
      obtain ⟨_, ⟨roleName, hroleName, rfl⟩, _, ⟨host, hhostName, rfl⟩, port, hport, _,
        ⟨dbName, hdbName, rfl⟩, h⟩ := h
      rw [TenantDatabaseConfig.init_of_null rfl, Except.ok.injEq] at h
      exact ⟨orgId, databaseId, pool, horg, hdatabase, .inr ⟨hrotated, roleName, host, dbName, port,
        hroleName, hhostName, hdbName, h.symm⟩⟩
    · rw [if_neg (mt Json.same_str_iff.mp hrotated)] at h
      contradiction

/-! ## Configurations -/

/-- The fields of an object. -/
def fieldsOf : Json → Dict Json
  | .obj fields => fields
  | _ => []

/-- The entries of the unified format: tenant, database, configuration. -/
def configEntries (config : Json) : List (String × String × Dict Json) :=
  (fieldsOf (field (fieldsOf config) "tenants" (.obj []))).flatMap fun tenant =>
    (fieldsOf (field (fieldsOf tenant.2) "databases" (.obj []))).map fun database =>
      (tenant.1, database.1, fieldsOf database.2)

omit [Python] [PythonNumbers] in
theorem items_eq_ok_iff {value : Json} {fields : Dict Json} :
    items value = .ok fields ↔ value = .obj fields := by
  cases value with
  | obj fields' => simp [items]
  | _ => simp [items]

/-- The bindings of a configuration are those of its entries, in order. -/
theorem forall₂_of_parseConfig {config : Json} {bindings : List TenantDatabaseConfig}
    (h : parseConfig config = .ok bindings) :
    List.Forall₂ (fun entry binding => parseDatabase entry.1 entry.2.1 entry.2.2 = .ok binding)
      (configEntries config) bindings := by
  simp only [parseConfig, Fallible.bind_eq_ok_iff, Fallible.pure_eq_ok_iff, items_eq_ok_iff,
    Fallible.mapM_eq_ok_iff] at h
  obtain ⟨root, rfl, tenants, htenants, result, hresult, rfl⟩ := h
  rw [configEntries, fieldsOf, htenants, fieldsOf]
  refine Fallible.forall₂_flatMap (hresult.imp fun tenant ys htenant => ?_)
  obtain ⟨data, hdata, databases, hdatabases, hys⟩ := htenant
  rw [hdata, fieldsOf, hdatabases, fieldsOf, List.forall₂_map_left_iff]
  refine hys.imp fun database binding hdatabase => ?_
  obtain ⟨dbConfig, hdbConfig, hbinding⟩ := hdatabase
  rw [hdbConfig, fieldsOf]
  exact hbinding

/-! ## The invariant that nothing checks -/

/-- What `__post_init__` would ask of an entry of the unified format, beyond what
`_parse_config` asks. -/
structure ValidDatabase (tenantId databaseId : String) (dbConfig : Dict Json) : Prop where
  tenantId : strip tenantId ≠ ""
  databaseId : isValidDatabaseId databaseId = true
  dataSchema : IsSchema (field dbConfig "data_schema" (.str "public"))
  metadataSchema : IsSchema (field dbConfig "metadata_schema" (.str "meta"))
  connectionString : modeOf dbConfig = .str "static" →
    ∃ s, field dbConfig "connection_string" = .str s ∧ strip s ≠ ""

/-- What `__post_init__` would ask of a legacy entry, beyond what
`_parse_bindings` asks. -/
structure ValidEntry (environ : Dict String) (entry : Dict Json) : Prop where
  orgId : ∃ s, field entry "org_id" = .str s ∧ strip s ≠ ""
  databaseId : ∃ s, field entry "database_id" = .str s ∧ isValidDatabaseId s = true
  dataSchema :
    isIdentifier (schemaOf environ entry "data_schema" "SQL_DATA_SCHEMA" "public") = true
  metadataSchema :
    isIdentifier (schemaOf environ entry "metadata_schema" "SQL_METADATA_SCHEMA" "meta") = true
  rotated : modeOf entry = .str "rotated" →
    ∀ key ∈ ["role_name", "host", "db_name"], ∃ s, field entry key = .str s ∧ strip s ≠ ""

omit [Python] [PythonNumbers] in
theorem isValidDatabaseId_strip (databaseId : String) :
    isValidDatabaseId (strip databaseId) = isValidDatabaseId databaseId := by
  rw [isValidDatabaseId, isValidDatabaseId, strip_strip]

theorem postInit_iff_validDatabase {tenantId databaseId : String} {dbConfig : Dict Json}
    {binding : TenantDatabaseConfig}
    (h : parseDatabase tenantId databaseId dbConfig = .ok binding) :
    binding.postInit = .ok () ↔ ValidDatabase tenantId databaseId dbConfig := by
  obtain ⟨pool, -, hmode⟩ := parseDatabase_eq_ok_iff.mp h
  rw [TenantDatabaseConfig.postInit_eq_ok_iff]
  cases hmode with
  | inl hstatic =>
      obtain ⟨hmode, htruthy, -, rfl⟩ := hstatic
      have hfields : (TenantDatabaseConfig.ofArguments
          (staticArguments tenantId databaseId dbConfig pool)).HasModeFields ↔
          ∃ s, field dbConfig "connection_string" = .str s ∧ strip s ≠ "" := by
        simp [TenantDatabaseConfig.HasModeFields, TenantDatabaseConfig.ofArguments,
          staticArguments, Json.or_of_truthy _ htruthy]
      rw [hfields]
      exact ⟨fun ⟨horg, hid, hdata, hmeta, hconnection⟩ =>
          ⟨horg, hid, hdata, hmeta, fun _ => hconnection⟩,
        fun hvalid => ⟨hvalid.tenantId, hvalid.databaseId, hvalid.dataSchema,
          hvalid.metadataSchema, hvalid.connectionString hmode⟩⟩
  | inr hrotated =>
      obtain ⟨hmode, hrole, hhost, hdb, port, -, rfl⟩ := hrotated
      have hfields : (TenantDatabaseConfig.ofArguments
          (rotatedArguments tenantId databaseId dbConfig pool port)).HasModeFields :=
        .inr ⟨rfl, hrole, hhost, hdb⟩
      exact ⟨fun ⟨horg, hid, hdata, hmeta, _⟩ =>
          ⟨horg, hid, hdata, hmeta, fun hstatic => by simp [hmode] at hstatic⟩,
        fun hvalid => ⟨hvalid.tenantId, hvalid.databaseId, hvalid.dataSchema,
          hvalid.metadataSchema, hfields⟩⟩

theorem postInit_iff_validEntry {environ : Dict String} {entry : Dict Json}
    {binding : TenantDatabaseConfig} (h : parseEntry environ entry = .ok binding) :
    binding.postInit = .ok () ↔ ValidEntry environ entry := by
  obtain ⟨orgId, databaseId, pool, horg, hdatabase, hmode⟩ := parseEntry_eq_ok h
  have hvalid : ValidEntry environ entry ↔ strip orgId ≠ "" ∧ isValidDatabaseId databaseId = true ∧
      isIdentifier (schemaOf environ entry "data_schema" "SQL_DATA_SCHEMA" "public") = true ∧
      isIdentifier (schemaOf environ entry "metadata_schema" "SQL_METADATA_SCHEMA" "meta") = true ∧
      (modeOf entry = .str "rotated" →
        ∀ key ∈ ["role_name", "host", "db_name"], ∃ s, field entry key = .str s ∧ strip s ≠ "") := by
    constructor
    · intro ⟨⟨_, horg', hstrip⟩, ⟨_, hdatabase', hid⟩, hdata, hmeta, hrotated⟩
      cases horg.symm.trans horg'
      cases hdatabase.symm.trans hdatabase'
      exact ⟨hstrip, hid, hdata, hmeta, hrotated⟩
    · intro ⟨hstrip, hid, hdata, hmeta, hrotated⟩
      exact ⟨⟨orgId, horg, hstrip⟩, ⟨databaseId, hdatabase, hid⟩, hdata, hmeta, hrotated⟩
  rw [hvalid, TenantDatabaseConfig.postInit_eq_ok_iff]
  cases hmode with
  | inl hstatic =>
      obtain ⟨hmode, connectionString, hne, rfl⟩ := hstatic
      have htruthy : (Json.str (strip connectionString)).truthy = true :=
        Json.truthy_str_iff.mpr hne
      simp [TenantDatabaseConfig.HasModeFields, TenantDatabaseConfig.ofArguments,
        legacyStaticArguments, Json.or_of_truthy _ htruthy, isSchema_str, isValidDatabaseId_strip,
        hmode, hne]
  | inr hrotated =>
      obtain ⟨hmode, roleName, host, dbName, port, hrole, hhost, hdb, rfl⟩ := hrotated
      simp [TenantDatabaseConfig.HasModeFields, TenantDatabaseConfig.ofArguments,
        legacyRotatedArguments, isSchema_str, isValidDatabaseId_strip, hmode, hrole, hhost, hdb,
        Json.truthy_str_iff]

/-- **Binding validity**: the bindings of a configuration that is accepted keep
the invariant of the class exactly when its entries do so already. -/
theorem postInit_iff (environ : Dict String) :
    (∀ (config : Json) (bindings : List TenantDatabaseConfig),
      parseConfig config = .ok bindings →
      ((∀ binding ∈ bindings, binding.postInit = .ok ()) ↔
        ∀ entry ∈ configEntries config, ValidDatabase entry.1 entry.2.1 entry.2.2)) ∧
    ∀ (parsed : Json) (entries : List (Dict Json)) (bindings : List TenantDatabaseConfig),
      legacyEntries parsed = .ok entries → parseBindings environ parsed = .ok bindings →
      ((∀ binding ∈ bindings, binding.postInit = .ok ()) ↔
        ∀ entry ∈ entries, ValidEntry environ entry) := by
  constructor
  · intro config bindings h
    exact Fallible.forall_mem_iff_of_forall₂ (forall₂_of_parseConfig h)
      fun _ _ hbinding => postInit_iff_validDatabase hbinding
  · intro parsed entries bindings hentries h
    rw [parseBindings, hentries] at h
    exact Fallible.forall_mem_iff_of_forall₂ (Fallible.mapM_eq_ok_iff.mp h)
      fun _ _ hbinding => postInit_iff_validEntry hbinding

end

/-- Decimal integers, and no other strings. -/
@[reducible] def PythonNumbers.decimal : PythonNumbers where
  intOfStr s :=
    match s.toInt? with
    | some n => .ok n
    | none => .error ("invalid literal for int() with base 10: '" ++ s ++ "'")
  floatOfStr s := .error ("could not convert string to float: '" ++ s ++ "'")
  floatOfInt n := some n

/-- `{"tenants": {"acme": {"databases": {"main": entry}}}}` -/
def acmeConfig (entry : Dict Json) : Json :=
  .obj [("tenants", .obj [("acme", .obj [("databases", .obj [("main", .obj entry)])])])]

/-- `{"acme": {"main": "postgresql://db/main"}}` -/
def acmeLegacy : Json := .obj [("acme", .obj [("main", .str "postgresql://db/main")])]

/-- One database in either format. -/
theorem postInit_iff_acme :
    (∃ bindings, @parseConfig Python.ascii .decimal
        (acmeConfig [("connection_string", .str "postgresql://db/main")]) = .ok bindings ∧
      ((∀ binding ∈ bindings, @TenantDatabaseConfig.postInit Python.ascii binding = .ok ()) ↔
        ∀ entry ∈ configEntries (acmeConfig [("connection_string", .str "postgresql://db/main")]),
          @ValidDatabase Python.ascii entry.1 entry.2.1 entry.2.2)) ∧
    ∃ entries bindings, legacyEntries acmeLegacy = .ok entries ∧
      @parseBindings Python.ascii .decimal [] acmeLegacy = .ok bindings ∧
      ((∀ binding ∈ bindings, @TenantDatabaseConfig.postInit Python.ascii binding = .ok ()) ↔
        ∀ entry ∈ entries, @ValidEntry Python.ascii [] entry) := by
  let _ := Python.ascii
  let _ := PythonNumbers.decimal
  exact ⟨⟨_, rfl, (postInit_iff []).1 _ _ rfl⟩, _, _, rfl, rfl,
    (postInit_iff []).2 acmeLegacy _ _ rfl rfl⟩

/-- A schema name that is a statement is accepted. -/
theorem not_postInit_schema :
    ¬ ∀ (config : Json) (bindings : List TenantDatabaseConfig),
      @parseConfig Python.ascii .decimal config = .ok bindings →
        ∀ binding ∈ bindings, @TenantDatabaseConfig.postInit Python.ascii binding = .ok () := by
  let _ := Python.ascii
  let _ := PythonNumbers.decimal
  intro h
  have hinvalid := h (acmeConfig [("connection_string", .str "postgresql://db/main"),
    ("metadata_schema", .str "meta; drop schema public")]) _ rfl _ List.mem_cons_self
  contradiction

end DbGateway.Tenant.Config
