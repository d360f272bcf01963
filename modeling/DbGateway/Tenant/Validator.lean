import DbGateway.Json.Canonical
import DbGateway.Tenant.Config
import Mathlib.Data.List.Nodup

/-!
# DbGateway.Tenant.Validator

`scripts/validate_tenant_config.py`, which looks over a configuration before the
service is started with it.

What it gets through without an exception is said by
`exists_validateTenantConfig_iff`, and what it accepts by `isValid_iff`.
-/

namespace DbGateway.Tenant.Validator

open Config

/-- `ValidationResult` -/
structure ValidationResult where
  isValid : Bool
  errors : List String
  warnings : List String

/-- What the loops have found: `errors`, `seen_pairs` and `environments`. -/
structure Findings where
  errors : List String := []
  seen : List ((String × String) × String) := []
  environments : List String := []

namespace Findings

/-- What has been found in several places. -/
def concat (found : List Findings) : Findings where
  errors := found.flatMap errors
  seen := found.flatMap seen
  environments := found.flatMap environments

end Findings

/-! ## The checks of a database -/

/-- `^[A-Za-z_][A-Za-z0-9_]*$` -/
def schemaPattern : List Char → Bool
  | [] => false
  | c :: cs => (c.isAlpha || c == '_') && cs.all fun c => c.isAlphanum || c == '_'

/-- `validate_database_id` -/
def validateDatabaseId (databaseId : String) : List String :=
  if databaseIdPattern databaseId.toList then []
  else
    ["Invalid database_id '" ++ databaseId ++
      "': must match ^[A-Za-z0-9][A-Za-z0-9_.-]\x7b0,127\x7d$"]

/-- A value that is a string. -/
def IsStr (value : Json) : Prop := ∃ s, value = .str s

/-- `validate_schema_name` -/
def validateSchemaName (schemaName : Json) (fieldName : String) : Except Raised (List String) :=
  match schemaName with
  | .str schemaName =>
      if schemaPattern schemaName.toList then .ok []
      else
        .ok ["Invalid " ++ fieldName ++ " '" ++ schemaName ++
          "': must be a valid identifier (alphanumeric + underscore)"]
  | _ => .error .typeError

theorem exists_validateSchemaName_iff {schemaName : Json} (fieldName : String) :
    (∃ errors, validateSchemaName schemaName fieldName = .ok errors) ↔ IsStr schemaName := by
  cases schemaName with
  | str s => cases h : schemaPattern s.toList with
    | true => simp [validateSchemaName, IsStr, h]
    | false => simp [validateSchemaName, IsStr, h]
  | _ => simp [validateSchemaName, IsStr]

theorem validateSchemaName_eq_ok_nil_iff {schemaName : Json} {fieldName : String} :
    validateSchemaName schemaName fieldName = .ok [] ↔
      ∃ s, schemaName = .str s ∧ schemaPattern s.toList = true := by
  cases schemaName with
  | str s => cases h : schemaPattern s.toList with
    | true => simp [validateSchemaName, h]
    | false => simp [validateSchemaName, h]
  | _ => simp [validateSchemaName]

/-- `validate_rotated_config`; the fields come in some order. -/
def validateRotatedConfig (config : Dict Json) (place : String) : List String :=
  ["role_name", "host", "db_name"].flatMap fun name =>
    if !(field config name).truthy then [place ++ ": rotated mode requires '" ++ name ++ "'"]
    else []

theorem validateRotatedConfig_eq_nil_iff {config : Dict Json} {place : String} :
    validateRotatedConfig config place = [] ↔ (field config "role_name").truthy = true ∧
      (field config "host").truthy = true ∧ (field config "db_name").truthy = true := by
  simp [validateRotatedConfig]

/-- A field that has to be a string where it is there. -/
theorem isStr_field_iff {config : Dict Json} {key : String} :
    IsStr (field config key (.str "")) ↔
      Dict.get? config key = none ∨ ∃ s, field config key = .str s := by
  cases h : Dict.get? config key with
  | none => simp [field, IsStr, h]
  | some value => simp [field, IsStr, h]

/-- `except (ValueError, TypeError)` around a conversion -/
def checkNumber {α : Type} (place poolField : String) (converted : Except Raised α) :
    Except Raised (List String) :=
  match converted with
  | .ok _ => .ok []
  | .error (.valueError _) => .ok [place ++ ": '" ++ poolField ++ "' must be a number"]
  | .error .typeError => .ok [place ++ ": '" ++ poolField ++ "' must be a number"]
  | .error e => .error e

theorem exists_checkNumber_iff {α : Type} (place poolField : String) {converted : Except Raised α} :
    (∃ errors, checkNumber place poolField converted = .ok errors) ↔
      converted ≠ .error .attributeError ∧ converted ≠ .error .overflowError := by
  cases converted with
  | ok a => simp [checkNumber]
  | error e => cases e with
    | valueError message => simp [checkNumber]
    | typeError => simp [checkNumber]
    | attributeError => simp [checkNumber]
    | overflowError => simp [checkNumber]

theorem checkNumber_eq_ok_nil_iff {α : Type} {place poolField : String}
    {converted : Except Raised α} :
    checkNumber place poolField converted = .ok [] ↔ ∃ a, converted = .ok a := by
  cases converted with
  | ok a => simp [checkNumber]
  | error e => cases e with
    | valueError message => simp [checkNumber]
    | typeError => simp [checkNumber]
    | attributeError => simp [checkNumber]
    | overflowError => simp [checkNumber]

section

variable [Python]

/-- `f"{conn_str[:50]}"` -/
def firstFifty : Json → Except Raised String
  | .str s => .ok (String.ofList (s.toList.take 50))
  | .arr items => .ok (Json.arr (items.take 50)).toStr
  | _ => .error .typeError

/-- `validate_connection_string` -/
def validateConnectionString (connStr : Json) : Except Raised (List String) :=
  if !connStr.truthy then .ok ["connection_string is empty"]
  else do
    if ← isInside "://" connStr then return []
    else
      return ["connection_string missing protocol (e.g., postgresql+asyncpg://): " ++
        (← firstFifty connStr)]

/-- `validate_static_config` -/
def validateStaticConfig (config : Dict Json) (place : String) : Except Raised (List String) :=
  if !(field config "connection_string").truthy then
    .ok [place ++ ": static mode requires 'connection_string'"]
  else validateConnectionString (field config "connection_string")

/-- The environment that a host or a connection string names. -/
def environmentOf : Json → Except Raised (List String)
  | .str text =>
      if mentions (lower text) "prod" then .ok ["prod"]
      else if mentions (lower text) "dev" || mentions (lower text) "staging" ||
          mentions (lower text) "test" then .ok ["dev"]
      else .ok []
  | _ => .error .attributeError

theorem exists_environmentOf_iff {text : Json} :
    (∃ environments, environmentOf text = .ok environments) ↔ IsStr text := by
  cases text with
  | str s =>
      simp only [environmentOf, IsStr, Json.str.injEq, exists_eq', iff_true]
      split
      · exact ⟨_, rfl⟩
      · split
        · exact ⟨_, rfl⟩
        · exact ⟨_, rfl⟩
  | _ => simp [environmentOf, IsStr]

/-- A connection string that is a string can be looked at. -/
theorem validateConnectionString_str {s : String} (hs : s ≠ "") :
    validateConnectionString (.str s) = .ok (if mentions s "://" then []
      else ["connection_string missing protocol (e.g., postgresql+asyncpg://): " ++
        String.ofList (s.toList.take 50)]) := by
  have htruthy : (Json.str s).truthy = true := Json.truthy_str_iff.mpr hs
  rw [validateConnectionString, htruthy]
  cases hinside : mentions s "://" with
  | true => simp [isInside, hinside, bind, Except.bind, pure, Except.pure]
  | false => simp [isInside, hinside, firstFifty, bind, Except.bind, pure, Except.pure]

/-- What a static entry is told, if its connection string is none or a string. -/
theorem validateStaticConfig_isStr {config : Dict Json} (place : String)
    (h : IsStr (field config "connection_string" (.str ""))) :
    ∃ errors, validateStaticConfig config place = .ok errors ∧
      (errors = [] ↔
        ∃ s, field config "connection_string" = .str s ∧ mentions s "://" = true) := by
  cases isStr_field_iff.mp h with
  | inl habsent =>
      have hnull : field config "connection_string" = .null := by
        rw [field, habsent]
        rfl
      rw [validateStaticConfig, hnull]
      exact ⟨_, rfl, by simp⟩
  | inr hstr =>
      obtain ⟨s, hs⟩ := hstr
      rw [validateStaticConfig, hs]
      by_cases hne : s = ""
      · subst hne
        exact ⟨_, rfl, by simp [mentions]⟩
      · have htruthy : (Json.str s).truthy = true := Json.truthy_str_iff.mpr hne
        rw [htruthy]
        exact ⟨_, validateConnectionString_str hne, by simp⟩

variable [PythonNumbers]

/-- The pool settings validation. -/
def validatePool (config : Dict Json) (place : String) : Except Raised (List String) := do
  let size ← checkNumber place "pool_size" (optionalInt (field config "pool_size"))
  let maxOverflow ← checkNumber place "max_overflow" (optionalInt (field config "max_overflow"))
  let timeout ← checkNumber place "pool_timeout" (optionalFloat (field config "pool_timeout"))
  let recycle ← checkNumber place "pool_recycle" (optionalInt (field config "pool_recycle"))
  return size ++ maxOverflow ++ timeout ++ recycle

/-- The check of the fields that the mode requires. -/
def validateFields (config : Dict Json) (place : String) : Except Raised (List String) :=
  if (modeOf config).same (.str "static") then validateStaticConfig config place
  else .ok (validateRotatedConfig config place)

/-- What the environment is told from. -/
def environmentField (config : Dict Json) : Json :=
  field config (if (modeOf config).same (.str "rotated") then "host" else "connection_string")
    (.str "")

/-- The rest of the body of the inner loop, for a valid mode. -/
def validateMode (config : Dict Json) (place : String) :
    Except Raised (List String × List String) := do
  let fields ← validateFields config place
  let dataSchema ←
    validateSchemaName (field config "data_schema" (.str "public")) (place ++ " data_schema")
  let metadataSchema ←
    validateSchemaName (field config "metadata_schema" (.str "meta")) (place ++ " metadata_schema")
  let environments ← environmentOf (environmentField config)
  let pool ← validatePool config place
  return (fields ++ dataSchema ++ metadataSchema ++ pool, environments)

/-- The body of the inner loop. -/
def validateDatabase (tenantId databaseId : String) (dbConfig : Json) : Except Raised Findings :=
  let place := "Tenant '" ++ tenantId ++ "', database '" ++ databaseId ++ "'"
  match dbConfig with
  | .obj config =>
      let seen := [((tenantId, databaseId), place)]
      match modeOf config with
      -- not hashable
      | .arr _ => .error .typeError
      | .obj _ => .error .typeError
      | credentialMode =>
          if credentialMode.same (.str "static") || credentialMode.same (.str "rotated") then do
            let (errors, environments) ← validateMode config place
            return { errors := validateDatabaseId databaseId ++ errors, seen, environments }
          else
            .ok {
              errors := validateDatabaseId databaseId ++
                [place ++ ": invalid credential_mode '" ++ credentialMode.toStr ++
                  "' (must be 'static' or 'rotated')"]
              seen }
  | _ => .ok { errors := [place ++ ": must be an object"] }

/-! ## The whole configuration -/

/-- The body of the outer loop. -/
def validateTenant (tenantId : String) (tenantData : Json) : Except Raised Findings :=
  match tenantData with
  | .obj data =>
      match Dict.get? data "databases" with
      | none => .ok { errors := ["Tenant '" ++ tenantId ++ "': missing 'databases' key"] }
      | some (.obj databases) =>
          if databases.isEmpty then
            .ok { errors := ["Tenant '" ++ tenantId ++ "': at least one database is required"] }
          else
            (databases.mapM fun database => validateDatabase tenantId database.1 database.2).map
              .concat
      | some _ => .ok { errors := ["Tenant '" ++ tenantId ++ "': 'databases' must be an object"] }
  | _ => .ok { errors := ["Tenant '" ++ tenantId ++ "': must be an object"] }

/-- The pairs that have been seen more than once. -/
def duplicates (seen : List ((String × String) × String)) : List String :=
  ((Multimap.ofList Prod.fst seen).filter fun pair => decide (1 < pair.2.length)).map fun pair =>
    "Duplicate (org_id, database_id) pair: (" ++ Python.repr pair.1.1 ++ ", " ++
      Python.repr pair.1.2 ++ ") found in " ++ String.intercalate ", " (pair.2.map Prod.snd)

/-- `validate_tenant_config` -/
def validateTenantConfig (config : Json) : Except Raised ValidationResult :=
  match config with
  | .obj root =>
      match Dict.get? root "tenants" with
      | none => .ok ⟨false, ["Missing 'tenants' key at root"], []⟩
      | some (.obj tenants) =>
          if tenants.isEmpty then .ok ⟨false, ["At least one tenant is required"], []⟩
          else do
            let found ← tenants.mapM fun tenant => validateTenant tenant.1 tenant.2
            let findings := Findings.concat found
            let errors := findings.errors ++ duplicates findings.seen
            let warnings :=
              if "dev" ∈ findings.environments ∧ "prod" ∈ findings.environments then
                ["Mixed environments detected in config: dev, prod"]
              else []
            return ⟨errors.isEmpty, errors, warnings⟩
      | some _ => .ok ⟨false, ["'tenants' must be an object"], []⟩
  | _ => .ok ⟨false, ["Config must be a JSON object"], []⟩

/-! ## What a database has to be -/

/-- The mode is one of the two. -/
def HasMode (config : Dict Json) : Prop :=
  modeOf config = .str "static" ∨ modeOf config = .str "rotated"

/-- A value that can be looked up in a set. -/
def IsHashable (value : Json) : Prop :=
  (∀ items, value ≠ .arr items) ∧ ∀ fields, value ≠ .obj fields

/-- The types that the validator takes for granted. -/
structure WellTyped (config : Dict Json) : Prop where
  hashable : IsHashable (modeOf config)
  connectionString : modeOf config = .str "static" →
    IsStr (field config "connection_string" (.str ""))
  host : modeOf config = .str "rotated" → IsStr (field config "host" (.str ""))
  dataSchema : HasMode config → IsStr (field config "data_schema" (.str "public"))
  metadataSchema : HasMode config → IsStr (field config "metadata_schema" (.str "meta"))
  /-- A float has an integer. -/
  poolInts : HasMode config → ∀ key ∈ ["pool_size", "max_overflow", "pool_recycle"],
    ∀ q, field config key = .float q → isInfinite q = false
  /-- An integer is not too large for a float. -/
  poolTimeout : HasMode config → ∀ n, field config "pool_timeout" = .int n →
    PythonNumbers.floatOfInt n ≠ none

/-- The pool settings are numbers, where they are there. -/
def HasPool (config : Dict Json) : Prop :=
  (∀ key ∈ ["pool_size", "max_overflow", "pool_recycle"],
      ∃ n, optionalInt (field config key) = .ok n) ∧
    ∃ q, optionalFloat (field config "pool_timeout") = .ok q

/-- The fields that the mode requires are there. -/
def HasFields (config : Dict Json) : Prop :=
  (modeOf config = .str "static" ∧
      ∃ s, field config "connection_string" = .str s ∧ mentions s "://" = true) ∨
    (modeOf config = .str "rotated" ∧ (field config "role_name").truthy = true ∧
      (∃ s, field config "host" = .str s ∧ s ≠ "") ∧ (field config "db_name").truthy = true)

/-- What the validator wants of a database. -/
structure Acceptable (databaseId : String) (config : Dict Json) : Prop where
  databaseId : databaseIdPattern databaseId.toList = true
  fields : HasFields config
  dataSchema : ∃ s, field config "data_schema" (.str "public") = .str s ∧
    schemaPattern s.toList = true
  metadataSchema : ∃ s, field config "metadata_schema" (.str "meta") = .str s ∧
    schemaPattern s.toList = true
  pool : HasPool config

/-! ## Pool settings -/

omit [Python] in
/-- An `int` that fails is told, unless the float is infinite. -/
theorem optionalInt_ne_iff {value : Json} : (optionalInt value ≠ .error .attributeError ∧
    optionalInt value ≠ .error .overflowError) ↔
      ∀ q, value = .float q → isInfinite q = false := by
  cases value with
  | str s => cases h : PythonNumbers.intOfStr s with
    | ok n => simp [optionalInt, toInt, h, Except.map, Except.mapError]
    | error message => simp [optionalInt, toInt, h, Except.map, Except.mapError]
  | float q => cases h : isInfinite q with
    | false => simp [optionalInt, toInt, h, Except.map]
    | true => simp [optionalInt, toInt, h, Except.map]
  | _ => simp [optionalInt, toInt, Except.map]

omit [Python] in
/-- A `float` that fails is told, unless the number is too large. -/
theorem optionalFloat_ne_iff {value : Json} : (optionalFloat value ≠ .error .attributeError ∧
    optionalFloat value ≠ .error .overflowError) ↔
      ∀ n, value = .int n → PythonNumbers.floatOfInt n ≠ none := by
  cases value with
  | str s => cases h : PythonNumbers.floatOfStr s with
    | ok q => simp [optionalFloat, toFloat, h, Except.map, Except.mapError]
    | error message => simp [optionalFloat, toFloat, h, Except.map, Except.mapError]
  | int n => cases h : PythonNumbers.floatOfInt n with
    | some q => simp [optionalFloat, toFloat, h, Except.map]
    | none => simp [optionalFloat, toFloat, h, Except.map]
  | _ => simp [optionalFloat, toFloat, Except.map]

omit [Python] in
theorem exists_validatePool_iff {config : Dict Json} (place : String) :
    (∃ errors, validatePool config place = .ok errors) ↔
      (∀ key ∈ ["pool_size", "max_overflow", "pool_recycle"],
        ∀ q, field config key = .float q → isInfinite q = false) ∧
      ∀ n, field config "pool_timeout" = .int n → PythonNumbers.floatOfInt n ≠ none := by
  have hint (key : String) := (@optionalInt_ne_iff _ (field config key)).symm.trans
    (exists_checkNumber_iff place key).symm
  rw [← optionalFloat_ne_iff, ← exists_checkNumber_iff place "pool_timeout"]
  simp only [hint, validatePool, Fallible.bind_eq_ok_iff, Fallible.pure_eq_ok_iff,
    List.forall_mem_cons, List.not_mem_nil, false_imp_iff, implies_true, and_true]
  constructor
  · intro h
    obtain ⟨_, size, hsize, maxOverflow, hmax, timeout, htimeout, recycle, hrecycle, -⟩ := h
    exact ⟨⟨⟨size, hsize⟩, ⟨maxOverflow, hmax⟩, recycle, hrecycle⟩, timeout, htimeout⟩
  · intro h
    obtain ⟨⟨⟨size, hsize⟩, ⟨maxOverflow, hmax⟩, recycle, hrecycle⟩, timeout, htimeout⟩ := h
    exact ⟨_, size, hsize, maxOverflow, hmax, timeout, htimeout, recycle, hrecycle, rfl⟩

omit [Python] in
/-- The pool settings that are let through. -/
theorem validatePool_eq_ok_nil_iff {config : Dict Json} {place : String} :
    validatePool config place = .ok [] ↔ HasPool config := by
  simp only [validatePool, Fallible.bind_eq_ok_iff, Fallible.pure_eq_ok_iff,
    List.append_eq_nil_iff]
  constructor
  · intro ⟨size, hsize, maxOverflow, hmax, timeout, htimeout, recycle, hrecycle, hnil⟩
    obtain ⟨⟨⟨rfl, rfl⟩, rfl⟩, rfl⟩ := hnil
    rw [checkNumber_eq_ok_nil_iff] at hsize hmax htimeout hrecycle
    exact ⟨by simpa using ⟨hsize, hmax, hrecycle⟩, htimeout⟩
  · intro ⟨hints, htimeout⟩
    obtain ⟨hsize, hmax, hrecycle⟩ : _ ∧ _ ∧ _ := by simpa using hints
    exact ⟨[], checkNumber_eq_ok_nil_iff.mpr hsize, [], checkNumber_eq_ok_nil_iff.mpr hmax,
      [], checkNumber_eq_ok_nil_iff.mpr htimeout, [], checkNumber_eq_ok_nil_iff.mpr hrecycle,
      ⟨⟨rfl, rfl⟩, rfl⟩, rfl⟩

omit [Python] in
/-- Pool settings can be read exactly where the entry has a pool. -/
theorem exists_poolSettings_iff {config : Dict Json} :
    (∃ pool, poolSettings config = .ok pool) ↔ HasPool config := by
  simp only [poolSettings, HasPool, Fallible.bind_eq_ok_iff, Fallible.pure_eq_ok_iff,
    List.forall_mem_cons, List.not_mem_nil, false_imp_iff, implies_true, and_true]
  constructor
  · intro h
    obtain ⟨_, size, hsize, maxOverflow, hmax, timeout, htimeout, recycle, hrecycle, -⟩ := h
    exact ⟨⟨⟨size, hsize⟩, ⟨maxOverflow, hmax⟩, recycle, hrecycle⟩, timeout, htimeout⟩
  · intro h
    obtain ⟨⟨⟨size, hsize⟩, ⟨maxOverflow, hmax⟩, recycle, hrecycle⟩, timeout, htimeout⟩ := h
    exact ⟨_, size, hsize, maxOverflow, hmax, timeout, htimeout, recycle, hrecycle, rfl⟩

/-! ## What a database is told -/

omit [Python] [PythonNumbers] in
/-- A host is told from an empty one. -/
theorem host_iff {config : Dict Json} :
    (IsStr (field config "host" (.str "")) ∧ (field config "host").truthy = true) ↔
      ∃ s, field config "host" = .str s ∧ s ≠ "" := by
  rw [isStr_field_iff]
  constructor
  · intro ⟨hstr, htruthy⟩
    cases hstr with
    | inl habsent =>
        rw [field, habsent] at htruthy
        contradiction
    | inr hstr =>
        obtain ⟨s, hs⟩ := hstr
        rw [hs, Json.truthy_str_iff] at htruthy
        exact ⟨s, hs, htruthy⟩
  · intro ⟨s, hs, hne⟩
    rw [hs, Json.truthy_str_iff]
    exact ⟨.inr ⟨s, rfl⟩, hne⟩

omit [PythonNumbers] in
/-- A connection string that is let through. -/
theorem connectionString_iff {config : Dict Json} (place : String) :
    (IsStr (field config "connection_string" (.str "")) ∧
        validateStaticConfig config place = .ok []) ↔
      ∃ s, field config "connection_string" = .str s ∧ mentions s "://" = true := by
  constructor
  · intro ⟨hstr, hnil⟩
    obtain ⟨errors, herrors, hiff⟩ := validateStaticConfig_isStr place hstr
    exact hiff.mp (Except.ok.inj (herrors.symm.trans hnil))
  · intro ⟨s, hs, hmentions⟩
    have hstr : IsStr (field config "connection_string" (.str "")) :=
      isStr_field_iff.mpr (.inr ⟨s, hs⟩)
    obtain ⟨errors, herrors, hiff⟩ := validateStaticConfig_isStr place hstr
    rw [hiff.mpr ⟨s, hs, hmentions⟩] at herrors
    exact ⟨hstr, herrors⟩

omit [PythonNumbers] in
theorem validateFields_static {config : Dict Json} (place : String)
    (hmode : modeOf config = .str "static") :
    validateFields config place = validateStaticConfig config place ∧
      environmentField config = field config "connection_string" (.str "") := by
  rw [validateFields, environmentField, hmode]
  exact ⟨rfl, rfl⟩

omit [PythonNumbers] in
theorem validateFields_rotated {config : Dict Json} (place : String)
    (hmode : modeOf config = .str "rotated") :
    validateFields config place = .ok (validateRotatedConfig config place) ∧
      environmentField config = field config "host" (.str "") := by
  rw [validateFields, environmentField, hmode]
  exact ⟨rfl, rfl⟩

omit [PythonNumbers] in
/-- A string can be looked at. -/
theorem exists_validateFields {config : Dict Json} (place : String) (hmode : HasMode config)
    (h : IsStr (environmentField config)) :
    ∃ fields, validateFields config place = .ok fields := by
  cases hmode with
  | inl hstatic =>
      obtain ⟨hfields, henvironment⟩ := validateFields_static place hstatic
      rw [henvironment] at h
      rw [hfields]
      exact (validateStaticConfig_isStr place h).imp fun _ h => h.1
  | inr hrotated => exact ⟨_, (validateFields_rotated place hrotated).1⟩

omit [PythonNumbers] in
theorem validateFields_nil_iff {config : Dict Json} (place : String) (hmode : HasMode config) :
    (IsStr (environmentField config) ∧ validateFields config place = .ok []) ↔
      HasFields config := by
  cases hmode with
  | inl hstatic =>
      obtain ⟨hfields, henvironment⟩ := validateFields_static place hstatic
      rw [hfields, henvironment, connectionString_iff]
      simp [HasFields, hstatic]
  | inr hrotated =>
      obtain ⟨hfields, henvironment⟩ := validateFields_rotated place hrotated
      rw [hfields, henvironment, Except.ok.injEq, validateRotatedConfig_eq_nil_iff]
      simp only [HasFields, hrotated, ← host_iff, Json.str.injEq, String.reduceEq, false_and,
        true_and, false_or]
      tauto

/-- The steps for an entry with a mode. -/
theorem validateMode_eq_ok_iff {config : Dict Json} {place : String} {errors : List String}
    {environments : List String} :
    validateMode config place = .ok (errors, environments) ↔
      ∃ fields dataSchema metadataSchema pool, validateFields config place = .ok fields ∧
        validateSchemaName (field config "data_schema" (.str "public"))
          (place ++ " data_schema") = .ok dataSchema ∧
        validateSchemaName (field config "metadata_schema" (.str "meta"))
          (place ++ " metadata_schema") = .ok metadataSchema ∧
        environmentOf (environmentField config) = .ok environments ∧
        validatePool config place = .ok pool ∧
        fields ++ dataSchema ++ metadataSchema ++ pool = errors := by
  simp only [validateMode, Fallible.bind_eq_ok_iff, Fallible.pure_eq_ok_iff, Prod.mk.injEq]
  constructor
  · intro h
    obtain ⟨fields, hfields, data, hdata, metadata, hmetadata, _, henvironment, pool, hpool, h,
      rfl⟩ := h
    exact ⟨fields, data, metadata, pool, hfields, hdata, hmetadata, henvironment, hpool, h⟩
  · intro h
    obtain ⟨fields, data, metadata, pool, hfields, hdata, hmetadata, henvironment, hpool, h⟩ := h
    exact ⟨fields, hfields, data, hdata, metadata, hmetadata, _, henvironment, pool, hpool, h, rfl⟩

omit [Python] in
/-- With a mode, the types that are taken for granted are all looked at. -/
theorem wellTyped_iff {config : Dict Json} (hmode : HasMode config) :
    WellTyped config ↔ IsStr (environmentField config) ∧
      IsStr (field config "data_schema" (.str "public")) ∧
      IsStr (field config "metadata_schema" (.str "meta")) ∧
      (∀ key ∈ ["pool_size", "max_overflow", "pool_recycle"],
        ∀ q, field config key = .float q → isInfinite q = false) ∧
      ∀ n, field config "pool_timeout" = .int n → PythonNumbers.floatOfInt n ≠ none := by
  constructor
  · intro h
    refine ⟨?_, h.dataSchema hmode, h.metadataSchema hmode, h.poolInts hmode,
      h.poolTimeout hmode⟩
    cases hmode with
    | inl hstatic => simpa [environmentField, hstatic, Json.same_str_iff] using h.connectionString hstatic
    | inr hrotated => simpa [environmentField, hrotated, Json.same_str_iff] using h.host hrotated
  · intro ⟨henvironment, hdata, hmetadata, hints, htimeout⟩
    have hstr : ∃ mode, modeOf config = .str mode := hmode.elim (⟨_, ·⟩) (⟨_, ·⟩)
    obtain ⟨mode, hstr⟩ := hstr
    exact {
      hashable := by simp [IsHashable, hstr]
      connectionString := fun hstatic => by simpa [environmentField, hstatic, Json.same_str_iff] using henvironment
      host := fun hrotated => by simpa [environmentField, hrotated, Json.same_str_iff] using henvironment
      dataSchema := fun _ => hdata
      metadataSchema := fun _ => hmetadata
      poolInts := fun _ => hints
      poolTimeout := fun _ => htimeout }

/-- With a mode, the validator gets through what is well typed. -/
theorem exists_validateMode_iff {config : Dict Json} (place : String) (hmode : HasMode config) :
    (∃ errors environments, validateMode config place = .ok (errors, environments)) ↔
      WellTyped config := by
  rw [wellTyped_iff hmode, ← exists_environmentOf_iff,
    ← exists_validateSchemaName_iff (place ++ " data_schema"),
    ← exists_validateSchemaName_iff (place ++ " metadata_schema"), ← exists_validatePool_iff place]
  simp only [validateMode_eq_ok_iff]
  constructor
  · intro h
    obtain ⟨_, environments, _, data, metadata, pool, -, hdata, hmetadata, henvironment, hpool, -⟩ :=
      h
    exact ⟨⟨environments, henvironment⟩, ⟨data, hdata⟩, ⟨metadata, hmetadata⟩, pool, hpool⟩
  · intro h
    obtain ⟨⟨environments, henvironment⟩, ⟨data, hdata⟩, ⟨metadata, hmetadata⟩, pool, hpool⟩ := h
    obtain ⟨fields, hfields⟩ := exists_validateFields place hmode
      (exists_environmentOf_iff.mp ⟨environments, henvironment⟩)
    exact ⟨_, environments, fields, data, metadata, pool, hfields, hdata, hmetadata, henvironment,
      hpool, rfl⟩

omit [Python] in
theorem hasMode_of_acceptable {databaseId : String} {config : Dict Json}
    (h : Acceptable databaseId config) : HasMode config := by
  obtain hstatic | hrotated := h.fields
  · exact .inl hstatic.1
  · exact .inr hrotated.1

/-- With a mode, nothing is told of what is acceptable. -/
theorem exists_validateMode_nil_iff {databaseId : String} {config : Dict Json} (place : String)
    (hmode : HasMode config) :
    (databaseIdPattern databaseId.toList = true ∧
        ∃ environments, validateMode config place = .ok ([], environments)) ↔
      Acceptable databaseId config := by
  simp only [validateMode_eq_ok_iff, List.append_eq_nil_iff]
  constructor
  · intro h
    obtain ⟨hid, environments, fields, data, metadata, pool, hfields, hdata, hmetadata,
      henvironment, hpool, hnil⟩ := h
    obtain ⟨⟨⟨rfl, rfl⟩, rfl⟩, rfl⟩ := hnil
    have hstr := exists_environmentOf_iff.mp ⟨environments, henvironment⟩
    exact ⟨hid, (validateFields_nil_iff place hmode).mp ⟨hstr, hfields⟩,
      validateSchemaName_eq_ok_nil_iff.mp hdata, validateSchemaName_eq_ok_nil_iff.mp hmetadata,
      validatePool_eq_ok_nil_iff.mp hpool⟩
  · intro h
    obtain ⟨hstr, hfields⟩ := (validateFields_nil_iff place hmode).mpr h.fields
    obtain ⟨environments, henvironment⟩ := exists_environmentOf_iff.mpr hstr
    exact ⟨h.databaseId, environments, [], [], [], [], hfields,
      validateSchemaName_eq_ok_nil_iff.mpr h.dataSchema,
      validateSchemaName_eq_ok_nil_iff.mpr h.metadataSchema, henvironment,
      validatePool_eq_ok_nil_iff.mpr h.pool, ⟨⟨rfl, rfl⟩, rfl⟩, rfl⟩

omit [Python] [PythonNumbers] in
theorem validateDatabaseId_eq_nil_iff {databaseId : String} :
    validateDatabaseId databaseId = [] ↔ databaseIdPattern databaseId.toList = true := by
  simp [validateDatabaseId]

omit [Python] [PythonNumbers] in
/-- The two tests of the mode. -/
theorem hasMode_iff {config : Dict Json} :
    ((modeOf config).same (.str "static") || (modeOf config).same (.str "rotated")) = true ↔
      HasMode config := by
  rw [Bool.or_eq_true, Json.same_str_iff, Json.same_str_iff, HasMode]

/-- With a mode, the body of the loop is `validateMode`. -/
theorem validateDatabase_of_hasMode {tenantId databaseId : String} {config : Dict Json}
    {found : Findings} (hmode : HasMode config) :
    validateDatabase tenantId databaseId (.obj config) = .ok found ↔
      ∃ errors environments,
        validateMode config ("Tenant '" ++ tenantId ++ "', database '" ++ databaseId ++ "'") =
            .ok (errors, environments) ∧
          found = {
            errors := validateDatabaseId databaseId ++ errors
            seen := [((tenantId, databaseId),
              "Tenant '" ++ tenantId ++ "', database '" ++ databaseId ++ "'")]
            environments } := by
  have hshape : ∃ s, modeOf config = .str s := by
    cases hmode with
    | inl hstatic => exact ⟨_, hstatic⟩
    | inr hrotated => exact ⟨_, hrotated⟩
  obtain ⟨mode, hmode'⟩ := hshape
  have hvalid := hasMode_iff.mpr hmode
  rw [hmode'] at hvalid
  simp only [validateDatabase, hmode', hvalid, if_true, Fallible.bind_eq_ok_iff,
    Fallible.pure_eq_ok_iff, Prod.exists, eq_comm (a := found)]

/-- Without a mode, it is an error, unless the value cannot be looked up at all. -/
theorem validateDatabase_of_not_hasMode {tenantId databaseId : String} {config : Dict Json}
    {found : Findings} (hmode : ¬HasMode config) :
    validateDatabase tenantId databaseId (.obj config) = .ok found ↔
      IsHashable (modeOf config) ∧ found = {
        errors := validateDatabaseId databaseId ++
          ["Tenant '" ++ tenantId ++ "', database '" ++ databaseId ++ "'" ++
            ": invalid credential_mode '" ++ (modeOf config).toStr ++
            "' (must be 'static' or 'rotated')"]
        seen := [((tenantId, databaseId),
          "Tenant '" ++ tenantId ++ "', database '" ++ databaseId ++ "'")] } := by
  have hinvalid := mt hasMode_iff.mp hmode
  cases hvalue : modeOf config with
  | arr items => simp [validateDatabase, hvalue, IsHashable]
  | obj fields => simp [validateDatabase, hvalue, IsHashable]
  | _ =>
      rw [hvalue] at hinvalid
      simp only [validateDatabase, hvalue, if_neg hinvalid, Except.ok.injEq, eq_comm (a := found)]
      simp [IsHashable]

/-! ## One database -/

omit [Python] in
theorem wellTyped_nil : WellTyped [] where
  hashable := by simp [IsHashable, modeOf, field, Dict.get?]
  connectionString _ := ⟨"", rfl⟩
  host _ := ⟨"", rfl⟩
  dataSchema _ := ⟨"public", rfl⟩
  metadataSchema _ := ⟨"meta", rfl⟩
  poolInts _ key _ q h := by simp [field, Dict.get?] at h
  poolTimeout _ n h := by simp [field, Dict.get?] at h

omit [Python] in
/-- Without a mode, nothing but the mode is looked at. -/
theorem wellTyped_of_not_hasMode {config : Dict Json} (hmode : ¬HasMode config)
    (hhashable : IsHashable (modeOf config)) : WellTyped config where
  hashable := hhashable
  connectionString h := (hmode (.inl h)).elim
  host h := (hmode (.inr h)).elim
  dataSchema h := (hmode h).elim
  metadataSchema h := (hmode h).elim
  poolInts h := (hmode h).elim
  poolTimeout h := (hmode h).elim

/-- **What the validator gets through.** -/
theorem exists_validateDatabase_iff {tenantId databaseId : String} {dbConfig : Json} :
    (∃ found, validateDatabase tenantId databaseId dbConfig = .ok found) ↔
      WellTyped (fieldsOf dbConfig) := by
  cases dbConfig with
  | obj config =>
      rw [fieldsOf]
      by_cases hmode : HasMode config
      · simp only [validateDatabase_of_hasMode hmode]
        rw [← exists_validateMode_iff
          ("Tenant '" ++ tenantId ++ "', database '" ++ databaseId ++ "'") hmode]
        constructor
        · intro h
          obtain ⟨_, errors, environments, h, -⟩ := h
          exact ⟨errors, environments, h⟩
        · intro h
          obtain ⟨errors, environments, h⟩ := h
          exact ⟨_, errors, environments, h, rfl⟩
      · simp only [validateDatabase_of_not_hasMode hmode]
        constructor
        · intro h
          obtain ⟨_, hhashable, -⟩ := h
          exact wellTyped_of_not_hasMode hmode hhashable
        · intro h
          exact ⟨_, h.hashable, rfl⟩
  | _ => exact ⟨fun _ => wellTyped_nil, fun _ => ⟨_, rfl⟩⟩

/-- **What the validator accepts.** -/
theorem validateDatabase_nil_iff {tenantId databaseId : String} {dbConfig : Json} :
    (∃ found, validateDatabase tenantId databaseId dbConfig = .ok found ∧ found.errors = []) ↔
      ∃ config, dbConfig = .obj config ∧ Acceptable databaseId config := by
  cases dbConfig with
  | obj config =>
      simp only [Json.obj.injEq, exists_eq_left']
      by_cases hmode : HasMode config
      · rw [← exists_validateMode_nil_iff
          ("Tenant '" ++ tenantId ++ "', database '" ++ databaseId ++ "'") hmode]
        simp only [validateDatabase_of_hasMode hmode]
        constructor
        · intro ⟨found, ⟨errors, environments, h, hfound⟩, hnil⟩
          rw [hfound, List.append_eq_nil_iff, validateDatabaseId_eq_nil_iff] at hnil
          exact ⟨hnil.1, environments, hnil.2 ▸ h⟩
        · intro ⟨hid, environments, h⟩
          exact ⟨_, ⟨[], environments, h, rfl⟩,
            List.append_eq_nil_iff.mpr ⟨validateDatabaseId_eq_nil_iff.mpr hid, rfl⟩⟩
      · constructor
        · intro h
          obtain ⟨found, h, hnil⟩ := h
          obtain ⟨-, rfl⟩ := (validateDatabase_of_not_hasMode hmode).mp h
          simp at hnil
        · intro h
          exact (hmode (hasMode_of_acceptable h)).elim
  | _ =>
      constructor
      · intro ⟨found, h, hnil⟩
        cases h
        contradiction
      · intro ⟨config, h, _⟩
        contradiction

/-- A pair is seen once at most. -/
theorem seen_of_validateDatabase {tenantId databaseId : String} {dbConfig : Json}
    {found : Findings} (h : validateDatabase tenantId databaseId dbConfig = .ok found) :
    (found.seen.map Prod.fst).Sublist [(tenantId, databaseId)] := by
  cases dbConfig with
  | obj config =>
      by_cases hmode : HasMode config
      · obtain ⟨errors, environments, -, rfl⟩ := (validateDatabase_of_hasMode hmode).mp h
        exact List.Sublist.refl _
      · obtain ⟨-, rfl⟩ := (validateDatabase_of_not_hasMode hmode).mp h
        exact List.Sublist.refl _
  | _ =>
      cases h
      exact List.nil_sublist _

/-! ## Several databases -/

omit [Python] [PythonNumbers] in
theorem errors_concat_eq_nil_iff {found : List Findings} :
    (Findings.concat found).errors = [] ↔ ∀ findings ∈ found, findings.errors = [] :=
  List.flatMap_eq_nil_iff

/-- The databases of a tenant. -/
def databasesOf (tenantData : Json) : Dict Json :=
  fieldsOf (field (fieldsOf tenantData) "databases" (.obj []))

/-- A tenant without databases is told, whatever it is. -/
theorem validateTenant_of_nil (tenantId : String) {tenantData : Json}
    (h : databasesOf tenantData = []) :
    ∃ error, validateTenant tenantId tenantData = .ok { errors := [error] } := by
  cases tenantData with
  | obj data =>
      rw [databasesOf, fieldsOf, field] at h
      cases hvalue : Dict.get? data "databases" with
      | none => exact ⟨_, by simp only [validateTenant, hvalue]; rfl⟩
      | some value => cases value with
        | obj databases =>
            have hnil : databases = [] := by simpa [hvalue, fieldsOf] using h
            subst hnil
            exact ⟨_, by simp only [validateTenant, hvalue]; rfl⟩
        | _ => exact ⟨_, by simp only [validateTenant, hvalue]; rfl⟩
  | _ => exact ⟨_, rfl⟩

/-- The databases of a tenant are gone through. -/
theorem validateTenant_of_ne_nil {tenantId : String} {tenantData : Json}
    (h : databasesOf tenantData ≠ []) :
    validateTenant tenantId tenantData = ((databasesOf tenantData).mapM fun database =>
      validateDatabase tenantId database.1 database.2).map .concat := by
  cases tenantData with
  | obj data =>
      rw [databasesOf, fieldsOf, field] at h ⊢
      cases hvalue : Dict.get? data "databases" with
      | none => simp [hvalue, fieldsOf] at h
      | some value => cases value with
        | obj databases =>
            have hempty : databases.isEmpty = false := by simpa [hvalue, fieldsOf] using h
            simp only [validateTenant, hvalue, hempty, Bool.false_eq_true, if_false,
              Option.getD_some, fieldsOf]
        | _ => simp [hvalue, fieldsOf] at h
  | _ => exact absurd rfl h

theorem exists_validateTenant_iff {tenantId : String} {tenantData : Json} :
    (∃ found, validateTenant tenantId tenantData = .ok found) ↔
      ∀ database ∈ databasesOf tenantData, WellTyped (fieldsOf database.2) := by
  by_cases hnil : databasesOf tenantData = []
  · obtain ⟨error, herror⟩ := validateTenant_of_nil tenantId hnil
    simp [herror, hnil]
  · have hrun := Fallible.exists_mapM_eq_ok_iff
      (fun database => validateDatabase tenantId database.1 database.2) (databasesOf tenantData)
    simp only [exists_validateDatabase_iff] at hrun
    rw [← hrun, validateTenant_of_ne_nil hnil]
    simp only [Fallible.map_eq_ok_iff]
    exact ⟨fun ⟨_, found, h, _⟩ => ⟨found, h⟩, fun ⟨found, h⟩ => ⟨_, found, h, rfl⟩⟩

theorem validateTenant_nil_iff {tenantId : String} {tenantData : Json} :
    (∃ found, validateTenant tenantId tenantData = .ok found ∧ found.errors = []) ↔
      databasesOf tenantData ≠ [] ∧ ∀ database ∈ databasesOf tenantData,
        ∃ config, database.2 = .obj config ∧ Acceptable database.1 config := by
  by_cases hnil : databasesOf tenantData = []
  · obtain ⟨error, herror⟩ := validateTenant_of_nil tenantId hnil
    simp [herror, hnil]
  · have hrun := Fallible.exists_mapM_forall_iff
      (fun database => validateDatabase tenantId database.1 database.2) (databasesOf tenantData)
      fun found => found.errors = []
    simp only [validateDatabase_nil_iff] at hrun
    rw [and_iff_right hnil, ← hrun, validateTenant_of_ne_nil hnil]
    simp only [Fallible.map_eq_ok_iff, ← errors_concat_eq_nil_iff]
    exact ⟨fun ⟨_, ⟨found, h, hconcat⟩, herrors⟩ => ⟨found, h, hconcat ▸ herrors⟩,
      fun ⟨found, h, herrors⟩ => ⟨_, ⟨found, h, rfl⟩, herrors⟩⟩

theorem seen_of_validateTenant {tenantId : String} {tenantData : Json} {found : Findings}
    (h : validateTenant tenantId tenantData = .ok found) :
    (found.seen.map Prod.fst).Sublist
      ((databasesOf tenantData).map fun database => (tenantId, database.1)) := by
  by_cases hnil : databasesOf tenantData = []
  · obtain ⟨error, herror⟩ := validateTenant_of_nil tenantId hnil
    cases herror.symm.trans h
    exact List.nil_sublist _
  · rw [validateTenant_of_ne_nil hnil, Fallible.map_eq_ok_iff] at h
    obtain ⟨each, heach, rfl⟩ := h
    have hsub := Fallible.sublist_flatMap ((Fallible.mapM_eq_ok_iff.mp heach).imp
      fun _ _ h => seen_of_validateDatabase h)
    rwa [← List.map_flatMap, ← List.map_eq_flatMap] at hsub

/-! ## The whole -/

/-- The tenants of a configuration. -/
def tenantsOf (config : Json) : Dict Json := fieldsOf (field (fieldsOf config) "tenants" (.obj []))

omit [Python] [PythonNumbers] in
theorem configEntries_eq (config : Json) :
    configEntries config = (tenantsOf config).flatMap fun tenant =>
      (databasesOf tenant.2).map fun database => (tenant.1, database.1, fieldsOf database.2) :=
  rfl

theorem validateTenantConfig_of_nil {config : Json} (h : tenantsOf config = []) :
    ∃ error, validateTenantConfig config = .ok ⟨false, [error], []⟩ := by
  cases config with
  | obj root =>
      rw [tenantsOf, fieldsOf, field] at h
      cases hvalue : Dict.get? root "tenants" with
      | none => exact ⟨_, by simp only [validateTenantConfig, hvalue]; rfl⟩
      | some value => cases value with
        | obj tenants =>
            have hnil : tenants = [] := by simpa [hvalue, fieldsOf] using h
            subst hnil
            exact ⟨_, by simp only [validateTenantConfig, hvalue]; rfl⟩
        | _ => exact ⟨_, by simp only [validateTenantConfig, hvalue]; rfl⟩
  | _ => exact ⟨_, rfl⟩

theorem validateTenantConfig_of_ne_nil {config : Json} {result : ValidationResult}
    (h : tenantsOf config ≠ []) :
    validateTenantConfig config = .ok result ↔ ∃ found,
      ((tenantsOf config).mapM fun tenant => validateTenant tenant.1 tenant.2) = .ok found ∧
        result.errors = found.flatMap Findings.errors ++
          duplicates (found.flatMap Findings.seen) ∧
        result.isValid = result.errors.isEmpty ∧
        result.warnings =
          if "dev" ∈ found.flatMap Findings.environments ∧
              "prod" ∈ found.flatMap Findings.environments then
            ["Mixed environments detected in config: dev, prod"]
          else [] := by
  cases config with
  | obj root =>
      rw [tenantsOf, fieldsOf, field] at h ⊢
      cases hvalue : Dict.get? root "tenants" with
      | none => simp [hvalue, fieldsOf] at h
      | some value => cases value with
        | obj tenants =>
            have hempty : tenants.isEmpty = false := by simpa [hvalue, fieldsOf] using h
            simp only [validateTenantConfig, hvalue, hempty, Bool.false_eq_true, if_false,
              Option.getD_some, fieldsOf, Fallible.bind_eq_ok_iff, Fallible.pure_eq_ok_iff]
            obtain ⟨isValid, errors, warnings⟩ := result
            simp only [ValidationResult.mk.injEq, Findings.concat]
            refine exists_congr fun found => and_congr_right fun _ => ?_
            constructor
            · intro h
              obtain ⟨hvalid, rfl, hwarnings⟩ := h
              exact ⟨rfl, hvalid.symm, hwarnings.symm⟩
            · intro h
              obtain ⟨rfl, hvalid, hwarnings⟩ := h
              exact ⟨hvalid.symm, rfl, hwarnings.symm⟩
        | _ => simp [hvalue, fieldsOf] at h
  | _ => exact absurd rfl h

/-- **The validator does not raise** when the entries are well typed. -/
theorem exists_validateTenantConfig_iff {config : Json} :
    (∃ result, validateTenantConfig config = .ok result) ↔
      ∀ entry ∈ configEntries config, WellTyped entry.2.2 := by
  have hentries : (∀ entry ∈ configEntries config, WellTyped entry.2.2) ↔
      ∀ tenant ∈ tenantsOf config, ∀ database ∈ databasesOf tenant.2,
        WellTyped (fieldsOf database.2) := by
    rw [configEntries_eq]
    simp only [List.forall_mem_flatMap, List.forall_mem_map]
  rw [hentries]
  by_cases hnil : tenantsOf config = []
  · obtain ⟨error, herror⟩ := validateTenantConfig_of_nil hnil
    simp [herror, hnil]
  · have hrun := Fallible.exists_mapM_eq_ok_iff
      (fun tenant => validateTenant tenant.1 tenant.2) (tenantsOf config)
    simp only [exists_validateTenant_iff] at hrun
    rw [← hrun]
    simp only [validateTenantConfig_of_ne_nil hnil]
    exact ⟨fun ⟨_, found, h, _⟩ => ⟨found, h⟩,
      fun ⟨found, h⟩ => ⟨⟨List.isEmpty _, _, _⟩, found, h, rfl, rfl, rfl⟩⟩

/-- What the validator wants of a configuration. -/
structure AcceptableConfig (config : Json) : Prop where
  tenants : tenantsOf config ≠ []
  databases : ∀ tenant ∈ tenantsOf config, databasesOf tenant.2 ≠ [] ∧
    ∀ database ∈ databasesOf tenant.2,
      ∃ entry, database.2 = .obj entry ∧ Acceptable database.1 entry

omit [Python] [PythonNumbers] in
theorem nodup_fieldsOf {value : Json} (h : Json.Keyed value) :
    ((fieldsOf value).map Prod.fst).Nodup := by
  cases value with
  | obj fields => exact (Json.keyed_obj_iff.mp h).1
  | _ => exact List.nodup_nil

omit [Python] [PythonNumbers] in
theorem keyed_of_mem_fieldsOf {value : Json} (h : Json.Keyed value) {kv : String × Json}
    (hkv : kv ∈ fieldsOf value) : Json.Keyed kv.2 := by
  cases value with
  | obj fields => exact (Json.keyed_obj_iff.mp h).2 kv hkv
  | _ => exact absurd hkv List.not_mem_nil

omit [Python] [PythonNumbers] in
theorem keyed_field {value : Json} (h : Json.Keyed value) (key : String) :
    Json.Keyed (field (fieldsOf value) key (.obj [])) := by
  rw [field]
  cases hvalue : Dict.get? (fieldsOf value) key with
  | none => exact Json.keyed_obj_iff.mpr ⟨List.nodup_nil, by simp⟩
  | some v => exact keyed_of_mem_fieldsOf h (Dict.mem_of_get? hvalue)

omit [Python] [PythonNumbers] in
/-- A tenant and a database come together once. -/
theorem nodup_pairs {config : Json} (hkeyed : Json.Keyed config) :
    ((configEntries config).map fun entry => (entry.1, entry.2.1)).Nodup := by
  have htenants := keyed_field hkeyed "tenants"
  rw [configEntries_eq, List.map_flatMap, List.nodup_flatMap]
  constructor
  · intro tenant htenant
    have hdatabases := nodup_fieldsOf
      (keyed_field (keyed_of_mem_fieldsOf htenants htenant) "databases")
    rw [List.map_map]
    have hpairs := hdatabases.map (Prod.mk_right_injective tenant.1)
    rwa [List.map_map] at hpairs
  · have hkeys := nodup_fieldsOf htenants
    rw [List.Nodup, List.pairwise_map] at hkeys
    refine hkeys.imp fun {tenant tenant'} hne => ?_
    simp only [Function.onFun, List.map_map]
    intro pair hpair hpair'
    obtain ⟨database, -, rfl⟩ := List.mem_map.mp hpair
    obtain ⟨database', -, heq⟩ := List.mem_map.mp hpair'
    exact hne (congrArg Prod.fst heq).symm

omit [PythonNumbers] in
theorem duplicates_of_nodup {seen : List ((String × String) × String)}
    (h : (seen.map Prod.fst).Nodup) : duplicates seen = [] := by
  rw [duplicates, List.map_eq_nil_iff, List.filter_eq_nil_iff]
  intro group hgroup hmany
  have hone := Multimap.length_le_one_of_nodup h hgroup
  have htwo := of_decide_eq_true hmany
  omega

/-- **What the validator accepts**, as a whole. -/
theorem isValid_iff {config : Json} (hkeyed : Json.Keyed config) :
    (∃ result, validateTenantConfig config = .ok result ∧ result.isValid = true) ↔
      AcceptableConfig config := by
  by_cases hnil : tenantsOf config = []
  · obtain ⟨error, herror⟩ := validateTenantConfig_of_nil hnil
    constructor
    · intro ⟨result, hresult, hvalid⟩
      cases herror.symm.trans hresult
      contradiction
    · intro h
      exact (h.tenants hnil).elim
  · have hrun := Fallible.exists_mapM_forall_iff
      (fun tenant => validateTenant tenant.1 tenant.2) (tenantsOf config)
      fun found => found.errors = []
    simp only [validateTenant_nil_iff] at hrun
    simp only [validateTenantConfig_of_ne_nil hnil]
    constructor
    · intro ⟨result, ⟨found, hfound, herrors, hvalid, _⟩, htrue⟩
      rw [htrue, eq_comm, List.isEmpty_iff, herrors, List.append_eq_nil_iff,
        List.flatMap_eq_nil_iff] at hvalid
      exact ⟨hnil, hrun.mp ⟨found, hfound, hvalid.1⟩⟩
    · intro h
      obtain ⟨found, hfound, hnone⟩ := hrun.mpr h.databases
      have hsub := Fallible.sublist_flatMap ((Fallible.mapM_eq_ok_iff.mp hfound).imp
        fun _ _ h => seen_of_validateTenant h)
      rw [← List.map_flatMap] at hsub
      have hpairs := nodup_pairs hkeyed
      rw [configEntries_eq, List.map_flatMap] at hpairs
      simp only [List.map_map] at hpairs
      refine ⟨⟨true, [], _⟩, ⟨found, hfound, ?_, rfl, rfl⟩, rfl⟩
      rw [List.flatMap_eq_nil_iff.mpr hnone, duplicates_of_nodup (hpairs.sublist hsub)]
      rfl

end

end DbGateway.Tenant.Validator
