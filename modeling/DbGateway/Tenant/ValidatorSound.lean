import DbGateway.Tenant.Validator

/-!
# DbGateway.Tenant.ValidatorSound

What a configuration that the validator has accepted comes to.

`_parse_config` reads the same document, and not in the same way: the validator
does not look at the port.  Where it can be relied on is said by `sound_iff`.
-/

namespace DbGateway.Tenant.Validator

open Config

section

variable [Python] [PythonNumbers]

/-! ## The bindings of what is accepted -/

omit [Python] [PythonNumbers] in
theorem items_of_ne_nil {value : Json} (h : fieldsOf value ≠ []) :
    items value = .ok (fieldsOf value) := by
  cases value with
  | obj fields => rfl
  | _ => exact absurd rfl h

omit [Python] [PythonNumbers] in
/-- What has something under a key is an object. -/
theorem ne_nil_of_field {value : Json} {key : String}
    (h : fieldsOf (field (fieldsOf value) key (.obj [])) ≠ []) : fieldsOf value ≠ [] := by
  intro hnil
  rw [hnil] at h
  exact h rfl

/-- Once a configuration is acceptable, parsing it is parsing its databases. -/
theorem exists_parseConfig_iff {config : Json} (h : AcceptableConfig config) :
    (∃ bindings, parseConfig config = .ok bindings) ↔
      ∀ entry ∈ configEntries config,
        ∃ binding, parseDatabase entry.1 entry.2.1 entry.2.2 = .ok binding := by
  constructor
  · intro ⟨bindings, hbindings⟩ entry hentry
    obtain ⟨binding, -, hbinding⟩ :=
      Fallible.exists_mem_of_forall₂ (forall₂_of_parseConfig hbindings) hentry
    exact ⟨binding, hbinding⟩
  · intro hentries
    rw [configEntries_eq] at hentries
    simp only [List.forall_mem_flatMap, List.forall_mem_map] at hentries
    have htenants := h.tenants
    rw [tenantsOf] at htenants
    simp only [parseConfig, Fallible.bind_eq_ok_iff, Fallible.pure_eq_ok_iff]
    suffices hresult : ∃ result, _ = Except.ok result from
      hresult.elim fun result hresult => ⟨_, _, items_of_ne_nil (ne_nil_of_field htenants), _,
        items_of_ne_nil htenants, result, hresult, rfl⟩
    rw [Fallible.exists_mapM_eq_ok_iff]
    intro tenant htenant
    obtain ⟨hdatabases, hshape⟩ := h.databases tenant htenant
    rw [databasesOf] at hdatabases
    simp only [Fallible.bind_eq_ok_iff]
    suffices hresult : ∃ result, _ = Except.ok result from
      hresult.elim fun result hresult => ⟨_, _, items_of_ne_nil (ne_nil_of_field hdatabases), _,
        items_of_ne_nil hdatabases, hresult⟩
    rw [Fallible.exists_mapM_eq_ok_iff]
    intro database hdatabase
    obtain ⟨entry, hentry, -⟩ := hshape database hdatabase
    obtain ⟨binding, hbinding⟩ := hentries tenant htenant database hdatabase
    rw [hentry] at hbinding
    refine ⟨binding, Fallible.bind_eq_ok_iff.mpr ⟨entry, ?_, hbinding⟩⟩
    rw [hentry]
    rfl

/-- What is accepted is parsed, but for the port. -/
theorem exists_parseDatabase_iff {tenantId databaseId : String} {config : Dict Json}
    (h : Acceptable databaseId config) :
    (∃ binding, parseDatabase tenantId databaseId config = .ok binding) ↔
      (modeOf config = .str "rotated" →
        ∃ port, toInt (field config "port" (.int 5432)) = .ok port) := by
  simp only [parseDatabase_eq_ok_iff]
  obtain ⟨pool, hpool⟩ := exists_poolSettings_iff.mpr h.pool
  constructor
  · intro ⟨binding, _, _, hmode⟩ hrotated
    obtain ⟨hstatic, -⟩ | ⟨-, -, -, -, port, hport, -⟩ := hmode
    · simp [hrotated] at hstatic
    · exact ⟨port, hport⟩
  · intro hport
    obtain ⟨hstatic, s, hs, hmentions⟩ | ⟨hrotated, hrole, ⟨host, hhost, hne⟩, hdb⟩ := h.fields
    · have hne : s ≠ "" := by
        intro hempty
        subst hempty
        simp [mentions] at hmentions
      exact ⟨_, pool, hpool, .inl ⟨hstatic, by rwa [hs, Json.truthy_str_iff],
        ⟨_, by rw [hs, isInside]⟩, rfl⟩⟩
    · obtain ⟨port, hport⟩ := hport hrotated
      exact ⟨_, pool, hpool, .inr ⟨hrotated, hrole, by rwa [hhost, Json.truthy_str_iff], hdb,
        port, hport, rfl⟩⟩

/-- A binding has the fields of an entry. -/
structure Carries (tenantId databaseId : String) (config : Dict Json)
    (binding : Config.TenantDatabaseConfig) : Prop where
  orgId : binding.orgId = tenantId
  databaseId : binding.databaseId = databaseId
  credentialMode : modeOf config = .str binding.credentialMode
  dataSchema : binding.dataSchema = field config "data_schema" (.str "public")
  metadataSchema : binding.metadataSchema = field config "metadata_schema" (.str "meta")
  poolSize : optionalInt (field config "pool_size") = .ok binding.poolSize
  maxOverflow : optionalInt (field config "max_overflow") = .ok binding.maxOverflow
  poolTimeout : optionalFloat (field config "pool_timeout") = .ok binding.poolTimeout
  poolRecycle : optionalInt (field config "pool_recycle") = .ok binding.poolRecycle
  static : binding.credentialMode = "static" →
    binding.connectionString = field config "connection_string" ∧
      binding.replicaConnectionString = field config "replica_connection_string" ∧
      binding.useReadReplica = usesReplica (field config "use_read_replica")
        (field config "replica_connection_string")
  rotated : binding.credentialMode = "rotated" →
    binding.roleName = field config "role_name" ∧ binding.host = field config "host" ∧
      binding.dbName = field config "db_name" ∧
      binding.credsDir = field config "creds_dir" (.str "/creds") ∧
      toInt (field config "port" (.int 5432)) = .ok binding.port

omit [Python] in
theorem poolSettings_eq_ok {config : Dict Json} {pool : Pool} (h : poolSettings config = .ok pool) :
    optionalInt (field config "pool_size") = .ok pool.size ∧
      optionalInt (field config "max_overflow") = .ok pool.maxOverflow ∧
      optionalFloat (field config "pool_timeout") = .ok pool.timeout ∧
      optionalInt (field config "pool_recycle") = .ok pool.recycle := by
  simp only [poolSettings, Fallible.bind_eq_ok_iff, Fallible.pure_eq_ok_iff] at h
  obtain ⟨size, hsize, maxOverflow, hmax, timeout, htimeout, recycle, hrecycle, rfl⟩ := h
  exact ⟨hsize, hmax, htimeout, hrecycle⟩

/-- **A binding carries its entry.** -/
theorem carries_of_parseDatabase {tenantId databaseId : String} {config : Dict Json}
    {binding : Config.TenantDatabaseConfig}
    (h : parseDatabase tenantId databaseId config = .ok binding) :
    Carries tenantId databaseId config binding := by
  obtain ⟨pool, hpool, hmode⟩ := parseDatabase_eq_ok_iff.mp h
  obtain ⟨hsize, hmax, htimeout, hrecycle⟩ := poolSettings_eq_ok hpool
  obtain ⟨hstatic, hconnection, -, rfl⟩ | ⟨hrotated, -, -, -, port, hport, rfl⟩ := hmode
  · exact {
      orgId := rfl
      databaseId := rfl
      credentialMode := hstatic
      dataSchema := rfl
      metadataSchema := rfl
      poolSize := hsize
      maxOverflow := hmax
      poolTimeout := htimeout
      poolRecycle := hrecycle
      static := fun _ => ⟨Json.or_of_truthy _ hconnection, rfl, rfl⟩
      rotated := fun hrotated => absurd hrotated (show "static" ≠ "rotated" by decide) }
  · exact {
      orgId := rfl
      databaseId := rfl
      credentialMode := hrotated
      dataSchema := rfl
      metadataSchema := rfl
      poolSize := hsize
      maxOverflow := hmax
      poolTimeout := htimeout
      poolRecycle := hrecycle
      static := fun hstatic => absurd hstatic (show "rotated" ≠ "static" by decide)
      rotated := fun _ => ⟨rfl, rfl, rfl, rfl, hport⟩ }

/-! ## Resolving them -/

/-- `resolve`, for bindings of any kind -/
def resolveIn {β : Type} (bindings : Multimap (String × String) β) (principal : Option Principal)
    (databaseId : Option String) : Except String β :=
  match principal with
  | none => .error "Authenticated organisation is required."
  | some principal =>
      if strip principal.orgId = "" then .error "Authenticated organisation is required."
      else if !isValidDatabaseId (databaseId.getD "") then
        .error "A valid logical database_id is required."
      else
        match bindings.get (principal.orgId, strip (databaseId.getD "")) with
        | [] => .error "Database is not available for this organisation."
        | [binding] => .ok binding
        | _ => .error "Database configuration is ambiguous."

omit [Python] [PythonNumbers] in
theorem resolve_eq_resolveIn (self : TenantDatabaseResolver) (principal : Option Principal)
    (databaseId : Option String) :
    self.resolve principal databaseId = resolveIn self.bindings principal databaseId := by
  cases principal with
  | none => rfl
  | some principal =>
      rw [TenantDatabaseResolver.resolve, resolveIn]
      cases self.bindings.get (principal.orgId, strip (databaseId.getD "")) with
      | nil => rfl
      | cons first rest => cases rest with
        | nil => rfl
        | cons second rest => rfl

/-- `TenantDatabaseResolver(bindings)` -/
def resolverOf (bindings : List Config.TenantDatabaseConfig) :
    Multimap (String × String) Config.TenantDatabaseConfig :=
  Multimap.ofList (fun binding => (binding.orgId, binding.databaseId)) bindings

omit [Python] [PythonNumbers] in
theorem not_isSpace_of_isIdentifierChar {c : Char} (h : isIdentifierChar c = true) :
    isSpace c = false := by
  rw [isIdentifierChar] at h
  cases hspace : isSpace c with
  | false => rfl
  | true =>
      rw [Char.not_isAlphanum_of_isSpace hspace] at h
      simp only [Bool.false_or, Bool.or_eq_true, decide_eq_true_eq] at h
      obtain (rfl | rfl) | rfl := h
      · contradiction
      · contradiction
      · contradiction

omit [Python] [PythonNumbers] in
/-- An identifier has nothing to strip. -/
theorem strip_of_databaseIdPattern {databaseId : String}
    (h : databaseIdPattern databaseId.toList = true) : strip databaseId = databaseId := by
  have hall : ∀ c ∈ databaseId.toList, isSpace c = false := by
    cases hcs : databaseId.toList with
    | nil => simp
    | cons c cs =>
        rw [hcs, databaseIdPattern, Bool.and_eq_true, Bool.and_eq_true, List.all_eq_true] at h
        have hfirst : isIdentifierChar c = true := by simp [isIdentifierChar, h.1.1]
        intro d hd
        cases hd with
        | head => exact not_isSpace_of_isIdentifierChar hfirst
        | tail _ hd => exact not_isSpace_of_isIdentifierChar (h.2 d hd)
  have hfront : databaseId.toList.dropWhile isSpace = databaseId.toList := by
    rw [List.dropWhile_eq_self_iff]
    intro hpos
    simp [hall _ (List.getElem_mem hpos)]
  have hback : databaseId.toList.rdropWhile isSpace = databaseId.toList := by
    rw [List.rdropWhile_eq_self_iff]
    intro hne
    simp [hall _ (List.getLast_mem hne)]
  rw [strip, stripChars, stripList, hfront, ← List.rdropWhile, hback, String.ofList_toList]

omit [Python] [PythonNumbers] in
/-- A binding that is alone under its key is found. -/
theorem resolveIn_eq_ok {β : Type} {bindings : Multimap (String × String) β} {binding : β}
    {principal : Principal} {databaseId : String} (horg : strip principal.orgId ≠ "")
    (hid : databaseIdPattern databaseId.toList = true)
    (hget : bindings.get (principal.orgId, databaseId) = [binding]) :
    resolveIn bindings (some principal) (some databaseId) = .ok binding := by
  have hstrip := strip_of_databaseIdPattern hid
  have hvalid : isValidDatabaseId databaseId = true := by rwa [isValidDatabaseId, hstrip]
  simp only [resolveIn, if_neg horg, Option.getD_some, hvalid, Bool.not_true, Bool.false_eq_true,
    if_false, hstrip, hget]

/-! ## Soundness -/

/-- What the validator is for: it does not raise, and a configuration that it
accepts is parsed, and the database of an entry whose tenant has a name is found
with the fields of the entry. -/
def Sound (config : Json) : Prop :=
  ∃ result, validateTenantConfig config = .ok result ∧
    (result.isValid = true → ∃ bindings, parseConfig config = .ok bindings ∧
      ∀ entry ∈ configEntries config, strip entry.1 ≠ "" →
        ∀ principal : Principal, principal.orgId = entry.1 →
          ∃ binding,
            resolveIn (resolverOf bindings) (some principal) (some entry.2.1) = .ok binding ∧
              Carries entry.1 entry.2.1 entry.2.2 binding)

omit [Python] in
theorem acceptable_of_mem_configEntries {config : Json} (h : AcceptableConfig config) :
    ∀ entry ∈ configEntries config, Acceptable entry.2.1 entry.2.2 := by
  rw [configEntries_eq]
  simp only [List.forall_mem_flatMap, List.forall_mem_map]
  intro tenant htenant database hdatabase
  obtain ⟨entry, hentry, hacceptable⟩ := (h.databases tenant htenant).2 database hdatabase
  rwa [hentry]

/-- The binding of an entry is alone under its key. -/
theorem get_resolverOf {config : Json} (hkeyed : Json.Keyed config)
    {bindings : List Config.TenantDatabaseConfig} (hparse : parseConfig config = .ok bindings)
    {entry : String × String × Dict Json} (hentry : entry ∈ configEntries config) :
    ∃ binding, (resolverOf bindings).get (entry.1, entry.2.1) = [binding] ∧
      Carries entry.1 entry.2.1 entry.2.2 binding := by
  have hcarries := (forall₂_of_parseConfig hparse).imp fun _ _ h => carries_of_parseDatabase h
  have hkeys : bindings.map (fun binding => (binding.orgId, binding.databaseId)) =
      (configEntries config).map fun entry => (entry.1, entry.2.1) := by
    rw [eq_comm, ← List.forall₂_eq_eq_eq, List.forall₂_map_left_iff, List.forall₂_map_right_iff]
    exact hcarries.imp fun _ _ h => by rw [h.orgId, h.databaseId]
  obtain ⟨binding, hbinding, h⟩ := Fallible.exists_mem_of_forall₂ hcarries hentry
  have hget := Multimap.get_ofList_of_nodup (hkeys ▸ nodup_pairs hkeyed) hbinding
  rw [h.orgId, h.databaseId] at hget
  exact ⟨binding, hget, h⟩

/-- **Validator soundness**: the validator is sound exactly for a configuration
whose entries are well typed and which, if acceptable, has the port of each
rotated entry in a form that `int` takes. -/
theorem sound_iff {config : Json} (hkeyed : Json.Keyed config) :
    Sound config ↔ (∀ entry ∈ configEntries config, WellTyped entry.2.2) ∧
      (AcceptableConfig config → ∀ entry ∈ configEntries config,
        modeOf entry.2.2 = .str "rotated" →
          ∃ port, toInt (field entry.2.2 "port" (.int 5432)) = .ok port) := by
  constructor
  · intro ⟨result, hresult, hsound⟩
    refine ⟨exists_validateTenantConfig_iff.mp ⟨result, hresult⟩, fun h entry hentry => ?_⟩
    obtain ⟨result', hresult', hvalid⟩ := (isValid_iff hkeyed).mpr h
    cases hresult.symm.trans hresult'
    obtain ⟨bindings, hparse, -⟩ := hsound hvalid
    have hdatabase := (exists_parseConfig_iff h).mp ⟨bindings, hparse⟩ entry hentry
    exact (exists_parseDatabase_iff (acceptable_of_mem_configEntries h entry hentry)).mp hdatabase
  · intro ⟨htyped, hports⟩
    obtain ⟨result, hresult⟩ := exists_validateTenantConfig_iff.mpr htyped
    refine ⟨result, hresult, fun hvalid => ?_⟩
    have h := (isValid_iff hkeyed).mp ⟨result, hresult, hvalid⟩
    obtain ⟨bindings, hparse⟩ := (exists_parseConfig_iff h).mpr fun entry hentry =>
      (exists_parseDatabase_iff (acceptable_of_mem_configEntries h entry hentry)).mpr
        (hports h entry hentry)
    refine ⟨bindings, hparse, fun entry hentry hname principal hprincipal => ?_⟩
    obtain ⟨binding, hget, hcarries⟩ := get_resolverOf hkeyed hparse hentry
    have hid := (acceptable_of_mem_configEntries h entry hentry).databaseId
    refine ⟨binding, resolveIn_eq_ok ?_ hid ?_, hcarries⟩
    · rwa [hprincipal]
    · rwa [hprincipal]

end

/-- `{"role_name": "reader", "host": "db", "db_name": "main"}` in rotated mode, and
another field -/
def rotatedEntry (other : String × Json) : Dict Json :=
  [("credential_mode", .str "rotated"), ("role_name", .str "reader"), ("host", .str "db"),
    ("db_name", .str "main"), other]

/-- A rotated entry with a port that is a number. -/
theorem sound_iff_port :
    @Sound Json.whole .decimal (acmeConfig (rotatedEntry ("port", .int 5433))) := by
  let _ := Json.whole
  let _ := PythonNumbers.decimal
  have hkeyed : Json.Keyed (acmeConfig (rotatedEntry ("port", .int 5433))) := by
    simp [acmeConfig, rotatedEntry, Json.Keyed, Json.KeyedFields]
  have htyped : WellTyped (rotatedEntry ("port", .int 5433)) := {
    hashable := ⟨fun _ h => by contradiction, fun _ h => by contradiction⟩
    connectionString := fun h => absurd (Json.str.inj h) (show "rotated" ≠ "static" by decide)
    host := fun _ => ⟨"db", rfl⟩
    dataSchema := fun _ => ⟨"public", rfl⟩
    metadataSchema := fun _ => ⟨"meta", rfl⟩
    poolInts := fun _ => by
      simp only [List.forall_mem_cons]
      refine ⟨fun _ h => ?_, fun _ h => ?_, fun _ h => ?_, List.forall_mem_nil _⟩ <;> cases h
    poolTimeout := fun _ _ h => by contradiction }
  exact (sound_iff hkeyed).mpr ⟨List.forall_mem_singleton.mpr htyped,
    fun _ => List.forall_mem_singleton.mpr fun _ => ⟨5433, rfl⟩⟩

/-- `1e400` -/
def largeNumber : Rat := 10 ^ 400

theorem isInfinite_large : isInfinite largeNumber = true := by decide +kernel

/-- A schema that is `null` is not looked at without an exception, nor is a pool size
of `1e400`; a port that is `null` is accepted, and then cannot be parsed. -/
theorem not_sound_null :
    (Json.Keyed (acmeConfig (rotatedEntry ("data_schema", .null))) ∧
      ¬ @Sound Json.whole .decimal (acmeConfig (rotatedEntry ("data_schema", .null)))) ∧
    (Json.Keyed (acmeConfig (rotatedEntry ("pool_size", .float largeNumber))) ∧
      ¬ @Sound Json.whole .decimal
        (acmeConfig (rotatedEntry ("pool_size", .float largeNumber)))) ∧
    Json.Keyed (acmeConfig (rotatedEntry ("port", .null))) ∧
      ¬ @Sound Json.whole .decimal (acmeConfig (rotatedEntry ("port", .null))) := by
  let _ := Json.whole
  let _ := PythonNumbers.decimal
  have hschema : Json.Keyed (acmeConfig (rotatedEntry ("data_schema", .null))) := by
    simp [acmeConfig, rotatedEntry, Json.Keyed, Json.KeyedFields]
  have hlarge : Json.Keyed (acmeConfig (rotatedEntry ("pool_size", .float largeNumber))) := by
    simp [acmeConfig, rotatedEntry, Json.Keyed, Json.KeyedFields]
  have hport : Json.Keyed (acmeConfig (rotatedEntry ("port", .null))) := by
    simp [acmeConfig, rotatedEntry, Json.Keyed, Json.KeyedFields]
  refine ⟨⟨hschema, ?_⟩, ⟨hlarge, ?_⟩, hport, ?_⟩
  · intro hsound
    obtain ⟨result, hresult, -⟩ := hsound
    have hraised : validateTenantConfig (acmeConfig (rotatedEntry ("data_schema", .null))) =
        .error .typeError := rfl
    cases hraised.symm.trans hresult
  · intro hsound
    obtain ⟨result, hresult, -⟩ := hsound
    have htyped := exists_validateTenantConfig_iff.mp ⟨result, hresult⟩ _ List.mem_cons_self
    have hfinite := htyped.poolInts (.inr rfl) "pool_size" List.mem_cons_self largeNumber rfl
    exact Bool.false_ne_true (hfinite.symm.trans isInfinite_large)
  · intro hsound
    obtain ⟨result, hresult, hsound⟩ := hsound
    have hints : ∀ key ∈ ["pool_size", "max_overflow", "pool_recycle"],
        ∃ n, optionalInt (field (rotatedEntry ("port", .null)) key) = .ok n := by
      simp only [List.forall_mem_cons]
      exact ⟨⟨none, rfl⟩, ⟨none, rfl⟩, ⟨none, rfl⟩, fun _ h => absurd h List.not_mem_nil⟩
    have hentry : Acceptable "main" (rotatedEntry ("port", .null)) := {
      databaseId := by decide
      fields := .inr ⟨rfl, rfl, ⟨"db", rfl, by decide⟩, rfl⟩
      dataSchema := ⟨"public", rfl, by decide⟩
      metadataSchema := ⟨"meta", rfl, by decide⟩
      pool := ⟨hints, none, rfl⟩ }
    have hconfig : AcceptableConfig (acmeConfig (rotatedEntry ("port", .null))) := {
      tenants := List.cons_ne_nil _ _
      databases := List.forall_mem_singleton.mpr
        ⟨List.cons_ne_nil _ _, List.forall_mem_singleton.mpr ⟨_, rfl, hentry⟩⟩ }
    obtain ⟨result', hresult', hvalid⟩ := (isValid_iff hport).mpr hconfig
    cases hresult.symm.trans hresult'
    obtain ⟨bindings, hparse, -⟩ := hsound hvalid
    have hraised : parseConfig (acmeConfig (rotatedEntry ("port", .null))) =
        .error .typeError := rfl
    cases hraised.symm.trans hparse

end DbGateway.Tenant.Validator
