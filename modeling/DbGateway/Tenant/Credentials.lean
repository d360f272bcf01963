import DbGateway.Tenant.Rotation

/-!
# DbGateway.Tenant.Credentials

`config/rotated_creds.py`, which reads the rotator's files back, and
`effective_connection_string`, which is made from them.

The loader keeps a cache, but a new loader is made for every connection string,
so what is served is what the file says (`effectiveConnectionString_of_file`).
A binding is served its own credentials, in every run, exactly when no other
binding writes to its file (`usesLastRotation_iff`).
-/

namespace DbGateway.Tenant

open Json (PythonFloat isPlain)

/-! ## Connection strings -/

/-- The connection string a rotation makes. -/
def Rotation.connectionString (call : Rotation) (newPass : List Char) : String :=
  "postgresql+asyncpg://" ++ call.roleName ++ ":" ++ String.ofList newPass ++ "@" ++ call.host ++
    ":" ++ toString call.port ++ "/" ++ call.dbName

/-- Two rotations of one role on one host with one password are told apart by
the database. -/
theorem Rotation.dbName_eq {call call' : Rotation} (newPass : List Char)
    (hrole : call.roleName = call'.roleName) (hhost : call.host = call'.host)
    (hport : call.port = call'.port)
    (h : call.connectionString newPass = call'.connectionString newPass) :
    call.dbName = call'.dbName := by
  unfold connectionString at h
  rw [hrole, hhost, hport] at h
  exact (String.append_right_inj _).mp h

/-- Two rotations of one binding are told apart by the password. -/
theorem Rotation.newPass_eq {binding : TenantDatabaseConfig} {outcome outcome' : Outcome}
    {newPass newPass' : List Char}
    (h : (ofBinding binding outcome).connectionString newPass =
      (ofBinding binding outcome').connectionString newPass') : newPass = newPass' := by
  unfold connectionString at h
  simp only [ofBinding, String.append_left_inj, String.append_right_inj] at h
  exact String.ofList_inj.mp h

/-! ## The loader -/

/-- `RotatedCredentials`; the fields of the file are taken as they come. -/
structure RotatedCredentials where
  tenantId : Json
  roleName : Json
  database : Json
  username : Json
  password : Json
  rotatedAt : Json
  host : Json
  port : Json

/-- What a load can raise. -/
inductive LoadError where
  /-- `FileNotFoundError` -/
  | notFound (message : String)
  /-- The file is JSON, but no object. -/
  | typeError

/-- The arguments of `RotatedCredentials(...)`; a missing one is a `KeyError`. -/
def RotatedCredentials.ofJson (data : Json) : Option RotatedCredentials := do
  let tenantId ← data.get? "tenant_id"
  let roleName ← data.get? "role_name"
  let database ← data.get? "database"
  let username ← data.get? "username"
  let password ← data.get? "password"
  let rotatedAt ← data.get? "rotated_at"
  let host ← data.get? "host"
  let port ← data.get? "port"
  return ⟨tenantId, roleName, database, username, password, rotatedAt, host, port⟩

/-- `RotatedCredentialLoader`: where it reads, and its cache. -/
structure RotatedCredentialLoader where
  credsDir : String
  cache : Dict RotatedCredentials

section

variable [Python] [PythonFloat]

namespace RotatedCredentialLoader

/-- `_load_file` -/
def loadFile (files : Directory) (tenantId roleName : String) :
    Except LoadError (Option RotatedCredentials) :=
  match files (credsFile tenantId roleName) with
  | none => .ok none
  | some text =>
      match Json.loads text with
      | none => .ok none
      | some (.obj fields) => .ok (RotatedCredentials.ofJson (.obj fields))
      | some _ => .error .typeError

/-- `get_credentials` -/
def getCredentials (self : RotatedCredentialLoader) (files : Directory)
    (tenantId roleName : String) : Except LoadError (RotatedCredentials × RotatedCredentialLoader) :=
  let cacheKey := tenantId ++ "_" ++ roleName
  match self.cache.get? cacheKey with
  | some creds => .ok (creds, self)
  | none =>
      match loadFile files tenantId roleName with
      | .error e => .error e
      | .ok none =>
          .error (.notFound ("No rotated credentials found for " ++ tenantId ++ "/" ++ roleName ++
            " in " ++ self.credsDir))
      | .ok (some creds) => .ok (creds, { self with cache := self.cache.set cacheKey creds })

end RotatedCredentialLoader

/-- `get_credential_loader`: a new loader at every call. -/
def getCredentialLoader (credsDir : String) : RotatedCredentialLoader := ⟨credsDir, []⟩

/-- `effective_connection_string`; `credsDir` is the environment's. -/
def TenantDatabaseConfig.effectiveConnectionString (self : TenantDatabaseConfig)
    (credsDir : String) (files : Directory) : Except LoadError String :=
  match self.credentialMode with
  | .static =>
      match self.replicaConnectionString with
      | some replica =>
          if self.useReadReplica && replica ≠ "" then .ok replica else .ok self.connectionString
      | none => .ok self.connectionString
  | .rotated =>
      match (getCredentialLoader credsDir).getCredentials files self.orgId self.roleName with
      | .error e => .error e
      | .ok (creds, _) =>
          .ok ("postgresql+asyncpg://" ++ creds.username.toStr ++ ":" ++ creds.password.toStr ++
            "@" ++ creds.host.toStr ++ ":" ++ creds.port.toStr ++ "/" ++ creds.database.toStr)

/-! ## What a load finds -/

/-- A line of the file is a field of the document. -/
theorem fields_line {name value : List Char} (hname : ∀ c ∈ name, isPlain c = true)
    (hvalue : ∀ c ∈ value, isPlain c = true) {rest : List Char} (hrest : rest.head? = some '"')
    {fuel : Nat} (hfuel : (Rotation.line name value).length ≤ fuel) :
    Json.fields (fuel + 1) (Rotation.line name value ++ rest) =
      (Json.fields fuel rest).map fun found =>
        ((String.ofList name, .str (String.ofList value)) :: found.1, found.2) := by
  have hlength : (Rotation.line name value).length = name.length + value.length + 10 := by
    simp [Rotation.line]
    omega
  obtain ⟨fuel, rfl⟩ : ∃ f, fuel = f + 1 := ⟨fuel - 1, by omega⟩
  obtain ⟨tail, rfl⟩ : ∃ tail, rest = '"' :: tail := List.head?_eq_some_iff.mp hrest
  have hkey := Json.scanString_plain hname
    (':' :: ' ' :: '"' :: (value ++ '"' :: ',' :: '\n' :: ' ' :: ' ' :: '"' :: tail))
    (show name.length + 1 ≤ fuel + 1 by omega)
  have hstring := Json.scanString_plain hvalue (',' :: '\n' :: ' ' :: ' ' :: '"' :: tail)
    (show value.length + 1 ≤ fuel by omega)
  have htext : Rotation.line name value ++ '"' :: tail = '"' :: (name ++ '"' ::
      ':' :: ' ' :: '"' :: (value ++ '"' :: ',' :: '\n' :: ' ' :: ' ' :: '"' :: tail)) := by
    simp [Rotation.line]
  have hread : Json.value (fuel + 1) (Json.skip (' ' :: '"' ::
      (value ++ '"' :: ',' :: '\n' :: ' ' :: ' ' :: '"' :: tail))) =
        some (.str (String.ofList value), ',' :: '\n' :: ' ' :: ' ' :: '"' :: tail) := by
    show Json.value (fuel + 1) ('"' :: _) = _
    rw [Json.value, if_pos rfl, hstring]
    rfl
  rw [htext, Json.fields_cons hkey (Json.skip_cons _ rfl) hread (Json.skip_cons _ rfl)]
  rfl

/-- Several lines are as many fields. -/
theorem fields_lines {lines : List (String × List Char)}
    (hlines : ∀ entry ∈ lines, (∀ c ∈ entry.1.toList, isPlain c = true) ∧
      ∀ c ∈ entry.2, isPlain c = true)
    (rest : List Char) (hrest : rest.head? = some '"') {fuel : Nat}
    (hfuel : (lines.flatMap fun entry => Rotation.line entry.1.toList entry.2).length ≤ fuel) :
    Json.fields (fuel + lines.length)
        (lines.flatMap (fun entry => Rotation.line entry.1.toList entry.2) ++ rest) =
      (Json.fields fuel rest).map fun found =>
        (lines.map (fun entry => (entry.1, .str (String.ofList entry.2))) ++ found.1, found.2) := by
  induction lines with
  | nil => cases hfields : Json.fields fuel rest <;> simp [hfields]
  | cons entry lines ih =>
      rw [List.flatMap_cons, List.length_append] at hfuel
      have hhead : (lines.flatMap (fun entry => Rotation.line entry.1.toList entry.2) ++
          rest).head? = some '"' := by
        cases lines with
        | nil => exact hrest
        | cons _ _ => rfl
      obtain ⟨hname, hvalue⟩ := hlines entry List.mem_cons_self
      have htail := ih (fun e he => hlines e (List.mem_cons_of_mem _ he)) (by omega)
      rw [List.flatMap_cons, List.append_assoc, List.length_cons, ← Nat.add_assoc,
        fields_line hname hvalue hhead (by omega), htail]
      cases hfields : Json.fields fuel rest <;> simp

/-- The fields of the document in the file. -/
def Rotation.fields (call : Rotation) (newPass : List Char) : List (String × Json) :=
  [("tenant_id", .str call.tenantId), ("role_name", .str call.roleName),
    ("database", .str call.dbName), ("username", .str call.roleName),
    ("password", .str (String.ofList newPass)),
    ("rotated_at", .str (String.ofList call.outcome.rotatedAt.1)), ("host", .str call.host),
    ("port", .int call.port)]

/-- The last line of the file. -/
theorem fields_port (port : Int) {fuel : Nat} (hfuel : 8 ≤ fuel) (rest : List Char) :
    Json.fields fuel ('"' :: "port".toList ++ '"' :: ':' :: ' ' :: Json.printInt port ++
      '\n' :: '\x7d' :: rest) = some ([("port", .int port)], rest) := by
  obtain ⟨fuel, rfl⟩ : ∃ f, fuel = f + 2 := ⟨fuel - 2, by omega⟩
  have hname : ∀ c ∈ "port".toList, isPlain c = true := List.all_eq_true.mp (by decide)
  have hkey := Json.scanString_plain hname
    (':' :: ' ' :: (Json.printInt port ++ '\n' :: '\x7d' :: rest))
    (show "port".toList.length + 1 ≤ fuel + 1 by simp; omega)
  have hstops : Json.Stops ('\n' :: '\x7d' :: rest) := by
    intro c hc
    have hcd : '\n' = c := Option.some_inj.mp hc
    subst hcd
    decide
  have hvalue := Json.value_printInt port fuel hstops
  have hskip : Json.skip (' ' :: (Json.printInt port ++ '\n' :: '\x7d' :: rest)) =
      Json.printInt port ++ '\n' :: '\x7d' :: rest :=
    Json.skip_print .compact (v := .int port) trivial _
  rw [← hskip] at hvalue
  have htext : '"' :: "port".toList ++ '"' :: ':' :: ' ' :: Json.printInt port ++
      '\n' :: '\x7d' :: rest = '"' :: ("port".toList ++
        '"' :: ':' :: ' ' :: (Json.printInt port ++ '\n' :: '\x7d' :: rest)) := by
    simp
  rw [htext, Json.fields_last hkey (Json.skip_cons _ rfl) hvalue rfl, String.ofList_toList]

/-- **The file is read back** as the document the heredoc was meant to be. -/
theorem loads_text {call : Rotation} (hcall : call.Plain) {newPass : List Char}
    (hpass : call.newPass = some newPass) :
    Json.loads (String.ofList (call.text newPass)) = some (.obj (call.fields newPass)) := by
  have hlong : 8 ≤ ((call.entries newPass).flatMap fun entry =>
      Rotation.line entry.1.toList entry.2).length := by
    simp [Rotation.entries, Rotation.line]
  have hfields := fields_lines (isPlain_entries hcall hpass)
    ('"' :: "port".toList ++ '"' :: ':' :: ' ' :: Json.printInt call.port ++
      '\n' :: '\x7d' :: ['\n']) rfl
    (Nat.le_add_right _ ((Json.printInt call.port).length + 8))
  rw [fields_port call.port (by omega), Option.map_some] at hfields
  have hfuel : (call.text newPass).length =
      ((call.entries newPass).flatMap fun entry =>
        Rotation.line entry.1.toList entry.2).length + ((Json.printInt call.port).length + 8) +
          (call.entries newPass).length := by
    simp [Rotation.text, Rotation.entries]
    omega
  rw [← hfuel] at hfields
  have hvalue : Json.value ((call.text newPass).length + 1) (call.text newPass) =
      some (.obj (call.fields newPass), ['\n']) := by
    generalize (call.text newPass).length = fuel at hfields ⊢
    have hskip : Json.skip (call.text newPass).tail =
        (call.entries newPass).flatMap (fun entry => Rotation.line entry.1.toList entry.2) ++
          ('"' :: "port".toList ++ '"' :: ':' :: ' ' :: Json.printInt call.port ++
            '\n' :: '\x7d' :: ['\n']) := rfl
    have htext : call.text newPass = '\x7b' :: (call.text newPass).tail := rfl
    rw [htext, Json.value, if_neg (by decide), if_neg (by decide), if_pos rfl, hskip, hfields,
      if_neg (by simp [Rotation.entries, Rotation.line])]
    have hnodup : (["tenant_id", "role_name", "database", "username", "password", "rotated_at",
        "host", "port"] : List String).Nodup := by decide
    have hpairs : (call.entries newPass).map
        (fun entry => (entry.1, Json.str (String.ofList entry.2))) ++ [("port", .int call.port)] =
          call.fields newPass := by
      simp [Rotation.fields, Rotation.entries]
    have hkeys : ((call.fields newPass).map Prod.fst).Nodup := hnodup
    rw [Option.map_some, hpairs, Dict.ofPairs_of_nodup hkeys]
  have hskip : Json.skip (call.text newPass) = call.text newPass := rfl
  rw [Json.loads, String.toList_ofList, String.length_ofList, hskip, hvalue]
  rfl

/-- A binding is served what its file says. -/
theorem effectiveConnectionString_of_file {binding : TenantDatabaseConfig}
    (hrotated : binding.credentialMode = .rotated) (credsDir : String) {files : Directory}
    {call : Rotation} (hcall : call.Plain) {newPass : List Char} (hpass : call.newPass = some newPass)
    (hfile : files (credsFile binding.orgId binding.roleName) =
      some (String.ofList (call.text newPass))) :
    binding.effectiveConnectionString credsDir files = .ok (call.connectionString newPass) := by
  have hload : RotatedCredentialLoader.loadFile files binding.orgId binding.roleName =
      .ok (RotatedCredentials.ofJson (.obj (call.fields newPass))) := by
    rw [RotatedCredentialLoader.loadFile, hfile]
    simp only [loads_text hcall hpass]
  obtain ⟨loader, hcreds⟩ : ∃ loader, (getCredentialLoader credsDir).getCredentials files
      binding.orgId binding.roleName = .ok (⟨.str call.tenantId, .str call.roleName,
        .str call.dbName, .str call.roleName, .str (String.ofList newPass),
        .str (String.ofList call.outcome.rotatedAt.1), .str call.host, .int call.port⟩, loader) := by
    rw [RotatedCredentialLoader.getCredentials, hload]
    exact ⟨_, rfl⟩
  rw [TenantDatabaseConfig.effectiveConnectionString, hrotated, hcreds]
  rfl

/-- Without a file there is nothing to serve. -/
theorem effectiveConnectionString_of_none {binding : TenantDatabaseConfig}
    (hrotated : binding.credentialMode = .rotated) (credsDir : String) {files : Directory}
    (hfile : files (credsFile binding.orgId binding.roleName) = none) (url : String) :
    binding.effectiveConnectionString credsDir files ≠ .ok url := by
  have hload : RotatedCredentialLoader.loadFile files binding.orgId binding.roleName =
      .ok none := by
    rw [RotatedCredentialLoader.loadFile, hfile]
  obtain ⟨e, hcreds⟩ : ∃ e, (getCredentialLoader credsDir).getCredentials files
      binding.orgId binding.roleName = .error e := by
    rw [RotatedCredentialLoader.getCredentials, hload]
    exact ⟨_, rfl⟩
  rw [TenantDatabaseConfig.effectiveConnectionString, hrotated, hcreds]
  intro h
  contradiction

/-! ## Whose credentials are served -/

/-- A binding is served the credentials last rotated for its own tenant, role,
host and database, and none before there are any. -/
def UsesLastRotation (credsDir : String) (run : List Rotation) (binding : TenantDatabaseConfig) :
    Prop :=
  match lastRotation binding run with
  | some call => binding.effectiveConnectionString credsDir (filesAfter (fun _ => none) run) =
      .ok (call.connectionString (call.newPass.getD []))
  | none => ∀ url,
      binding.effectiveConnectionString credsDir (filesAfter (fun _ => none) run) ≠ .ok url

/-- A rotation for another binding with the same file is served. -/
theorem not_usesLastRotation_of_shared (credsDir : String)
    {binding binding' : TenantDatabaseConfig} (hmode : binding.credentialMode = .rotated)
    (hplain : Plain binding'.orgId binding'.roleName binding'.dbName binding'.host)
    (hfile : credsFile binding.orgId binding.roleName = credsFile binding'.orgId binding'.roleName)
    (htarget : binding.target ≠ binding'.target) :
    ¬ UsesLastRotation credsDir [Rotation.ofBinding binding' smooth] binding := by
  let call := Rotation.ofBinding binding' smooth
  have hnone : lastRotation binding [call] = none := by
    rw [lastRotation, LastWrite.last_eq_none_iff]
    intro c hc
    rw [List.mem_singleton.mp hc]
    have hne : binding'.target ≠ binding.target := Ne.symm htarget
    simpa [call, Rotation.target, Rotation.ofBinding, TenantDatabaseConfig.target] using
      fun _ => hne
  intro hserved
  rw [UsesLastRotation, hnone] at hserved
  have hcall : call.Plain := hplain
  obtain ⟨newPass, hpass⟩ : ∃ newPass, call.newPass = some newPass := ⟨_, rfl⟩
  have hstored : filesAfter (fun _ => none) [call] (credsFile binding.orgId binding.roleName) =
      some (String.ofList (call.text newPass)) := by
    rw [hfile]
    exact rotateTenant_file _ hpass rfl
  exact hserved _ (effectiveConnectionString_of_file hmode credsDir hcall hpass hstored)

/-- Where no file is shared, each binding is served its own. -/
theorem usesLastRotation_of_separate (credsDir : String) {bindings : List TenantDatabaseConfig}
    (hplain : ∀ binding ∈ bindings, binding.credentialMode = .rotated →
      Plain binding.orgId binding.roleName binding.dbName binding.host)
    (hseparate : FileNamesSeparate bindings) {run : List Rotation} (hrun : IsRun bindings run)
    (hsucceeds : ∀ call ∈ run, call.Succeeds) {binding : TenantDatabaseConfig}
    (hbinding : binding ∈ bindings) (hmode : binding.credentialMode = .rotated) :
    UsesLastRotation credsDir run binding := by
  have hfile := filesAfter_of_separate hseparate hrun hsucceeds hbinding hmode
  cases hlast : lastRotation binding run with
  | none =>
      rw [hlast] at hfile
      rw [UsesLastRotation, hlast]
      exact effectiveConnectionString_of_none hmode credsDir hfile
  | some call =>
      rw [hlast] at hfile
      rw [UsesLastRotation, hlast]
      obtain ⟨hmem, hcall⟩ := LastWrite.last_eq_some hlast
      obtain ⟨b, hb, hmode', outcome, hof⟩ := hrun call hmem
      have hcallPlain : call.Plain := hof ▸ hplain b hb hmode'
      cases hpass : call.newPass with
      | none => simp [Rotation.rotated, hpass] at hcall
      | some newPass =>
          rw [Option.map_some, hpass] at hfile
          show _ = Except.ok (call.connectionString (call.newPass.getD []))
          rw [hpass]
          exact effectiveConnectionString_of_file hmode credsDir hcallPlain hpass hfile

/-- **Rotated credentials belong to their binding**, in every run in which the
rotations succeed, exactly when no two bindings share a file. -/
theorem usesLastRotation_iff (credsDir : String) (bindings : List TenantDatabaseConfig)
    (hplain : ∀ binding ∈ bindings, binding.credentialMode = .rotated →
      Plain binding.orgId binding.roleName binding.dbName binding.host) :
    (∀ run, IsRun bindings run → (∀ call ∈ run, call.Succeeds) →
      ∀ binding ∈ bindings, binding.credentialMode = .rotated →
        UsesLastRotation credsDir run binding) ↔ FileNamesSeparate bindings := by
  constructor
  · intro huses binding hbinding hmode binding' hbinding' hmode' hfile
    by_contra htarget
    -- the other binding is rotated, and this one is read
    have hserved := huses [Rotation.ofBinding binding' smooth] ?_ ?_ binding hbinding hmode
    · exact not_usesLastRotation_of_shared credsDir hmode (hplain binding' hbinding' hmode')
        hfile htarget hserved
    · intro call hcall
      exact ⟨binding', hbinding', hmode', smooth, List.mem_singleton.mp hcall⟩
    · intro call hcall
      rw [List.mem_singleton.mp hcall]
      exact fun _ => ⟨rfl, rfl⟩
  · intro hseparate run hrun hsucceeds binding hbinding hmode
    exact usesLastRotation_of_separate credsDir hplain hseparate hrun hsucceeds hbinding hmode

end

/-- The analytics database of a tenant. -/
def analytics (tenantId databaseId dbName : String) : TenantDatabaseConfig :=
  { orgId := tenantId, databaseId := databaseId, credentialMode := .rotated,
    roleName := "analytics", host := "postgres", dbName := dbName }

/-- Two tenants with one database each share no file. -/
theorem usesLastRotation_two_tenants :
    letI := Json.whole
    letI := Json.wholeFloat
    let bindings := [analytics "tenant-a" "default" "db_a", analytics "tenant-b" "default" "db_b"]
    ∀ run, IsRun bindings run → (∀ call ∈ run, call.Succeeds) →
      ∀ binding ∈ bindings, binding.credentialMode = .rotated →
        UsesLastRotation "/creds" run binding :=
  (@usesLastRotation_iff Json.whole Json.wholeFloat "/creds"
    [analytics "tenant-a" "default" "db_a", analytics "tenant-b" "default" "db_b"] (by
      intro binding hbinding _
      simp only [List.mem_cons, List.not_mem_nil, or_false] at hbinding
      obtain h | h := hbinding <;> subst h
      · exact .of_all (by decide) (by decide)
      · exact .of_all (by decide) (by decide))).mpr (by decide)

/-- Two databases of one tenant share a file: after both are rotated, the first
is served the second. -/
theorem not_usesLastRotation_shared :
    letI := Json.whole
    letI := Json.wholeFloat
    let hr := analytics "tenant-a" "hr" "hr"
    let sales := analytics "tenant-a" "sales" "sales"
    IsRun [hr, sales] [.ofBinding hr smooth, .ofBinding sales smooth] ∧
      ¬ UsesLastRotation "/creds" [.ofBinding hr smooth, .ofBinding sales smooth] hr := by
  let _ := Json.whole
  let _ := Json.wholeFloat
  let hr := analytics "tenant-a" "hr" "hr"
  let sales := analytics "tenant-a" "sales" "sales"
  let run : List Rotation := [.ofBinding hr smooth, .ofBinding sales smooth]
  refine ⟨?_, ?_⟩
  · intro call hcall
    simp only [List.mem_cons, List.not_mem_nil, or_false] at hcall
    obtain h | h := hcall
    · exact ⟨hr, List.mem_cons_self, rfl, smooth, h⟩
    · exact ⟨sales, List.mem_cons_of_mem _ List.mem_cons_self, rfl, smooth, h⟩
  · have hplain : (Rotation.ofBinding sales smooth).Plain := .of_all (by decide) (by decide)
    obtain ⟨newPass, hpass⟩ : ∃ newPass, (Rotation.ofBinding sales smooth).newPass =
        some newPass := ⟨_, rfl⟩
    have hname : credsFile hr.orgId hr.roleName = (Rotation.ofBinding sales smooth).file := rfl
    have hfile : filesAfter (fun _ => none) run (credsFile hr.orgId hr.roleName) =
        some (String.ofList ((Rotation.ofBinding sales smooth).text newPass)) := by
      rw [hname]
      exact rotateTenant_file _ hpass rfl
    have hmode : hr.credentialMode = .rotated := rfl
    have hserved := effectiveConnectionString_of_file hmode "/creds" hplain hpass hfile
    have hlast : lastRotation hr run = some (.ofBinding hr smooth) := by
      rw [lastRotation, LastWrite.last]
      rfl
    intro huses
    rw [UsesLastRotation, hlast] at huses
    have hsame := Except.ok.inj (hserved.symm.trans huses)
    rw [Rotation.newPass_ofBinding hr sales, hpass, Option.getD_some] at hsame
    have hdb : (Rotation.ofBinding sales smooth).dbName = (Rotation.ofBinding hr smooth).dbName :=
      Rotation.dbName_eq newPass rfl rfl rfl hsame
    exact absurd hdb (by decide)

end DbGateway.Tenant
