import DbGateway.Fallible
import DbGateway.Json.Roundtrip
import DbGateway.Policy.Mirror
import DbGateway.Policy.OpaReply
import DbGateway.Startup.Secrets

/-!
# DbGateway.Startup.Evaluator

The evaluator a process decides by: OPA where it is switched on and has an
address, and else the in-process evaluator over the policies of the environment,
which allows everything when there are none.

A guarded process never starts to allow everything, whatever else is configured
(`started_closed`).
-/

namespace DbGateway.Startup

open Fallible (bind_eq_ok_iff pure_eq_ok_iff)
open Host (isTrue)
open Json (PythonFloat)
open OpaReply (OpaError Shaped allowed_iff_shaped)
open PolicyEvaluator (Closed Granted evaluate_allowed_iff lower_mem_permitted_iff)

/-- `OpaConfig`, without its constant timeout -/
structure OpaConfig where
  url : String
  enabled : Bool
  mtlsEnabled : Bool
  mtlsCertPath : String := ""
  mtlsKeyPath : String := ""
  mtlsCaPath : String := ""
  mtlsVerify : Bool := true

section

variable [Python]

/-- `os.getenv(name, "").strip()`, or the secret -/
def Host.settingOrSecret (self : Host) (name : String) : Except StartupError String :=
  if strip (self.getenvOr name "") ≠ "" then .ok (strip (self.getenvOr name ""))
  else self.readSecret name

/-- `os.getenv(name) or read_secret(name, required=False)` -/
def Host.pathOrSecret (self : Host) (name : String) : Except StartupError String :=
  if self.getenvOr name "" ≠ "" then .ok (self.getenvOr name "") else self.readSecret name

/-- `raw_enabled`; what a secret says is not brought to lower case. -/
def Host.rawEnabled (self : Host) : Except StartupError String :=
  if self.setting "OPA_ENABLED" ≠ "" then .ok (self.setting "OPA_ENABLED")
  else self.readSecret "OPA_ENABLED"

/-- `raw_enabled in ("false", "0", "no", "off")` -/
def isOff (rawEnabled : String) : Bool := ["false", "0", "no", "off"].contains rawEnabled

/-- `OpaConfig.from_environment` -/
def OpaConfig.fromEnvironment (host : Host) : Except StartupError OpaConfig := do
  let rawUrl ← host.settingOrSecret "OPA_URL"
  let rawEnabled ← host.rawEnabled
  let mtlsEnabled := isTrue (host.setting "OPA_MTLS_ENABLED")
  let mtlsCertPath ← host.pathOrSecret "OPA_MTLS_CERT_PATH"
  let mtlsKeyPath ← host.pathOrSecret "OPA_MTLS_KEY_PATH"
  let mtlsCaPath ← host.pathOrSecret "OPA_MTLS_CA_PATH"
  if rawUrl = "" then
    if host.isEnvironmentProduction && !isOff rawEnabled && !host.isCi then
      .error (.runtimeError ("OPA_URL is required when ENVIRONMENT=production. Refusing to " ++
        "fall back to the deprecated in-process policy evaluator, which " ++
        "cannot enforce RBAC1 hierarchy or separation-of-duties. Set " ++
        "OPA_URL (e.g. http://opa:8181) with OPA_ENABLED=true, or set " ++
        "OPA_ENABLED=false explicitly to opt out."))
    else .ok { url := "", enabled := false, mtlsEnabled }
  else
    .ok
      { url := String.ofList (rawUrl.toList.rdropWhile (· = '/'))
        enabled := isTrue rawEnabled
        mtlsEnabled, mtlsCertPath, mtlsKeyPath, mtlsCaPath
        mtlsVerify := !(["false", "0", "no"].contains (host.setting "OPA_MTLS_VERIFY")) }

/-- `OpaPolicyEvaluator(config)`; `post` is what OPA answers with a configuration. -/
def OpaClient.init (post : OpaConfig → Rego.Input → Except OpaError Json) (config : OpaConfig) :
    OpaClient where
  enabled := config.enabled && config.url ≠ ""
  post := post config

/-- The message of a process without policies. -/
def missingPolicies : String :=
  "Missing required POLICY_POLICIES_JSON environment variable or " ++
    "POLICY_POLICIES_JSON_FILE secret for policy configuration. " ++
    "Preferred: enable OPA (OPA_ENABLED=true) and serve policies via bundle."

variable [PythonFloat]

/-- The policies of a document.  `from_environment` catches `TypeError` and
`ValueError`. -/
def loadPolicies (raw : String) : Except StartupError (List Policy) :=
  match Json.loads raw with
  | some (.arr values) =>
      if values.all fun item => item matches .obj _ then
        match values.mapM Policy.fromDict with
        | .ok policies => .ok policies
        | .error .typeError => .error (.runtimeError "Policy configuration is invalid.")
        | .error .attributeError => .error .attributeError
      else .error (.runtimeError "Policy configuration is invalid.")
  | _ => .error (.runtimeError "Policy configuration is invalid.")

/-- The text of the policies: `raw` of `PolicyEvaluator.from_environment`, which
reads the secret again when it has found none. -/
def policyText (host : Host) : Except StartupError String := do
  let raw ← host.readSecret "POLICY_POLICIES_JSON"
  if raw ≠ "" then return raw
  else if host.isEnvironmentProduction && !host.isCi then
    host.requireSecret "POLICY_POLICIES_JSON" missingPolicies
  else host.readSecret "POLICY_POLICIES_JSON"

/-- `PolicyEvaluator.from_environment` -/
def PolicyEvaluator.fromEnvironment (host : Host) : Except StartupError PolicyEvaluator := do
  let raw ← policyText host
  if raw = "" then
    if host.isEnvironmentProduction && !host.isCi then .error (.runtimeError missingPolicies)
    else return { policies := [], enabled := false }
  else
    let policies ← loadPolicies raw
    return .ofPolicies policies

/-- `_policy_evaluator` of `sql_query_controller` -/
def Host.policyEvaluator (self : Host) (post : OpaConfig → Rego.Input → Except OpaError Json) :
    Except StartupError Evaluator := do
  let opaConfig ← OpaConfig.fromEnvironment self
  if opaConfig.enabled && opaConfig.url ≠ "" then
    return .opa (OpaClient.init post opaConfig).evaluator
  else return .inProcess (← PolicyEvaluator.fromEnvironment self)

/-! ## What a process decides by -/

variable {host : Host} {post : OpaConfig → Rego.Input → Except OpaError Json}
  {evaluator : Evaluator}

/-- OPA is switched on and has an address. -/
def Host.AsksOpa (host : Host) : Prop :=
  ∃ config, OpaConfig.fromEnvironment host = .ok config ∧ config.enabled = true ∧ config.url ≠ ""

/-- The policies of a document of the environment. -/
def Host.Provides (host : Host) (policies : List Policy) : Prop :=
  ∃ raw docs, host.readSecret "POLICY_POLICIES_JSON" = .ok raw ∧ raw ≠ "" ∧
    Json.loads raw = some (.arr docs) ∧ docs.mapM Policy.fromDict = .ok policies

theorem loadPolicies_ok {raw : String} {policies : List Policy}
    (h : loadPolicies raw = .ok policies) :
    ∃ docs, Json.loads raw = some (.arr docs) ∧ docs.mapM Policy.fromDict = .ok policies := by
  unfold loadPolicies at h
  split at h
  · next docs hdocs =>
    split at h
    · split at h
      · next loaded hloaded => exact ⟨docs, hdocs, hloaded.trans (congrArg _ (Except.ok.inj h))⟩
      · exact nomatch h
      · exact nomatch h
    · exact nomatch h
  · exact nomatch h

omit [PythonFloat] in
theorem policyText_ok {raw : String} (h : policyText host = .ok raw) :
    host.readSecret "POLICY_POLICIES_JSON" = .ok raw := by
  obtain ⟨found, hfound, h⟩ := bind_eq_ok_iff.mp h
  split at h
  · exact hfound.trans h
  · split at h
    · exact (Host.requireSecret_ok h).1
    · exact h

/-- What the environment makes of the in-process evaluator: it has the policies of
a document, or, in a process that is not guarded, allows everything. -/
theorem PolicyEvaluator.fromEnvironment_ok {self : PolicyEvaluator}
    (h : PolicyEvaluator.fromEnvironment host = .ok self) :
    (∃ policies, self = .ofPolicies policies ∧ host.Provides policies) ∨
      (¬ host.Guarded ∧ self.enabled = false ∧
        host.readSecret "POLICY_POLICIES_JSON" = .ok "") := by
  obtain ⟨raw, hraw, h⟩ := bind_eq_ok_iff.mp h
  have hread := policyText_ok hraw
  by_cases hempty : raw = ""
  · rw [if_pos hempty] at h
    split at h
    · exact nomatch h
    · next hguard =>
      obtain rfl := Except.ok.inj h
      exact .inr ⟨mt host.guarded_iff.mp hguard, rfl, hempty ▸ hread⟩
  · rw [if_neg hempty] at h
    obtain ⟨policies, hpolicies, h⟩ := bind_eq_ok_iff.mp h
    obtain ⟨docs, hdocs, hloaded⟩ := loadPolicies_ok hpolicies
    exact .inl ⟨policies, (pure_eq_ok_iff.mp h).symm, raw, docs, hread, hempty, hdocs, hloaded⟩

/-- What a process that has started decides by. -/
theorem Host.policyEvaluator_ok (h : host.policyEvaluator post = .ok evaluator) :
    (∃ config, OpaConfig.fromEnvironment host = .ok config ∧ config.enabled = true ∧
        config.url ≠ "" ∧ evaluator = .opa (OpaClient.evaluator ⟨true, post config⟩)) ∨
      (¬ host.AsksOpa ∧ ∃ self, PolicyEvaluator.fromEnvironment host = .ok self ∧
        evaluator = .inProcess self) := by
  obtain ⟨config, hconfig, h⟩ := bind_eq_ok_iff.mp h
  split at h
  · next hasks =>
    obtain ⟨henabled, hurl⟩ := Bool.and_eq_true_iff.mp hasks
    refine .inl ⟨config, hconfig, henabled, of_decide_eq_true hurl, ?_⟩
    rw [← pure_eq_ok_iff.mp h, OpaClient.init, hasks]
  · next hasks =>
    obtain ⟨self, hself, h⟩ := bind_eq_ok_iff.mp h
    refine .inr ⟨?_, self, hself, (pure_eq_ok_iff.mp h).symm⟩
    rintro ⟨config', hconfig', henabled, hurl⟩
    obtain rfl := Except.ok.inj (hconfig.symm.trans hconfig')
    exact hasks (by simp [henabled, hurl])

/-- OPA allows a request with a decision that has the shape of one. -/
def AllowedByOpa (host : Host) (post : OpaConfig → Rego.Input → Except OpaError Json)
    (input : Rego.Input) : Prop :=
  ∃ config data result, OpaConfig.fromEnvironment host = .ok config ∧ config.enabled = true ∧
    config.url ≠ "" ∧ post config input = .ok data ∧ data.get? "result" = some result ∧
    Shaped result

/-- A document of the environment opens every table of a request. -/
def AllowedByDocument (host : Host) (principal : Principal) (databaseId : String)
    (tables : List String) : Prop :=
  tables ≠ [] ∧ ∃ policies, host.Provides policies ∧ ∀ table ∈ tables,
    Granted policies principal databaseId (lower table) ∧
      ¬ Closed policies principal databaseId (lower table)

/-- **A guarded process is closed.**  A process that has started allows every
request exactly when it is not guarded, does not ask OPA and has no policies; and
whatever a guarded process allows is allowed by OPA, or by the policies of its
environment. -/
theorem started_closed (h : host.policyEvaluator post = .ok evaluator) :
    ((∀ principal databaseId tables referencedColumns,
        (evaluator.evaluate principal databaseId tables referencedColumns).allowed = true) ↔
      ¬ host.Guarded ∧ ¬ host.AsksOpa ∧ host.readSecret "POLICY_POLICIES_JSON" = .ok "") ∧
    (host.Guarded → ∀ principal databaseId tables referencedColumns,
      (evaluator.evaluate principal databaseId tables referencedColumns).allowed = true →
        AllowedByOpa host post (inputDoc principal databaseId tables referencedColumns) ∨
          AllowedByDocument host principal databaseId tables) := by
  rcases Host.policyEvaluator_ok h with
    ⟨config, hconfig, henabled, hurl, rfl⟩ | ⟨hasks, self, hself, rfl⟩
  · refine ⟨iff_of_false (fun hall => ?_) ?_,
      fun _ principal databaseId tables columns hallowed => ?_⟩
    · obtain ⟨-, htables, -⟩ := allowed_iff_shaped.mp
        (hall ⟨"", "", "", ∅, []⟩ "" [] ∅)
      exact htables rfl
    · exact fun hopen => hopen.2.1 ⟨config, hconfig, henabled, hurl⟩
    · obtain ⟨-, -, data, result, hpost, hresult, hshaped⟩ := allowed_iff_shaped.mp hallowed
      exact .inl ⟨config, data, result, hconfig, henabled, hurl, hpost, hresult, hshaped⟩
  · rcases PolicyEvaluator.fromEnvironment_ok hself with
      ⟨policies, rfl, hprovides⟩ | ⟨hguarded, hopen, hnone⟩
    · refine ⟨iff_of_false (fun hall => ?_) ?_,
      fun _ principal databaseId tables columns hallowed => ?_⟩
      · obtain ⟨hpasses, -⟩ := (evaluate_allowed_iff rfl).mp (hall ⟨"", "", "", ∅, []⟩ "" [] ∅)
        exact hpasses.nonempty rfl
      · obtain ⟨raw, docs, hraw, hne, -⟩ := hprovides
        exact fun hopen => hne (Except.ok.inj (hraw.symm.trans hopen.2.2))
      · obtain ⟨hpasses, -⟩ := (evaluate_allowed_iff rfl).mp hallowed
        exact .inr ⟨hpasses.nonempty, policies, hprovides, fun table htable =>
          lower_mem_permitted_iff.mp (hpasses.permits table htable)⟩
    · refine ⟨iff_of_true (fun principal databaseId tables columns => ?_) ⟨hguarded, hasks, hnone⟩,
        fun hguard => absurd hguard hguarded⟩
      show (self.evaluate principal databaseId tables columns).allowed = true
      rw [PolicyEvaluator.evaluate, hopen]
      rfl

end

section

local instance : Python := Json.whole
local instance : PythonFloat := Json.wholeFloat

/-- A policy document that opens `album`. -/
def albumPolicies : String := "[\x7b\"table\": \"album\"\x7d]"

theorem loadPolicies_album :
    loadPolicies albumPolicies = .ok [{ id := "unnamed", table := some "album" }] := by
  have htext : albumPolicies =
      Json.dumps .default (.arr [.obj [("table", .str "album")]]) := by decide
  have hloads : Json.loads albumPolicies = some (.arr [.obj [("table", .str "album")]]) := by
    rw [htext]
    exact Json.loads_dumps _ (by simp [Json.Proper, Json.ProperItems, Json.ProperFields])
  rw [loadPolicies, hloads]
  rfl

/-- Production, without OPA. -/
def albumHost : Host where
  getenv name := [("OPA_ENABLED", "false"), ("POLICY_POLICIES_JSON", albumPolicies)].lookup name
  open_ _ := .missing

theorem started_closed_album :
    albumHost.Guarded ∧ ∃ evaluator,
      albumHost.policyEvaluator (fun _ _ => .error .http) = .ok evaluator ∧
        ∀ principal databaseId tables referencedColumns,
          (evaluator.evaluate principal databaseId tables referencedColumns).allowed = true →
            AllowedByOpa albumHost (fun _ _ => .error .http)
                (inputDoc principal databaseId tables referencedColumns) ∨
              AllowedByDocument albumHost principal databaseId tables := by
  have hguarded : albumHost.Guarded := by
    constructor <;> decide
  have hopa : OpaConfig.fromEnvironment albumHost =
      .ok { url := "", enabled := false, mtlsEnabled := false } := by
    rfl
  have htext : policyText albumHost = .ok albumPolicies := by rfl
  have hpolicies : PolicyEvaluator.fromEnvironment albumHost =
      .ok (.ofPolicies [{ id := "unnamed", table := some "album" }]) := by
    have hne : albumPolicies ≠ "" := by decide
    refine bind_eq_ok_iff.mpr ⟨albumPolicies, htext, ?_⟩
    rw [if_neg hne]
    exact bind_eq_ok_iff.mpr ⟨_, loadPolicies_album, rfl⟩
  have hstarted : albumHost.policyEvaluator (fun _ _ => .error .http) =
      .ok (.inProcess (.ofPolicies [{ id := "unnamed", table := some "album" }])) := by
    exact bind_eq_ok_iff.mpr ⟨_, hopa, bind_eq_ok_iff.mpr ⟨_, hpolicies, rfl⟩⟩
  exact ⟨hguarded, _, hstarted, (started_closed hstarted).2 hguarded⟩

end

end DbGateway.Startup
