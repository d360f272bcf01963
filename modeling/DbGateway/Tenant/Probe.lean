import DbGateway.Dict
import DbGateway.Tenant.Credentials

/-!
# DbGateway.Tenant.Probe

`probe/run.py`: the connection strings an operator's probe opens.

The probe reads the fields of the bindings, and does not ask them for their
effective connection string.  So it opens what a static binding serves, but not
what is made from rotated credentials (`covers_iff`).
-/

namespace DbGateway.Tenant

open Json (PythonFloat)

/-! ## Targets -/

/-- `targets.setdefault(key, value)` -/
def setDefault (targets : Dict String) (key value : String) : Dict String :=
  if (targets.get? key).isSome then targets else targets.set key value

/-- The body of the loop of `_effective_targets`. -/
def addTargets (targets : Dict String) (config : TenantDatabaseConfig) : Dict String :=
  let label := config.orgId ++ "/" ++ config.databaseId
  let targets := setDefault targets config.connectionString label
  match config.replicaConnectionString with
  | some replica => if replica ≠ "" then targets.set replica (label ++ " (replica)") else targets
  | none => targets

/-- `_effective_targets` -/
def effectiveTargets (configs : List TenantDatabaseConfig) : Dict String :=
  configs.foldl addTargets []

/-- `ProbeResult` -/
structure ProbeResult where
  target : String
  ok : Bool
  detail : String := ""

/-- `probe_all`, for a `probe_one`. -/
def probeAll (probeOne : String → ProbeResult) (configs : List TenantDatabaseConfig) :
    List ProbeResult :=
  (effectiveTargets configs).map fun target => probeOne target.1

/-- `load_and_probe`, once the resolver is loaded. -/
def loadAndProbe (probeOne : String → ProbeResult) (resolver : TenantDatabaseResolver) :
    List ProbeResult :=
  probeAll probeOne resolver.bindings.values

/-- One of the connection strings written in a binding. -/
def TenantDatabaseConfig.Spells (config : TenantDatabaseConfig) (target : String) : Prop :=
  config.connectionString = target ∨
    config.replicaConnectionString = some target ∧ target ≠ ""

theorem mem_keys_setDefault {targets : Dict String} {key value target : String} :
    target ∈ (setDefault targets key value).map Prod.fst ↔
      target = key ∨ target ∈ targets.map Prod.fst := by
  unfold setDefault
  split
  case isTrue hsome =>
    have hkey : key ∈ targets.map Prod.fst := by
      by_contra hmem
      rw [Dict.get?_eq_none_iff.mpr hmem] at hsome
      contradiction
    exact ⟨.inr, fun h => h.elim (fun htarget => htarget ▸ hkey) id⟩
  case isFalse => exact Dict.mem_keys_set

/-- A binding adds what is written in it. -/
theorem mem_keys_addTargets {targets : Dict String} {config : TenantDatabaseConfig}
    {target : String} :
    target ∈ (addTargets targets config).map Prod.fst ↔
      config.Spells target ∨ target ∈ targets.map Prod.fst := by
  unfold addTargets TenantDatabaseConfig.Spells
  cases config.replicaConnectionString with
  | none => simp [mem_keys_setDefault, eq_comm]
  | some replica =>
      by_cases hreplica : replica = ""
      · subst hreplica
        simp [mem_keys_setDefault, eq_comm]
      · simp only [hreplica, ne_eq, not_false_eq_true, if_true, Dict.mem_keys_set,
          mem_keys_setDefault, Option.some.injEq]
        grind

/-- The targets are what is written in the bindings. -/
theorem mem_keys_effectiveTargets {configs : List TenantDatabaseConfig} {target : String} :
    target ∈ (effectiveTargets configs).map Prod.fst ↔ ∃ config ∈ configs, config.Spells target := by
  have hfold : ∀ targets : Dict String,
      target ∈ (configs.foldl addTargets targets).map Prod.fst ↔
        target ∈ targets.map Prod.fst ∨ ∃ config ∈ configs, config.Spells target := by
    induction configs with
    | nil => simp
    | cons config configs ih =>
        intro targets
        rw [List.foldl_cons, ih, mem_keys_addTargets, List.exists_mem_cons_iff, or_assoc,
          or_left_comm]
  rw [effectiveTargets, hfold]
  exact or_iff_right List.not_mem_nil

/-! ## Coverage -/

section

variable [Python] [PythonFloat] (credsDir : String) (files : Directory)
  (bindings : List TenantDatabaseConfig)

/-- What the gateway would use for a binding is a target of the probe. -/
def ProbeCovers : Prop :=
  ∀ binding ∈ bindings, ∀ target, binding.effectiveConnectionString credsDir files = .ok target →
    target ∈ (effectiveTargets (TenantDatabaseResolver.ofBindings bindings).bindings.values).map
      Prod.fst

variable {credsDir files bindings}

/-- A probe that covers the bindings and succeeds has opened what each uses. -/
theorem ProbeCovers.ok (hcovers : ProbeCovers credsDir files bindings)
    {probeOne : String → ProbeResult}
    (hok : ∀ result ∈ loadAndProbe probeOne (.ofBindings bindings), result.ok = true)
    {binding : TenantDatabaseConfig} (hbinding : binding ∈ bindings) {target : String}
    (htarget : binding.effectiveConnectionString credsDir files = .ok target) :
    (probeOne target).ok = true := by
  obtain ⟨entry, hentry, rfl⟩ := List.mem_map.mp (hcovers binding hbinding target htarget)
  exact hok _ (List.mem_map_of_mem hentry)

/-- A static binding uses a connection string written in it. -/
theorem spells_of_static {binding : TenantDatabaseConfig} (hmode : binding.credentialMode = .static)
    {target : String} (htarget : binding.effectiveConnectionString credsDir files = .ok target) :
    binding.Spells target := by
  simp only [TenantDatabaseConfig.effectiveConnectionString, hmode] at htarget
  unfold TenantDatabaseConfig.Spells
  cases hreplica : binding.replicaConnectionString with
  | none =>
      rw [hreplica] at htarget
      exact .inl (Except.ok.inj htarget)
  | some replica =>
      simp only [hreplica] at htarget
      split at htarget
      case isTrue huse =>
        rw [Bool.and_eq_true, decide_eq_true_eq] at huse
        have hsame := Except.ok.inj htarget
        rw [← hsame]
        exact .inr ⟨rfl, huse.2⟩
      case isFalse => exact .inl (Except.ok.inj htarget)

/-- **Probe coverage**: the probe opens what the gateway uses exactly when the
connection string of every rotated binding is also written in some binding. -/
theorem probeCovers_iff :
    ProbeCovers credsDir files bindings ↔
      ∀ binding ∈ bindings, binding.credentialMode = .rotated →
        ∀ target, binding.effectiveConnectionString credsDir files = .ok target →
          ∃ other ∈ bindings, other.Spells target := by
  simp only [ProbeCovers, mem_keys_effectiveTargets, TenantDatabaseResolver.ofBindings,
    Multimap.mem_values_ofList]
  constructor
  · intro hcovers binding hbinding _ target htarget
    exact hcovers binding hbinding target htarget
  · intro hrotated binding hbinding target htarget
    cases hmode : binding.credentialMode with
    | static => exact ⟨binding, hbinding, spells_of_static hmode htarget⟩
    | rotated => exact hrotated binding hbinding hmode target htarget

omit [Python] [PythonFloat] in
theorem connectionString_ne_empty (call : Rotation) (newPass : List Char) :
    call.connectionString newPass ≠ "" := by
  unfold Rotation.connectionString
  simp only [ne_eq, String.append_eq_empty_iff, String.reduceEq, false_and, not_false_eq_true]

/-- After its rotation, a binding without connection strings of its own is served
what no probe of it opens. -/
theorem not_probeCovers_of_rotation {binding : TenantDatabaseConfig}
    (hmode : binding.credentialMode = .rotated) (hconnection : binding.connectionString = "")
    (hreplica : binding.replicaConnectionString = none) {call : Rotation} (hcall : call.Plain)
    {newPass : List Char} (hpass : call.newPass = some newPass)
    (hwritten : call.outcome.written = true)
    (hfile : credsFile binding.orgId binding.roleName = call.file) :
    ¬ ProbeCovers credsDir (rotateTenant files call).2 [binding] := by
  have hstored := rotateTenant_file files hpass hwritten
  rw [← hfile] at hstored
  have hserved := effectiveConnectionString_of_file hmode credsDir hcall hpass hstored
  intro hcovers
  have hmem := hcovers binding List.mem_cons_self _ hserved
  rw [mem_keys_effectiveTargets] at hmem
  obtain ⟨other, hother, hspells⟩ := hmem
  rw [TenantDatabaseResolver.ofBindings, Multimap.mem_values_ofList, List.mem_singleton] at hother
  rw [TenantDatabaseConfig.Spells, hother, hconnection, hreplica] at hspells
  exact hspells.elim (fun hempty => connectionString_ne_empty _ _ hempty.symm)
    fun hnone => absurd hnone.1.symm (Option.some_ne_none _)

end

/-- The connection string of a rotated binding is no target. -/
theorem not_probeCovers_rotated :
    letI := Json.whole
    letI := Json.wholeFloat
    ¬ ∀ (credsDir : String) (files : Directory) (bindings : List TenantDatabaseConfig),
      ProbeCovers credsDir files bindings := by
  let _ := Json.whole
  let _ := Json.wholeFloat
  let call := Rotation.ofBinding (analytics "tenant-a" "default" "db_a") smooth
  obtain ⟨newPass, hpass⟩ : ∃ newPass, call.newPass = some newPass := ⟨_, rfl⟩
  have hcall : call.Plain := .of_all (by decide) (by decide)
  have hwritten : call.outcome.written = true := rfl
  have hmode : (analytics "tenant-a" "default" "db_a").credentialMode = .rotated := rfl
  intro h
  exact not_probeCovers_of_rotation hmode rfl rfl hcall hpass hwritten rfl
    (h "/creds" (rotateTenant (fun _ => none) call).2 _)

end DbGateway.Tenant
