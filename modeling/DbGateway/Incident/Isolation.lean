import DbGateway.Auth
import DbGateway.Dict
import DbGateway.Runs

/-!
# DbGateway.Incident.Isolation

`services/incident_response.py`: the emergency isolation of a tenant, a flag in
Redis that is set, deleted and read (`isTenantIsolated_after_iff`).

`RBACMiddleware` never reads it.  So an isolated tenant is kept out only as
long as nobody of it asks (`isolationEnforced_iff`).
-/

namespace DbGateway.Incident

open Auth

/-! ## The flag -/

/-- `IncidentResponseConfig`, as far as isolation goes. -/
structure IncidentResponseConfig where
  tenantIsolationKey : String := "security:tenant_isolation"

namespace IncidentResponseConfig

/-- `f"{self._config.tenant_isolation_key}:{org_id}"` -/
def isolationKey (self : IncidentResponseConfig) (orgId : String) : String :=
  self.tenantIsolationKey ++ ":" ++ orgId

/-- Emergency isolation of a tenant - blocks all access for the org. -/
def isolateTenant (self : IncidentResponseConfig) (redis : Dict String)
    (orgId reason isolatedBy time : String) : Bool × Dict String :=
  (true, redis.set (self.isolationKey orgId) (reason ++ ":" ++ isolatedBy ++ ":" ++ time))

/-- Restore tenant access after emergency isolation. -/
def restoreTenant (self : IncidentResponseConfig) (redis : Dict String) (orgId : String) :
    Bool × Dict String :=
  ((redis.get? (self.isolationKey orgId)).isSome,
    redis.filter fun kv => kv.1 ≠ self.isolationKey orgId)

/-- Check if a tenant is isolated. -/
def isTenantIsolated (self : IncidentResponseConfig) (redis : Dict String) (orgId : String) :
    Bool :=
  (redis.get? (self.isolationKey orgId)).isSome

variable {config : IncidentResponseConfig} {redis : Dict String} {orgId orgId' : String}

theorem isolationKey_inj : config.isolationKey orgId = config.isolationKey orgId' ↔
    orgId = orgId' := by
  unfold isolationKey
  exact String.append_right_inj _

theorem isTenantIsolated_isolate (reason isolatedBy time : String) :
    config.isTenantIsolated (config.isolateTenant redis orgId reason isolatedBy time).2 orgId' =
      (orgId' = orgId || config.isTenantIsolated redis orgId' : Bool) := by
  simp only [isTenantIsolated, isolateTenant, Dict.get?_set, isolationKey_inj]
  by_cases h : orgId' = orgId
  · simp [h]
  · simp [h]

theorem isTenantIsolated_restore :
    config.isTenantIsolated (config.restoreTenant redis orgId).2 orgId' =
      (orgId' ≠ orgId && config.isTenantIsolated redis orgId' : Bool) := by
  simp only [isTenantIsolated, restoreTenant]
  rw [Dict.get?_filter (fun key => key ≠ config.isolationKey orgId)]
  by_cases h : orgId' = orgId
  · simp [h]
  · simp [h, isolationKey_inj]

end IncidentResponseConfig

/-! ## Runs -/

/-- What happens: a tenant is isolated or restored, or a request comes in. -/
inductive Event where
  | isolate (orgId reason isolatedBy time : String)
  | restore (orgId restoredBy : String)
  | request (scope : Scope)

/-- What an event leaves in Redis. -/
def step (config : IncidentResponseConfig) (redis : Dict String) : Event → Dict String
  | .isolate orgId reason isolatedBy time =>
      (config.isolateTenant redis orgId reason isolatedBy time).2
  | .restore orgId _ => (config.restoreTenant redis orgId).2
  | .request _ => redis

/-- The tenant has been isolated, and not restored since. -/
def Isolated (run : List Event) (orgId : String) : Prop :=
  ∃ before reason isolatedBy time rest,
    run = before ++ .isolate orgId reason isolatedBy time :: rest ∧
      ∀ restoredBy, .restore orgId restoredBy ∉ rest

theorem isolated_concat {run : List Event} {event : Event} {orgId : String} :
    Isolated (run ++ [event]) orgId ↔
      (∃ reason isolatedBy time, event = .isolate orgId reason isolatedBy time) ∨
        Isolated run orgId ∧ ∀ restoredBy, event ≠ .restore orgId restoredBy := by
  constructor
  · intro ⟨before, reason, isolatedBy, time, rest, hrun, hrest⟩
    cases List.eq_nil_or_concat rest with
    | inl hnil =>
        rw [hnil] at hrun
        obtain ⟨-, hevent⟩ := List.append_inj' hrun rfl
        exact .inl ⟨reason, isolatedBy, time, (List.cons.inj hevent).1⟩
    | inr hconcat =>
        obtain ⟨rest', last, rfl⟩ := hconcat
        rw [List.concat_eq_append] at hrun hrest
        rw [← List.cons_append, ← List.append_assoc] at hrun
        obtain ⟨hbefore, hevent⟩ := List.append_inj' hrun rfl
        refine .inr ⟨⟨before, reason, isolatedBy, time, rest', hbefore, fun restoredBy hmem => ?_⟩,
          fun restoredBy hrestore => ?_⟩
        · exact hrest restoredBy (List.mem_append_left _ hmem)
        · rw [(List.cons.inj hevent).1] at hrestore
          exact hrest restoredBy (by simp [hrestore])
  · intro h
    cases h with
    | inl hisolate =>
        obtain ⟨reason, isolatedBy, time, rfl⟩ := hisolate
        exact ⟨run, reason, isolatedBy, time, [], rfl, fun _ => List.not_mem_nil⟩
    | inr hkept =>
        obtain ⟨⟨before, reason, isolatedBy, time, rest, rfl, hrest⟩, hevent⟩ := hkept
        refine ⟨before, reason, isolatedBy, time, rest ++ [event], by simp,
          fun restoredBy hmem => ?_⟩
        cases List.mem_append.mp hmem with
        | inl hold => exact hrest restoredBy hold
        | inr hnew => exact hevent restoredBy (List.mem_singleton.mp hnew).symm

/-- **The flag is set exactly while the tenant is isolated.** -/
theorem isTenantIsolated_after_iff (config : IncidentResponseConfig) (run : List Event)
    (orgId : String) :
    config.isTenantIsolated (Runs.after (step config) [] run) orgId = true ↔
      Isolated run orgId := by
  induction run using List.reverseRecOn with
  | nil =>
      refine iff_of_false Bool.false_ne_true fun ⟨before, _, _, _, rest, hrun, _⟩ => ?_
      simp at hrun
  | append_singleton run event ih =>
      rw [Runs.after_concat, isolated_concat, ← ih]
      cases event with
      | isolate org reason isolatedBy time =>
          rw [step, IncidentResponseConfig.isTenantIsolated_isolate]
          by_cases h : orgId = org
          · simp [h]
          · simp [h, Ne.symm h]
      | restore org restoredBy =>
          rw [step, IncidentResponseConfig.isTenantIsolated_restore]
          by_cases h : orgId = org
          · simp [h]
          · simp [h, Ne.symm h]
      | request scope => simp [step]

/-! ## Enforcement -/

variable [Python]

/-- In no step of the run does the middleware forward a GraphQL request of a
tenant that is isolated. -/
def IsolationEnforced (auth0 : Auth0) (run : List Event) : Prop :=
  Runs.Throughout (fun before event => ∀ scope, event = .request scope → ∀ principal,
    rbacMiddleware auth0 scope = .forwarded (some principal) →
      ¬ Isolated before principal.orgId) run

/-- A provider that knows one token, of `alice` of `tenant-a`. -/
def aliceOnly : Auth0 where
  domain := "tenant.auth0.com"
  audience := "gateway"
  verify token :=
    if token = "t" then
      .claims [("sub", .str "alice"), ("email", .str "alice@corp.com"),
        (tenantIdClaim, .str "tenant-a")]
    else .invalid

/-- The tenant is isolated, and its next request is forwarded. -/
def isolatedThenAsked : List Event :=
  [.isolate "tenant-a" "compromise" "admin" "0",
    .request { path := "/graphql", headers := [("authorization", "Bearer t")] }]

omit [Python] in
theorem not_isolationEnforced_aliceOnly :
    ¬ ∀ (auth0 : Auth0) (run : List Event), @IsolationEnforced Python.ascii auth0 run := by
  let _ := Python.ascii
  intro h
  refine h aliceOnly isolatedThenAsked [.isolate "tenant-a" "compromise" "admin" "0"] _ [] rfl _
    rfl ⟨"alice", "alice@corp.com", "tenant-a", ∅, []⟩ ?_ ?_
  · rfl
  · exact ⟨[], _, _, _, [], rfl, fun _ => List.not_mem_nil⟩

/-- **When isolation is enforced**: exactly in the runs in which, as long as a
tenant's flag is set, no GraphQL request with a valid token of the tenant comes
in. -/
theorem isolationEnforced_iff (auth0 : Auth0) (config : IncidentResponseConfig)
    (run : List Event) :
    IsolationEnforced auth0 run ↔
      Runs.Throughout (fun before event => ∀ scope, event = .request scope → ∀ principal,
        Authenticates auth0 scope principal →
          config.isTenantIsolated (Runs.after (step config) [] before) principal.orgId = false)
        run := by
  simp only [IsolationEnforced, rbacMiddleware_eq_forwarded_iff,
    ← isTenantIsolated_after_iff config, Bool.not_eq_true]

end DbGateway.Incident
