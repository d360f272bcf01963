import DbGateway.Gateway.Database
import DbGateway.Gateway.Isolation
import DbGateway.Policy.Tenancy

/-!
# DbGateway.Gateway.Tenancy

One organisation served alone.

Everything a request is answered by is kept by organisation: its quota, the bindings it is
resolved against, the policies that decide about it.  So the requests of one organisation
could have been served by a gateway that has the bindings and the policies of no other, and
no other's requests (`tenant_alone`).
-/

namespace DbGateway.Gateway

open Cooperative Tenant

/-- The policy engine of a gateway, with the policies it decides by. -/
inductive Engine where
  | inProcess (evaluator : PolicyEvaluator)
  | sidecar (encoder : Encoder) (policies : Json)

section

variable [Python] [Rego.Opa]

namespace Engine

/-- `self._policy_evaluator.evaluate` -/
def evaluate (self : Engine) (principal : Principal) (databaseId : String)
    (tables : List String) (referencedColumns : Finset String) :
    Except OpaReply.OpaError PolicyDecision :=
  match self with
  | .inProcess evaluator => .ok (evaluator.evaluate principal databaseId tables referencedColumns)
  | .sidecar encoder policies =>
      (Sidecar.client encoder policies).evaluate principal databaseId tables referencedColumns

omit [Python] [Rego.Opa] in
/-- The engine with the policies that concern an organisation. -/
def own (orgId : String) : Engine → Engine
  | .inProcess evaluator =>
      .inProcess { evaluator with policies := PolicyEvaluator.own orgId evaluator.policies }
  | .sidecar encoder policies => .sidecar encoder (.arr (Rego.own orgId policies))

/-- An organisation is decided about by the policies that concern it. -/
theorem evaluate_own (self : Engine) (principal : Principal) (databaseId : String)
    (tables : List String) (refs : Finset String) :
    (self.own principal.orgId).evaluate principal databaseId tables refs =
      self.evaluate principal databaseId tables refs := by
  cases self with
  | inProcess evaluator =>
      refine congrArg Except.ok (PolicyEvaluator.evaluate_congr ?_ ?_ databaseId tables refs)
      · rfl
      · show List.filter _ (List.filter _ _) = List.filter _ _
        rw [List.filter_filter]
        simp only [Bool.and_self]
  | sidecar encoder policies =>
      refine Sidecar.evaluate_client_congr encoder ?_ databaseId tables refs
      show List.filter _ (List.filter _ _) = List.filter _ _
      rw [List.filter_filter]
      simp only [Bool.and_self]

end Engine

/-- The resolutions and decisions on record are those of the bindings and the engine. -/
structure GovernedBy (bindings : List Tenant.TenantDatabaseConfig) (engine : Engine)
    (log : List Event) : Prop where
  resolved : ∀ principal databaseId binding service,
    Event.resolve principal databaseId (.ok (binding, service)) ∈ log →
      ∃ found, (TenantDatabaseResolver.ofBindings bindings).resolve (some principal)
          (some databaseId) = .ok found ∧
        binding = ⟨found.orgId, found.databaseId⟩
  evaluated : ∀ principal databaseId tables columns decision,
    Event.evaluate principal databaseId tables columns (.ok decision) ∈ log →
      engine.evaluate principal databaseId tables columns = .ok decision

variable {bindings : List Tenant.TenantDatabaseConfig} {engine : Engine} {config : Config}
  {quotas : Quotas} {S : System Quotas Task}

/-- A request answered by a configuration is answered by its organisation's part of it. -/
theorem GovernedBy.own {t : Task} {orgId : String} (h : GovernedBy bindings engine t.log)
    (hmine : t.ofOrg orgId = true) (haddresses : ∀ e ∈ t.log, e.Addresses t.request) :
    GovernedBy (TenantDatabaseResolver.own orgId bindings) (engine.own orgId) t.log := by
  have horg : ∀ {principal : Principal}, t.request.principal = some principal →
      principal.orgId = orgId := by
    intro principal hprincipal
    simp only [Task.ofOrg, hprincipal] at hmine
    exact of_decide_eq_true hmine
  constructor
  · intro principal databaseId binding service hresolve
    obtain ⟨found, hfound, hbinding⟩ := h.resolved _ _ _ _ hresolve
    refine ⟨found, ?_, hbinding⟩
    rw [← horg (haddresses _ hresolve).1, ← TenantDatabaseResolver.resolve_own, hfound]
  · intro principal databaseId tables columns decision hevaluate
    rw [← horg (haddresses _ hevaluate).1, Engine.evaluate_own]
    exact h.evaluated _ _ _ _ _ hevaluate

/-- **One organisation alone**: whatever a gateway serves to the requests of an organisation,
with whatever bindings, policies and requests of others, a gateway could have served that has
only the bindings and the policies that concern the organisation, and only its requests: they
come to where they are with the same calls made and the same results. -/
theorem tenant_alone (h : Reachable config quotas S)
    (hgoverned : ∀ t ∈ S.tasks, GovernedBy bindings engine t.log) (orgId : String) :
    ∃ quotas₁, Reachable config quotas ⟨quotas₁, S.tasks.filter (Task.ofOrg orgId)⟩ ∧
      ∀ t ∈ S.tasks.filter (Task.ofOrg orgId),
        GovernedBy (TenantDatabaseResolver.own orgId bindings) (engine.own orgId) t.log := by
  obtain ⟨quotas₁, hreached, -⟩ :=
    Cooperative.Reachable.project (projection config orgId) (fun _ => rfl) h
  refine ⟨quotas₁, hreached, fun t ht => ?_⟩
  obtain ⟨hmem, hmine⟩ := List.mem_filter.mp ht
  exact (hgoverned t hmem).own hmine (addresses_rule.forall_call h t hmem)

end

/-- The binding of the other organisation. -/
def otherBinding : Tenant.TenantDatabaseConfig where
  orgId := "tenant-b"
  databaseId := "db-b"
  connectionString := "postgresql+asyncpg://db-b/music"

/-- Everyone may read `album`; the other organisation may read nothing. -/
def albumEngine : Engine :=
  .inProcess (.ofPolicies
    [{ id := "q", effect := "deny", orgId := .str "tenant-b" },
      { id := "p", table := some "album" }])

/-- The one policy that opens the album. -/
def titleDecision : PolicyDecision := ⟨true, "Allowed by policy.", ["p"], [], ∅⟩

/-- The way of the request for the title to the database. -/
def titlePassage : Passage titleRequest :=
  alonePassage rfl ⟨"tenant-a", "db-a"⟩ (show titleDecision.allowed = true from rfl)

/-- The request for the title at the database, and one of the other organisation that waits
for a permit. -/
def titleTasks : List Task :=
  [⟨titleRequest, .running titlePassage.resolved titlePassage.executed, titlePassage.calls ++
      [.executeSqlStatement ⟨"primary-service", .ok "primary"⟩ "SELECT title FROM album" none]⟩,
    ⟨otherRequest, .waiting ⟨⟨"bob", "bob@corp.com", "tenant-b", ∅, []⟩, ⟨"tenant-b", "db-b"⟩,
        ⟨"primary-service", .ok "primary"⟩⟩,
      [.resolve ⟨"bob", "bob@corp.com", "tenant-b", ∅, []⟩ "db-b"
        (.ok (⟨"tenant-b", "db-b"⟩, ⟨"primary-service", .ok "primary"⟩))]⟩]

theorem governedBy_titleTasks :
    letI := Python.ascii
    letI := Rego.Opa.ascii
    ∀ t ∈ titleTasks, GovernedBy [titleBinding, otherBinding] albumEngine t.log := by
  simp only [titleTasks, List.forall_mem_cons, List.not_mem_nil, false_implies, implies_true,
    and_true]
  refine ⟨@GovernedBy.mk Python.ascii Rego.Opa.ascii _ _ _ ?_ ?_,
    @GovernedBy.mk Python.ascii Rego.Opa.ascii _ _ _ ?_ ?_⟩
  · intro principal databaseId binding service hmem
    simp only [Passage.calls, submittedCalls, resolvedCalls, titlePassage, alonePassage,
      List.mem_append, List.mem_cons, List.not_mem_nil, or_false, reduceCtorEq,
      Event.resolve.injEq, Except.ok.injEq, Prod.mk.injEq] at hmem
    obtain ⟨rfl, rfl, rfl, rfl⟩ := hmem
    exact ⟨titleBinding, by decide, rfl⟩
  · intro principal databaseId tables columns decision hmem
    simp only [Passage.calls, submittedCalls, resolvedCalls, titlePassage, alonePassage,
      List.mem_append, List.mem_cons, List.not_mem_nil, or_false, false_or, reduceCtorEq,
      Event.evaluate.injEq, Except.ok.injEq] at hmem
    obtain ⟨rfl, rfl, rfl, rfl, rfl⟩ := hmem
    rfl
  · intro principal databaseId binding service hmem
    simp only [List.mem_cons, List.not_mem_nil, or_false, Event.resolve.injEq, Except.ok.injEq,
      Prod.mk.injEq] at hmem
    obtain ⟨rfl, rfl, rfl, rfl⟩ := hmem
    exact ⟨otherBinding, by decide, rfl⟩
  · intro principal databaseId tables columns decision hmem
    simp at hmem

/-- The title would have been read with its own binding and the one policy that is bound to
nobody. -/
theorem tenant_alone_title :
    letI := Python.ascii
    letI := Rego.Opa.ascii
    ∃ (t : Task) (quotas₁ : Quotas), (∃ r e, t.stage = .running r e) ∧
      Reachable ⟨5, 10, 10000⟩ (fun _ => none) ⟨quotas₁, [t]⟩ ∧
      GovernedBy [titleBinding]
        (.inProcess (.ofPolicies [{ id := "p", table := some "album" }])) t.log := by
  have harrive : Reachable ⟨5, 10, 10000⟩ (fun _ => none)
      ⟨fun _ => none, [⟨titleRequest, .start, []⟩]⟩ :=
    .tail .refl (.arrive ⟨rfl, rfl⟩)
  have hboth := harrive.tail (.arrive (t := ⟨otherRequest, .start, []⟩) ⟨rfl, rfl⟩)
  have hbegin := hboth.tail (.run [] [_] ⟨.begin allReturn, rfl⟩)
  have hother := hbegin.tail (.run [_] [] ⟨.begin otherReturn, rfl⟩)
  obtain ⟨quotas, hrunning⟩ :
      ∃ quotas, Reachable ⟨5, 10, 10000⟩ (fun _ => none) ⟨quotas, titleTasks⟩ :=
    ⟨_, hother.tail (.run [] [_] ⟨.acquired allReturn, rfl⟩)⟩
  obtain ⟨quotas₁, hreached, halone⟩ := @tenant_alone Python.ascii Rego.Opa.ascii
    [titleBinding, otherBinding] albumEngine _ _ _ hrunning governedBy_titleTasks "tenant-a"
  exact ⟨_, quotas₁, ⟨_, _, rfl⟩, hreached, halone _ List.mem_cons_self⟩

end DbGateway.Gateway
