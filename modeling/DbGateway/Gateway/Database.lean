import DbGateway.Gateway.Calls
import DbGateway.Gateway.Quota
import DbGateway.Tenant.Resolver

/-!
# DbGateway.Gateway.Database

The database a request is decided for and the database it runs on.

`execute` resolves `request.database_id`, which the resolver strips, and asks
the evaluator about `request.database_id` as it stands.  The two are the same
database exactly when the identifier has no surrounding whitespace
(`sameDatabase_iff`).
-/

namespace DbGateway.Gateway

open Cooperative Tenant

/-! ## What the calls are about -/

/-- A resolution or an evaluation is for the request's principal and for the
identifier as the request gives it. -/
def Event.Addresses (request : Request) : Event → Prop
  | .resolve principal databaseId _ | .evaluate principal databaseId _ _ _ =>
      request.principal = some principal ∧ databaseId = request.databaseId
  | _ => True

theorem authenticateAndResolve_emits (o : Outcomes) (request : Request) :
    (authenticateAndResolve o request).Emits (Event.Addresses request) := by
  unfold authenticateAndResolve
  cases hprincipal : request.principal with
  | none => exact Run.emits_raise _
  | some principal =>
      dsimp only
      split
      · exact Run.emits_raise _
      · refine (Run.emits_of _).bind fun _ => ?_
        refine Run.Emits.bind ?_ fun _ => Run.emits_pure _
        exact Run.emits_call ⟨hprincipal, rfl⟩

/-- Resolution is for the principal of the request. -/
theorem authenticateAndResolve_principal {o : Outcomes} {request : Request} {log log' : List Event}
    {r : Resolved} (h : authenticateAndResolve o request log = (.ok r, log')) :
    request.principal = some r.principal := by
  unfold authenticateAndResolve at h
  cases hprincipal : request.principal with
  | none => simp [hprincipal] at h
  | some principal =>
      simp only [hprincipal] at h
      by_cases hsql : (request.sql = "" || strip request.sql = "") = true
      · simp [hsql] at h
      · rw [if_neg hsql] at h
        cases hprovider : o.providerInstance with
        | error e => simp [hprovider] at h
        | ok _ =>
            cases hresolve : o.resolve with
            | error e => simp [hprovider, hresolve] at h
            | ok found =>
                simp only [hprovider, hresolve, Run.of_bind_ok, Run.call_bind_ok, Run.pure_apply,
                  Prod.mk.injEq, Except.ok.injEq] at h
                rw [← h.1]

theorem decide_emits (o : Outcomes) (request : Request) (r : Resolved) (s : Submission)
    (answer : Except Exn PolicyDecision) (hprincipal : request.principal = some r.principal) :
    (decide_ o request r s answer).Emits (Event.Addresses request) := by
  unfold decide_
  refine (Run.emits_call ⟨hprincipal, rfl⟩).bind fun decision => ?_
  unfold enforce
  split
  · exact (Run.emits_call trivial).bind fun _ => Run.emits_raise _
  · refine (Run.emits_call trivial).bind fun restricted => ?_
    refine (Run.emits_call trivial).bind fun execution => ?_
    refine (Run.emits_of _).bind fun target => ?_
    refine (Run.emits_call trivial).bind fun touched => ?_
    refine (Run.emits_call trivial).bind fun _ => ?_
    exact (Run.emits_start trivial).bind fun _ => Run.emits_pure _

/-- Every piece of the pipeline asks about the request's own principal and
identifier. -/
theorem addresses_rule :
    CallRule Event.Addresses (fun request r => request.principal = some r.principal) where
  resolve := authenticateAndResolve_emits
  settled _ _ _ _ _ h := authenticateAndResolve_principal h
  rejectQueueFull _ _ _ _ _ := (Run.emits_call trivial).bind fun _ => Run.emits_raise _
  rejectTimeout _ _ _ _ _ := (Run.emits_call trivial).bind fun _ => Run.emits_raise _
  submit _ _ _ := by
    unfold submit
    refine (Run.emits_call trivial).bind fun cleaned => ?_
    refine (Run.emits_call trivial).bind fun tables => ?_
    exact (Run.emits_call trivial).bind fun columns => Run.emits_pure _
  decide_ := decide_emits
  conclude _ _ _ _ := (Run.emits_of _).bind fun _ => Run.emits_call trivial

/-! ## The gateway with a resolver and an evaluator -/

section

variable [Python]

/-- The provider resolves with `resolver`, and the evaluator is `evaluator`. -/
structure Governed (resolver : TenantDatabaseResolver) (evaluator : PolicyEvaluator)
    (log : List Event) : Prop where
  resolved : ∀ principal databaseId binding service,
    Event.resolve principal databaseId (.ok (binding, service)) ∈ log →
      ∃ found, resolver.resolve (some principal) (some databaseId) = .ok found ∧
        binding = ⟨found.orgId, found.databaseId⟩
  evaluated : ∀ principal databaseId tables columns decision,
    Event.evaluate principal databaseId tables columns (.ok decision) ∈ log →
      decision = evaluator.evaluate principal databaseId tables columns

/-- Whatever the policies, and in every interleaving, the decision the request
is governed by is the decision for its principal and for the database it is
bound to. -/
def SameDatabase (bindings : List Tenant.TenantDatabaseConfig) (request : Request) : Prop :=
  ∀ (evaluator : PolicyEvaluator) (config : Config) (quotas : Quotas) (S : System Quotas Task),
    Reachable config quotas S → ∀ t ∈ S.tasks, t.request = request →
      Governed (.ofBindings bindings) evaluator t.log →
      ∀ principal databaseId binding service principal' databaseId' tables columns decision,
        Event.resolve principal databaseId (.ok (binding, service)) ∈ t.log →
        Event.evaluate principal' databaseId' tables columns (.ok decision) ∈ t.log →
        request.principal = some principal' ∧
          decision = evaluator.evaluate principal' binding.databaseId tables columns

/-- An identifier without surrounding whitespace is decided and executed alike. -/
theorem sameDatabase_of_stripped {bindings : List Tenant.TenantDatabaseConfig} {request : Request}
    (hstrip : strip request.databaseId = request.databaseId) : SameDatabase bindings request := by
  intro evaluator config quotas S h t ht hrequest hgoverned principal databaseId binding service
    principal' databaseId' tables columns decision hresolve hevaluate
  subst hrequest
  obtain ⟨-, hid⟩ := addresses_rule.forall_call h t ht _ hresolve
  obtain ⟨hprincipal', hid'⟩ := addresses_rule.forall_call h t ht _ hevaluate
  obtain ⟨found, hfound, rfl⟩ := hgoverned.resolved _ _ _ _ hresolve
  have hbound : found.databaseId = strip databaseId := (TenantDatabaseResolver.resolve_ids hfound).2
  have hdecision := hgoverned.evaluated _ _ _ _ _ hevaluate
  refine ⟨hprincipal', ?_⟩
  show decision = evaluator.evaluate principal' found.databaseId tables columns
  rw [hbound, hid, hstrip, hdecision, hid']

/-! ## Policies that tell the two identifiers apart -/

/-- Everyone may read `album`, except in one database. -/
def denyIn (databaseId : String) : PolicyEvaluator :=
  .ofPolicies
    [{ id := "allow-album", table := some (lower "album") },
      { id := "deny-database", effect := "deny", databaseId := .str databaseId }]

/-- The denied database is denied. -/
theorem denyIn_self (databaseId : String) (principal : Principal) (columns : Finset String) :
    ((denyIn databaseId).evaluate principal databaseId ["album"] columns).allowed = false := by
  simp [denyIn, PolicyEvaluator.evaluate, PolicyEvaluator.applicable, Policy.matches_,
    Policy.boundTo, Json.same]

/-- Every other one is allowed. -/
theorem denyIn_other {databaseId other : String} (hne : databaseId ≠ other)
    (principal : Principal) (columns : Finset String) :
    ((denyIn databaseId).evaluate principal other ["album"] columns).allowed = true := by
  simp [denyIn, PolicyEvaluator.evaluate, PolicyEvaluator.applicable,
    PolicyEvaluator.tablePolicies, PolicyEvaluator.mergeRowScopes, Policy.matches_,
    Policy.boundTo, Json.same, hne, Dict.update]

end

/-! ## A request that runs alone -/

/-- Every call returns, resolution and evaluation as given. -/
def returning (binding : TenantDatabaseConfig) (decision : PolicyDecision) : Outcomes :=
  { allReturn with
    resolve := .ok (binding, ⟨"primary-service", .ok "primary"⟩)
    evaluate := .ok (some decision) }

/-- What such a request calls before the database. -/
def alonePassage {request : Request} {principal : Principal}
    (hprincipal : request.principal = some principal) (binding : TenantDatabaseConfig)
    {decision : PolicyDecision} (hallowed : decision.allowed = true) : Passage request where
  resolved := ⟨principal, binding, ⟨"primary-service", .ok "primary"⟩⟩
  submission := ⟨"SELECT title FROM album", ["album"], {"title"}⟩
  executed := ⟨decision, "SELECT title FROM album", "SELECT title FROM album"⟩
  databaseTarget := "primary"
  touched := ["album"]
  rawSql := none
  authenticated := hprincipal
  allowed := hallowed

/-- A request that is allowed reaches the database. -/
theorem reachable_alone {request : Request} {principal : Principal}
    (hprincipal : request.principal = some principal) (hsql : strip request.sql ≠ "")
    (binding : TenantDatabaseConfig) {decision : PolicyDecision}
    (hallowed : decision.allowed = true) :
    ∃ S, Reachable ⟨5, 10, 10000⟩ (fun _ => none) S ∧ ∃ t ∈ S.tasks, t.request = request ∧
      t.log = (alonePassage hprincipal binding hallowed).calls ++
        [.executeSqlStatement ⟨"primary-service", .ok "primary"⟩ "SELECT title FROM album"
          request.params] := by
  have hne : request.sql ≠ "" := fun hempty => hsql (by rw [hempty]; decide)
  let p := alonePassage hprincipal binding hallowed
  have hresolve : authenticateAndResolve (returning binding decision) request [] =
      (.ok p.resolved, resolvedCalls request p.resolved) := by
    simp [authenticateAndResolve, hprincipal, hne, hsql, returning, allReturn, p, alonePassage,
      resolvedCalls]
  have hroom : ¬ (10 : Int) ≤ (0 : Nat) := by decide
  have hbegin : Task.advance ⟨5, 10, 10000⟩ (fun _ => none) ⟨request, .start, []⟩
      (.begin (returning binding decision)) =
        some (enter ⟨5, 10, 10000⟩ (fun _ => none) p.resolved,
          ⟨request, .waiting p.resolved, resolvedCalls request p.resolved⟩) := by
    simp only [Task.advance, hresolve]
    exact if_neg hroom
  have hsubmit : submit ⟨5, 10, 10000⟩ (returning binding decision) request
      (resolvedCalls request p.resolved) =
        (.ok p.submission, submittedCalls request p.resolved p.submission) := by
    have hclean : cleanAndValidateSql 10000 (.ok "SELECT title FROM album") true =
        .ok "SELECT title FROM album" := by decide
    simp [submit, returning, allReturn, hclean, p, alonePassage, submittedCalls]
  have hdecide : decide_ (returning binding decision) request p.resolved p.submission
      (.ok decision) (submittedCalls request p.resolved p.submission) =
        (.ok p.executed, p.calls ++
          [.executeSqlStatement p.resolved.service p.executed.execution request.params]) := by
    simp [decide_, enforce, hallowed, returning, allReturn, p, alonePassage, Passage.calls]
  have hacquired : Task.advance ⟨5, 10, 10000⟩ (enter ⟨5, 10, 10000⟩ (fun _ => none) p.resolved)
      ⟨request, .waiting p.resolved, resolvedCalls request p.resolved⟩
      (.acquired (returning binding decision)) =
        some (acquire ⟨5, 10, 10000⟩ (enter ⟨5, 10, 10000⟩ (fun _ => none) p.resolved) p.resolved,
          ⟨request, .running p.resolved p.executed, p.calls ++
            [.executeSqlStatement p.resolved.service p.executed.execution request.params]⟩) := by
    simp only [Task.advance, hsubmit]
    have hfree : (getTenantQuota ⟨5, 10, 10000⟩
        (enter ⟨5, 10, 10000⟩ (fun _ => none) p.resolved) p.resolved.key).available ≠ 0 := by
      rw [enter, getTenantQuota_update_self]
      exact Nat.succ_ne_zero 4
    rw [if_neg hfree]
    show some (dispatch _ _ request p.resolved (decide_ _ request p.resolved p.submission
      (.ok decision) _)) = _
    rw [hdecide]
    rfl
  have harrive : Reachable ⟨5, 10, 10000⟩ (fun _ => none)
      ⟨fun _ => none, [⟨request, .start, []⟩]⟩ := .tail .refl (.arrive ⟨rfl, rfl⟩)
  have hwaiting := harrive.tail (.run [] [] ⟨_, hbegin⟩)
  have hrunning := hwaiting.tail (.run [] [] ⟨_, hacquired⟩)
  exact ⟨_, hrunning, _, List.mem_cons_self, rfl, rfl⟩

/-! ## The condition -/

section

variable [Python]

/-- An identifier that resolution strips is decided as another database. -/
theorem not_sameDatabase {bindings : List Tenant.TenantDatabaseConfig} {request : Request}
    {principal : Principal} {found : Tenant.TenantDatabaseConfig}
    (hprincipal : request.principal = some principal) (hsql : strip request.sql ≠ "")
    (hresolve : (TenantDatabaseResolver.ofBindings bindings).resolve (some principal)
      (some request.databaseId) = .ok found)
    (hstrip : strip request.databaseId ≠ request.databaseId) :
    ¬ SameDatabase bindings request := by
  intro hsame
  let evaluator := denyIn (strip request.databaseId)
  let decision := evaluator.evaluate principal request.databaseId ["album"] {"title"}
  have hallowed : decision.allowed = true := denyIn_other hstrip principal {"title"}
  obtain ⟨S, hreachable, t, ht, hrequest, hlog⟩ :=
    reachable_alone hprincipal hsql ⟨found.orgId, found.databaseId⟩ hallowed
  have hgoverned : Governed (.ofBindings bindings) evaluator t.log := by
    rw [hlog]
    constructor
    · intro principal' databaseId binding service hmem
      simp only [Passage.calls, submittedCalls, resolvedCalls, alonePassage, List.mem_append,
        List.mem_cons, List.not_mem_nil, or_false, reduceCtorEq, Event.resolve.injEq,
        Except.ok.injEq, Prod.mk.injEq] at hmem
      obtain ⟨rfl, rfl, rfl, rfl⟩ := hmem
      exact ⟨found, hresolve, rfl⟩
    · intro principal' databaseId tables columns decision' hmem
      simp only [Passage.calls, submittedCalls, resolvedCalls, alonePassage, List.mem_append,
        List.mem_cons, List.not_mem_nil, or_false, false_or, reduceCtorEq, Event.evaluate.injEq,
        Except.ok.injEq] at hmem
      obtain ⟨rfl, rfl, rfl, rfl, rfl⟩ := hmem
      rfl
  have hbound : found.databaseId = strip request.databaseId :=
    (TenantDatabaseResolver.resolve_ids hresolve).2
  have hdecided := hsame evaluator _ _ S hreachable t ht hrequest hgoverned principal
    request.databaseId ⟨found.orgId, found.databaseId⟩ ⟨"primary-service", .ok "primary"⟩
    principal request.databaseId ["album"] {"title"} decision
    (by rw [hlog]; simp [Passage.calls, submittedCalls, resolvedCalls, alonePassage])
    (by rw [hlog]; simp [Passage.calls, submittedCalls, resolvedCalls, alonePassage])
  have hdenied := denyIn_self (strip request.databaseId) principal {"title"}
  rw [hdecided.2, hbound, hdenied] at hallowed
  exact Bool.false_ne_true hallowed

/-- **The decision is the one for the bound database exactly when the identifier
has no surrounding whitespace**, for every accepted request. -/
theorem sameDatabase_iff {bindings : List Tenant.TenantDatabaseConfig} {request : Request}
    {principal : Principal} {found : Tenant.TenantDatabaseConfig}
    (hprincipal : request.principal = some principal) (hsql : strip request.sql ≠ "")
    (hresolve : (TenantDatabaseResolver.ofBindings bindings).resolve (some principal)
      (some request.databaseId) = .ok found) :
    SameDatabase bindings request ↔ strip request.databaseId = request.databaseId := by
  constructor
  · intro hsame
    by_contra hstrip
    exact not_sameDatabase hprincipal hsql hresolve hstrip hsame
  · exact sameDatabase_of_stripped

end

/-- The binding of `db-a`. -/
def titleBinding : Tenant.TenantDatabaseConfig where
  orgId := "tenant-a"
  databaseId := "db-a"
  connectionString := "postgresql+asyncpg://db-a/music"

/-- The request for the title, as it stands, is decided for its own database. -/
theorem sameDatabase_iff_title :
    letI := Python.ascii
    SameDatabase [titleBinding] titleRequest ↔ strip "db-a" = "db-a" :=
  @sameDatabase_iff Python.ascii [titleBinding] titleRequest _ titleBinding rfl (by decide) (by decide)

/-- With a blank on either side of its identifier it is not: a policy denying
`db-a` is not applied, and the statement runs on `db-a`. -/
theorem not_sameDatabase_padded :
    letI := Python.ascii
    ¬ SameDatabase [titleBinding] { titleRequest with databaseId := " db-a " } :=
  @not_sameDatabase Python.ascii [titleBinding] { titleRequest with databaseId := " db-a " } _
    titleBinding rfl (by decide) (by decide) (by decide)

end DbGateway.Gateway
