import DbGateway.Gateway.Database
import DbGateway.Gateway.Served

/-!
# DbGateway.Gateway.Controller

`routes/sql_query_controller.py`: the way of a GraphQL caller to the gateway, and
of the gateway's answer back to the caller.

However the caller writes the identifier of a database, the statement is decided
for the database it runs on; and of a failure at the database the caller is told
one fixed text, with details only where an operator has opted in to them
(`graphql_governed`).

The audit lines are left out, and how `_sanitize_db_error` makes the details.
-/

namespace DbGateway.Gateway

open Repository (Executed Failure Fetched SqlQueryRepository)
open Sql (PythonUpper Sqlglot Sqlparse)
open Tenant (TenantDatabaseResolver)

/-! ## Requests and replies -/

/-- `SqlStatementRequest`, without the question for the presentation -/
structure SqlStatementRequest where
  sqlStatement : String := ""
  databaseId : String := "default"

/-- What a caller is answered with. -/
inductive Reply where
  | rows (rows : List Row)
  | permissionError (message : String)
  | valueError (message : String)
  | graphQLError (message code details : String)
  | exception (message : String)
  | cancelled

def failedToExecute : String :=
  "Failed to execute SQL statement. Please verify your query syntax."

/-- `_request_context`.  The provider resolves with `resolver`; `service` is what it
then sets up, and `none` when that raises. -/
def requestContext (resolver : TenantDatabaseResolver)
    (service : Tenant.TenantDatabaseConfig → Option QueryService) (principal : Option Principal)
    (databaseId : String) :
    Except Reply (Principal × Tenant.TenantDatabaseConfig × QueryService) :=
  match principal with
  | none => .error (.permissionError "Authenticated principal is required.")
  | some principal =>
      match resolver.resolve (some principal) (some databaseId) with
      | .error message => .error (.permissionError message)
      | .ok binding =>
          match service binding with
          | none => .error (.permissionError "Database is unavailable.")
          | some service => .ok (principal, binding, service)

/-- `_execute_governed`, up to the gateway -/
def executeGoverned (resolver : TenantDatabaseResolver)
    (service : Tenant.TenantDatabaseConfig → Option QueryService) (principal : Option Principal)
    (request : SqlStatementRequest) : Except Reply Request :=
  let sql := strip request.sqlStatement
  match requestContext resolver service principal request.databaseId with
  | .error reply => .error reply
  | .ok (principal, binding, _) =>
      if sql = "" then .error (.valueError "SQL statement cannot be empty.")
      else if sql.length > 10000 then
        .error (.valueError "SQL statement is too long (max 10000 characters).")
      else .ok { principal := some principal, databaseId := binding.databaseId, sql }

/-- `_should_expose_db_error_detail`, of `EXPOSE_DB_ERROR_DETAIL` -/
def shouldExposeDbErrorDetail [Python] (setting : Option String) : Bool :=
  decide (lower (setting.getD "0") ∈ ["1", "true", "yes"])

/-- `detail`; `sanitized` is what `_sanitize_db_error` makes of the error. -/
def errorDetail [Python] (setting : Option String) (sanitized : String) : String :=
  if shouldExposeDbErrorDetail setting then sanitized else ""

/-- `_execute_governed`, with what the gateway returns or raises -/
def respond [Python] (setting : Option String) (sanitized : String) :
    Except Exn (List Row) → Reply
  | .ok rows => .rows rows
  | .error (.valueError message) => .valueError message
  | .error .cancelled => .cancelled
  | .error (.raised name) =>
      if name = "SqlStatementExecutionError" then
        .graphQLError failedToExecute "SQL_EXECUTION_ERROR" (errorDetail setting sanitized)
      else .exception failedToExecute
  | .error (.permissionError _) => .exception failedToExecute

/-- Without an operator's opting in there are no details. -/
theorem errorDetail_of_unset [Python] (sanitized : String) : errorDetail none sanitized = "" := by
  have hzero : lower "0" = "0" := by
    rw [Python.lower_ascii "0" (ascii_of_all (by decide))]
    rfl
  rw [errorDetail, shouldExposeDbErrorDetail, Option.getD_none, hzero]
  rfl

/-- A context that is found is that of the caller. -/
theorem requestContext_ok {resolver : TenantDatabaseResolver}
    {service : Tenant.TenantDatabaseConfig → Option QueryService} {principal : Option Principal}
    {databaseId : String} {caller : Principal} {binding : Tenant.TenantDatabaseConfig}
    {found : QueryService}
    (h : requestContext resolver service principal databaseId = .ok (caller, binding, found)) :
    principal = some caller ∧ resolver.resolve (some caller) (some databaseId) = .ok binding := by
  unfold requestContext at h
  cases principal with
  | none => contradiction
  | some principal =>
      dsimp only at h
      split at h
      · contradiction
      · next resolved hresolved =>
          split at h
          · contradiction
          · cases h
            exact ⟨rfl, hresolved⟩

/-- A request that is let in names the binding of the caller's context. -/
theorem executeGoverned_ok {resolver : TenantDatabaseResolver}
    {service : Tenant.TenantDatabaseConfig → Option QueryService} {principal : Option Principal}
    {request : SqlStatementRequest} {entered : Request}
    (h : executeGoverned resolver service principal request = .ok entered) :
    ∃ caller binding found,
      requestContext resolver service principal request.databaseId =
        .ok (caller, binding, found) ∧ entered.databaseId = binding.databaseId := by
  unfold executeGoverned at h
  cases hcontext : requestContext resolver service principal request.databaseId with
  | error reply =>
      rw [hcontext] at h
      contradiction
  | ok context =>
      obtain ⟨caller, binding, found⟩ := context
      refine ⟨caller, binding, found, rfl, ?_⟩
      simp only [hcontext] at h
      by_cases hempty : strip request.sqlStatement = ""
      · rw [if_pos hempty] at h
        contradiction
      · rw [if_neg hempty] at h
        by_cases hlong : (strip request.sqlStatement).length > 10000
        · rw [if_pos hlong] at h
          contradiction
        · rw [if_neg hlong] at h
          rw [← Except.ok.inj h]

/-- However the caller writes the identifier, the request has it without blanks. -/
theorem strip_of_executeGoverned {bindings : List Tenant.TenantDatabaseConfig}
    {service : Tenant.TenantDatabaseConfig → Option QueryService} {principal : Option Principal}
    {request : SqlStatementRequest} {entered : Request}
    (h : executeGoverned (.ofBindings bindings) service principal request = .ok entered) :
    strip entered.databaseId = entered.databaseId := by
  obtain ⟨caller, binding, found, hcontext, hentered⟩ := executeGoverned_ok h
  have hbound : binding.databaseId = strip request.databaseId :=
    (TenantDatabaseResolver.resolve_ids (requestContext_ok hcontext).2).2
  rw [hentered, hbound, strip_strip]

/-! ## Failures -/

/-- `mask_rows` has raised. -/
def Served.MaskingRaised (s : Served) : Prop :=
  ∃ rows columns sql e, Event.maskRows rows columns sql (.error e) ∈ s.task.log

/-- The error of a request that has reached the database. -/
def Served.Contained (s : Served) : Prop :=
  ∀ e, s.task.stage = .finished (.error e) → s.trace ≠ [] →
    e = .raised "SqlStatementExecutionError" ∨ e = .cancelled ∨ s.MaskingRaised

theorem ofRepository_of_failure {e : Repository.Exn} (h : Failure e) :
    ofRepository e = .raised "SqlStatementExecutionError" ∨ ofRepository e = .cancelled := by
  cases h with
  | execution message => exact .inl rfl
  | cancelled => exact .inr rfl

section

variable [Python] [PythonUpper] [PythonTables] [Sqlglot] [Sqlparse] {config : Config}
  {repositories : QueryService → SqlQueryRepository Json} {jsonOf : Json → Json}

/-- A segment of a request leaves only contained errors. -/
theorem Served.Contained.segment {quotas quotas' : Quotas} {s s' : Served}
    (hkept : s.Kept repositories jsonOf)
    (hsegment : Served.Segment config repositories jsonOf quotas s quotas' s') :
    s'.Contained := by
  intro exn hstage' hreached
  cases hsegment with
  | @elsewhere _ t t' wake trace hwake ha =>
      exact absurd (hkept.untouched fun result => Task.unfinished ha result) hreached
  | @answered _ t t' o r e body result trace hstage hrun ha =>
      have huntouched : trace = [] := hkept.untouched fun result => Task.unfinished ha result
      have hdone := Repository.executeSqlStatement_does (repositories r.service) .str jsonOf
        e.execution t.request.params _ _ hrun
      subst huntouched
      obtain rfl := Task.answered_stage hstage ha
      cases result with
      | error raised =>
          have hexn : ofRepository raised = exn := Except.error.inj (Stage.finished.inj hstage')
          rcases ofRepository_of_failure (hdone.failure _ _ _ hreached) with h | h
          · exact .inl (hexn ▸ h)
          · exact .inr (.inl (hexn ▸ h))
      | ok fetched =>
          have hmasked : o.maskRows = .error exn := Stage.finished.inj hstage'
          refine .inr (.inr ⟨fetched, e.decision.maskedColumns, e.restricted, exn, ?_⟩)
          show _ ∈ (conclude o e (.ok fetched) t.log).2
          rw [← hmasked]
          exact List.mem_append_right _ List.mem_cons_self

/-- **A GraphQL caller**, in every interleaving and whatever the databases do: a request
that was let in is decided for the database it runs on; rows are told only when one
statement fetched them and they were masked; and where the database was reached, a
failure is told in one fixed text, with the details an operator has opted in to. -/
theorem graphql_governed {bindings : List Tenant.TenantDatabaseConfig}
    {service : Tenant.TenantDatabaseConfig → Option QueryService} {principal : Option Principal}
    {request : SqlStatementRequest} {quotas : Quotas} {S : Cooperative.System Quotas Served}
    (h : Served.Reachable config repositories jsonOf quotas S) {s : Served} (hs : s ∈ S.tasks)
    (hentered : executeGoverned (.ofBindings bindings) service principal request =
      .ok s.task.request) (setting : Option String) (sanitized : String) :
    SameDatabase bindings s.task.request ∧
      ∀ result, s.task.stage = .finished result →
        (∀ rows, respond setting sanitized result = .rows rows →
          ∃ (p : Passage s.task.request) (fetched : List Row),
            .maskRows fetched p.executed.decision.maskedColumns p.executed.restricted (.ok rows) ∈
              s.task.log ∧
            Fetched (repositories p.resolved.service) .str jsonOf p.executed.execution
              s.task.request.params s.trace fetched) ∧
        (s.trace ≠ [] → (∃ rows, respond setting sanitized result = .rows rows) ∨
          respond setting sanitized result = .graphQLError failedToExecute "SQL_EXECUTION_ERROR"
            (errorDetail setting sanitized) ∨
          respond setting sanitized result = .cancelled ∨ s.MaskingRaised) := by
  have hkept : ∀ s ∈ S.tasks, s.Kept repositories jsonOf ∧ s.Contained := by
    refine h.forall_task ?_ fun quotas s quotas' s' hsegment hs =>
      ⟨hs.1.segment hsegment, .segment hs.1 hsegment⟩
    rintro ⟨⟨request, stage, log⟩, trace⟩ ⟨⟨rfl, rfl⟩, rfl⟩
    refine ⟨.of_untouched rfl fun result hstage => ?_, fun exn hstage => ?_⟩
    · cases hstage
    · cases hstage
  obtain ⟨hkept, hcontained⟩ := hkept s hs
  refine ⟨sameDatabase_of_stripped (strip_of_executeGoverned hentered), fun result hstage => ?_⟩
  cases result with
  | ok rows =>
      refine ⟨fun told htold => ?_, fun _ => .inl ⟨rows, rfl⟩⟩
      obtain rfl : rows = told := Reply.rows.inj htold
      obtain ⟨p, fetched, hlog, hfetched⟩ := hkept.governed.returned rows hstage
      refine ⟨p, fetched, ?_, hfetched⟩
      rw [hlog]
      simp
  | error exn =>
      refine ⟨fun told htold => ?_, fun hreached => .inr ?_⟩
      · cases exn with
        | raised name =>
            rw [respond] at htold
            split at htold <;> contradiction
        | _ => contradiction
      · rcases hcontained exn hstage hreached with rfl | rfl | hraised
        · exact .inl rfl
        · exact .inr (.inl rfl)
        · exact .inr (.inr hraised)

end

section

open Repository (Trace executeSqlStatement_title titleRepository)
open Sql (titleText titleQuery parserOf tokensOf albumTokens)

local instance foldingPython : Python := Python.folding
local instance foldingTables : PythonTables := PythonTables.folding
local instance asciiUpper : PythonUpper := PythonUpper.ascii
local instance titleSqlglot : Sqlglot := parserOf titleText titleQuery
local instance titleSqlparse : Sqlparse :=
  tokensOf (albumTokens ⟨none, some "title"⟩ ⟨none, some "album"⟩ "title" "album")

/-- The database does not answer. -/
def refusedTrace : Trace Json := [⟨.connect, .error (.raised "OSError" "10.0.0.7" none)⟩]

/-- What the provider sets up. -/
def primaryService (_ : Tenant.TenantDatabaseConfig) : Option QueryService :=
  some ⟨"primary-service", .ok "primary"⟩

theorem executeGoverned_title :
    executeGoverned (.ofBindings [titleBinding]) primaryService titleRequest.principal
      { sqlStatement := " SELECT title FROM album\n", databaseId := " db-a " } =
        .ok titleRequest := by
  have hstrip : strip " SELECT title FROM album\n" = "SELECT title FROM album" := by decide
  have hresolve : (TenantDatabaseResolver.ofBindings [titleBinding]).resolve
      titleRequest.principal (some " db-a ") = .ok titleBinding := by decide
  have hcontext : requestContext (.ofBindings [titleBinding]) primaryService
      titleRequest.principal " db-a " = .ok (⟨"alice", "alice@corp.com", "tenant-a", ∅, []⟩,
        titleBinding, ⟨"primary-service", .ok "primary"⟩) := by
    unfold requestContext
    simp only [titleRequest] at hresolve ⊢
    rw [hresolve]
    rfl
  unfold executeGoverned
  simp only [hcontext, hstrip]
  rw [if_neg (by decide), if_neg (by decide)]
  rfl

theorem graphql_governed_refused : ∃ (s : Served) (result : Except Exn (List Row)),
    s.task.request = titleRequest ∧ s.trace = refusedTrace ∧ s.task.stage = .finished result ∧
      SameDatabase [titleBinding] s.task.request ∧
      ((∃ rows, respond none "10.0.0.7" result = .rows rows) ∨
        respond none "10.0.0.7" result =
          .graphQLError failedToExecute "SQL_EXECUTION_ERROR" "" ∨
        respond none "10.0.0.7" result = .cancelled ∨ s.MaskingRaised) := by
  have harrive : Served.Reachable ⟨5, 10, 10000⟩ (fun _ => titleRepository Json) id
      (fun _ => none) ⟨fun _ => none, [⟨⟨titleRequest, .start, []⟩, []⟩]⟩ :=
    .tail .refl (.arrive ⟨⟨rfl, rfl⟩, rfl⟩)
  have hbegin := harrive.tail (.run [] [] (.elsewhere (.begin allReturn) [] (by simp) rfl))
  have hacquired := hbegin.tail
    (.run [] [] (.elsewhere (.acquired allReturn) [] (by simp) rfl))
  have hrun : ∃ e, ((titleRepository Json).executeSqlStatement .str id titleText none).Runs
      refusedTrace (.error e) := by
    rw [executeSqlStatement_title]
    exact ⟨_, .call (.done _)⟩
  obtain ⟨e, hrun⟩ := hrun
  have hanswered := hacquired.tail (.run [] [] (.answered allReturn [] rfl hrun rfl))
  have hgoverned := graphql_governed hanswered List.mem_cons_self executeGoverned_title none
    "10.0.0.7"
  rw [errorDetail_of_unset] at hgoverned
  exact ⟨_, _, rfl, rfl, rfl, hgoverned.1, (hgoverned.2 _ rfl).2 (by simp [refusedTrace])⟩

end

end DbGateway.Gateway
