import DbGateway.Policy.Model
import DbGateway.Sha256

/-!
# DbGateway.Gateway.Model

`services/query_gateway.py`: the pipeline every governed query runs through.

`execute` suspends at three places: waiting for the semaphore, waiting for an
asynchronous policy evaluator, and waiting for the database.  A request is
therefore one of five stages, and `Task.advance` runs it from one suspension to
the next.  `_quotas_lock` is never held across a suspension, so taking it
neither waits nor is cancelled.

Everything the pipeline calls may return or raise; an `Outcomes` value says
what each call of a segment does.  A request records its calls, with their
arguments and results, in order.  Metrics are left out.
-/

namespace DbGateway.Gateway

/-- An exception in flight. -/
inductive Exn where
  | permissionError (message : String)
  | valueError (message : String)
  | cancelled
  | raised (name : String)
deriving DecidableEq

/-- A row of a result. -/
abbrev Row := Dict Json

/-- The server-owned binding of a logical database. -/
structure TenantDatabaseConfig where
  orgId : String
  databaseId : String

/-- The service a binding resolves to; `databaseTarget` is what
`getattr(service.repository, "database_target", "primary")` does. -/
structure QueryService where
  name : String
  databaseTarget : Except Exn String

/-- `GovernedQueryRequest`; the principal is `none` when it is not a
`Principal`. -/
structure Request where
  principal : Option Principal
  databaseId : String
  sql : String
  params : Option (Dict Json) := none

/-! ## What a request does -/

/-- An audit call with its payload. -/
inductive AuditRecord where
  | queryRejectedOverload (user orgId databaseId reason : String) (limit : Int)
  | policyDenied (user orgId databaseId reason : String) (policyIds : List String)
  | sqlQuery (user orgId databaseId databaseTarget queryHash : String)
      (tablesTouched : List String) (query : Option String)

/-- A call out of the pipeline, with its arguments and what came of it. -/
inductive Event where
  | resolve (principal : Principal) (databaseId : String)
      (result : Except Exn (TenantDatabaseConfig × QueryService))
  | cleanAndValidateSql (sql : String) (result : Except Exn String)
  | tablesTouched (sql : String) (result : Except Exn (List String))
  | referencedColumns (sql : String) (result : Except Exn (Finset String))
  | evaluate (principal : Principal) (databaseId : String) (tables : List String)
      (referencedColumns : Finset String) (result : Except Exn PolicyDecision)
  | applyRowRestrictions (sql : String) (restrictions : Dict String) (principal : Principal)
      (result : Except Exn String)
  | rewriteMaskedColumns (sql : String) (maskedColumns : Finset String)
      (result : Except Exn String)
  | audit (record : AuditRecord) (result : Except Exn Unit)
  | executeSqlStatement (service : QueryService) (sql : String) (params : Option (Dict Json))
  | maskRows (rows : List Row) (maskedColumns : Finset String) (sql : String)
      (result : Except Exn (List Row))

/-- A piece of the pipeline: it appends its calls to the record and returns or
raises. -/
def Run (α : Type) := List Event → Except Exn α × List Event

namespace Run

variable {α β : Type}

def pure (a : α) : Run α := fun log => (.ok a, log)

def raise (e : Exn) : Run α := fun log => (.error e, log)

def bind (run : Run α) (f : α → Run β) : Run β := fun log =>
  match run log with
  | (.ok a, log') => f a log'
  | (.error e, log') => (.error e, log')

instance : Monad Run where
  pure := pure
  bind := bind

@[simp] theorem pure_apply (a : α) (log : List Event) :
    (Pure.pure a : Run α) log = (.ok a, log) := rfl

@[simp] theorem raise_apply (e : Exn) (log : List Event) :
    (raise e : Run α) log = (.error e, log) := rfl

/-- Make a call and go on with what it returns. -/
def call (event : Except Exn α → Event) (outcome : Except Exn α) : Run α := fun log =>
  (outcome, log ++ [event outcome])

/-- Go on with a value, or raise. -/
def of (outcome : Except Exn α) : Run α := fun log => (outcome, log)

/-- Make a call whose result comes later. -/
def start (event : Event) : Run Unit := fun log => (.ok (), log ++ [event])

variable {event : Except Exn α → Event} {f : α → Run β} {log : List Event}

@[simp] theorem call_bind_ok (a : α) :
    (call event (.ok a) >>= f) log = f a (log ++ [event (.ok a)]) := rfl

@[simp] theorem call_bind_error (e : Exn) :
    (call event (.error e) >>= f) log = (.error e, log ++ [event (.error e)]) := rfl

@[simp] theorem of_bind_ok (a : α) : (of (.ok a) >>= f) log = f a log := rfl

@[simp] theorem of_bind_error (e : Exn) :
    (of (.error e : Except Exn α) >>= f) log = (.error e, log) := rfl

@[simp] theorem start_bind (event : Event) (f : Unit → Run β) :
    (start event >>= f) log = f () (log ++ [event]) := rfl

end Run

/-- What the calls of one segment do. -/
structure Outcomes where
  providerInstance : Except Exn Unit
  resolve : Except Exn (TenantDatabaseConfig × QueryService)
  overloadAudit : Except Exn Unit
  cleanSql : Except Exn String
  /-- The checks of `is_safe_select_query` after the first three. -/
  safetyRules : Bool
  tablesTouched : Except Exn (List String)
  referencedColumns : Except Exn (Finset String)
  /-- What the evaluator answers; `none` when it has to be awaited. -/
  evaluate : Except Exn (Option PolicyDecision)
  deniedAudit : Except Exn Unit
  applyRowRestrictions : Except Exn String
  rewriteMaskedColumns : Except Exn String
  executedTables : Except Exn (List String)
  /-- `AUDIT_LOG_RAW_SQL` is set. -/
  auditLogRawSql : Bool
  queryAudit : Except Exn Unit
  maskRows : Except Exn (List Row)

/-! ## The safety checker -/

/-- `DefaultSqlSafetyChecker.is_safe_select_query` -/
def isSafeSelectQuery (maxQueryLength : Nat) (rules : Bool) (query : String) : Bool :=
  if query = "" || strip query = "" then false
  else if '\x00' ∈ query.toList then false
  else if query.length > maxQueryLength then false
  else rules

/-- `clean_and_validate_sql`, with what `clean_sql` and the rules make of the
statement. -/
def cleanAndValidateSql (maxQueryLength : Nat) (cleanSql : Except Exn String) (rules : Bool) :
    Except Exn String := do
  let cleaned ← cleanSql
  if isSafeSelectQuery maxQueryLength rules cleaned then .ok cleaned
  else .error (.valueError
    "SQL query failed safety validation. Only simple SELECT statements are allowed.")

/-- A validated statement is not empty. -/
theorem cleanAndValidateSql_ne_empty {maxQueryLength : Nat} {cleanSql : Except Exn String}
    {rules : Bool} {cleaned : String}
    (h : cleanAndValidateSql maxQueryLength cleanSql rules = .ok cleaned) : cleaned ≠ "" := by
  cases cleanSql with
  | error e => simp [cleanAndValidateSql, Except.bind, Bind.bind] at h
  | ok sql =>
      by_cases hsql : sql = ""
      · simp [cleanAndValidateSql, Except.bind, Bind.bind, isSafeSelectQuery, hsql] at h
      · simp only [cleanAndValidateSql, Except.bind, Bind.bind] at h
        split at h
        · exact Except.ok.inj h ▸ hsql
        · contradiction

/-! ## Quotas -/

/-- `TenantQuota`; `available` is the semaphore's value. -/
structure TenantQuota where
  available : Nat
  maxConcurrent : Nat
  queueLimit : Int
  currentQueued : Nat := 0

/-- The quotas by organisation and database. -/
abbrev Quotas := String × String → Option TenantQuota

/-- What the gateway is constructed with. -/
structure Config where
  tenantConcurrentLimit : Nat
  tenantQueueLimit : Int
  maxQueryLength : Nat := 10000

/-- `_get_tenant_quota` -/
def getTenantQuota (config : Config) (quotas : Quotas) (key : String × String) : TenantQuota :=
  (quotas key).getD
    { available := config.tenantConcurrentLimit
      maxConcurrent := config.tenantConcurrentLimit
      queueLimit := config.tenantQueueLimit }

/-! ## The pipeline -/

/-- What resolution settles for the rest of the request. -/
structure Resolved where
  principal : Principal
  binding : TenantDatabaseConfig
  service : QueryService

/-- The tenant a resolved request counts against. -/
def Resolved.key (r : Resolved) : String × String := (r.principal.orgId, r.binding.databaseId)

/-- Up to the quota: authenticate and resolve. -/
def authenticateAndResolve (o : Outcomes) (request : Request) : Run Resolved := do
  match request.principal with
  | none => Run.raise (.permissionError "Authenticated principal is required.")
  | some principal =>
      if request.sql = "" || strip request.sql = "" then
        Run.raise (.valueError "SQL statement cannot be empty.")
      else
        Run.of o.providerInstance
        let (binding, service) ← Run.call (.resolve principal request.databaseId) o.resolve
        return ⟨principal, binding, service⟩

/-- The queue is full. -/
def rejectQueueFull (o : Outcomes) (r : Resolved) (quota : TenantQuota) : Run (List Row) := do
  Run.call (.audit (.queryRejectedOverload r.principal.email r.principal.orgId
    r.binding.databaseId "Tenant query queue limit exceeded" quota.queueLimit)) o.overloadAudit
  Run.raise (.permissionError
    s!"Tenant query queue full (limit: {quota.queueLimit}). Please retry later.")

/-- The semaphore did not come free in time. -/
def rejectTimeout (o : Outcomes) (r : Resolved) (quota : TenantQuota) : Run (List Row) := do
  Run.call (.audit (.queryRejectedOverload r.principal.email r.principal.orgId
    r.binding.databaseId "Tenant concurrency limit timeout" quota.maxConcurrent)) o.overloadAudit
  Run.raise (.permissionError
    s!"Tenant concurrency limit busy (limit: {quota.maxConcurrent}). Please retry later.")

/-- A statement on its way to the evaluator, with what is asked about it. -/
structure Submission where
  cleaned : String
  tables : List String
  columns : Finset String

/-- `clean_and_validate_sql` and the start of `evaluate`. -/
def submit (config : Config) (o : Outcomes) (request : Request) : Run Submission := do
  let cleaned ← Run.call (.cleanAndValidateSql request.sql)
    (cleanAndValidateSql config.maxQueryLength o.cleanSql o.safetyRules)
  -- `sql or request.sql`
  let statement := if cleaned = "" then request.sql else cleaned
  let tables ← Run.call (.tablesTouched statement) o.tablesTouched
  let columns ← Run.call (.referencedColumns statement) o.referencedColumns
  return ⟨cleaned, tables, columns⟩

/-- A statement being executed: the decision it was governed by and its text
between and after the rewrites. -/
structure Execution where
  decision : PolicyDecision
  restricted : String
  execution : String

/-- From the decision to the call of the service. -/
def enforce (o : Outcomes) (request : Request) (r : Resolved) (cleaned : String)
    (decision : PolicyDecision) : Run Execution := do
  if !decision.allowed then
    Run.call (.audit (.policyDenied r.principal.email r.principal.orgId r.binding.databaseId
      decision.reason decision.policyIds)) o.deniedAudit
    Run.raise (.permissionError decision.reason)
  else
    let restricted ← Run.call
      (.applyRowRestrictions cleaned decision.rowRestrictions r.principal) o.applyRowRestrictions
    let execution ← Run.call (.rewriteMaskedColumns restricted decision.maskedColumns)
      o.rewriteMaskedColumns
    let target ← Run.of r.service.databaseTarget
    let touched ← Run.call (.tablesTouched execution) o.executedTables
    Run.call (.audit (.sqlQuery r.principal.email r.principal.orgId r.binding.databaseId target
      (sha256 execution) touched (if o.auditLogRawSql then some execution else none))) o.queryAudit
    Run.start (.executeSqlStatement r.service execution request.params)
    return ⟨decision, restricted, execution⟩

/-- The evaluator's answer, then `enforce`. -/
def decide_ (o : Outcomes) (request : Request) (r : Resolved) (s : Submission)
    (answer : Except Exn PolicyDecision) : Run Execution := do
  let decision ← Run.call (.evaluate r.principal request.databaseId s.tables s.columns) answer
  enforce o request r s.cleaned decision

/-- The database's answer, masked. -/
def conclude (o : Outcomes) (e : Execution) (answer : Except Exn (List Row)) :
    Run (List Row) := do
  let rows ← Run.of answer
  Run.call (.maskRows rows e.decision.maskedColumns e.restricted) o.maskRows

/-! ## Tasks -/

/-- Where a request stands. -/
inductive Stage where
  | start
  | waiting (r : Resolved)
  | deciding (r : Resolved) (s : Submission)
  | running (r : Resolved) (e : Execution)
  | finished (result : Except Exn (List Row))

/-- A request, where it stands, and the calls it has made. -/
structure Task where
  request : Request
  stage : Stage := .start
  log : List Event := []

/-- What makes a suspended request go on. -/
inductive Wake where
  | begin (o : Outcomes)
  | acquired (o : Outcomes)
  | timedOut (o : Outcomes)
  | cancelled
  | decided (o : Outcomes) (answer : Except Exn PolicyDecision)
  | answered (o : Outcomes) (answer : Except Exn (List Row))

/-- The `finally` block: a held permit goes back, the request leaves the
queue. -/
def release (config : Config) (quotas : Quotas) (r : Resolved) (held : Bool) : Quotas :=
  let quota := getTenantQuota config quotas r.key
  Function.update quotas r.key (some
    { quota with
      available := if held then quota.available + 1 else quota.available
      currentQueued := quota.currentQueued - 1 })

/-- Suspended at the database, or through the `finally` block. -/
def dispatch (config : Config) (quotas : Quotas) (request : Request) (r : Resolved)
    (outcome : Except Exn Execution × List Event) : Quotas × Task :=
  match outcome with
  | (.ok e, log) => (quotas, ⟨request, .running r e, log⟩)
  | (.error e, log) => (release config quotas r true, ⟨request, .finished (.error e), log⟩)

/-- Run a request to its next suspension; `none` when the wake-up does not fit
its stage. -/
def Task.advance (config : Config) (quotas : Quotas) (task : Task) : Wake → Option (Quotas × Task)
  | .begin o =>
      match task.stage with
      | .start =>
          match authenticateAndResolve o task.request task.log with
          | (.error e, log) => some (quotas, ⟨task.request, .finished (.error e), log⟩)
          | (.ok r, log) =>
              let quota := getTenantQuota config quotas r.key
              if quota.queueLimit ≤ quota.currentQueued then
                let (result, log) := rejectQueueFull o r quota log
                some (Function.update quotas r.key (some quota),
                  ⟨task.request, .finished result, log⟩)
              else
                some (Function.update quotas r.key
                    (some { quota with currentQueued := quota.currentQueued + 1 }),
                  ⟨task.request, .waiting r, log⟩)
      | _ => none
  | .acquired o =>
      match task.stage with
      | .waiting r =>
          let quota := getTenantQuota config quotas r.key
          if quota.available = 0 then none
          else
            let quotas := Function.update quotas r.key
              (some { quota with available := quota.available - 1 })
            match submit config o task.request task.log with
            | (.error e, log) =>
                some (release config quotas r true, ⟨task.request, .finished (.error e), log⟩)
            | (.ok s, log) =>
                match o.evaluate with
                | .ok none => some (quotas, ⟨task.request, .deciding r s, log⟩)
                | .ok (some decision) =>
                    some (dispatch config quotas task.request r
                      (decide_ o task.request r s (.ok decision) log))
                | .error e =>
                    some (dispatch config quotas task.request r
                      (decide_ o task.request r s (.error e) log))
      | _ => none
  | .timedOut o =>
      match task.stage with
      | .waiting r =>
          let (result, log) := rejectTimeout o r (getTenantQuota config quotas r.key) task.log
          some (release config quotas r false, ⟨task.request, .finished result, log⟩)
      | _ => none
  | .cancelled =>
      match task.stage with
      | .waiting r =>
          some (release config quotas r false,
            ⟨task.request, .finished (.error .cancelled), task.log⟩)
      | _ => none
  | .decided o answer =>
      match task.stage with
      | .deciding r s =>
          some (dispatch config quotas task.request r
            (decide_ o task.request r s answer task.log))
      | _ => none
  | .answered o answer =>
      match task.stage with
      | .running r e =>
          let (result, log) := conclude o e answer task.log
          some (release config quotas r true, ⟨task.request, .finished result, log⟩)
      | _ => none

/-! ## What a segment does -/

/-- One permit is taken. -/
def acquire (config : Config) (quotas : Quotas) (r : Resolved) : Quotas :=
  let quota := getTenantQuota config quotas r.key
  Function.update quotas r.key (some { quota with available := quota.available - 1 })

/-- One request is admitted. -/
def enter (config : Config) (quotas : Quotas) (r : Resolved) : Quotas :=
  let quota := getTenantQuota config quotas r.key
  Function.update quotas r.key (some { quota with currentQueued := quota.currentQueued + 1 })

/-- Everything a segment can do, by the stage it starts from. -/
inductive Advances (config : Config) (quotas : Quotas) (request : Request) (log : List Event) :
    Stage → Quotas → Task → Prop
  | refused (o : Outcomes) {e : Exn} {log' : List Event}
      (h : authenticateAndResolve o request log = (.error e, log')) :
      Advances config quotas request log .start quotas ⟨request, .finished (.error e), log'⟩
  | full (o : Outcomes) {r : Resolved} {log' : List Event}
      (h : authenticateAndResolve o request log = (.ok r, log')) :
      Advances config quotas request log .start
        (Function.update quotas r.key (some (getTenantQuota config quotas r.key)))
        ⟨request, .finished (rejectQueueFull o r (getTenantQuota config quotas r.key) log').1,
          (rejectQueueFull o r (getTenantQuota config quotas r.key) log').2⟩
  | admitted (o : Outcomes) {r : Resolved} {log' : List Event}
      (h : authenticateAndResolve o request log = (.ok r, log'))
      (hroom : ((getTenantQuota config quotas r.key).currentQueued : Int) <
        (getTenantQuota config quotas r.key).queueLimit) :
      Advances config quotas request log .start (enter config quotas r) ⟨request, .waiting r, log'⟩
  | failed (o : Outcomes) (r : Resolved) {e : Exn} {log' : List Event}
      (hfree : (getTenantQuota config quotas r.key).available ≠ 0)
      (h : submit config o request log = (.error e, log')) :
      Advances config quotas request log (.waiting r)
        (release config (acquire config quotas r) r true) ⟨request, .finished (.error e), log'⟩
  | suspended (o : Outcomes) (r : Resolved) {s : Submission} {log' : List Event}
      (hfree : (getTenantQuota config quotas r.key).available ≠ 0)
      (h : submit config o request log = (.ok s, log')) :
      Advances config quotas request log (.waiting r) (acquire config quotas r)
        ⟨request, .deciding r s, log'⟩
  | submitted (o : Outcomes) (r : Resolved) {s : Submission} (answer : Except Exn PolicyDecision)
      {log' : List Event}
      (hfree : (getTenantQuota config quotas r.key).available ≠ 0)
      (h : submit config o request log = (.ok s, log')) {quotas' : Quotas} {t' : Task}
      (ht : dispatch config (acquire config quotas r) request r
        (decide_ o request r s answer log') = (quotas', t')) :
      Advances config quotas request log (.waiting r) quotas' t'
  | timedOut (o : Outcomes) (r : Resolved) :
      Advances config quotas request log (.waiting r) (release config quotas r false)
        ⟨request, .finished (rejectTimeout o r (getTenantQuota config quotas r.key) log).1,
          (rejectTimeout o r (getTenantQuota config quotas r.key) log).2⟩
  | cancelled (r : Resolved) :
      Advances config quotas request log (.waiting r) (release config quotas r false)
        ⟨request, .finished (.error .cancelled), log⟩
  | decided (o : Outcomes) (r : Resolved) (s : Submission) (answer : Except Exn PolicyDecision)
      {quotas' : Quotas} {t' : Task}
      (ht : dispatch config quotas request r (decide_ o request r s answer log) = (quotas', t')) :
      Advances config quotas request log (.deciding r s) quotas' t'
  | answered (o : Outcomes) (r : Resolved) (e : Execution) (answer : Except Exn (List Row)) :
      Advances config quotas request log (.running r e) (release config quotas r true)
        ⟨request, .finished (conclude o e answer log).1, (conclude o e answer log).2⟩

/-- **Every segment does one of these.** -/
theorem Task.advances {config : Config} {quotas quotas' : Quotas} {t t' : Task} {wake : Wake}
    (h : t.advance config quotas wake = some (quotas', t')) :
    Advances config quotas t.request t.log t.stage quotas' t' := by
  obtain ⟨request, stage, log⟩ := t
  cases wake with
  | «begin» o =>
      cases stage with
      | start =>
          simp only [Task.advance] at h
          cases hresolve : authenticateAndResolve o request log with
          | mk result log' =>
              cases result with
              | error e =>
                  simp only [hresolve] at h
                  obtain ⟨rfl, rfl⟩ := Prod.mk.inj (Option.some.inj h)
                  exact .refused o hresolve
              | ok r =>
                  simp only [hresolve] at h
                  by_cases hfull : (getTenantQuota config quotas r.key).queueLimit ≤
                      (getTenantQuota config quotas r.key).currentQueued
                  · rw [if_pos hfull] at h
                    obtain ⟨rfl, rfl⟩ := Prod.mk.inj (Option.some.inj h)
                    exact .full o hresolve
                  · rw [if_neg hfull] at h
                    obtain ⟨rfl, rfl⟩ := Prod.mk.inj (Option.some.inj h)
                    exact .admitted o hresolve (Int.not_le.mp hfull)
      | _ => simp [Task.advance] at h
  | acquired o =>
      cases stage with
      | waiting r =>
          simp only [Task.advance] at h
          by_cases hfree : (getTenantQuota config quotas r.key).available = 0
          · rw [if_pos hfree] at h
            contradiction
          · rw [if_neg hfree] at h
            cases hsubmit : submit config o request log with
            | mk result log' =>
                cases result with
                | error e =>
                    simp only [hsubmit] at h
                    obtain ⟨rfl, rfl⟩ := Prod.mk.inj (Option.some.inj h)
                    exact .failed o r hfree hsubmit
                | ok s =>
                    simp only [hsubmit] at h
                    cases heval : o.evaluate with
                    | error e =>
                        simp only [heval] at h
                        exact .submitted o r (.error e) hfree hsubmit (Option.some.inj h)
                    | ok answer =>
                        cases answer with
                        | none =>
                            simp only [heval] at h
                            obtain ⟨rfl, rfl⟩ := Prod.mk.inj (Option.some.inj h)
                            exact .suspended o r hfree hsubmit
                        | some decision =>
                            simp only [heval] at h
                            exact .submitted o r (.ok decision) hfree hsubmit (Option.some.inj h)
      | _ => simp [Task.advance] at h
  | timedOut o =>
      cases stage with
      | waiting r =>
          obtain ⟨rfl, rfl⟩ := Prod.mk.inj (Option.some.inj h)
          exact .timedOut o r
      | _ => simp [Task.advance] at h
  | cancelled =>
      cases stage with
      | waiting r =>
          obtain ⟨rfl, rfl⟩ := Prod.mk.inj (Option.some.inj h)
          exact .cancelled r
      | _ => simp [Task.advance] at h
  | decided o answer =>
      cases stage with
      | deciding r s => exact .decided o r s answer (Option.some.inj h)
      | _ => simp [Task.advance] at h
  | answered o answer =>
      cases stage with
      | running r e =>
          obtain ⟨rfl, rfl⟩ := Prod.mk.inj (Option.some.inj h)
          exact .answered o r e answer
      | _ => simp [Task.advance] at h

end DbGateway.Gateway
