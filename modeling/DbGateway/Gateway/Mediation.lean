import DbGateway.Cooperative
import DbGateway.Gateway.Model

/-!
# DbGateway.Gateway.Mediation

Complete mediation: whatever the provider, the checker, the evaluator, the
rewrites, the audit function and the database do, and however concurrent
requests interleave, a statement reaches the database only at the end of one
fixed sequence of calls that all returned (`Passage.calls`), and a denied
request stops at its denial audit.

The record of a request is determined by its stage (`Task.Recorded`); a segment
keeps this (`Task.Recorded.advance`), so it holds in every interleaving.
-/

namespace DbGateway.Gateway

/-! ## The calls of interest -/

namespace Event

/-- The service is called. -/
def isExecution : Event → Bool
  | .executeSqlStatement .. => true
  | _ => false

/-- The audit call of type `sql_query`. -/
def isQueryAudit : Event → Bool
  | .audit (.sqlQuery ..) _ => true
  | _ => false

/-- The audit call of type `policy_denied`. -/
def isDenialAudit : Event → Bool
  | .audit (.policyDenied ..) _ => true
  | _ => false

/-- A decision that is not allowed. -/
def isDenial : Event → Bool
  | .evaluate _ _ _ _ (.ok decision) => !decision.allowed
  | _ => false

end Event

/-! ## The way to the database -/

/-- The calls made once the principal is resolved. -/
def resolvedCalls (request : Request) (r : Resolved) : List Event :=
  [.resolve r.principal request.databaseId (.ok (r.binding, r.service))]

/-- The calls made once the statement is validated and submitted. -/
def submittedCalls (request : Request) (r : Resolved) (s : Submission) : List Event :=
  resolvedCalls request r ++
    [.cleanAndValidateSql request.sql (.ok s.cleaned),
      .tablesTouched s.cleaned (.ok s.tables),
      .referencedColumns s.cleaned (.ok s.columns)]

/-- A request let through to the database. -/
structure Passage (request : Request) where
  resolved : Resolved
  submission : Submission
  executed : Execution
  databaseTarget : String
  touched : List String
  rawSql : Option String
  authenticated : request.principal = some resolved.principal
  allowed : executed.decision.allowed = true

/-- Every call before the database's, in order; all of them returned. -/
def Passage.calls {request : Request} (p : Passage request) : List Event :=
  submittedCalls request p.resolved p.submission ++
    [.evaluate p.resolved.principal request.databaseId p.submission.tables p.submission.columns
        (.ok p.executed.decision),
      .applyRowRestrictions p.submission.cleaned p.executed.decision.rowRestrictions
        p.resolved.principal (.ok p.executed.restricted),
      .rewriteMaskedColumns p.executed.restricted p.executed.decision.maskedColumns
        (.ok p.executed.execution),
      .tablesTouched p.executed.execution (.ok p.touched),
      .audit (.sqlQuery p.resolved.principal.email p.resolved.principal.orgId
        p.resolved.binding.databaseId p.databaseTarget (sha256 p.executed.execution) p.touched
        p.rawSql) (.ok ())]

/-- The calls of a request whose decision is not allowed. -/
def deniedCalls (request : Request) (r : Resolved) (s : Submission) (decision : PolicyDecision)
    (result : Except Exn Unit) : List Event :=
  submittedCalls request r s ++
    [.evaluate r.principal request.databaseId s.tables s.columns (.ok decision),
      .audit (.policyDenied r.principal.email r.principal.orgId r.binding.databaseId
        decision.reason decision.policyIds) result]

/-- **Complete mediation** of one request, as its record shows it. -/
structure Mediated (request : Request) (log : List Event) : Prop where
  /-- The service is called at most once. -/
  once : log.countP (·.isExecution) ≤ 1
  /-- What precedes the call is exactly the calls of a passage, with the
  service, the statement and the parameters that are executed. -/
  governed : ∀ before service sql params after,
    log = before ++ .executeSqlStatement service sql params :: after →
      params = request.params ∧ ∃ p : Passage request, before = p.calls ∧
        service = p.resolved.service ∧ sql = p.executed.execution
  /-- An executed request is audited once. -/
  audited : ∀ e ∈ log, e.isExecution = true → log.countP (·.isQueryAudit) = 1
  /-- A request that is not allowed makes one denial audit, no query audit, and
  never reaches the service. -/
  denied : ∀ e ∈ log, e.isDenial = true →
    log.countP (·.isDenialAudit) = 1 ∧ log.countP (·.isQueryAudit) = 0 ∧
      log.countP (·.isExecution) = 0

/-! ## The three shapes of a record -/

/-- How a record can look. -/
inductive Shape (request : Request) : List Event → Prop
  /-- Nothing was denied and nothing reached the database. -/
  | quiet {log : List Event} (h : ∀ e ∈ log, e.isExecution = false ∧ e.isDenial = false) :
      Shape request log
  /-- The decision was not allowed. -/
  | denied (r : Resolved) (s : Submission) (decision : PolicyDecision)
      (result : Except Exn Unit) :
      Shape request (deniedCalls request r s decision result)
  /-- The statement reached the database. -/
  | executed (p : Passage request) (after : List Event)
      (hafter : ∀ e ∈ after, ∃ rows masked sql result, e = .maskRows rows masked sql result) :
      Shape request (p.calls ++
        .executeSqlStatement p.resolved.service p.executed.execution request.params :: after)

variable {request : Request} {log : List Event}

/-- A passage calls the service nowhere, is denied nowhere and is audited
once. -/
theorem Passage.counts (p : Passage request) :
    p.calls.countP (·.isExecution) = 0 ∧ p.calls.countP (·.isDenial) = 0 ∧
      p.calls.countP (·.isQueryAudit) = 1 := by
  simp [Passage.calls, submittedCalls, resolvedCalls, Event.isExecution, Event.isDenial,
    Event.isQueryAudit, p.allowed]

/-- A denied request calls the service nowhere, is audited for no query, and
for one denial. -/
theorem deniedCalls_counts (request : Request) (r : Resolved) (s : Submission)
    (decision : PolicyDecision) (result : Except Exn Unit) :
    (deniedCalls request r s decision result).countP (·.isExecution) = 0 ∧
      (deniedCalls request r s decision result).countP (·.isQueryAudit) = 0 ∧
      (deniedCalls request r s decision result).countP (·.isDenialAudit) = 1 := by
  simp [deniedCalls, submittedCalls, resolvedCalls, Event.isExecution, Event.isQueryAudit,
    Event.isDenialAudit]

/-- Masking the rows counts for nothing. -/
theorem countP_maskRows {after : List Event} {q : Event → Bool}
    (hq : ∀ rows masked sql result, q (.maskRows rows masked sql result) = false)
    (hafter : ∀ e ∈ after, ∃ rows masked sql result, e = .maskRows rows masked sql result) :
    after.countP q = 0 := by
  rw [List.countP_eq_zero]
  intro e he
  obtain ⟨rows, masked, sql, result, rfl⟩ := hafter e he
  simp [hq]

/-- The one occurrence of a call splits its record in one way. -/
theorem split_unique {α : Type} {q : α → Bool} {before after before' after' : List α} {x y : α}
    (hy : q y = true) (hbefore : before.countP q = 0)
    (hafter : after.countP q = 0) (h : before ++ x :: after = before' ++ y :: after') :
    before' = before ∧ y = x := by
  induction before generalizing before' with
  | nil =>
      cases before' with
      | nil => exact ⟨rfl, (List.cons_eq_cons.mp h).1.symm⟩
      | cons b before' =>
          obtain ⟨-, hrest⟩ := List.cons_eq_cons.mp h
          rw [show after = before' ++ y :: after' from hrest, List.countP_append,
            List.countP_cons, hy] at hafter
          simp at hafter
  | cons a before ih =>
      rw [List.countP_cons] at hbefore
      cases before' with
      | nil =>
          obtain ⟨rfl, -⟩ := List.cons_eq_cons.mp h
          simp [hy] at hbefore
      | cons b before' =>
          obtain ⟨rfl, hrest⟩ := List.cons_eq_cons.mp h
          obtain ⟨rfl, hxy⟩ := ih (Nat.eq_zero_of_add_eq_zero_right hbefore) hrest
          exact ⟨rfl, hxy⟩

/-- Every shape is mediated. -/
theorem Shape.mediated (h : Shape request log) : Mediated request log := by
  cases h with
  | quiet h =>
      have hexec : log.countP (·.isExecution) = 0 :=
        List.countP_eq_zero.mpr fun e he => by simp [(h e he).1]
      refine ⟨by rw [hexec]; exact Nat.zero_le 1, ?_, ?_, ?_⟩
      · rintro before service sql params after rfl
        exact absurd (h (.executeSqlStatement service sql params) (by simp)).1
          (by simp [Event.isExecution])
      · exact fun e he hex => absurd hex (by simp [(h e he).1])
      · exact fun e he hd => absurd hd (by simp [(h e he).2])
  | denied r s decision result =>
      obtain ⟨hexec, haudit, hdenial⟩ := deniedCalls_counts request r s decision result
      refine ⟨by rw [hexec]; exact Nat.zero_le 1, ?_, ?_, fun e _ _ => ⟨hdenial, haudit, hexec⟩⟩
      · intro before service sql params after hsplit
        rw [hsplit, List.countP_append, List.countP_cons] at hexec
        simp [Event.isExecution] at hexec
      · intro e he hex
        exact absurd hex (List.countP_eq_zero.mp hexec e he)
  | executed p after hafter =>
      obtain ⟨hexec, hdenial, haudit⟩ := p.counts
      have hafterExec : after.countP (·.isExecution) = 0 :=
        countP_maskRows (fun _ _ _ _ => rfl) hafter
      refine ⟨?_, ?_, ?_, ?_⟩
      · rw [List.countP_append, List.countP_cons, hexec, hafterExec]
        simp [Event.isExecution]
      · intro before service sql params after' hsplit
        obtain ⟨hbefore, hcall⟩ :=
          split_unique (q := (·.isExecution)) rfl hexec hafterExec hsplit
        simp only [Event.executeSqlStatement.injEq] at hcall
        obtain ⟨rfl, rfl, rfl⟩ := hcall
        exact ⟨rfl, p, hbefore, rfl, rfl⟩
      · intro e _ _
        rw [List.countP_append, List.countP_cons, haudit,
          countP_maskRows (fun _ _ _ _ => rfl) hafter]
        simp [Event.isQueryAudit]
      · intro e he hd
        rcases List.mem_append.mp he with he | he
        · exact absurd hd (List.countP_eq_zero.mp hdenial e he)
        · rcases List.mem_cons.mp he with rfl | he
          · simp [Event.isDenial] at hd
          · obtain ⟨rows, masked, sql, result, rfl⟩ := hafter e he
            simp [Event.isDenial] at hd

/-! ## Segment by segment -/

/-- Calls that neither reach the database nor are denied. -/
def Quiet (log : List Event) : Prop := ∀ e ∈ log, e.isExecution = false ∧ e.isDenial = false

theorem quiet_resolvedCalls (r : Resolved) : Quiet (resolvedCalls request r) := by
  simp [Quiet, resolvedCalls, Event.isExecution, Event.isDenial]

theorem quiet_submittedCalls (request : Request) (r : Resolved) (s : Submission) :
    Quiet (submittedCalls request r s) := by
  simp [Quiet, submittedCalls, resolvedCalls, Event.isExecution, Event.isDenial]

/-- Authentication and resolution: one call of the provider, or nothing that
matters. -/
theorem authenticateAndResolve_spec (o : Outcomes) (request : Request) :
    match authenticateAndResolve o request [] with
    | (.ok r, log) => request.principal = some r.principal ∧ log = resolvedCalls request r
    | (.error _, log) => Quiet log := by
  unfold authenticateAndResolve
  cases hp : request.principal with
  | none => simp [Quiet]
  | some principal =>
      dsimp only
      by_cases hsql : (request.sql = "" || strip request.sql = "") = true
      · simp [hsql, Quiet]
      · rw [if_neg hsql]
        cases o.providerInstance with
        | error e => simp [Quiet]
        | ok _ =>
            cases o.resolve with
            | error e => simp [Quiet, Event.isExecution, Event.isDenial]
            | ok found => simp [resolvedCalls]

/-- A full queue is audited as an overload. -/
theorem rejectQueueFull_spec (o : Outcomes) (request : Request) (r : Resolved)
    (quota : TenantQuota) : Quiet (rejectQueueFull o r quota (resolvedCalls request r)).2 := by
  unfold rejectQueueFull
  cases o.overloadAudit <;> simp [Quiet, resolvedCalls, Event.isExecution, Event.isDenial]

/-- A request rejected because the semaphore did not come free is quiet. -/
theorem rejectTimeout_spec (o : Outcomes) (request : Request) (r : Resolved)
    (quota : TenantQuota) : Quiet (rejectTimeout o r quota (resolvedCalls request r)).2 := by
  unfold rejectTimeout
  cases o.overloadAudit <;> simp [Quiet, resolvedCalls, Event.isExecution, Event.isDenial]

/-- Validation and submission: the statement that is submitted is the validated
one. -/
theorem submit_spec (config : Config) (o : Outcomes) (request : Request) (r : Resolved) :
    match submit config o request (resolvedCalls request r) with
    | (.ok s, log) => log = submittedCalls request r s
    | (.error _, log) => Quiet log := by
  unfold submit
  cases hclean : cleanAndValidateSql config.maxQueryLength o.cleanSql o.safetyRules with
  | error e => simp [Quiet, resolvedCalls, Event.isExecution, Event.isDenial]
  | ok cleaned =>
      have hne := cleanAndValidateSql_ne_empty hclean
      simp only [Run.call_bind_ok, if_neg hne]
      cases o.tablesTouched with
      | error e => simp [Quiet, resolvedCalls, Event.isExecution, Event.isDenial]
      | ok tables =>
          cases o.referencedColumns with
          | error e => simp [Quiet, resolvedCalls, Event.isExecution, Event.isDenial]
          | ok columns => simp [submittedCalls]

/-- From the evaluator's answer to the database: a passage, or a record of
which every shape is mediated. -/
theorem decide_spec (o : Outcomes) (request : Request) (r : Resolved) (s : Submission)
    (answer : Except Exn PolicyDecision) (hprincipal : request.principal = some r.principal) :
    match decide_ o request r s answer (submittedCalls request r s) with
    | (.ok e, log) => ∃ p : Passage request, p.resolved = r ∧ p.executed = e ∧
        log = p.calls ++ [.executeSqlStatement r.service e.execution request.params]
    | (.error _, log) => Shape request log := by
  have hsubmitted := quiet_submittedCalls request r s
  -- whatever is still called after an allowed decision keeps a failed request quiet
  have hquiet : ∀ made : List Event, Quiet made →
      Shape request (submittedCalls request r s ++ made) := fun made hmade =>
    .quiet fun e he => (List.mem_append.mp he).elim (hsubmitted e) (hmade e)
  unfold decide_
  cases answer with
  | error e =>
      exact hquiet _ (by simp [Quiet, Event.isExecution, Event.isDenial])
  | ok decision =>
      simp only [Run.call_bind_ok]
      unfold enforce
      cases hallowed : decision.allowed with
      | false =>
          have hshape : ∀ result, Shape request (submittedCalls request r s ++
              [.evaluate r.principal request.databaseId s.tables s.columns (.ok decision)] ++
              [.audit (.policyDenied r.principal.email r.principal.orgId r.binding.databaseId
                decision.reason decision.policyIds) result]) := by
            intro result
            rw [List.append_assoc]
            exact .denied r s decision result
          cases o.deniedAudit with
          | error e => exact hshape _
          | ok _ => exact hshape _
      | true =>
          simp only [Bool.not_true, Bool.false_eq_true, if_false]
          cases o.applyRowRestrictions with
          | error e =>
              simp only [Run.call_bind_error, List.append_assoc]
              exact hquiet _ (by simp [Quiet, Event.isExecution, Event.isDenial, hallowed])
          | ok restricted =>
          cases o.rewriteMaskedColumns with
          | error e =>
              simp only [Run.call_bind_ok, Run.call_bind_error, List.append_assoc]
              exact hquiet _ (by simp [Quiet, Event.isExecution, Event.isDenial, hallowed])
          | ok execution =>
          cases htarget : r.service.databaseTarget with
          | error e =>
              simp only [Run.call_bind_ok, Run.of_bind_error, List.append_assoc]
              exact hquiet _ (by simp [Quiet, Event.isExecution, Event.isDenial, hallowed])
          | ok target =>
          cases o.executedTables with
          | error e =>
              simp only [Run.call_bind_ok, Run.of_bind_ok, Run.call_bind_error, List.append_assoc]
              exact hquiet _ (by simp [Quiet, Event.isExecution, Event.isDenial, hallowed])
          | ok touched =>
          cases o.queryAudit with
          | error e =>
              simp only [Run.call_bind_ok, Run.of_bind_ok, Run.call_bind_error, List.append_assoc]
              exact hquiet _ (by simp [Quiet, Event.isExecution, Event.isDenial, hallowed])
          | ok _ =>
              simp only [Run.call_bind_ok, Run.of_bind_ok, Run.start_bind, Run.pure_apply]
              refine ⟨⟨r, s, ⟨decision, restricted, execution⟩, target, touched,
                if o.auditLogRawSql then some execution else none, hprincipal, hallowed⟩,
                rfl, rfl, ?_⟩
              simp [Passage.calls]

/-- The database's answer is masked or raises; either way the record ends. -/
theorem conclude_spec (o : Outcomes) (p : Passage request) (e : Execution)
    (answer : Except Exn (List Row)) :
    Shape request (conclude o e answer (p.calls ++
      [.executeSqlStatement p.resolved.service p.executed.execution request.params])).2 := by
  unfold conclude
  cases answer with
  | error e =>
      exact .executed p [] (by simp)
  | ok rows =>
      rw [Run.of_bind_ok, Run.call, List.append_assoc]
      exact .executed p [_] (by simp)

/-! ## Every run -/

/-- What a request has recorded when it stands at a stage. -/
def Stage.Recorded (request : Request) (log : List Event) : Stage → Prop
  | .start => log = []
  | .waiting r => request.principal = some r.principal ∧ log = resolvedCalls request r
  | .deciding r s => request.principal = some r.principal ∧ log = submittedCalls request r s
  | .running r e => ∃ p : Passage request, p.resolved = r ∧ p.executed = e ∧
      log = p.calls ++ [.executeSqlStatement r.service e.execution request.params]
  | .finished _ => Shape request log

def Task.Recorded (t : Task) : Prop := t.stage.Recorded t.request t.log

theorem quiet_shape (h : Quiet log) : Shape request log := .quiet h

/-- Leaving for the database, or through the `finally` block. -/
theorem recorded_dispatch {config : Config} {quotas quotas' : Quotas} {o : Outcomes}
    {r : Resolved} {s : Submission} {answer : Except Exn PolicyDecision} {t' : Task}
    (hprincipal : request.principal = some r.principal)
    (ht : dispatch config quotas request r
      (decide_ o request r s answer (submittedCalls request r s)) = (quotas', t')) :
    t'.Recorded := by
  have hspec := decide_spec o request r s answer hprincipal
  cases hrun : decide_ o request r s answer (submittedCalls request r s) with
  | mk result log =>
      rw [hrun] at hspec ht
      cases result with
      | error e =>
          obtain ⟨-, rfl⟩ := Prod.mk.inj ht
          exact hspec
      | ok e =>
          obtain ⟨-, rfl⟩ := Prod.mk.inj ht
          exact hspec

/-- A segment keeps the record of its stage. -/
theorem Task.Recorded.advance {config : Config} {quotas quotas' : Quotas} {t t' : Task}
    {wake : Wake} (h : t.Recorded) (ha : t.advance config quotas wake = some (quotas', t')) :
    t'.Recorded := by
  have hadvances := t.advances ha
  obtain ⟨request, stage, log⟩ := t
  replace h : stage.Recorded request log := h
  cases hadvances with
  | refused o hrun =>
      obtain rfl : log = [] := h
      have hspec := authenticateAndResolve_spec o request
      rw [hrun] at hspec
      exact quiet_shape hspec
  | full o hrun =>
      obtain rfl : log = [] := h
      have hspec := authenticateAndResolve_spec o request
      rw [hrun] at hspec
      obtain ⟨-, rfl⟩ := hspec
      exact quiet_shape (rejectQueueFull_spec o request _ _)
  | admitted o hrun _ =>
      obtain rfl : log = [] := h
      have hspec := authenticateAndResolve_spec o request
      rw [hrun] at hspec
      exact hspec
  | failed o r _ hrun =>
      obtain ⟨-, rfl⟩ := h
      have hspec := submit_spec config o request r
      rw [hrun] at hspec
      exact quiet_shape hspec
  | suspended o r _ hrun =>
      obtain ⟨hprincipal, rfl⟩ := h
      have hspec := submit_spec config o request r
      rw [hrun] at hspec
      exact ⟨hprincipal, hspec⟩
  | submitted o r answer _ hrun ht =>
      obtain ⟨hprincipal, rfl⟩ := h
      have hspec := submit_spec config o request r
      rw [hrun] at hspec
      obtain rfl := hspec
      exact recorded_dispatch hprincipal ht
  | timedOut o r =>
      obtain ⟨-, rfl⟩ := h
      exact quiet_shape (rejectTimeout_spec o request r _)
  | cancelled r =>
      obtain ⟨-, rfl⟩ := h
      exact quiet_shape (quiet_resolvedCalls r)
  | decided o r s answer ht =>
      obtain ⟨hprincipal, rfl⟩ := h
      exact recorded_dispatch hprincipal ht
  | answered o r e answer =>
      obtain ⟨p, rfl, rfl, rfl⟩ := h
      exact conclude_spec o p p.executed answer

/-- What is recorded at each stage is mediated. -/
theorem Task.Recorded.mediated {t : Task} (h : t.Recorded) : Mediated t.request t.log := by
  obtain ⟨request, stage, log⟩ := t
  replace h : stage.Recorded request log := h
  refine Shape.mediated ?_
  cases stage with
  | start =>
      obtain rfl : log = [] := h
      exact quiet_shape (by simp [Quiet])
  | waiting r =>
      obtain ⟨-, rfl⟩ := h
      exact quiet_shape (quiet_resolvedCalls r)
  | deciding r s =>
      obtain ⟨-, rfl⟩ := h
      exact quiet_shape (quiet_submittedCalls _ r s)
  | running r e =>
      obtain ⟨p, rfl, rfl, rfl⟩ := h
      exact .executed p [] (by simp)
  | finished result => exact h

/-- A request that has just arrived. -/
def Task.Fresh (t : Task) : Prop := t.stage = .start ∧ t.log = []

/-- A segment of a request: some wake-up advances it. -/
def Segment (config : Config) (quotas : Quotas) (t : Task) (quotas' : Quotas) (t' : Task) : Prop :=
  ∃ wake, t.advance config quotas wake = some (quotas', t')

/-- The gateway and its requests, from any quotas it starts with. -/
abbrev Reachable (config : Config) (quotas : Quotas) (S : Cooperative.System Quotas Task) : Prop :=
  Cooperative.Reachable Task.Fresh (Segment config) quotas S

/-- **Complete mediation**: in every interleaving, and whatever each call does,
every request is mediated. -/
theorem execute_mediated {config : Config} {quotas : Quotas}
    {S : Cooperative.System Quotas Task} (h : Reachable config quotas S) :
    ∀ t ∈ S.tasks, Mediated t.request t.log := by
  have hrecorded : ∀ t ∈ S.tasks, t.Recorded := by
    refine h.forall_task ?_ ?_
    · rintro ⟨request, stage, log⟩ ⟨rfl, rfl⟩
      exact rfl
    · rintro quotas t quotas' t' ⟨wake, ha⟩ hrec
      exact hrec.advance ha
  exact fun t ht => (hrecorded t ht).mediated

/-- A request for one column. -/
def titleRequest : Request where
  principal := some ⟨"alice", "alice@corp.com", "tenant-a", ∅, []⟩
  databaseId := "db-a"
  sql := "SELECT title FROM album"

/-- Every call returns, and the decision is allowed. -/
def allReturn : Outcomes where
  providerInstance := .ok ()
  resolve := .ok (⟨"tenant-a", "db-a"⟩, ⟨"primary-service", .ok "primary"⟩)
  overloadAudit := .ok ()
  cleanSql := .ok "SELECT title FROM album"
  safetyRules := true
  tablesTouched := .ok ["album"]
  referencedColumns := .ok {"title"}
  evaluate := .ok (some ⟨true, "Allowed by policy.", ["p"], [], ∅⟩)
  deniedAudit := .ok ()
  applyRowRestrictions := .ok "SELECT title FROM album"
  rewriteMaskedColumns := .ok "SELECT title FROM album"
  executedTables := .ok ["album"]
  auditLogRawSql := false
  queryAudit := .ok ()
  maskRows := .ok []

/-- A request that runs alone to the database has reached it through the
gateway's calls. -/
theorem execute_mediated_title : ∃ t : Task, t.request = titleRequest ∧
    (∃ e ∈ t.log, e.isExecution = true) ∧ Mediated t.request t.log := by
  have harrive : Reachable ⟨5, 10, 10000⟩ (fun _ => none)
      ⟨fun _ => none, [⟨titleRequest, .start, []⟩]⟩ :=
    .tail .refl (.arrive ⟨rfl, rfl⟩)
  have hbegin := harrive.tail (.run [] [] ⟨.begin allReturn, rfl⟩)
  have hacquired := hbegin.tail (.run [] [] ⟨.acquired allReturn, rfl⟩)
  refine ⟨_, ?_, ?_, execute_mediated hacquired _ List.mem_cons_self⟩
  · rfl
  · exact ⟨_, List.mem_append_right _ List.mem_cons_self, rfl⟩

end DbGateway.Gateway
