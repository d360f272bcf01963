import DbGateway.Gateway.Mediation
import DbGateway.Repository.Mediation

/-!
# DbGateway.Gateway.Served

The gateway over the repositories of its tenants: what `execute` returns, down to
the database.

The service of a request answers what its repository answers, whatever the
database does; a request is taken together with the calls made of the database
for it.  Without these calls a run is a run of the gateway (`Reachable.forget`),
so that what holds of every run of the gateway holds here.
-/

namespace DbGateway.Gateway

open Dialogue (Exchange)
open Repository (Executed Fetched SqlQueryRepository Trace)
open Sql (PythonUpper Sqlglot Sqlparse)

section

variable {config : Config}

/-! ## Results -/

/-- A rejected request returns no rows. -/
theorem rejectQueueFull_error (o : Outcomes) (r : Resolved) (quota : TenantQuota)
    (log : List Event) : ∃ e, (rejectQueueFull o r quota log).1 = .error e := by
  unfold rejectQueueFull
  cases o.overloadAudit <;> exact ⟨_, rfl⟩

theorem rejectTimeout_error (o : Outcomes) (r : Resolved) (quota : TenantQuota)
    (log : List Event) : ∃ e, (rejectTimeout o r quota log).1 = .error e := by
  unfold rejectTimeout
  cases o.overloadAudit <;> exact ⟨_, rfl⟩

/-- A request that leaves for the database has no result yet, and one that does not
has no rows. -/
theorem dispatch_result {quotas quotas' : Quotas} {request : Request} {r : Resolved}
    {outcome : Except Exn Execution × List Event} {t' : Task} {result : Except Exn (List Row)}
    (h : dispatch config quotas request r outcome = (quotas', t'))
    (hstage : t'.stage = .finished result) : ∃ e, result = .error e := by
  obtain ⟨outcome, log⟩ := outcome
  cases outcome with
  | ok e =>
      obtain ⟨-, rfl⟩ := Prod.mk.inj h
      cases hstage
  | error e =>
      obtain ⟨-, rfl⟩ := Prod.mk.inj h
      exact ⟨e, (Stage.finished.inj hstage).symm⟩

/-- Only the database's answer gives rows. -/
theorem Task.advance_result {quotas quotas' : Quotas} {t t' : Task} {wake : Wake}
    {result : Except Exn (List Row)} (ha : t.advance config quotas wake = some (quotas', t'))
    (hwake : ∀ o answer, wake ≠ .answered o answer) (hstage : t'.stage = .finished result) :
    ∃ e, result = .error e := by
  have hrunning : ∀ r e, t.stage ≠ .running r e := by
    intro r e hrunning
    cases wake with
    | answered o answer => exact hwake o answer rfl
    | _ => simp [Task.advance, hrunning] at ha
  have hadvances := t.advances ha
  generalize hbefore : t.stage = before at hadvances
  cases hadvances with
  | refused o h => exact ⟨_, (Stage.finished.inj hstage).symm⟩
  | full o h => exact (Stage.finished.inj hstage) ▸ rejectQueueFull_error o _ _ _
  | admitted o h hroom => cases hstage
  | failed o r hfree h => exact ⟨_, (Stage.finished.inj hstage).symm⟩
  | suspended o r hfree h => cases hstage
  | submitted o r answer hfree h ht => exact dispatch_result ht hstage
  | timedOut o r => exact (Stage.finished.inj hstage) ▸ rejectTimeout_error o r _ _
  | cancelled r => exact ⟨_, (Stage.finished.inj hstage).symm⟩
  | decided o r s answer ht => exact dispatch_result ht hstage
  | answered o r e answer => exact absurd hbefore (hrunning r e)

/-- A request that goes on has no result yet. -/
theorem Task.unfinished {quotas quotas' : Quotas} {t t' : Task} {wake : Wake}
    (ha : t.advance config quotas wake = some (quotas', t')) (result : Except Exn (List Row)) :
    t.stage ≠ .finished result := by
  intro hfinished
  cases wake <;> simp [Task.advance, hfinished] at ha

/-- What the database's answer makes of a request. -/
theorem Task.answered_stage {quotas quotas' : Quotas} {t t' : Task} {o : Outcomes} {r : Resolved}
    {e : Execution} {answer : Except Exn (List Row)} (hstage : t.stage = .running r e)
    (ha : t.advance config quotas (.answered o answer) = some (quotas', t')) :
    t' = ⟨t.request, .finished (conclude o e answer t.log).1, (conclude o e answer t.log).2⟩ := by
  simp only [Task.advance, hstage, Option.some.injEq, Prod.mk.injEq] at ha
  exact ha.2.symm

/-- Rows that are returned were masked. -/
theorem conclude_ok {o : Outcomes} {e : Execution} {answer : Except Exn (List Row)}
    {log : List Event} {rows : List Row} (h : (conclude o e answer log).1 = .ok rows) :
    ∃ fetched, answer = .ok fetched ∧ (conclude o e answer log).2 =
      log ++ [.maskRows fetched e.decision.maskedColumns e.restricted (.ok rows)] := by
  cases answer with
  | error exn => cases h
  | ok fetched =>
      have hrows : o.maskRows = .ok rows := h
      refine ⟨fetched, rfl, ?_⟩
      rw [← hrows]
      rfl

/-- The database's answer may be masked, and nothing else follows it. -/
theorem conclude_log (o : Outcomes) (e : Execution) (answer : Except Exn (List Row))
    (log : List Event) : ∃ after, (conclude o e answer log).2 = log ++ after := by
  cases answer with
  | error exn => exact ⟨[], (List.append_nil log).symm⟩
  | ok fetched => exact ⟨_, rfl⟩

end

/-! ## Requests and their databases -/

/-- An exception of the repository, as the gateway sees it. -/
def ofRepository : Repository.Exn → Exn
  | .valueError message => .valueError message
  | .cancelled => .cancelled
  | .forbiddenSqlStatement _ => .raised "ForbiddenSqlStatementError"
  | .sqlStatementExecution _ => .raised "SqlStatementExecutionError"
  | .timeoutError => .raised "TimeoutError"
  | .raised name _ _ => .raised name

/-- A request, with the calls made of the database for it. -/
structure Served where
  task : Task
  trace : Trace Json := []

section

variable [Python] [PythonUpper] [PythonTables] [Sqlglot] [Sqlparse] (config : Config)
  (repositories : QueryService → SqlQueryRepository Json) (jsonOf : Json → Json)

/-- A segment of a request.  `SqlQueryService.execute_sql_statement` passes on
what its repository returns or raises. -/
inductive Served.Segment : Quotas → Served → Quotas → Served → Prop
  | elsewhere {quotas quotas' : Quotas} {t t' : Task} (wake : Wake) (trace : Trace Json)
      (hwake : ∀ o answer, wake ≠ .answered o answer)
      (ha : t.advance config quotas wake = some (quotas', t')) :
      Segment quotas ⟨t, trace⟩ quotas' ⟨t', trace⟩
  | answered {quotas quotas' : Quotas} {t t' : Task} (o : Outcomes) {r : Resolved} {e : Execution}
      {body : Trace Json} {result : Except Repository.Exn (List Row)} (trace : Trace Json)
      (hstage : t.stage = .running r e)
      (hrun : ((repositories r.service).executeSqlStatement .str jsonOf e.execution
        t.request.params).Runs body result)
      (ha : t.advance config quotas (.answered o (result.mapError ofRepository)) =
        some (quotas', t')) :
      Segment quotas ⟨t, trace⟩ quotas' ⟨t', trace ++ body⟩

/-- A request that has just arrived. -/
def Served.Fresh (s : Served) : Prop := s.task.Fresh ∧ s.trace = []

/-- The gateway, its requests and their databases. -/
abbrev Served.Reachable (quotas : Quotas) (S : Cooperative.System Quotas Served) : Prop :=
  Cooperative.Reachable Served.Fresh (Served.Segment config repositories jsonOf) quotas S

variable {config repositories jsonOf}

/-- Without the databases, a run is a run of the gateway. -/
theorem Served.Reachable.forget {quotas : Quotas} {S : Cooperative.System Quotas Served}
    (h : Served.Reachable config repositories jsonOf quotas S) :
    Gateway.Reachable config quotas ⟨S.shared, S.tasks.map Served.task⟩ := by
  refine Cooperative.Reachable.map Served.task (fun s hs => hs.1) ?_ h
  rintro quotas s quotas' s' (⟨wake, trace, -, ha⟩ | ⟨o, trace, -, -, ha⟩)
  · exact ⟨_, ha⟩
  · exact ⟨_, ha⟩

/-! ## Every run -/

/-- The calls made of the database for a request, next to those of the gateway. -/
structure Served.Governed (repositories : QueryService → SqlQueryRepository Json)
    (jsonOf : Json → Json) (s : Served) : Prop where
  /-- Only a request let through reaches the database, and with the statement it
  was let through for. -/
  reached : s.trace = [] ∨ ∃ (p : Passage s.task.request) (after : List Event)
    (result : Except Repository.Exn (List Row)),
    s.task.log = p.calls ++ .executeSqlStatement p.resolved.service p.executed.execution
      s.task.request.params :: after ∧
    Executed (repositories p.resolved.service) .str jsonOf p.executed.execution
      s.task.request.params s.trace result
  /-- Rows that are returned were fetched by that statement, and masked. -/
  returned : ∀ rows, s.task.stage = .finished (.ok rows) →
    ∃ (p : Passage s.task.request) (fetched : List Row),
      s.task.log = p.calls ++ [.executeSqlStatement p.resolved.service p.executed.execution
          s.task.request.params,
        .maskRows fetched p.executed.decision.maskedColumns p.executed.restricted (.ok rows)] ∧
      Fetched (repositories p.resolved.service) .str jsonOf p.executed.execution
        s.task.request.params s.trace fetched
  /-- A denied request does not reach it. -/
  denied : ∀ e ∈ s.task.log, e.isDenial = true → s.trace = []

/-- What a request keeps from segment to segment. -/
structure Served.Kept (repositories : QueryService → SqlQueryRepository Json)
    (jsonOf : Json → Json) (s : Served) : Prop where
  recorded : s.task.Recorded
  untouched : (∀ result, s.task.stage ≠ .finished result) → s.trace = []
  governed : s.Governed repositories jsonOf

/-- A request that never stood at the database. -/
theorem Served.Kept.of_untouched {t : Task} (hrecorded : t.Recorded)
    (hresult : ∀ result, t.stage = .finished result → ∃ e, result = .error e) :
    Served.Kept repositories jsonOf ⟨t, []⟩ where
  recorded := hrecorded
  untouched _ := rfl
  governed :=
    { reached := .inl rfl
      returned := by
        intro rows hstage
        obtain ⟨e, he⟩ := hresult _ hstage
        cases he
      denied := fun _ _ _ => rfl }

/-- **A segment of a request** leaves its record complete and its answer governed. -/
theorem Served.Kept.segment {quotas quotas' : Quotas} {s s' : Served}
    (h : s.Kept repositories jsonOf)
    (hsegment : Served.Segment config repositories jsonOf quotas s quotas' s') :
    s'.Kept repositories jsonOf := by
  cases hsegment with
  | @elsewhere _ t t' wake trace hwake ha =>
      have huntouched : trace = [] := h.untouched fun result => Task.unfinished ha result
      rw [huntouched]
      exact .of_untouched (h.recorded.advance ha) fun result => t.advance_result ha hwake
  | @answered _ t t' o r e body result trace hstage hrun ha =>
      have huntouched : trace = [] := h.untouched fun result => Task.unfinished ha result
      have hrecorded := h.recorded.advance ha
      obtain ⟨p, hp, hexecuted, hlog⟩ : ∃ p : Passage t.request, p.resolved = r ∧ p.executed = e ∧
          t.log = p.calls ++ [.executeSqlStatement r.service e.execution t.request.params] := by
        have hrunning := h.recorded
        rw [Task.Recorded, show t.stage = _ from hstage] at hrunning
        exact hrunning
      have hdone := Repository.executeSqlStatement_does (repositories r.service) .str jsonOf
        e.execution t.request.params _ _ hrun
      subst hp hexecuted
      rw [huntouched, List.nil_append]
      obtain rfl := Task.answered_stage hstage ha
      obtain ⟨after, hafter⟩ := conclude_log o p.executed (result.mapError ofRepository) t.log
      refine ⟨hrecorded, fun hresult => absurd rfl (hresult _), ?_, ?_, ?_⟩
      · refine .inr ⟨p, after, result, ?_, hdone⟩
        rw [hafter, hlog, List.append_assoc, List.singleton_append]
      · intro rows hrows
        obtain ⟨fetched, hanswer, hmasked⟩ := conclude_ok (Stage.finished.inj hrows)
        refine ⟨p, fetched, ?_, ?_⟩
        · rw [hmasked, hlog, List.append_assoc, List.singleton_append]
        · cases result with
          | error exn => cases hanswer
          | ok answer =>
              obtain rfl := Except.ok.inj hanswer
              exact hdone.fetched
      · intro event hevent hdenial
        obtain ⟨-, -, hexecution⟩ := hrecorded.mediated.denied event hevent hdenial
        refine absurd (List.countP_eq_zero.mp hexecution
          (.executeSqlStatement p.resolved.service p.executed.execution t.request.params) ?_) (by
            simp [Event.isExecution])
        rw [hafter, hlog]
        simp

/-- **What `execute` returns, down to the database.**  In every interleaving, and
whatever the databases do: a request reaches the database of its binding only with
the statement its passage ends with, and not when it was denied; the rows it
returns are those this one statement gave, masked. -/
theorem rows_governed {quotas : Quotas} {S : Cooperative.System Quotas Served}
    (h : Served.Reachable config repositories jsonOf quotas S) :
    Reachable config quotas ⟨S.shared, S.tasks.map Served.task⟩ ∧
      ∀ s ∈ S.tasks, s.Governed repositories jsonOf := by
  have hkept : ∀ s ∈ S.tasks, s.Kept repositories jsonOf := by
    refine h.forall_task ?_ fun quotas s quotas' s' hsegment hs => hs.segment hsegment
    rintro ⟨⟨request, stage, log⟩, trace⟩ ⟨⟨rfl, rfl⟩, rfl⟩
    exact .of_untouched rfl fun result hstage => by cases hstage
  exact ⟨Served.Reachable.forget h, fun s hs => (hkept s hs).governed⟩

end

section

open Repository (boundedTitle executeSqlStatement_title setUp titleRepository)
open Sql (titleText titleQuery parserOf tokensOf albumTokens)

local instance : Python := Python.folding
local instance : PythonTables := PythonTables.folding
local instance : PythonUpper := PythonUpper.ascii
local instance : Sqlglot := parserOf titleText titleQuery
local instance : Sqlparse :=
  tokensOf (albumTokens ⟨none, some "title"⟩ ⟨none, some "album"⟩ "title" "album")

/-- What is fetched. -/
def titleRows : List Row := [[("title", .str "A")]]

/-- The calls of the database for one title. -/
def titleTrace : Trace Json :=
  ⟨.connect, .ok "postgresql"⟩ ::
    ((((titleRepository Json).setup (some "public") "postgresql").map fun text =>
        (text, ⟨none⟩)).map setUp ++
      [⟨.execute boundedTitle [], .ok ⟨some ⟨[titleRows], by decide⟩⟩⟩, ⟨.close, .ok ()⟩])

/-- No column is masked, so the rows are returned as they are. -/
def titlesReturned : Outcomes := { allReturn with maskRows := .ok titleRows }

/-- The policy does not allow it. -/
def titlesDenied : Outcomes :=
  { allReturn with evaluate := .ok (some ⟨false, "Denied by policy.", ["q"], [], ∅⟩) }

/-- Of two requests under way, one is answered and one denied. -/
theorem rows_governed_title : ∃ answered denied : Served,
    (answered.task.stage = .finished (.ok titleRows) ∧ answered.trace = titleTrace ∧
      answered.Governed (fun _ => titleRepository Json) id) ∧
    denied.Governed (fun _ => titleRepository Json) id ∧
      (∃ e ∈ denied.task.log, e.isDenialAudit = true) ∧ denied.trace = [] := by
  have harrive : Served.Reachable ⟨5, 10, 10000⟩ (fun _ => titleRepository Json) id (fun _ => none)
      ⟨fun _ => none, [⟨⟨titleRequest, .start, []⟩, []⟩]⟩ :=
    .tail .refl (.arrive ⟨⟨rfl, rfl⟩, rfl⟩)
  have hsecond : Served.Reachable ⟨5, 10, 10000⟩ (fun _ => titleRepository Json) id (fun _ => none)
      ⟨fun _ => none,
        [⟨⟨titleRequest, .start, []⟩, []⟩, ⟨⟨titleRequest, .start, []⟩, []⟩]⟩ :=
    harrive.tail (.arrive ⟨⟨rfl, rfl⟩, rfl⟩)
  have hbegin := hsecond.tail (.run [] _ (.elsewhere (.begin allReturn) [] (by simp) rfl))
  have hboth := hbegin.tail (.run [_] [] (.elsewhere (.begin allReturn) [] (by simp) rfl))
  have hacquired := hboth.tail
    (.run [] _ (.elsewhere (.acquired titlesReturned) [] (by simp) rfl))
  have hdenied := hacquired.tail
    (.run [_] [] (.elsewhere (.acquired titlesDenied) [] (by simp) rfl))
  have hrun : ∃ rows, ((titleRepository Json).executeSqlStatement .str id titleText none).Runs
      titleTrace (.ok rows) := by
    rw [executeSqlStatement_title]
    exact ⟨_, .call (.call (.call (.call (.call (.call (.call (.call (.done _))))))))⟩
  obtain ⟨rows, hrun⟩ := hrun
  have hanswered := hdenied.tail (.run [] _ (.answered titlesReturned [] rfl hrun rfl))
  have hgoverned := (rows_governed hanswered).2
  exact ⟨_, _, ⟨rfl, rfl, hgoverned _ List.mem_cons_self⟩,
    hgoverned _ (List.mem_cons_of_mem _ List.mem_cons_self),
    ⟨_, List.mem_append_right _ List.mem_cons_self, rfl⟩, rfl⟩

end

end DbGateway.Gateway
