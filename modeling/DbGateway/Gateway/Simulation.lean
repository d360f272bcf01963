import DbGateway.Gateway.Calls
import DbGateway.Policy.Opa
import DbGateway.Sql.Cleaner

/-!
# DbGateway.Gateway.Simulation

`Query.simulate_policy` and the policy stage of `GovernedQueryGateway.execute`.

Both clean, validate and evaluate the same statement, so they reach the same
decision.  Execution then resolves the attributes the decision restricts rows
by, and raises when one is missing; simulation does not.  They agree exactly
when the evaluator restricts rows by attributes the principal carries
(`simulation_agrees_iff`).
-/

namespace DbGateway.Gateway

/-! ## The calls of `apply_row_restrictions` -/

/-- Not a call of `apply_row_restrictions`. -/
def NotRestriction (e : Event) : Prop :=
  ∀ sql restrictions principal result,
    e ≠ .applyRowRestrictions sql restrictions principal result

theorem submit_notRestriction (config : Config) (o : Outcomes) (request : Request) :
    (submit config o request).Emits NotRestriction := by
  unfold submit
  refine (Run.emits_call ?_).bind fun cleaned => ?_
  · intro sql restrictions principal result h
    contradiction
  refine (Run.emits_call ?_).bind fun tables => ?_
  · intro sql restrictions principal result h
    contradiction
  refine (Run.emits_call ?_).bind fun columns => Run.emits_pure _
  intro sql restrictions principal result h
  contradiction

/-- A decision that does not allow ends the request. -/
theorem enforce_denied {o : Outcomes} {request : Request} {r : Resolved} {cleaned : String}
    {decision : PolicyDecision} (hdenied : decision.allowed = false) :
    (enforce o request r cleaned decision).Emits NotRestriction := by
  unfold enforce
  rw [hdenied]
  refine (Run.emits_call ?_).bind fun _ => Run.emits_raise _
  intro sql restrictions principal result h
  contradiction

/-- Rows are restricted at most as the environment restricts them. -/
def RestrictedAs (outcome : Except Exn String) (e : Event) : Prop :=
  ∀ sql restrictions principal result,
    e = .applyRowRestrictions sql restrictions principal result → result = outcome

/-- A decision that allows is followed by the row restrictions. -/
theorem enforce_allowed (o : Outcomes) (request : Request) (r : Resolved) (cleaned : String)
    {decision : PolicyDecision} (hallowed : decision.allowed = true) (log : List Event) :
    Event.applyRowRestrictions cleaned decision.rowRestrictions r.principal
        o.applyRowRestrictions ∈ (enforce o request r cleaned decision log).2 ∧
      (enforce o request r cleaned decision).Emits (RestrictedAs o.applyRowRestrictions) := by
  have hother : ∀ e : Event, NotRestriction e → RestrictedAs o.applyRowRestrictions e := by
    intro e hnot sql restrictions principal result h
    exact absurd h (hnot sql restrictions principal result)
  unfold enforce
  rw [hallowed]
  constructor
  · refine Run.mem_call_bind (fun restricted => ?_) log
    refine (Run.keeps_call _ _).bind fun execution => ?_
    refine (Run.keeps_of _).bind fun target => ?_
    refine (Run.keeps_call _ _).bind fun touched => ?_
    refine (Run.keeps_call _ _).bind fun _ => ?_
    exact (Run.keeps_start _).bind fun _ => Run.keeps_pure _
  · refine (Run.emits_call ?_).bind fun restricted => ?_
    · intro sql restrictions principal result h
      rw [Event.applyRowRestrictions.injEq] at h
      exact h.2.2.2.symm
    refine (Run.emits_call (hother _ ?_)).bind fun execution => ?_
    · intro sql restrictions principal result h
      contradiction
    refine (Run.emits_of _).bind fun target => ?_
    refine (Run.emits_call (hother _ ?_)).bind fun touched => ?_
    · intro sql restrictions principal result h
      contradiction
    refine (Run.emits_call (hother _ ?_)).bind fun _ => ?_
    · intro sql restrictions principal result h
      contradiction
    refine (Run.emits_start (hother _ ?_)).bind fun _ => Run.emits_pure _
    intro sql restrictions principal result h
    contradiction

section

variable [Python] [Sql.PythonUpper] [Sql.Sqlglot]

/-- What the gateway and the controller are set up with. -/
structure Environment where
  config : Config
  /-- `_tenant_service_provider.resolve` -/
  resolve : Principal → String → Except Exn (TenantDatabaseConfig × QueryService)
  /-- The checks of `is_safe_select_query` after the first three. -/
  safetyRules : String → Bool
  tablesTouched : String → Except Exn (List String)
  referencedColumns : String → Except Exn (Finset String)
  evaluator : Evaluator
  /-- What sqlglot prints of a tree. -/
  print : Sql.Query → String

namespace Environment

/-- `clean_sql`, as the checker calls it. -/
def cleanSql (sql : String) : Except Exn String := (Sql.cleanSql sql).mapError .valueError

/-- The rules on what is left of a statement. -/
def accepts (env : Environment) (sql : String) : Bool :=
  match Sql.cleanSql sql with
  | .ok cleaned => env.safetyRules cleaned
  | .error _ => false

/-- `clean_and_validate_sql` -/
def cleanAndValidate (env : Environment) (sql : String) : Except Exn String :=
  cleanAndValidateSql env.config.maxQueryLength (cleanSql sql) (env.accepts sql)

/-- What is asked of the evaluator about a validated statement. -/
def submission (env : Environment) (sql : String) : Except Exn Submission := do
  let cleaned ← env.cleanAndValidate sql
  let tables ← env.tablesTouched cleaned
  let columns ← env.referencedColumns cleaned
  return ⟨cleaned, tables, columns⟩

/-- The evaluator's decision. -/
def decision (env : Environment) (principal : Principal) (databaseId : String) (s : Submission) :
    PolicyDecision :=
  env.evaluator.evaluate principal databaseId s.tables s.columns

/-- `apply_row_restrictions`, with the text it returns. -/
def applyRowRestrictions (env : Environment) (sql : String) (restrictions : Dict String)
    (principal : Principal) : Except Exn String :=
  match Sql.applyRowRestrictions sql restrictions principal with
  | .ok (.unchanged sql) => .ok sql
  | .ok (.printed tree) => .ok (env.print tree)
  | .error (.permissionError message) => .error (.permissionError message)
  | .error (.valueError message) => .error (.valueError message)

/-! ## Simulation -/

/-- `Query.simulate_policy`: the decision it reports. -/
def simulatePolicy (env : Environment) (principal : Principal) (databaseId sqlStatement : String) :
    Except Exn PolicyDecision := do
  let (binding, _) ← env.resolve principal databaseId
  if "admin" ∉ principal.roles then
    throw (.permissionError "Policy simulation requires an administrator role.")
  let sql := strip sqlStatement
  if sql = "" then throw (.valueError "SQL statement cannot be empty.")
  let s ← env.submission sql
  return env.decision principal binding.databaseId s

/-! ## Execution -/

/-- What the calls of the policy stage do in this environment; the others are
as given. -/
def outcomes (env : Environment) (o : Outcomes) (request : Request) (principal : Principal) :
    Outcomes :=
  { o with
    cleanSql := cleanSql request.sql
    safetyRules := env.accepts request.sql
    tablesTouched := env.cleanAndValidate request.sql >>= env.tablesTouched
    referencedColumns := env.cleanAndValidate request.sql >>= env.referencedColumns
    applyRowRestrictions := do
      let s ← env.submission request.sql
      env.applyRowRestrictions s.cleaned
        (env.decision principal request.databaseId s).rowRestrictions principal }

/-- `execute`, from the validation of the statement to the database. -/
def policyStage (env : Environment) (o : Outcomes) (request : Request) (r : Resolved) :
    Run Execution := do
  let s ← submit env.config (env.outcomes o request r.principal) request
  decide_ (env.outcomes o request r.principal) request r s
    (.ok (env.decision r.principal request.databaseId s))

/-- The rows were restricted, and that raised no `PermissionError`. -/
def Passed (log : List Event) : Prop :=
  ∃ sql restrictions principal result,
    Event.applyRowRestrictions sql restrictions principal result ∈ log ∧
      ∀ message, result ≠ .error (.permissionError message)

/-- Executing the statement passes the policy stage. -/
def ExecutionPasses (env : Environment) (o : Outcomes) (principal : Principal)
    (databaseId sqlStatement : String) : Prop :=
  ∃ binding service, env.resolve principal databaseId = .ok (binding, service) ∧
    strip sqlStatement ≠ "" ∧
    Passed (env.policyStage o ⟨some principal, binding.databaseId, sqlStatement, none⟩
      ⟨principal, binding, service⟩ []).2

/-! ## Both prepare the same statement -/

omit [Sql.Sqlglot] in
/-- Whitespace around the statement does not matter. -/
theorem submission_strip (env : Environment) {sql : String} (h : strip sql ≠ "") :
    env.submission (strip sql) = env.submission sql := by
  have hclean : env.cleanAndValidate (strip sql) = env.cleanAndValidate sql := by
    simp only [cleanAndValidate, cleanSql, accepts, Sql.cleanSql_strip h]
  rw [submission, submission, hclean]

/-- Execution submits what simulation does. -/
theorem submit_fst (env : Environment) (o : Outcomes) (request : Request) (principal : Principal)
    (log : List Event) :
    (submit env.config (env.outcomes o request principal) request log).1 =
      env.submission request.sql := by
  have hvalidate : cleanAndValidateSql env.config.maxQueryLength
      (env.outcomes o request principal).cleanSql (env.outcomes o request principal).safetyRules =
        env.cleanAndValidate request.sql := rfl
  unfold submit submission
  cases hclean : env.cleanAndValidate request.sql with
  | error e =>
      rw [hvalidate, hclean]
      rfl
  | ok cleaned =>
      have hne : cleaned ≠ "" := cleanAndValidateSql_ne_empty hclean
      have htables : (env.outcomes o request principal).tablesTouched =
          env.tablesTouched cleaned := by
        simp only [outcomes, hclean]
        rfl
      have hcolumns : (env.outcomes o request principal).referencedColumns =
          env.referencedColumns cleaned := by
        simp only [outcomes, hclean]
        rfl
      simp only [hvalidate, hclean, Run.call_bind_ok, if_neg hne, htables, hcolumns]
      cases htouched : env.tablesTouched cleaned with
      | error e => simp [htouched, Bind.bind, Except.bind, Run.bind, Run.call]
      | ok tables =>
          cases hreferenced : env.referencedColumns cleaned with
          | error e => simp [htouched, hreferenced, Bind.bind, Except.bind, Run.bind, Run.call]
          | ok columns =>
              simp [htouched, hreferenced, Bind.bind, Except.bind, Run.bind, Run.call,
                Pure.pure, Run.pure, Except.pure]

/-! ## What execution does with the decision -/

omit [Sql.PythonUpper] in
/-- The restrictions can be resolved, or a `PermissionError` is raised. -/
theorem applyRowRestrictions_permission_iff (env : Environment) (sql : String)
    (restrictions : Dict String) (principal : Principal) :
    (∀ message, env.applyRowRestrictions sql restrictions principal ≠
      .error (.permissionError message)) ↔ Sql.Carries principal restrictions := by
  unfold applyRowRestrictions Sql.applyRowRestrictions
  by_cases hcarries : Sql.Carries principal restrictions
  · refine iff_of_true (fun message => ?_) hcarries
    by_cases hnil : restrictions = []
    · rw [if_pos hnil]
      exact fun h => nomatch h
    · rw [if_neg hnil, Sql.resolveRestrictions_of_carries hcarries]
      cases hparse : Sql.parseOne sql with
      | none => exact fun h => nomatch h
      | some tree => exact fun h => nomatch h
  · refine iff_of_false (fun hnever => ?_) hcarries
    have hnil : restrictions ≠ [] := by
      intro hnil
      exact hcarries (by simp [hnil, Sql.Carries])
    obtain ⟨message, hmessage⟩ := Sql.resolveRestrictions_of_not_carries hcarries []
    rw [if_neg hnil, hmessage] at hnever
    exact hnever message rfl

omit [Python] [Sql.PythonUpper] [Sql.Sqlglot] in
/-- Nothing passes where no restriction is applied. -/
theorem not_passed {log : List Event} (h : ∀ e ∈ log, NotRestriction e) : ¬ Passed log := by
  intro hpassed
  obtain ⟨sql, restrictions, principal, result, hmem, -⟩ := hpassed
  exact h _ hmem sql restrictions principal result rfl

/-- A submitted statement passes where the decision allows and the principal
carries what it restricts rows by. -/
theorem decided_passed_iff (env : Environment) (o : Outcomes) (request : Request) (r : Resolved)
    {s : Submission} (hs : env.submission request.sql = .ok s) {log : List Event}
    (hlog : ∀ e ∈ log, NotRestriction e) :
    Passed (decide_ (env.outcomes o request r.principal) request r s
        (.ok (env.decision r.principal request.databaseId s)) log).2 ↔
      (env.decision r.principal request.databaseId s).allowed = true ∧
        Sql.Carries r.principal
          (env.decision r.principal request.databaseId s).rowRestrictions := by
  have houtcome : (env.outcomes o request r.principal).applyRowRestrictions =
      env.applyRowRestrictions s.cleaned
        (env.decision r.principal request.databaseId s).rowRestrictions r.principal := by
    simp only [outcomes, hs]
    rfl
  have hbefore : ∀ e ∈ log ++ [Event.evaluate r.principal request.databaseId s.tables
      s.columns (.ok (env.decision r.principal request.databaseId s))], NotRestriction e := by
    refine Run.forall_append hlog ?_
    intro sql restrictions principal result h
    contradiction
  simp only [decide_, Run.call_bind_ok]
  cases hallowed : (env.decision r.principal request.databaseId s).allowed with
  | false => exact iff_of_false (not_passed (enforce_denied hallowed _ hbefore)) (by simp)
  | true =>
      obtain ⟨hcalled, honlyCall⟩ := enforce_allowed
        (env.outcomes o request r.principal) request r s.cleaned hallowed
        (log ++ [Event.evaluate r.principal request.databaseId s.tables s.columns
          (.ok (env.decision r.principal request.databaseId s))])
      rw [houtcome] at hcalled honlyCall
      rw [← applyRowRestrictions_permission_iff env s.cleaned]
      constructor
      · intro hpassed
        obtain ⟨sql, restrictions, principal, result, hmem, hresult⟩ := hpassed
        have hresult' := honlyCall _ (fun e he sql restrictions principal result h =>
          absurd h (hbefore e he sql restrictions principal result)) _ hmem
          sql restrictions principal result rfl
        rw [hresult'] at hresult
        exact ⟨rfl, hresult⟩
      · intro hnever
        exact ⟨_, _, _, _, hcalled, hnever.2⟩

/-- **The policy stage passes** where the statement is submitted, the decision
allows and the principal carries what it restricts rows by. -/
theorem passed_iff (env : Environment) (o : Outcomes) (request : Request) (r : Resolved) :
    Passed (env.policyStage o request r []).2 ↔
      ∃ s, env.submission request.sql = .ok s ∧
        (env.decision r.principal request.databaseId s).allowed = true ∧
        Sql.Carries r.principal
          (env.decision r.principal request.databaseId s).rowRestrictions := by
  have hsubmit := submit_fst env o request r.principal []
  have hquiet := submit_notRestriction env.config (env.outcomes o request r.principal) request []
    (fun e he => absurd he List.not_mem_nil)
  have hstage : env.policyStage o request r [] = Run.bind
      (submit env.config (env.outcomes o request r.principal) request) (fun s =>
        decide_ (env.outcomes o request r.principal) request r s
          (.ok (env.decision r.principal request.databaseId s))) [] := rfl
  cases hrun : submit env.config (env.outcomes o request r.principal) request [] with
  | mk result log =>
      rw [hrun] at hsubmit hquiet
      rw [hstage, Run.bind, hrun]
      cases result with
      | error e =>
          refine iff_of_false (not_passed hquiet) ?_
          intro hsubmitted
          obtain ⟨s, hs, -⟩ := hsubmitted
          rw [hs] at hsubmit
          contradiction
      | ok s =>
          have hs : env.submission request.sql = .ok s := hsubmit.symm
          show Passed (decide_ _ request r s _ log).2 ↔ _
          rw [decided_passed_iff env o request r hs hquiet]
          constructor
          · exact fun hpasses => ⟨s, hs, hpasses⟩
          · intro hpasses
            obtain ⟨s', hs', hpasses⟩ := hpasses
            rw [hs] at hs'
            rwa [Except.ok.inj hs']

/-! ## The condition -/

/-- The evaluator restricts the statement's rows by attributes the principal
carries. -/
def RestrictsByCarried (env : Environment) (principal : Principal)
    (databaseId sqlStatement : String) : Prop :=
  ∀ binding service s, env.resolve principal databaseId = .ok (binding, service) →
    strip sqlStatement ≠ "" → env.submission sqlStatement = .ok s →
      env.evaluator.RestrictsByCarried principal binding.databaseId s.tables s.columns

omit [Sql.Sqlglot] in
/-- Simulation reports what an administrator's statement is decided as. -/
theorem simulatePolicy_ok_iff (env : Environment) {principal : Principal}
    (hadmin : "admin" ∈ principal.roles) (databaseId sqlStatement : String)
    (decision : PolicyDecision) :
    env.simulatePolicy principal databaseId sqlStatement = .ok decision ↔
      ∃ binding service s, env.resolve principal databaseId = .ok (binding, service) ∧
        strip sqlStatement ≠ "" ∧ env.submission sqlStatement = .ok s ∧
        decision = env.decision principal binding.databaseId s := by
  have hrole : ¬ ("admin" ∉ principal.roles) := fun hnot => hnot hadmin
  unfold simulatePolicy
  cases hresolve : env.resolve principal databaseId with
  | error e => simp [Bind.bind, Except.bind]
  | ok found =>
      obtain ⟨binding, service⟩ := found
      by_cases hblank : strip sqlStatement = ""
      · simp [Bind.bind, Except.bind, hrole, hblank, throw, throwThe, MonadExceptOf.throw]
      · cases hsubmission : env.submission sqlStatement with
        | error e =>
            simp [Bind.bind, Except.bind, hrole, hblank, submission_strip env hblank, hsubmission]
        | ok s =>
            simp [Bind.bind, Except.bind, hrole, hblank, submission_strip env hblank, hsubmission,
              Pure.pure, Except.pure, eq_comm]

/-- **Simulation agrees with enforcement exactly when the evaluator restricts
rows by attributes the principal carries**, for every administrator, database
and statement, and either evaluator. -/
theorem simulation_agrees_iff (env : Environment) (o : Outcomes) {principal : Principal}
    (hadmin : "admin" ∈ principal.roles) (databaseId sqlStatement : String) :
    ((∃ decision, env.simulatePolicy principal databaseId sqlStatement = .ok decision ∧
        decision.allowed = true) ↔ env.ExecutionPasses o principal databaseId sqlStatement) ↔
      env.RestrictsByCarried principal databaseId sqlStatement := by
  constructor
  · intro hagree binding service s hresolve hblank hsubmission
    rw [Evaluator.restrictsByCarried_iff]
    intro hallowed
    have hsimulated := (simulatePolicy_ok_iff env hadmin databaseId sqlStatement _).mpr
      ⟨binding, service, s, hresolve, hblank, hsubmission, rfl⟩
    obtain ⟨binding', service', hresolve', -, hpassed⟩ := hagree.mp ⟨_, hsimulated, hallowed⟩
    obtain ⟨rfl, rfl⟩ := Prod.mk.inj (Except.ok.inj (hresolve.symm.trans hresolve'))
    obtain ⟨s', hsubmission', -, hcarries⟩ := (passed_iff env o _ _).mp hpassed
    rw [← Except.ok.inj (hsubmission.symm.trans hsubmission')] at hcarries
    exact hcarries
  · intro hcarried
    constructor
    · intro hsimulates
      obtain ⟨decision, hsimulated, hallowed⟩ := hsimulates
      obtain ⟨binding, service, s, hresolve, hblank, hsubmission, rfl⟩ :=
        (simulatePolicy_ok_iff env hadmin databaseId sqlStatement decision).mp hsimulated
      have hevaluator := hcarried binding service s hresolve hblank hsubmission
      rw [Evaluator.restrictsByCarried_iff] at hevaluator
      exact ⟨binding, service, hresolve, hblank,
        (passed_iff env o _ _).mpr ⟨s, hsubmission, hallowed, hevaluator hallowed⟩⟩
    · intro hexecutes
      obtain ⟨binding, service, hresolve, hblank, hpassed⟩ := hexecutes
      obtain ⟨s, hsubmission, hallowed, -⟩ := (passed_iff env o _ _).mp hpassed
      exact ⟨_, (simulatePolicy_ok_iff env hadmin databaseId sqlStatement _).mpr
        ⟨binding, service, s, hresolve, hblank, hsubmission, rfl⟩, hallowed⟩

end Environment

end

/-- An administrator without attributes. -/
def titleAdmin : Principal := ⟨"alice", "alice@corp.com", "tenant-a", {"admin"}, []⟩

theorem unquoted_name (name : String) : (⟨name, false⟩ : Sql.Identifier).name = name := rfl

/-- The parser knows no statement. -/
@[reducible] def noParser : Sql.Sqlglot where
  parsePostgres _ := none
  parseDefault _ := none
  toIdentifier name := ⟨name, false⟩
  toIdentifier_name := unquoted_name

/-- A gateway for `album`, with an OPA that answers every document alike. -/
def opaEnvironment (answer : Json) : Environment where
  config := ⟨5, 10, 10000⟩
  resolve _ _ := .ok (⟨"tenant-a", "db-a"⟩, ⟨"primary-service", .ok "primary"⟩)
  safetyRules _ := true
  tablesTouched _ := .ok ["album"]
  referencedColumns _ := .ok {"title"}
  evaluator := .opa ⟨true, fun _ => some answer⟩
  print _ := ""

/-- The answer of a policy that scopes rows to the region of the principal. -/
def regionScoped : Json :=
  .obj [("allowed", .bool true), ("row_restrictions", .obj [("region", .str "region")])]

theorem simulation_agrees_iff_title :
    letI := Python.ascii
    letI := Sql.PythonUpper.ascii
    letI := noParser
    ((∃ decision, (opaEnvironment (.obj [("allowed", .bool true)])).simulatePolicy titleAdmin "db-a"
          "SELECT title FROM album" = .ok decision ∧ decision.allowed = true) ↔
        (opaEnvironment (.obj [("allowed", .bool true)])).ExecutionPasses allReturn titleAdmin "db-a"
          "SELECT title FROM album") ↔
      (opaEnvironment (.obj [("allowed", .bool true)])).RestrictsByCarried titleAdmin "db-a"
        "SELECT title FROM album" :=
  @Environment.simulation_agrees_iff Python.ascii Sql.PythonUpper.ascii noParser
    (opaEnvironment (.obj [("allowed", .bool true)])) allReturn titleAdmin (by decide) "db-a"
    "SELECT title FROM album"

/-- An administrator without a region is told that the statement is allowed, and
executing it raises a `PermissionError`. -/
theorem simulation_disagrees_region :
    letI := Python.ascii
    letI := Sql.PythonUpper.ascii
    letI := noParser
    ¬ ((∃ decision, (opaEnvironment regionScoped).simulatePolicy titleAdmin "db-a"
          "SELECT title FROM album" = .ok decision ∧ decision.allowed = true) ↔
        (opaEnvironment regionScoped).ExecutionPasses allReturn titleAdmin "db-a"
          "SELECT title FROM album") := by
  let _ := Python.ascii
  let _ := Sql.PythonUpper.ascii
  let _ := noParser
  intro hagree
  have hclean : (opaEnvironment regionScoped).cleanAndValidate "SELECT title FROM album" =
      .ok "SELECT title FROM album" := by decide +kernel
  have hsubmission : (opaEnvironment regionScoped).submission "SELECT title FROM album" =
      .ok ⟨"SELECT title FROM album", ["album"], {"title"}⟩ := by
    rw [Environment.submission, hclean]
    rfl
  have hsimulated := (Environment.simulatePolicy_ok_iff (opaEnvironment regionScoped)
    (show "admin" ∈ titleAdmin.roles by decide) "db-a" "SELECT title FROM album" _).mpr
      ⟨_, _, _, rfl, by decide, hsubmission, rfl⟩
  obtain ⟨binding, service, -, -, hpassed⟩ := hagree.mp ⟨_, hsimulated, rfl⟩
  obtain ⟨s, hs, -, hcarries⟩ := (Environment.passed_iff _ _ _ _).mp hpassed
  obtain rfl := Except.ok.inj (hs.symm.trans hsubmission)
  have hregion : (Sql.restrictionValue? titleAdmin "region").isSome :=
    hcarries ("region", "region") List.mem_cons_self
  exact absurd hregion (by decide)

end DbGateway.Gateway
