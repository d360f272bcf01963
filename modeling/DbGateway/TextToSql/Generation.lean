import DbGateway.Dict
import DbGateway.Json
import DbGateway.TextToSql.Precheck

/-!
# DbGateway.TextToSql.Generation

`TextToSqlService.generate_sql_from_text`: a statement is asked for and
executed, and asked for again when the database finds a mistake in it.

The language model and the SQL API may answer anything, any number of times.  A
call still ends after a bounded number of questions and executions, and what it
reports is what came of the last execution (`generateSqlFromText_spec`).
-/

namespace DbGateway.TextToSql

open Sql (PythonUpper)

/-! ## The services -/

/-- An exception, as far as the handlers tell one from another. -/
inductive Raised where
  /-- `AIServiceError` -/
  | aiService (message : String)
  /-- `ValueError` -/
  | value (message : String)
  /-- `SqlExecutionError` -/
  | sqlExecution (detail : Json)
  | other (message : String)

/-- What the language model answers. -/
inductive Answer where
  | text (sql : Option String)
  | raised (message : String)

/-- What comes of a request to the SQL API. -/
inductive Reply where
  /-- `httpx.HTTPError`, a bad status included -/
  | httpError (message : String)
  /-- `ValueError`, as for a body that is not JSON -/
  | valueError (message : String)
  | raised (message : String)
  | document (data : Json)

/-- Everything the service asks for.  Answers and replies are numbered by the
calls they are for. -/
structure World where
  parse : Parser
  /-- `load_prompt("text_to_sql")["template"]` and that of the user prompt -/
  systemTemplate : Except Raised String
  userTemplate : Except Raised String
  /-- `generate_embeddings` -/
  embeddings : Except Raised (List Rat)
  schemaReply : Reply
  answers : Nat → Answer
  replies : Nat → Reply
  /-- The text of the exception that a document of another shape leads to. -/
  fault : Json → String

/-- A call made to one of the services. -/
inductive Event where
  | asked (system user : String)
  | executed (sql : String) (outcome : Except Raised Json)

def Event.isAsked : Event → Bool
  | .asked _ _ => true
  | .executed _ _ => false

def Event.isExecuted : Event → Bool
  | .asked _ _ => false
  | .executed _ _ => true

/-- `render_prompt` -/
def renderPrompt (template : String) (kwargs : List (String × String)) : String :=
  kwargs.foldl (fun text kv => text.replace ("\x7b" ++ kv.1 ++ "\x7d") kv.2) template

section

variable [Python]

/-- The message of `data["errors"][0]`, which has to be an object. -/
def errorMessage (error : Dict Json) : String :=
  ((Dict.get? error "message").getD (.str "Unknown GraphQL error")).toStr

/-- `_get_relevant_schema`, from the reply on -/
def getRelevantSchema (world : World) : Except Raised Json :=
  match world.schemaReply with
  | .httpError message => .error (.other ("Failed to connect to SQL Query API: " ++ message))
  | .valueError message => .error (.value message)
  | .raised message => .error (.other message)
  | .document (.obj data) =>
      match Dict.get? data "errors" with
      | some (.arr (.obj error :: _)) =>
          .error (.other ("Failed to fetch schema: " ++ errorMessage error))
      | some _ => .error (.other (world.fault (.obj data)))
      | none =>
          match (Dict.get? data "data").getD (.obj []) with
          | .obj found =>
              match (Dict.get? found "getTableSchema").getD (.obj []) with
              | .obj schemaInfo => .ok ((Dict.get? schemaInfo "schema").getD (.str ""))
              | _ => .error (.other (world.fault (.obj data)))
          | _ => .error (.other (world.fault (.obj data)))
  | .document data => .error (.other (world.fault data))

/-- `_execute_sql`, from the reply on -/
def executeSql (fault : Json → String) : Reply → Except Raised Json
  | .httpError message => .error (.other ("Failed to connect to SQL Query API: " ++ message))
  | .valueError message => .error (.value message)
  | .raised message => .error (.other ("Failed to execute SQL: " ++ message))
  | .document (.obj data) =>
      match Dict.get? data "errors" with
      | some (.arr (.obj error :: _)) =>
          match ((Json.obj error).getD "extensions").or (.obj []) with
          | .obj extensions =>
              match ((Json.obj extensions).getD "sqlQueryApi").or (.obj []) with
              | .obj api =>
                  if ((Json.obj api).getD "code").same (.str "SQL_EXECUTION_ERROR") &&
                      ((Json.obj api).getD "details").truthy then
                    .error (.sqlExecution ((Json.obj api).getD "details"))
                  else
                    .error (.value ("SQL validation or execution failed: " ++ errorMessage error))
              | _ => .error (.other ("Failed to execute SQL: " ++ fault (.obj data)))
          | _ => .error (.other ("Failed to execute SQL: " ++ fault (.obj data)))
      | some _ => .error (.other ("Failed to execute SQL: " ++ fault (.obj data)))
      | none =>
          match (Dict.get? data "data").getD (.obj []) with
          | .obj found => .ok ((Dict.get? found "executeSqlStatement").getD (.arr []))
          | _ => .error (.other ("Failed to execute SQL: " ++ fault (.obj data)))
  | .document data => .error (.other ("Failed to execute SQL: " ++ fault data))

/-- `RETRYABLE_EXECUTION_ERROR_MARKERS` -/
def retryableExecutionErrorMarkers : List String :=
  ["syntax error", "missing from-clause", "missing from ", "does not exist", "undefined column",
    "undefined table", "no such column", "no such table", "unknown column", "unknown table",
    "unexpected token", "ungrouped column", "grouping error", "must appear in the group by"]

/-- `_is_retryable_execution_error`; a detail that is not a string has no
`lower`. -/
def isRetryableExecutionError : Json → Option Bool
  | .str detail =>
      some (retryableExecutionErrorMarkers.any fun marker =>
        Repository.contains marker (lower detail).toList)
  | detail => if detail.truthy then none else some false

/-- `MAX_EXECUTION_ATTEMPTS` -/
def maxExecutionAttempts : Nat := 3

/-! ## Asking -/

variable [PythonUpper] [FindAll]

/-- The rounds of `_generate_sql_with_llm` that are left. -/
def generateRounds (world : World) (systemPrompt basePrompt : String) :
    Nat → String → List Event → Except Raised String × List Event
  | 0, lastFeedback, log =>
      (.error (.aiService ("Failed to generate valid SQL: " ++ lastFeedback)), log)
  | rounds + 1, lastFeedback, log =>
      let userPrompt :=
        if lastFeedback ≠ "" then
          basePrompt ++ "\n\nYour previous answer was rejected:\n" ++
            lastFeedback ++ "\nReturn a single corrected SELECT statement only."
        else basePrompt
      let asked := log ++ [.asked systemPrompt userPrompt]
      match world.answers (log.countP Event.isAsked) with
      | .raised message => (.error (.aiService ("Failed to generate SQL: " ++ message)), asked)
      | .text none => (.error (.aiService "LLM returned empty SQL query"), asked)
      | .text (some sql) =>
          if sql = "" then (.error (.aiService "LLM returned empty SQL query"), asked)
          else
            let checked := precheckSql world.parse sql
            if checked.1 then (.ok sql, asked)
            else
              generateRounds world systemPrompt basePrompt rounds
                (if lastFeedback ≠ "" then lastFeedback ++ "\nAdditionally: " ++ checked.2
                  else checked.2)
                asked

/-- `_generate_sql_with_llm` -/
def generateSqlWithLlm (world : World) (naturalLanguage : String) (schema : Json)
    (feedback : String) (log : List Event) : Except Raised String × List Event :=
  match world.systemTemplate, world.userTemplate with
  | .error e, _ => (.error e, log)
  | .ok _, .error e => (.error e, log)
  | .ok system, .ok user =>
      generateRounds world
        (renderPrompt system [("schema", schema.toStr), ("question", naturalLanguage)])
        (renderPrompt user [("schema", schema.toStr), ("natural_language", naturalLanguage)])
        2 feedback log

/-! ## Executing -/

/-- What the language model is told about a rejected statement. -/
def executionFeedback (detail : Json) : String :=
  "The SQL statement you generated was rejected by the database " ++
    "with the following error:\n" ++ detail.toStr ++ "\n" ++
    "Fix the statement (for example an undeclared table alias or a " ++
    "misspelled column/table name) and return a single corrected " ++
    "SELECT statement only."

/-- What a call comes to: what it returns or raises, its `sql`, and the calls it
has made.  A loop that runs out returns nothing. -/
abbrev Outcome := Except Raised (Option (Dict Json)) × Option String × List Event

/-- The attempts that are left. -/
def attempts (world : World) (naturalLanguage : String) (schema : Json) :
    List Nat → String → Option String → List Event → Outcome
  | [], _, sql, log => (.ok none, sql, log)
  | attempt :: rest, feedback, sql, log =>
      match generateSqlWithLlm world naturalLanguage schema feedback log with
      | (.error e, log) => (.error e, sql, log)
      | (.ok sql, log) =>
          let outcome := executeSql world.fault (world.replies (log.countP Event.isExecuted))
          let executed := log ++ [.executed sql outcome]
          match outcome with
          | .ok results =>
              (.ok (some [("sql", .str sql), ("schema", schema), ("results", results)]), some sql,
                executed)
          | .error (.sqlExecution detail) =>
              match isRetryableExecutionError detail with
              | none => (.error (.other (world.fault detail)), some sql, executed)
              | some false => (.ok (some [("error", detail), ("sql", .str sql)]), some sql, executed)
              | some true =>
                  if attempt ≥ maxExecutionAttempts then
                    (.ok (some [("error", detail), ("sql", .str sql)]), some sql, executed)
                  else
                    attempts world naturalLanguage schema rest (executionFeedback detail) (some sql)
                      executed
          | .error e => (.error e, some sql, executed)

/-- The body of `generate_sql_from_text`, without its handlers. -/
def generateBody (world : World) (query : String) (execute : Bool) : Outcome :=
  match world.embeddings with
  | .error e => (.error e, none, [])
  | .ok _ =>
      match getRelevantSchema world with
      | .error e => (.error e, none, [])
      | .ok schema =>
          if !execute then
            match generateSqlWithLlm world query schema "" [] with
            | (.error e, log) => (.error e, none, log)
            | (.ok sql, log) => (.ok (some [("sql", .str sql), ("schema", schema)]), some sql, log)
          else attempts world query schema (List.range' 1 maxExecutionAttempts) "" none []

/-- What the handlers of `generate_sql_from_text` return. -/
def handle : Outcome → Option (Dict Json) × List Event
  | (.ok result, _, log) => (result, log)
  | (.error (.aiService message), _, log) =>
      (some [("error", .str ("Failed to generate SQL: " ++ message)), ("sql", .null)], log)
  | (.error (.value message), sql, log) =>
      (some [("error", .str message), ("sql", (sql.map Json.str).getD .null)], log)
  | (.error (.sqlExecution detail), _, log) =>
      (some [("error", .str ("Unexpected error: Failed to execute SQL: " ++ detail.toStr)),
        ("sql", .null)], log)
  | (.error (.other message), _, log) =>
      (some [("error", .str ("Unexpected error: " ++ message)), ("sql", .null)], log)

/-- `generate_sql_from_text` -/
def generateSqlFromText (world : World) (query : String) (execute : Bool) :
    Option (Dict Json) × List Event :=
  handle (generateBody world query execute)

/-! ## Rounds -/

/-- What a number of rounds adds to the log, and what it answers with. -/
structure Asks (parse : Parser) (rounds : Nat) (log : List Event)
    (outcome : Except Raised String × List Event) (asked : List Event) : Prop where
  log_eq : outcome.2 = log ++ asked
  length_le : asked.length ≤ rounds
  isAsked : ∀ e ∈ asked, e.isAsked = true
  checked : ∀ sql, outcome.1 = .ok sql → (precheckSql parse sql).1 = true

/-- The rounds ask at most once each, and what they answer with has passed the
pre-check. -/
theorem exists_asks_generateRounds (world : World) (systemPrompt basePrompt : String)
    (rounds : Nat) (lastFeedback : String) (log : List Event) :
    ∃ asked, Asks world.parse rounds log
      (generateRounds world systemPrompt basePrompt rounds lastFeedback log) asked := by
  induction rounds generalizing lastFeedback log with
  | zero => exact ⟨[], (List.append_nil log).symm, Nat.le_refl 0, by simp, by simp [generateRounds]⟩
  | succ rounds ih =>
      rw [generateRounds]
      generalize (if lastFeedback ≠ "" then _ else basePrompt) = userPrompt
      have hone : ∀ e ∈ [Event.asked systemPrompt userPrompt], e.isAsked = true := by
        simp [Event.isAsked]
      have herror (e : Raised) : Asks world.parse (rounds + 1) log
          (.error e, log ++ [.asked systemPrompt userPrompt]) [.asked systemPrompt userPrompt] :=
        ⟨rfl, by simp, hone, by simp⟩
      dsimp only
      cases world.answers (log.countP Event.isAsked) with
      | raised message => exact ⟨_, herror _⟩
      | text sql =>
          cases sql with
          | none => exact ⟨_, herror _⟩
          | some sql =>
              dsimp only
              by_cases hempty : sql = ""
              · rw [if_pos hempty]
                exact ⟨_, herror _⟩
              · rw [if_neg hempty]
                cases hcheck : (precheckSql world.parse sql).1 with
                | true =>
                    rw [if_pos rfl]
                    refine ⟨[.asked systemPrompt userPrompt], rfl, by simp, hone, ?_⟩
                    intro sql' hsql
                    cases hsql
                    exact hcheck
                | false =>
                    rw [if_neg Bool.false_ne_true]
                    obtain ⟨asked, h⟩ := ih _ _
                    refine ⟨.asked systemPrompt userPrompt :: asked, ?_, ?_, ?_, h.checked⟩
                    · rw [h.log_eq, List.append_assoc, List.singleton_append]
                    · have := h.length_le
                      rw [List.length_cons]
                      omega
                    · simpa [Event.isAsked] using h.isAsked

theorem exists_asks_generateSqlWithLlm (world : World) (naturalLanguage : String) (schema : Json)
    (feedback : String) (log : List Event) :
    ∃ asked, Asks world.parse 2 log
      (generateSqlWithLlm world naturalLanguage schema feedback log) asked := by
  have herror (e : Raised) : Asks world.parse 2 log (.error e, log) [] :=
    ⟨(List.append_nil log).symm, Nat.zero_le 2, by simp, by simp⟩
  rw [generateSqlWithLlm]
  cases world.systemTemplate with
  | error e => exact ⟨[], herror e⟩
  | ok system =>
      cases world.userTemplate with
      | error e => exact ⟨[], herror e⟩
      | ok user => exact exists_asks_generateRounds _ _ _ _ _ _

/-! ## Runs -/

/-- An execution error after which the statement is asked for again. -/
def Raised.Correctable : Raised → Prop
  | .sqlExecution detail => isRetryableExecutionError detail = some true
  | _ => False

/-- A log that the attempts can go on from: so many statements executed, so many
questions asked at most, every statement checked, and rejected for a reason that
can be mended. -/
structure Pending (parse : Parser) (executions questions : Nat) (log : List Event) : Prop where
  executions_eq : log.countP Event.isExecuted = executions
  questions_le : log.countP Event.isAsked ≤ questions
  checked : ∀ sql outcome, .executed sql outcome ∈ log → (precheckSql parse sql).1 = true
  rejected : ∀ sql outcome, .executed sql outcome ∈ log →
    ∃ e : Raised, outcome = .error e ∧ e.Correctable

/-- What a finished call has done, and what its result says of it. -/
structure Honest (parse : Parser) (result : Dict Json) (log : List Event) : Prop where
  executions_le : log.countP Event.isExecuted ≤ maxExecutionAttempts
  questions_le : log.countP Event.isAsked ≤ 2 * maxExecutionAttempts
  /-- Results are those of the last execution, and go with its statement. -/
  results : ∀ r, result.get? "results" = some r → ∃ before sql,
    log = before ++ [.executed sql (.ok r)] ∧ result.get? "sql" = some (.str sql)
  checked : ∀ sql outcome, .executed sql outcome ∈ log → (precheckSql parse sql).1 = true
  /-- An error that cannot be mended is the end. -/
  last : ∀ before sql e after, log = before ++ .executed sql (.error e) :: after →
    ¬ e.Correctable → after = []

theorem Pending.nil (parse : Parser) : Pending parse 0 0 [] :=
  ⟨rfl, Nat.le_refl 0, by simp, by simp⟩

theorem Pending.ask {parse : Parser} {n m k : Nat} {log asked : List Event}
    (h : Pending parse n m log) (hlength : asked.length ≤ k)
    (hasked : ∀ e ∈ asked, e.isAsked = true) : Pending parse n (m + k) (log ++ asked) := by
  have hnot : ∀ sql outcome, Event.executed sql outcome ∉ asked := by
    intro sql outcome hmem
    exact Bool.false_ne_true (hasked _ hmem)
  have hzero : asked.countP Event.isExecuted = 0 := by
    rw [List.countP_eq_zero]
    intro e he
    cases e with
    | asked system user => exact Bool.false_ne_true
    | executed sql outcome => exact absurd he (hnot sql outcome)
  refine ⟨?_, ?_, ?_, ?_⟩
  · rw [List.countP_append, h.executions_eq, hzero, Nat.add_zero]
  · have := h.questions_le
    have := List.countP_le_length (p := Event.isAsked) (l := asked)
    rw [List.countP_append]
    omega
  · intro sql outcome hmem
    exact h.checked sql outcome ((List.mem_append.mp hmem).resolve_right (hnot sql outcome))
  · intro sql outcome hmem
    exact h.rejected sql outcome ((List.mem_append.mp hmem).resolve_right (hnot sql outcome))

/-- A statement that passed is executed and rejected, and can be mended. -/
theorem Pending.reject {parse : Parser} {n m : Nat} {log : List Event} {sql : String} {e : Raised}
    (h : Pending parse n m log) (hsql : (precheckSql parse sql).1 = true) (he : e.Correctable) :
    Pending parse (n + 1) m (log ++ [.executed sql (.error e)]) := by
  refine ⟨?_, ?_, ?_, ?_⟩
  · rw [List.countP_append, h.executions_eq]
    rfl
  · rw [List.countP_append]
    exact h.questions_le
  · intro sql' outcome hmem
    cases List.mem_append.mp hmem with
    | inl hmem => exact h.checked sql' outcome hmem
    | inr hmem =>
        cases List.mem_singleton.mp hmem
        exact hsql
  · intro sql' outcome hmem
    cases List.mem_append.mp hmem with
    | inl hmem => exact h.rejected sql' outcome hmem
    | inr hmem =>
        cases List.mem_singleton.mp hmem
        exact ⟨e, rfl, he⟩

/-- A call that ends before it executes a statement has no results. -/
theorem Pending.honest {parse : Parser} {n m : Nat} {log : List Event} {result : Dict Json}
    (h : Pending parse n m log) (hn : n ≤ maxExecutionAttempts)
    (hm : m ≤ 2 * maxExecutionAttempts) (hresult : result.get? "results" = none) :
    Honest parse result log where
  executions_le := by
    rw [h.executions_eq]
    exact hn
  questions_le := Nat.le_trans h.questions_le hm
  results := by
    intro r hr
    rw [hresult] at hr
    contradiction
  checked := h.checked
  last := by
    intro before sql e after hlog he
    obtain ⟨e', houtcome, he'⟩ := h.rejected sql (.error e) (by simp [hlog])
    cases houtcome
    contradiction

/-- A call that ends with an execution has the results of that one, if any. -/
theorem Pending.honest_executed {parse : Parser} {n m : Nat} {log : List Event}
    {result : Dict Json} {sql : String} {outcome : Except Raised Json}
    (h : Pending parse n m log) (hn : n < maxExecutionAttempts)
    (hm : m ≤ 2 * maxExecutionAttempts) (hsql : (precheckSql parse sql).1 = true)
    (hresult : ∀ r, result.get? "results" = some r →
      outcome = .ok r ∧ result.get? "sql" = some (.str sql)) :
    Honest parse result (log ++ [.executed sql outcome]) where
  executions_le := by
    rw [List.countP_append, h.executions_eq]
    exact hn
  questions_le := by
    rw [List.countP_append]
    exact Nat.le_trans h.questions_le hm
  results := by
    intro r hr
    obtain ⟨houtcome, hget⟩ := hresult r hr
    exact ⟨log, sql, by rw [houtcome], hget⟩
  checked := by
    intro sql' outcome' hmem
    cases List.mem_append.mp hmem with
    | inl hmem => exact h.checked sql' outcome' hmem
    | inr hmem =>
        cases List.mem_singleton.mp hmem
        exact hsql
  last := by
    intro before sql' e after hlog he
    -- were there anything after it, it would be among the rejected ones
    obtain hnil | ⟨after', x, hafter⟩ := List.eq_nil_or_concat after
    · exact hnil
    · rw [hafter, List.concat_eq_append, ← List.cons_append, ← List.append_assoc] at hlog
      have hlog' := (List.append_inj' hlog rfl).1
      obtain ⟨e', houtcome, he'⟩ := h.rejected sql' (.error e) (by simp [hlog'])
      cases houtcome
      contradiction

/-! ## Results -/

omit [PythonUpper] [FindAll] in
/-- A handler returns no results. -/
theorem exists_handle_error (e : Raised) (sql : Option String) (log : List Event) :
    ∃ result, handle (.error e, sql, log) = (some result, log) ∧ result.get? "results" = none := by
  cases e with
  | aiService message => exact ⟨_, rfl, rfl⟩
  | value message => exact ⟨_, rfl, rfl⟩
  | sqlExecution detail => exact ⟨_, rfl, rfl⟩
  | other message => exact ⟨_, rfl, rfl⟩

/-- One attempt after `n` executions: it ends the call, or leaves a log that the
rest of the attempts go on from. -/
theorem exists_honest_attempts_cons (world : World) (naturalLanguage : String) (schema : Json)
    {n attempt : Nat} {rest : List Nat} (hn : n < maxExecutionAttempts) (feedback : String)
    (sql : Option String) {log : List Event} (h : Pending world.parse n (2 * n) log)
    (hrest : ¬ attempt ≥ maxExecutionAttempts → ∀ feedback sql log',
      Pending world.parse (n + 1) (2 * (n + 1)) log' →
      ∃ result log'', handle (attempts world naturalLanguage schema rest feedback sql log') =
        (some result, log'') ∧ Honest world.parse result log'') :
    ∃ result log', handle (attempts world naturalLanguage schema (attempt :: rest) feedback sql
      log) = (some result, log') ∧ Honest world.parse result log' := by
  rw [attempts]
  obtain ⟨asked, hasks⟩ :=
    exists_asks_generateSqlWithLlm world naturalLanguage schema feedback log
  generalize generateSqlWithLlm world naturalLanguage schema feedback log = generated at hasks ⊢
  obtain ⟨answer, log₁⟩ := generated
  obtain ⟨hlog, hlength, hisAsked, hchecked⟩ := hasks
  dsimp only at hlog
  subst hlog
  have hpending := h.ask hlength hisAsked
  have hm : 2 * n + 2 ≤ 2 * maxExecutionAttempts := by omega
  cases answer with
  | error e =>
      obtain ⟨result, hresult, hnone⟩ := exists_handle_error e sql (log ++ asked)
      exact ⟨result, _, hresult, hpending.honest hn.le hm hnone⟩
  | ok statement =>
      have hsql := hchecked statement rfl
      dsimp only
      generalize executeSql world.fault (world.replies _) = outcome
      have hfailed (e : Raised) {result : Dict Json} (hnone : result.get? "results" = none) :
          Honest world.parse result (log ++ asked ++ [.executed statement (.error e)]) :=
        hpending.honest_executed hn hm hsql (by simp [hnone])
      have hraised (e e' : Raised) : ∃ result log',
          handle (.error e', some statement, log ++ asked ++ [.executed statement (.error e)]) =
            (some result, log') ∧ Honest world.parse result log' := by
        obtain ⟨result, hresult, hnone⟩ := exists_handle_error e' (some statement)
          (log ++ asked ++ [.executed statement (.error e)])
        exact ⟨result, _, hresult, hfailed e hnone⟩
      cases outcome with
      | ok results =>
          refine ⟨_, _, rfl, hpending.honest_executed hn hm hsql ?_⟩
          intro r hr
          cases hr
          exact ⟨rfl, rfl⟩
      | error e =>
          cases e with
          | aiService message => exact hraised _ _
          | value message => exact hraised _ _
          | other message => exact hraised _ _
          | sqlExecution detail =>
              dsimp only
              cases hretry : isRetryableExecutionError detail with
              | none => exact hraised _ _
              | some retry =>
                  cases retry with
                  | false => exact ⟨_, _, rfl, hfailed (.sqlExecution detail) rfl⟩
                  | true =>
                      dsimp only
                      by_cases hlast : attempt ≥ maxExecutionAttempts
                      · rw [if_pos hlast]
                        exact ⟨_, _, rfl, hfailed (.sqlExecution detail) rfl⟩
                      · rw [if_neg hlast]
                        exact hrest hlast _ _ _ (hpending.reject hsql hretry)

/-- The attempts that are left after `n` executions; the last of them ends the
call whatever comes of it. -/
theorem exists_honest_attempts (world : World) (naturalLanguage : String) (schema : Json)
    {n left : Nat} (hleft : n + left + 1 = maxExecutionAttempts) (feedback : String)
    (sql : Option String) {log : List Event} (h : Pending world.parse n (2 * n) log) :
    ∃ result log', handle (attempts world naturalLanguage schema (List.range' (n + 1) (left + 1))
        feedback sql log) = (some result, log') ∧ Honest world.parse result log' := by
  induction left generalizing n feedback sql log with
  | zero =>
      refine exists_honest_attempts_cons world naturalLanguage schema (by omega) feedback sql h ?_
      intro hlast
      omega
  | succ left ih =>
      refine exists_honest_attempts_cons world naturalLanguage schema (by omega) feedback sql h ?_
      intro _ feedback' sql' log' h'
      exact ih (by omega) feedback' sql' h'

/-- **Bounded honest generation**: whatever the language model and the SQL API
answer, a call ends with a result, after at most three executions and six
questions.  Results are those of the last execution; every executed statement
passed the pre-check; and an error that cannot be mended is the end. -/
theorem generateSqlFromText_honest (world : World) (query : String) :
    ∃ result log, generateSqlFromText world query true = (some result, log) ∧
      Honest world.parse result log := by
  rw [generateSqlFromText, generateBody]
  have herror (e : Raised) : ∃ result log, handle (.error e, none, []) = (some result, log) ∧
      Honest world.parse result log := by
    obtain ⟨result, hresult, hnone⟩ := exists_handle_error e none []
    exact ⟨result, [], hresult, (Pending.nil world.parse).honest (by decide) (by decide) hnone⟩
  cases world.embeddings with
  | error e => exact herror e
  | ok embeddings =>
      cases getRelevantSchema world with
      | error e => exact herror e
      | ok schema => exact exists_honest_attempts world query schema rfl "" none (.nil world.parse)

end

end DbGateway.TextToSql
