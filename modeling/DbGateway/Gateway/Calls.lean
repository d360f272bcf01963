import DbGateway.Gateway.Mediation

/-!
# DbGateway.Gateway.Calls

What holds of every call a request makes.

A piece of the pipeline emits calls of a kind when it records no other
(`Run.Emits`); the rules follow the monad.  Once each piece does, given what
resolution has settled (`CallRule`), every call of every request in every
interleaving is of that kind (`CallRule.forall_call`).
-/

namespace DbGateway.Gateway

/-! ## Pieces of the pipeline -/

namespace Run

variable {α β : Type} {P : Event → Prop}

/-- Whatever the piece records satisfies `P`. -/
def Emits (P : Event → Prop) (run : Run α) : Prop :=
  ∀ log, (∀ e ∈ log, P e) → ∀ e ∈ (run log).2, P e

theorem emits_pure (a : α) : Emits P (Pure.pure a : Run α) := fun _ hlog => hlog

theorem emits_raise (e : Exn) : Emits P (raise e : Run α) := fun _ hlog => hlog

theorem emits_of (outcome : Except Exn α) : Emits P (of outcome) := fun _ hlog => hlog

/-- One more call at the end of a record. -/
theorem forall_append {log : List Event} {event : Event} (hlog : ∀ e ∈ log, P e)
    (hevent : P event) : ∀ e ∈ log ++ [event], P e := by
  intro e he
  rcases List.mem_append.mp he with he | he
  · exact hlog e he
  · rw [List.mem_singleton.mp he]
    exact hevent

theorem emits_call {event : Except Exn α → Event} {outcome : Except Exn α}
    (h : P (event outcome)) : Emits P (call event outcome) :=
  fun _ hlog => forall_append hlog h

theorem emits_start {event : Event} (h : P event) : Emits P (start event) :=
  fun _ hlog => forall_append hlog h

/-- A piece, then what follows its value. -/
theorem Emits.bind {run : Run α} {f : α → Run β} (h : run.Emits P) (hf : ∀ a, (f a).Emits P) :
    (run >>= f).Emits P := by
  intro log hlog
  have hrun := h log hlog
  show ∀ e ∈ (Run.bind run f log).2, P e
  rw [Run.bind]
  cases hresult : run log with
  | mk result log' =>
      rw [hresult] at hrun
      cases result with
      | ok a => exact hf a log' hrun
      | error e => exact hrun

/-- The piece keeps what is recorded already. -/
def Keeps (run : Run α) : Prop := ∀ log, ∀ e ∈ log, e ∈ (run log).2

theorem keeps_pure (a : α) : Keeps (Pure.pure a : Run α) := fun _ _ he => he

theorem keeps_of (outcome : Except Exn α) : Keeps (of outcome) := fun _ _ he => he

theorem keeps_call (event : Except Exn α → Event) (outcome : Except Exn α) :
    Keeps (call event outcome) := fun _ _ he => List.mem_append_left _ he

theorem keeps_start (event : Event) : Keeps (start event) :=
  fun _ _ he => List.mem_append_left _ he

theorem Keeps.bind {run : Run α} {f : α → Run β} (h : run.Keeps) (hf : ∀ a, (f a).Keeps) :
    (run >>= f).Keeps := by
  intro log e he
  have hrun := h log e he
  show e ∈ (Run.bind run f log).2
  rw [Run.bind]
  cases hresult : run log with
  | mk result log' =>
      rw [hresult] at hrun
      cases result with
      | ok a => exact hf a log' e hrun
      | error e' => exact hrun

/-- A call stays on record whatever follows it. -/
theorem mem_call_bind {event : Except Exn α → Event} {outcome : Except Exn α} {f : α → Run β}
    (hf : ∀ a, (f a).Keeps) (log : List Event) :
    event outcome ∈ ((call event outcome >>= f) log).2 := by
  have hmem : event outcome ∈ log ++ [event outcome] :=
    List.mem_append_right _ (List.mem_singleton_self _)
  cases outcome with
  | error e =>
      rw [call_bind_error]
      exact hmem
  | ok a =>
      rw [call_bind_ok]
      exact hf a _ _ hmem

end Run

/-! ## The whole pipeline -/

/-- Every piece of the pipeline makes calls satisfying `P` only, where
resolution has settled `Q`. -/
structure CallRule (P : Request → Event → Prop) (Q : Request → Resolved → Prop) : Prop where
  resolve : ∀ o request, (authenticateAndResolve o request).Emits (P request)
  settled : ∀ o request log r log',
    authenticateAndResolve o request log = (.ok r, log') → Q request r
  rejectQueueFull : ∀ o request r quota, Q request r →
    (rejectQueueFull o r quota).Emits (P request)
  rejectTimeout : ∀ o request r quota, Q request r → (rejectTimeout o r quota).Emits (P request)
  submit : ∀ config o request, (submit config o request).Emits (P request)
  decide_ : ∀ o request r s answer, Q request r →
    (decide_ o request r s answer).Emits (P request)
  conclude : ∀ o request e answer, (conclude o e answer).Emits (P request)

namespace CallRule

variable {P : Request → Event → Prop} {Q : Request → Resolved → Prop}

/-- What resolution has settled at a stage. -/
def Settled (Q : Request → Resolved → Prop) (request : Request) : Stage → Prop
  | .waiting r | .deciding r _ | .running r _ => Q request r
  | _ => True

/-- A request whose calls so far satisfy `P`. -/
def Holds (P : Request → Event → Prop) (Q : Request → Resolved → Prop) (t : Task) : Prop :=
  Settled Q t.request t.stage ∧ ∀ e ∈ t.log, P t.request e

/-- The answer of the evaluator, then suspended at the database or finished. -/
theorem dispatch (rule : CallRule P Q) {config : Config} {quotas quotas' : Quotas} {t' : Task}
    {o : Outcomes} {request : Request} {r : Resolved} {s : Submission}
    {answer : Except Exn PolicyDecision} {log : List Event} (hsettled : Q request r)
    (hlog : ∀ e ∈ log, P request e)
    (ha : Gateway.dispatch config quotas request r (Gateway.decide_ o request r s answer log) =
      (quotas', t')) : Holds P Q t' := by
  have hcalls := rule.decide_ o request r s answer hsettled log hlog
  cases hrun : Gateway.decide_ o request r s answer log with
  | mk result log' =>
      rw [hrun] at hcalls ha
      cases result with
      | ok e =>
          obtain ⟨-, rfl⟩ := Prod.mk.inj ha
          exact ⟨hsettled, hcalls⟩
      | error e =>
          obtain ⟨-, rfl⟩ := Prod.mk.inj ha
          exact ⟨trivial, hcalls⟩

/-- A segment makes calls satisfying `P` only. -/
theorem advance (rule : CallRule P Q) {config : Config} {quotas quotas' : Quotas} {t t' : Task}
    {wake : Wake} (h : Holds P Q t) (ha : t.advance config quotas wake = some (quotas', t')) :
    Holds P Q t' := by
  have hadvances := t.advances ha
  obtain ⟨request, stage, log⟩ := t
  obtain ⟨hsettled, hlog⟩ := h
  cases hadvances with
  | refused o hrun =>
      have hcalls := rule.resolve o request log hlog
      rw [hrun] at hcalls
      exact ⟨trivial, hcalls⟩
  | full o hrun =>
      have hcalls := rule.resolve o request log hlog
      rw [hrun] at hcalls
      have hr := rule.settled o request log _ _ hrun
      exact ⟨trivial, rule.rejectQueueFull o request _ _ hr _ hcalls⟩
  | admitted o hrun _ =>
      have hcalls := rule.resolve o request log hlog
      rw [hrun] at hcalls
      exact ⟨rule.settled o request log _ _ hrun, hcalls⟩
  | failed o r _ hrun =>
      have hcalls := rule.submit config o request log hlog
      rw [hrun] at hcalls
      exact ⟨trivial, hcalls⟩
  | suspended o r _ hrun =>
      have hcalls := rule.submit config o request log hlog
      rw [hrun] at hcalls
      exact ⟨hsettled, hcalls⟩
  | submitted o r answer _ hrun ht =>
      have hcalls := rule.submit config o request log hlog
      rw [hrun] at hcalls
      exact rule.dispatch hsettled hcalls ht
  | timedOut o r => exact ⟨trivial, rule.rejectTimeout o request r _ hsettled log hlog⟩
  | cancelled r => exact ⟨trivial, hlog⟩
  | decided o r s answer ht => exact rule.dispatch hsettled hlog ht
  | answered o r e answer => exact ⟨trivial, rule.conclude o request e answer log hlog⟩

/-- **Call rule**: every call of every request satisfies `P`, in every
interleaving. -/
theorem forall_call (rule : CallRule P Q) {config : Config} {quotas : Quotas}
    {S : Cooperative.System Quotas Task} (h : Reachable config quotas S) :
    ∀ t ∈ S.tasks, ∀ e ∈ t.log, P t.request e := by
  have hholds : ∀ t ∈ S.tasks, Holds P Q t := by
    refine h.forall_task ?_ ?_
    · intro t ht
      obtain ⟨hstage, hlog⟩ := ht
      rw [Holds, hstage, hlog]
      exact ⟨trivial, fun e he => absurd he List.not_mem_nil⟩
    · intro quotas t quotas' t' hsegment hholds
      obtain ⟨wake, ha⟩ := hsegment
      exact rule.advance hholds ha
  exact fun t ht => (hholds t ht).2

end CallRule

end DbGateway.Gateway
