import DbGateway.Audit.Event
import DbGateway.HashChain
import DbGateway.Runs
import Mathlib.Logic.Function.Basic

/-!
# DbGateway.Audit.Chain

The audit log of a whole process: many tasks call `log_audit_event`, and one
sink receives their events in the order of the calls.

The head of the chain is a context variable, so each task has its own, copied
from the task that started it.  The log is one chain exactly when every call is
made by a task whose head was set by the call before, its own or one it has
inherited (`single_chain`).
-/

namespace DbGateway.Audit

open Json (PythonFloat)

section

variable [Python] [PythonFloat]

/-! ## Tasks -/

/-- The contexts of the tasks, by number, and what the sink has received. -/
structure System where
  contexts : Nat → Context
  log : List (Dict Json)

/-- What a task does to its context. -/
inductive Step where
  /-- A task starts another, which gets a copy of its context. -/
  | spawn (parent child : Nat)
  /-- `set_current_correlation_id` -/
  | correlate (task : Nat) (correlationId : String)
  /-- `log_audit_event`, with the sink writing -/
  | log (task : Nat) (call : Call)

/-- The defaults of the context variables, and nothing logged. -/
def System.initial : System := ⟨fun _ => ⟨"N/A", ""⟩, []⟩

def System.step (system : System) : Step → System
  | .spawn parent child =>
      { system with contexts := Function.update system.contexts child (system.contexts parent) }
  | .correlate task correlationId =>
      { system with
        contexts := Function.update system.contexts task
          { system.contexts task with correlationId } }
  | .log task call =>
      { contexts := Function.update system.contexts task
          (logAuditEvent (system.contexts task) call).2
        log := system.log ++ [(logAuditEvent (system.contexts task) call).1] }

/-- The system after some steps. -/
def System.after (run : List Step) : System := Runs.after System.step System.initial run

/-! ## The order of the calls -/

/-- How many calls were made, and after how many of them the head each task
holds was set: by itself, or before it was inherited. -/
structure Schedule where
  calls : Nat
  setAt : Nat → Nat

def Schedule.step (schedule : Schedule) : Step → Schedule
  | .spawn parent child =>
      { schedule with setAt := Function.update schedule.setAt child (schedule.setAt parent) }
  | .correlate _ _ => schedule
  | .log task _ =>
      ⟨schedule.calls + 1, Function.update schedule.setAt task (schedule.calls + 1)⟩

def Schedule.after (run : List Step) : Schedule := Runs.after Schedule.step ⟨0, fun _ => 0⟩ run

/-- Every call is made by a task whose head the call before has set. -/
def Ordered (run : List Step) : Prop :=
  Runs.Throughout (fun before step => ∀ task call, step = .log task call →
    (Schedule.after before).setAt task = (Schedule.after before).calls) run

/-! ## The chain -/

/-- The hash an event has, and the one it names. -/
def hashOf (event : Dict Json) : Option Json := event.get? "audit_hash"

def prevOf (event : Dict Json) : Option Json := event.get? "prev_audit_hash"

/-- The head of an empty log. -/
def start : Option Json := some (.str "")

theorem hashOf_event (context : Context) (call : Call) :
    hashOf (logAuditEvent context call).1 =
      some (.str (logAuditEvent context call).2.auditHash) := by
  rw [hashOf, logAuditEvent, Call.event_get?]
  rfl

theorem prevOf_event (context : Context) (call : Call) :
    prevOf (logAuditEvent context call).1 = some (.str context.auditHash) := by
  rw [prevOf, logAuditEvent, Call.event_get?]
  rfl

/-- Each task holds the head the log had after as many calls as the schedule
counts for it. -/
structure Consistent (system : System) (schedule : Schedule) : Prop where
  calls : schedule.calls = system.log.length
  setAt : ∀ task, schedule.setAt task ≤ schedule.calls
  head : ∀ task, (start :: system.log.map hashOf)[schedule.setAt task]? =
    some (some (.str (system.contexts task).auditHash))

omit [Python] [PythonFloat] in
theorem consistent_initial : Consistent System.initial ⟨0, fun _ => 0⟩ :=
  ⟨rfl, fun _ => Nat.le_refl 0, fun _ => rfl⟩

/-- A step keeps every task on the head the schedule says. -/
theorem Consistent.step {system : System} {schedule : Schedule} (h : Consistent system schedule)
    (step : Step) : Consistent (system.step step) (schedule.step step) := by
  cases step with
  | spawn parent child =>
      refine ⟨h.calls, fun task => ?_, fun task => ?_⟩
      · by_cases htask : task = child
        · simpa [Schedule.step, htask] using h.setAt parent
        · simpa [Schedule.step, Function.update_of_ne htask] using h.setAt task
      · by_cases htask : task = child
        · simpa [Schedule.step, System.step, htask] using h.head parent
        · simpa [Schedule.step, System.step, Function.update_of_ne htask] using h.head task
  | correlate task correlationId =>
      refine ⟨h.calls, h.setAt, fun other => ?_⟩
      by_cases hother : other = task
      · simpa [Schedule.step, System.step, hother] using h.head task
      · simpa [Schedule.step, System.step, Function.update_of_ne hother] using h.head other
  | log task call =>
      have hcalls := h.calls
      refine ⟨?_, fun other => ?_, fun other => ?_⟩
      · simp [Schedule.step, System.step, hcalls]
      · by_cases hother : other = task
        · simp [Schedule.step, hother]
        · have hle := h.setAt other
          simp only [Schedule.step, Function.update_of_ne hother]
          omega
      · by_cases hother : other = task
        · subst hother
          simp only [Schedule.step, System.step, Function.update_self, List.map_append,
            List.map_singleton, hashOf_event, List.getElem?_cons_succ, hcalls]
          rw [List.getElem?_append_right (by simp)]
          simp
        · have hle := h.setAt other
          have hlt : schedule.setAt other < (start :: system.log.map hashOf).length := by
            simp
            omega
          simp only [Schedule.step, System.step, Function.update_of_ne hother, List.map_append]
          rw [← List.cons_append, List.getElem?_append_left hlt]
          exact h.head other

theorem consistent_after (run : List Step) :
    Consistent (System.after run) (Schedule.after run) := by
  refine Runs.invariant (I := fun run system => Consistent system (Schedule.after run))
    consistent_initial ?_ run
  intro run step hconsistent
  rw [Schedule.after, Runs.after_concat]
  exact hconsistent.step step

omit [Python] [PythonFloat] in
/-- The head of the log is where the schedule has every call. -/
theorem Consistent.head_log {system : System} {schedule : Schedule}
    (h : Consistent system schedule) :
    (start :: system.log.map hashOf)[schedule.calls]? =
      some (HashChain.head hashOf start system.log) := by
  have hhead := HashChain.getElem?_head hashOf start system.log []
  rwa [List.append_nil, ← h.calls] at hhead

/-- A task whose head the last call has set names the head of the log. -/
theorem Consistent.prevOf_eq {system : System} {schedule : Schedule}
    (h : Consistent system schedule) {task : Nat} (htask : schedule.setAt task = schedule.calls)
    (call : Call) : prevOf (logAuditEvent (system.contexts task) call).1 =
      HashChain.head hashOf start system.log := by
  have hhead := h.head task
  rw [htask, h.head_log] at hhead
  rw [prevOf_event]
  exact (Option.some_inj.mp hhead).symm

/-- Where the hashes differ, no other task does. -/
theorem Consistent.setAt_eq {system : System} {schedule : Schedule}
    (h : Consistent system schedule) (hdistinct : (start :: system.log.map hashOf).Nodup)
    {task : Nat} {call : Call} (hprev : prevOf (logAuditEvent (system.contexts task) call).1 =
      HashChain.head hashOf start system.log) : schedule.setAt task = schedule.calls := by
  have hle := h.setAt task
  have hcalls := h.calls
  have hlt : schedule.setAt task < (start :: system.log.map hashOf).length := by
    simp
    omega
  rw [prevOf_event] at hprev
  refine (List.getElem?_inj hlt hdistinct).mp ?_
  rw [h.head task, h.head_log, hprev]

theorem linkedFrom_of_ordered {run : List Step} (hordered : Ordered run) :
    HashChain.LinkedFrom prevOf hashOf start (System.after run).log := by
  refine hordered.invariant
    (I := fun _ (system : System) => HashChain.LinkedFrom prevOf hashOf start system.log)
    (HashChain.linkedFrom_nil start) ?_
  intro run step hstep hlinked
  cases step with
  | spawn parent child => exact hlinked
  | correlate task correlationId => exact hlinked
  | log task call =>
      have hprev := (consistent_after run).prevOf_eq (hstep task call rfl) call
      exact (HashChain.linkedFrom_concat start _ _).mpr ⟨hlinked, hprev⟩

theorem ordered_of_linked {run : List Step}
    (hdistinct : (start :: (System.after run).log.map hashOf).Nodup)
    (hlog : HashChain.Linked prevOf hashOf (System.after run).log) : Ordered run := by
  induction run using List.reverseRecOn with
  | nil => exact Runs.throughout_nil _
  | append_singleton run step ih =>
      rw [System.after, Runs.after_concat] at hdistinct hlog
      rw [Ordered, Runs.throughout_concat]
      cases step with
      | spawn parent child => exact ⟨ih hdistinct hlog, fun _ _ h => nomatch h⟩
      | correlate task correlationId => exact ⟨ih hdistinct hlog, fun _ _ h => nomatch h⟩
      | log task call =>
          have hbefore : (start :: (System.after run).log.map hashOf).Nodup := by
            refine hdistinct.sublist (List.Sublist.cons_cons _ ?_)
            exact (List.sublist_append_left _ _).map _
          obtain ⟨hlinked, hprev⟩ := (HashChain.linked_concat start _ _).mp hlog
          refine ⟨ih hbefore hlinked, ?_⟩
          intro task' call' hstep
          obtain ⟨rfl, rfl⟩ := Step.log.inj hstep
          have hconsistent := consistent_after run
          by_cases hempty : (System.after run).log = []
          · -- the first call: there is one head to hold
            have hle := hconsistent.setAt task
            have hcalls := hconsistent.calls
            rw [hempty, List.length_nil] at hcalls
            omega
          · exact hconsistent.setAt_eq hbefore (hprev hempty)

/-- **A single audit chain**: when every call is made by a task whose head the
call before has set, each event names the hash of the one received before it;
then, where the hashes differ, whatever is removed or reordered shows.  And where
they differ, no other order of calls makes one chain. -/
theorem single_chain (run : List Step) :
    (Ordered run → HashChain.LinkedFrom prevOf hashOf start (System.after run).log ∧
      ((start :: (System.after run).log.map hashOf).Nodup →
        ∀ kept, (∀ event ∈ kept, event ∈ (System.after run).log) →
          HashChain.LinkedFrom prevOf hashOf start kept → kept <+: (System.after run).log)) ∧
      ((start :: (System.after run).log.map hashOf).Nodup →
        HashChain.Linked prevOf hashOf (System.after run).log → Ordered run) := by
  refine ⟨fun hordered => ?_, ordered_of_linked⟩
  have hlinked := linkedFrom_of_ordered hordered
  exact ⟨hlinked, fun hdistinct _ hmem hkept =>
    HashChain.prefix_of_linkedFrom hlinked hdistinct hmem hkept⟩

end

/-- One request that logs twice. -/
theorem single_chain_one_request :
    letI := Json.whole
    letI := Json.wholeFloat
    let call : Call := ⟨"sql_query_started", noPayload, "2026-01-01T00:00:00.000001+00:00",
      "2026-01-01T00:00:00.000002+00:00"⟩
    HashChain.LinkedFrom prevOf hashOf start
      (System.after [.spawn 0 1, .log 1 call, .log 1 call]).log := by
  let _ := Json.whole
  let _ := Json.wholeFloat
  intro call
  refine ((single_chain [.spawn 0 1, .log 1 call, .log 1 call]).1 ?_).1
  have hspawn : Ordered [.spawn 0 1] :=
    Runs.throughout_concat.mpr ⟨Runs.throughout_nil _, fun _ _ h => nomatch h⟩
  have hfirst : Ordered [.spawn 0 1, .log 1 call] := by
    refine Runs.throughout_concat.mpr ⟨hspawn, fun _ _ h => ?_⟩
    obtain ⟨rfl, -⟩ := Step.log.inj h
    rfl
  refine Runs.throughout_concat.mpr ⟨hfirst, fun _ _ h => ?_⟩
  obtain ⟨rfl, -⟩ := Step.log.inj h
  rfl

/-- Two requests, each with its own copy of the head, log one event each. -/
theorem not_linked_two_requests :
    letI := Json.whole
    letI := Json.wholeFloat
    let call : Call := ⟨"sql_query_started", noPayload, "2026-01-01T00:00:00.000001+00:00",
      "2026-01-01T00:00:00.000002+00:00"⟩
    ¬ HashChain.Linked prevOf hashOf
      (System.after [.spawn 0 1, .spawn 0 2, .log 1 call, .log 2 call]).log := by
  let _ := Json.whole
  let _ := Json.wholeFloat
  intro call hlinked
  have hnames := List.isChain_pair.mp hlinked
  rw [prevOf_event, hashOf_event] at hnames
  have hempty : "" = call.currentHash "" := Json.str.inj (Option.some_inj.mp hnames)
  have hlength : (call.currentHash "").length = 64 := Sha256.length_sha256 _
  rw [← hempty] at hlength
  contradiction

end DbGateway.Audit
