import DbGateway.Audit.Chain

/-!
# DbGateway.Audit.SinkFailure

`log_audit_event` when the write of the sink raises.

The head of the chain is moved on before the sink is asked to write, so an event
that is not recorded stays the one the next event names.  The recorded events of
one context are one chain exactly when none of them comes directly after an
event that was not recorded (`linked_iff`).
-/

namespace DbGateway.Audit

open Json (PythonFloat)

section

variable [Python] [PythonFloat]

/-! ## One context -/

/-- A call, and whether the write of the sink raises. -/
structure Attempt where
  call : Call
  raises : Bool

/-- The context, and what the sink has recorded. -/
structure Trail where
  context : Context
  log : List (Dict Json)

/-- `log_audit_event`: the head is set before the write. -/
def Trail.step (trail : Trail) (attempt : Attempt) : Trail where
  context := (logAuditEvent trail.context attempt.call).2
  log :=
    if attempt.raises then trail.log
    else trail.log ++ [(logAuditEvent trail.context attempt.call).1]

/-- Calls made in a context, with nothing recorded at first. -/
def trailAfter (context : Context) (run : List Attempt) : Trail :=
  Runs.after Trail.step ⟨context, []⟩ run

/-- The heads the context has held, in order. -/
def heads (context : Context) : List Attempt → List String
  | [] => [context.auditHash]
  | attempt :: run =>
      context.auditHash :: heads (logAuditEvent context attempt.call).2 run

/-- No write that raises moves the head. -/
def HeadKept (context : Context) (run : List Attempt) : Prop :=
  Runs.Throughout (fun before attempt => attempt.raises = true →
    (trailAfter context (before ++ [attempt])).context.auditHash =
      (trailAfter context before).context.auditHash) run

/-- Each recorded event names the one recorded before it, and the first one the
head at the start. -/
def RecordedLinked (context : Context) (run : List Attempt) : Prop :=
  HashChain.LinkedFrom prevOf hashOf (some (.str context.auditHash)) (trailAfter context run).log

/-- No write raises. -/
def NoFailure (run : List Attempt) : Prop := ∀ attempt ∈ run, attempt.raises = false

/-- No event is recorded directly after one that was not. -/
def NoneAfterFailure (run : List Attempt) : Prop :=
  Runs.Throughout (fun before attempt => attempt.raises = false →
    ∀ last ∈ before.getLast?, last.raises = false) run

/-! ## Heads -/

theorem trailAfter_concat (context : Context) (run : List Attempt) (attempt : Attempt) :
    trailAfter context (run ++ [attempt]) = (trailAfter context run).step attempt :=
  Runs.after_concat ..

/-- Each call adds a head. -/
theorem heads_concat (context : Context) (run : List Attempt) (attempt : Attempt) :
    heads context (run ++ [attempt]) =
      heads context run ++ [(trailAfter context (run ++ [attempt])).context.auditHash] := by
  have hgeneral : ∀ (run : List Attempt) (trail : Trail),
      heads trail.context (run ++ [attempt]) = heads trail.context run ++
        [(Runs.after Trail.step trail (run ++ [attempt])).context.auditHash] := by
    intro run
    induction run with
    | nil => exact fun _ => rfl
    | cons first run ih =>
        intro trail
        have hrest := ih (trail.step first)
        simp only [List.cons_append, heads]
        rw [show (logAuditEvent trail.context first.call).2 = (trail.step first).context from rfl,
          hrest]
        rfl
  exact hgeneral run ⟨context, []⟩

/-- The head the context holds is the last of them. -/
theorem getLast?_heads (context : Context) (run : List Attempt) :
    (heads context run).getLast? = some (trailAfter context run).context.auditHash := by
  cases run using List.reverseRecOn with
  | nil => rfl
  | append_singleton run attempt => simp [heads_concat]

/-- The head of the log is among the heads the context has held. -/
theorem exists_head_log (context : Context) (run : List Attempt) :
    ∃ head ∈ heads context run,
      HashChain.head hashOf (some (.str context.auditHash)) (trailAfter context run).log =
        some (.str head) := by
  induction run using List.reverseRecOn with
  | nil => exact ⟨context.auditHash, List.mem_singleton_self _, rfl⟩
  | append_singleton run attempt ih =>
      obtain ⟨head, hmem, hhead⟩ := ih
      rw [heads_concat]
      cases hraises : attempt.raises with
      | true => exact ⟨head, by simp [hmem], by simp [trailAfter_concat, Trail.step, hraises, hhead]⟩
      | false =>
          refine ⟨_, List.mem_append_right _ (List.mem_singleton_self _), ?_⟩
          simp [trailAfter_concat, Trail.step, hraises, hashOf_event]

/-! ## Links -/

theorem recordedLinked_concat (context : Context) (run : List Attempt) (attempt : Attempt) :
    RecordedLinked context (run ++ [attempt]) ↔ RecordedLinked context run ∧
      (attempt.raises = false →
        HashChain.head hashOf (some (.str context.auditHash)) (trailAfter context run).log =
          some (.str (trailAfter context run).context.auditHash)) := by
  unfold RecordedLinked
  rw [trailAfter_concat]
  cases hraises : attempt.raises with
  | true => simp [Trail.step, hraises]
  | false =>
      simp only [Trail.step, hraises, Bool.false_eq_true, if_false, HashChain.linkedFrom_concat,
        prevOf_event, forall_const]
      rw [eq_comm (a := some (Json.str _))]

/-- After a call that was recorded, the head of the log is the context's. -/
theorem head_log_of_recorded {context : Context} {run : List Attempt}
    (h : ∀ last ∈ run.getLast?, last.raises = false) :
    HashChain.head hashOf (some (.str context.auditHash)) (trailAfter context run).log =
      some (.str (trailAfter context run).context.auditHash) := by
  cases run using List.reverseRecOn with
  | nil => rfl
  | append_singleton run last =>
      have hlast : last.raises = false := h last (by simp)
      simp [trailAfter_concat, Trail.step, hlast, hashOf_event]

/-- After one that was not, it is not, where the heads differ. -/
theorem head_log_of_not_recorded {context : Context} {run : List Attempt} {last : Attempt}
    (hdistinct : (heads context (run ++ [last])).Nodup) (hlast : last.raises = true) :
    HashChain.head hashOf (some (.str context.auditHash)) (trailAfter context (run ++ [last])).log ≠
      some (.str (trailAfter context (run ++ [last])).context.auditHash) := by
  obtain ⟨head, hmem, hhead⟩ := exists_head_log context run
  rw [heads_concat] at hdistinct
  have hlog : (trailAfter context (run ++ [last])).log = (trailAfter context run).log := by
    simp [trailAfter_concat, Trail.step, hlast]
  rw [hlog, hhead]
  intro hsame
  have hnew := (List.nodup_append.mp hdistinct).2.2 head hmem _ (List.mem_singleton_self _)
  exact hnew (Json.str.inj (Option.some.inj hsame))

theorem recordedLinked_of_noneAfterFailure {context : Context} {run : List Attempt}
    (h : NoneAfterFailure run) : RecordedLinked context run := by
  induction run using List.reverseRecOn with
  | nil => exact HashChain.linkedFrom_nil _
  | append_singleton run attempt ih =>
      obtain ⟨hrun, hattempt⟩ := Runs.throughout_concat.mp h
      exact (recordedLinked_concat context run attempt).mpr
        ⟨ih hrun, fun hraises => head_log_of_recorded (hattempt hraises)⟩

theorem nodup_heads_of_concat {context : Context} {run : List Attempt} {attempt : Attempt}
    (h : (heads context (run ++ [attempt])).Nodup) : (heads context run).Nodup := by
  rw [heads_concat] at h
  exact h.of_append_left

/-- **Which calls make one chain**, where the heads differ: those where none is
recorded directly after one that was not. -/
theorem recordedLinked_iff {context : Context} {run : List Attempt}
    (hdistinct : (heads context run).Nodup) :
    RecordedLinked context run ↔ NoneAfterFailure run := by
  refine ⟨fun h => ?_, recordedLinked_of_noneAfterFailure⟩
  induction run using List.reverseRecOn with
  | nil => exact Runs.throughout_nil _
  | append_singleton run attempt ih =>
      have hrun := nodup_heads_of_concat hdistinct
      obtain ⟨hlinked, hattempt⟩ := (recordedLinked_concat context run attempt).mp h
      refine Runs.throughout_concat.mpr ⟨ih hrun hlinked, fun hraises last hlast => ?_⟩
      obtain ⟨before, rfl⟩ := List.getLast?_eq_some_iff.mp hlast
      by_contra hfailed
      exact head_log_of_not_recorded hrun (Bool.not_eq_false _ ▸ hfailed) (hattempt hraises)

/-! ## The head -/

/-- The head survives failures, and the recorded events are a chain. -/
def ChainKept (context : Context) (run : List Attempt) : Prop :=
  HeadKept context run ∧ RecordedLinked context run

theorem noneAfterFailure_of_noFailure {run : List Attempt} (h : NoFailure run) :
    NoneAfterFailure run := by
  intro before attempt after hrun _ last hlast
  refine h last ?_
  rw [hrun]
  exact List.mem_append_left _ (List.mem_of_getLast? hlast)

/-- A failing write moves the head, where the heads differ. -/
theorem noFailure_of_headKept {context : Context} {run : List Attempt}
    (hdistinct : (heads context run).Nodup) (h : HeadKept context run) : NoFailure run := by
  induction run using List.reverseRecOn with
  | nil => exact fun _ hmem => absurd hmem List.not_mem_nil
  | append_singleton run attempt ih =>
      obtain ⟨hrun, hattempt⟩ := Runs.throughout_concat.mp h
      have hfailures := ih (nodup_heads_of_concat hdistinct) hrun
      rw [heads_concat] at hdistinct
      have hreturns : attempt.raises = false := by
        by_contra hraises
        have hlast := List.mem_of_getLast? (getLast?_heads context run)
        have hnew := (List.nodup_append.mp hdistinct).2.2 _ hlast _ (List.mem_singleton_self _)
        exact hnew (hattempt (Bool.not_eq_false _ ▸ hraises)).symm
      simpa [NoFailure, hreturns, or_imp, forall_and] using hfailures

/-- **The chain survives the sink** in a run without failures, and, where the
heads differ, in no other. -/
theorem chainKept_of_noFailure (context : Context) (run : List Attempt) :
    (NoFailure run → ChainKept context run) ∧
      ((heads context run).Nodup → ChainKept context run → NoFailure run) := by
  refine ⟨fun h => ⟨?_, ?_⟩, fun hdistinct hkept => noFailure_of_headKept hdistinct hkept.1⟩
  · intro before attempt after hrun hraises
    have hreturns := h attempt (by simp [hrun])
    simp [hreturns] at hraises
  · exact recordedLinked_of_noneAfterFailure (noneAfterFailure_of_noFailure h)

end

/-! ## Two events -/

/-- The first event is not recorded; the second one names it. -/
theorem not_chainKept_first :
    letI := Json.whole
    letI := Json.wholeFloat
    ¬ ∀ (context : Context) (run : List Attempt), ChainKept context run := by
  let _ := Json.whole
  let _ := Json.wholeFloat
  intro h
  let call : Call := ⟨"sql_query_started", noPayload, "2026-01-01T00:00:00.000001+00:00",
    "2026-01-01T00:00:00.000002+00:00"⟩
  have hfirst := (h ⟨"N/A", ""⟩ [⟨call, true⟩, ⟨call, false⟩]).2.1 _ rfl
  rw [prevOf_event] at hfirst
  have hempty : call.currentHash "" = "" := Json.str.inj (Option.some_inj.mp hfirst)
  have hlength : (call.currentHash "").length = 64 := Sha256.length_sha256 _
  rw [hempty] at hlength
  contradiction

/-- Two events that are recorded, the second linked to the first. -/
def recordedRun : List (@Attempt Json.whole Json.wholeFloat) :=
  letI := Json.whole
  letI := Json.wholeFloat
  [⟨⟨"sql_query_started", noPayload, "2026-01-01T00:00:00.000001+00:00",
      "2026-01-01T00:00:00.000002+00:00"⟩, false⟩,
    ⟨⟨"sql_query_completed", noPayload, "2026-01-01T00:00:01.000001+00:00",
      "2026-01-01T00:00:01.000002+00:00"⟩, false⟩]

theorem chainKept_of_noFailure_recorded :
    letI := Json.whole
    letI := Json.wholeFloat
    ChainKept ⟨"N/A", ""⟩ recordedRun := by
  let _ := Json.whole
  let _ := Json.wholeFloat
  refine (chainKept_of_noFailure ⟨"N/A", ""⟩ recordedRun).1 ?_
  simp [NoFailure, recordedRun]

end DbGateway.Audit
