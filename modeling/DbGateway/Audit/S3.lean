import DbGateway.Calendar
import DbGateway.Runs

/-!
# DbGateway.Audit.S3

`S3AuditSink` of `config/app_logger.py`: events are buffered and uploaded in
batches, as objects locked against deletion.

A flush empties the buffer before it builds the object and uploads it, so what
is in the buffer is lost whenever either fails (`kept_iff`).  The object is
locked until the day the buffer was flushed, as many *years* later as the
setting says days (`retainUntil_not_plusDays`).
-/

namespace DbGateway.Audit.S3

open Calendar (DateTime)

/-! ## The sink -/

structure Config where
  bucket : String
  /-- `prefix.rstrip("/") + "/"` -/
  keyPrefix : String
  kmsKeyId : Option String
  objectLockMode : String
  objectLockDays : Int
  maxBatch : Int

/-- What a flush finds outside: the clock, read for the key and twice for the
retention date, `uuid.uuid4().hex`, and whether `put_object` returns. -/
structure Surroundings where
  keyedAt : DateTime
  uuid : String
  lockedAt : DateTime
  yearReadAt : DateTime
  putObject : Bool

/-- The arguments of `put_object`, and the events its body was made of. -/
structure Object (E : Type*) where
  events : List E
  bucket : String
  key : String
  body : String
  contentType : String
  objectLockMode : String
  objectLockRetainUntilDate : DateTime
  /-- `ServerSideEncryption` and `SSEKMSKeyId` -/
  encryption : Option (String × String)

/-- The buffer, and the objects the bucket has received. -/
structure Sink (E : Type*) where
  buffer : List E
  stored : List (Object E)

/-- What a flush raises. -/
inductive Failure where
  /-- `json.dumps` of an event -/
  | dumps
  /-- `ValueError`: there is no such day. -/
  | retainUntil
  | putObject
deriving DecidableEq

/-- `n` in at least two digits. -/
def twoDigits (n : Nat) : String := if n < 10 then "0" ++ toString n else toString n

/-- `strftime('%Y/%m/%d')` -/
def datePath (t : DateTime) : String :=
  toString t.date.year ++ "/" ++ twoDigits t.date.month ++ "/" ++ twoDigits t.date.day

/-- `ObjectLockRetainUntilDate` -/
def retainUntil (config : Config) (lockedAt yearReadAt : DateTime) : Option DateTime :=
  lockedAt.replaceYear (yearReadAt.date.year + config.objectLockDays)

section

variable {E : Type*} (dumps : E → Option String) (config : Config)

/-- One line for each event; `none` when `json.dumps(e, default=str)` raises. -/
def body (batch : List E) : Option String :=
  (batch.mapM dumps).map fun lines => String.intercalate "\n" lines ++ "\n"

/-- The arguments of the upload, as far as they can be built. -/
def buildObject (batch : List E) (outside : Surroundings) : Except Failure (Object E) :=
  match body dumps batch with
  | none => .error .dumps
  | some body =>
      match retainUntil config outside.lockedAt outside.yearReadAt with
      | none => .error .retainUntil
      | some date => .ok {
          events := batch
          bucket := config.bucket
          key := config.keyPrefix ++ datePath outside.keyedAt ++ "/" ++ outside.uuid ++ ".jsonl"
          body
          contentType := "application/jsonl"
          objectLockMode := config.objectLockMode
          objectLockRetainUntilDate := date
          encryption := config.kmsKeyId.map fun key => ("aws:kms", key) }

namespace Sink

/-- `_flush_locked` -/
def flushLocked (sink : Sink E) (outside : Surroundings) : Except Failure Unit × Sink E :=
  if sink.buffer = [] then (.ok (), sink)
  else
    -- the buffer is cleared first
    match buildObject dumps config sink.buffer outside with
    | .error failure => (.error failure, { sink with buffer := [] })
    | .ok object =>
        if outside.putObject then (.ok (), ⟨[], sink.stored ++ [object]⟩)
        else (.error .putObject, { sink with buffer := [] })

/-- `self._buffer.append(event)` -/
def append (sink : Sink E) (event : E) : Sink E := { sink with buffer := sink.buffer ++ [event] }

/-- `write`, which raises again what the flush raises. -/
def write (sink : Sink E) (event : E) (outside : Surroundings) : Except Failure Unit × Sink E :=
  if config.maxBatch ≤ (sink.append event).buffer.length then
    (sink.append event).flushLocked dumps config outside
  else (.ok (), sink.append event)

/-- `flush` -/
def flush (sink : Sink E) (outside : Surroundings) : Except Failure Unit × Sink E :=
  sink.flushLocked dumps config outside

/-- `close` -/
def close (sink : Sink E) (outside : Surroundings) : Except Failure Unit × Sink E :=
  sink.flush dumps config outside

end Sink

/-! ## Runs -/

/-- A call; each holds the lock while it runs. -/
inductive Call (E : Type*) where
  | write (event : E) (outside : Surroundings)
  | flush (outside : Surroundings)
  | close (outside : Surroundings)

/-- The event a call hands over. -/
def Call.event? : Call E → Option E
  | .write event _ => some event
  | .flush _ => none
  | .close _ => none

def Sink.apply (sink : Sink E) : Call E → Except Failure Unit × Sink E
  | .write event outside => sink.write dumps config event outside
  | .flush outside => sink.flush dumps config outside
  | .close outside => sink.close dumps config outside

/-- Whether a call returns, and the sink it leaves. -/
def Sink.step (sink : Sink E) (call : Call E) : Bool × Sink E :=
  ((sink.apply dumps config call).1.isOk, (sink.apply dumps config call).2)

/-- A sink that has just been opened, after some calls. -/
def after (run : List (Call E)) : Sink E :=
  Runs.after (Runs.next (Sink.step dumps config)) ⟨[], []⟩ run

/-- The events `write` has accepted. -/
def accepted (run : List (Call E)) : List E :=
  (Runs.accepted (Sink.step dumps config) ⟨[], []⟩ run).filterMap Call.event?

/-- The events of the objects stored, followed by the buffer. -/
def Sink.events (sink : Sink E) : List E := sink.stored.flatMap Object.events ++ sink.buffer

/-- Nothing that was accepted is lost, repeated or out of order. -/
def Kept (run : List (Call E)) : Prop :=
  accepted dumps config run = (after dumps config run).events

/-! ## Flushes -/

/-- The upload of a batch succeeds: its events have a text, the retention date
exists and `put_object` returns. -/
structure Uploads (batch : List E) (outside : Surroundings) : Prop where
  body : (body dumps batch).isSome
  retainUntil : (retainUntil config outside.lockedAt outside.yearReadAt).isSome
  putObject : outside.putObject = true

/-- The call makes no upload that fails, or nothing was in the buffer. -/
def Lossless (sink : Sink E) : Call E → Prop
  | .write event outside =>
      sink.buffer = [] ∨ (sink.buffer.length + 1 : Int) < config.maxBatch ∨
        Uploads dumps config (sink.buffer ++ [event]) outside
  | .flush outside => sink.buffer = [] ∨ Uploads dumps config sink.buffer outside
  | .close outside => sink.buffer = [] ∨ Uploads dumps config sink.buffer outside

variable {dumps config}

theorem flushLocked_of_uploads {sink : Sink E} {outside : Surroundings}
    (hne : sink.buffer ≠ []) (h : Uploads dumps config sink.buffer outside) :
    (sink.flushLocked dumps config outside).1 = .ok () ∧
      (sink.flushLocked dumps config outside).2.buffer = [] ∧
      (sink.flushLocked dumps config outside).2.events = sink.events := by
  obtain ⟨text, htext⟩ := Option.isSome_iff_exists.mp h.body
  obtain ⟨date, hdate⟩ := Option.isSome_iff_exists.mp h.retainUntil
  simp [Sink.flushLocked, hne, buildObject, htext, hdate, h.putObject, Sink.events]

theorem flushLocked_of_not_uploads {sink : Sink E} {outside : Surroundings}
    (hne : sink.buffer ≠ []) (h : ¬ Uploads dumps config sink.buffer outside) :
    (sink.flushLocked dumps config outside).1.isOk = false ∧
      (sink.flushLocked dumps config outside).2 = { sink with buffer := [] } := by
  unfold Sink.flushLocked buildObject
  rw [if_neg hne]
  cases hbody : body dumps sink.buffer with
  | none => exact ⟨rfl, rfl⟩
  | some text =>
      cases hdate : retainUntil config outside.lockedAt outside.yearReadAt with
      | none => exact ⟨rfl, rfl⟩
      | some date =>
          cases hput : outside.putObject with
          | false => exact ⟨rfl, rfl⟩
          | true => exact absurd ⟨by simp [hbody], by simp [hdate], hput⟩ h

theorem flushLocked_nil {sink : Sink E} {outside : Surroundings} (h : sink.buffer = []) :
    sink.flushLocked dumps config outside = (.ok (), sink) := by
  rw [Sink.flushLocked, if_pos h]

/-! ## One call -/

/-- The event that is accepted with a call that returns. -/
def Call.added (call : Call E) (returned : Bool) : List E :=
  if returned then call.event?.toList else []

@[simp] theorem added_write (event : E) (outside : Surroundings) (returned : Bool) :
    (Call.write event outside).added returned = if returned then [event] else [] := rfl

@[simp] theorem added_flush (outside : Surroundings) (returned : Bool) :
    (Call.flush outside : Call E).added returned = [] := by
  cases returned <;> rfl

@[simp] theorem added_close (outside : Surroundings) (returned : Bool) :
    (Call.close outside : Call E).added returned = [] := by
  cases returned <;> rfl

@[simp] theorem buffer_append (sink : Sink E) (event : E) :
    (sink.append event).buffer = sink.buffer ++ [event] := rfl

@[simp] theorem events_append (sink : Sink E) (event : E) :
    (sink.append event).events = sink.events ++ [event] := by
  simp [Sink.append, Sink.events]

theorem events_flushLocked {sink : Sink E} {outside : Surroundings}
    (h : sink.buffer = [] ∨ Uploads dumps config sink.buffer outside) :
    (sink.flushLocked dumps config outside).2.events = sink.events := by
  by_cases hempty : sink.buffer = []
  · rw [flushLocked_nil hempty]
  · exact (flushLocked_of_uploads hempty (h.resolve_left hempty)).2.2

/-- A lossless call keeps what is there and adds what it accepts. -/
theorem events_step {sink : Sink E} {call : Call E} (h : Lossless dumps config sink call) :
    (sink.step dumps config call).2.events =
      sink.events ++ call.added (sink.step dumps config call).1 := by
  cases call with
  | write event outside =>
      simp only [Sink.step, Sink.apply, Sink.write]
      have hne : (sink.append event).buffer ≠ [] := by simp
      by_cases hfull : config.maxBatch ≤ ((sink.append event).buffer.length : Int)
      · by_cases huploads : Uploads dumps config (sink.append event).buffer outside
        · have hflush := flushLocked_of_uploads hne huploads
          simp only [if_pos hfull, hflush.1, hflush.2.2, events_append]
          rfl
        · -- the event itself is not accepted
          have hflush := flushLocked_of_not_uploads hne huploads
          have hempty : sink.buffer = [] := by
            rcases h with hempty | hroom | hup
            · exact hempty
            · simp at hfull
              omega
            · exact absurd hup huploads
          simp only [if_pos hfull, hflush.1, hflush.2]
          simp [Sink.events, Sink.append, hempty]
      · simp only [if_neg hfull, events_append]
        rfl
  | flush outside => simp [Sink.step, Sink.apply, Sink.flush, events_flushLocked h]
  | close outside => simp [Sink.step, Sink.apply, Sink.close, Sink.flush, events_flushLocked h]

/-- Any other call raises and leaves an empty buffer where there were events. -/
theorem step_of_not_lossless {sink : Sink E} {call : Call E}
    (h : ¬ Lossless dumps config sink call) :
    sink.buffer ≠ [] ∧ sink.step dumps config call = (false, { sink with buffer := [] }) := by
  cases call with
  | write event outside =>
      simp only [Lossless, not_or] at h
      obtain ⟨hbuffer, hfull, huploads⟩ := h
      have hne : (sink.append event).buffer ≠ [] := by simp
      have hflush := flushLocked_of_not_uploads hne huploads
      have hreached : config.maxBatch ≤ ((sink.append event).buffer.length : Int) := by
        simp
        omega
      simp only [Sink.step, Sink.apply, Sink.write, if_pos hreached, hflush.1, hflush.2]
      exact ⟨hbuffer, rfl⟩
  | flush outside =>
      simp only [Lossless, not_or] at h
      have hflush := flushLocked_of_not_uploads h.1 h.2
      simp [Sink.step, Sink.apply, Sink.flush, hflush.1, hflush.2, h.1]
  | close outside =>
      simp only [Lossless, not_or] at h
      have hflush := flushLocked_of_not_uploads h.1 h.2
      simp [Sink.step, Sink.apply, Sink.close, Sink.flush, hflush.1, hflush.2, h.1]

/-! ## Whole runs -/

variable (dumps config)

theorem accepted_concat (run : List (Call E)) (call : Call E) :
    accepted dumps config (run ++ [call]) = accepted dumps config run ++
      call.added ((after dumps config run).step dumps config call).1 := by
  simp only [accepted, Runs.accepted_concat, List.filterMap_append, after]
  generalize (Sink.step dumps config _ call).1 = returned
  cases returned <;> cases call <;> rfl

theorem after_concat (run : List (Call E)) (call : Call E) :
    after dumps config (run ++ [call]) = ((after dumps config run).step dumps config call).2 :=
  Runs.after_concat ..

/-- No more events are there than were accepted. -/
theorem length_events_le (run : List (Call E)) :
    (after dumps config run).events.length ≤ (accepted dumps config run).length := by
  induction run using List.reverseRecOn with
  | nil => simp [after, accepted, Sink.events, Runs.after, Runs.accepted]
  | append_singleton run call ih =>
      rw [after_concat, accepted_concat]
      by_cases h : Lossless dumps config (after dumps config run) call
      · simp [events_step h, ih]
      · simp only [Sink.events, List.length_append] at ih
        simp [(step_of_not_lossless h).2, Sink.events, Call.added]
        simp at ih
        omega

/-- A call keeps the events exactly when it is lossless. -/
theorem kept_concat (run : List (Call E)) (call : Call E) :
    Kept dumps config (run ++ [call]) ↔
      Kept dumps config run ∧ Lossless dumps config (after dumps config run) call := by
  unfold Kept
  rw [after_concat, accepted_concat]
  by_cases h : Lossless dumps config (after dumps config run) call
  · simp [events_step h, h]
  · -- what is left is shorter than what was there, and that than what was accepted
    obtain ⟨hbuffer, hstep⟩ := step_of_not_lossless h
    have hlength := length_events_le dumps config run
    have hpos := List.length_pos_iff.mpr hbuffer
    simp only [hstep, h, and_false, iff_false]
    intro hkept
    have heq := congrArg List.length hkept
    simp [Sink.events, Call.added] at heq hlength
    omega

/-- **No event is lost**: what `write` accepted is in the objects stored and the
buffer, in order and once, exactly when every upload of the run succeeds that is
made with events already in the buffer. -/
theorem kept_iff (run : List (Call E)) : Kept dumps config run ↔
    Runs.Throughout (fun before call => Lossless dumps config (after dumps config before) call)
      run := by
  induction run using List.reverseRecOn with
  | nil =>
      have hinit : Kept dumps config ([] : List (Call E)) := rfl
      simp [hinit, Runs.throughout_nil]
  | append_singleton run call ih => rw [kept_concat, Runs.throughout_concat, ih]

end

/-! ## An upload that fails -/

/-- The first second of 2026. -/
def newYear : DateTime := ⟨⟨2026, 1, 1, by decide, by decide, by decide⟩, 0⟩

/-- A sink with the defaults of `S3AuditSink`. -/
def standard : Config := ⟨"audit-bucket", "audit/", none, "COMPLIANCE", 365, 100⟩

/-- One event is accepted, and the flush cannot upload it. -/
theorem not_kept_failing : ¬ ∀ (dumps : String → Option String) (config : Config)
    (run : List (Call String)), Kept dumps config run := by
  intro h
  have hkept := h (fun event => some ("\"" ++ event ++ "\"")) standard
    [.write "sql_query" ⟨newYear, "00", newYear, newYear, true⟩,
      .flush ⟨newYear, "00", newYear, newYear, false⟩]
  have hcontra : ["sql_query"] = ([] : List String) := hkept
  contradiction

/-! ## Retention -/

/-- **No object is locked for the days the setting says**, whatever the setting
and the day of the flush: the date is off by years, or does not exist.  The
second reading of the clock is not before the first, and may be the same. -/
theorem retainUntil_not_plusDays (config : Config) (lockedAt yearReadAt : DateTime)
    (hclock : lockedAt.instant ≤ yearReadAt.instant) (hdays : 1 ≤ config.objectLockDays) :
    ¬ ∃ until_, retainUntil config lockedAt yearReadAt = some until_ ∧
      lockedAt.PlusDays config.objectLockDays until_ := by
  rintro ⟨until_, hdate, hdays'⟩
  have hyear := DateTime.year_le hclock
  obtain ⟨hyear', hmonth, hday, htime⟩ := DateTime.replaceYear_eq_some hdate
  -- the date is some years later, at least as many as the setting says days
  obtain ⟨k, hk, hle⟩ : ∃ k : Nat, until_.date.year = lockedAt.date.year + k ∧
      config.objectLockDays ≤ k := by
    refine ⟨until_.date.year - lockedAt.date.year, ?_, ?_⟩ <;> omega
  have hordinal := Calendar.Date.toordinal_add k hk hmonth hday
  simp only [DateTime.PlusDays, DateTime.instant, htime] at hdays'
  push_cast at hdays'
  have hequal : (until_.date.toordinal : Int) = lockedAt.date.toordinal + config.objectLockDays := by
    omega
  omega

/-- At the start of 2026, an object to be locked for 365 days is locked until
the year 2391. -/
theorem not_retained_newYear : ¬ ∀ (config : Config) (flushedAt : DateTime),
    1 ≤ config.objectLockDays → ∃ until_, retainUntil config flushedAt flushedAt = some until_ ∧
      flushedAt.PlusDays config.objectLockDays until_ := by
  intro h
  obtain ⟨until_, hdate, hdays⟩ := h standard newYear (by decide)
  obtain ⟨hyear, hmonth, hday, htime⟩ := DateTime.replaceYear_eq_some hdate
  have hordinal : until_.date.toordinal = 872930 := by
    rw [Calendar.Date.toordinal, hyear, hmonth, hday]
    decide
  simp only [DateTime.PlusDays, DateTime.instant, hordinal, htime] at hdays
  revert hdays
  decide

theorem retainUntil_not_plusDays_newYear :
    ¬ ∃ until_, retainUntil standard newYear newYear = some until_ ∧
      newYear.PlusDays standard.objectLockDays until_ :=
  retainUntil_not_plusDays standard newYear newYear (Nat.le_refl _) (by decide)

end DbGateway.Audit.S3
