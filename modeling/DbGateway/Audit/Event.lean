import DbGateway.Json.Canonical
import DbGateway.Sha256

/-!
# DbGateway.Audit.Event

`log_audit_event` of `config/app_logger.py`: the document that is hashed and
the event that is recorded.

The two are built apart, from two readings of the clock and with different
keys.  What an auditor recomputes from the record is what was hashed exactly
when the readings agree, or the caller gives the timestamp, and the caller
gives no correlation id (`verifiable_iff`); and the hash tells two records
apart except where only their correlation ids and classifications differ
(`hash_covers_iff`).
-/

namespace DbGateway.Audit

open Json (PythonFloat Proper sortKeys canonical)

section

variable [Python] [PythonFloat]

/-! ## The two documents -/

/-- `**payload`: keyword arguments, with their values as `json.dumps` sees
them (`default=str`). -/
structure Payload where
  fields : Dict Json
  proper : Proper (.obj fields)

/-- The context variables of the task that makes a call. -/
structure Context where
  correlationId : String
  auditHash : String
deriving DecidableEq

/-- A call, and what the clock says, in ISO format, when the document to hash
and the event are built. -/
structure Call where
  eventType : String
  payload : Payload
  hashedAt : String
  recordedAt : String

namespace Call

/-- `payload.pop("data_classification", "INTERNAL")` -/
def dataClassification (call : Call) : Json :=
  (call.payload.fields.get? "data_classification").getD (.str "INTERNAL")

/-- The payload that is left. -/
def rest (call : Call) : Dict Json :=
  call.payload.fields.filter fun kv => kv.1 ≠ "data_classification"

/-- The first two fields of either document. -/
def header (call : Call) (timestamp : String) : Dict Json :=
  [("event", .str call.eventType), ("timestamp", .str timestamp)]

/-- What is hashed, as a dictionary. -/
def hashDocument (call : Call) : Dict Json :=
  (call.header call.hashedAt).update
    (call.rest.filter fun kv => kv.1 ≠ "audit_hash" && kv.1 ≠ "prev_audit_hash")

/-- `current_hash` -/
def currentHash (call : Call) (prevHash : String) : String :=
  sha256 (prevHash ++ canonical (.obj call.hashDocument))

/-- What is recorded. -/
def event (call : Call) (context : Context) : Dict Json :=
  (((((call.header call.recordedAt).update call.rest).set
    "correlation_id" (.str context.correlationId)).set
    "audit_hash" (.str (call.currentHash context.auditHash))).set
    "prev_audit_hash" (.str context.auditHash)).set
    "data_classification" call.dataClassification

end Call

/-- `log_audit_event`: the event the sink receives, and the context left. -/
def logAuditEvent (context : Context) (call : Call) : Dict Json × Context :=
  (call.event context, { context with auditHash := call.currentHash context.auditHash })

/-! ## What they hold -/

namespace Call

/-- The keys the hash leaves out. -/
def isUncovered (k : String) : Bool :=
  k = "audit_hash" || k = "prev_audit_hash" || k = "data_classification"

/-- What a call gives for a key, with the clock's reading as its timestamp. -/
def gives (call : Call) (timestamp : String) (k : String) : Option Json :=
  (call.payload.fields.get? k).or ((call.header timestamp).get? k)

/-- Only an absent timestamp is read off the clock. -/
theorem gives_congr (call : Call) {timestamp timestamp' k : String}
    (h : k ≠ "timestamp" ∨ k ∈ call.payload.fields.map Prod.fst ∨ timestamp = timestamp') :
    call.gives timestamp k = call.gives timestamp' k := by
  rw [gives, gives]
  obtain h | h | h := h
  · simp only [header, Dict.get?_cons, if_neg h]
  · cases hget : call.payload.fields.get? k with
    | none => exact absurd h (Dict.get?_eq_none_iff.mp hget)
    | some v => rw [Option.some_or, Option.some_or]
  · rw [h]

theorem nodup_header (call : Call) (timestamp : String) :
    ((call.header timestamp).map Prod.fst).Nodup := by
  show ["event", "timestamp"].Nodup
  decide

theorem nodup_rest (call : Call) : (call.rest.map Prod.fst).Nodup :=
  Dict.nodup_filter call.payload.proper.1 _

theorem header_get?_of_isUncovered (call : Call) (timestamp : String) {k : String}
    (h : isUncovered k = true) : (call.header timestamp).get? k = none := by
  have hk : k ≠ "event" ∧ k ≠ "timestamp" := by
    constructor
    · intro hk
      rw [hk] at h
      exact absurd h (by decide)
    · intro hk
      rw [hk] at h
      exact absurd h (by decide)
  rw [header, Dict.get?_cons, if_neg hk.1, Dict.get?_cons, if_neg hk.2, Dict.get?_nil]

/-- The document hashed holds what the call gives, but for three keys. -/
theorem hashDocument_get? (call : Call) (k : String) :
    call.hashDocument.get? k = if isUncovered k then none else call.gives call.hashedAt k := by
  have hrest : Dict.get? (call.rest.filter fun kv =>
      kv.1 ≠ "audit_hash" && kv.1 ≠ "prev_audit_hash") k =
        if isUncovered k then none else call.payload.fields.get? k := by
    rw [Dict.get?_filter (fun k => k ≠ "audit_hash" && k ≠ "prev_audit_hash"), rest,
      Dict.get?_filter (fun k => k ≠ "data_classification")]
    by_cases hhash : k = "audit_hash"
    · simp [isUncovered, hhash]
    · by_cases hprev : k = "prev_audit_hash"
      · simp [isUncovered, hprev]
      · simp [isUncovered, hhash, hprev]
  rw [hashDocument, Dict.get?_update _ (Dict.nodup_filter call.nodup_rest _), hrest]
  cases hk : isUncovered k with
  | true => rw [if_pos rfl, if_pos rfl, header_get?_of_isUncovered call _ hk, Option.none_or]
  | false => rw [if_neg Bool.false_ne_true, if_neg Bool.false_ne_true, gives]

/-- The event holds what the call gives, but for the four keys it sets. -/
theorem event_get? (call : Call) (context : Context) (k : String) :
    (call.event context).get? k =
      if k = "data_classification" then some call.dataClassification
      else if k = "prev_audit_hash" then some (.str context.auditHash)
      else if k = "audit_hash" then some (.str (call.currentHash context.auditHash))
      else if k = "correlation_id" then some (.str context.correlationId)
      else call.gives call.recordedAt k := by
  rw [event, Dict.get?_set, Dict.get?_set, Dict.get?_set, Dict.get?_set,
    Dict.get?_update _ call.nodup_rest]
  by_cases hk : k = "data_classification"
  · rw [if_pos hk, if_pos hk]
  · have hrest : call.rest.get? k = call.payload.fields.get? k := by
      rw [rest, Dict.get?_filter (fun k => k ≠ "data_classification"), if_pos (by simpa using hk)]
    rw [if_neg hk, if_neg hk, hrest, gives]

theorem proper_header (call : Call) (timestamp : String) :
    Proper (.obj (call.header timestamp)) :=
  ⟨call.nodup_header timestamp, trivial, trivial, trivial⟩

theorem proper_rest (call : Call) : Proper (.obj call.rest) :=
  Json.proper_filter call.payload.proper _

theorem proper_hashDocument (call : Call) : Proper (.obj call.hashDocument) :=
  Json.proper_update (call.proper_header _)
    (Json.proper_obj_iff.mp (Json.proper_filter call.proper_rest _)).2

theorem proper_dataClassification (call : Call) : Proper call.dataClassification := by
  rw [dataClassification]
  cases h : call.payload.fields.get? "data_classification" with
  | none => exact trivial
  | some v => exact (Json.proper_obj_iff.mp call.payload.proper).2 _ (Dict.mem_of_get? h)

theorem proper_event (call : Call) (context : Context) : Proper (.obj (call.event context)) := by
  have hbase : Proper (.obj ((call.header call.recordedAt).update call.rest)) :=
    Json.proper_update (call.proper_header _) (Json.proper_obj_iff.mp call.proper_rest).2
  have hcid := Json.proper_set hbase "correlation_id" (v := .str context.correlationId) trivial
  have hhash := Json.proper_set hcid "audit_hash"
    (v := .str (call.currentHash context.auditHash)) trivial
  have hprev := Json.proper_set hhash "prev_audit_hash" (v := .str context.auditHash) trivial
  exact Json.proper_set hprev "data_classification" call.proper_dataClassification

/-- Two hashes over one head are equal when the documents are, and only then
unless the texts collide. -/
theorem canonical_hashDocument_eq_iff (call call' : Call) :
    canonical (.obj call.hashDocument) = canonical (.obj call'.hashDocument) ↔
      ∀ k, isUncovered k = false →
        (call.gives call.hashedAt k).map sortKeys = (call'.gives call'.hashedAt k).map sortKeys := by
  rw [Json.canonical_eq_iff call.proper_hashDocument call'.proper_hashDocument]
  refine forall_congr' fun k => ?_
  rw [hashDocument_get?, hashDocument_get?]
  cases hk : isUncovered k <;> simp

end Call

/-! ## What an auditor recomputes -/

/-- The keys an event has besides its type, its timestamp and its payload. -/
def isMetadata (k : String) : Bool :=
  k = "correlation_id" || k = "audit_hash" || k = "prev_audit_hash" || k = "data_classification"

/-- The recorded event type, timestamp and payload. -/
def recorded (event : Dict Json) : Dict Json := event.filter fun kv => !isMetadata kv.1

/-- The event's hash is that of the previous one and of what it records. -/
def Verifiable (event : Dict Json) : Prop :=
  ∃ prevHash, event.get? "prev_audit_hash" = some (.str prevHash) ∧
    event.get? "audit_hash" = some (.str (sha256 (prevHash ++ canonical (.obj (recorded event)))))

theorem recorded_get? (call : Call) (context : Context) (k : String) :
    (recorded (call.event context)).get? k =
      if isMetadata k then none else call.gives call.recordedAt k := by
  rw [recorded, Dict.get?_filter (fun k => !isMetadata k), Call.event_get?]
  cases hk : isMetadata k with
  | true => rfl
  | false =>
      simp only [isMetadata, Bool.or_eq_false_iff, decide_eq_false_iff_not] at hk
      obtain ⟨⟨⟨hcid, hhash⟩, hprev⟩, hclass⟩ := hk
      simp [hcid, hhash, hprev, hclass]

/-- An event is verifiable when the two texts hash alike. -/
theorem verifiable_event (context : Context) (call : Call) :
    Verifiable (logAuditEvent context call).1 ↔
      sha256 (context.auditHash ++ canonical (.obj call.hashDocument)) =
        sha256 (context.auditHash ++ canonical (.obj (recorded (call.event context)))) := by
  have hprev : (call.event context).get? "prev_audit_hash" = some (.str context.auditHash) := by
    rw [Call.event_get?]
    rfl
  have hhash : (call.event context).get? "audit_hash" =
      some (.str (call.currentHash context.auditHash)) := by
    rw [Call.event_get?]
    rfl
  rw [Verifiable, logAuditEvent, hhash]
  constructor
  · intro h
    obtain ⟨prevHash, hsame, hsha⟩ := h
    rw [hprev, Option.some.injEq, Json.str.injEq] at hsame
    rw [Option.some.injEq, Json.str.injEq, ← hsame] at hsha
    exact hsha
  · intro h
    exact ⟨context.auditHash, hprev, by rw [← h]; rfl⟩

/-- The two documents agree when the readings of the clock do, or are not used,
and no correlation id is given. -/
theorem canonical_recorded_eq_iff (context : Context) (call : Call) :
    canonical (.obj call.hashDocument) = canonical (.obj (recorded (call.event context))) ↔
      ("timestamp" ∈ call.payload.fields.map Prod.fst ∨ call.hashedAt = call.recordedAt) ∧
        "correlation_id" ∉ call.payload.fields.map Prod.fst := by
  have hrecorded : Proper (.obj (recorded (call.event context))) :=
    Json.proper_filter (call.proper_event context) _
  rw [Json.canonical_eq_iff call.proper_hashDocument hrecorded]
  constructor
  · intro h
    constructor
    · by_cases hmem : "timestamp" ∈ call.payload.fields.map Prod.fst
      · exact .inl hmem
      · have htimestamp := h "timestamp"
        rw [Call.hashDocument_get?, recorded_get?, Call.gives, Call.gives,
          Dict.get?_eq_none_iff.mpr hmem] at htimestamp
        exact .inr (Json.str.inj (Option.some_inj.mp htimestamp))
    · have hcid := h "correlation_id"
      rw [Call.hashDocument_get?, recorded_get?, Call.gives] at hcid
      rw [← Dict.get?_eq_none_iff]
      cases hget : call.payload.fields.get? "correlation_id" with
      | none => rfl
      | some v =>
          rw [hget] at hcid
          contradiction
  · intro h k
    obtain ⟨hclock, hcid⟩ := h
    rw [Call.hashDocument_get?, recorded_get?]
    cases huncovered : Call.isUncovered k with
    | true =>
        have hmetadata : isMetadata k = true := by
          simp only [Call.isUncovered, Bool.or_eq_true, decide_eq_true_eq] at huncovered
          obtain (h | h) | h := huncovered <;> simp [isMetadata, h]
        rw [hmetadata]
        rfl
    | false =>
        by_cases hk : k = "correlation_id"
        · subst hk
          rw [Call.gives, Dict.get?_eq_none_iff.mpr hcid]
          rfl
        · have hmetadata : isMetadata k = false := by
            simp only [Call.isUncovered, Bool.or_eq_false_iff, decide_eq_false_iff_not]
              at huncovered
            simp [isMetadata, hk, huncovered]
          rw [hmetadata, if_neg Bool.false_ne_true, if_neg Bool.false_ne_true]
          refine congrArg _ (call.gives_congr ?_)
          by_cases htimestamp : k = "timestamp"
          · subst htimestamp
            exact .inr hclock
          · exact .inl htimestamp

/-- **Audit events are verifiable** exactly when the clock is read alike twice,
or the payload has the timestamp, and the payload has no correlation id. -/
theorem verifiable_iff (context : Context) (call : Call)
    (hcollision : sha256 (context.auditHash ++ canonical (.obj call.hashDocument)) =
        sha256 (context.auditHash ++ canonical (.obj (recorded (call.event context)))) →
      context.auditHash ++ canonical (.obj call.hashDocument) =
        context.auditHash ++ canonical (.obj (recorded (call.event context)))) :
    Verifiable (logAuditEvent context call).1 ↔
      ("timestamp" ∈ call.payload.fields.map Prod.fst ∨ call.hashedAt = call.recordedAt) ∧
        "correlation_id" ∉ call.payload.fields.map Prod.fst := by
  rw [verifiable_event, ← canonical_recorded_eq_iff context call]
  constructor
  · intro h
    exact (String.append_right_inj _).mp (hcollision h)
  · intro h
    rw [h]

/-! ## What the hash tells apart -/

/-- The hashes of two events over one head are equal when what the calls give
is, the uncovered keys apart. -/
theorem audit_hash_eq_iff (prevHash cid cid' : String) (call call' : Call)
    (hcollision : sha256 (prevHash ++ canonical (.obj call.hashDocument)) =
        sha256 (prevHash ++ canonical (.obj call'.hashDocument)) →
      prevHash ++ canonical (.obj call.hashDocument) =
        prevHash ++ canonical (.obj call'.hashDocument)) :
    (logAuditEvent ⟨cid, prevHash⟩ call).1.get? "audit_hash" =
        (logAuditEvent ⟨cid', prevHash⟩ call').1.get? "audit_hash" ↔
      ∀ k, Call.isUncovered k = false →
        (call.gives call.hashedAt k).map sortKeys = (call'.gives call'.hashedAt k).map sortKeys := by
  have hhash : ∀ (cid : String) (call : Call),
      (logAuditEvent ⟨cid, prevHash⟩ call).1.get? "audit_hash" =
        some (.str (call.currentHash prevHash)) := by
    intro cid call
    rw [logAuditEvent, Call.event_get?]
    rfl
  rw [hhash, hhash, Option.some.injEq, Json.str.injEq, ← Call.canonical_hashDocument_eq_iff,
    Call.currentHash, Call.currentHash]
  constructor
  · intro h
    exact (String.append_right_inj _).mp (hcollision h)
  · intro h
    rw [h]

/-- Two calls that agree on what the hash leaves out: the correlation id, the
classification, and the second reading of the clock. -/
structure SameUncovered (cid cid' : String) (call call' : Call) : Prop where
  correlationId : cid = cid'
  dataClassification : sortKeys call.dataClassification = sortKeys call'.dataClassification
  timestamp : ("timestamp" ∈ call.payload.fields.map Prod.fst ↔
    "timestamp" ∈ call'.payload.fields.map Prod.fst) ∨ call.hashedAt = call.recordedAt

/-- Where the timestamps hashed are the same, so are those recorded, unless one
is given and the other read off the clock. -/
theorem timestamp_eq_iff {call call' : Call} (hhashed : call.hashedAt = call'.hashedAt)
    (hrecorded : call.recordedAt = call'.recordedAt)
    (hgives : (call.gives call.hashedAt "timestamp").map sortKeys =
      (call'.gives call'.hashedAt "timestamp").map sortKeys) :
    (call.gives call.recordedAt "timestamp").map sortKeys =
        (call'.gives call'.recordedAt "timestamp").map sortKeys ↔
      ("timestamp" ∈ call.payload.fields.map Prod.fst ↔
        "timestamp" ∈ call'.payload.fields.map Prod.fst) ∨ call.hashedAt = call.recordedAt := by
  have hheader : ∀ (call : Call) (timestamp : String),
      (call.header timestamp).get? "timestamp" = some (.str timestamp) := fun _ _ => rfl
  have hkey : ∀ call : Call, "timestamp" ∈ call.payload.fields.map Prod.fst ↔
      call.payload.fields.get? "timestamp" ≠ none := by
    intro call
    rw [ne_eq, Dict.get?_eq_none_iff, not_not]
  rw [hkey, hkey]
  simp only [Call.gives, hheader, ← hhashed, ← hrecorded] at hgives ⊢
  cases hget : call.payload.fields.get? "timestamp" with
  | none =>
      cases hget' : call'.payload.fields.get? "timestamp" with
      | none => simp
      | some v =>
          rw [hget, hget'] at hgives
          simp only [Option.none_or, Option.some_or, Option.map_some, Option.some.injEq] at hgives ⊢
          rw [← hgives]
          simp [sortKeys, eq_comm]
  | some v =>
      cases hget' : call'.payload.fields.get? "timestamp" with
      | none =>
          rw [hget, hget'] at hgives
          simp only [Option.none_or, Option.some_or, Option.map_some, Option.some.injEq] at hgives ⊢
          rw [hgives]
          simp [sortKeys]
      | some w =>
          rw [hget, hget'] at hgives
          simpa using hgives

/-- Where the calls give the same, the events differ in the rest alone. -/
theorem event_eq_iff (prevHash cid cid' : String) (call call' : Call)
    (hhashed : call.hashedAt = call'.hashedAt) (hrecorded : call.recordedAt = call'.recordedAt)
    (hgives : ∀ k, Call.isUncovered k = false →
      (call.gives call.hashedAt k).map sortKeys = (call'.gives call'.hashedAt k).map sortKeys) :
    (∀ k, k ≠ "audit_hash" → ((logAuditEvent ⟨cid, prevHash⟩ call).1.get? k).map sortKeys =
        ((logAuditEvent ⟨cid', prevHash⟩ call').1.get? k).map sortKeys) ↔
      SameUncovered cid cid' call call' := by
  simp only [logAuditEvent, Call.event_get?]
  have htimestamp := timestamp_eq_iff hhashed hrecorded (hgives "timestamp" rfl)
  constructor
  · intro h
    have hcid := h "correlation_id" (by decide)
    have hclass := h "data_classification" (by decide)
    have hstamp := h "timestamp" (by decide)
    exact ⟨Json.str.inj (Option.some_inj.mp hcid), Option.some_inj.mp hclass,
      htimestamp.mp hstamp⟩
  · intro h k hk
    by_cases hkclass : k = "data_classification"
    · rw [if_pos hkclass, if_pos hkclass, Option.map_some, Option.map_some, h.dataClassification]
    by_cases hkprev : k = "prev_audit_hash"
    · rw [if_neg hkclass, if_neg hkclass, if_pos hkprev, if_pos hkprev]
    by_cases hkcid : k = "correlation_id"
    · rw [if_neg hkclass, if_neg hkclass, if_neg hkprev, if_neg hkprev, if_neg hk, if_neg hk,
        if_pos hkcid, if_pos hkcid, h.correlationId]
    rw [if_neg hkclass, if_neg hkclass, if_neg hkprev, if_neg hkprev, if_neg hk, if_neg hk,
      if_neg hkcid, if_neg hkcid]
    by_cases hkstamp : k = "timestamp"
    · rw [hkstamp]
      exact htimestamp.mpr h.timestamp
    · have hgive := hgives k (by simp [Call.isUncovered, hk, hkprev, hkclass])
      rwa [call.gives_congr (.inl hkstamp), call'.gives_congr (.inl hkstamp)] at hgive

/-- **The audit hash covers every recorded field** of two calls over one head
and one clock exactly when the calls agree on what it leaves out, or differ in
what it covers. -/
theorem hash_covers_iff (prevHash cid cid' : String) (call call' : Call)
    (hhashed : call.hashedAt = call'.hashedAt) (hrecorded : call.recordedAt = call'.recordedAt)
    (hcollision : sha256 (prevHash ++ canonical (.obj call.hashDocument)) =
        sha256 (prevHash ++ canonical (.obj call'.hashDocument)) →
      prevHash ++ canonical (.obj call.hashDocument) =
        prevHash ++ canonical (.obj call'.hashDocument)) :
    ((∃ k, k ≠ "audit_hash" ∧ ((logAuditEvent ⟨cid, prevHash⟩ call).1.get? k).map sortKeys ≠
        ((logAuditEvent ⟨cid', prevHash⟩ call').1.get? k).map sortKeys) →
      (logAuditEvent ⟨cid, prevHash⟩ call).1.get? "audit_hash" ≠
        (logAuditEvent ⟨cid', prevHash⟩ call').1.get? "audit_hash") ↔
      SameUncovered cid cid' call call' ∨ ∃ k, Call.isUncovered k = false ∧
        (call.gives call.hashedAt k).map sortKeys ≠
          (call'.gives call'.hashedAt k).map sortKeys := by
  rw [ne_eq, audit_hash_eq_iff prevHash cid cid' call call' hcollision]
  by_cases hgives : ∀ k, Call.isUncovered k = false →
      (call.gives call.hashedAt k).map sortKeys = (call'.gives call'.hashedAt k).map sortKeys
  · have hevent := event_eq_iff prevHash cid cid' call call' hhashed hrecorded hgives
    constructor
    · intro hcovers
      left
      rw [← hevent]
      intro k hk
      by_contra hdiffer
      exact hcovers ⟨k, hk, hdiffer⟩ hgives
    · intro h hdiffer
      obtain ⟨k, hk, hne⟩ := hdiffer
      cases h with
      | inl hsame => exact absurd (hevent.mpr hsame k hk) hne
      | inr hother =>
          obtain ⟨k', hk', hne'⟩ := hother
          exact absurd (hgives k' hk') hne'
  · constructor
    · intro _
      right
      simpa only [not_forall, exists_prop] using hgives
    · exact fun _ _ => hgives

end

/-! ## Two events -/

/-- The payload of an event that says nothing but its type. -/
def noPayload : @Payload Json.whole Json.wholeFloat :=
  letI := Json.whole
  letI := Json.wholeFloat
  ⟨[], List.nodup_nil, trivial⟩

/-- Only a classification. -/
def restricted : @Payload Json.whole Json.wholeFloat :=
  letI := Json.whole
  letI := Json.wholeFloat
  ⟨[("data_classification", .str "RESTRICTED")], List.nodup_singleton _, trivial, trivial⟩

/-- A call whose clock reads the same twice. -/
theorem verifiable_at_once :
    letI := Json.whole
    letI := Json.wholeFloat
    Verifiable (logAuditEvent ⟨"N/A", ""⟩ ⟨"sql_query_started", noPayload,
      "2026-01-01T00:00:00.000001+00:00", "2026-01-01T00:00:00.000001+00:00"⟩).1 :=
  letI := Json.whole
  letI := Json.wholeFloat
  (verifiable_iff ⟨"N/A", ""⟩ ⟨"sql_query_started", noPayload,
    "2026-01-01T00:00:00.000001+00:00", "2026-01-01T00:00:00.000001+00:00"⟩
    (fun _ => congrArg _ ((canonical_recorded_eq_iff _ _).mpr ⟨.inr rfl, by decide⟩))).mpr
      ⟨.inr rfl, by decide⟩

/-- A microsecond later, the event is not what was hashed. -/
theorem not_verifiable_later :
    letI := Json.whole
    letI := Json.wholeFloat
    ¬ Verifiable (logAuditEvent ⟨"N/A", ""⟩ ⟨"sql_query_started", noPayload,
      "2026-01-01T00:00:00.000001+00:00", "2026-01-01T00:00:00.000002+00:00"⟩).1 := by
  let _ := Json.whole
  let _ := Json.wholeFloat
  rw [verifiable_event]
  decide +kernel

/-- Two event types are told apart. -/
theorem hash_covers_event_type :
    letI := Json.whole
    letI := Json.wholeFloat
    let started : Call := ⟨"sql_query_started", noPayload, "2026-01-01T00:00:00.000001+00:00",
      "2026-01-01T00:00:00.000002+00:00"⟩
    let denied : Call := { started with eventType := "policy_denied" }
    (∃ k, k ≠ "audit_hash" ∧ ((logAuditEvent ⟨"N/A", ""⟩ started).1.get? k).map sortKeys ≠
        ((logAuditEvent ⟨"N/A", ""⟩ denied).1.get? k).map sortKeys) →
      (logAuditEvent ⟨"N/A", ""⟩ started).1.get? "audit_hash" ≠
        (logAuditEvent ⟨"N/A", ""⟩ denied).1.get? "audit_hash" :=
  letI := Json.whole
  letI := Json.wholeFloat
  let started : Call := ⟨"sql_query_started", noPayload, "2026-01-01T00:00:00.000001+00:00",
    "2026-01-01T00:00:00.000002+00:00"⟩
  (hash_covers_iff "" "N/A" "N/A" started { started with eventType := "policy_denied" } rfl rfl
    (fun h => absurd h (by decide +kernel))).mpr (.inl ⟨rfl, rfl, .inl Iff.rfl⟩)

/-- Two classifications are not. -/
theorem hash_misses_classification :
    letI := Json.whole
    letI := Json.wholeFloat
    let internal : Call := ⟨"sql_query_started", noPayload, "2026-01-01T00:00:00.000001+00:00",
      "2026-01-01T00:00:00.000002+00:00"⟩
    let secret : Call := { internal with payload := restricted }
    ¬ ((∃ k, k ≠ "audit_hash" ∧ ((logAuditEvent ⟨"N/A", ""⟩ internal).1.get? k).map sortKeys ≠
        ((logAuditEvent ⟨"N/A", ""⟩ secret).1.get? k).map sortKeys) →
      (logAuditEvent ⟨"N/A", ""⟩ internal).1.get? "audit_hash" ≠
        (logAuditEvent ⟨"N/A", ""⟩ secret).1.get? "audit_hash") := by
  let _ := Json.whole
  let _ := Json.wholeFloat
  intro internal secret hcovers
  have hdocument : internal.hashDocument = secret.hashDocument := rfl
  refine hcovers ⟨"data_classification", by decide, ?_⟩ ?_
  · rw [logAuditEvent, logAuditEvent, Call.event_get?, Call.event_get?, if_pos rfl, if_pos rfl]
    intro hsame
    have hclass := Json.str.inj (Option.some_inj.mp hsame)
    exact absurd hclass (by decide)
  · rw [logAuditEvent, logAuditEvent, Call.event_get?, Call.event_get?, Call.currentHash,
      Call.currentHash, hdocument]
    rfl

end DbGateway.Audit
