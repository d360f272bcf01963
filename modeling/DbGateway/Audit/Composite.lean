import Mathlib.Data.List.Basic

/-!
# DbGateway.Audit.Composite

`CompositeAuditSink` of `config/app_logger.py`, documented to write to all of
its sinks or to none.

It writes to them one after the other and undoes nothing, so the sinks before
one that raises have recorded the event.  All of them or none have recorded it
exactly when none raises, or the first one asked does (`allOrNothing_iff`).
-/

namespace DbGateway.Audit

/-- A sink of the process, by number, or a composite of sinks. -/
inductive AuditSink where
  | member (sink : Nat)
  | composite (sinks : List AuditSink)

/-- Which sinks raise when they are asked to write an event: given those that
have recorded it so far, in order, and the one that is asked. -/
abbrev Failures := List Nat → Nat → Bool

namespace AuditSink

mutual

/-- `write`: whether it returns, and which sinks have recorded the event then. -/
def write (raises : Failures) : AuditSink → List Nat → Bool × List Nat
  | .member sink, recorded =>
      if raises recorded sink then (false, recorded) else (true, recorded ++ [sink])
  | .composite sinks, recorded => writeAll raises sinks recorded

/-- `for sink in self._sinks: sink.write(event)` -/
def writeAll (raises : Failures) : List AuditSink → List Nat → Bool × List Nat
  | [], recorded => (true, recorded)
  | sink :: sinks, recorded =>
      match sink.write raises recorded with
      | (true, recorded') => writeAll raises sinks recorded'
      | (false, recorded') => (false, recorded')

end

mutual

/-- The sinks a sink writes to, in the order it asks them. -/
def members : AuditSink → List Nat
  | .member sink => [sink]
  | .composite sinks => membersAll sinks

def membersAll : List AuditSink → List Nat
  | [] => []
  | sink :: sinks => sink.members ++ membersAll sinks

end

/-- If the write raises, none of the sinks has recorded the event; if it
returns, all have. -/
def AllOrNothing (raises : Failures) (sink : AuditSink) : Prop :=
  ((sink.write raises []).1 = false → ∀ m ∈ sink.members, m ∉ (sink.write raises []).2) ∧
    ((sink.write raises []).1 = true → ∀ m ∈ sink.members, m ∈ (sink.write raises []).2)

/-! ## Flattening -/

/-- What writing to sinks in order comes to. -/
def deliver (raises : Failures) : List Nat → List Nat → Bool × List Nat
  | [], recorded => (true, recorded)
  | sink :: sinks, recorded =>
      if raises recorded sink then (false, recorded) else deliver raises sinks (recorded ++ [sink])

theorem deliver_append (raises : Failures) (sinks sinks' recorded : List Nat) :
    deliver raises (sinks ++ sinks') recorded =
      match deliver raises sinks recorded with
      | (true, recorded') => deliver raises sinks' recorded'
      | (false, recorded') => (false, recorded') := by
  induction sinks generalizing recorded with
  | nil => simp [deliver]
  | cons sink sinks ih =>
      cases h : raises recorded sink with
      | true => simp [deliver, h]
      | false => simp [deliver, h, ih]

mutual

/-- Nesting does not matter. -/
theorem write_eq_deliver (raises : Failures) : ∀ (sink : AuditSink) (recorded : List Nat),
    sink.write raises recorded = deliver raises sink.members recorded
  | .member sink, recorded => by simp [write, members, deliver]
  | .composite sinks, recorded => by simp [write, members, writeAll_eq_deliver raises sinks]

theorem writeAll_eq_deliver (raises : Failures) :
    ∀ (sinks : List AuditSink) (recorded : List Nat),
      writeAll raises sinks recorded = deliver raises (membersAll sinks) recorded
  | [], _ => rfl
  | sink :: sinks, recorded => by
      simp [writeAll, membersAll, deliver_append, write_eq_deliver raises sink,
        writeAll_eq_deliver raises sinks]

end

/-! ## Failures -/

/-- Every sink returns when it is asked after those before it. -/
def NoneRaises (raises : Failures) (sinks recorded : List Nat) : Prop :=
  ∀ before m after, sinks = before ++ m :: after → raises (recorded ++ before) m = false

/-- The sink asked first raises. -/
def FirstRaises (raises : Failures) (sinks : List Nat) : Prop :=
  ∃ m ∈ sinks.head?, raises [] m = true

theorem noneRaises_cons {raises : Failures} {m : Nat} {sinks recorded : List Nat} :
    NoneRaises raises (m :: sinks) recorded ↔
      raises recorded m = false ∧ NoneRaises raises sinks (recorded ++ [m]) := by
  constructor
  · intro h
    have hfirst := h [] m sinks rfl
    have hrest : NoneRaises raises sinks (recorded ++ [m]) := by
      intro before m' after hsplit
      have hlater := h (m :: before) m' after (by simp [hsplit])
      simpa using hlater
    exact ⟨by simpa using hfirst, hrest⟩
  · rintro ⟨hfirst, hrest⟩ before m' after hsplit
    cases before with
    | nil =>
        obtain ⟨rfl, -⟩ := List.cons.inj hsplit
        simpa using hfirst
    | cons m'' before =>
        obtain ⟨rfl, htail⟩ := List.cons.inj hsplit
        have hlater := hrest before m' after htail
        simpa using hlater

/-- Without a failure every sink records the event. -/
theorem deliver_of_noneRaises {raises : Failures} {sinks recorded : List Nat}
    (h : NoneRaises raises sinks recorded) :
    deliver raises sinks recorded = (true, recorded ++ sinks) := by
  induction sinks generalizing recorded with
  | nil => simp [deliver]
  | cons m sinks ih =>
      obtain ⟨hfirst, hrest⟩ := noneRaises_cons.mp h
      simp [deliver, hfirst, ih hrest]

/-- With one, the sinks before it have recorded the event. -/
theorem deliver_of_raises {raises : Failures} {sinks recorded : List Nat}
    (h : ¬ NoneRaises raises sinks recorded) :
    ∃ before m after, sinks = before ++ m :: after ∧ NoneRaises raises before recorded ∧
      raises (recorded ++ before) m = true ∧
      deliver raises sinks recorded = (false, recorded ++ before) := by
  induction sinks generalizing recorded with
  | nil => simp [NoneRaises] at h
  | cons m sinks ih =>
      cases hfirst : raises recorded m with
      | true =>
          have hnone : NoneRaises raises [] recorded := by simp [NoneRaises]
          exact ⟨[], m, sinks, rfl, hnone, by simp [hfirst], by simp [deliver, hfirst]⟩
      | false =>
          have hrest : ¬ NoneRaises raises sinks (recorded ++ [m]) :=
            fun hrest => h (noneRaises_cons.mpr ⟨hfirst, hrest⟩)
          obtain ⟨before, m', after, hsplit, hnone, hraises, hdeliver⟩ := ih hrest
          have hbefore := noneRaises_cons.mpr ⟨hfirst, hnone⟩
          exact ⟨m :: before, m', after, by simp [hsplit], hbefore, by simpa using hraises,
            by simp [deliver, hfirst, hdeliver]⟩

/-- **All or nothing**: every pattern of failures but those where a sink raises
after another has recorded the event. -/
theorem allOrNothing_iff (raises : Failures) (sinks : List AuditSink) :
    AllOrNothing raises (.composite sinks) ↔
      NoneRaises raises (membersAll sinks) [] ∨ FirstRaises raises (membersAll sinks) := by
  unfold AllOrNothing
  rw [write_eq_deliver, members]
  by_cases hnone : NoneRaises raises (membersAll sinks) []
  · simp [deliver_of_noneRaises hnone, hnone]
  · obtain ⟨before, m, after, hsplit, hbefore, hraises, hdeliver⟩ := deliver_of_raises hnone
    cases before with
    | nil =>
        have hfirst : FirstRaises raises (membersAll sinks) := ⟨m, by simp [hsplit], hraises⟩
        simp [hdeliver, hfirst]
    | cons b before =>
        -- the first sink has recorded the event, and a later one raises
        have hreturns := (noneRaises_cons.mp hbefore).1
        have hfirst : ¬ FirstRaises raises (membersAll sinks) := by
          simp [FirstRaises, hsplit, hreturns]
        have hrecorded : b ∈ membersAll sinks := by simp [hsplit]
        simp only [hdeliver, hnone, hfirst, or_self, iff_false]
        intro h
        exact h.1 trivial b hrecorded (by simp)

/-- The console has the event, the second of two sinks raises. -/
theorem not_allOrNothing_second : ¬ ∀ (raises : Failures) (sinks : List AuditSink),
    AllOrNothing raises (.composite sinks) := by
  intro h
  have hpartial := (h (fun _ sink => sink == 1) [.member 0, .member 1]).1
  revert hpartial
  decide

end AuditSink

end DbGateway.Audit
