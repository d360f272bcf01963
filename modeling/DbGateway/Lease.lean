import DbGateway.Runs
import Mathlib.Logic.Function.Basic
import Mathlib.Order.Lattice

/-!
# DbGateway.Lease

Values held under keys until their time is up.

Where every key is granted once and the clock does not go back, a value is read
from its grant until it is revoked or its time is up (`read_after_iff`), and
never after that (`read_after_append`).

A store need not hold the values themselves, nor those whose time is up
(`Keeps`); it reads the same.
-/

namespace DbGateway.Lease

/-- What can happen to a key.  A grant says what is held, and until when, by the
time it is made; it can also fail. -/
inductive Event (κ ν τ : Type*) where
  | grant (key : κ) (lease : τ → Option (ν × τ))
  | read (key : κ)
  | revoke (key : κ)
  | advance (now : τ)

/-- What is held, and the time. -/
structure State (κ ν τ : Type*) where
  now : τ
  held : κ → Option (ν × τ)

variable {κ ν τ : Type*}

/-- Nothing is held. -/
def State.initial (start : τ) : State κ ν τ := ⟨start, fun _ => none⟩

/-! ## Reading -/

section

variable [LinearOrder τ]

/-- What is held under the key, if its time is not up. -/
def State.read (self : State κ ν τ) (key : κ) : Option ν :=
  match self.held key with
  | some (value, ends) => if self.now < ends then some value else none
  | none => none

theorem State.read_eq_some_iff {self : State κ ν τ} {key : κ} {value : ν} :
    self.read key = some value ↔ ∃ ends, self.held key = some (value, ends) ∧ self.now < ends := by
  rw [read]
  cases h : self.held key with
  | none => simp
  | some lease =>
      obtain ⟨value', ends⟩ := lease
      by_cases hends : self.now < ends
      · simp [hends]
      · simp [hends]

theorem State.read_eq_none_iff {self : State κ ν τ} {key : κ} :
    self.read key = none ↔ ∀ lease, self.held key = some lease → lease.2 ≤ self.now := by
  rw [read]
  cases h : self.held key with
  | none => simp
  | some lease => simp

end

/-! ## One step -/

variable [DecidableEq κ]

def State.step (self : State κ ν τ) : Event κ ν τ → State κ ν τ
  | .grant key lease =>
      match lease self.now with
      | some given => { self with held := Function.update self.held key (some given) }
      | none => self
  | .read _ => self
  | .revoke key => { self with held := Function.update self.held key none }
  | .advance now => { self with now }

/-- A grant changes its own key, if it does not fail. -/
theorem State.held_grant (self : State κ ν τ) (key : κ) (lease : τ → Option (ν × τ)) (k : κ) :
    (self.step (.grant key lease)).held k =
      if k = key then (lease self.now).or (self.held k) else self.held k := by
  rw [step]
  cases h : lease self.now with
  | none => simp
  | some given =>
      by_cases hk : k = key
      · simp [hk]
      · simp [hk]

theorem State.now_grant (self : State κ ν τ) (key : κ) (lease : τ → Option (ν × τ)) :
    (self.step (.grant key lease)).now = self.now := by
  rw [step]
  cases lease self.now <;> rfl

theorem State.held_revoke (self : State κ ν τ) (key k : κ) :
    (self.step (.revoke key)).held k = if k = key then none else self.held k :=
  Function.update_apply self.held key none k

/-- What an event does to a key it does not name. -/
theorem State.held_step_of_ne (self : State κ ν τ) {event : Event κ ν τ} {key : κ}
    (hgrant : ∀ lease, event ≠ .grant key lease) (hrevoke : event ≠ .revoke key) :
    (self.step event).held key = self.held key := by
  cases event with
  | grant key' lease =>
      have hkey : key ≠ key' := fun hkey => hgrant lease (hkey ▸ rfl)
      rw [held_grant, if_neg hkey]
  | read key' => rfl
  | revoke key' =>
      have hkey : key ≠ key' := fun hkey => hrevoke (hkey ▸ rfl)
      rw [held_revoke, if_neg hkey]
  | advance now => rfl

/-! ## Whole runs -/

/-- The state after some events. -/
def after (start : τ) (run : List (Event κ ν τ)) : State κ ν τ :=
  Runs.after State.step (State.initial start) run

theorem after_concat (start : τ) (run : List (Event κ ν τ)) (event : Event κ ν τ) :
    after start (run ++ [event]) = (after start run).step event :=
  Runs.after_concat _ _ _ _

/-- What is held was granted, and not revoked since. -/
theorem held_after {start : τ} {run : List (Event κ ν τ)} {key : κ} {given : ν × τ}
    (h : (after start run).held key = some given) :
    ∃ before lease rest, run = before ++ .grant key lease :: rest ∧
      lease (after start before).now = some given ∧ Event.revoke key ∉ rest := by
  induction run using List.reverseRecOn with
  | nil => contradiction
  | append_singleton run event ih =>
      rw [after_concat] at h
      have hkept : event ≠ .revoke key → (after start run).held key = some given →
          ∃ before lease rest, run ++ [event] = before ++ .grant key lease :: rest ∧
            lease (after start before).now = some given ∧ Event.revoke key ∉ rest := by
        intro hevent hheld
        obtain ⟨before, lease, rest, hrun, hlease, hrest⟩ := ih hheld
        refine ⟨before, lease, rest ++ [event], ?_, hlease, ?_⟩
        · rw [hrun, List.append_assoc, List.cons_append]
        · rw [List.mem_append, List.mem_singleton]
          exact not_or.mpr ⟨hrest, Ne.symm hevent⟩
      cases event with
      | grant key' lease =>
          rw [State.held_grant] at h
          by_cases hkey : key = key'
          · subst hkey
            rw [if_pos rfl] at h
            cases hlease : lease (after start run).now with
            | none =>
                rw [hlease, Option.none_or] at h
                exact hkept (by simp) h
            | some given' =>
                rw [hlease, Option.some_or] at h
                exact ⟨run, lease, [], rfl, hlease.trans h, List.not_mem_nil⟩
          · rw [if_neg hkey] at h
            exact hkept (by simp) h
      | read key' => exact hkept (by simp) h
      | revoke key' =>
          by_cases hkey : key = key'
          · subst hkey
            rw [State.held_revoke, if_pos rfl] at h
            contradiction
          · have hevent : Event.revoke key' ≠ (.revoke key : Event κ ν τ) := by
              simp [Ne.symm hkey]
            rw [State.held_step_of_ne _ (by simp) hevent] at h
            exact hkept hevent h
      | advance now => exact hkept (by simp) h

/-- What nothing names is left alone. -/
theorem held_append (start : τ) (run : List (Event κ ν τ)) {more : List (Event κ ν τ)} {key : κ}
    (hgrant : ∀ lease, Event.grant key lease ∉ more) (hrevoke : Event.revoke key ∉ more) :
    (after start (run ++ more)).held key = (after start run).held key := by
  induction more using List.reverseRecOn with
  | nil => rw [List.append_nil]
  | append_singleton more event ih =>
      have hmore := ih (fun lease hlease => hgrant lease (List.mem_append_left _ hlease))
        fun hmem => hrevoke (List.mem_append_left _ hmem)
      have hlast : event ∈ more ++ [event] :=
        List.mem_append_right _ (List.mem_singleton_self event)
      rw [← List.append_assoc, after_concat, State.held_step_of_ne, hmore]
      · intro lease hevent
        exact hgrant lease (hevent ▸ hlast)
      · intro hevent
        exact hrevoke (hevent ▸ hlast)

variable [LinearOrder τ]

/-- A key that is granted was not granted before, and the clock does not go
back. -/
def Orderly (start : τ) (before : List (Event κ ν τ)) : Event κ ν τ → Prop
  | .grant key _ => ∀ lease, Event.grant key lease ∉ before
  | .advance now => (after start before).now ≤ now
  | _ => True

/-- Where every key is granted once, no grant of a key follows another. -/
theorem not_granted_again {start : τ} {before rest : List (Event κ ν τ)} {key : κ}
    {lease : τ → Option (ν × τ)}
    (h : Runs.Throughout (Orderly start) (before ++ .grant key lease :: rest))
    (lease' : τ → Option (ν × τ)) : Event.grant key lease' ∉ rest := by
  intro hmem
  obtain ⟨rest', rest'', hrest⟩ := List.append_of_mem hmem
  refine h (before ++ .grant key lease :: rest') (.grant key lease') rest'' ?_ lease ?_
  · rw [hrest, List.append_assoc, List.cons_append]
  · exact List.mem_append_right _ List.mem_cons_self

/-- **A value is read** from its grant until it is revoked or its time is up. -/
theorem read_after_iff {start : τ} {run : List (Event κ ν τ)}
    (h : Runs.Throughout (Orderly start) run) {key : κ} {value : ν} :
    (after start run).read key = some value ↔
      ∃ before lease rest ends, run = before ++ .grant key lease :: rest ∧
        lease (after start before).now = some (value, ends) ∧ Event.revoke key ∉ rest ∧
        (after start run).now < ends := by
  rw [State.read_eq_some_iff]
  constructor
  · intro hread
    obtain ⟨ends, hheld, hends⟩ := hread
    obtain ⟨before, lease, rest, hrun, hlease, hrest⟩ := held_after hheld
    exact ⟨before, lease, rest, ends, hrun, hlease, hrest, hends⟩
  · intro hread
    obtain ⟨before, lease, rest, ends, hrun, hlease, hrest, hends⟩ := hread
    refine ⟨ends, ?_, hends⟩
    rw [hrun] at h ⊢
    have hsplit : before ++ .grant key lease :: rest = before ++ [.grant key lease] ++ rest := by
      rw [List.append_assoc, List.singleton_append]
    rw [hsplit, held_append start _ (not_granted_again h) hrest, after_concat, State.held_grant,
      if_pos rfl, hlease, Option.some_or]

/-- **Never again**: a key that was granted and cannot be read is not read
later. -/
theorem read_after_append {start : τ} {run more : List (Event κ ν τ)}
    (h : Runs.Throughout (Orderly start) (run ++ more)) {key : κ} {lease : τ → Option (ν × τ)}
    (hgranted : Event.grant key lease ∈ run) (hread : (after start run).read key = none) :
    (after start (run ++ more)).read key = none := by
  induction more using List.reverseRecOn with
  | nil => rwa [List.append_nil]
  | append_singleton more event ih =>
      rw [← List.append_assoc] at h ⊢
      obtain ⟨hmore, hevent⟩ := Runs.throughout_concat.mp h
      have hbefore := State.read_eq_none_iff.mp (ih hmore)
      rw [after_concat, State.read_eq_none_iff]
      intro given hheld
      cases event with
      | grant key' lease' =>
          have hkey : key ≠ key' := by
            intro hkey
            exact hevent lease (hkey ▸ List.mem_append_left _ hgranted)
          rw [State.held_grant, if_neg hkey] at hheld
          rw [State.now_grant]
          exact hbefore given hheld
      | read key' => exact hbefore given hheld
      | revoke key' =>
          by_cases hkey : key = key'
          · rw [State.held_revoke, if_pos hkey] at hheld
            contradiction
          · rw [State.held_revoke, if_neg hkey] at hheld
            exact hbefore given hheld
      | advance now => exact le_trans (hbefore given hheld) hevent

/-! ## Stores -/

section Stores

variable {γ : Type*}

/-- A store keeps what is held in some form, and has forgotten only what is
over. -/
structure Keeps (form : γ → ν × τ → Prop) (stored : κ → Option γ) (state : State κ ν τ) : Prop where
  form : ∀ key cell, stored key = some cell → ∃ lease, state.held key = some lease ∧ form cell lease
  ended : ∀ key lease, stored key = none → state.held key = some lease → lease.2 ≤ state.now

variable {form : γ → ν × τ → Prop} {stored : κ → Option γ} {state : State κ ν τ}

omit [DecidableEq κ] in
theorem keeps_initial (form : γ → ν × τ → Prop) (start : τ) :
    Keeps form (fun _ => none) (State.initial start : State κ ν τ) where
  form := by
    intro key cell h
    contradiction
  ended := by
    intro key lease _ h
    contradiction

omit [DecidableEq κ] in
/-- What is not stored cannot be read. -/
theorem Keeps.read_none (h : Keeps form stored state) {key : κ} (hstored : stored key = none) :
    state.read key = none :=
  State.read_eq_none_iff.mpr fun lease => h.ended key lease hstored

omit [DecidableEq κ] in
/-- What is stored is read until its time is up. -/
theorem Keeps.read_some (h : Keeps form stored state) {key : κ} {cell : γ}
    (hstored : stored key = some cell) :
    ∃ lease, form cell lease ∧
      state.read key = if state.now < lease.2 then some lease.1 else none := by
  obtain ⟨lease, hheld, hform⟩ := h.form key cell hstored
  refine ⟨lease, hform, ?_⟩
  rw [State.read, hheld]

/-- The stored form keeps up when a cell and the key it is stored under change together. -/
theorem Keeps.update (h : Keeps form stored state) {state' : State κ ν τ} {key : κ}
    {cell : Option γ} (hnow : state'.now = state.now)
    (hother : ∀ k, k ≠ key → state'.held k = state.held k)
    (hform : ∀ c, cell = some c → ∃ lease, state'.held key = some lease ∧ form c lease)
    (hended : cell = none → ∀ lease, state'.held key = some lease → lease.2 ≤ state.now) :
    Keeps form (Function.update stored key cell) state' where
  form := by
    intro k c hstored
    by_cases hk : k = key
    · subst hk
      rw [Function.update_self] at hstored
      exact hform c hstored
    · rw [Function.update_of_ne hk] at hstored
      rw [hother k hk]
      exact h.form k c hstored
  ended := by
    intro k lease hstored hheld
    rw [hnow]
    by_cases hk : k = key
    · subst hk
      rw [Function.update_self] at hstored
      exact hended hstored lease hheld
    · rw [Function.update_of_ne hk] at hstored
      rw [hother k hk] at hheld
      exact h.ended k lease hstored hheld

theorem Keeps.grant (h : Keeps form stored state) (key : κ) {lease : τ → Option (ν × τ)}
    {given : ν × τ} (hgiven : lease state.now = some given) {cell : γ} (hcell : form cell given) :
    Keeps form (Function.update stored key (some cell)) (state.step (.grant key lease)) := by
  refine h.update (state.now_grant key lease) ?_ ?_ (fun hnone => nomatch hnone)
  · intro k hk
    rw [State.held_grant, if_neg hk]
  · intro c hc
    rw [State.held_grant, if_pos rfl, hgiven, ← Option.some_inj.mp hc]
    exact ⟨given, rfl, hcell⟩

/-- A grant that fails changes nothing. -/
theorem Keeps.refuse (h : Keeps form stored state) (key : κ) {lease : τ → Option (ν × τ)}
    (hgiven : lease state.now = none) : Keeps form stored (state.step (.grant key lease)) := by
  rwa [State.step, hgiven]

theorem Keeps.revoke (h : Keeps form stored state) (key : κ) :
    Keeps form (Function.update stored key none) (state.step (.revoke key)) := by
  refine h.update rfl ?_ (fun c hc => nomatch hc) ?_
  · intro k hk
    rw [State.held_revoke, if_neg hk]
  · intro _ lease hheld
    rw [State.held_revoke, if_pos rfl] at hheld
    contradiction

theorem Keeps.advance (h : Keeps form stored state) {now : τ} (hnow : state.now ≤ now) :
    Keeps form stored (state.step (.advance now)) where
  form := h.form
  ended := fun key lease hstored hheld => le_trans (h.ended key lease hstored hheld) hnow

/-- What cannot be read can be forgotten. -/
theorem Keeps.forget (h : Keeps form stored state) {key : κ} (hread : state.read key = none) :
    Keeps form (Function.update stored key none) state :=
  h.update rfl (fun _ _ => rfl) (fun _ hc => nomatch hc) fun _ => State.read_eq_none_iff.mp hread

end Stores

end DbGateway.Lease
