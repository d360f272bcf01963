import Mathlib.Data.List.Induction
import Mathlib.Logic.Function.Iterate

/-!
# DbGateway.Runs

A machine that takes one event after another: the state after a run, conditions
on every step of a run, and what holds after every run.  A machine that runs on
its own, such as a loop: the states it reaches.
-/

namespace DbGateway.Runs

variable {σ ε : Type*}

/-- The state after a run. -/
def after (step : σ → ε → σ) (init : σ) (run : List ε) : σ := run.foldl step init

theorem after_append (step : σ → ε → σ) (init : σ) (run run' : List ε) :
    after step init (run ++ run') = after step (after step init run) run' :=
  List.foldl_append

theorem after_concat (step : σ → ε → σ) (init : σ) (run : List ε) (event : ε) :
    after step init (run ++ [event]) = step (after step init run) event := by
  rw [after_append]
  rfl

/-! ## Conditions on steps -/

/-- Every event of the run meets a condition on what came before it. -/
def Throughout (P : List ε → ε → Prop) (run : List ε) : Prop :=
  ∀ before event rest, run = before ++ event :: rest → P before event

theorem throughout_nil (P : List ε → ε → Prop) : Throughout P [] := by
  intro before event rest hrun
  simp at hrun

/-- A run is extended by an event that meets the condition after it. -/
theorem throughout_concat {P : List ε → ε → Prop} {run : List ε} {event : ε} :
    Throughout P (run ++ [event]) ↔ Throughout P run ∧ P run event := by
  constructor
  · intro h
    refine ⟨fun before e rest hrun => ?_, h run event [] rfl⟩
    refine h before e (rest ++ [event]) ?_
    rw [hrun, List.append_assoc, List.cons_append]
  · intro h before e rest hrun
    cases List.eq_nil_or_concat rest with
    | inl hrest =>
        rw [hrest] at hrun
        obtain ⟨hbefore, hevent⟩ := List.append_inj' hrun rfl
        rw [← hbefore, ← (List.cons.inj hevent).1]
        exact h.2
    | inr hrest =>
        obtain ⟨rest', last, hrest⟩ := hrest
        rw [hrest, List.concat_eq_append, ← List.cons_append, ← List.append_assoc] at hrun
        exact h.1 before e rest' (List.append_inj' hrun rfl).1

/-- The part of a run before some point. -/
theorem Throughout.of_append {P : List ε → ε → Prop} {run run' : List ε}
    (h : Throughout P (run ++ run')) : Throughout P run := by
  intro before event rest hrun
  refine h before event (rest ++ run') ?_
  rw [hrun, List.append_assoc, List.cons_append]

/-- The images of a run meet a condition as the run does. -/
theorem Throughout.map {ε' : Type*} {P : List ε → ε → Prop} {f : ε' → ε} {run : List ε'}
    (h : Throughout (fun before event => P (before.map f) (f event)) run) :
    Throughout P (run.map f) := by
  induction run using List.reverseRecOn with
  | nil => exact throughout_nil P
  | append_singleton run event ih =>
      obtain ⟨hrun, hevent⟩ := throughout_concat.mp h
      rw [List.map_append]
      exact throughout_concat.mpr ⟨ih hrun, hevent⟩

/-! ## Invariants -/

variable {step : σ → ε → σ} {init : σ}

/-- **Run rule**: what holds at first and is kept by every step that meets the
condition holds after every run that meets it throughout. -/
theorem Throughout.invariant {P : List ε → ε → Prop} {I : List ε → σ → Prop} (hinit : I [] init)
    (hstep : ∀ run event, P run event → I run (after step init run) →
      I (run ++ [event]) (step (after step init run) event))
    {run : List ε} (h : Throughout P run) : I run (after step init run) := by
  induction run using List.reverseRecOn with
  | nil => exact hinit
  | append_singleton run event ih =>
      obtain ⟨hrun, hevent⟩ := throughout_concat.mp h
      rw [after_concat]
      exact hstep run event hevent (ih hrun)

/-- What holds at first and is kept by every step holds after every run. -/
theorem invariant {I : List ε → σ → Prop} (hinit : I [] init)
    (hstep : ∀ run event, I run (after step init run) →
      I (run ++ [event]) (step (after step init run) event)) (run : List ε) :
    I run (after step init run) :=
  Throughout.invariant hinit (fun run event _ => hstep run event)
    (fun _ _ _ _ => trivial : Throughout (fun _ _ => True) run)

/-! ## What ends during a run -/

/-- In a part of a run, some step puts an end to a property of the state. -/
def Ends (step : σ → ε → σ) (init : σ) (P : σ → Prop) (before mid : List ε) : Prop :=
  ∃ mid₁ event mid₂, mid = mid₁ ++ event :: mid₂ ∧ P (after step init (before ++ mid₁)) ∧
    ¬ P (after step init (before ++ mid₁ ++ [event]))

theorem not_ends_nil (P : σ → Prop) (before : List ε) : ¬ Ends step init P before [] := by
  intro ⟨mid₁, event, mid₂, hmid, _⟩
  simp at hmid

theorem ends_concat {P : σ → Prop} {before mid : List ε} {event : ε} :
    Ends step init P before (mid ++ [event]) ↔ Ends step init P before mid ∨
      P (after step init (before ++ mid)) ∧ ¬ P (after step init (before ++ mid ++ [event])) := by
  constructor
  · intro ⟨mid₁, e, mid₂, hmid, hbefore, hafter⟩
    cases List.eq_nil_or_concat mid₂ with
    | inl hnil =>
        rw [hnil] at hmid
        obtain ⟨rfl, he⟩ := List.append_inj' hmid rfl
        rw [← (List.cons.inj he).1] at hafter
        exact .inr ⟨hbefore, hafter⟩
    | inr hconcat =>
        obtain ⟨mid₂', last, rfl⟩ := hconcat
        rw [List.concat_eq_append, ← List.cons_append, ← List.append_assoc] at hmid
        exact .inl ⟨mid₁, e, mid₂', (List.append_inj' hmid rfl).1, hbefore, hafter⟩
  · intro h
    cases h with
    | inl hmid =>
        obtain ⟨mid₁, e, mid₂, rfl, hbefore, hafter⟩ := hmid
        exact ⟨mid₁, e, mid₂ ++ [event], by simp, hbefore, hafter⟩
    | inr hlast => exact ⟨mid, event, [], rfl, hlast.1, hlast.2⟩

/-- What holds at first and not at last ends in between. -/
theorem ends_of_not {P : σ → Prop} {before mid : List ε} (hbefore : P (after step init before))
    (hafter : ¬ P (after step init (before ++ mid))) : Ends step init P before mid := by
  induction mid using List.reverseRecOn with
  | nil =>
      rw [List.append_nil] at hafter
      contradiction
  | append_singleton mid event ih =>
      rw [ends_concat]
      by_cases hmid : P (after step init (before ++ mid))
      · rw [← List.append_assoc] at hafter
        exact .inr ⟨hmid, hafter⟩
      · exact .inl (ih hmid)

/-! ## Machines that accept or reject -/

/-- The state after an event, accepted or not. -/
def next (decide : σ → ε → Bool × σ) (state : σ) (event : ε) : σ := (decide state event).2

/-- The events of a run that are accepted. -/
def accepted (decide : σ → ε → Bool × σ) : σ → List ε → List ε
  | _, [] => []
  | state, event :: run =>
      if (decide state event).1 = true then
        event :: accepted decide (next decide state event) run
      else accepted decide (next decide state event) run

theorem accepted_append (decide : σ → ε → Bool × σ) (init : σ) (run run' : List ε) :
    accepted decide init (run ++ run') =
      accepted decide init run ++ accepted decide (after (next decide) init run) run' := by
  induction run generalizing init with
  | nil => rfl
  | cons first run ih =>
      rw [List.cons_append, accepted, accepted, ih]
      split
      · rfl
      · rfl

theorem accepted_concat (decide : σ → ε → Bool × σ) (init : σ) (run : List ε) (event : ε) :
    accepted decide init (run ++ [event]) = accepted decide init run ++
      if (decide (after (next decide) init run) event).1 = true then [event] else [] := by
  rw [accepted_append]
  rfl

/-- Events that a state rejects, and that leave it as it is. -/
def Silent (decide : σ → ε → Bool × σ) (state : σ) (run : List ε) : Prop :=
  ∀ event ∈ run, decide state event = (false, state)

theorem Silent.accepted_eq {decide : σ → ε → Bool × σ} {state : σ} {run : List ε}
    (h : Silent decide state run) : accepted decide state run = [] := by
  induction run with
  | nil => rfl
  | cons event run ih =>
      have hevent := h event List.mem_cons_self
      rw [accepted, next, hevent]
      exact ih fun e he => h e (List.mem_cons_of_mem _ he)

theorem Silent.after_eq {decide : σ → ε → Bool × σ} {state : σ} {run : List ε}
    (h : Silent decide state run) : after (next decide) state run = state := by
  induction run with
  | nil => rfl
  | cons event run ih =>
      have hevent := h event List.mem_cons_self
      rw [after, List.foldl_cons, next, hevent]
      exact ih fun e he => h e (List.mem_cons_of_mem _ he)

/-- Events that are silent in every state need not be there. -/
theorem accepted_filter {decide : σ → ε → Bool × σ} {p : ε → Bool}
    (h : ∀ state event, p event = false → decide state event = (false, state)) (init : σ)
    (run : List ε) : accepted decide init (run.filter p) = accepted decide init run := by
  induction run generalizing init with
  | nil => rfl
  | cons event run ih =>
      cases hp : p event with
      | true =>
          rw [List.filter_cons_of_pos hp, accepted, accepted, ih]
      | false =>
          rw [List.filter_cons_of_neg (by simp [hp]), ih, accepted, next, h init event hp]
          rfl

/-! ## Machines that run on their own -/

/-- A machine gets from one state to another. -/
def Reaches (step : σ → σ) (s s' : σ) : Prop := ∃ n, step^[n] s = s'

variable {next : σ → σ} {s s' s'' : σ}

theorem Reaches.refl : Reaches next s s := ⟨0, rfl⟩

theorem Reaches.head (h : Reaches next (next s) s') : Reaches next s s' := by
  obtain ⟨n, hn⟩ := h
  exact ⟨n + 1, by rwa [Function.iterate_succ_apply]⟩

theorem Reaches.trans (h : Reaches next s s') (h' : Reaches next s' s'') :
    Reaches next s s'' := by
  obtain ⟨n, rfl⟩ := h
  obtain ⟨m, rfl⟩ := h'
  exact ⟨m + n, Function.iterate_add_apply next m n s⟩

/-- A machine comes to rest in one state only. -/
theorem Reaches.eq_of_fixed (h : Reaches next s s') (h' : Reaches next s s'')
    (hfixed : next s' = s') (hfixed' : next s'' = s'') : s' = s'' := by
  obtain ⟨n, rfl⟩ := h
  obtain ⟨m, rfl⟩ := h'
  rcases Nat.le_total n m with hle | hle
  · obtain ⟨k, rfl⟩ := Nat.exists_eq_add_of_le' hle
    rw [Function.iterate_add_apply, Function.iterate_fixed hfixed]
  · obtain ⟨k, rfl⟩ := Nat.exists_eq_add_of_le' hle
    rw [Function.iterate_add_apply, Function.iterate_fixed hfixed']

end DbGateway.Runs
