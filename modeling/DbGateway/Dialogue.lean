/-!
# DbGateway.Dialogue

Programs that make calls to something outside and go on with whatever it
answers.

A program is the tree of what it does: it ends with a result, or makes a call and
goes on with the answer, which may be an exception.  Nothing is assumed of the
answers (`Program.Runs`), so what holds of every run holds whatever else uses
what is outside at the same time.

`Program.Does` states what every run of a program does, and is derived along the
program: a program that is followed by another, whether it returned or raised,
does what both do one after the other (`Does.andThen`).
-/

namespace DbGateway.Dialogue

/-- A program that makes calls `C`, which `A` answers or which raise an `X`. -/
inductive Program (C : Type) (A : C → Type) (X α : Type) where
  | done (result : Except X α)
  | call (c : C) (next : Except X (A c) → Program C A X α)

/-- A call and what came of it. -/
structure Exchange (C : Type) (A : C → Type) (X : Type) where
  call : C
  answer : Except X (A call)

namespace Program

variable {C : Type} {A : C → Type} {X α β : Type}

/-! ## Programs -/

/-- Make a call. -/
def perform (c : C) : Program C A X (A c) := .call c .done

def raise (e : X) : Program C A X α := .done (.error e)

/-- Go on with the result, whether there is one or not. -/
def andThen : Program C A X α → (Except X α → Program C A X β) → Program C A X β
  | .done result, f => f result
  | .call c next, f => .call c fun answer => (next answer).andThen f

/-- Go on with what is returned. -/
def bind (p : Program C A X α) (f : α → Program C A X β) : Program C A X β :=
  p.andThen fun
    | .ok a => f a
    | .error e => raise e

instance : Monad (Program C A X) where
  pure a := .done (.ok a)
  bind := bind

/-- `try: … except: …` -/
def except (p : Program C A X α) (handler : X → Program C A X α) : Program C A X α :=
  p.andThen fun
    | .ok a => .done (.ok a)
    | .error e => handler e

/-- What a cleanup raises takes the place of the result. -/
def settle (result : Except X α) : Except X β → Program C A X α
  | .ok _ => .done result
  | .error e => raise e

/-- `try: … finally: …` -/
def finally_ (p : Program C A X α) (cleanup : Program C A X β) : Program C A X α :=
  p.andThen fun result => cleanup.andThen (settle result)

/-- One program for each element, in order. -/
def forEach {γ : Type} (xs : List γ) (f : γ → Program C A X α) : Program C A X (List α) :=
  match xs with
  | [] => .done (.ok [])
  | x :: xs => (f x).bind fun a => (forEach xs f).bind fun as => .done (.ok (a :: as))

/-! ## Runs -/

/-- A run of a program: its calls with some answers, and its result. -/
inductive Runs : Program C A X α → List (Exchange C A X) → Except X α → Prop
  | done (result : Except X α) : Runs (.done result) [] result
  | call {c : C} {next : Except X (A c) → Program C A X α} {answer : Except X (A c)}
      {trace : List (Exchange C A X)} {result : Except X α} (h : Runs (next answer) trace result) :
      Runs (.call c next) (⟨c, answer⟩ :: trace) result

/-- A program and what follows it run one after the other. -/
theorem runs_andThen {p : Program C A X α} {f : Except X α → Program C A X β}
    {trace : List (Exchange C A X)} {result : Except X β} :
    (p.andThen f).Runs trace result ↔ ∃ first second outcome, trace = first ++ second ∧
      p.Runs first outcome ∧ (f outcome).Runs second result := by
  induction p generalizing trace with
  | done outcome =>
      constructor
      · exact fun h => ⟨[], trace, outcome, rfl, .done outcome, h⟩
      · rintro ⟨first, second, outcome', rfl, hfirst, hsecond⟩
        cases hfirst with
        | done => exact hsecond
  | call c next ih =>
      constructor
      · intro h
        cases h with
        | call h =>
            obtain ⟨first, second, outcome, rfl, hfirst, hsecond⟩ := (ih _).mp h
            exact ⟨_ :: first, second, outcome, rfl, .call hfirst, hsecond⟩
      · rintro ⟨first, second, outcome, rfl, hfirst, hsecond⟩
        cases hfirst with
        | call hfirst => exact .call ((ih _).mpr ⟨_, second, outcome, rfl, hfirst, hsecond⟩)

/-! ## What programs do -/

/-- Every run of the program has a trace and an outcome as `Q` states. -/
def Does (p : Program C A X α) (Q : List (Exchange C A X) → Except X α → Prop) : Prop :=
  ∀ trace result, p.Runs trace result → Q trace result

variable {p : Program C A X α} {Q Q' : List (Exchange C A X) → Except X α → Prop}
  {R : List (Exchange C A X) → Except X β → Prop}

theorem Does.weaken (h : p.Does Q) (hQ : ∀ trace result, Q trace result → Q' trace result) :
    p.Does Q' :=
  fun trace result hrun => hQ trace result (h trace result hrun)

theorem does_done {result : Except X α} (h : Q [] result) :
    Program.Does (.done result : Program C A X α) Q := by
  intro trace result' hrun
  cases hrun with
  | done => exact h

theorem does_call {c : C} {next : Except X (A c) → Program C A X α}
    (h : ∀ answer, (next answer).Does fun trace result => Q (⟨c, answer⟩ :: trace) result) :
    Program.Does (.call c next) Q := by
  intro trace result hrun
  cases hrun with
  | call hrun => exact h _ _ _ hrun

/-- **Sequence rule**: what follows does its part after any first part. -/
theorem Does.andThen {f : Except X α → Program C A X β} (h : p.Does Q)
    (hf : ∀ first outcome, Q first outcome →
      (f outcome).Does fun second result => R (first ++ second) result) :
    (p.andThen f).Does R := by
  intro trace result hrun
  obtain ⟨first, second, outcome, rfl, hfirst, hsecond⟩ := runs_andThen.mp hrun
  exact hf first outcome (h first outcome hfirst) second result hsecond

theorem Does.bind {f : α → Program C A X β} (h : p.Does Q)
    (hok : ∀ first a, Q first (.ok a) →
      (f a).Does fun second result => R (first ++ second) result)
    (herror : ∀ trace e, Q trace (.error e) → R trace (.error e)) : (p.bind f).Does R := by
  refine h.andThen fun first outcome hfirst => ?_
  cases outcome with
  | ok a => exact hok first a hfirst
  | error e => exact does_done (by rw [List.append_nil]; exact herror first e hfirst)

theorem Does.except {handler : X → Program C A X α} (h : p.Does Q)
    (hok : ∀ trace a, Q trace (.ok a) → Q' trace (.ok a))
    (herror : ∀ first e, Q first (.error e) →
      (handler e).Does fun second result => Q' (first ++ second) result) :
    (p.except handler).Does Q' := by
  refine h.andThen fun first outcome hfirst => ?_
  cases outcome with
  | ok a => exact does_done (by rw [List.append_nil]; exact hok first a hfirst)
  | error e => exact herror first e hfirst

/-! ## Every call -/

/-- Every call the program can make is as stated. -/
def Calls (P : C → Prop) (p : Program C A X α) : Prop :=
  p.Does fun trace _ => ∀ exchange ∈ trace, P exchange.call

variable {P : C → Prop}

theorem calls_done (result : Except X α) : Calls P (.done result : Program C A X α) :=
  does_done fun _ hmem => absurd hmem List.not_mem_nil

theorem calls_perform {c : C} (h : P c) : Calls P (perform c : Program C A X (A c)) :=
  does_call fun _ => does_done fun _ hmem => (List.mem_singleton.mp hmem) ▸ h

theorem Calls.andThen {f : Except X α → Program C A X β} (h : Calls P p)
    (hf : ∀ outcome, Calls P (f outcome)) : Calls P (p.andThen f) := by
  refine Does.andThen h fun first outcome hfirst => (hf outcome).weaken fun second _ hsecond => ?_
  intro exchange hmem
  rcases List.mem_append.mp hmem with hmem | hmem
  · exact hfirst exchange hmem
  · exact hsecond exchange hmem

theorem Calls.bind {f : α → Program C A X β} (h : Calls P p) (hf : ∀ a, Calls P (f a)) :
    Calls P (p.bind f) :=
  h.andThen fun
    | .ok a => hf a
    | .error _ => calls_done _

theorem calls_done_bind {result : Except X α} {f : α → Program C A X β}
    (h : ∀ a, result = .ok a → Calls P (f a)) :
    Calls P ((.done result : Program C A X α).bind f) := by
  cases result with
  | ok a => exact h a rfl
  | error e => exact calls_done _

theorem Calls.forEach {γ : Type} {xs : List γ} {f : γ → Program C A X α}
    (h : ∀ x, Calls P (f x)) : Calls P (forEach xs f) := by
  induction xs with
  | nil => exact calls_done _
  | cons x xs ih => exact (h x).bind fun a => ih.bind fun as => calls_done _

end Program

end DbGateway.Dialogue
