import DbGateway.Sql.Text

/-!
# DbGateway.Sql.SelectList

`_split_sql_list` of `services/policy_engine.py` on a list that was joined by
commas.

The brackets of an expression are counted before every one of its characters,
round and square ones apart.  The splitter counts them together; in an
expression it is at no comma with a count of zero, so the expressions come out
as they went in (`splitSqlList_join`).
-/

namespace DbGateway.Sql

/-! ## Levels -/

/-- What the elements of a list amount to. -/
def level {α : Type} (weight : α → Int) (xs : List α) : Int :=
  xs.foldl (fun n x => n + weight x) 0

@[simp] theorem level_nil {α : Type} (weight : α → Int) : level weight [] = 0 := rfl

@[simp] theorem level_concat {α : Type} (weight : α → Int) (xs : List α) (x : α) :
    level weight (xs ++ [x]) = level weight xs + weight x := by
  rw [level, List.foldl_append]
  rfl

/-- No part of the list from the front is below zero, and the whole is at zero. -/
structure Balanced {α : Type} (weight : α → Int) (xs : List α) : Prop where
  nonneg : ∀ front, front <+: xs → 0 ≤ level weight front
  whole : level weight xs = 0

/-! ## Expressions -/

/-- `'`, `"` or the backtick. -/
def opensQuote (c : Char) : Bool := c = '\'' || c = '"' || c.toNat = 96

/-- A character outside quotes, or a text in quotes.  A doubled quote closes one
text and opens the next. -/
inductive Atom where
  | char (c : Char) (h : opensQuote c = false)
  | quoted (q : Char) (body : List Char) (hq : opensQuote q = true) (hbody : q ∉ body)

def Atom.text : Atom → List Char
  | char c _ => [c]
  | quoted q body _ _ => q :: (body ++ [q])

/-- What an atom adds to the brackets of a kind that are open. -/
def Atom.weight (opening closing : Char) : Atom → Int
  | char c _ => if c = opening then 1 else if c = closing then -1 else 0
  | quoted .. => 0

/-- Round brackets. -/
abbrev Atom.round : Atom → Int := weight '(' ')'

/-- Square brackets. -/
abbrev Atom.square : Atom → Int := weight '[' ']'

def textOf (atoms : List Atom) : List Char := atoms.flatMap Atom.text

theorem textOf_concat (atoms : List Atom) (a : Atom) :
    textOf (atoms ++ [a]) = textOf atoms ++ a.text := by
  simp [textOf]

/-- An expression of a list. -/
structure Expression where
  atoms : List Atom
  round : Balanced Atom.round atoms
  square : Balanced Atom.square atoms
  /-- A comma outside quotes is in brackets. -/
  commas : ∀ front h rest, atoms = front ++ .char ',' h :: rest →
    0 < level Atom.round front ∨ 0 < level Atom.square front
  trimmed : strip (String.ofList (textOf atoms)) = String.ofList (textOf atoms)
  ne_nil : atoms ≠ []

def Expression.text (e : Expression) : String := String.ofList (textOf e.atoms)

/-- An expression with whitespace around it. -/
structure SpacedExpression where
  before : List Char
  expression : Expression
  after : List Char
  before_space : ∀ c ∈ before, isSpace c = true
  after_space : ∀ c ∈ after, isSpace c = true

def SpacedExpression.text (item : SpacedExpression) : List Char :=
  item.before ++ (textOf item.expression.atoms ++ item.after)

/-! ## Steps -/

variable {items : List String} {buffer : List Char} {depth : Nat}

/-- Everything in quotes goes to the buffer. -/
theorem foldl_step_inside {q : Char} {cs : List Char} (h : q ∉ cs) :
    cs.foldl Splitter.step ⟨items, buffer, depth, some q⟩ =
      ⟨items, buffer ++ cs, depth, some q⟩ := by
  induction cs generalizing buffer with
  | nil => rw [List.foldl_nil, List.append_nil]
  | cons c cs ih =>
      obtain ⟨hc, hcs⟩ := List.ne_and_not_mem_of_not_mem_cons h
      have hstep : Splitter.step ⟨items, buffer, depth, some q⟩ c =
          ⟨items, buffer ++ [c], depth, some q⟩ := by
        simp only [Splitter.step, if_neg (Ne.symm hc)]
      rw [List.foldl_cons, hstep, ih hcs, List.append_assoc]
      rfl

theorem foldl_step_quoted {q : Char} {body : List Char} (hq : opensQuote q = true)
    (hbody : q ∉ body) :
    (q :: (body ++ [q])).foldl Splitter.step ⟨items, buffer, depth, none⟩ =
      ⟨items, buffer ++ q :: (body ++ [q]), depth, none⟩ := by
  have hopen : Splitter.step ⟨items, buffer, depth, none⟩ q =
      ⟨items, buffer ++ [q], depth, some q⟩ := if_pos hq
  rw [List.foldl_cons, hopen, List.foldl_append, foldl_step_inside hbody]
  simp [Splitter.step]

/-- A character that separates nothing goes to the buffer. -/
theorem step_char {c : Char} (hc : opensQuote c = false) (hcomma : c = ',' → depth ≠ 0) :
    Splitter.step ⟨items, buffer, depth, none⟩ c =
      ⟨items, buffer ++ [c],
        if c = '(' || c = '[' then depth + 1 else if c = ')' || c = ']' then depth - 1 else depth,
        none⟩ := by
  have hquote : ¬ (c = '\'' || c = '"' || c.toNat = 96) = true := by
    rw [Bool.not_eq_true]
    exact hc
  have hlist : ¬ (c = ',' && depth = 0) = true := by
    rw [Bool.and_eq_true, decide_eq_true_eq, decide_eq_true_eq]
    exact fun h => hcomma h.1 h.2
  dsimp only [Splitter.step]
  rw [if_neg hquote, if_neg hlist]
  split
  · rfl
  · split <;> rfl

/-- Whitespace as well. -/
theorem foldl_step_space {cs : List Char} (h : ∀ c ∈ cs, isSpace c = true) :
    cs.foldl Splitter.step ⟨items, buffer, depth, none⟩ = ⟨items, buffer ++ cs, depth, none⟩ := by
  induction cs generalizing buffer with
  | nil => rw [List.foldl_nil, List.append_nil]
  | cons c cs ih =>
      obtain ⟨hc, hcs⟩ := List.forall_mem_cons.mp h
      have hother : ∀ d : Char, isSpace d = false → c ≠ d := by
        rintro d hd rfl
        rw [hd] at hc
        contradiction
      have hquote : opensQuote c = false := by
        rw [opensQuote, decide_eq_false (hother '\'' rfl), decide_eq_false (hother '"' rfl)]
        have hback : c.toNat ≠ 96 := by
          intro h96
          simp [isSpace, h96] at hc
        rw [decide_eq_false hback]
        rfl
      rw [List.foldl_cons, step_char hquote fun h => absurd h (hother ',' rfl),
        decide_eq_false (hother '(' rfl), decide_eq_false (hother '[' rfl),
        decide_eq_false (hother ')' rfl), decide_eq_false (hother ']' rfl)]
      simp only [Bool.or_self, Bool.false_eq_true, if_false]
      rw [ih hcs, List.append_assoc]
      rfl

/-! ## Expressions -/

/-- The brackets that are open. -/
def openBrackets (atoms : List Atom) : Nat :=
  (level Atom.round atoms + level Atom.square atoms).toNat

theorem openBrackets_quoted (front : List Atom) {q : Char} {body : List Char}
    (hq : opensQuote q = true) (hbody : q ∉ body) :
    openBrackets (front ++ [.quoted q body hq hbody]) = openBrackets front := by
  simp [openBrackets, Atom.weight]

theorem openBrackets_char {front : List Atom} (hround : 0 ≤ level Atom.round front)
    (hsquare : 0 ≤ level Atom.square front) {c : Char} (hc : opensQuote c = false) :
    openBrackets (front ++ [.char c hc]) =
      if c = '(' || c = '[' then openBrackets front + 1
      else if c = ')' || c = ']' then openBrackets front - 1 else openBrackets front := by
  rw [openBrackets, level_concat, level_concat, openBrackets]
  by_cases hopen : c = '(' ∨ c = '['
  · rcases hopen with rfl | rfl <;> simp [Atom.weight] <;> omega
  · by_cases hclose : c = ')' ∨ c = ']'
    · rcases hclose with rfl | rfl <;> simp [Atom.weight] <;> omega
    · rw [not_or] at hopen hclose
      simp [Atom.weight, hopen, hclose]

/-- **An expression, as far as it is read**, is in the buffer, and as many
brackets are open as it says. -/
theorem foldl_step_front (e : Expression) {front : List Atom} (h : front <+: e.atoms) :
    (textOf front).foldl Splitter.step ⟨items, buffer, 0, none⟩ =
      ⟨items, buffer ++ textOf front, openBrackets front, none⟩ := by
  induction front using List.reverseRecOn with
  | nil => simp [textOf, openBrackets]
  | append_singleton front a ih =>
      have hfront : front <+: e.atoms := (List.prefix_append front [a]).trans h
      rw [textOf_concat, List.foldl_append, ih hfront, ← List.append_assoc]
      cases a with
      | quoted q body hq hbody => rw [Atom.text, foldl_step_quoted hq hbody, openBrackets_quoted]
      | char c hc =>
          have hcomma : c = ',' → openBrackets front ≠ 0 := by
            rintro rfl
            obtain ⟨rest, hrest⟩ := h
            have hopen := e.commas front hc rest (by rw [← hrest, List.append_assoc]; rfl)
            have hround := e.round.nonneg front hfront
            have hsquare := e.square.nonneg front hfront
            rw [openBrackets]
            omega
          rw [Atom.text, List.foldl_cons, List.foldl_nil, step_char hc hcomma,
            openBrackets_char (e.round.nonneg front hfront) (e.square.nonneg front hfront)]

/-- After an expression and the whitespace around it no bracket is open. -/
theorem foldl_step_item (item : SpacedExpression) :
    item.text.foldl Splitter.step ⟨items, [], 0, none⟩ = ⟨items, item.text, 0, none⟩ := by
  have hclosed : openBrackets item.expression.atoms = 0 := by
    rw [openBrackets, item.expression.round.whole, item.expression.square.whole]
    rfl
  rw [SpacedExpression.text, List.foldl_append, foldl_step_space item.before_space,
    List.foldl_append, foldl_step_front item.expression List.prefix_rfl, hclosed,
    foldl_step_space item.after_space,
    List.nil_append, List.append_assoc]

/-! ## Lists -/

theorem Expression.textOf_ne_nil (e : Expression) : textOf e.atoms ≠ [] := by
  obtain ⟨a, rest, hatoms⟩ := List.exists_cons_of_ne_nil e.ne_nil
  rw [hatoms, textOf, List.flatMap_cons]
  cases a <;> exact List.cons_ne_nil _ _

/-- Whitespace around an expression is taken away. -/
theorem strip_item (item : SpacedExpression) :
    strip (String.ofList item.text) = item.expression.text := by
  have htrimmed : stripList isSpace (textOf item.expression.atoms) =
      textOf item.expression.atoms := by
    have h := stripList_of_strip item.expression.trimmed
    rwa [String.toList_ofList] at h
  have hbefore : item.before.dropWhile isSpace = [] :=
    List.dropWhile_eq_nil_iff.mpr item.before_space
  have hafter : item.after.rdropWhile isSpace = [] :=
    List.rdropWhile_eq_nil_iff.mpr item.after_space
  rw [strip, stripChars, String.toList_ofList, SpacedExpression.text,
    stripList_append item.expression.textOf_ne_nil (head_of_stripList htrimmed)
      (last_of_stripList htrimmed),
    hbefore, hafter, List.nil_append, List.append_nil]
  rfl

theorem flush_item (item : SpacedExpression) (depth : Nat) (quote : Option Char) :
    Splitter.flush ⟨items, item.text, depth, quote⟩ = items ++ [item.expression.text] := by
  have hne : item.expression.text ≠ "" := by
    intro h
    refine item.expression.textOf_ne_nil ?_
    rw [← String.toList_ofList (l := textOf item.expression.atoms), ← Expression.text, h]
    rfl
  simp only [Splitter.flush, strip_item, if_neg hne]

/-- The text of a list, joined by commas. -/
def joinItems (list : List SpacedExpression) : List Char :=
  List.intercalate [','] (list.map SpacedExpression.text)

theorem flush_foldl_join (list : List SpacedExpression) :
    Splitter.flush ((joinItems list).foldl Splitter.step ⟨items, [], 0, none⟩) =
      items ++ list.map fun item => item.expression.text := by
  induction list generalizing items with
  | nil =>
      rw [List.map_nil, List.append_nil]
      rfl
  | cons item list ih =>
      cases list with
      | nil =>
          have hjoin : joinItems [item] = item.text := by simp [joinItems]
          rw [hjoin, foldl_step_item, flush_item]
          rfl
      | cons next list =>
          have hjoin : joinItems (item :: next :: list) =
              item.text ++ ',' :: joinItems (next :: list) := by
            simp [joinItems]
          have hcomma : Splitter.step ⟨items, item.text, 0, none⟩ ',' =
              ⟨Splitter.flush ⟨items, item.text, 0, none⟩, [], 0, none⟩ := rfl
          rw [hjoin, List.foldl_append, foldl_step_item, List.foldl_cons, hcomma, flush_item, ih,
            List.append_assoc]
          rfl

/-- **Splitting inverts joining.** -/
theorem splitSqlList_join (list : List SpacedExpression) :
    splitSqlList (joinItems list) = list.map fun item => item.expression.text :=
  (flush_foldl_join list).trans (List.nil_append _)

example : splitSqlList "a, f(b, x[1, 2]) ,'it''s, \"so\"'".toList =
    ["a", "f(b, x[1, 2])", "'it''s, \"so\"'"] := by decide

end DbGateway.Sql
