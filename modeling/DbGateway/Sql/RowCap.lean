import DbGateway.Sql.Phrase

/-!
# DbGateway.Sql.RowCap

The row cap of the outermost query of a statement: its `LIMIT` or `FETCH`
clause outside parentheses and quotes, the number the clause states, and what
the statement is apart from it.

A reading goes through the lexemes from left to right.  `LIMIT` and `FETCH` are
reserved words, so outside parentheses they start the clause unless a dot or
`AS` makes them a name; `OFFSET`, `FOR` and `;` end it.
-/

namespace DbGateway.Sql

open Re

/-- A keyword of SQL, in any case. -/
def isKeyword (keyword : String) (w : List Char) : Bool := w.map Char.toLower == keyword.toList

/-- The number a word states. -/
def statedNumber? (w : List Char) : Option Nat :=
  if w ≠ [] ∧ w.all Char.isDigit then some (Nat.ofDigitChars 10 w 0) else none

/-- What a clause has said so far. -/
inductive Operand where
  | limit
  | fetch
  | fetchFirst
  | fetchCount (n : Nat)
  | fetchRows (n : Nat)
  /-- `LIMIT n` or `FETCH FIRST n ROWS ONLY`. -/
  | stated (n : Nat)
  /-- Anything else, an expression for example. -/
  | unstated
deriving DecidableEq

def isRows (w : List Char) : Bool := isKeyword "row" w || isKeyword "rows" w

/-- The next word of a clause. -/
def Operand.read (o : Operand) (w : List Char) : Operand :=
  match o with
  | .limit => (statedNumber? w).elim .unstated .stated
  | .fetch => if isKeyword "first" w || isKeyword "next" w then .fetchFirst else .unstated
  | .fetchFirst => (statedNumber? w).elim (if isRows w then .fetchRows 1 else .unstated) .fetchCount
  | .fetchCount n => if isRows w then .fetchRows n else .unstated
  | .fetchRows n => if isKeyword "only" w then .stated n else .unstated
  | .stated _ => .unstated
  | .unstated => .unstated

/-- The number a whole clause states. -/
def Operand.value? : Operand → Option Nat
  | .stated n => some n
  | _ => none

inductive Phase where
  /-- No cap so far. -/
  | uncapped
  | inCap (o : Operand)
  /-- In the clauses after the cap, with what it states. -/
  | later (value : Option Nat)
  /-- After the statement. -/
  | ended (value : Option Nat)
deriving DecidableEq

def Phase.value? : Phase → Option Nat
  | .uncapped => none
  | .inCap o => o.value?
  | .later value => value
  | .ended value => value

/-- What has been read of a statement: the parentheses that are open, whether a
dot or `AS` makes a name of the next word, and the cap. -/
structure Reading where
  depth : Nat := 0
  glued : Bool := false
  phase : Phase := .uncapped
deriving DecidableEq

/-- The clause a word starts. -/
def startsCap (w : List Char) : Option Operand :=
  if isKeyword "limit" w then some .limit
  else if isKeyword "fetch" w then some .fetch
  else none

def endsCap (w : List Char) : Bool := isKeyword "offset" w || isKeyword "for" w

namespace Reading

/-- A keyword here belongs to the outermost query. -/
def outermost (r : Reading) : Bool := r.depth == 0 && !r.glued

/-- A `LIMIT` or `FETCH` here can only be a clause of the outermost query: in
front of a clause a name may be meant, after one no name may stand. -/
def takesCap (r : Reading) : Bool := r.depth == 0 && (!r.glued || decide (r.phase ≠ .uncapped))

def readWord (r : Reading) (w : List Char) : Phase :=
  match r.phase with
  | .uncapped => bif r.outermost then (startsCap w).elim .uncapped .inCap else .uncapped
  | .inCap o => bif r.outermost && endsCap w then .later o.value? else .inCap (o.read w)
  | .later value => bif r.depth == 0 && (startsCap w).isSome then .later none else .later value
  | .ended _ => .ended none

def readSymbol (r : Reading) (c : Char) : Phase :=
  match r.phase with
  | .uncapped => bif r.depth == 0 && c == ';' then .ended none else .uncapped
  | .inCap o => bif r.depth == 0 && c == ';' then .ended o.value? else .inCap .unstated
  | .later value => bif r.depth == 0 && c == ';' then .ended value else .later value
  | .ended value => bif c == ';' then .ended value else .ended none

/-- A quoted text, or a name that is no keyword. -/
def readOther (r : Reading) : Phase :=
  match r.phase with
  | .uncapped => .uncapped
  | .inCap _ => .inCap .unstated
  | .later value => .later value
  | .ended _ => .ended none

/-- The parentheses that are open after a symbol. -/
def depthAfter (r : Reading) (c : Char) : Nat :=
  if c == '(' then r.depth + 1 else if c == ')' then r.depth - 1 else r.depth

/-- The next lexeme. -/
def step (r : Reading) (l : Lexeme) : Reading :=
  match l with
  | .space _ => r
  | .word w => ⟨r.depth, isKeyword "as" w, r.readWord w⟩
  | .symbol c => ⟨r.depthAfter c, c == '.', r.readSymbol c⟩
  | .name _ => ⟨r.depth, false, r.readOther⟩
  | .quoted _ _ => ⟨r.depth, false, r.readOther⟩
  | .unclosed _ _ => ⟨r.depth, false, .ended none⟩

def read (r : Reading) (ls : List Lexeme) : Reading := ls.foldl step r

@[simp] theorem read_nil (r : Reading) : r.read [] = r := rfl

@[simp] theorem read_cons (r : Reading) (l : Lexeme) (ls : List Lexeme) :
    r.read (l :: ls) = (r.step l).read ls := rfl

@[simp] theorem read_append (r : Reading) (as bs : List Lexeme) :
    r.read (as ++ bs) = (r.read as).read bs := List.foldl_append

@[simp] theorem step_space (r : Reading) (c : Char) : r.step (.space c) = r := rfl

@[simp] theorem read_spaces (r : Reading) (cs : List Char) : r.read (cs.map .space) = r := by
  induction cs with
  | nil => rfl
  | cons c cs ih => simp [ih]

/-- What a statement that ends here states. -/
def value? (r : Reading) : Option Nat := if r.depth = 0 then r.phase.value? else none

end Reading

section

variable [Python]

/-- The reading of a whole text. -/
def reading (cs : List Char) : Reading := Reading.read {} (lex cs)

/-- The row cap the outermost query states. -/
def rowCap (cs : List Char) : Option Nat := (reading cs).value?

end

/-! ## Everything else -/

def Phase.isCap : Phase → Bool
  | .inCap _ => true
  | _ => false

/-- A word or a space of the outermost cap. -/
def Reading.hides (r : Reading) (l : Lexeme) : Bool :=
  match l with
  | .space _ => r.depth == 0 && r.phase.isCap
  | .word w => r.depth == 0 && (r.readWord w).isCap
  | _ => false

/-- The lexemes that do not belong to the outermost cap. -/
def Reading.keep : Reading → List Lexeme → List Lexeme
  | _, [] => []
  | r, l :: ls => if r.hides l then (r.step l).keep ls else l :: (r.step l).keep ls

/-- Spaces and semicolons. -/
def Lexeme.trails : Lexeme → Bool
  | .space _ => true
  | .symbol c => c == ';'
  | _ => false

def trimEnd (ls : List Lexeme) : List Lexeme := ls.rdropWhile Lexeme.trails

section

variable [Python]

/-- A statement without its outermost cap, trailing semicolons and space. -/
def outsideCap (cs : List Char) : List Lexeme := trimEnd (Reading.keep {} (lex cs))

end

namespace Reading

theorem keep_append (r : Reading) (as bs : List Lexeme) :
    r.keep (as ++ bs) = r.keep as ++ (r.read as).keep bs := by
  induction as generalizing r with
  | nil => rfl
  | cons l as ih =>
      simp only [List.cons_append, keep, read_cons, ih]
      split <;> rfl

end Reading

theorem trimEnd_append_of_trails {as bs : List Lexeme} (h : ∀ l ∈ bs, l.trails = true) :
    trimEnd (as ++ bs) = trimEnd as := by
  induction bs using List.reverseRecOn with
  | nil => simp
  | append_singleton bs l ih =>
      have hl : l.trails = true := h l (by simp)
      rw [← List.append_assoc, trimEnd, List.rdropWhile_concat, if_pos hl]
      exact ih fun l' hl' => h l' (by simp [hl'])

/-- Nothing in front of a lexeme that stays is trimmed. -/
theorem trimEnd_append {as bs : List Lexeme} {l : Lexeme} (h : l.trails = false) :
    trimEnd (as ++ l :: bs) = as ++ l :: trimEnd bs := by
  induction bs using List.reverseRecOn with
  | nil => simp [trimEnd, h]
  | append_singleton bs l' ih =>
      have hsplit : as ++ l :: (bs ++ [l']) = (as ++ l :: bs) ++ [l'] := by simp
      rw [hsplit, trimEnd, trimEnd, List.rdropWhile_concat, List.rdropWhile_concat]
      split
      · exact ih
      · simp

/-! ## Trailing semicolons and space -/

section

variable [Python] [PythonTables]

/-- A semicolon or a space. -/
def trailing (c : Char) : Bool := isSpace c || c == ';'

omit [Python] [PythonTables] in
theorem not_delimits_of_trailing {c : Char} (h : trailing c = true) : delimits c = false := by
  by_contra hdelimits
  rcases delimits_iff.mp (by simpa using hdelimits) with rfl | rfl | rfl | rfl <;>
    exact absurd h (by decide)

theorem not_isWord_of_trailing {c : Char} (h : trailing c = true) : isWord c = false := by
  simp only [trailing, Bool.or_eq_true, beq_iff_eq] at h
  rcases h with h | rfl
  · exact not_isWord_of_isSpace h
  · rw [isWord_ascii (by decide)]
    decide

theorem trails_of_mem_lex {cs : List Char} (h : ∀ c ∈ cs, trailing c = true) :
    ∀ l ∈ lex cs, l.trails = true := by
  induction cs with
  | nil => simp [lex, lexFrom, Mode.flush]
  | cons c cs ih =>
      have hc := h c (by simp)
      have hrest := ih fun d hd => h d (by simp [hd])
      have hbegin : ∃ l : Lexeme, begin c = ([l], .code) ∧ l.trails = true := by
        cases hspace : isSpace c with
        | true => exact ⟨.space c, begin_space hspace, rfl⟩
        | false =>
            have hsemicolon : c = ';' := by simpa [trailing, hspace] using hc
            exact ⟨.symbol c, begin_symbol hspace (not_isWord_of_trailing hc)
              (by rw [hsemicolon]; decide) (by rw [hsemicolon]; decide),
              by simp [Lexeme.trails, hsemicolon]⟩
      obtain ⟨l, hl, htrails⟩ := hbegin
      have hlex : lex (c :: cs) = l :: lex cs := by rw [lex_cons, hl]; rfl
      simpa [hlex] using ⟨htrails, hrest⟩

theorem lex_append_trailing {text cs : List Char} (hcode : quoteOpen text = false)
    (h : ∀ c ∈ cs, trailing c = true) : lex (text ++ cs) = lex text ++ lex cs := by
  refine lex_append (Mode.breaks_of_head hcode fun c hc => ?_)
  have htrailing := h c (List.mem_of_mem_head? hc)
  exact ⟨not_isWord_of_trailing htrailing, not_delimits_of_trailing htrailing⟩

end

namespace Reading

theorem mem_of_mem_keep {r : Reading} {ls : List Lexeme} {l : Lexeme} (h : l ∈ r.keep ls) :
    l ∈ ls := by
  induction ls generalizing r with
  | nil => exact h
  | cons l' ls ih =>
      simp only [keep] at h
      split at h
      · exact List.mem_cons_of_mem _ (ih h)
      · rcases List.mem_cons.mp h with rfl | h
        · exact List.mem_cons_self
        · exact List.mem_cons_of_mem _ (ih h)

/-- A semicolon leaves the row cap as it is. -/
theorem value?_step_of_trails (r : Reading) {l : Lexeme} (h : l.trails = true) :
    (r.step l).value? = r.value? := by
  obtain ⟨depth, glued, phase⟩ := r
  cases l with
  | space _ => rfl
  | symbol c =>
      obtain rfl : c = ';' := by simpa [Lexeme.trails] using h
      cases depth with
      | zero => cases phase <;> rfl
      | succ depth => simp [step, value?, depthAfter]
  | _ => simp [Lexeme.trails] at h

theorem value?_read_of_trails (r : Reading) {ls : List Lexeme} (h : ∀ l ∈ ls, l.trails = true) :
    (r.read ls).value? = r.value? := by
  induction ls generalizing r with
  | nil => rfl
  | cons l ls ih =>
      rw [read_cons, ih _ fun l' hl' => h l' (by simp [hl']),
        value?_step_of_trails r (h l (by simp))]

end Reading

section

variable [Python] [PythonTables]

theorem outsideCap_append_trailing {text cs : List Char} (hcode : quoteOpen text = false)
    (h : ∀ c ∈ cs, trailing c = true) : outsideCap (text ++ cs) = outsideCap text := by
  rw [outsideCap, lex_append_trailing hcode h, Reading.keep_append]
  exact trimEnd_append_of_trails fun l hl =>
    trails_of_mem_lex h l (Reading.mem_of_mem_keep hl)

theorem rowCap_append_trailing {text cs : List Char} (hcode : quoteOpen text = false)
    (h : ∀ c ∈ cs, trailing c = true) : rowCap (text ++ cs) = rowCap text := by
  rw [rowCap, reading, lex_append_trailing hcode h, Reading.read_append,
    Reading.value?_read_of_trails _ (trails_of_mem_lex h)]
  rfl

end

/-! ## What a reading forgets -/

namespace Reading

/-- No cap can be stated any more. -/
def Doomed (r : Reading) : Prop :=
  r.phase = .inCap .unstated ∨ r.phase = .later none ∨ r.phase = .ended none

theorem Doomed.step {r : Reading} (h : r.Doomed) (l : Lexeme) : (r.step l).Doomed := by
  obtain ⟨depth, glued, phase⟩ := r
  simp only [Doomed] at h
  cases l with
  | space _ => exact h
  | word w =>
      rcases h with rfl | rfl | rfl
      · simp only [Reading.step, Doomed, readWord, outermost, Operand.read, Operand.value?]
        cases depth == 0 && !glued && endsCap w <;> simp
      · simp [Reading.step, Doomed, readWord]
      · simp [Reading.step, Doomed, readWord]
  | symbol c =>
      rcases h with rfl | rfl | rfl
      · simp only [Reading.step, Doomed, readSymbol, Operand.value?]
        cases depth == 0 && c == ';' <;> simp
      · simp only [Reading.step, Doomed, readSymbol]
        cases depth == 0 && c == ';' <;> simp
      · simp [Reading.step, Doomed, readSymbol]
  | name _ => rcases h with rfl | rfl | rfl <;> simp [Reading.step, Doomed, readOther]
  | quoted _ _ => rcases h with rfl | rfl | rfl <;> simp [Reading.step, Doomed, readOther]
  | unclosed _ _ => simp [Reading.step, Doomed]

theorem Doomed.read {r : Reading} (h : r.Doomed) (ls : List Lexeme) : (r.read ls).Doomed := by
  induction ls generalizing r with
  | nil => exact h
  | cons l ls ih => exact ih (h.step l)

theorem Doomed.value? {r : Reading} (h : r.Doomed) : r.value? = none := by
  have hphase : r.phase.value? = none := by
    rcases h with h | h | h <;> simp [h, Phase.value?, Operand.value?]
  simp [Reading.value?, hphase]

end Reading

/-- The clause is past its number: another word leaves no number stated. -/
def Operand.Counted (o : Operand) : Prop := ∀ w, o.read w = .unstated

/-- The operand with another number, if it states one. -/
def Operand.setValue (n : Nat) : Operand → Operand
  | .stated _ => .stated n
  | o => o

theorem Operand.value?_setValue (n : Nat) (o : Operand) :
    (o.setValue n).value? = o.value?.map fun _ => n := by
  cases o <;> rfl

theorem Operand.Counted.setValue {o : Operand} (h : o.Counted) (n : Nat) :
    (o.setValue n).Counted := by
  cases o <;> exact h

theorem Operand.counted_stated (n : Nat) : (Operand.stated n).Counted := fun _ => rfl

theorem Operand.counted_unstated : Operand.unstated.Counted := fun _ => rfl

/-- A phase with another number. -/
def Phase.setValue (n : Nat) : Phase → Phase
  | .uncapped => .uncapped
  | .inCap o => .inCap (o.setValue n)
  | .later value => .later (value.map fun _ => n)
  | .ended value => .ended (value.map fun _ => n)

theorem Phase.value?_setValue (n : Nat) (phase : Phase) :
    (phase.setValue n).value? = phase.value?.map fun _ => n := by
  cases phase with
  | inCap o => exact o.value?_setValue n
  | _ => rfl

namespace Reading

/-- A reading past the number of its cap, if it has one. -/
def Counted (r : Reading) : Prop :=
  match r.phase with
  | .uncapped => False
  | .inCap o => o.Counted
  | .later _ => True
  | .ended _ => True

def setValue (n : Nat) (r : Reading) : Reading := ⟨r.depth, r.glued, r.phase.setValue n⟩

theorem value?_setValue (n : Nat) (r : Reading) :
    (r.setValue n).value? = r.value?.map fun _ => n := by
  simp only [value?, setValue, Phase.value?_setValue]
  split <;> rfl

/-- Past the number of the cap, the number itself does not matter. -/
theorem Counted.step {r : Reading} (h : r.Counted) (n : Nat) (l : Lexeme) :
    (r.step l).Counted ∧ (r.setValue n).step l = (r.step l).setValue n := by
  obtain ⟨depth, glued, phase⟩ := r
  cases l with
  | space _ => exact ⟨h, rfl⟩
  | word w =>
      cases phase with
      | uncapped => exact h.elim
      | inCap o =>
          have ho : o.Counted := h
          simp only [Counted, Reading.step, setValue, Phase.setValue, readWord, outermost, ho w,
            ho.setValue n w, Operand.value?_setValue]
          cases depth == 0 && !glued && endsCap w with
          | true => exact ⟨trivial, rfl⟩
          | false => exact ⟨Operand.counted_unstated, rfl⟩
      | later value =>
          simp only [Counted, Reading.step, setValue, Phase.setValue, readWord]
          cases depth == 0 && (startsCap w).isSome <;> exact ⟨trivial, rfl⟩
      | ended value => exact ⟨trivial, rfl⟩
  | symbol c =>
      cases phase with
      | uncapped => exact h.elim
      | inCap o =>
          simp only [Counted, Reading.step, setValue, Phase.setValue, readSymbol, depthAfter,
            Operand.value?_setValue]
          cases depth == 0 && c == ';' with
          | true => exact ⟨trivial, rfl⟩
          | false => exact ⟨Operand.counted_unstated, rfl⟩
      | later value =>
          simp only [Counted, Reading.step, setValue, Phase.setValue, readSymbol, depthAfter]
          cases depth == 0 && c == ';' <;> exact ⟨trivial, rfl⟩
      | ended value =>
          simp only [Counted, Reading.step, setValue, Phase.setValue, readSymbol, depthAfter]
          cases c == ';' <;> exact ⟨trivial, rfl⟩
  | name _ =>
      cases phase with
      | uncapped => exact h.elim
      | inCap o => exact ⟨Operand.counted_unstated, rfl⟩
      | later value => exact ⟨trivial, rfl⟩
      | ended value => exact ⟨trivial, rfl⟩
  | quoted _ _ =>
      cases phase with
      | uncapped => exact h.elim
      | inCap o => exact ⟨Operand.counted_unstated, rfl⟩
      | later value => exact ⟨trivial, rfl⟩
      | ended value => exact ⟨trivial, rfl⟩
  | unclosed _ _ => exact ⟨trivial, rfl⟩

theorem Counted.read {r : Reading} (h : r.Counted) (n : Nat) (ls : List Lexeme) :
    (r.setValue n).read ls = (r.read ls).setValue n := by
  induction ls generalizing r with
  | nil => rfl
  | cons l ls ih =>
      obtain ⟨hstep, hset⟩ := h.step n l
      rw [read_cons, read_cons, hset, ih hstep]

end Reading

/-- A phase without the numbers. -/
def Phase.blur : Phase → Phase
  | .uncapped => .uncapped
  | .inCap _ => .inCap .unstated
  | .later _ => .later none
  | .ended _ => .ended none

@[simp] theorem Phase.blur_inCap (o : Operand) : (Phase.inCap o).blur = .inCap .unstated := rfl

@[simp] theorem Phase.blur_later (value : Option Nat) : (Phase.later value).blur = .later none :=
  rfl

@[simp] theorem Phase.blur_ended (value : Option Nat) :
    (Phase.ended value).blur = .ended none := rfl

namespace Reading

def blur (r : Reading) : Reading := ⟨r.depth, r.glued, r.phase.blur⟩

theorem blur_readWord (r : Reading) (w : List Char) :
    (r.blur.readWord w).blur = (r.readWord w).blur := by
  obtain ⟨depth, glued, phase⟩ := r
  cases phase with
  | uncapped => rfl
  | inCap o =>
      simp only [readWord, blur, Phase.blur_inCap, outermost]
      cases depth == 0 && !glued && endsCap w <;> rfl
  | later value =>
      simp only [readWord, blur, Phase.blur_later]
      cases depth == 0 && (startsCap w).isSome <;> rfl
  | ended value => rfl

theorem blur_readSymbol (r : Reading) (c : Char) :
    (r.blur.readSymbol c).blur = (r.readSymbol c).blur := by
  obtain ⟨depth, glued, phase⟩ := r
  cases phase with
  | uncapped => rfl
  | inCap o =>
      simp only [readSymbol, blur, Phase.blur_inCap]
      cases depth == 0 && c == ';' <;> rfl
  | later value =>
      simp only [readSymbol, blur, Phase.blur_later]
      cases depth == 0 && c == ';' <;> rfl
  | ended value =>
      simp only [readSymbol, blur, Phase.blur_ended]
      cases c == ';' <;> rfl

theorem blur_step (r : Reading) (l : Lexeme) : (r.blur.step l).blur = (r.step l).blur := by
  cases l with
  | space _ => cases h : r.phase <;> simp [blur, step, Phase.blur, h]
  | word w =>
      have hword := r.blur_readWord w
      simp only [step, blur, hword] at hword ⊢
  | symbol c =>
      have hsymbol := r.blur_readSymbol c
      simp only [step, blur, depthAfter] at hsymbol ⊢
      rw [hsymbol]
  | name _ => cases h : r.phase <;> simp [blur, step, readOther, Phase.blur, h]
  | quoted _ _ => cases h : r.phase <;> simp [blur, step, readOther, Phase.blur, h]
  | unclosed _ _ => rfl

@[simp] theorem isCap_blur (phase : Phase) : phase.blur.isCap = phase.isCap := by
  cases phase <;> rfl

theorem hides_blur (r : Reading) (l : Lexeme) : r.blur.hides l = r.hides l := by
  cases l with
  | space _ => simp [hides, blur]
  | word w =>
      have hword := congrArg Phase.isCap (r.blur_readWord w)
      rw [isCap_blur, isCap_blur] at hword
      have hdepth : r.blur.depth = r.depth := rfl
      simp only [hides, hword, hdepth]
  | _ => rfl

/-- What is kept does not depend on the numbers. -/
theorem keep_blur (r : Reading) (ls : List Lexeme) : r.blur.keep ls = r.keep ls := by
  induction ls generalizing r with
  | nil => rfl
  | cons l ls ih =>
      have hstep : (r.blur.step l).keep ls = (r.step l).keep ls := by
        rw [← ih, blur_step, ih]
      simp only [keep, hides_blur, hstep]

theorem keep_congr {r r' : Reading} (h : r.blur = r'.blur) (ls : List Lexeme) :
    r.keep ls = r'.keep ls := by
  rw [← keep_blur, h, keep_blur]

end Reading

/-! ## Phrases -/

/-- A word that starts a cap when it may, and states nothing inside one. -/
structure CapWord (w : List Char) : Prop where
  endsCap_eq : endsCap w = false
  not_as : isKeyword "as" w = false
  read_eq : ∀ o : Operand, o.read w = .unstated

/-- A word that neither starts nor ends a cap, and makes no name of the next. -/
structure Inert (w : List Char) : Prop where
  startsCap_eq : startsCap w = none
  endsCap_eq : endsCap w = false
  not_as : isKeyword "as" w = false

theorem Phrase.lexemes_eq (p : Phrase) : p.lexemes = .word p.first :: spacedLexemes p.more := rfl

namespace Reading

variable {r : Reading} {more : List (List Char × List Char)}

theorem read_spacedLexemes_cons (r : Reading) (part : List Char × List Char) :
    r.read (spacedLexemes (part :: more)) =
      (r.step (.word part.2)).read (spacedLexemes more) := by
  simp [spacedLexemes]

/-- Inert words change nothing any more. -/
def Settled (r : Reading) : Prop :=
  r.glued = false ∧
    match r.phase with
    | .uncapped => True
    | .inCap o => o = .unstated
    | .later _ => True
    | .ended value => value = none

theorem Settled.step_inert (hr : r.Settled) {w : List Char} (hw : Inert w) :
    r.step (.word w) = r := by
  obtain ⟨depth, glued, phase⟩ := r
  obtain ⟨rfl, hphase⟩ := hr
  have hstarts := hw.startsCap_eq
  have hends := hw.endsCap_eq
  have has := hw.not_as
  cases phase with
  | uncapped => simp [step, readWord, hstarts, has]
  | inCap o =>
      have ho : o = .unstated := hphase
      simp [step, readWord, hends, has, ho, Operand.read]
  | later value => simp [step, readWord, hstarts, has]
  | ended value =>
      have hvalue : value = none := hphase
      simp [step, readWord, has, hvalue]

theorem Settled.hides_word (hr : r.Settled) {w : List Char} (hw : Inert w) :
    r.hides (.word w) = r.hides (.space ' ') := by
  have hphase : r.readWord w = r.phase := congrArg Reading.phase (hr.step_inert hw)
  simp only [hides, hphase]

theorem Settled.read_spacedLexemes (hr : r.Settled) (hmore : ∀ part ∈ more, Inert part.2) :
    r.read (spacedLexemes more) = r := by
  induction more with
  | nil => rfl
  | cons part more ih =>
      rw [read_spacedLexemes_cons, hr.step_inert (hmore part (by simp))]
      exact ih fun q hq => hmore q (by simp [hq])

/-- A word of a cap settles a reading, unless it starts the cap. -/
theorem settled_step {w : List Char} (hw : CapWord w)
    (hstart : r.phase = .uncapped → r.outermost = true → startsCap w = none) :
    (r.step (.word w)).Settled := by
  obtain ⟨depth, glued, phase⟩ := r
  have hends := hw.endsCap_eq
  have has := hw.not_as
  cases phase with
  | uncapped =>
      cases hout : outermost ⟨depth, glued, .uncapped⟩ with
      | true => simp [Settled, step, readWord, has, hout, hstart rfl hout]
      | false => simp [Settled, step, readWord, has, hout]
  | inCap o => simp [Settled, step, readWord, has, hends, hw.read_eq]
  | later value =>
      simp only [Settled, step, readWord, has, true_and]
      cases depth == 0 && (startsCap w).isSome <;> trivial
  | ended value => simp [Settled, step, readWord, has]

/-- A phrase is read by its first word. -/
theorem read_phrase {p : Phrase} (hfirst : CapWord p.first) (hmore : ∀ part ∈ p.more, Inert part.2)
    (hstart : r.phase = .uncapped → r.outermost = true → startsCap p.first = none) :
    r.read p.lexemes = r.step (.word p.first) := by
  rw [Phrase.lexemes_eq, read_cons]
  exact (settled_step hfirst hstart).read_spacedLexemes hmore

theorem keep_cons_of_hides {l : Lexeme} {ls : List Lexeme} (h : r.hides l = true) :
    r.keep (l :: ls) = (r.step l).keep ls := by
  simp [keep, h]

theorem keep_cons_of_not_hides {l : Lexeme} {ls : List Lexeme} (h : r.hides l = false) :
    r.keep (l :: ls) = l :: (r.step l).keep ls := by
  simp [keep, h]

/-- Spaces stay or go together. -/
theorem keep_spaces (r : Reading) (cs : List Char) :
    r.keep (cs.map .space) = if r.hides (.space ' ') then [] else cs.map .space := by
  induction cs with
  | nil => split <;> rfl
  | cons c cs ih =>
      have hsame : r.hides (.space c) = r.hides (.space ' ') := rfl
      rw [List.map_cons, keep, hsame, step_space, ih]
      split <;> rfl

/-- A reading in the outermost cap. -/
def InCap (r : Reading) : Prop := r.depth = 0 ∧ r.phase.isCap = true

/-- Inert words and their spaces belong to the cap they stand in. -/
theorem InCap.spacedLexemes (hr : r.InCap) (hglued : r.glued = false)
    (hmore : ∀ part ∈ more, Inert part.2) :
    r.keep (spacedLexemes more) = [] ∧ (r.read (spacedLexemes more)).InCap ∧
      (r.read (spacedLexemes more)).glued = false := by
  induction more generalizing r with
  | nil => exact ⟨rfl, hr, hglued⟩
  | cons part more ih =>
      obtain ⟨hdepth, hcap⟩ := hr
      have hinert := hmore part (by simp)
      have hword : (r.readWord part.2).isCap = true := by
        cases hphase : r.phase with
        | inCap o => simp [readWord, hphase, hinert.endsCap_eq, Phase.isCap]
        | _ => simp [hphase, Phase.isCap] at hcap
      have hstep : (r.step (.word part.2)).InCap := ⟨hdepth, hword⟩
      have hspaces : r.keep (part.1.map .space) = [] := by
        rw [keep_spaces, if_pos (by simp [hides, hdepth, hcap])]
      have hhides : r.hides (.word part.2) = true := by simp [hides, hdepth, hword]
      obtain ⟨hkeep, hread⟩ := ih hstep hinert.not_as fun q hq => hmore q (by simp [hq])
      refine ⟨?_, by rwa [read_spacedLexemes_cons]⟩
      have hsplit : DbGateway.Sql.spacedLexemes (part :: more) =
          part.1.map .space ++ .word part.2 :: DbGateway.Sql.spacedLexemes more := by
        simp [DbGateway.Sql.spacedLexemes]
      rw [hsplit, keep_append, hspaces, read_spaces, keep_cons_of_hides hhides, hkeep]
      rfl

theorem keep_phrase_of_hides {p : Phrase} (hfirst : CapWord p.first)
    (hmore : ∀ part ∈ p.more, Inert part.2) (h : r.hides (.word p.first) = true) :
    r.keep p.lexemes = [] ∧ (r.read p.lexemes).InCap ∧ (r.read p.lexemes).glued = false := by
  have hcap : r.depth = 0 ∧ (r.readWord p.first).isCap = true := by simpa [hides] using h
  have hstep : (r.step (.word p.first)).InCap := hcap
  obtain ⟨hkeep, hread⟩ := hstep.spacedLexemes hfirst.not_as hmore
  rw [Phrase.lexemes_eq, keep_cons_of_hides h]
  exact ⟨hkeep, hread⟩

/-- Inert words outside the cap stay. -/
theorem Settled.keep_spacedLexemes (hr : r.Settled) (hmore : ∀ part ∈ more, Inert part.2)
    (hvisible : r.depth = 0 → r.phase.isCap = false) :
    r.keep (spacedLexemes more) = spacedLexemes more := by
  induction more with
  | nil => rfl
  | cons part more ih =>
      have hinert := hmore part (by simp)
      have hstep := hr.step_inert hinert
      have hword : r.hides (.word part.2) = false := by
        have hphase : r.readWord part.2 = r.phase := congrArg Reading.phase hstep
        cases hdepth : r.depth == 0 with
        | false => simp [hides, hdepth]
        | true => simp [hides, hphase, hvisible (by simpa using hdepth)]
      have hspaces : r.keep (part.1.map .space) = part.1.map .space := by
        have hspace : r.hides (.space ' ') = false := by
          cases hdepth : r.depth == 0 with
          | false => simp [hides, hdepth]
          | true => simp [hides, hvisible (by simpa using hdepth)]
        rw [keep_spaces, if_neg (by simp [hspace])]
      have hsplit : DbGateway.Sql.spacedLexemes (part :: more) =
          part.1.map .space ++ .word part.2 :: DbGateway.Sql.spacedLexemes more := by
        simp [DbGateway.Sql.spacedLexemes]
      rw [hsplit, keep_append, hspaces, read_spaces, keep_cons_of_not_hides hword, hstep,
        ih fun q hq => hmore q (by simp [hq])]

/-- Where its first word is no part of the cap, a reading is read past a phrase. -/
theorem starts_of_not_hides {w : List Char} (h : r.hides (.word w) = false) :
    r.phase = .uncapped → r.outermost = true → startsCap w = none := by
  intro hphase hout
  have hdepth : r.depth = 0 := by
    simp [outermost] at hout
    exact hout.1
  cases hstarts : startsCap w with
  | none => rfl
  | some o => simp [hides, hdepth, readWord, hphase, hout, hstarts, Phase.isCap] at h

theorem keep_phrase_of_not_hides {p : Phrase} (hfirst : CapWord p.first)
    (hmore : ∀ part ∈ p.more, Inert part.2) (h : r.hides (.word p.first) = false) :
    r.keep p.lexemes = p.lexemes := by
  have hsettled := settled_step hfirst (starts_of_not_hides h)
  have hvisible : (r.step (.word p.first)).depth = 0 →
      (r.step (.word p.first)).phase.isCap = false := by
    intro hdepth
    have hdepth' : r.depth = 0 := hdepth
    have hword : (r.readWord p.first).isCap = false := by simpa [hides, hdepth'] using h
    exact hword
  rw [Phrase.lexemes_eq, keep_cons_of_not_hides h, hsettled.keep_spacedLexemes hmore hvisible]

/-- A word that is kept inside the outermost cap ends it. -/
theorem InCap.endsCap_of_keep (hr : r.InCap) {ls rest : List Lexeme} {w : List Char}
    (h : r.keep ls = .word w :: rest) : endsCap w = true := by
  induction ls generalizing r with
  | nil => cases h
  | cons l ls ih =>
      obtain ⟨hdepth, hcap⟩ := hr
      cases hhides : r.hides l with
      | false =>
          rw [keep_cons_of_not_hides hhides] at h
          obtain ⟨rfl, -⟩ := List.cons_eq_cons.mp h
          cases hphase : r.phase with
          | inCap o =>
              by_contra hends
              have hends' : endsCap w = false := by simpa using hends
              simp [hides, hdepth, readWord, hphase, hends', Phase.isCap] at hhides
          | _ => simp [hphase, Phase.isCap] at hcap
      | true =>
          rw [keep_cons_of_hides hhides] at h
          cases l with
          | space c => exact ih ⟨hdepth, hcap⟩ h
          | word w' =>
              have hword : (r.readWord w').isCap = true := by simpa [hides, hdepth] using hhides
              have hstep : (r.step (.word w')).InCap := ⟨hdepth, hword⟩
              exact ih hstep h
          | _ => simp [hides] at hhides

/-- Where no cap can stand, it does not matter which phrase of a cap stands. -/
theorem read_phrase_of_not_takesCap {p : Phrase} (h : r.takesCap = false)
    (hfirst : CapWord p.first) (hmore : ∀ part ∈ p.more, Inert part.2) :
    r.read p.lexemes = ⟨r.depth, false, match r.phase with
      | .uncapped => .uncapped
      | .inCap _ => .inCap .unstated
      | .later value => .later value
      | .ended _ => .ended none⟩ := by
  obtain ⟨depth, glued, phase⟩ := r
  have has := hfirst.not_as
  have hends := hfirst.endsCap_eq
  cases phase with
  | uncapped =>
      have hout : outermost ⟨depth, glued, .uncapped⟩ = false := by
        simpa [takesCap, outermost] using h
      rw [read_phrase hfirst hmore fun _ hout' => by simp [hout] at hout']
      simp [step, readWord, hout, has]
  | inCap o =>
      rw [read_phrase hfirst hmore fun hphase => by cases hphase]
      simp [step, readWord, hends, has, hfirst.read_eq o]
  | later value =>
      have hdepth : (depth == 0) = false := by simpa [takesCap] using h
      rw [read_phrase hfirst hmore fun hphase => by cases hphase]
      simp [step, readWord, hdepth, has]
  | ended value =>
      rw [read_phrase hfirst hmore fun hphase => by cases hphase]
      simp [step, readWord, has]

/-- A second cap is none. -/
theorem doomed_read_phrase {p : Phrase} {o : Operand} (h : r.takesCap = true)
    (hphase : r.phase ≠ .uncapped) (hfirst : CapWord p.first)
    (hmore : ∀ part ∈ p.more, Inert part.2) (hstarts : startsCap p.first = some o) :
    (r.read p.lexemes).Doomed := by
  obtain ⟨depth, glued, phase⟩ := r
  have hdepth : (depth == 0) = true := by
    rw [takesCap, Bool.and_eq_true] at h
    exact h.1
  rw [read_phrase hfirst hmore fun h => absurd h hphase]
  cases phase with
  | uncapped => exact absurd rfl hphase
  | inCap o => simp [Doomed, step, readWord, hfirst.endsCap_eq, hfirst.read_eq]
  | later value => simp [Doomed, step, readWord, hdepth, hstarts]
  | ended value => simp [Doomed, step, readWord]

theorem InCap.blur_eq (h : r.InCap) (hglued : r.glued = false) :
    r.blur = ⟨0, false, .inCap .unstated⟩ := by
  obtain ⟨depth, glued, phase⟩ := r
  obtain ⟨rfl, hcap⟩ := h
  obtain rfl : glued = false := hglued
  cases phase with
  | inCap o => rfl
  | _ => cases hcap

end Reading

end DbGateway.Sql
