import DbGateway.Sql.Quoted

/-!
# DbGateway.Sql.Tokens

Texts whose quotes close, the parentheses of a text, and where a symbol cuts it.
-/

namespace DbGateway.Sql

open Re

def Lexeme.isWord : Lexeme → Bool
  | .word _ => true
  | _ => false

/-- The parentheses that are open after a lexeme. -/
def Lexeme.depthAfter (depth : Nat) (l : Lexeme) : Nat :=
  if l = .symbol '(' then depth + 1 else if l = .symbol ')' then depth - 1 else depth

def Lexeme.isUnclosed : Lexeme → Bool
  | .unclosed _ _ => true
  | _ => false

section

variable (c : Char) (d : Delimiter) (w content : List Char)

@[simp] theorem Lexeme.isUnclosed_space : (Lexeme.space c).isUnclosed = false := rfl

@[simp] theorem Lexeme.isUnclosed_word : (Lexeme.word w).isUnclosed = false := rfl

@[simp] theorem Lexeme.isUnclosed_name : (Lexeme.name w).isUnclosed = false := rfl

@[simp] theorem Lexeme.isUnclosed_quoted : (Lexeme.quoted d content).isUnclosed = false := rfl

@[simp] theorem Lexeme.isUnclosed_symbol : (Lexeme.symbol c).isUnclosed = false := rfl

@[simp] theorem Lexeme.isUnclosed_unclosed : (Lexeme.unclosed d content).isUnclosed = true := rfl

end

section

variable [Python]

/-- Every quoted text of a text is closed. -/
def closed (cs : List Char) : Bool := (lex cs).all fun l => !l.isUnclosed

theorem quoteOpen_of_closed {cs : List Char} (h : closed cs = true) : quoteOpen cs = false := by
  rw [closed, lex, lexFrom_eq, List.all_append, Bool.and_eq_true] at h
  cases hmode : Mode.code.after cs with
  | quoted d content point =>
      by_contra hopen
      have hpoint : point ≠ .inside d.closing := by
        simpa [quoteOpen, hmode, Mode.inQuotes] using hopen
      simp [hmode, Mode.flush, hpoint] at h
  | _ => simp [quoteOpen, hmode, Mode.inQuotes]

theorem lex_symbol {c : Char} (hspace : isSpace c = false) (hword : isWord c = false)
    (hdelimits : delimits c = false) (rest : List Char) :
    lex (c :: rest) = .symbol c :: lex rest := by
  have hnot := mt delimits_iff.mpr (Bool.eq_false_iff.mp hdelimits)
  simp only [not_or] at hnot
  rw [lex_cons, begin_symbol hspace hword (by simp [isQuote, hnot]) hnot.2.2.1]
  rfl

/-- A symbol that opens nothing cuts a text outside quotes. -/
theorem lex_append_symbol {as : List Char} (has : quoteOpen as = false) {c : Char}
    (hspace : isSpace c = false) (hword : isWord c = false) (hdelimits : delimits c = false)
    (bs : List Char) : lex (as ++ c :: bs) = lex as ++ .symbol c :: lex bs := by
  have hbreaks : (Mode.code.after as).Breaks (c :: bs) :=
    Mode.breaks_of_head has (by simpa using ⟨hword, hdelimits⟩)
  rw [lex_append hbreaks, lex_symbol hspace hword hdelimits]

end

end DbGateway.Sql
