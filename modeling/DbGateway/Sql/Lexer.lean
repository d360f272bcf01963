import DbGateway.Re.Matches

/-!
# DbGateway.Sql.Lexer

A statement as PostgreSQL reads it: words, identifiers with a dollar sign,
quoted texts, symbols and the space between them.  Nothing is lost, so a text is
its lexemes one after the other.

A quoted text stands between quotes, a quote in it doubled, or between dollar
signs with a tag; in `E'...'` a backslash takes the meaning from the next
character.  Comments, which the safety checker refuses, are read as symbols and
words.

The lexer is a machine with one step for each character, so what it makes of a
text can be cut wherever a lexeme ends.
-/

namespace DbGateway.Sql

open Re

/-! ## Lexemes -/

/-- What a quoted text stands between. -/
inductive Delimiter where
  /-- `'...'` -/
  | single
  /-- `"..."` -/
  | double
  /-- `E'...'`, with its letter. -/
  | escape (letter : Char)
  /-- `$tag$...$tag$` -/
  | dollar (tag : List Char)
deriving DecidableEq

namespace Delimiter

def opening : Delimiter → List Char
  | .single => ['\'']
  | .double => ['"']
  | .escape letter => [letter, '\'']
  | .dollar tag => '$' :: (tag ++ ['$'])

def closing : Delimiter → List Char
  | .double => ['"']
  | .dollar tag => '$' :: (tag ++ ['$'])
  | _ => ['\'']

/-- A closing quote is doubled inside. -/
def doubles : Delimiter → Bool
  | .dollar _ => false
  | _ => true

/-- A backslash takes the meaning from the next character. -/
def escapes : Delimiter → Bool
  | .escape _ => true
  | _ => false

end Delimiter

inductive Lexeme where
  | space (c : Char)
  /-- A keyword, an identifier or a number. -/
  | word (w : List Char)
  /-- An identifier with a dollar sign. -/
  | name (w : List Char)
  /-- A string literal or a quoted identifier. -/
  | quoted (d : Delimiter) (content : List Char)
  | symbol (c : Char)
  /-- A quoted text that does not end. -/
  | unclosed (d : Delimiter) (content : List Char)
deriving DecidableEq

/-- A lexeme as it stands in the text. -/
def Lexeme.text : Lexeme → List Char
  | .space c => [c]
  | .word w => w
  | .name w => w
  | .quoted d content => d.opening ++ (content ++ d.closing)
  | .symbol c => [c]
  | .unclosed d content => d.opening ++ content

/-! ## The machine -/

/-- Where the lexer is in a quoted text. -/
inductive Point where
  /-- This much of the closing delimiter has been read. -/
  | inside (read : List Char)
  /-- After a backslash. -/
  | escaped
deriving DecidableEq

/-- What has been read and may not belong to the contents. -/
def Point.text : Point → List Char
  | .inside read => read
  | .escaped => []

/-- One character of a quoted text: what it adds to the contents, and where the lexer is
then.  `none` where the text has ended before it. -/
def Delimiter.next (d : Delimiter) (point : Point) (c : Char) : Option (List Char × Point) :=
  match point with
  | .escaped => some ([c], .inside [])
  | .inside read =>
      if read = d.closing then
        if d.doubles ∧ [c] = d.closing then some ([c, c], .inside []) else none
      else if read ++ [c] <+: d.closing then some ([], .inside (read ++ [c]))
      else if d.escapes ∧ c = '\\' then some (read ++ [c], .escaped)
      else if [c] <+: d.closing then some (read, .inside [c])
      else some (read ++ [c], .inside [])

/-- Where the lexer is. -/
inductive Mode where
  | code
  | word (w : List Char)
  | name (w : List Char)
  /-- After a dollar sign and what may be the tag of a quoted text. -/
  | tag (t : List Char)
  | quoted (d : Delimiter) (content : List Char) (point : Point)
deriving DecidableEq

/-- What follows a dollar sign that opens no quoted text is read again. -/
def Mode.again : List Char → Mode
  | [] => .code
  | c :: t => .word (c :: t)

/-- The lexemes that end with the text. -/
def Mode.flush : Mode → List Lexeme
  | .code => []
  | .word w => [.word w]
  | .name w => [.name w]
  | .tag [] => [.symbol '$']
  | .tag (c :: t) => [.symbol '$', .word (c :: t)]
  | .quoted d content point =>
      if point = .inside d.closing then [.quoted d content]
      else [.unclosed d (content ++ point.text)]

/-- A dollar sign or a tag may follow. -/
def startsName (w : List Char) : Bool := w.head?.any fun c => !c.isDigit

/-- The letter of an escape string in front of its quote. -/
def escapeLetter : List Char → Option Char
  | [letter] => if letter = 'e' ∨ letter = 'E' then some letter else none
  | _ => none

section

variable [Python]

/-- The first character of a lexeme. -/
def begin (c : Char) : List Lexeme × Mode :=
  if isSpace c then ([.space c], .code)
  else if isWord c then ([], .word [c])
  else if c = '\'' then ([], .quoted .single [] (.inside []))
  else if c = '"' then ([], .quoted .double [] (.inside []))
  else if c = '$' then ([], .tag [])
  else ([.symbol c], .code)

/-- Where the lexeme goes on with a character. -/
def Mode.next (m : Mode) (c : Char) : Option Mode :=
  match m with
  | .code => none
  | .word w =>
      if isWord c then some (.word (w ++ [c]))
      else if c = '$' ∧ startsName w then some (.name (w ++ [c]))
      else if c = '\'' then (escapeLetter w).map fun l => .quoted (.escape l) [] (.inside [])
      else none
  | .name w => if isWord c ∨ c = '$' then some (.name (w ++ [c])) else none
  | .tag t =>
      if c = '$' then some (.quoted (.dollar t) [] (.inside []))
      else if isWord c ∧ startsName (t ++ [c]) then some (.tag (t ++ [c]))
      else none
  | .quoted d content point =>
      (d.next point c).map fun part => .quoted d (content ++ part.1) part.2

/-- A character after the end of the lexeme. -/
def Mode.cut (m : Mode) (c : Char) : List Lexeme × Mode := (m.flush ++ (begin c).1, (begin c).2)

def Mode.goOn (m : Mode) (c : Char) : List Lexeme × Mode := (m.next c).elim (m.cut c) ([], ·)

/-- One character: the lexemes it completes. -/
def Mode.step (m : Mode) (c : Char) : List Lexeme × Mode :=
  match m with
  | .tag t =>
      if (Mode.tag t).next c = none then
        (.symbol '$' :: ((Mode.again t).goOn c).1, ((Mode.again t).goOn c).2)
      else (Mode.tag t).goOn c
  | m => m.goOn c

/-- The lexemes of a text, from where the lexer is. -/
def lexFrom : Mode → List Char → List Lexeme
  | m, [] => m.flush
  | m, c :: cs => (m.step c).1 ++ lexFrom (m.step c).2 cs

def lex (cs : List Char) : List Lexeme := lexFrom .code cs

/-- Where the lexer is after a text. -/
def Mode.after : Mode → List Char → Mode
  | m, [] => m
  | m, c :: cs => (m.step c).2.after cs

/-- Inside a quoted text. -/
def Mode.inQuotes : Mode → Bool
  | .quoted d _ point => decide (point ≠ .inside d.closing)
  | _ => false

/-- A text that leaves a quote open. -/
def quoteOpen (cs : List Char) : Bool := (Mode.code.after cs).inQuotes

/-- A text that ends with an identifier with a dollar sign, which a word goes on with. -/
def nameOpen (cs : List Char) : Bool :=
  match Mode.code.after cs with
  | .name _ => true
  | _ => false

/-- The lexemes a text completes. -/
def Mode.completed : Mode → List Char → List Lexeme
  | _, [] => []
  | m, c :: cs => (m.step c).1 ++ (m.step c).2.completed cs

/-! ## Cutting a text -/

theorem lexFrom_append (m : Mode) (as bs : List Char) :
    lexFrom m (as ++ bs) = m.completed as ++ lexFrom (m.after as) bs := by
  induction as generalizing m with
  | nil => rfl
  | cons c as ih => simp [lexFrom, Mode.completed, Mode.after, ih]

theorem lexFrom_eq (m : Mode) (cs : List Char) :
    lexFrom m cs = m.completed cs ++ (m.after cs).flush := by
  simpa [lexFrom] using lexFrom_append m cs []

@[simp] theorem Mode.after_append (m : Mode) (as bs : List Char) :
    m.after (as ++ bs) = (m.after as).after bs := by
  induction as generalizing m with
  | nil => rfl
  | cons c as ih => simp [Mode.after, ih]

theorem Mode.goOn_of_next {m m' : Mode} {c : Char} (h : m.next c = some m') :
    m.goOn c = ([], m') := by
  simp [Mode.goOn, h]

theorem Mode.goOn_of_none {m : Mode} {c : Char} (h : m.next c = none) : m.goOn c = m.cut c := by
  simp [Mode.goOn, h]

theorem Mode.step_of_next {m m' : Mode} {c : Char} (h : m.next c = some m') :
    m.step c = ([], m') := by
  rw [← Mode.goOn_of_next h]
  cases m with
  | tag t => simp [Mode.step, h]
  | _ => rfl

/-- Except behind a dollar sign, a lexeme that does not go on has ended. -/
theorem Mode.step_of_none {m : Mode} {c : Char} (hm : ∀ t, m ≠ .tag t) (h : m.next c = none) :
    m.step c = m.cut c := by
  rw [← Mode.goOn_of_none h]
  cases m with
  | tag t => exact absurd rfl (hm t)
  | _ => rfl

theorem Mode.step_tag {t : List Char} {c : Char} (h : (Mode.tag t).next c = none) :
    (Mode.tag t).step c =
      (.symbol '$' :: ((Mode.again t).step c).1, ((Mode.again t).step c).2) := by
  have hagain : (Mode.again t).step c = (Mode.again t).goOn c := by
    cases t <;> rfl
  rw [hagain]
  exact if_pos h

theorem lexFrom_of_next {m m' : Mode} {c : Char} (h : m.next c = some m') (cs : List Char) :
    lexFrom m (c :: cs) = lexFrom m' cs := by
  rw [lexFrom, Mode.step_of_next h]
  rfl

/-- A lexeme ends here. -/
def Mode.Breaks (m : Mode) (rest : List Char) : Prop := ∀ c ∈ rest.head?, m.step c = m.cut c

theorem Mode.breaks_nil (m : Mode) : m.Breaks [] := by simp [Mode.Breaks]

theorem Mode.step_code (c : Char) : Mode.code.step c = begin c :=
  (Mode.step_of_none (fun _ => Mode.noConfusion) rfl).trans (by rw [Mode.cut]; rfl)

theorem lex_cons (c : Char) (cs : List Char) :
    lex (c :: cs) = (begin c).1 ++ lexFrom (begin c).2 cs := by
  rw [lex, lexFrom, Mode.step_code]

theorem lexFrom_of_breaks {m : Mode} {rest : List Char} (h : m.Breaks rest) :
    lexFrom m rest = m.flush ++ lex rest := by
  cases rest with
  | nil => simp [lexFrom, lex, Mode.flush]
  | cons c rest =>
      have hc : m.step c = m.cut c := h c rfl
      rw [lexFrom, hc, Mode.cut, lex_cons, List.append_assoc]

theorem lex_append {as bs : List Char} (h : (Mode.code.after as).Breaks bs) :
    lex (as ++ bs) = lex as ++ lex bs := by
  have hlex : lex as = Mode.code.completed as ++ (Mode.code.after as).flush := lexFrom_eq _ as
  rw [hlex, lex, lexFrom_append, lexFrom_of_breaks h, List.append_assoc]

/-! ## Nothing is lost -/

/-- The text of the lexeme the lexer is in. -/
def Mode.pending : Mode → List Char
  | .code => []
  | .word w => w
  | .name w => w
  | .tag t => '$' :: t
  | .quoted d content point => d.opening ++ (content ++ point.text)

omit [Python] in
theorem Mode.flatMap_text_flush (m : Mode) : m.flush.flatMap Lexeme.text = m.pending := by
  cases m with
  | tag t => cases t <;> simp [Mode.flush, Mode.pending, Lexeme.text]
  | quoted d content point =>
      simp only [Mode.flush]
      split_ifs with h <;> simp [h, Mode.pending, Lexeme.text, Point.text]
  | _ => simp [Mode.flush, Mode.pending, Lexeme.text]

omit [Python] in
theorem Mode.pending_again (t : List Char) : (Mode.again t).pending = t := by
  cases t <;> rfl

theorem begin_text (c : Char) :
    (begin c).1.flatMap Lexeme.text ++ (begin c).2.pending = [c] := by
  simp only [begin]
  split_ifs <;> simp_all [Mode.pending, Lexeme.text, Delimiter.opening, Point.text]

omit [Python] in
/-- What is read of a quoted text is in the contents or is the point. -/
theorem Delimiter.next_text {d : Delimiter} {point : Point} {c : Char} {part : List Char × Point}
    (h : d.next point c = some part) : part.1 ++ part.2.text = point.text ++ [c] := by
  cases point with
  | escaped =>
      obtain rfl := Option.some.inj h
      rfl
  | inside read =>
      simp only [Delimiter.next] at h
      split_ifs at h with hclosed hdouble hgoes hescape hopens
      all_goals obtain rfl := Option.some.inj h
      · simp [Point.text, hclosed, ← hdouble.2]
      · rfl
      all_goals simp [Point.text]

omit [Python] in
theorem escapeLetter_eq_some {w : List Char} {l : Char} (h : escapeLetter w = some l) :
    w = [l] ∧ (l = 'e' ∨ l = 'E') := by
  unfold escapeLetter at h
  split at h
  · obtain ⟨hl, rfl⟩ : _ ∧ _ = l := by simpa using h
    exact ⟨rfl, hl⟩
  · cases h

theorem Mode.pending_next {m m' : Mode} {c : Char} (h : m.next c = some m') :
    m'.pending = m.pending ++ [c] := by
  cases m with
  | code => cases h
  | word w =>
      simp only [Mode.next] at h
      split_ifs at h with hword hname hquote
      · obtain rfl := Option.some.inj h
        rfl
      · obtain rfl := Option.some.inj h
        rfl
      · obtain ⟨l, hl, rfl⟩ := Option.map_eq_some_iff.mp h
        obtain ⟨rfl, -⟩ := escapeLetter_eq_some hl
        simp [Mode.pending, Delimiter.opening, Point.text, hquote]
  | name w =>
      simp only [Mode.next] at h
      split_ifs at h
      obtain rfl := Option.some.inj h
      rfl
  | tag t =>
      simp only [Mode.next] at h
      split_ifs at h with hdollar
      · obtain rfl := Option.some.inj h
        simp [Mode.pending, Delimiter.opening, Point.text, hdollar]
      · obtain rfl := Option.some.inj h
        rfl
  | quoted d content point =>
      obtain ⟨part, hpart, rfl⟩ := Option.map_eq_some_iff.mp h
      simp [Mode.pending, Delimiter.next_text hpart]

theorem Mode.pending_cut (m : Mode) (c : Char) :
    (m.cut c).1.flatMap Lexeme.text ++ (m.cut c).2.pending = m.pending ++ [c] := by
  rw [Mode.cut, List.flatMap_append, List.append_assoc, begin_text, Mode.flatMap_text_flush]

theorem Mode.pending_step (m : Mode) (c : Char) :
    (m.step c).1.flatMap Lexeme.text ++ (m.step c).2.pending = m.pending ++ [c] := by
  have hplain : ∀ m : Mode, (∀ t, m ≠ .tag t) →
      (m.step c).1.flatMap Lexeme.text ++ (m.step c).2.pending = m.pending ++ [c] := by
    intro m hm
    cases h : m.next c with
    | some m' => rw [Mode.step_of_next h, List.flatMap_nil, List.nil_append, Mode.pending_next h]
    | none => rw [Mode.step_of_none hm h, Mode.pending_cut]
  cases m with
  | tag t =>
      cases h : (Mode.tag t).next c with
      | some m' => rw [Mode.step_of_next h, List.flatMap_nil, List.nil_append, Mode.pending_next h]
      | none =>
          have hagain := hplain (Mode.again t) fun u => by cases t <;> exact Mode.noConfusion
          rw [Mode.pending_again] at hagain
          rw [Mode.step_tag h, List.flatMap_cons, List.append_assoc, hagain]
          rfl
  | _ => exact hplain _ fun _ => Mode.noConfusion

theorem flatMap_text_lexFrom (m : Mode) (cs : List Char) :
    (lexFrom m cs).flatMap Lexeme.text = m.pending ++ cs := by
  induction cs generalizing m with
  | nil => simp [lexFrom, Mode.flatMap_text_flush]
  | cons c cs ih =>
      have hstep := m.pending_step c
      rw [lexFrom, List.flatMap_append, ih, ← List.append_assoc, hstep]
      simp

/-- A text is its lexemes. -/
@[simp] theorem flatMap_text_lex (cs : List Char) : (lex cs).flatMap Lexeme.text = cs :=
  flatMap_text_lexFrom .code cs

theorem lex_injective {as bs : List Char} (h : lex as = lex bs) : as = bs := by
  rw [← flatMap_text_lex as, ← flatMap_text_lex bs, h]

end

end DbGateway.Sql
