import DbGateway.Sql.Tokens

/-!
# DbGateway.Sql.Layout

Texts with the same tokens: what separates the tokens and what is in the string
literals may differ.  A token sequence is written out with any separator and any
literals, and a text that is looked for in a statement is found in one of its
tokens, in a string literal, or across one space.
-/

namespace DbGateway.Sql

open Re

/-- A lexeme as a token.  Spaces are none, and of a string literal the contents
are left out. -/
def Lexeme.token? : Lexeme → Option Lexeme
  | .space _ => none
  | .quoted d content => some (.quoted d (if d = .double then content else []))
  | l => some l

@[simp] theorem Lexeme.token?_space (c : Char) : (Lexeme.space c).token? = none := rfl

/-- A token with its contents if it is a string literal. -/
def Lexeme.load (fill : Delimiter → List Char) : Lexeme → Lexeme
  | .quoted d old => .quoted d (if d = .double then old else fill d)
  | l => l

/-- The string literal in single quotes among the tokens. -/
def stringToken : Lexeme := .quoted .single []

/-- A string literal between dollar signs, or with backslashes. -/
def Lexeme.isExtended : Lexeme → Bool
  | .quoted d _ => !d.standard
  | _ => false

/-- Some tokens as a text, with a separator between them and contents for the string
literals. -/
def layout (sep : Char) (fill : Delimiter → List Char) : List Lexeme → List Char
  | [] => []
  | [t] => (t.load fill).text
  | t :: ts => (t.load fill).text ++ sep :: layout sep fill ts

/-- A text stands in a token. -/
def Fixed (p : List Char) (ts : List Lexeme) : Prop := ∃ t ∈ ts, p <:+: t.text

/-- A text stands across two tokens, with one space between them. -/
def Spans (p : List Char) (ts : List Lexeme) : Prop :=
  ∃ a b pre x y post, p = a ++ ' ' :: b ∧ ts = pre ++ x :: y :: post ∧ a <:+ x.text ∧ b <+: y.text

section

variable [Python]

/-- The tokens of a text whose quotes close. -/
def tokenSequence (cs : List Char) : Option (List Lexeme) :=
  if closed cs then some ((lex cs).filterMap Lexeme.token?) else none

/-- A lexeme that is a token. -/
structure Lexeme.IsToken (t : Lexeme) : Prop where
  proper : t.Proper
  not_isUnclosed : t.isUnclosed = false
  token?_eq : t.token? = some t

/-- Contents for string literals that are read as they stand. -/
def Readable (fill : Delimiter → List Char) : Prop := ∀ d : Delimiter, d.Proper → d.Reads (fill d)

/-- A text to look for: a word, a symbol, or a word, a space and what may start
the next token. -/
inductive Needle : List Char → Prop
  | word {p : List Char} (hne : p ≠ []) (hp : ∀ c ∈ p, isWord c = true) : Needle p
  | symbol {c : Char} (hspace : isSpace c = false) (hword : isWord c = false)
      (hdelimits : delimits c = false) : Needle [c]
  | phrase {a b : List Char} (hne : a ≠ []) (ha : ∀ c ∈ a, isWord c = true)
      (hb : ∀ c ∈ b, isWord c = true) : Needle (a ++ ' ' :: b)

variable [PythonTables]

omit [PythonTables] in
theorem tokenSequence_eq_some {cs : List Char} {ts : List Lexeme} :
    tokenSequence cs = some ts ↔ closed cs = true ∧ (lex cs).filterMap Lexeme.token? = ts := by
  simp [tokenSequence]

/-! ## Laying out -/

omit [Python] [PythonTables] in
@[simp] theorem Lexeme.token?_load (fill : Delimiter → List Char) (t : Lexeme) :
    (t.load fill).token? = t.token? := by
  cases t with
  | quoted d old => by_cases h : d = .double <;> simp [load, token?, h]
  | _ => rfl

omit [Python] [PythonTables] in
@[simp] theorem Lexeme.isUnclosed_load (fill : Delimiter → List Char) (t : Lexeme) :
    (t.load fill).isUnclosed = t.isUnclosed := by
  cases t <;> rfl

theorem isToken_of_mem {cs : List Char} {ts : List Lexeme} (h : tokenSequence cs = some ts)
    {t : Lexeme} (ht : t ∈ ts) : t.IsToken := by
  obtain ⟨hclosed, rfl⟩ := tokenSequence_eq_some.mp h
  obtain ⟨l, hl, htoken⟩ := List.mem_filterMap.mp ht
  have hproper := proper_of_mem_lex hl
  have hopen : l.isUnclosed = false := by simpa using List.all_eq_true.mp hclosed l hl
  cases l with
  | space c => cases htoken
  | unclosed d content => cases hopen
  | quoted d content =>
      obtain rfl := Option.some.inj htoken
      refine ⟨⟨hproper.1, fun hd => ?_⟩, rfl, ?_⟩
      · split
        · exact hproper.2 hd
        · exact .nil
      · by_cases hd : d = .double <;> simp [Lexeme.token?, hd]
  | _ =>
      obtain rfl := Option.some.inj htoken
      exact ⟨hproper, rfl, rfl⟩

omit [Python] [PythonTables] in
theorem Delimiter.closing_ne_of_isSpace (d : Delimiter) {c : Char} (hc : isSpace c = true) :
    [c] ≠ d.closing := fun h =>
  (d.not_prefix_closing [] (not_delimits_of_isSpace hc)).1 h

/-- An identifier with a dollar sign ends in front of a space. -/
theorem lex_name {w : List Char} (hw : IsName w) {rest : List Char}
    (hrest : ∀ c ∈ rest.head?, isSpace c = true) : lex (w ++ rest) = .name w :: lex rest := by
  obtain ⟨u, v, rfl, hstarts, hu, hv⟩ := hw
  have hne : u ≠ [] := by
    rintro rfl
    cases hstarts
  have hnext : (Mode.word u).next '$' = some (.name (u ++ ['$'])) := by
    simp [Mode.next, not_isWord_of_delimits (c := '$') (by decide), hstarts]
  have hbreaks : (Mode.name (u ++ ['$'] ++ v)).Breaks rest := Mode.breaks_of_head rfl fun c hc =>
    ⟨not_isWord_of_isSpace (hrest c hc), not_delimits_of_isSpace (hrest c hc)⟩
  rw [List.append_assoc, lex_word_append hne hu, List.cons_append, lexFrom_of_next hnext,
    lexFrom_name _ hv, lexFrom_of_breaks hbreaks]
  simp [Mode.flush]

/-- A lexeme ends in front of a space. -/
theorem lex_text_append {l : Lexeme} (hl : l.Proper) (hclosed : l.isUnclosed = false)
    (hreads : ∀ d content, l = .quoted d content → d.Reads content) {rest : List Char}
    (hrest : ∀ c ∈ rest.head?, isSpace c = true) : lex (l.text ++ rest) = l :: lex rest := by
  have hends : ∀ m : Mode, m.inQuotes = false → m.Breaks rest := fun m hm =>
    Mode.breaks_of_head hm fun c hc =>
      ⟨not_isWord_of_isSpace (hrest c hc), not_delimits_of_isSpace (hrest c hc)⟩
  cases l with
  | space c =>
      rw [Lexeme.text, List.singleton_append, lex_cons, begin_space hl]
      rfl
  | word w =>
      rw [Lexeme.text, lex_word_append hl.1 hl.2, lexFrom_of_breaks (hends _ rfl)]
      rfl
  | name w => exact lex_name hl hrest
  | unclosed d content => cases hclosed
  | symbol c =>
      rw [Lexeme.text, List.singleton_append, lex_cons]
      by_cases hdollar : c = '$'
      · have hbegin : begin c = ([], .tag []) := by
          have hquote := hl.2.2
          subst hdollar
          simp [begin, hl.1, hl.2.1]
        rw [hbegin, List.nil_append, lexFrom_of_breaks (hends _ rfl), hdollar]
        rfl
      · rw [begin_symbol hl.1 hl.2.1 hl.2.2 hdollar]
        rfl
  | quoted d content =>
      exact lex_quoted hl.1 (hreads d content rfl) fun c hc => d.closing_ne_of_isSpace (hrest c hc)

variable {sep : Char} {fill : Delimiter → List Char} {ts : List Lexeme}

theorem Lexeme.IsToken.lex_load {t : Lexeme} (ht : t.IsToken) (hfill : Readable fill)
    {rest : List Char} (hrest : ∀ c ∈ rest.head?, isSpace c = true) :
    lex ((t.load fill).text ++ rest) = t.load fill :: lex rest := by
  cases t with
  | quoted d old =>
      by_cases hd : d = .double
      · have hload : (Lexeme.quoted d old).load fill = .quoted d old := by simp [load, hd]
        rw [hload]
        refine lex_text_append ht.proper rfl (fun d' content h => ?_) hrest
        obtain ⟨rfl, rfl⟩ : d = d' ∧ old = content := by simpa using h
        exact (ht.proper.2 (by simp [hd, Delimiter.standard])).reads
      · have hload : (Lexeme.quoted d old).load fill = .quoted d (fill d) := by simp [load, hd]
        rw [hload]
        exact lex_quoted ht.proper.1 (hfill d ht.proper.1) fun c hc =>
          d.closing_ne_of_isSpace (hrest c hc)
  | _ => exact lex_text_append ht.proper ht.not_isUnclosed (fun _ _ h => by cases h) hrest

theorem lex_layout (hsep : isSpace sep = true) (hfill : Readable fill) (h : ∀ t ∈ ts, t.IsToken) :
    lex (layout sep fill ts) = (ts.map (Lexeme.load fill)).intersperse (.space sep) := by
  induction ts with
  | nil => rfl
  | cons t ts ih =>
      obtain ⟨ht, hts⟩ := List.forall_mem_cons.mp h
      cases ts with
      | nil =>
          have hlex : lex ((t.load fill).text ++ []) = t.load fill :: lex [] :=
            ht.lex_load hfill (by simp)
          rw [List.append_nil] at hlex
          exact hlex
      | cons t' ts =>
          have hhead : lex ((t.load fill).text ++ sep :: layout sep fill (t' :: ts)) =
              t.load fill :: lex (sep :: layout sep fill (t' :: ts)) :=
            ht.lex_load hfill (by simpa using hsep)
          rw [lex_cons, begin_space hsep, List.singleton_append] at hhead
          exact hhead.trans (congrArg (fun ls => t.load fill :: .space sep :: ls) (ih hts))

theorem tokenSequence_layout (hsep : isSpace sep = true) (hfill : Readable fill)
    (h : ∀ t ∈ ts, t.IsToken) : tokenSequence (layout sep fill ts) = some ts := by
  have hall : ((ts.map (Lexeme.load fill)).intersperse (.space sep)).all
      (fun l => !l.isUnclosed) = true ∧
      ((ts.map (Lexeme.load fill)).intersperse (.space sep)).filterMap Lexeme.token? = ts := by
    clear hsep
    induction ts with
    | nil => exact ⟨rfl, rfl⟩
    | cons t ts ih =>
        obtain ⟨ht, hts⟩ := List.forall_mem_cons.mp h
        obtain ⟨hclosed, htokens⟩ := ih hts
        have htoken := ht.token?_eq
        have hnot := ht.not_isUnclosed
        cases ts with
        | nil => simp [htoken, hnot]
        | cons t' ts =>
            simp only [List.map_cons, List.intersperse_cons_cons] at hclosed htokens ⊢
            simp [htoken, hnot, hclosed, htokens, List.filterMap_cons]
  rw [tokenSequence, closed, lex_layout hsep hfill h, if_pos hall.1, hall.2]

/-! ## Looking for a text -/

omit [Python] [PythonTables] in
/-- An infix of two texts is one of either, or goes across. -/
theorem infix_append_cases {p as bs : List Char} (h : p <:+: as ++ bs) :
    p <:+: as ∨ p <:+: bs ∨
      ∃ p₁ p₂, p = p₁ ++ p₂ ∧ p₁ ≠ [] ∧ p₂ ≠ [] ∧ p₁ <:+ as ∧ p₂ <+: bs := by
  obtain ⟨pre, post, hsplit⟩ := h
  rcases List.append_eq_append_iff.mp hsplit with ⟨mid, rfl, rfl⟩ | ⟨mid, hmid, rfl⟩
  · exact .inl ⟨pre, mid, rfl⟩
  · rcases List.append_eq_append_iff.mp hmid with ⟨p₁, rfl, rfl⟩ | ⟨mid', rfl, rfl⟩
    · by_cases hempty : p₁ = [] ∨ mid = []
      · rcases hempty with rfl | rfl
        · exact .inr (.inl ⟨[], post, by simp⟩)
        · exact .inl ⟨pre, [], by simp⟩
      · rw [not_or] at hempty
        exact .inr (.inr ⟨p₁, mid, rfl, hempty.1, hempty.2, ⟨pre, rfl⟩, ⟨post, rfl⟩⟩)
    · exact .inr (.inl ⟨mid', post, rfl⟩)

omit [Python] [PythonTables] in
/-- A prefix of a text starts with its first character. -/
theorem not_prefix_of_head {p rest : List Char} (hne : p ≠ []) {f : Char → Bool}
    (hp : ∀ c ∈ p.head?, f c = true) (hrest : ∀ c ∈ rest.head?, f c = false) : ¬ p <+: rest := by
  rintro ⟨post, rfl⟩
  obtain ⟨c, p, rfl⟩ := List.exists_cons_of_ne_nil hne
  have hc := hrest c (by simp)
  rw [hp c (by simp)] at hc
  cases hc

omit [PythonTables] in
/-- No word goes across where two texts are apart. -/
theorem Apart.not_prefix {as bs p₁ p₂ : List Char} (h : Apart as bs) (hsuffix : p₁ <:+ as)
    (hp₁ : p₁ ≠ []) (hlast : ∀ c ∈ p₁.getLast?, isWord c = true) (hp₂ : p₂ ≠ [])
    (hhead : ∀ c ∈ p₂.head?, isWord c = true) : ¬ p₂ <+: bs := by
  obtain ⟨before, rfl⟩ := hsuffix
  have hword : (before ++ p₁).getLast?.any isWord = true := by
    rw [List.getLast?_append_of_ne_nil _ hp₁, List.getLast?_eq_some_getLast hp₁]
    exact hlast _ (List.getLast?_eq_some_getLast hp₁)
  exact not_prefix_of_head hp₂ hhead (h hword)

/-- A word stands in one lexeme. -/
theorem infix_text_of_word {p : List Char} (hne : p ≠ []) (hp : ∀ c ∈ p, isWord c = true)
    {cs : List Char} (h : p <:+: cs) : ∃ l ∈ lex cs, p <:+: l.text := by
  induction cs using lex_induction with
  | nil => exact absurd (List.infix_nil.mp h) hne
  | cons l rest hl hapart hlex ih =>
      rw [hlex]
      rcases infix_append_cases h with h | h | ⟨p₁, p₂, rfl, hp₁, hp₂, hsuffix, hpre⟩
      · exact ⟨l, List.mem_cons_self, h⟩
      · obtain ⟨l', hl', htext⟩ := ih h
        exact ⟨l', List.mem_cons_of_mem _ hl', htext⟩
      · have hlast : ∀ c ∈ p₁.getLast?, isWord c = true := fun c hc =>
          hp c (List.mem_append_left _ (List.mem_of_getLast? hc))
        have hhead : ∀ c ∈ p₂.head?, isWord c = true := fun c hc =>
          hp c (List.mem_append_right _ (List.mem_of_mem_head? hc))
        exact absurd hpre (hapart.not_prefix hsuffix hp₁ hlast hp₂ hhead)

/-- A lexeme that is closed and no space does not end with one. -/
theorem Lexeme.Proper.getLast_text {l : Lexeme} (hl : l.Proper) (hclosed : l.isUnclosed = false)
    (hspace : ∀ c, l ≠ .space c) : ∀ c ∈ l.text.getLast?, isSpace c = false := by
  cases l with
  | space c => exact absurd rfl (hspace c)
  | word w => exact fun c hc => not_isSpace_of_isWord (hl.2 c (List.mem_of_getLast? hc))
  | name w =>
      obtain ⟨u, v, rfl, -, hu, hv⟩ := hl
      intro c hc
      rw [Lexeme.text, List.getLast?_append_of_ne_nil _ (List.cons_ne_nil _ _)] at hc
      rcases List.mem_cons.mp (List.mem_of_getLast? hc) with rfl | hc
      · decide
      · rcases hv c hc with hc | rfl
        · exact not_isSpace_of_isWord hc
        · decide
  | symbol c => simpa [text] using hl.1
  | unclosed d content => cases hclosed
  | quoted d content =>
      obtain ⟨init, e, hinit, he, -⟩ := d.delimits_closing
      intro c hc
      rw [text, hinit, ← List.append_assoc, ← List.append_assoc, List.getLast?_concat] at hc
      obtain rfl := Option.some.inj hc
      exact not_isSpace_of_delimits he

/-- What a text begins with stands in its first lexeme if it is a word. -/
theorem exists_lex_of_word {b post : List Char} (hne : b ≠ []) (hb : ∀ c ∈ b, isWord c = true) :
    ∃ y ls, lex (b ++ post) = y :: ls ∧ b <+: y.text := by
  have hcs : b ++ post ≠ [] := by simp [hne]
  obtain ⟨y, rest, hsplit, hlex, hy, hapart⟩ := exists_lex_cons hcs
  refine ⟨y, lex rest, hlex, ?_⟩
  rcases List.append_eq_append_iff.mp hsplit with ⟨mid, htext, -⟩ | ⟨mid, rfl, rfl⟩
  · exact ⟨mid, htext.symm⟩
  · by_cases hmid : mid = []
    · simp [hmid]
    · have hlast : ∀ c ∈ y.text.getLast?, isWord c = true := fun c hc =>
        hb c (List.mem_append_left _ (List.mem_of_getLast? hc))
      have hhead : ∀ c ∈ mid.head?, isWord c = true := fun c hc =>
        hb c (List.mem_append_right _ (List.mem_of_mem_head? hc))
      exact absurd (List.prefix_append mid post)
        (hapart.not_prefix List.suffix_rfl hy.text_ne hlast hmid hhead)

/-- A word, a space and what may follow stand in one lexeme, or the space is one
between two tokens. -/
theorem infix_text_of_phrase {a b : List Char} (hne : a ≠ []) (ha : ∀ c ∈ a, isWord c = true)
    (hb : ∀ c ∈ b, isWord c = true) {cs : List Char} (hclosed : closed cs = true)
    (h : a ++ ' ' :: b <:+: cs) :
    (∃ l ∈ lex cs, a ++ ' ' :: b <:+: l.text) ∨
      ∃ pre x post, lex cs = pre ++ x :: .space ' ' :: post ∧ a <:+ x.text ∧
        (b = [] ∨ ∃ y post', post = y :: post' ∧ b <+: y.text) := by
  induction cs using lex_induction with
  | nil => exact absurd (List.infix_nil.mp h) (by simp)
  | cons l rest hl hapart hlex ih =>
      obtain ⟨hlclosed, hrestclosed⟩ : l.isUnclosed = false ∧ closed rest = true := by
        simpa [closed, hlex] using hclosed
      rw [hlex]
      rcases infix_append_cases h with h | h | ⟨p₁, p₂, hsplit, hp₁, hp₂, hsuffix, hpre⟩
      · exact .inl ⟨l, List.mem_cons_self, h⟩
      · rcases ih hrestclosed h with ⟨l', hl', htext⟩ | ⟨pre, x, post, hpre, hx⟩
        · exact .inl ⟨l', List.mem_cons_of_mem _ hl', htext⟩
        · exact .inr ⟨l :: pre, x, post, by rw [hpre]; rfl, hx⟩
      · -- the text goes across the end of the lexeme, which ends with `a`
        have hnot : (∀ c ∈ p₁.getLast?, isWord c = true) → ¬ ∀ c ∈ p₂.head?, isWord c = true :=
          fun hlast hhead => hapart.not_prefix hsuffix hp₁ hlast hp₂ hhead hpre
        obtain ⟨rfl, rfl⟩ : p₁ = a ∧ p₂ = ' ' :: b := by
          rcases List.append_eq_append_iff.mp hsplit with ⟨mid, rfl, hmid⟩ | ⟨mid, rfl, rfl⟩
          · cases mid with
            | nil => simpa using hmid.symm
            | cons c mid =>
                obtain ⟨rfl, rfl⟩ := List.cons.inj hmid
                by_cases hnil : mid = []
                · subst hnil
                  have hlonger := hsuffix.length_le
                  have hspace : ∀ c, l ≠ .space c := by
                    rintro c rfl
                    exact hne (by simpa [Lexeme.text] using hlonger)
                  obtain ⟨before, hbefore⟩ := hsuffix
                  have hlast := hl.getLast_text hlclosed hspace ' ' (by
                    rw [← hbefore, ← List.append_assoc, List.getLast?_concat]
                    rfl)
                  exact absurd hlast (by decide)
                · refine absurd (fun c hc => hb c ?_) (hnot fun c hc => hb c ?_)
                  · exact List.mem_append_right _ (List.mem_of_mem_head? hc)
                  · rw [List.getLast?_append_of_ne_nil _ (List.cons_ne_nil _ _),
                      List.getLast?_cons_of_ne_nil hnil] at hc
                    exact List.mem_append_left _ (List.mem_of_getLast? hc)
          · by_cases hnil : mid = []
            · simp [hnil]
            · refine absurd (fun c hc => ha c ?_) (hnot fun c hc => ha c ?_)
              · rw [List.head?_append_of_ne_nil _ hnil] at hc
                exact List.mem_append_right _ (List.mem_of_mem_head? hc)
              · exact List.mem_append_left _ (List.mem_of_getLast? hc)
        obtain ⟨post, rfl⟩ := hpre
        have hspace : lex (' ' :: b ++ post) = .space ' ' :: lex (b ++ post) := by
          rw [List.cons_append, lex_cons, begin_space (by decide)]
          rfl
        refine .inr ⟨[], l, lex (b ++ post), by rw [hspace]; rfl, hsuffix, ?_⟩
        by_cases hbne : b = []
        · exact .inl hbne
        · exact .inr (exists_lex_of_word hbne hb)

theorem Needle.not_delimits {p : List Char} (hp : Needle p) : ∀ c ∈ p, delimits c = false := by
  cases hp with
  | word hne hp => exact fun c hc => not_delimits_of_isWord (hp c hc)
  | symbol hspace hword hdelimits => simpa using hdelimits
  | phrase hne ha hb =>
      intro c hc
      rcases List.mem_append.mp hc with hc | hc
      · exact not_delimits_of_isWord (ha c hc)
      · rcases List.mem_cons.mp hc with rfl | hc
        · decide
        · exact not_delimits_of_isWord (hb c hc)

omit [PythonTables] in
theorem Needle.ne_nil {p : List Char} (hp : Needle p) : p ≠ [] := by
  cases hp with
  | word hne hp => exact hne
  | symbol hspace hword hdelimits => simp
  | phrase hne ha hb => simp

omit [PythonTables] in
/-- A lexeme in which a text stands is a token it stands in, or a string literal. -/
theorem fixed_or_string {cs : List Char} (h : tokenSequence cs = some ts)
    (hplain : ∀ t ∈ ts, t.isExtended = false) {l : Lexeme} (hl : l ∈ lex cs)
    (hspace : ∀ c, l ≠ .space c) {p : List Char} (hp : p <:+: l.text) :
    Fixed p ts ∨ stringToken ∈ ts := by
  obtain ⟨hclosed, rfl⟩ := tokenSequence_eq_some.mp h
  have hmem : ∀ t, l.token? = some t → t ∈ (lex cs).filterMap Lexeme.token? := fun t ht =>
    List.mem_filterMap.mpr ⟨l, hl, ht⟩
  cases l with
  | space c => exact absurd rfl (hspace c)
  | quoted d content =>
      have hstandard : d.standard = true := by
        simpa [Lexeme.isExtended] using hplain _ (hmem _ rfl)
      cases d with
      | single => exact .inr (hmem _ rfl)
      | double => exact .inl ⟨.quoted .double content, hmem _ rfl, hp⟩
      | _ => cases hstandard
  | _ => exact .inl ⟨_, hmem _ rfl, hp⟩

/-- A text ends with a space where its last lexemes are no tokens. -/
theorem exists_getLast_space {cs : List Char} {pre post : List Lexeme} (hlex : lex cs = pre ++ post)
    (hne : post ≠ []) (hnone : post.filterMap Lexeme.token? = []) :
    ∃ c ∈ cs.getLast?, isSpace c = true := by
  obtain ⟨init, l, rfl⟩ : ∃ init l, post = init ++ [l] :=
    ⟨_, _, (List.dropLast_append_getLast hne).symm⟩
  obtain ⟨c, rfl⟩ : ∃ c, l = .space c := by
    have htoken := List.filterMap_eq_nil_iff.mp hnone l (by simp)
    cases l with
    | space c => exact ⟨c, rfl⟩
    | _ => cases htoken
  have hmem : Lexeme.space c ∈ lex cs := by simp [hlex]
  have hcs : cs = (pre ++ init).flatMap Lexeme.text ++ [c] := by
    have htext := flatMap_text_lex cs
    rw [hlex] at htext
    simpa [Lexeme.text] using htext.symm
  exact ⟨c, by simp [hcs], proper_of_mem_lex hmem⟩

/-- A text that does not end with a space has a token after each space. -/
theorem exists_token_after {cs : List Char} (hlast : ∀ c ∈ cs.getLast?, isSpace c = false)
    {pre post : List Lexeme} {c : Char} (hlex : lex cs = pre ++ .space c :: post) :
    post.filterMap Lexeme.token? ≠ [] := by
  intro hnone
  obtain ⟨d, hd, hspace⟩ := exists_getLast_space hlex (List.cons_ne_nil _ _) (by simpa using hnone)
  simp [hlast d hd] at hspace

/-- A text without tokens that does not end with a space is empty. -/
theorem eq_nil_of_tokenSequence {cs : List Char} (hlast : ∀ c ∈ cs.getLast?, isSpace c = false)
    (h : tokenSequence cs = some []) : cs = [] := by
  obtain ⟨-, hnone⟩ := tokenSequence_eq_some.mp h
  by_contra hne
  have hlex : lex cs ≠ [] := by
    intro hnil
    have htext := flatMap_text_lex cs
    rw [hnil] at htext
    exact hne htext.symm
  obtain ⟨d, hd, hspace⟩ := exists_getLast_space (List.nil_append _).symm hlex hnone
  simp [hlast d hd] at hspace

/-- Where a text is found: in a lexeme, or across one space. -/
theorem Needle.cases_lex {p : List Char} (hp : Needle p) {cs : List Char}
    (hclosed : closed cs = true) (hin : p <:+: cs) :
    (∃ l ∈ lex cs, (∀ c, l ≠ .space c) ∧ p <:+: l.text) ∨
      ∃ a b pre x post, p = a ++ ' ' :: b ∧
        (a ≠ [] ∧ (∀ c ∈ a, isWord c = true) ∧ ∀ c ∈ b, isWord c = true) ∧
          lex cs = pre ++ x :: .space ' ' :: post ∧ a <:+ x.text ∧
            (b = [] ∨ ∃ y post', post = y :: post' ∧ b <+: y.text) := by
  cases hp with
  | word hne hp =>
      obtain ⟨l, hl, htext⟩ := infix_text_of_word hne hp hin
      refine .inl ⟨l, hl, ?_, htext⟩
      rintro c rfl
      obtain ⟨d, hd⟩ := List.exists_mem_of_ne_nil _ hne
      obtain rfl : d = c := List.mem_singleton.mp (htext.subset hd)
      have hnot := not_isWord_of_isSpace (proper_of_mem_lex hl)
      rw [hp d hd] at hnot
      cases hnot
  | @symbol c hspace hword hdelimits =>
      have hmem : c ∈ cs := hin.subset (by simp)
      rw [← flatMap_text_lex cs] at hmem
      obtain ⟨l, hl, hc⟩ := List.mem_flatMap.mp hmem
      refine .inl ⟨l, hl, ?_, ?_⟩
      · rintro d rfl
        obtain rfl : c = d := List.mem_singleton.mp hc
        have hproper : isSpace c = true := proper_of_mem_lex hl
        rw [hspace] at hproper
        cases hproper
      · obtain ⟨before, after, hsplit⟩ := List.append_of_mem hc
        exact ⟨before, after, by simp [hsplit]⟩
  | @phrase a b hne ha hb =>
      rcases infix_text_of_phrase hne ha hb hclosed hin with ⟨l, hl, htext⟩ | ⟨pre, x, post, hspans⟩
      · refine .inl ⟨l, hl, ?_, htext⟩
        rintro c rfl
        have hlength := htext.length_le
        have hlonger : 0 < a.length := List.length_pos_iff.mpr hne
        simp [Lexeme.text] at hlength
        omega
      · exact .inr ⟨a, b, pre, x, post, rfl, ⟨hne, ha, hb⟩, hspans⟩

/-- A lexeme that ends with a word is a token. -/
theorem token?_of_suffix {l : Lexeme} (hl : l.Proper) {a : List Char} (hne : a ≠ [])
    (ha : ∀ c ∈ a, isWord c = true) (h : a <:+ l.text) : l.token? = some l := by
  obtain ⟨before, hbefore⟩ := h
  have hlast : ∀ c ∈ l.text.getLast?, isWord c = true := by
    intro c hc
    rw [← hbefore, List.getLast?_append_of_ne_nil _ hne] at hc
    exact ha c (List.mem_of_getLast? hc)
  cases l with
  | space c =>
      have hc := hlast c (by simp [Lexeme.text])
      rw [not_isWord_of_isSpace hl] at hc
      cases hc
  | quoted d content =>
      obtain ⟨init, e, hinit, he, -⟩ := d.delimits_closing
      have hword := hlast e (by
        rw [Lexeme.text, hinit, ← List.append_assoc, ← List.append_assoc, List.getLast?_concat]
        rfl)
      rw [not_isWord_of_delimits he] at hword
      cases hword
  | _ => rfl

/-- A lexeme that begins with a word is a token. -/
theorem token?_of_prefix {l : Lexeme} (hl : l.Proper) {b : List Char} (hne : b ≠ [])
    (hb : ∀ c ∈ b, isWord c = true) (h : b <+: l.text) (hplain : l.isExtended = false) :
    l.token? = some l := by
  obtain ⟨after, hafter⟩ := h
  have hhead : ∀ c ∈ l.text.head?, isWord c = true := by
    intro c hc
    rw [← hafter, List.head?_append_of_ne_nil _ hne] at hc
    exact hb c (List.mem_of_mem_head? hc)
  cases l with
  | space c =>
      have hc := hhead c (by simp [Lexeme.text])
      rw [not_isWord_of_isSpace hl] at hc
      cases hc
  | quoted d content =>
      cases d with
      | single =>
          have hquote := hhead '\'' (by simp [Lexeme.text, Delimiter.opening])
          rw [not_isWord_of_delimits (by decide)] at hquote
          cases hquote
      | double =>
          have hquote := hhead '"' (by simp [Lexeme.text, Delimiter.opening])
          rw [not_isWord_of_delimits (by decide)] at hquote
          cases hquote
      | _ => cases hplain
  | _ => rfl

omit [PythonTables] in
theorem isExtended_of_mem_lex {cs : List Char} (h : tokenSequence cs = some ts)
    (hplain : ∀ t ∈ ts, t.isExtended = false) {l : Lexeme} (hl : l ∈ lex cs) :
    l.isExtended = false := by
  obtain ⟨-, rfl⟩ := tokenSequence_eq_some.mp h
  cases l with
  | quoted d content =>
      have htoken := hplain _ (List.mem_filterMap.mpr ⟨.quoted d content, hl, rfl⟩)
      exact htoken
  | _ => rfl

/-- Where a text is found: in a token, in a string literal, or across two tokens. -/
theorem Needle.cases_of_found {p : List Char} (hp : Needle p) {cs : List Char}
    (h : tokenSequence cs = some ts) (hplain : ∀ t ∈ ts, t.isExtended = false)
    (hlast : ∀ c ∈ cs.getLast?, isSpace c = false) (hin : p <:+: cs) :
    Fixed p ts ∨ stringToken ∈ ts ∨ Spans p ts := by
  obtain ⟨hclosed, hts⟩ := tokenSequence_eq_some.mp h
  rcases hp.cases_lex hclosed hin with ⟨l, hl, hspace, htext⟩ |
      ⟨a, b, pre, x, post, rfl, ⟨hne, ha, hb⟩, hlex, hx, hnext⟩
  · exact (fixed_or_string h hplain hl hspace htext).imp_right .inl
  · have hxtoken := token?_of_suffix (proper_of_mem_lex (show x ∈ lex cs by simp [hlex])) hne ha hx
    have htokens : ts = pre.filterMap Lexeme.token? ++ x :: post.filterMap Lexeme.token? := by
      rw [← hts]
      simp [hlex, List.filterMap_cons, hxtoken]
    right; right
    rcases hnext with rfl | ⟨y, post', rfl, hy⟩
    · have hsplit : lex cs = (pre ++ [x]) ++ .space ' ' :: post := by simp [hlex]
      obtain ⟨t, rest, hrest⟩ := List.exists_cons_of_ne_nil (exists_token_after hlast hsplit)
      rw [hrest] at htokens
      exact ⟨a, [], _, x, t, rest, rfl, htokens, hx, List.nil_prefix⟩
    · by_cases hbne : b = []
      · subst hbne
        have hsplit : lex cs = (pre ++ [x]) ++ .space ' ' :: y :: post' := by simp [hlex]
        obtain ⟨t, rest, hrest⟩ := List.exists_cons_of_ne_nil (exists_token_after hlast hsplit)
        rw [hrest] at htokens
        exact ⟨a, [], _, x, t, rest, rfl, htokens, hx, List.nil_prefix⟩
      · have hymem : y ∈ lex cs := by simp [hlex]
        have hytoken := token?_of_prefix (proper_of_mem_lex hymem) hbne hb hy
          (isExtended_of_mem_lex h hplain hymem)
        refine ⟨a, b, pre.filterMap Lexeme.token?, x, y, post'.filterMap Lexeme.token?, rfl, ?_,
          hx, hy⟩
        simp [htokens, hytoken]

/-- A text that stands in a token is found. -/
theorem Needle.infix_of_fixed {p : List Char} (hp : Needle p) {cs : List Char}
    (h : tokenSequence cs = some ts) (hplain : ∀ t ∈ ts, t.isExtended = false)
    (hfixed : Fixed p ts) : p <:+: cs := by
  obtain ⟨-, hts⟩ := tokenSequence_eq_some.mp h
  obtain ⟨t, ht, htext⟩ := hfixed
  have hext := hplain t ht
  rw [← hts] at ht
  obtain ⟨l, hl, htoken⟩ := List.mem_filterMap.mp ht
  have hsame : p <:+: l.text := by
    cases l with
    | space c => cases htoken
    | quoted d content =>
        obtain rfl := Option.some.inj htoken
        cases d with
        | double => exact htext
        | single =>
            obtain ⟨c, hc⟩ := List.exists_mem_of_ne_nil _ hp.ne_nil
            have hquote : c = '\'' := by
              simpa [Lexeme.text, Delimiter.opening, Delimiter.closing] using htext.subset hc
            have hnot := hp.not_delimits c hc
            rw [hquote] at hnot
            cases hnot
        | _ => cases hext
    | _ =>
        obtain rfl := Option.some.inj htoken
        exact htext
  obtain ⟨before, after, hsplit⟩ := List.append_of_mem hl
  have hin : l.text <:+: cs := by
    rw [← flatMap_text_lex cs, hsplit]
    exact ⟨before.flatMap Lexeme.text, after.flatMap Lexeme.text, by simp⟩
  exact hsame.trans hin

/-! ## What a layout shows -/

omit [Python] [PythonTables] in
@[simp] theorem layout_cons_cons (sep : Char) (fill : Delimiter → List Char) (t t' : Lexeme)
    (ts : List Lexeme) : layout sep fill (t :: t' :: ts) =
      (t.load fill).text ++ sep :: layout sep fill (t' :: ts) := rfl

omit [Python] [PythonTables] in
theorem exists_layout_cons (sep : Char) (fill : Delimiter → List Char) (t : Lexeme)
    (ts : List Lexeme) : ∃ after, layout sep fill (t :: ts) = (t.load fill).text ++ after := by
  cases ts with
  | nil => exact ⟨[], by simp [layout]⟩
  | cons t' ts => exact ⟨sep :: layout sep fill (t' :: ts), rfl⟩

omit [Python] [PythonTables] in
theorem exists_layout_append (sep : Char) (fill : Delimiter → List Char) (as : List Lexeme)
    (t : Lexeme) (ts : List Lexeme) :
    ∃ before, layout sep fill (as ++ t :: ts) = before ++ layout sep fill (t :: ts) := by
  induction as with
  | nil => exact ⟨[], rfl⟩
  | cons a as ih =>
      obtain ⟨before, hbefore⟩ := ih
      obtain ⟨t', ts', hcons⟩ : ∃ t' ts', as ++ t :: ts = t' :: ts' :=
        List.exists_cons_of_ne_nil (by simp)
      refine ⟨(a.load fill).text ++ sep :: before, ?_⟩
      rw [List.cons_append, hcons, layout_cons_cons, ← hcons, hbefore]
      simp

omit [PythonTables] in
theorem Lexeme.IsToken.load_nil {t : Lexeme} (ht : t.IsToken) : t.load (fun _ => []) = t := by
  cases t with
  | quoted d old => simpa [Lexeme.token?, Lexeme.load] using ht.token?_eq
  | _ => rfl

omit [PythonTables] in
theorem readable_nil : Readable fun _ => [] := fun _ _ before rest => by simp

omit [Python] [PythonTables] in
/-- A text without line breaks that stands in some lines stands in one of them. -/
theorem infix_line_iff {p : List Char} (hp : '\n' ∉ p) (as bs : List Char) :
    p <:+: as ++ '\n' :: bs ↔ p <:+: as ∨ p <:+: bs := by
  have hnil : ∀ q : List Char, (∀ c ∈ q, c ∈ p) → (∀ c ∈ q, c ∈ ['\n']) → q = [] :=
    fun q hin hbreak => List.eq_nil_iff_forall_not_mem.mpr fun c hc => by
      rw [List.mem_singleton.mp (hbreak c hc)] at hc
      exact hp (hin _ hc)
  constructor
  · intro h
    rcases infix_append_cases h with h | h | ⟨p₁, p₂, rfl, -, hp₂, -, hprefix⟩
    · exact .inl h
    · have h : p <:+: ['\n'] ++ bs := h
      rcases infix_append_cases h with h | h | ⟨p₁, p₂, rfl, hp₁, -, hsuffix, -⟩
      · rw [hnil p (fun _ => id) fun c hc => h.subset hc]
        exact .inl List.nil_infix
      · exact .inr h
      · exact absurd (hnil p₁ (fun c => List.mem_append_left _) fun c hc => hsuffix.subset hc) hp₁
    · obtain ⟨c, p₂, rfl⟩ := List.exists_cons_of_ne_nil hp₂
      obtain rfl := (List.cons_prefix_cons.mp hprefix).1
      exact absurd (by simp) hp
  · rintro (h | h)
    · exact h.trans (List.prefix_append as _).isInfix
    · exact h.trans ⟨as ++ ['\n'], [], by simp⟩

omit [Python] [PythonTables] in
/-- Written out line by line, a text shows its tokens only. -/
theorem infix_layout_iff {p : List Char} (hne : p ≠ []) (hp : '\n' ∉ p) :
    p <:+: layout '\n' fill ts ↔ ∃ t ∈ ts, p <:+: (t.load fill).text := by
  induction ts with
  | nil => simpa [layout] using hne
  | cons t ts ih =>
      cases ts with
      | nil => simp [layout]
      | cons t' ts =>
          rw [layout_cons_cons, infix_line_iff hp, ih]
          simp

theorem Needle.notMem_newline {p : List Char} (hp : Needle p) : '\n' ∉ p := by
  have hspace : isSpace '\n' = true := by decide
  have hword : ∀ w : List Char, (∀ c ∈ w, isWord c = true) → '\n' ∉ w := fun w hw hmem => by
    rw [not_isSpace_of_isWord (hw _ hmem)] at hspace
    cases hspace
  cases hp with
  | word hne hp => exact hword p hp
  | @symbol c hc hnot hdelimits =>
      intro hmem
      rw [← List.mem_singleton.mp hmem, hspace] at hc
      cases hc
  | @phrase a b hne ha hb => simpa using ⟨hword a ha, hword b hb⟩

/-- With empty literals these are the tokens themselves. -/
theorem Needle.fixed_of_infix_layout {p : List Char} (hp : Needle p) (h : ∀ t ∈ ts, t.IsToken)
    (hin : p <:+: layout '\n' (fun _ => []) ts) : Fixed p ts := by
  obtain ⟨t, ht, htext⟩ := (infix_layout_iff hp.ne_nil hp.notMem_newline).mp hin
  rw [(h t ht).load_nil] at htext
  exact ⟨t, ht, htext⟩

omit [Python] [PythonTables] in
/-- Written out with some contents in each literal, a text shows them. -/
theorem infix_layout_of_string {p : List Char} (hin : p <:+: fill .single) (h : stringToken ∈ ts)
    (sep : Char) : p <:+: layout sep fill ts := by
  obtain ⟨as, bs, rfl⟩ := List.append_of_mem h
  obtain ⟨before, hbefore⟩ := exists_layout_append sep fill as stringToken bs
  obtain ⟨after, hafter⟩ := exists_layout_cons sep fill stringToken bs
  have hshown : fill .single <:+: layout sep fill (as ++ stringToken :: bs) := by
    refine ⟨before ++ ['\''], '\'' :: after, ?_⟩
    rw [hbefore, hafter]
    simp [stringToken, Lexeme.load, Lexeme.text, Delimiter.opening, Delimiter.closing]
  exact hin.trans hshown

omit [Python] [PythonTables] in
/-- A text without delimiters at the end of a token stands there whatever is in the
literals. -/
theorem suffix_load {a : List Char} (ha : ∀ c ∈ a, delimits c = false) {x : Lexeme}
    (h : a <:+ x.text) (fill : Delimiter → List Char) : a <:+ (x.load fill).text := by
  cases x with
  | quoted d old =>
      have hnil : a = [] := by
        by_contra hne
        obtain ⟨init, e, hclosing, he, -⟩ := d.delimits_closing
        obtain ⟨before, hbefore⟩ := h
        have hlast : a.getLast? = some e := by
          rw [← List.getLast?_append_of_ne_nil before hne, hbefore, Lexeme.text, hclosing,
            ← List.append_assoc, ← List.append_assoc, List.getLast?_concat]
        rw [ha e (List.mem_of_getLast? hlast)] at he
        cases he
      exact hnil ▸ List.nil_suffix
  | _ => exact h

omit [Python] [PythonTables] in
theorem prefix_load {b : List Char} (hb : ∀ c ∈ b, delimits c = false) {y : Lexeme}
    (hplain : y.isExtended = false) (h : b <+: y.text) (fill : Delimiter → List Char) :
    b <+: (y.load fill).text := by
  cases y with
  | quoted d old =>
      have hnil : b = [] := by
        by_contra hne
        obtain ⟨e, hopening, he⟩ : ∃ e, d.opening = [e] ∧ delimits e = true := by
          cases d with
          | single => exact ⟨'\'', rfl, by decide⟩
          | double => exact ⟨'"', rfl, by decide⟩
          | _ => cases hplain
        obtain ⟨after, hafter⟩ := h
        have hhead : b.head? = some e := by
          rw [← List.head?_append_of_ne_nil b hne, hafter, Lexeme.text, hopening]
          rfl
        rw [hb e (List.mem_of_mem_head? hhead)] at he
        cases he
      exact hnil ▸ List.nil_prefix
  | _ => exact h

/-- Written out with blanks, a text shows what stands across two tokens. -/
theorem Needle.infix_layout_of_spans {p : List Char} (hp : Needle p) (h : Spans p ts)
    (hplain : ∀ t ∈ ts, t.isExtended = false) (fill : Delimiter → List Char) :
    p <:+: layout ' ' fill ts := by
  obtain ⟨a, b, pre, x, y, post, rfl, rfl, hx, hy⟩ := h
  have hdelimits := hp.not_delimits
  obtain ⟨before, hbefore⟩ := exists_layout_append ' ' fill pre x (y :: post)
  obtain ⟨after, hafter⟩ := exists_layout_cons ' ' fill y post
  obtain ⟨x', hx'⟩ := suffix_load (fun c hc => hdelimits c (by simp [hc])) hx fill
  obtain ⟨rest, hrest⟩ :=
    prefix_load (fun c hc => hdelimits c (by simp [hc])) (hplain y (by simp)) hy fill
  refine ⟨before ++ x', rest ++ after, ?_⟩
  rw [hbefore, layout_cons_cons, hafter, ← hx', ← hrest]
  simp

omit [Python] [PythonTables] in
theorem mem_layout {c : Char} (h : c ∈ layout sep fill ts) :
    c = sep ∨ ∃ t ∈ ts, c ∈ (t.load fill).text := by
  induction ts with
  | nil => cases h
  | cons t ts ih =>
      cases ts with
      | nil => exact .inr ⟨t, by simp, h⟩
      | cons t' ts =>
          rw [layout_cons_cons] at h
          rcases List.mem_append.mp h with h | h
          · exact .inr ⟨t, by simp, h⟩
          · rcases List.mem_cons.mp h with rfl | h
            · exact .inl rfl
            · exact (ih h).imp_right fun ⟨u, hu, hc⟩ => ⟨u, List.mem_cons_of_mem _ hu, hc⟩

omit [Python] [PythonTables] in
theorem Lexeme.text_load_quoted {d : Delimiter} (hd : d ≠ .double) (old : List Char)
    (fill : Delimiter → List Char) :
    ((Lexeme.quoted d old).load fill).text = d.opening ++ (fill d ++ d.closing) := by
  simp [Lexeme.load, Lexeme.text, hd]

/-- A token neither begins nor ends with a space. -/
theorem Lexeme.IsToken.ends {t : Lexeme} (ht : t.IsToken) (fill : Delimiter → List Char) :
    (t.load fill).text ≠ [] ∧ (∀ c ∈ (t.load fill).text.head?, isSpace c = false) ∧
      ∀ c ∈ (t.load fill).text.getLast?, isSpace c = false := by
  have hproper := ht.proper
  have hquoted : ∀ (d : Delimiter), d.Proper → ∀ content : List Char,
      d.opening ++ (content ++ d.closing) ≠ [] ∧
        (∀ c ∈ (d.opening ++ (content ++ d.closing)).head?, isSpace c = false) ∧
          ∀ c ∈ (d.opening ++ (content ++ d.closing)).getLast?, isSpace c = false := by
    intro d hd content
    obtain ⟨init, e, hclosing, he, -⟩ := d.delimits_closing
    obtain ⟨c, rest, hopening, hc⟩ : ∃ c rest, d.opening = c :: rest ∧ isSpace c = false := by
      cases d with
      | single => exact ⟨'\'', [], rfl, by decide⟩
      | double => exact ⟨'"', [], rfl, by decide⟩
      | escape letter =>
          refine ⟨letter, ['\''], rfl, ?_⟩
          rcases hd with rfl | rfl <;> decide
      | dollar tag => exact ⟨'$', tag ++ ['$'], rfl, by decide⟩
    refine ⟨by simp [hopening], by simpa [hopening] using hc, fun c hc => ?_⟩
    rw [hclosing, ← List.append_assoc, ← List.append_assoc, List.getLast?_concat] at hc
    obtain rfl := Option.some.inj hc
    exact not_isSpace_of_delimits he
  have hword : ∀ w : List Char, w ≠ [] → (∀ c ∈ w, isSpace c = false) →
      w ≠ [] ∧ (∀ c ∈ w.head?, isSpace c = false) ∧ ∀ c ∈ w.getLast?, isSpace c = false :=
    fun w hne hw => ⟨hne, fun c hc => hw c (List.mem_of_mem_head? hc),
      fun c hc => hw c (List.mem_of_getLast? hc)⟩
  cases t with
  | space c => cases ht.token?_eq
  | word w => exact hword w hproper.1 fun c hc => not_isSpace_of_isWord (hproper.2 c hc)
  | name w =>
      obtain ⟨u, v, rfl, hstarts, hu, hv⟩ := hproper
      refine hword _ (by simp [Lexeme.load, Lexeme.text]) fun c hc => ?_
      rcases List.mem_append.mp hc with hc | hc
      · exact not_isSpace_of_isWord (hu c hc)
      · rcases List.mem_cons.mp hc with rfl | hc
        · decide
        · rcases hv c hc with hc | rfl
          · exact not_isSpace_of_isWord hc
          · decide
  | symbol c => simpa [Lexeme.load, Lexeme.text] using hproper.1
  | quoted d old => exact hquoted d hproper.1 _
  | unclosed d old => cases ht.not_isUnclosed

theorem head_layout (h : ∀ t ∈ ts, t.IsToken) :
    ∀ c ∈ (layout sep fill ts).head?, isSpace c = false := by
  cases ts with
  | nil => simp [layout]
  | cons t ts =>
      obtain ⟨hne, hhead, -⟩ := (h t (by simp)).ends fill
      obtain ⟨after, hafter⟩ := exists_layout_cons sep fill t ts
      rwa [hafter, List.head?_append_of_ne_nil _ hne]

theorem getLast_layout (h : ∀ t ∈ ts, t.IsToken) :
    ∀ c ∈ (layout sep fill ts).getLast?, isSpace c = false := by
  rcases List.eq_nil_or_concat ts with rfl | ⟨init, t, rfl⟩
  · simp [layout]
  · obtain ⟨hne, -, hlast⟩ := (h t (by simp)).ends fill
    obtain ⟨before, hbefore⟩ := exists_layout_append sep fill init t []
    rw [List.concat_eq_append, hbefore, layout, List.getLast?_append_of_ne_nil _ hne]
    exact hlast

omit [PythonTables] in
/-- What a token is written with stands in the text it comes from, or in a
string literal. -/
theorem mem_load_text {cs : List Char} (h : tokenSequence cs = some ts) {t : Lexeme} (ht : t ∈ ts)
    {c : Char} (hc : c ∈ (t.load fill).text) : c ∈ cs ∨ ∃ d, c ∈ fill d := by
  obtain ⟨-, rfl⟩ := tokenSequence_eq_some.mp h
  obtain ⟨l, hl, htoken⟩ := List.mem_filterMap.mp ht
  have hshown : c ∈ l.text → c ∈ cs := by
    intro hc
    rw [← flatMap_text_lex cs]
    exact List.mem_flatMap.mpr ⟨l, hl, hc⟩
  cases l with
  | space d => cases htoken
  | quoted d old =>
      obtain rfl := Option.some.inj htoken
      by_cases hd : d = .double
      · exact .inl (hshown (by simpa [Lexeme.load, hd] using hc))
      · rw [Lexeme.text_load_quoted hd] at hc
        rcases List.mem_append.mp hc with hc | hc
        · exact .inl (hshown (List.mem_append_left _ hc))
        · rcases List.mem_append.mp hc with hc | hc
          · exact .inr ⟨d, hc⟩
          · exact .inl (hshown (List.mem_append_right _ (List.mem_append_right _ hc)))
  | _ =>
      obtain rfl := Option.some.inj htoken
      exact .inl (hshown hc)

end

end DbGateway.Sql
