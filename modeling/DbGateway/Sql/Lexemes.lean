import DbGateway.Sql.Lexer

/-!
# DbGateway.Sql.Lexemes

What lexemes are made of, and how a text goes on: its first lexeme and the text
after it.  Proofs about the lexemes of a text go lexeme by lexeme.
-/

namespace DbGateway.Sql

open Re

section

variable [Python] [PythonTables]

/-! ## Words and spaces -/

theorem not_isWord_of_isSpace {c : Char} (h : isSpace c = true) : isWord c = false := by
  have halnum := PythonTables.isAlnum_of_isSpace c h
  have hunderscore : c ≠ '_' := by
    rintro rfl
    exact absurd h (by decide)
  simp [isWord, halnum, hunderscore]

theorem isWord_ascii {c : Char} (h : c.toNat < 128) :
    isWord c = (c.isAlphanum || c == '_') := by
  rw [isWord, PythonTables.isAlnum_ascii c h]

theorem isWord_of_isAlphanum {c : Char} (h : c.isAlphanum = true) : isWord c = true := by
  rw [isWord_ascii (Char.toNat_lt_of_isAlphanum h), h]
  rfl

omit [Python] [PythonTables] in
def isQuote (c : Char) : Bool := c == '\'' || c == '"'

omit [Python] [PythonTables] in
/-- A character that opens or closes quoted texts, or takes the meaning from another. -/
def delimits (c : Char) : Bool := isQuote c || c == '$' || c == '\\'

omit [Python] [PythonTables] in
theorem delimits_iff {c : Char} : delimits c = true ↔ c = '\'' ∨ c = '"' ∨ c = '$' ∨ c = '\\' := by
  simp [delimits, isQuote, or_assoc]

omit [Python] [PythonTables] in
theorem delimits_of_isQuote {c : Char} (h : isQuote c = true) : delimits c = true := by
  simp [delimits, h]

theorem not_isWord_of_delimits {c : Char} (h : delimits c = true) : isWord c = false := by
  rcases delimits_iff.mp h with rfl | rfl | rfl | rfl <;> rw [isWord_ascii (by decide)] <;> decide

omit [Python] [PythonTables] in
theorem not_isSpace_of_delimits {c : Char} (h : delimits c = true) : isSpace c = false := by
  rcases delimits_iff.mp h with rfl | rfl | rfl | rfl <;> decide

theorem not_isSpace_of_isWord {c : Char} (h : isWord c = true) : isSpace c = false := by
  by_contra hspace
  rw [not_isWord_of_isSpace (by simpa using hspace)] at h
  cases h

theorem not_delimits_of_isWord {c : Char} (h : isWord c = true) : delimits c = false := by
  by_contra hdelimits
  rw [not_isWord_of_delimits (by simpa using hdelimits)] at h
  cases h

omit [Python] [PythonTables] in
theorem not_delimits_of_isSpace {c : Char} (h : isSpace c = true) : delimits c = false := by
  by_contra hdelimits
  rw [not_isSpace_of_delimits (by simpa using hdelimits)] at h
  cases h

theorem begin_word {c : Char} (h : isWord c = true) : begin c = ([], .word [c]) := by
  simp [begin, not_isSpace_of_isWord h, h]

omit [PythonTables] in
theorem begin_space {c : Char} (h : isSpace c = true) : begin c = ([.space c], .code) := by
  simp [begin, h]

omit [PythonTables] in
theorem begin_symbol {c : Char} (hspace : isSpace c = false) (hword : isWord c = false)
    (hquote : isQuote c = false) (hdollar : c ≠ '$') : begin c = ([.symbol c], .code) := by
  have hnot : c ≠ '\'' ∧ c ≠ '"' := by simpa [isQuote] using hquote
  simp [begin, hspace, hword, hnot, hdollar]

omit [PythonTables] in
theorem lexFrom_word (w : List Char) {cs : List Char} (h : ∀ c ∈ cs, isWord c = true)
    (rest : List Char) : lexFrom (.word w) (cs ++ rest) = lexFrom (.word (w ++ cs)) rest := by
  induction cs generalizing w with
  | nil => simp
  | cons c cs ih =>
      have hc : isWord c = true := h c (by simp)
      have hnext : (Mode.word w).next c = some (.word (w ++ [c])) := by simp [Mode.next, hc]
      rw [List.cons_append, lexFrom_of_next hnext, ih _ fun d hd => h d (by simp [hd])]
      simp

omit [PythonTables] in
theorem lexFrom_name (w : List Char) {cs : List Char} (h : ∀ c ∈ cs, isWord c = true ∨ c = '$')
    (rest : List Char) : lexFrom (.name w) (cs ++ rest) = lexFrom (.name (w ++ cs)) rest := by
  induction cs generalizing w with
  | nil => simp
  | cons c cs ih =>
      have hc : isWord c = true ∨ c = '$' := h c (by simp)
      have hnext : (Mode.name w).next c = some (.name (w ++ [c])) := by simp [Mode.next, hc]
      rw [List.cons_append, lexFrom_of_next hnext, ih _ fun d hd => h d (by simp [hd])]
      simp

theorem lex_word_append {w : List Char} (hne : w ≠ []) (h : ∀ c ∈ w, isWord c = true)
    (rest : List Char) : lex (w ++ rest) = lexFrom (.word w) rest := by
  obtain ⟨c, w, rfl⟩ := List.exists_cons_of_ne_nil hne
  rw [List.cons_append, lex_cons, begin_word (h c (by simp)), List.nil_append,
    lexFrom_word [c] fun d hd => h d (by simp [hd])]
  rfl

omit [PythonTables] in
/-- Where a word ends. -/
theorem Mode.breaks_word {w rest : List Char} (hword : ∀ c ∈ rest.head?, isWord c = false)
    (hdollar : rest.head? = some '$' → startsName w = false)
    (hquote : rest.head? = some '\'' → escapeLetter w = none) : (Mode.word w).Breaks rest := by
  intro c hc
  refine Mode.step_of_none (fun _ => Mode.noConfusion) ?_
  have hnot : isWord c = false := hword c hc
  have hname : ¬ (c = '$' ∧ startsName w = true) := by
    rintro ⟨rfl, hname⟩
    rw [hdollar hc] at hname
    cases hname
  simp only [Mode.next, hnot, Bool.false_eq_true, if_false, if_neg hname]
  split_ifs with hq
  · rw [hquote (by rw [← hq]; exact hc), Option.map_none]
  · rfl

omit [PythonTables] in
/-- Spaces are lexemes of their own. -/
theorem lex_spaces {cs : List Char} (h : ∀ c ∈ cs, isSpace c = true) (rest : List Char) :
    lex (cs ++ rest) = cs.map .space ++ lex rest := by
  induction cs with
  | nil => rfl
  | cons c cs ih =>
      rw [List.cons_append, lex_cons, begin_space (h c (by simp))]
      exact congrArg (Lexeme.space c :: ·) (ih fun d hd => h d (by simp [hd]))

/-! ## What a lexeme is made of -/

omit [Python] [PythonTables] in
/-- What can be written in a quoted text. -/
inductive Delimiter.Fits (d : Delimiter) : List Char → Prop
  | nil : d.Fits []
  | plain {c : Char} {cs : List Char} (hc : c ∉ d.closing) (hescape : ¬ (d.escapes ∧ c = '\\'))
      (rest : d.Fits cs) : d.Fits (c :: cs)
  | doubled {c : Char} {cs : List Char} (hd : d.doubles = true) (hc : [c] = d.closing)
      (rest : d.Fits cs) : d.Fits (c :: c :: cs)
  | escaped {c : Char} {cs : List Char} (hd : d.escapes = true) (rest : d.Fits cs) :
      d.Fits ('\\' :: c :: cs)

omit [Python] [PythonTables] in
theorem Delimiter.Fits.append {d : Delimiter} {as bs : List Char} (has : d.Fits as)
    (hbs : d.Fits bs) : d.Fits (as ++ bs) := by
  induction has with
  | nil => exact hbs
  | plain hc hescape _ ih => exact .plain hc hescape ih
  | doubled hd hc _ ih => exact .doubled hd hc ih
  | escaped hd _ ih => exact .escaped hd ih

omit [Python] [PythonTables] in
/-- `'...'` and `"..."` -/
def Delimiter.standard : Delimiter → Bool
  | .single => true
  | .double => true
  | _ => false

omit [PythonTables] in
def Delimiter.Proper : Delimiter → Prop
  | .escape letter => letter = 'e' ∨ letter = 'E'
  | .dollar tag => (∀ c ∈ tag, isWord c = true) ∧ (tag ≠ [] → startsName tag = true)
  | _ => True

omit [PythonTables] in
/-- An identifier that goes on after a dollar sign. -/
def IsName (w : List Char) : Prop :=
  ∃ u v, w = u ++ '$' :: v ∧ startsName u = true ∧ (∀ c ∈ u, isWord c = true) ∧
    ∀ c ∈ v, isWord c = true ∨ c = '$'

omit [PythonTables] in
/-- What a lexeme is made of. -/
def Lexeme.Proper : Lexeme → Prop
  | .space c => isSpace c = true
  | .word w => w ≠ [] ∧ ∀ c ∈ w, isWord c = true
  | .name w => IsName w
  | .quoted d content => d.Proper ∧ (d.standard = true → d.Fits content)
  | .symbol c => isSpace c = false ∧ isWord c = false ∧ isQuote c = false
  | .unclosed d _ => d.Proper

omit [PythonTables] in
/-- What the lexeme the lexer is in is made of. -/
def Mode.Proper : Mode → Prop
  | .code => True
  | .word w => w ≠ [] ∧ ∀ c ∈ w, isWord c = true
  | .name w => IsName w
  | .tag t => (Delimiter.dollar t).Proper
  | .quoted d content point => d.Proper ∧ (d.standard = true → d.Fits content ∧
      (point = .inside [] ∨ point = .inside d.closing))

theorem proper_begin (c : Char) :
    (begin c).2.Proper ∧ ∀ l ∈ (begin c).1, l.Proper ∧ l.text = [c] ∧ isWord c = false := by
  simp only [begin]
  split_ifs with hspace hword hsingle hdouble hdollar
  · have hword := not_isWord_of_isSpace hspace
    exact ⟨trivial, by simpa [Lexeme.Proper, Lexeme.text, hspace] using hword⟩
  · simpa [Mode.Proper] using hword
  · exact ⟨⟨trivial, fun _ => ⟨.nil, .inl rfl⟩⟩, by simp⟩
  · exact ⟨⟨trivial, fun _ => ⟨.nil, .inl rfl⟩⟩, by simp⟩
  · exact ⟨⟨by simp, by simp⟩, by simp⟩
  · exact ⟨trivial, by simp_all [Lexeme.Proper, Lexeme.text, isQuote]⟩

omit [Python] [PythonTables] in
/-- Between standard quotes only the quote matters, which is doubled. -/
theorem Delimiter.fits_next {d : Delimiter} (hd : d.standard = true) {content : List Char}
    (hcontent : d.Fits content) {point : Point}
    (hpoint : point = .inside [] ∨ point = .inside d.closing) {c : Char} {part : List Char × Point}
    (h : d.next point c = some part) :
    d.Fits (content ++ part.1) ∧ (part.2 = .inside [] ∨ part.2 = .inside d.closing) := by
  obtain ⟨q, hq⟩ : ∃ q, d.closing = [q] := by cases d <;> simp_all [closing, standard]
  have hescapes : d.escapes = false := by cases d <;> simp_all [escapes, standard]
  have hdoubles : d.doubles = true := by cases d <;> simp_all [doubles, standard]
  rcases hpoint with rfl | rfl
  · by_cases hc : c = q
    · obtain rfl : part = ([], .inside [q]) := by simpa [next, hq, hc] using h.symm
      exact ⟨by simpa using hcontent, .inr (by rw [hq])⟩
    · have hpart : part = ([c], .inside []) := by
        simpa [next, hq, hc, hescapes, Ne.symm hc] using h.symm
      rw [hpart]
      exact ⟨hcontent.append (.plain (by simpa [hq] using hc) (by simp [hescapes]) .nil), .inl rfl⟩
  · by_cases hc : c = q
    · obtain rfl : part = ([c, c], .inside []) := by
        simpa [next, hq, hc, hdoubles] using h.symm
      exact ⟨hcontent.append (.doubled hdoubles (by rw [hq, hc]) .nil), .inl rfl⟩
    · simp [next, hq, hc] at h

omit [PythonTables] in
theorem Mode.Proper.next {m m' : Mode} {c : Char} (hm : m.Proper) (h : m.next c = some m') :
    m'.Proper ∧ m' ≠ .code := by
  cases m with
  | code => cases h
  | word w =>
      obtain ⟨hne, hw⟩ := hm
      simp only [Mode.next] at h
      split_ifs at h with hword hname hquote
      · obtain rfl := Option.some.inj h
        exact ⟨⟨by simp, List.forall_mem_append.mpr ⟨hw, by simpa using hword⟩⟩, Mode.noConfusion⟩
      · obtain rfl := Option.some.inj h
        exact ⟨⟨w, [], by simp [hname.1], hname.2, hw, by simp⟩, Mode.noConfusion⟩
      · obtain ⟨l, hl, rfl⟩ := Option.map_eq_some_iff.mp h
        exact ⟨⟨(escapeLetter_eq_some hl).2, by simp [Delimiter.standard]⟩, Mode.noConfusion⟩
  | name w =>
      simp only [Mode.next] at h
      split_ifs at h with hc
      obtain rfl := Option.some.inj h
      obtain ⟨u, v, rfl, hstarts, hu, hv⟩ := hm
      exact ⟨⟨u, v ++ [c], by simp, hstarts, hu,
        List.forall_mem_append.mpr ⟨hv, by simpa using hc⟩⟩, Mode.noConfusion⟩
  | tag t =>
      simp only [Mode.next] at h
      split_ifs at h with hdollar hgoes
      · obtain rfl := Option.some.inj h
        exact ⟨⟨hm, by simp [Delimiter.standard]⟩, Mode.noConfusion⟩
      · obtain rfl := Option.some.inj h
        exact ⟨⟨List.forall_mem_append.mpr ⟨hm.1, by simpa using hgoes.1⟩, fun _ => hgoes.2⟩,
          Mode.noConfusion⟩
  | quoted d content point =>
      obtain ⟨part, hpart, rfl⟩ := Option.map_eq_some_iff.mp h
      exact ⟨⟨hm.1, fun hd => Delimiter.fits_next hd (hm.2 hd).1 (hm.2 hd).2 hpart⟩,
        Mode.noConfusion⟩

omit [Python] [PythonTables] in
theorem Delimiter.next_eq_none {d : Delimiter} {point : Point} {c : Char}
    (h : d.next point c = none) : point = .inside d.closing := by
  cases point with
  | escaped => cases h
  | inside read =>
      simp only [next] at h
      split_ifs at h with hclosed
      rw [hclosed]

omit [Python] [PythonTables] in
theorem Delimiter.delimits_closing (d : Delimiter) :
    ∃ init c, d.closing = init ++ [c] ∧ delimits c = true ∧
      ∀ c ∈ d.closing.head?, delimits c = true := by
  cases d with
  | dollar tag => exact ⟨'$' :: tag, '$', by simp [closing], by decide, by simp [closing]; decide⟩
  | double => exact ⟨[], '"', rfl, by decide, by simp [closing]; decide⟩
  | _ => exact ⟨[], '\'', rfl, by decide, by simp [closing]; decide⟩

omit [PythonTables] in
/-- Two texts do not go on with one word. -/
def Apart (as bs : List Char) : Prop :=
  as.getLast?.any isWord = true → ∀ c ∈ bs.head?, isWord c = false

omit [PythonTables] in
theorem apart_nil (as : List Char) : Apart as [] := by simp [Apart]

/-- The lexeme the lexer is in, and what follows it. -/
theorem exists_lexFrom_cons {m : Mode} (hm : m.Proper) (hcode : m ≠ .code) (rest : List Char) :
    ∃ l rest', lexFrom m rest = l :: lex rest' ∧ m.pending ++ rest = l.text ++ rest' ∧ l.Proper ∧
      Apart l.text rest' := by
  have hdollar : Lexeme.Proper (.symbol '$') :=
    ⟨by decide, not_isWord_of_delimits (by decide), by decide⟩
  have happart : ∀ bs, Apart (Lexeme.symbol '$').text bs := fun bs => by
    simp [Apart, Lexeme.text, hdollar.2.1]
  have hagain : ∀ {t : List Char}, (Delimiter.dollar t).Proper → ∀ bs,
      lexFrom (Mode.again t) bs = lex (t ++ bs) := by
    intro t ht bs
    cases t with
    | nil => rfl
    | cons c t => exact (lex_word_append (List.cons_ne_nil c t) ht.1 bs).symm
  induction rest generalizing m with
  | nil =>
      cases m with
      | code => exact absurd rfl hcode
      | word w => exact ⟨.word w, [], rfl, by simp [Mode.pending, Lexeme.text], hm, apart_nil _⟩
      | name w => exact ⟨.name w, [], rfl, by simp [Mode.pending, Lexeme.text], hm, apart_nil _⟩
      | tag t =>
          have hflush : lexFrom (.tag t) [] = .symbol '$' :: lexFrom (Mode.again t) [] := by
            cases t <;> rfl
          rw [hagain hm] at hflush
          exact ⟨.symbol '$', t ++ [], hflush, by simp [Mode.pending, Lexeme.text], hdollar,
            happart _⟩
      | quoted d content point =>
          by_cases hclosed : point = .inside d.closing
          · refine ⟨.quoted d content, [], by simp [lexFrom, Mode.flush, hclosed, lex], ?_,
              ⟨hm.1, fun hd => (hm.2 hd).1⟩, apart_nil _⟩
            simp [Mode.pending, hclosed, Point.text, Lexeme.text]
          · exact ⟨.unclosed d (content ++ point.text), [],
              by simp [lexFrom, Mode.flush, hclosed, lex], by simp [Mode.pending, Lexeme.text],
              hm.1, apart_nil _⟩
  | cons c rest ih =>
      cases hnext : m.next c with
      | some m' =>
          obtain ⟨hm', hcode'⟩ := hm.next hnext
          obtain ⟨l, rest', hlex, htext, hl⟩ := ih hm' hcode'
          rw [Mode.pending_next hnext, List.append_assoc] at htext
          exact ⟨l, rest', by rw [lexFrom_of_next hnext, hlex], htext, hl⟩
      | none =>
          have hends : (∀ t, m ≠ .tag t) → lexFrom m (c :: rest) = m.flush ++ lex (c :: rest) :=
            fun htag => lexFrom_of_breaks fun d hd => by
              obtain rfl := Option.some.inj hd
              exact Mode.step_of_none htag hnext
          cases m with
          | code => exact absurd rfl hcode
          | word w =>
              have hc : isWord c = false := by
                by_contra hword
                simp [Mode.next, Bool.not_eq_false _ ▸ hword] at hnext
              exact ⟨.word w, c :: rest, hends fun _ => Mode.noConfusion, rfl, hm,
                fun _ => by simpa using hc⟩
          | name w =>
              have hc : isWord c = false := by
                by_contra hword
                simp [Mode.next, Bool.not_eq_false _ ▸ hword] at hnext
              exact ⟨.name w, c :: rest, hends fun _ => Mode.noConfusion, rfl, hm,
                fun _ => by simpa using hc⟩
          | tag t =>
              refine ⟨.symbol '$', t ++ c :: rest, ?_, rfl, hdollar, happart _⟩
              rw [← hagain hm, lexFrom, Mode.step_tag hnext]
              rfl
          | quoted d content point =>
              obtain rfl : point = .inside d.closing :=
                Delimiter.next_eq_none (Option.map_eq_none_iff.mp hnext)
              obtain ⟨init, e, hclosing, hdelimits, -⟩ := d.delimits_closing
              refine ⟨.quoted d content, c :: rest, ?_,
                by simp [Mode.pending, Point.text, Lexeme.text],
                ⟨hm.1, fun hd => (hm.2 hd).1⟩, fun hlast => ?_⟩
              · rw [hends fun _ => Mode.noConfusion]
                simp [Mode.flush]
              · rw [Lexeme.text, hclosing, ← List.append_assoc, ← List.append_assoc,
                  List.getLast?_concat, Option.any_some, not_isWord_of_delimits hdelimits] at hlast
                cases hlast

/-- A text is its first lexeme and the text after it. -/
theorem exists_lex_cons {cs : List Char} (hne : cs ≠ []) :
    ∃ l rest, cs = l.text ++ rest ∧ lex cs = l :: lex rest ∧ l.Proper ∧ Apart l.text rest := by
  obtain ⟨c, cs, rfl⟩ := List.exists_cons_of_ne_nil hne
  obtain ⟨hmode, hls⟩ := proper_begin c
  have htext := begin_text c
  rw [lex_cons]
  cases hbegin : begin c with
  | mk ls m =>
      rw [hbegin] at hmode hls htext
      by_cases hcode : m = .code
      · obtain ⟨l, rfl⟩ : ∃ l, ls = [l] := by
          simp only [begin] at hbegin
          split_ifs at hbegin <;> simp_all [Prod.ext_iff] <;> exact ⟨_, hbegin.symm⟩
        obtain ⟨hl, hc, hnot⟩ := hls l (by simp)
        exact ⟨l, cs, by simp [hc], by rw [hcode]; rfl, hl, by simp [Apart, hc, hnot]⟩
      · obtain rfl : ls = [] := by
          simp only [begin] at hbegin
          split_ifs at hbegin <;> simp_all [Prod.ext_iff]
        obtain ⟨l, rest, hlex, hsplit, hl⟩ := exists_lexFrom_cons hmode hcode cs
        have hpending : m.pending = [c] := htext
        rw [hpending] at hsplit
        exact ⟨l, rest, hsplit, hlex, hl⟩

omit [PythonTables] in
theorem Lexeme.Proper.text_ne {l : Lexeme} (h : l.Proper) : l.text ≠ [] := by
  cases l with
  | word w => exact h.1
  | name w =>
      obtain ⟨u, v, rfl, -⟩ := h
      simp [text]
  | quoted d content => cases d <;> simp [text, Delimiter.opening]
  | unclosed d content => cases d <;> simp [text, Delimiter.opening]
  | _ => simp [text]

/-- Lexeme by lexeme. -/
theorem lex_induction {motive : List Char → Prop} (nil : motive [])
    (cons : ∀ l rest, l.Proper → Apart l.text rest → lex (l.text ++ rest) = l :: lex rest →
      motive rest → motive (l.text ++ rest)) (cs : List Char) : motive cs := by
  induction hn : cs.length using Nat.strong_induction_on generalizing cs with
  | _ n ih =>
      by_cases hne : cs = []
      · exact hne ▸ nil
      · obtain ⟨l, rest, rfl, hlex, hl, hapart⟩ := exists_lex_cons hne
        have hshorter := List.length_pos_iff.mpr hl.text_ne
        exact cons l rest hl hapart hlex (ih rest.length (by simp [← hn]; omega) rest rfl)

theorem proper_of_mem_lex {cs : List Char} {l : Lexeme} (h : l ∈ lex cs) : l.Proper := by
  induction cs using lex_induction with
  | nil => cases h
  | cons l' rest hl' _ hlex ih =>
      rw [hlex] at h
      rcases List.mem_cons.mp h with rfl | h
      · exact hl'
      · exact ih h

end

end DbGateway.Sql
