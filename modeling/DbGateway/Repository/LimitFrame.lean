import DbGateway.Repository.LimitEdit

/-!
# DbGateway.Repository.LimitFrame

What `_ensure_limit` changes of a statement besides its outermost row cap.
-/

namespace DbGateway.Repository

open Re Re.Pattern Sql

section

variable [Python] [PythonTables]

/-! ## Trailing semicolons and space -/

/-- A statement without trailing semicolons and space. -/
def stripped (cs : List Char) : List Char := cs.rdropWhile trailing

omit [Python] [PythonTables] in
theorem stripped_append_trailing {text cs : List Char} (h : ∀ c ∈ cs, trailing c = true) :
    stripped (text ++ cs) = stripped text := by
  induction cs using List.reverseRecOn with
  | nil => simp
  | append_singleton cs c ih =>
      have hc : trailing c = true := h c (by simp)
      rw [← List.append_assoc, stripped, List.rdropWhile_concat_pos _ _ _ hc]
      exact ih fun d hd => h d (by simp [hd])

omit [Python] [PythonTables] in
/-- Nothing in front of a character that stays is stripped. -/
theorem stripped_append {as : List Char} (h : ∀ c ∈ as.getLast?, trailing c = false)
    (bs : List Char) : stripped (as ++ bs) = as ++ stripped bs := by
  induction bs using List.reverseRecOn with
  | nil =>
      have hself : stripped as = as := List.rdropWhile_eq_self_iff.mpr fun hne => by
        simp [h _ (List.getLast_mem_getLast? hne)]
      simpa [stripped] using hself
  | append_singleton bs c ih =>
      simp only [stripped] at ih ⊢
      rw [← List.append_assoc, List.rdropWhile_concat, List.rdropWhile_concat, ih]
      split <;> simp

omit [Python] [PythonTables] in
/-- What `_ensure_limit` strips. -/
theorem exists_trailing (sql : List Char) :
    ∃ cs, sql = trimmed sql ++ cs ∧ ∀ c ∈ cs, trailing c = true := by
  have hsemicolons :
      (sql.rdropWhile fun c => c == ';') ++ (sql.rtakeWhile fun c => c == ';') = sql :=
    List.rdropWhile_append_rtakeWhile
  have hspaces : (sql.rdropWhile fun c => c == ';').rdropWhile isSpace ++
      (sql.rdropWhile fun c => c == ';').rtakeWhile isSpace = sql.rdropWhile fun c => c == ';' :=
    List.rdropWhile_append_rtakeWhile
  refine ⟨(sql.rdropWhile fun c => c == ';').rtakeWhile isSpace ++
    sql.rtakeWhile fun c => c == ';', ?_, fun c hc => ?_⟩
  · rw [trimmed, ← List.append_assoc, hspaces, hsemicolons]
  · rcases List.mem_append.mp hc with hc | hc
    · simp [trailing, List.mem_rtakeWhile_imp hc]
    · have hsemicolon : (c == ';') = true :=
        List.mem_rtakeWhile_imp (p := fun c => c == ';') hc
      simp [trailing, hsemicolon]

omit [Python] [PythonTables] in
theorem stripped_trimmed (sql : List Char) : stripped (trimmed sql) = stripped sql := by
  obtain ⟨cs, hsql, htrailing⟩ := exists_trailing sql
  have happend : stripped (trimmed sql ++ cs) = stripped (trimmed sql) :=
    stripped_append_trailing htrailing
  rw [← happend, ← hsql]

omit [Python] [PythonTables] in
theorem exists_stripped (text : List Char) :
    ∃ cs, text = stripped text ++ cs ∧ ∀ c ∈ cs, trailing c = true :=
  ⟨text.rtakeWhile trailing, List.rdropWhile_append_rtakeWhile.symm, fun _ hc =>
    List.mem_rtakeWhile_imp hc⟩

theorem rowCap_trimmed (sql : List Char) : rowCap (trimmed sql) = rowCap sql := by
  obtain ⟨cs, hsql, htrailing⟩ := exists_trailing sql
  have hdelimits := fun c hc => not_delimits_of_trailing (htrailing c hc)
  have hquote := quoteOpen_append hdelimits (trimmed sql)
  rw [← hsql] at hquote
  cases hcode : quoteOpen sql with
  | false =>
      have happend := rowCap_append_trailing (hquote.symm.trans hcode) htrailing
      rw [← happend, ← hsql]
  | true => rw [rowCap_of_quoteOpen hcode, rowCap_of_quoteOpen (hquote.symm.trans hcode)]

theorem outsideCap_stripped {text : List Char} (hcode : quoteOpen text = false) :
    outsideCap (stripped text) = outsideCap text := by
  obtain ⟨cs, htext, htrailing⟩ := exists_stripped text
  have hquote := quoteOpen_append (fun c hc => not_delimits_of_trailing (htrailing c hc))
    (stripped text)
  rw [← htext] at hquote
  have happend := outsideCap_append_trailing (hquote.symm.trans hcode) htrailing
  rw [← happend, ← htext]

/-! ## What changes -/

/-- A word after this text belongs to the cap of the outermost query. -/
def InOutermostCap (pre w : List Char) : Prop :=
  quoteOpen pre = false ∧ (reading pre).hides (.word w) = true

theorem outsideCap_append_iff {text : List Char} (hcode : quoteOpen text = false) (n : Nat) :
    outsideCap (text ++ ' ' :: limitText n) = outsideCap text ↔
      InOutermostCap text "LIMIT".toList := by
  have hsplit : outsideCap (text ++ ' ' :: limitText n) =
      trimEnd (Reading.keep {} (lex text) ++
        ((reading text).keep [.space ' '] ++ (reading text).keep (limitPhrase n).lexemes)) := by
    rw [outsideCap, lex_append_limitText hcode, ← List.singleton_append, Reading.keep_append,
      Reading.keep_append]
    rfl
  have htrails : ∀ l ∈ (reading text).keep [.space ' '], l.trails = true := by
    intro l hl
    obtain rfl := List.mem_singleton.mp (Reading.mem_of_mem_keep hl)
    rfl
  cases hhides : (reading text).hides (.word "LIMIT".toList) with
  | true =>
      have hkeep := (Reading.keep_phrase_of_hides (capWord_limitPhrase n) (inert_limitPhrase n)
        hhides).1
      rw [hsplit, hkeep, List.append_nil, trimEnd_append_of_trails htrails]
      exact ⟨fun _ => ⟨hcode, hhides⟩, fun _ => rfl⟩
  | false =>
      have hkeep := Reading.keep_phrase_of_not_hides (capWord_limitPhrase n) (inert_limitPhrase n)
        hhides
      have hlonger : (outsideCap text).length <
          (outsideCap (text ++ ' ' :: limitText n)).length := by
        have htrim : (outsideCap text).length ≤ (Reading.keep {} (lex text)).length :=
          (List.rdropWhile_prefix _ _).length_le
        rw [hsplit, hkeep, Phrase.lexemes_eq, ← List.append_assoc, trimEnd_append rfl]
        simp
        omega
      constructor
      · intro heq
        rw [heq] at hlonger
        omega
      · intro hin
        rw [InOutermostCap, hhides] at hin
        cases hin.2

omit [Python] [PythonTables] in
/-- In the outermost cap a phrase leaves no other cap. -/
theorem doomed_of_inCap {r : Reading} {o : Operand} (hphase : r.phase = .inCap o) {p : Phrase}
    (hfirst : CapWord p.first) (hmore : ∀ part ∈ p.more, Inert part.2) :
    (r.read p.lexemes).Doomed := by
  rw [Reading.read_phrase hfirst hmore fun h => by simp [hphase] at h]
  left
  simp [Reading.step, Reading.readWord, hphase, hfirst.endsCap_eq, hfirst.read_eq]

omit [Python] [PythonTables] in
/-- A cap that is hidden starts the outermost cap, or stands in it. -/
theorem cases_of_hides {r : Reading} {w : List Char} (h : r.hides (.word w) = true) :
    r.depth = 0 ∧ ((r.phase = .uncapped ∧ r.takesCap = true ∧ (startsCap w).isSome) ∨
      ∃ o, r.phase = .inCap o) := by
  obtain ⟨depth, glued, phase⟩ := r
  obtain ⟨hdepth, hcap⟩ : depth = 0 ∧ (Reading.readWord ⟨depth, glued, phase⟩ w).isCap = true := by
    simpa [Reading.hides] using h
  refine ⟨hdepth, ?_⟩
  subst hdepth
  cases phase with
  | uncapped =>
      left
      cases glued with
      | true => simp [Reading.readWord, Reading.outermost, Phase.isCap] at hcap
      | false =>
          cases hstarts : startsCap w with
          | none => simp [Reading.readWord, Reading.outermost, hstarts, Phase.isCap] at hcap
          | some o => exact ⟨rfl, rfl, rfl⟩
  | inCap o => exact .inr ⟨o, rfl⟩
  | later value =>
      cases hstarts : (startsCap w).isSome <;>
        simp [Reading.readWord, hstarts, Phase.isCap] at hcap
  | ended value => simp [Reading.readWord, Phase.isCap] at hcap

/-- An appended clause keeps a cap only where there is none. -/
theorem keepsCap_append_iff {maxRowLimit : Nat} {text : List Char} {n : Nat}
    (hin : InOutermostCap text "LIMIT".toList) :
    (∀ k ≤ maxRowLimit, rowCap text = some k → rowCap (text ++ ' ' :: limitText n) = some k) ↔
      ∀ k ≤ maxRowLimit, rowCap text ≠ some k := by
  obtain ⟨hcode, hhides⟩ := hin
  obtain ⟨hdepth, ⟨hphase, htakes, -⟩ | ⟨o, hphase⟩⟩ := cases_of_hides hhides
  · have hnone : rowCap text = none := by
      simp [rowCap, Reading.value?, hdepth, hphase, Phase.value?]
    simp [hnone]
  · have hdoomed := doomed_of_inCap hphase (capWord_limitPhrase n) (inert_limitPhrase n)
    have hnone : rowCap (text ++ ' ' :: limitText n) = none := by
      rw [rowCap, reading_append hcode, hdoomed.value?]
    simp [hnone]

/-! ## A phrase that is replaced -/

variable {text : List Char} {m : Match} {pre : List Char} {p : Phrase} {ds post : List Char}

omit [PythonTables] in
/-- A phrase ends with a character of a word. -/
theorem isWord_of_getLast_text {q : Phrase} (hq : q.Proper) {pre : List Char} {c : Char}
    (hc : c ∈ (pre ++ q.text).getLast?) : isWord c = true := by
  obtain ⟨init, part, hmore, -⟩ := hq.exists_concat
  have hpart : part ∈ q.more := by simp [hmore]
  have htext : pre ++ q.text = pre ++ (q.first ++ spacedText init ++ part.1) ++ part.2 := by
    simp [Phrase.text, spacedText, hmore]
  rw [htext, List.getLast?_append_of_ne_nil _ (hq.more_ne part hpart).2] at hc
  exact hq.more_word part hpart c (List.mem_of_getLast? hc)

/-- A phrase the patterns match, between two texts. -/
structure Stands (pre : List Char) (p : Phrase) (ds post : List Char) : Prop where
  cap : CapPhrase p ds
  proper : p.Proper
  decimal : ds ≠ [] ∧ ∀ c ∈ ds, (PythonTables.decimal c).isSome
  before : pre.getLast?.any isWord = false
  ends : ∀ c ∈ post.head?, isWord c = false

theorem Found.stands (hm : Found text m pre p ds post) : Stands pre p ds post :=
  ⟨hm.cap, hm.proper, hm.decimal, hm.not_isWord_before, hm.ends⟩

theorem Stands.stripped (hm : Stands pre p ds post) : Stands pre p ds (stripped post) := by
  refine ⟨hm.cap, hm.proper, hm.decimal, hm.before, fun c hc => hm.ends c ?_⟩
  obtain ⟨rest, hrest⟩ : DbGateway.Repository.stripped post <+: post := List.rdropWhile_prefix _ _
  rw [← hrest]
  exact List.mem_head?_append_of_mem_head? hc

/-- Nothing of a phrase is stripped. -/
theorem stripped_append_phrase {q : Phrase} (hq : q.Proper) (pre post : List Char) :
    stripped (pre ++ (q.text ++ post)) = pre ++ (q.text ++ stripped post) := by
  have hlast : ∀ c ∈ (pre ++ q.text).getLast?, trailing c = false := by
    intro c hc
    by_contra htrailing
    have hnot := not_isWord_of_trailing (by simpa using htrailing)
    rw [isWord_of_getLast_text hq hc] at hnot
    cases hnot
  simpa using stripped_append hlast post

omit [PythonTables] in
/-- In quotes every change is seen. -/
theorem outsideCap_literal_iff {xs ys : List Char} {ls rest : List Lexeme} {closed : Bool}
    {d : Delimiter} {content more as bs : List Char}
    (hxs : lex xs = ls ++ literal closed d (content ++ as ++ more) :: rest)
    (hys : lex ys = ls ++ literal closed d (content ++ bs ++ more) :: rest) :
    outsideCap xs = outsideCap ys ↔ as = bs := by
  have hkeep : ∀ {zs cs : List Char},
      lex zs = ls ++ literal closed d (content ++ cs ++ more) :: rest →
      outsideCap zs = Reading.keep {} ls ++ literal closed d (content ++ cs ++ more) ::
        trimEnd ((Reading.step (Reading.read {} ls) (literal closed d [])).keep rest) := by
    intro zs cs hlex
    have hstep : ∀ r : Reading, r.step (literal closed d (content ++ cs ++ more)) =
        r.step (literal closed d []) := fun r => by cases closed <;> rfl
    have hhides : ∀ r : Reading, r.hides (literal closed d (content ++ cs ++ more)) = false :=
      fun r => by cases closed <;> rfl
    have htrails : (literal closed d (content ++ cs ++ more)).trails = false := by
      cases closed <;> rfl
    rw [outsideCap, hlex, Reading.keep_append, Reading.keep_cons_of_not_hides (hhides _),
      trimEnd_append htrails, hstep]
  rw [hkeep hxs, hkeep hys]
  constructor
  · intro heq
    have hliteral := (List.cons_eq_cons.mp (List.append_cancel_left heq)).1
    cases closed <;> simpa [literal] using hliteral
  · intro heq
    rw [heq]

/-! ## A word that goes on -/

omit [Python] [PythonTables] in
/-- The word in front of this text goes on with it. -/
def GoesOn (w post : List Char) : Prop := post.head? = some '$' ∧ startsName w = true

omit [Python] [PythonTables] in
theorem not_goesOn_toDigits (n : Nat) (post : List Char) : ¬ GoesOn (Nat.toDigits 10 n) post := by
  rintro ⟨-, hstarts⟩
  obtain ⟨c, ds, hcons⟩ := List.exists_cons_of_ne_nil (Nat.toDigits_ne_nil (n := n) (b := 10))
  have hdigit : c.isDigit = true := isDigit_of_mem_toDigits (n := n) (by simp [hcons])
  simp [startsName, hcons, hdigit] at hstarts

omit [Python] [PythonTables] in
theorem goesOn_stripped {w post : List Char} : GoesOn w (stripped post) ↔ GoesOn w post := by
  have hhead : (stripped post).head? = some '$' ↔ post.head? = some '$' := by
    constructor
    · intro h
      obtain ⟨rest, hrest⟩ : stripped post <+: post := List.rdropWhile_prefix _ _
      rw [← hrest]
      exact List.mem_head?_append_of_mem_head? h
    · intro h
      obtain ⟨rest, rfl⟩ : ∃ rest, post = ['$'] ++ rest := List.head?_eq_some_iff.mp h
      have hdollar : ∀ c ∈ ['$'].getLast?, trailing c = false := by
        intro c hc
        obtain rfl := Option.some.inj hc
        decide
      rw [stripped_append hdollar rest]
      rfl
  rw [GoesOn, GoesOn, hhead]

theorem Stands.escapeLetter_last (hm : Stands pre p ds post) : escapeLetter p.last = none := by
  by_contra hsome
  obtain ⟨l, hl⟩ := Option.ne_none_iff_exists'.mp hsome
  obtain ⟨hword, hletter⟩ := escapeLetter_eq_some hl
  have hcap := hm.cap
  cases hcap with
  | limit hw =>
      have hds : ds = [l] := hword
      have hdecimal : (PythonTables.decimal l).isSome := hm.decimal.2 l (by simp [hds])
      have hdigit : l.isDigit = false := by rcases hletter with rfl | rfl <;> decide
      have hascii : l.toNat < 128 := by rcases hletter with rfl | rfl <;> decide
      simp [PythonTables.decimal_ascii l hascii, hdigit] at hdecimal
  | @fetch w s₁ w₁ s₂ ds s₃ w₃ hw hfirst hrows =>
      have hw₃ : w₃ = [l] := hword
      exact absurd hrows.length_eq (by simp [hw₃])
  | @fetchOnly w s₁ w₁ s₂ ds s₃ w₃ s₄ w₄ hw hfirst hrows honly =>
      have hw₄ : w₄ = [l] := hword
      exact absurd honly.length_eq (by simp [hw₄])

/-- The last word of the phrase ends, or becomes part of an identifier. -/
theorem Stands.goesOn_or_breaks (hm : Stands pre p ds post) :
    (GoesOn p.last post ∧ ∃ u ls, lexFrom (.word p.last) post = .name u :: ls) ∨
      (¬ GoesOn p.last post ∧ (Mode.word p.last).Breaks post) := by
  by_cases hgoes : GoesOn p.last post
  · left
    obtain ⟨rest, rfl⟩ : ∃ rest, post = '$' :: rest := List.head?_eq_some_iff.mp hgoes.1
    have hnext : (Mode.word p.last).next '$' = some (.name (p.last ++ ['$'])) := by
      simp [Mode.next, not_isWord_of_delimits (c := '$') (by decide), hgoes.2]
    have hname : ∀ (cs u : List Char), ∃ v ls, lexFrom (.name u) cs = .name v :: ls := by
      intro cs
      induction cs with
      | nil => exact fun u => ⟨u, [], rfl⟩
      | cons c cs ih =>
          intro u
          cases hc : (Mode.name u).next c with
          | some m' =>
              obtain rfl : .name (u ++ [c]) = m' := by
                simp only [Mode.next] at hc
                split_ifs at hc
                exact Option.some.inj hc
              rw [lexFrom_of_next hc]
              exact ih _
          | none =>
              rw [lexFrom, Mode.step_of_none (fun _ => Mode.noConfusion) hc]
              exact ⟨u, _, rfl⟩
    rw [lexFrom_of_next hnext]
    exact ⟨hgoes, hname rest _⟩
  · refine .inr ⟨hgoes, Mode.breaks_word hm.ends (fun hdollar => ?_) fun _ => hm.escapeLetter_last⟩
    simpa using fun h => hgoes ⟨hdollar, h⟩

/-- A dollar sign starts neither a word nor an identifier. -/
theorem lex_dollar (rest : List Char) :
    ∃ l ls, lex ('$' :: rest) = l :: ls ∧ (∀ w, l ≠ .word w) ∧ (∀ w, l ≠ .name w) ∧
      l.trails = false ∧ ∀ r : Reading, r.hides l = false := by
  have htag : ∀ t : List Char, ∃ l ls, lexFrom (.tag t) rest = l :: ls ∧ (∀ w, l ≠ .word w) ∧
      (∀ w, l ≠ .name w) ∧ l.trails = false ∧ ∀ r : Reading, r.hides l = false := by
    have hsymbol : ∀ ls : List Lexeme, ∃ l ls', Lexeme.symbol '$' :: ls = l :: ls' ∧
        (∀ w, l ≠ .word w) ∧ (∀ w, l ≠ .name w) ∧ l.trails = false ∧
          ∀ r : Reading, r.hides l = false := fun ls =>
      ⟨_, ls, rfl, by simp, by simp, by decide, fun _ => rfl⟩
    induction rest with
    | nil =>
        intro t
        cases t <;> exact hsymbol _
    | cons c rest ih =>
        intro t
        cases hnext : (Mode.tag t).next c with
        | none =>
            rw [lexFrom, Mode.step_tag hnext]
            exact hsymbol _
        | some m' =>
            rw [lexFrom_of_next hnext]
            simp only [Mode.next] at hnext
            split_ifs at hnext with hdollar
            · obtain rfl := Option.some.inj hnext
              obtain ⟨closed, more, rest', hlex⟩ := lexFrom_quoted (.dollar t) (.inside []) rest
              rw [hlex []]
              cases closed <;> exact ⟨_, rest', rfl, by simp [literal], by simp [literal], rfl,
                fun _ => rfl⟩
            · obtain rfl := Option.some.inj hnext
              exact ih _
  have hbegin : begin '$' = ([], .tag []) := by
    simp [begin, not_isWord_of_delimits (c := '$') (by decide),
      not_isSpace_of_delimits (c := '$') (by decide)]
  rw [lex_cons, hbegin]
  exact htag []

omit [Python] [PythonTables] in
/-- Where one phrase belongs to the cap, `LIMIT` does. -/
theorem hides_limit_of_hides {r : Reading} {w : List Char} (h : r.hides (.word w) = true) :
    r.hides (.word "LIMIT".toList) = true := by
  obtain ⟨hdepth, hcases⟩ := cases_of_hides h
  obtain ⟨depth, glued, phase⟩ := r
  obtain rfl : depth = 0 := hdepth
  have hends : endsCap "LIMIT".toList = false := by decide
  rcases hcases with ⟨rfl, htakes, -⟩ | ⟨o, rfl⟩
  · obtain rfl : glued = false := by simpa [Reading.takesCap] using htakes
    decide
  · simp only [Reading.hides, Reading.readWord, hends, Bool.and_false, cond_false]
    rfl

omit [Python] [PythonTables] in
theorem spaces_eq_iff {sp : List Char} (hsp : sp ≠ []) {l : Lexeme} (_ : ∀ c, l ≠ .space c)
    {w : List Char} {ls ls' : List Lexeme} :
    sp.map Lexeme.space ++ l :: ls = .space ' ' :: .word w :: ls' ↔
      sp = [' '] ∧ l = .word w ∧ ls = ls' := by
  obtain ⟨c, sp, rfl⟩ := List.exists_cons_of_ne_nil hsp
  cases sp with
  | nil => simp
  | cons d sp => simp

/-- Behind a `LIMIT` the clause stays as it is, or is part of the cap. -/
theorem keep_clause_iff (as : List Lexeme) {r : Reading} (hr : r.Settled) {sp : List Char}
    (hm : Stands pre ⟨"LIMIT".toList, [(sp, ds)]⟩ ds post) (n : Nat) :
    trimEnd (as ++ r.keep (.space ' ' :: lexFrom (.word (Nat.toDigits 10 n)) post)) =
        trimEnd (as ++ r.keep (sp.map .space ++ lexFrom (.word ds) post)) ↔
      (sp = [' '] ∧ ds = Nat.toDigits 10 n) ∨
        (r.hides (.space ' ') = true ∧ ¬ GoesOn ds post) := by
  have hsp : sp ≠ [] := (hm.proper.more_ne (sp, ds) (by simp)).1
  have hds := hr.hides_word (inert_of_decimal hm.decimal.1 hm.decimal.2)
  have hdigits := hr.hides_word (inert_toDigits n)
  have hnew : lexFrom (.word (Nat.toDigits 10 n)) post = .word (Nat.toDigits 10 n) :: lex post :=
    lexFrom_of_breaks (breaks_toDigits hm.ends)
  have hsplit : (.space ' ' :: lexFrom (.word (Nat.toDigits 10 n)) post : List Lexeme) =
      [' '].map .space ++ lexFrom (.word (Nat.toDigits 10 n)) post := rfl
  rw [hsplit, Reading.keep_append, Reading.keep_append, Reading.keep_spaces, Reading.keep_spaces,
    Reading.read_spaces, Reading.read_spaces, hnew]
  have hlast := hm.goesOn_or_breaks
  rw [show Phrase.last ⟨"LIMIT".toList, [(sp, ds)]⟩ = ds from rfl] at hlast
  cases hhides : r.hides (.space ' ') with
  | true =>
      rw [hhides] at hds hdigits
      rw [if_pos rfl, if_pos rfl, Reading.keep_cons_of_hides hdigits,
        hr.step_inert (inert_toDigits n), List.nil_append, List.nil_append]
      rcases hlast with ⟨hgoes, u, ls, hname⟩ | ⟨hnot, hbreaks⟩
      · obtain ⟨rest, rfl⟩ : ∃ rest, post = '$' :: rest := List.head?_eq_some_iff.mp hgoes.1
        obtain ⟨l, ls', hlex, -, hl, htrails, hkept⟩ := lex_dollar rest
        rw [hname, hlex, Reading.keep_cons_of_not_hides (hkept r),
          Reading.keep_cons_of_not_hides (l := .name u) rfl, trimEnd_append htrails,
          trimEnd_append (l := .name u) rfl]
        refine iff_of_false (fun heq => ?_) ?_
        · exact hl u (List.cons_eq_cons.mp (List.append_cancel_left heq)).1
        · rintro (⟨-, rfl⟩ | ⟨-, hnot⟩)
          · exact not_goesOn_toDigits n _ hgoes
          · exact hnot hgoes
      · rw [lexFrom_of_breaks hbreaks, Mode.flush, List.singleton_append,
          Reading.keep_cons_of_hides hds,
          hr.step_inert (inert_of_decimal hm.decimal.1 hm.decimal.2)]
        simp [hnot]
  | false =>
      rw [hhides] at hds hdigits
      rw [if_neg Bool.false_ne_true, if_neg Bool.false_ne_true,
        Reading.keep_cons_of_not_hides hdigits, ← List.append_assoc, ← List.append_assoc,
        trimEnd_append (l := .word _) rfl, List.append_assoc as]
      rcases hlast with ⟨hgoes, u, ls, hname⟩ | ⟨hnot, hbreaks⟩
      · rw [hname, Reading.keep_cons_of_not_hides (l := .name u) rfl,
          trimEnd_append (l := .name u) rfl, List.append_assoc, List.append_cancel_left_eq]
        refine iff_of_false (fun heq => ?_) ?_
        · have hword := ((spaces_eq_iff hsp (fun _ => Lexeme.noConfusion)).mp heq.symm).2.1
          cases hword
        · rintro (⟨-, rfl⟩ | ⟨hfalse, -⟩)
          · exact not_goesOn_toDigits n _ hgoes
          · cases hfalse
      · rw [lexFrom_of_breaks hbreaks, Mode.flush, List.singleton_append,
          Reading.keep_cons_of_not_hides hds, trimEnd_append (l := .word _) rfl, List.append_assoc,
          List.append_cancel_left_eq, hr.step_inert (inert_toDigits n),
          hr.step_inert (inert_of_decimal hm.decimal.1 hm.decimal.2)]
        rw [eq_comm]
        refine (spaces_eq_iff hsp fun _ => Lexeme.noConfusion).trans ?_
        simp

/-- A phrase after this text starts in the outermost cap: with its first word, or
behind it where that word goes on with an identifier. -/
def StartsInCap (pre w : List Char) : Prop :=
  if nameOpen pre then w = "LIMIT".toList ∧ (reading pre).hides (.space ' ') = true
  else InOutermostCap pre w

theorem Stands.limitText_eq_iff {w sp : List Char} (hm : Stands pre ⟨w, [(sp, ds)]⟩ ds post)
    (n : Nat) :
    limitText n = Phrase.text ⟨w, [(sp, ds)]⟩ ↔
      w = "LIMIT".toList ∧ sp = [' '] ∧ ds = Nat.toDigits 10 n := by
  have hsp : sp ≠ [] := (hm.proper.more_ne (sp, ds) (by simp)).1
  have hlexemes : limitText n = Phrase.text ⟨w, [(sp, ds)]⟩ ↔
      (limitPhrase n).lexemes = Phrase.lexemes ⟨w, [(sp, ds)]⟩ := by
    rw [← text_limitPhrase, ← (proper_limitPhrase n).lex_text, ← hm.proper.lex_text]
    exact ⟨fun h => by rw [h], fun h => lex_injective h⟩
  rw [hlexemes, eq_comm]
  simp only [Phrase.lexemes, limitPhrase, spacedLexemes, List.flatMap_cons, List.flatMap_nil,
    List.append_nil, List.cons.injEq, Lexeme.word.injEq]
  refine and_congr_right fun _ => (spaces_eq_iff hsp fun _ => Lexeme.noConfusion).trans ?_
  simp

omit [PythonTables] in
theorem not_nameOpen_of_quoteOpen {pre : List Char} (h : quoteOpen pre = true) :
    nameOpen pre = false := by
  rw [quoteOpen] at h
  cases hmode : Mode.code.after pre with
  | quoted d content point => simp [nameOpen, hmode]
  | _ => simp [hmode, Mode.inQuotes] at h

omit [Python] [PythonTables] in
theorem CapPhrase.eq_limit (h : CapPhrase p ds) (hfirst : p.first = "LIMIT".toList) :
    ∃ sp, p = ⟨"LIMIT".toList, [(sp, ds)]⟩ := by
  have hfetch : ∀ {w : List Char}, w = "LIMIT".toList → ¬ Folds "fetch".toList w := by
    rintro w rfl
    decide
  cases h with
  | @limit w sp ds hw =>
      obtain rfl : w = "LIMIT".toList := hfirst
      exact ⟨sp, rfl⟩
  | fetch hw => exact absurd hw (hfetch hfirst)
  | fetchOnly hw => exact absurd hw (hfetch hfirst)

/-- A clause as it would be written does not go on. -/
theorem Stands.not_goesOn_of_eq (hm : Stands pre p ds post) {n : Nat} (h : limitText n = p.text) :
    ¬ GoesOn p.last post := by
  have hlast : p.last = Nat.toDigits 10 n := by
    rw [← hm.proper.rtakeWhile_text, ← h, ← text_limitPhrase,
      (proper_limitPhrase n).rtakeWhile_text]
    rfl
  exact hlast ▸ not_goesOn_toDigits n post

/-- What is kept of a phrase that goes on with an identifier. -/
theorem Stands.outsideCap_nameOpen_iff (hm : Stands pre p ds post) (hname : nameOpen pre = true)
    (n : Nat) : outsideCap (pre ++ (limitText n ++ post)) = outsideCap (pre ++ (p.text ++ post)) ↔
      limitText n = p.text ∨ (p.first = "LIMIT".toList ∧
        (reading pre).hides (.space ' ') = true ∧ ¬ GoesOn p.last post) := by
  obtain ⟨u, hu⟩ := exists_name hname
  have hpre : lex pre = Mode.code.completed pre ++ [.name u] := by
    rw [lex, lexFrom_eq, hu]
    rfl
  have hsplit : ∀ {q : Phrase}, q.Proper → outsideCap (pre ++ (q.text ++ post)) =
      trimEnd ((Reading.keep {} (Mode.code.completed pre) ++ [.name (u ++ q.first)]) ++
        (reading pre).keep ((spacedLexemes q.more).dropLast ++ lexFrom (.word q.last) post)) := by
    intro q hq
    have hstep : ∀ w, Reading.step (Reading.read {} (Mode.code.completed pre)) (.name w) =
        reading pre := fun w => by
      rw [reading, hpre, Reading.read_append]
      rfl
    rw [outsideCap, hq.lex_nameOpen hu, Reading.keep_append,
      Reading.keep_cons_of_not_hides (l := .name _) rfl, hstep]
    simp
  have hnew := hsplit (proper_limitPhrase n)
  have hold := hsplit hm.proper
  rw [text_limitPhrase] at hnew
  have hsettled : (reading pre).Settled := by
    rw [reading, hpre, Reading.read_append]
    exact settled_step_name _ u
  by_cases hfirst : p.first = "LIMIT".toList
  · obtain ⟨sp, rfl⟩ := hm.cap.eq_limit hfirst
    have hiff := keep_clause_iff (Reading.keep {} (Mode.code.completed pre) ++
      [.name (u ++ "LIMIT".toList)]) hsettled hm n
    have hdrop : (spacedLexemes [(sp, ds)]).dropLast = sp.map .space := by simp [spacedLexemes]
    rw [hnew, hold, hm.limitText_eq_iff]
    simp only [hdrop, true_and]
    exact hiff
  · rw [hnew, hold, List.append_assoc, List.append_assoc, List.singleton_append,
      List.singleton_append, trimEnd_append rfl, trimEnd_append rfl, List.append_cancel_left_eq]
    refine iff_of_false (fun heq => ?_) ?_
    · have hword : u ++ "LIMIT".toList = u ++ p.first :=
        Lexeme.name.inj (List.cons_eq_cons.mp heq).1
      exact hfirst (List.append_cancel_left hword).symm
    · rintro (htext | ⟨h, -⟩)
      · refine hfirst ?_
        rw [← hm.proper.takeWhile_text, ← htext, ← text_limitPhrase,
          (proper_limitPhrase n).takeWhile_text]
        rfl
      · exact hfirst h

/-- What is kept of a phrase on its own. -/
theorem Stands.outsideCap_code_iff (hm : Stands pre p ds post) (hcode : quoteOpen pre = false)
    (hname : nameOpen pre = false) (n : Nat) :
    outsideCap (pre ++ (limitText n ++ post)) = outsideCap (pre ++ (p.text ++ post)) ↔
      limitText n = p.text ∨
        ((reading pre).hides (.word p.first) = true ∧ ¬ GoesOn p.last post) := by
  have hproper := proper_limitPhrase n
  have hfirst := hm.cap.capWord
  have hinert := hm.cap.inert hm.decimal.1 hm.decimal.2
  have hsplit : ∀ {q : Phrase}, q.Proper → outsideCap (pre ++ (q.text ++ post)) =
      trimEnd (Reading.keep {} (lex pre) ++ (reading pre).keep (.word q.first ::
        ((spacedLexemes q.more).dropLast ++ lexFrom (.word q.last) post))) := by
    intro q hq
    rw [outsideCap, hq.lex_between hcode hname hm.before, Reading.keep_append]
    rfl
  have hwhole : ∀ {q : Phrase}, q.Proper → (Mode.word q.last).Breaks post →
      outsideCap (pre ++ (q.text ++ post)) = trimEnd (Reading.keep {} (lex pre) ++
        ((reading pre).keep q.lexemes ++ ((reading pre).read q.lexemes).keep (lex post))) := by
    intro q hq hbreaks
    rw [outsideCap, hq.lex_between_of_breaks hcode hname hm.before hbreaks, Reading.keep_append,
      Reading.keep_append]
    rfl
  have hlast : (Mode.word (limitPhrase n).last).Breaks post := breaks_toDigits hm.ends
  have hnew := hwhole hproper hlast
  rw [text_limitPhrase] at hnew
  cases hhides : (reading pre).hides (.word p.first) with
  | true =>
      have hlimit := hides_limit_of_hides hhides
      obtain ⟨hkeep, hin, hglued⟩ := Reading.keep_phrase_of_hides hfirst hinert hhides
      obtain ⟨hkeep', hin', hglued'⟩ := Reading.keep_phrase_of_hides (capWord_limitPhrase n)
        (inert_limitPhrase n) hlimit
      rw [hkeep', List.nil_append] at hnew
      rcases hm.goesOn_or_breaks with ⟨hgoes, u, ls, hlex⟩ | ⟨hnot, hbreaks⟩
      · -- the identifier stays, where the new clause leaves what is behind the word
        obtain ⟨rest, rfl⟩ : ∃ rest, post = '$' :: rest := List.head?_eq_some_iff.mp hgoes.1
        obtain ⟨l, ls', hdollar, -, hl, htrails, hkept⟩ := lex_dollar rest
        have hhidden :
            (reading pre).keep (.word p.first :: (spacedLexemes p.more).dropLast) = [] := by
          have hall := hkeep
          rw [Phrase.lexemes_eq, hm.proper.spacedLexemes_eq, ← List.cons_append,
            Reading.keep_append, List.append_eq_nil_iff] at hall
          exact hall.1
        have hold := hsplit hm.proper
        rw [← List.cons_append, Reading.keep_append, hhidden, List.nil_append, hlex,
          Reading.keep_cons_of_not_hides (l := .name u) rfl, trimEnd_append rfl] at hold
        rw [hdollar, Reading.keep_cons_of_not_hides (hkept _), trimEnd_append htrails] at hnew
        refine iff_of_false (fun heq => ?_) ?_
        · rw [hnew, hold] at heq
          exact hl u (List.cons_eq_cons.mp (List.append_cancel_left heq)).1
        · rintro (htext | ⟨-, hnot⟩)
          · exact hm.not_goesOn_of_eq htext hgoes
          · exact hnot hgoes
      · -- both phrases are hidden, and what follows is read alike
        have hblur := (hin'.blur_eq hglued').trans (hin.blur_eq hglued).symm
        have hsame : outsideCap (pre ++ (limitText n ++ post)) =
            outsideCap (pre ++ (p.text ++ post)) := by
          rw [hwhole hm.proper hbreaks, hnew, hkeep, List.nil_append, Reading.keep_congr hblur]
        simp [hsame, hnot]
  | false =>
      have hold := hsplit hm.proper
      rw [Reading.keep_cons_of_not_hides hhides] at hold
      rw [or_iff_left (by simp)]
      cases hlimit : (reading pre).hides (.word "LIMIT".toList) with
      | true =>
          -- the new phrase starts a cap where the old one was none
          have hkeep' := Reading.keep_phrase_of_hides (capWord_limitPhrase n)
            (inert_limitPhrase n) hlimit
          rw [hkeep'.1, List.nil_append] at hnew
          rw [trimEnd_append rfl] at hold
          constructor
          · intro heq
            have hprefix : outsideCap (pre ++ (limitText n ++ post)) <+:
                Reading.keep {} (lex pre) ++
                  ((reading pre).read (limitPhrase n).lexemes).keep (lex post) := by
              rw [hnew]
              exact List.rdropWhile_prefix _ _
            rw [heq, hold, List.prefix_append_right_inj] at hprefix
            obtain ⟨rest, hrest⟩ := hprefix
            have hends := hkeep'.2.1.endsCap_of_keep hrest.symm
            rw [hfirst.endsCap_eq] at hends
            cases hends
          · intro heq
            have hword : p.first = "LIMIT".toList := by
              rw [← hm.proper.takeWhile_text, ← heq, ← text_limitPhrase, hproper.takeWhile_text]
              rfl
            rw [hword, hlimit] at hhides
            cases hhides
      | false =>
          -- neither phrase is hidden, and both are seen
          have hnew := hsplit hproper
          rw [text_limitPhrase, Reading.keep_cons_of_not_hides
            (l := .word (limitPhrase n).first) hlimit] at hnew
          by_cases hword : p.first = "LIMIT".toList
          · obtain ⟨sp, rfl⟩ := hm.cap.eq_limit hword
            have hsettled := Reading.settled_step (r := reading pre) hfirst
              (Reading.starts_of_not_hides hhides)
            have hvisible :
                ((reading pre).step (.word "LIMIT".toList)).hides (.space ' ') = false := hhides
            have hiff := keep_clause_iff (Reading.keep {} (lex pre) ++ [.word "LIMIT".toList])
              hsettled hm n
            have hdrop : (spacedLexemes [(sp, ds)]).dropLast = sp.map .space := by
              simp [spacedLexemes]
            rw [hvisible] at hiff
            rw [List.append_assoc, List.append_assoc] at hiff
            rw [hnew, hold, hm.limitText_eq_iff, hdrop]
            exact hiff.trans (by simp)
          · rw [hnew, hold, trimEnd_append rfl, trimEnd_append rfl, List.append_cancel_left_eq]
            refine iff_of_false (fun heq => ?_) (fun htext => hword ?_)
            · exact hword (Lexeme.word.inj (List.cons_eq_cons.mp heq).1).symm
            · rw [← hm.proper.takeWhile_text, ← htext, ← text_limitPhrase, hproper.takeWhile_text]
              rfl

/-- What is kept of a statement changes unless the phrase belongs to the cap. -/
theorem Stands.outsideCap_iff (hm : Stands pre p ds post) (n : Nat) :
    outsideCap (pre ++ (limitText n ++ post)) = outsideCap (pre ++ (p.text ++ post)) ↔
      limitText n = p.text ∨ (StartsInCap pre p.first ∧ ¬ GoesOn p.last post) := by
  cases hcode : quoteOpen pre with
  | true =>
      obtain ⟨d, content, closed, more, rest, hlex⟩ := lex_quoteOpen hcode post
      have hproper := proper_limitPhrase n
      have hnew := hlex _ hproper.not_delimits hproper.exists_space
      have hold := hlex _ hm.proper.not_delimits hm.proper.exists_space
      rw [text_limitPhrase] at hnew
      rw [outsideCap_literal_iff hnew hold]
      simp [StartsInCap, not_nameOpen_of_quoteOpen hcode, InOutermostCap, hcode]
  | false =>
      cases hname : nameOpen pre with
      | true => simp [hm.outsideCap_nameOpen_iff hname, StartsInCap, hname, and_assoc]
      | false =>
          simp [hm.outsideCap_code_iff hcode hname, StartsInCap, hname, InOutermostCap, hcode]

/-! ## The number of a replaced cap -/

/-- Digits that state a number are read as that number. -/
theorem decimalValue_of_statedNumber? {n : Nat} (h : statedNumber? ds = some n) :
    decimalValue ds = n := by
  obtain ⟨⟨-, hdigits⟩, hvalue⟩ : (ds ≠ [] ∧ ds.all Char.isDigit = true) ∧
      Nat.ofDigitChars 10 ds 0 = n := by
    simpa [statedNumber?] using h
  rw [← hvalue, decimalValue, Nat.ofDigitChars_eq_foldl]
  refine List.foldl_ext _ _ 0 fun k c hc => ?_
  have hdigit : c.isDigit = true := by simpa using List.all_eq_true.mp hdigits c hc
  have hascii : c.toNat < 128 := Char.toNat_lt_of_isAlphanum (by simp [Char.isAlphanum, hdigit])
  have hdecimal : PythonTables.decimal c = some (c.toNat - 48) := by
    rw [PythonTables.decimal_ascii c hascii, if_pos hdigit]
  simp [hdecimal]

omit [Python] [PythonTables] in
theorem folds_of_isKeyword {k : String} {w : List Char} (h : isKeyword k w = true) :
    Folds k.toList w := by
  have hmap : w.map Char.toLower = k.toList := by simpa [isKeyword] using h
  rw [← hmap, Folds, List.forall₂_map_left_iff]
  exact List.forall₂_same.mpr fun c _ => by simp [foldsTo]

omit [Python] [PythonTables] in
/-- A text up to where a run of characters ends. -/
theorem exists_run (f : Char → Bool) (cs : List Char) :
    ∃ run rest, cs = run ++ rest ∧ (∀ c ∈ run, f c = true) ∧ ∀ c ∈ rest.head?, f c = false := by
  refine ⟨_, _, (List.takeWhile_append_dropWhile (p := f)).symm, fun c hc =>
    List.mem_takeWhile_imp hc, fun c hc => ?_⟩
  have hnot := List.head?_dropWhile_not f cs
  rw [Option.mem_def.mp hc] at hnot
  simpa using hnot

omit [Python] [PythonTables] in
/-- What an unfinished clause cannot go on with. -/
theorem doomed_step (depth : Nat) (glued : Bool) {o : Operand} {l : Lexeme}
    (hvalue : o.value? = none) (hspace : ∀ c, l ≠ .space c)
    (hword : ∀ w, l = .word w → o.read w = .unstated) :
    (Reading.step ⟨depth, glued, .inCap o⟩ l).Doomed := by
  cases l with
  | space c => exact absurd rfl (hspace c)
  | word w =>
      simp only [Reading.step, Reading.readWord, Reading.Doomed, hword w rfl, hvalue]
      cases Reading.outermost ⟨depth, glued, .inCap o⟩ && endsCap w <;> simp
  | symbol c =>
      simp only [Reading.step, Reading.readSymbol, Reading.Doomed, hvalue]
      cases depth == 0 && c == ';' <;> simp
  | _ => simp [Reading.step, Reading.readOther, Reading.Doomed]

/-- `ROWS` without `ONLY` states nothing. -/
theorem value?_fetchRows {n : Nat} (hends : ∀ c ∈ post.head?, isWord c = false)
    (hgreedy : ¬ OnlyFollows post) :
    (Reading.read ⟨0, false, .inCap (.fetchRows n)⟩ (lex post)).value? = none := by
  obtain ⟨sp, rest, rfl, hspaces, hhead⟩ := exists_run isSpace post
  rw [lex_spaces hspaces, Reading.read_append, Reading.read_spaces]
  by_cases hne : rest = []
  · rw [hne]
    rfl
  · obtain ⟨l, tail, rfl, hlex, hl, hapart⟩ := exists_lex_cons hne
    have hspace : ∀ d, l ≠ .space d := by
      rintro d rfl
      have hnot := hhead d rfl
      rw [show isSpace d = true from hl] at hnot
      cases hnot
    have hread : ∀ w, l = .word w → (Operand.fetchRows n).read w = .unstated := by
      rintro w rfl
      obtain ⟨hwne, hw⟩ : w ≠ [] ∧ ∀ d ∈ w, isWord d = true := hl
      have hsp : sp ≠ [] := by
        rintro rfl
        obtain ⟨d, w, rfl⟩ := List.exists_cons_of_ne_nil hwne
        have hnot := hends d rfl
        rw [hw d (by simp)] at hnot
        cases hnot
      have honly : isKeyword "only" w = false := by
        by_contra hkey
        have hfolds := folds_of_isKeyword (k := "only") (by simpa using hkey)
        have hlast := any_isWord_getLast? hwne hw
        have hnext : tail.head?.any isWord = false := by
          cases tail with
          | nil => rfl
          | cons d tail => simpa using hapart hlast d rfl
        have hbound : AtBoundary w tail := by simp [AtBoundary, hlast, hnext]
        exact hgreedy ⟨sp, w, tail, rfl, hsp, hspaces, hfolds, hbound⟩
      simp [Operand.read, honly]
    have hstep := doomed_step 0 false rfl hspace hread
    rw [hlex]
    exact (hstep.read _).value?

omit [Python] [PythonTables] in
/-- The words of a phrase are the operand of the cap it starts. -/
theorem read_inCap {more : List (List Char × List Char)} (hmore : ∀ part ∈ more, Inert part.2)
    (o : Operand) : Reading.read ⟨0, false, .inCap o⟩ (spacedLexemes more) =
      ⟨0, false, .inCap ((more.map Prod.snd).foldl Operand.read o)⟩ := by
  induction more generalizing o with
  | nil => rfl
  | cons part more ih =>
      have hinert := hmore part (by simp)
      have hstep : Reading.step ⟨0, false, .inCap o⟩ (.word part.2) =
          ⟨0, false, .inCap (o.read part.2)⟩ := by
        simp [Reading.step, Reading.readWord, hinert.endsCap_eq, hinert.not_as]
      rw [Reading.read_spacedLexemes_cons, hstep, ih (fun q hq => hmore q (by simp [hq]))]
      rfl

/-- The number of rows after `FETCH`. -/
theorem read_fetch (hdecimal : ds ≠ [] ∧ ∀ c ∈ ds, (PythonTables.decimal c).isSome)
    {w₁ : List Char} (hfirst : Folds "first".toList w₁) (w₃ : List Char) :
    ((Operand.fetch.read w₁).read ds).read w₃ = .unstated ∨
      ∃ n, decimalValue ds = n ∧ ((Operand.fetch.read w₁).read ds).read w₃ = .fetchRows n := by
  have hnext : isKeyword "next" w₁ = false := not_isKeyword_of_folds (by decide) (by decide) hfirst
  have hrows : isRows ds = false := by
    simp [isRows, not_isKeyword_of_decimal hdecimal.1 (k := "row") (by decide) hdecimal.2,
      not_isKeyword_of_decimal hdecimal.1 (k := "rows") (by decide) hdecimal.2]
  cases hkey : isKeyword "first" w₁ with
  | false => simp [Operand.read, hkey, hnext]
  | true =>
      cases hnumber : statedNumber? ds with
      | none => simp [Operand.read, hkey, hnumber, hrows]
      | some n =>
          have hvalue := decimalValue_of_statedNumber? hnumber
          cases hlast : isRows w₃ <;> simp [Operand.read, hkey, hnumber, hlast, hvalue]

/-- What the phrases the patterns match state. -/
theorem CapPhrase.operand (h : CapPhrase p ds)
    (hdecimal : ds ≠ [] ∧ ∀ c ∈ ds, (PythonTables.decimal c).isSome) {o : Operand}
    (hstarts : startsCap p.first = some o) :
    (p.more.map Prod.snd).foldl Operand.read o = .unstated ∨
      ∃ n, decimalValue ds = n ∧ ((p.more.map Prod.snd).foldl Operand.read o = .stated n ∨
        p.more.length = 3 ∧ (p.more.map Prod.snd).foldl Operand.read o = .fetchRows n) := by
  cases h with
  | limit hw =>
      have hfetch := not_isKeyword_of_folds (k := "fetch") (by decide) (by decide) hw
      obtain ⟨-, rfl⟩ : _ ∧ Operand.limit = o := by simpa [startsCap, hfetch] using hstarts
      cases hnumber : statedNumber? ds with
      | none => simp [Operand.read, hnumber]
      | some n => simp [Operand.read, hnumber, decimalValue_of_statedNumber? hnumber]
  | fetch hw hfirst hrows =>
      have hlimit := not_isKeyword_of_folds (k := "limit") (by decide) (by decide) hw
      obtain ⟨-, rfl⟩ : _ ∧ Operand.fetch = o := by simpa [startsCap, hlimit] using hstarts
      rcases read_fetch hdecimal hfirst _ with hunstated | ⟨n, hn, hrows⟩
      · exact .inl hunstated
      · exact .inr ⟨n, hn, .inr ⟨rfl, hrows⟩⟩
  | @fetchOnly w s₁ w₁ s₂ ds s₃ w₃ s₄ w₄ hw hfirst hrows honly =>
      have hlimit := not_isKeyword_of_folds (k := "limit") (by decide) (by decide) hw
      obtain ⟨-, rfl⟩ : _ ∧ Operand.fetch = o := by simpa [startsCap, hlimit] using hstarts
      simp only [List.map_cons, List.map_nil, List.foldl_cons, List.foldl_nil]
      have hfetch := read_fetch hdecimal hfirst w₃
      generalize ((Operand.fetch.read w₁).read ds).read w₃ = o at hfetch
      rcases hfetch with rfl | ⟨n, hn, rfl⟩
      · exact .inl rfl
      · cases hkey : isKeyword "only" w₄ <;> simp [Operand.read, hkey, hn]

/-- A cap that an identifier stands in states nothing. -/
theorem Found.rowCap_of_nameOpen (hm : Found text m pre p ds post) (hname : nameOpen pre = true)
    (hhides : (reading pre).hides (.space ' ') = true) : rowCap text = none := by
  obtain ⟨u, hu⟩ := exists_name hname
  have hreading : ∀ w, Reading.step (Reading.read {} (Mode.code.completed pre)) (.name w) =
      reading pre := fun w => by
    rw [reading, lex, lexFrom_eq, hu, Reading.read_append]
    rfl
  have hdoomed : (reading pre).Doomed := by
    have hsettled := settled_step_name (Reading.read {} (Mode.code.completed pre)) u
    rw [hreading] at hsettled
    have hcap : (reading pre).depth = 0 ∧ (reading pre).phase.isCap = true := by
      simpa [Reading.hides] using hhides
    cases hphase : (reading pre).phase with
    | inCap o =>
        have ho : o = .unstated := by simpa [Reading.Settled, hphase] using hsettled.2
        exact .inl (by rw [hphase, ho])
    | _ => simp [hphase, Phase.isCap] at hcap
  rw [rowCap, reading, hm.text_eq, hm.proper.lex_nameOpen hu, Reading.read_append,
    Reading.read_cons, hreading]
  exact (hdoomed.read _).value?

/-- A cap within the maximum is what it was. -/
theorem Found.rowCap_of_startsInCap {maxRowLimit : Nat} (hm : Found text m pre p ds post)
    (hin : StartsInCap pre p.first) (hnot : ¬ GoesOn p.last post) {k : Nat} (hk : k ≤ maxRowLimit)
    (hcap : rowCap text = some k) :
    rowCap (pre ++ (limitText (min (decimalValue ds) maxRowLimit) ++ post)) = some k := by
  rw [StartsInCap] at hin
  split at hin
  · rw [hm.rowCap_of_nameOpen ‹_› hin.2] at hcap
    cases hcap
  obtain ⟨hcode, hhides⟩ := hin
  have hname : nameOpen pre = false := by simpa using ‹¬ nameOpen pre = true›
  have hfirst := hm.cap.capWord
  have hinert := hm.cap.inert hm.decimal.1 hm.decimal.2
  have hbreaks := (hm.stands.goesOn_or_breaks.resolve_left fun h => hnot h.1).2
  have hlast : (Mode.word (limitPhrase (min (decimalValue ds) maxRowLimit)).last).Breaks post :=
    breaks_toDigits hm.ends
  have hold := hm.reading_eq hcode hname hm.proper hbreaks
  have hnew := hm.reading_eq hcode hname
    (proper_limitPhrase (min (decimalValue ds) maxRowLimit)) hlast
  rw [← hm.text_eq] at hold
  rw [text_limitPhrase] at hnew
  rw [rowCap, hold] at hcap
  rw [rowCap, hnew]
  obtain ⟨hdepth, ⟨hphase, htakes, hstarts⟩ | ⟨o, hphase⟩⟩ := cases_of_hides hhides
  · obtain ⟨o, hstarts⟩ := Option.isSome_iff_exists.mp hstarts
    have hread : (reading pre).read p.lexemes =
        ⟨0, false, .inCap ((p.more.map Prod.snd).foldl Operand.read o)⟩ := by
      have hglued : (reading pre).glued = false := by
        simpa [Reading.takesCap, hphase, hdepth] using htakes
      rw [Phrase.lexemes_eq, Reading.read_cons, ← read_inCap hinert]
      simp [Reading.step, Reading.readWord, Reading.outermost, hfirst.not_as, hphase, hdepth,
        hglued, hstarts]
    rw [hread] at hcap
    rw [read_limitPhrase htakes hphase, value?_stated]
    rcases hm.cap.operand hm.decimal hstarts with hunstated | ⟨n, hn, hstated | ⟨hthree, hrows⟩⟩
    · have hdoomed : Reading.Doomed ⟨0, false, .inCap .unstated⟩ := .inl rfl
      rw [hunstated, (hdoomed.read _).value?] at hcap
      cases hcap
    · rw [hstated, value?_stated] at hcap
      obtain ⟨z, hz, rfl⟩ := Option.map_eq_some_iff.mp hcap
      simp [hz, hn, hk]
    · rw [hrows, value?_fetchRows hm.ends (hm.greedy hthree)] at hcap
      cases hcap
  · have hdoomed := doomed_of_inCap hphase hfirst hinert
    rw [(hdoomed.read _).value?] at hcap
    cases hcap

/-! ## The whole edit -/

/-- Besides trailing semicolons and space, an output differs from its input at
most in the row cap of the outermost query, and keeps a cap within the maximum. -/
def OnlyCapChanged (maxRowLimit : Nat) (sql out : List Char) : Prop :=
  outsideCap (stripped out) = outsideCap (stripped sql) ∧
    ∀ n ≤ maxRowLimit, rowCap sql = some n → rowCap out = some n

/-- What the patterns find is a `LIMIT` that stays as it is, or belongs to the
row cap of the outermost query and ends before the next identifier; where they
find nothing, that query can take the clause that is appended and has no cap
within the maximum. -/
def EditsOnlyCap (maxRowLimit : Nat) (text : List Char) : Prop :=
  match foundCap text with
  | none => InOutermostCap text "LIMIT".toList ∧ ∀ n ≤ maxRowLimit, rowCap text ≠ some n
  | some m => (∃ n ≤ maxRowLimit, m.whole text = limitText n) ∨
      (StartsInCap (text.take m.start) ((m.whole text).takeWhile isWord) ∧
        ¬ GoesOn ((m.whole text).rtakeWhile isWord) (text.drop m.stop))

def Lexeme.word? : Lexeme → Option (List Char)
  | .word w => some w
  | _ => none

omit [Python] [PythonTables] in
theorem words_lexemes (p : Phrase) :
    p.lexemes.filterMap Lexeme.word? = p.first :: p.more.map Prod.snd := by
  obtain ⟨first, more⟩ := p
  have hmore : (spacedLexemes more).filterMap Lexeme.word? = more.map Prod.snd := by
    induction more with
    | nil => rfl
    | cons part more ih =>
        have hspaces : (part.1.map Lexeme.space).filterMap Lexeme.word? = [] := by
          simp [List.filterMap_eq_nil_iff, Lexeme.word?]
        simp only [spacedLexemes, List.flatMap_cons, List.filterMap_append] at ih ⊢
        simp [hspaces, ih, Lexeme.word?]
  rw [Phrase.lexemes_eq, List.filterMap_cons, hmore]
  rfl

/-- A phrase that is replaced by itself. -/
theorem Stands.text_eq_limitText_iff (hm : Stands pre p ds post) (maxRowLimit : Nat) :
    (∃ n ≤ maxRowLimit, p.text = limitText n) ↔
      limitText (min (decimalValue ds) maxRowLimit) = p.text := by
  constructor
  · rintro ⟨n, hn, htext⟩
    have hlexemes : p.lexemes = (limitPhrase n).lexemes := by
      rw [← hm.proper.lex_text, htext, ← text_limitPhrase, (proper_limitPhrase n).lex_text]
    have hwords := congrArg (List.filterMap Lexeme.word?) hlexemes
    rw [words_lexemes, words_lexemes] at hwords
    have hdigits : ds = Nat.toDigits 10 n := by
      have hcap := hm.cap
      cases hcap with
      | limit hw => simpa [limitPhrase] using (List.cons.inj hwords).2
      | _ => simp [limitPhrase] at hwords
    have hvalue : decimalValue ds = n := by
      rw [hdigits]
      exact decimalValue_of_statedNumber? (statedNumber?_toDigits n)
    rw [htext, hvalue, Nat.min_eq_left hn]
  · intro htext
    exact ⟨_, Nat.min_le_right _ _, htext.symm⟩

theorem stripped_append_limitText (text : List Char) (n : Nat) :
    stripped (text ++ ' ' :: limitText n) = text ++ ' ' :: limitText n := by
  have hphrase := stripped_append_phrase (proper_limitPhrase n) (text ++ [' ']) []
  simpa [text_limitPhrase, stripped] using hphrase

/-- The clause that is appended leaves the rest of the statement as it is where
it belongs to the outermost query. -/
theorem outsideCap_stripped_append_iff (text : List Char) (n : Nat) :
    outsideCap (stripped (text ++ ' ' :: limitText n)) = outsideCap (stripped text) ↔
      InOutermostCap text "LIMIT".toList := by
  rw [stripped_append_limitText]
  cases hcode : quoteOpen text with
  | false => rw [outsideCap_stripped hcode, outsideCap_append_iff hcode]
  | true =>
      obtain ⟨cs, htext, htrailing⟩ := exists_stripped text
      have hnot : ∀ c ∈ cs, delimits c = false := fun c hc =>
        not_delimits_of_trailing (htrailing c hc)
      have hopen : quoteOpen (stripped text) = true := by
        rw [← quoteOpen_append hnot, ← htext, hcode]
      have hadded : ∀ c ∈ cs ++ ' ' :: limitText n, delimits c = false := by
        intro c hc
        rcases List.mem_append.mp hc with hc | hc
        · exact hnot c hc
        · exact not_delimits_limitText hc
      obtain ⟨d, content, hlex⟩ := lex_quoteOpen_end hopen
      have hnew := hlex _ hadded
      have hold := hlex [] (List.forall_mem_nil _)
      rw [← List.append_assoc, ← htext] at hnew
      rw [List.append_nil] at hold
      have hnew' : lex (text ++ ' ' :: limitText n) = Mode.code.completed (stripped text) ++
          literal false d (content ++ (cs ++ ' ' :: limitText n) ++ []) :: [] := by
        simpa [literal] using hnew
      have hold' : lex (stripped text) = Mode.code.completed (stripped text) ++
          literal false d (content ++ [] ++ []) :: [] := by
        simpa [literal] using hold
      rw [outsideCap_literal_iff hnew' hold']
      simp [InOutermostCap, hcode]

end

/-- A literal that reads like a cap. -/
def quotedText : String := "SELECT title FROM album WHERE title = 'no LIMIT 9000'"

def quotedQuery : Query :=
  .select false [.item (.column none ⟨"title", false⟩) none]
    (some (.table none ⟨"album", false⟩ none)) []
    (some (.eq (.column none ⟨"title", false⟩) (.literal (.string "no LIMIT 9000")))) [] none [] {}

def quotedTokens : ParsedStatement where
  type := "SELECT"
  tokens :=
    [.leaf .dml "SELECT" "SELECT", .leaf .other " " " ",
      .group (.identifier ⟨none, some "title"⟩) [.leaf .other "title" "TITLE"],
      .leaf .other " " " ", .leaf .keyword "FROM" "FROM", .leaf .other " " " ",
      .group (.identifier ⟨none, some "album"⟩) [.leaf .other "album" "ALBUM"],
      .leaf .other " " " ",
      .group .other
        [.leaf .keyword "WHERE" "WHERE", .leaf .other " " " ",
          .group .other
            [.group (.identifier ⟨none, some "title"⟩) [.leaf .other "title" "TITLE"],
              .leaf .other " " " ", .leaf .other "=" "=", .leaf .other " " " ",
              .leaf .other "'no LIMIT 9000'" "'NO LIMIT 9000'"]]]

end DbGateway.Repository
