import DbGateway.Repository.CostTables
import DbGateway.Sql.Layout

/-!
# DbGateway.Repository.CostLiterals

How the number of tables depends on what is in the string literals.  It does not
where all of them are standard ones; in a literal between dollar signs or with
backslashes each `FROM` that follows a closing parenthesis is counted.
-/

namespace DbGateway.Repository

open Re Sql

section

variable [Python] [PythonTables]

/-! ## Standard literals -/

omit [PythonTables] in
theorem map_snd_bareFrom (depth : Nat) (ls : List Lexeme) :
    (bareFrom depth ls).map Prod.snd = ls.flatMap bare := by
  induction ls generalizing depth with
  | nil => rfl
  | cons l ls ih => simp [bareFrom, ih, Function.comp_def]

/-- What the substitutions leave of a statement with plain literals. -/
theorem seenParts_of_plain {cs : List Char} (hclosed : closed cs = true)
    (hplain : ∀ l ∈ lex cs, IsPlain l) :
    seenParts cs = shown id parenClosing none ((lex cs).flatMap bare) := by
  have hquotes : (shown Prod.snd quoteClosing none (markedFrom 0 (lex cs))).map Prod.snd =
      shown id quoteClosing none ((markedFrom 0 (lex cs)).map Prod.snd) :=
    @map_shown Lexeme (Bool × Lexeme) id quoteClosing Prod.snd none (markedFrom 0 (lex cs))
  rw [shown_markedFrom 0 (fun l hl => proper_of_mem_lex hl)
    (fun l hl => by simpa using List.all_eq_true.mp hclosed l hl) hplain, map_snd_bareFrom,
    map_snd_markedFrom, ← parts_eq] at hquotes
  rw [seenParts, ← hquotes]

/-- Nothing is left of the spaces and of the contents of standard literals. -/
theorem flatMap_bare_token? {ls : List Lexeme} (hspace : ∀ c, .space c ∈ ls → isSpace c = true)
    (hplain : ∀ l ∈ ls, l.isExtended = false) :
    (ls.filterMap Lexeme.token?).flatMap bare = ls.flatMap bare := by
  induction ls with
  | nil => rfl
  | cons l ls ih =>
      obtain ⟨hl, hls⟩ := List.forall_mem_cons.mp hplain
      have hrest := ih (fun c hc => hspace c (List.mem_cons_of_mem _ hc)) hls
      cases l with
      | space c =>
          have hbare : bare (.space c) = [] := parts_space (hspace c (by simp)) []
          simpa [List.filterMap_cons, hbare] using hrest
      | quoted d content =>
          cases d with
          | single => simpa [Lexeme.token?, bare] using hrest
          | double => simpa [Lexeme.token?, bare] using hrest
          | _ => cases hl
      | _ => simp [Lexeme.token?, hrest]

/-- With standard literals the number of tables is said by the tokens. -/
theorem numberOfTables_eq_of_tokenSequence {cs cs' : List Char} {ts : List Lexeme}
    (h : tokenSequence cs = some ts) (h' : tokenSequence cs' = some ts)
    (hplain : ∀ t ∈ ts, t.isExtended = false) : numberOfTables cs = numberOfTables cs' := by
  have hseen : ∀ {cs : List Char}, tokenSequence cs = some ts →
      seenParts cs = shown id parenClosing none (ts.flatMap bare) := by
    intro cs h
    obtain ⟨hclosed, htokens⟩ := tokenSequence_eq_some.mp h
    have hextended : ∀ l ∈ lex cs, l.isExtended = false := fun l hl =>
      isExtended_of_mem_lex h hplain hl
    have hplainLexemes : ∀ l ∈ lex cs, IsPlain l := by
      intro l hl
      have hl := hextended l hl
      cases l with
      | quoted d content =>
          cases d with
          | single => trivial
          | double => trivial
          | _ => cases hl
      | _ => trivial
    rw [seenParts_of_plain hclosed hplainLexemes, ← htokens,
      flatMap_bare_token? (fun c hc => proper_of_mem_lex hc) hextended]
  rw [numberOfTables_eq, numberOfTables_eq, hseen h, hseen h']

/-! ## Other literals -/

omit [Python] [PythonTables] in
/-- Some lines with the word `FROM`. -/
def fromLines (k : Nat) : List Char := (List.replicate k "FROM\n".toList).flatten

omit [Python] [PythonTables] in
/-- Literals that are no standard ones with some `FROM`s after a closing parenthesis, out
of sight of the pattern for literals. -/
def crowd (k : Nat) : Delimiter → List Char
  | .dollar _ => ')' :: '\n' :: fromLines k
  | .escape _ => '\\' :: '\'' :: ')' :: '\n' :: (fromLines k ++ ['\\', '\''])
  | _ => []

omit [Python] [PythonTables] in
theorem fromLines_succ (k : Nat) : fromLines (k + 1) = "FROM".toList ++ '\n' :: fromLines k := rfl

omit [Python] [PythonTables] in
theorem not_delimits_fromLines (k : Nat) : ∀ c ∈ fromLines k, delimits c = false := by
  have hline : "FROM\n".toList.all (fun c => !delimits c) = true := by decide
  intro c hc
  obtain ⟨line, hmem, hc⟩ := List.mem_flatten.mp hc
  rw [List.eq_of_mem_replicate hmem] at hc
  simpa using List.all_eq_true.mp hline c hc

omit [Python] [PythonTables] in
theorem not_isQuote_fromLines (k : Nat) : ∀ c ∈ fromLines k, isQuote c = false := by
  intro c hc
  by_contra hq
  have hnot := not_delimits_fromLines k c hc
  rw [delimits_of_isQuote (by simpa using hq)] at hnot
  cases hnot

omit [PythonTables] in
theorem readable_crowd (k : Nat) : Readable (crowd k) := by
  intro d _
  cases d with
  | dollar tag =>
      refine Delimiter.reads_of_not_delimits _ fun c hc => ?_
      rcases List.mem_cons.mp hc with rfl | hc
      · decide
      · rcases List.mem_cons.mp hc with rfl | hc
        · decide
        · exact not_delimits_fromLines k c hc
  | escape letter =>
      have hplain : ∀ cs : List Char, (∀ c ∈ cs, delimits c = false) → ∀ rest,
          (Delimiter.escape letter).Fits rest → (Delimiter.escape letter).Fits (cs ++ rest) := by
        intro cs hcs rest hrest
        induction cs with
        | nil => exact hrest
        | cons c cs ih =>
            obtain ⟨hc, hcs⟩ := List.forall_mem_cons.mp hcs
            have hnot := mt delimits_iff.mpr (Bool.eq_false_iff.mp hc)
            simp only [not_or] at hnot
            exact .plain (by simpa [Delimiter.closing] using hnot.1) (fun h => hnot.2.2.2 h.2)
              (ih hcs)
      have hlines : ∀ c ∈ ')' :: '\n' :: fromLines k, delimits c = false :=
        List.forall_mem_cons.mpr ⟨by decide,
          List.forall_mem_cons.mpr ⟨by decide, not_delimits_fromLines k⟩⟩
      exact (Delimiter.Fits.escaped rfl (hplain _ hlines _ (.escaped rfl .nil))).reads
  | single => exact fun before rest => by simp [crowd]
  | double => exact fun before rest => by simp [crowd]

/-- More `FROM`s show no other text that is looked for. -/
theorem infix_layout_crowd {p : List Char} (hp : Needle p) (k : Nat) (ts : List Lexeme) :
    p <:+: layout '\n' (crowd (k + 1)) ts ↔ p <:+: layout '\n' (crowd 1) ts := by
  have hline := hp.notMem_newline
  have hlines : ∀ k rest, p <:+: fromLines (k + 1) ++ rest ↔
      p <:+: "FROM".toList ∨ p <:+: rest := by
    intro k
    induction k with
    | zero =>
        intro rest
        rw [fromLines_succ, List.append_assoc, List.cons_append, infix_line_iff hline]
        rfl
    | succ k ih =>
        intro rest
        rw [fromLines_succ, List.append_assoc, List.cons_append, infix_line_iff hline, ih]
        tauto
  have hload : ∀ t : Lexeme, p <:+: (t.load (crowd (k + 1))).text ↔
      p <:+: (t.load (crowd 1)).text := by
    intro t
    have hcrowd : ∀ (d : Delimiter) (before after : List Char),
        (∀ k, d.opening ++ (crowd k d ++ d.closing) = before ++ '\n' :: (fromLines k ++ after)) →
          (p <:+: d.opening ++ (crowd (k + 1) d ++ d.closing) ↔
            p <:+: d.opening ++ (crowd 1 d ++ d.closing)) := by
      intro d before after hd
      rw [hd, hd, infix_line_iff hline, infix_line_iff hline, hlines, hlines 0]
    cases t with
    | quoted d old =>
        by_cases hdouble : d = .double
        · simp [Lexeme.load, hdouble]
        · rw [Lexeme.text_load_quoted hdouble, Lexeme.text_load_quoted hdouble]
          cases d with
          | dollar tag =>
              exact hcrowd _ ('$' :: (tag ++ ['$', ')'])) ('$' :: (tag ++ ['$'])) fun k => by
                simp [crowd, Delimiter.opening, Delimiter.closing]
          | escape letter =>
              exact hcrowd _ [letter, '\'', '\\', '\'', ')'] ['\\', '\'', '\''] fun k => by
                simp [crowd, Delimiter.opening, Delimiter.closing]
          | _ => rfl
    | _ => rfl
  rw [infix_layout_iff hp.ne_nil hline, infix_layout_iff hp.ne_nil hline]
  exact exists_congr fun t => and_congr_right fun _ => hload t

omit [PythonTables] in
/-- What is left of a token without string literals, with these contents. -/
def crowded (k : Nat) : Lexeme → List Lexeme
  | .quoted (.dollar tag) _ =>
      parts ('$' :: (tag ++ ['$'])) ++ .symbol ')' ::
        (List.replicate k (.word "FROM".toList) ++ parts ('$' :: (tag ++ ['$'])))
  | .quoted (.escape letter) _ =>
      .word [letter] :: .symbol ')' ::
        (List.replicate k (.word "FROM".toList) ++ [.symbol '\\'])
  | t => bare t

theorem parts_fromLines (k : Nat) (rest : List Char) :
    parts (fromLines k ++ rest) = List.replicate k (.word "FROM".toList) ++ parts rest := by
  have hascii : "FROM".toList.all Char.isAlphanum = true := by decide
  have hword : ∀ c ∈ "FROM".toList, isWord c = true := fun c hc =>
    isWord_of_isAlphanum (List.all_eq_true.mp hascii c hc)
  have hbreak : isWord '\n' = false := not_isWord_of_isSpace (by decide)
  induction k with
  | zero => rfl
  | succ k ih =>
      rw [fromLines_succ, List.append_assoc, List.cons_append,
        parts_word_append (by decide) hword (by simpa using hbreak), parts_space (by decide), ih]
      rfl

/-- Without string literals this is what is left of a token. -/
theorem shown_crowd (k : Nat) {t : Lexeme} (ht : t.IsToken) (bs : List Lexeme) :
    shown id quoteClosing none (parts (t.load (crowd k)).text ++ bs) =
      crowded k t ++ shown id quoteClosing none bs := by
  have hplain : ∀ {l : Lexeme}, l.Proper → l.isUnclosed = false → IsPlain l →
      shown id quoteClosing none (parts l.text ++ bs) =
        bare l ++ shown id quoteClosing none bs := fun hl hclosed hplain => by
    simpa using shown_bare (f := id) (fun _ => rfl) hl hclosed hplain bs
  have hparen : isWord ')' = false := by
    rw [isWord_ascii (by decide)]
    rfl
  have hslash : isWord '\\' = false := not_isWord_of_delimits (by decide)
  have hquote : isWord '\'' = false := not_isWord_of_delimits (by decide)
  cases t with
  | quoted d old =>
      cases d with
      | single =>
          exact hplain (show (Lexeme.quoted .single []).Proper from ⟨trivial, fun _ => .nil⟩) rfl
            trivial
      | double => exact hplain ht.proper rfl trivial
      | dollar tag =>
          have hdollar : isQuote '$' = false := by decide
          have htag : ∀ c ∈ '$' :: (tag ++ ['$']), isQuote c = false :=
            List.forall_mem_cons.mpr ⟨hdollar, List.forall_mem_append.mpr
              ⟨fun c hc => not_isQuote_of_isWord (ht.proper.1.1 c hc), by simpa using hdollar⟩⟩
          have htext : ((Lexeme.quoted (.dollar tag) old).load (crowd k)).text =
              ('$' :: (tag ++ ['$'])) ++
                ')' :: '\n' :: (fromLines k ++ ('$' :: (tag ++ ['$']))) := by
            simp [Lexeme.text_load_quoted, Delimiter.opening, Delimiter.closing, crowd]
          have hparts : parts ((Lexeme.quoted (.dollar tag) old).load (crowd k)).text =
              crowded k (.quoted (.dollar tag) old) := by
            rw [htext, parts_append fun _ => by simpa using hparen,
              parts_symbol (c := ')') (by decide) hparen, parts_space (c := '\n') (by decide),
              parts_fromLines]
            rfl
          have hquotes : ∀ c ∈ ((Lexeme.quoted (.dollar tag) old).load (crowd k)).text,
              isQuote c = false := by
            rw [htext]
            exact List.forall_mem_append.mpr ⟨htag, List.forall_mem_cons.mpr ⟨by decide,
              List.forall_mem_cons.mpr ⟨by decide, List.forall_mem_append.mpr
                ⟨not_isQuote_fromLines k, htag⟩⟩⟩⟩
          have hid : ∀ x : Lexeme, id (id x) = x := fun _ => rfl
          simpa [hparts] using shown_parts hid hquotes bs
      | escape letter =>
          have hletter : isWord letter = true := isWord_of_isAlphanum (by
            rcases ht.proper.1 with rfl | rfl <;> decide)
          have htext : ((Lexeme.quoted (.escape letter) old).load (crowd k)).text =
              [letter] ++ ((Lexeme.quoted .single ['\\']).text ++ ')' :: '\n' :: (fromLines k ++
                '\\' :: (Lexeme.quoted .single []).text)) := by
            simp [Lexeme.load, Lexeme.text, Delimiter.opening, Delimiter.closing, crowd]
          have hparts : parts ((Lexeme.quoted (.escape letter) old).load (crowd k)).text =
              [.word [letter]] ++ (parts (Lexeme.quoted .single ['\\']).text ++
                (.symbol ')' :: List.replicate k (.word "FROM".toList) ++ [.symbol '\\'] ++
                  parts (Lexeme.quoted .single []).text)) := by
            rw [htext, parts_word_append (List.cons_ne_nil _ _) (by simpa using hletter)
                (by simpa [Lexeme.text, Delimiter.opening] using hquote),
              parts_append fun _ => by simpa using hparen,
              parts_symbol (c := ')') (by decide) hparen, parts_space (c := '\n') (by decide),
              parts_fromLines, parts_symbol (c := '\\') (by decide) hslash]
            simp
          have hblank : ∀ {content : List Char}, Delimiter.single.Fits content → ∀ bs,
              shown id quoteClosing none (parts (Lexeme.quoted .single content).text ++ bs) =
                shown id quoteClosing none bs := fun hfits bs => by
            simpa using shown_quoted (f := id) (fun _ => rfl) rfl hfits bs
          have hslashFits : Delimiter.single.Fits ['\\'] :=
            .plain (by decide) (fun h => by cases h.1) .nil
          have hkept : ∀ x ∈ .symbol ')' :: List.replicate k (Lexeme.word "FROM".toList) ++
              [.symbol '\\'], (id x).closes? quoteClosing = none := by
            refine List.forall_mem_append.mpr ⟨List.forall_mem_cons.mpr ⟨rfl, fun x hx => ?_⟩,
              by decide⟩
            rw [List.eq_of_mem_replicate hx]
            rfl
          have hfirst : ∀ x ∈ [Lexeme.word [letter]], (id x).closes? quoteClosing = none := by
            simp [Lexeme.closes?]
          rw [hparts, List.append_assoc, List.append_assoc, List.append_assoc, shown_append hfirst,
            hblank hslashFits, shown_append hkept, hblank .nil]
          simp [crowded]
  | unclosed d content => cases ht.not_isUnclosed
  | _ => exact hplain ht.proper rfl trivial

/-- Line by line the parts are those of the tokens. -/
theorem parts_layout (fill : Delimiter → List Char) (ts : List Lexeme) :
    parts (layout '\n' fill ts) = ts.flatMap fun t => parts (t.load fill).text := by
  have hbreak : isWord '\n' = false := not_isWord_of_isSpace (by decide)
  induction ts with
  | nil => rfl
  | cons t ts ih =>
      cases ts with
      | nil => simp [layout]
      | cons t' ts =>
          have hapart : Apart (t.load fill).text ('\n' :: layout '\n' fill (t' :: ts)) :=
            fun _ => by simpa using hbreak
          rw [layout_cons_cons, parts_append hapart, parts_space (by decide), ih]
          rfl

theorem seenParts_crowd (k : Nat) {ts : List Lexeme} (h : ∀ t ∈ ts, t.IsToken) :
    seenParts (layout '\n' (crowd k) ts) = shown id parenClosing none (ts.flatMap (crowded k)) := by
  have hquotes : shown id quoteClosing none
      (ts.flatMap fun t => parts (t.load (crowd k)).text) = ts.flatMap (crowded k) := by
    induction ts with
    | nil => rfl
    | cons t ts ih =>
        obtain ⟨ht, hts⟩ := List.forall_mem_cons.mp h
        rw [List.flatMap_cons, shown_crowd k ht, ih hts, List.flatMap_cons]
  rw [seenParts, parts_layout, hquotes]

/-! ## What is counted -/

omit [Python] [PythonTables] in
/-- In some parts that depend on a number it is counted that often, whatever parenthesis
was opened before them. -/
def Grows (m : Nat) (f : Nat → List Lexeme) : Prop :=
  (∀ k, .symbol ')' ∈ f k ↔ .symbol ')' ∈ f 0) ∧
    ∀ opened : Bool, ∃ base, ∀ k,
      tableCount (shown id parenClosing (bif opened then some ')' else none) (f k)) = base + k * m

omit [Python] [PythonTables] in
theorem Grows.nil : Grows 0 fun _ => [] :=
  ⟨fun _ => Iff.rfl, fun _ => ⟨0, fun k => by simp [tableCount]⟩⟩

omit [Python] [PythonTables] in
theorem Grows.cons {m : Nat} {f : Nat → List Lexeme} (h : Grows m f) (a : Lexeme) :
    Grows m fun k => a :: f k := by
  obtain ⟨hmem, hcount⟩ := h
  refine ⟨fun k => by simp only [List.mem_cons, hmem k], fun opened => ?_⟩
  cases opened with
  | true =>
      by_cases ha : a = .symbol ')'
      · obtain ⟨base, hbase⟩ := hcount false
        exact ⟨base, fun k => by simpa [shown, ha] using hbase k⟩
      · obtain ⟨base, hbase⟩ := hcount true
        exact ⟨base, fun k => by simpa [shown, ha] using hbase k⟩
  | false =>
      by_cases hblock : a = .symbol '(' ∧ .symbol ')' ∈ f 0
      · obtain ⟨base, hbase⟩ := hcount true
        refine ⟨base, fun k => ?_⟩
        have hlater : Lexeme.symbol ')' ∈ (f k).map id := by
          rw [List.map_id]
          exact (hmem k).mpr hblock.2
        have hcloses : (id a).closes? parenClosing = some ')' := by
          rw [hblock.1]
          rfl
        rw [cond_false, shown_cons_of_closes hcloses hlater]
        exact hbase k
      · obtain ⟨base, hbase⟩ := hcount false
        refine ⟨tableCount [a] + base, fun k => ?_⟩
        have hkept : ∀ c, (id a).closes? parenClosing = some c →
            Lexeme.symbol c ∉ (f k).map id := by
          intro c hcloses hlater
          rw [List.map_id] at hlater
          cases a with
          | symbol o =>
              obtain ⟨rfl, rfl⟩ : o = '(' ∧ ')' = c := by
                simpa [Lexeme.closes?, parenClosing] using hcloses
              exact hblock ⟨rfl, (hmem k).mp hlater⟩
          | _ => cases hcloses
        have hcons : a :: shown id parenClosing none (f k) =
            [a] ++ shown id parenClosing none (f k) := rfl
        rw [cond_false, shown_cons_of_not_closes hkept, hcons, tableCount_append, Nat.add_assoc]
        exact congrArg (tableCount [a] + ·) (hbase k)

omit [Python] [PythonTables] in
/-- In front of them the number does not matter. -/
theorem Grows.append {m : Nat} {f : Nat → List Lexeme} (h : Grows m f) (as : List Lexeme) :
    Grows m fun k => as ++ f k := by
  induction as with
  | nil => exact h
  | cons a as ih => exact ih.cons a

omit [Python] [PythonTables] in
/-- After a closing parenthesis each `FROM` is counted. -/
theorem Grows.crowd {m : Nat} {f : Nat → List Lexeme} (h : Grows m f) :
    Grows (m + 1) fun k => .symbol ')' :: (List.replicate k (.word "FROM".toList) ++ f k) := by
  obtain ⟨-, hcount⟩ := h
  obtain ⟨base, hbase⟩ := hcount false
  have hwords : ∀ k, tableCount (shown id parenClosing none
      (List.replicate k (Lexeme.word "FROM".toList) ++ f k)) = base + k * (m + 1) := by
    intro k
    have hopens : ∀ a ∈ List.replicate k (Lexeme.word "FROM".toList),
        (id a).closes? parenClosing = none := fun a ha => by
      rw [List.eq_of_mem_replicate ha]
      rfl
    have hfrom : tableCount (List.replicate k (Lexeme.word "FROM".toList)) = k := by
      simp [tableCount, List.countP_replicate, Lexeme.isWordIn, tableWords]
    have hk := hbase k
    rw [cond_false] at hk
    rw [shown_append hopens, tableCount_append, hfrom, hk, Nat.mul_succ]
    omega
  refine ⟨fun k => by simp, fun opened => ⟨base, fun k => ?_⟩⟩
  cases opened with
  | true => exact hwords k
  | false =>
      have hkept : ∀ c, (id (Lexeme.symbol ')')).closes? parenClosing = some c →
          Lexeme.symbol c ∉ (List.replicate k (Lexeme.word "FROM".toList) ++ f k).map id := by
        intro c hc
        simp [Lexeme.closes?, parenClosing] at hc
      rw [cond_false, shown_cons_of_not_closes hkept, tableCount_symbol]
      exact hwords k

omit [PythonTables] in
/-- In each literal that is no standard one. -/
theorem grows_crowded (ts : List Lexeme) :
    Grows (ts.countP Lexeme.isExtended) fun k => ts.flatMap (crowded k) := by
  induction ts with
  | nil => exact .nil
  | cons t ts ih =>
      have hstandard : t.isExtended = false → (∀ k, crowded k t = bare t) →
          Grows ((t :: ts).countP Lexeme.isExtended) fun k => (t :: ts).flatMap (crowded k) := by
        intro hext hbare
        simpa [hext, hbare] using ih.append (bare t)
      cases t with
      | quoted d old =>
          cases d with
          | dollar tag =>
              have hgrows := ((ih.append (parts ('$' :: (tag ++ ['$'])))).crowd).append
                (parts ('$' :: (tag ++ ['$'])))
              simpa [crowded, Lexeme.isExtended, Delimiter.standard] using hgrows
          | escape letter =>
              have hgrows := (ih.append [.symbol '\\']).crowd.append [.word [letter]]
              simpa [crowded, Lexeme.isExtended, Delimiter.standard] using hgrows
          | _ => exact hstandard rfl fun _ => rfl
      | _ => exact hstandard rfl fun _ => rfl

/-- With a literal that is no standard one the number of tables depends on its contents. -/
theorem numberOfTables_crowd {ts : List Lexeme} (h : ∀ t ∈ ts, t.IsToken) {t : Lexeme}
    (ht : t ∈ ts) (hext : t.isExtended = true) :
    numberOfTables (layout '\n' (crowd 1) ts) < numberOfTables (layout '\n' (crowd 2) ts) := by
  obtain ⟨-, hcount⟩ := grows_crowded ts
  obtain ⟨base, hbase⟩ := hcount false
  have hpos : 0 < ts.countP Lexeme.isExtended := List.countP_pos_iff.mpr ⟨t, ht, hext⟩
  have hone := hbase 1
  have htwo := hbase 2
  rw [cond_false] at hone htwo
  rw [numberOfTables_eq, numberOfTables_eq, seenParts_crowd 1 h, seenParts_crowd 2 h, hone, htwo]
  omega

end

end DbGateway.Repository
