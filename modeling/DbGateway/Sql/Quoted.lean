import DbGateway.Sql.Lexemes

/-!
# DbGateway.Sql.Quoted

Where the lexer is in a quoted text, and where a lexeme has ended: what stands
in an open quote only changes the quoted text, and outside quotes a space or a
symbol ends the lexeme before it.
-/

namespace DbGateway.Sql

open Re

section

variable [Python] [PythonTables]

/-! ## Inside a quoted text -/

omit [Python] [PythonTables] in
/-- A quoted text, closed or not. -/
def literal (closed : Bool) (d : Delimiter) (content : List Char) : Lexeme :=
  if closed then .quoted d content else .unclosed d content

omit [PythonTables] in
/-- The contents so far only change the quoted text. -/
theorem lexFrom_quoted (d : Delimiter) (point : Point) (post : List Char) :
    ∃ closed more rest, ∀ content,
      lexFrom (.quoted d content point) post = literal closed d (content ++ more) :: rest := by
  induction post generalizing point with
  | nil =>
      by_cases hclosed : point = .inside d.closing
      · exact ⟨true, [], [], fun content => by simp [lexFrom, Mode.flush, hclosed, literal]⟩
      · exact ⟨false, point.text, [], fun content => by
          simp [lexFrom, Mode.flush, hclosed, literal]⟩
  | cons c post ih =>
      cases hnext : d.next point c with
      | some part =>
          obtain ⟨closed, more, rest, hrest⟩ := ih part.2
          refine ⟨closed, part.1 ++ more, rest, fun content => ?_⟩
          have hmode : (Mode.quoted d content point).next c =
              some (.quoted d (content ++ part.1) part.2) := by simp [Mode.next, hnext]
          rw [lexFrom_of_next hmode, hrest, List.append_assoc]
      | none =>
          refine ⟨true, [], lex (c :: post), fun content => ?_⟩
          have hmode : (Mode.quoted d content point).next c = none := by simp [Mode.next, hnext]
          have hbreaks : (Mode.quoted d content point).Breaks (c :: post) := fun e he => by
            obtain rfl := Option.some.inj he
            exact Mode.step_of_none (fun _ => Mode.noConfusion) hmode
          rw [lexFrom_of_breaks hbreaks, Delimiter.next_eq_none hnext]
          simp [Mode.flush, literal]

omit [Python] [PythonTables] in
theorem Delimiter.not_prefix_closing {d : Delimiter} (read : List Char) {c : Char}
    (hc : delimits c = false) : read ++ [c] ≠ d.closing ∧ ¬ [c] <+: d.closing := by
  obtain ⟨init, e, hclosing, hlast, hfirst⟩ := d.delimits_closing
  constructor
  · intro h
    rw [hclosing] at h
    rw [← (List.cons.inj (List.append_inj_right' h rfl)).1, hc] at hlast
    cases hlast
  · rintro ⟨rest, hrest⟩
    rw [hfirst c (by rw [← hrest]; rfl)] at hc
    cases hc

omit [Python] [PythonTables] in
theorem Delimiter.closing_ne_nil (d : Delimiter) : d.closing ≠ [] := by
  cases d <;> simp [closing]

omit [Python] [PythonTables] in
/-- Another character belongs to an open quoted text, whatever it is in. -/
theorem Delimiter.exists_next {d : Delimiter} {point : Point} (hopen : point ≠ .inside d.closing)
    {c : Char} (hc : delimits c = false) :
    ∃ added point', d.next point c = some (added, point') ∧ point' ≠ .inside d.closing ∧
      (c ∉ d.closing → point' = .inside []) := by
  have hnil : Point.inside [] ≠ .inside d.closing := fun h =>
    d.closing_ne_nil (Point.inside.inj h).symm
  cases point with
  | escaped => exact ⟨[c], .inside [], rfl, hnil, fun _ => rfl⟩
  | inside read =>
      obtain ⟨hends, hopens⟩ := not_prefix_closing (d := d) read hc
      have hread : read ≠ d.closing := fun h => hopen (by rw [h])
      have hescape : ¬ (d.escapes = true ∧ c = '\\') := by
        rintro ⟨-, rfl⟩
        cases hc
      by_cases hgoes : read ++ [c] <+: d.closing
      · refine ⟨[], .inside (read ++ [c]), by simp [next, hread, hgoes],
          fun h => hends (Point.inside.inj h), fun hmem => ?_⟩
        exact absurd (hgoes.subset (by simp)) hmem
      · exact ⟨read ++ [c], .inside [],
          by simp only [next, if_neg hread, if_neg hgoes, if_neg hescape, if_neg hopens], hnil,
          fun _ => rfl⟩

omit [PythonTables] in
/-- Other characters neither open nor close a quoted text. -/
theorem quoteOpen_concat (cs : List Char) {c : Char} (hc : delimits c = false) :
    quoteOpen (cs ++ [c]) = quoteOpen cs := by
  have hnot := mt delimits_iff.mpr (Bool.eq_false_iff.mp hc)
  simp only [not_or] at hnot
  have hcut : ∀ m : Mode, (m.cut c).2.inQuotes = false := by
    intro m
    simp only [Mode.cut, begin]
    split_ifs <;> simp_all [Mode.inQuotes]
  have hplain : ∀ m : Mode, (∀ t, m ≠ .tag t) → (m.step c).2.inQuotes = m.inQuotes := by
    intro m hm
    cases hnext : m.next c with
    | none =>
        rw [Mode.step_of_none hm hnext, hcut]
        cases m with
        | quoted d content point =>
            have hclosed := Delimiter.next_eq_none (Option.map_eq_none_iff.mp hnext)
            simp [Mode.inQuotes, hclosed]
        | _ => rfl
    | some m' =>
        rw [Mode.step_of_next hnext]
        cases m with
        | code => cases hnext
        | word w =>
            simp only [Mode.next, if_neg hnot.1] at hnext
            split_ifs at hnext with hword hname
            · exact Option.some.inj hnext ▸ rfl
            · exact absurd hname.1 hnot.2.2.1
        | name w =>
            simp only [Mode.next] at hnext
            split_ifs at hnext
            exact Option.some.inj hnext ▸ rfl
        | tag t => exact absurd rfl (hm t)
        | quoted d content point =>
            have hopen : point ≠ .inside d.closing := by
              rintro rfl
              have hdouble : ¬ (d.doubles = true ∧ [c] = d.closing) := fun h =>
                (Delimiter.not_prefix_closing [] hc).1 h.2
              simp [Mode.next, Delimiter.next, hdouble] at hnext
            obtain ⟨added, point', hpart, hopen', -⟩ := Delimiter.exists_next hopen hc
            simp only [Mode.next, hpart, Option.map_some, Option.some.injEq] at hnext
            simp [← hnext, Mode.inQuotes, hopen, hopen']
  rw [quoteOpen, quoteOpen, Mode.after_append]
  change ((Mode.code.after cs).step c).2.inQuotes = _
  generalize Mode.code.after cs = m
  cases m with
  | tag t =>
      cases hnext : (Mode.tag t).next c with
      | some m' =>
          rw [Mode.step_of_next hnext]
          simp only [Mode.next, if_neg hnot.2.2.1] at hnext
          split_ifs at hnext
          exact Option.some.inj hnext ▸ rfl
      | none =>
          rw [Mode.step_tag hnext]
          have hagain := hplain (Mode.again t) fun u => by cases t <;> exact Mode.noConfusion
          exact hagain.trans (by cases t <;> rfl)
  | _ => exact hplain _ fun _ => Mode.noConfusion

omit [PythonTables] in
theorem quoteOpen_append {cs : List Char} (h : ∀ c ∈ cs, delimits c = false) (text : List Char) :
    quoteOpen (text ++ cs) = quoteOpen text := by
  induction cs using List.reverseRecOn with
  | nil => simp
  | append_singleton cs c ih =>
      have hc : delimits c = false := h c (by simp)
      rw [← List.append_assoc, quoteOpen_concat _ hc]
      exact ih fun d hd => h d (by simp [hd])

theorem Mode.Proper.step {m : Mode} (hm : m.Proper) (c : Char) : (m.step c).2.Proper := by
  have hplain : ∀ m : Mode, m.Proper → (∀ t, m ≠ .tag t) → (m.step c).2.Proper := by
    intro m hm htag
    cases hnext : m.next c with
    | some m' => rw [Mode.step_of_next hnext]; exact (hm.next hnext).1
    | none => rw [Mode.step_of_none htag hnext]; exact (proper_begin c).1
  cases m with
  | tag t =>
      cases hnext : (Mode.tag t).next c with
      | some m' => rw [Mode.step_of_next hnext]; exact (hm.next hnext).1
      | none =>
          rw [Mode.step_tag hnext]
          cases t with
          | nil => exact hplain .code trivial fun _ => Mode.noConfusion
          | cons e t => exact hplain (.word (e :: t)) ⟨List.cons_ne_nil _ _, hm.1⟩ fun _ =>
              Mode.noConfusion
  | _ => exact hplain _ hm fun _ => Mode.noConfusion

theorem Mode.proper_after (cs : List Char) : (Mode.code.after cs).Proper := by
  induction cs using List.reverseRecOn with
  | nil => trivial
  | append_singleton cs c ih =>
      rw [Mode.after_append]
      exact ih.step c

omit [PythonTables] in
theorem Delimiter.Proper.notMem_closing {d : Delimiter} (hd : d.Proper) {c : Char}
    (hdelimits : delimits c = false) (hc : isWord c = false) : c ∉ d.closing := by
  have hnot := mt delimits_iff.mpr (Bool.eq_false_iff.mp hdelimits)
  simp only [not_or] at hnot
  cases d with
  | dollar tag =>
      have htag : c ∉ tag := fun hmem => by
        rw [hd.1 c hmem] at hc
        cases hc
      simp [closing, hnot, htag]
  | _ => simp [closing, hnot]

omit [PythonTables] in
theorem lexFrom_inside (d : Delimiter) (content : List Char) {cs : List Char}
    (h : ∀ c ∈ cs, delimits c = false) (post : List Char) :
    lexFrom (.quoted d content (.inside [])) (cs ++ post) =
      lexFrom (.quoted d (content ++ cs) (.inside [])) post := by
  induction cs generalizing content with
  | nil => simp
  | cons c cs ih =>
      have hc := Delimiter.not_prefix_closing (d := d) [] (h c (by simp))
      have hescape : ¬ (d.escapes = true ∧ c = '\\') := by
        rintro ⟨-, rfl⟩
        cases h '\\' (by simp)
      have hpart : d.next (.inside []) c = some ([c], .inside []) := by
        simp only [Delimiter.next, if_neg d.closing_ne_nil.symm, List.nil_append, if_neg hc.2,
          if_neg hescape]
      have hnext : (Mode.quoted d content (.inside [])).next c =
          some (.quoted d (content ++ [c]) (.inside [])) := by simp [Mode.next, hpart]
      rw [List.cons_append, lexFrom_of_next hnext, ih _ fun e he => h e (by simp [he])]
      simp

omit [PythonTables] in
/-- A text without delimiters goes on with an open quoted text. -/
theorem exists_lexFrom_open {d : Delimiter} {point : Point} (hopen : point ≠ .inside d.closing)
    {cs : List Char} (h : ∀ c ∈ cs, delimits c = false) (content post : List Char) :
    ∃ content' point', content' ++ point'.text = content ++ point.text ++ cs ∧
      point' ≠ .inside d.closing ∧
        lexFrom (.quoted d content point) (cs ++ post) =
          lexFrom (.quoted d content' point') post := by
  induction cs generalizing content point with
  | nil => exact ⟨content, point, by simp, hopen, rfl⟩
  | cons c cs ih =>
      obtain ⟨added, point', hpart, hopen', -⟩ := Delimiter.exists_next hopen (h c (by simp))
      obtain ⟨content'', point'', htext, hopen'', hlex⟩ :=
        ih hopen' (fun e he => h e (by simp [he])) (content ++ added)
      have hnext : (Mode.quoted d content point).next c =
          some (.quoted d (content ++ added) point') := by simp [Mode.next, hpart]
      have hadded := Delimiter.next_text hpart
      refine ⟨content'', point'', ?_, hopen'',
        by rw [List.cons_append, lexFrom_of_next hnext, hlex]⟩
      simp only at hadded
      rw [htext, List.append_assoc content, hadded]
      simp

omit [PythonTables] in
/-- Where it has a character that the delimiter has not, it is read. -/
theorem lexFrom_open {d : Delimiter} {point : Point} (hopen : point ≠ .inside d.closing)
    {cs : List Char} (h : ∀ c ∈ cs, delimits c = false) (hfree : ∃ c ∈ cs, c ∉ d.closing)
    (content post : List Char) :
    lexFrom (.quoted d content point) (cs ++ post) =
      lexFrom (.quoted d (content ++ point.text ++ cs) (.inside [])) post := by
  obtain ⟨c, hc, hnot⟩ := hfree
  obtain ⟨as, bs, rfl⟩ := List.append_of_mem hc
  obtain ⟨has, hcbs⟩ := List.forall_mem_append.mp h
  obtain ⟨hcd, hbs⟩ := List.forall_mem_cons.mp hcbs
  obtain ⟨content', point', htext, hopen', hlex⟩ :=
    exists_lexFrom_open hopen has content (c :: (bs ++ post))
  obtain ⟨added, point'', hpart, -, hinside⟩ := Delimiter.exists_next hopen' hcd
  obtain rfl := hinside hnot
  have hnext : (Mode.quoted d content' point').next c =
      some (.quoted d (content' ++ added) (.inside [])) := by simp [Mode.next, hpart]
  have hadded : added ++ [] = point'.text ++ [c] := Delimiter.next_text hpart
  rw [List.append_nil] at hadded
  rw [List.append_assoc, List.cons_append, hlex, lexFrom_of_next hnext, lexFrom_inside d _ hbs,
    hadded, ← List.append_assoc content', htext]
  simp

/-- What stands in an open quote, with a space, only changes the quoted text. -/
theorem lex_quoteOpen {pre : List Char} (h : quoteOpen pre = true) (post : List Char) :
    ∃ d content closed more rest, ∀ cs, (∀ c ∈ cs, delimits c = false) →
      (∃ c ∈ cs, isSpace c = true) → lex (pre ++ (cs ++ post)) =
        Mode.code.completed pre ++ literal closed d (content ++ cs ++ more) :: rest := by
  have hproper := Mode.proper_after pre
  rw [quoteOpen] at h
  cases hmode : Mode.code.after pre with
  | quoted d content point =>
      rw [hmode] at hproper h
      have hopen : point ≠ .inside d.closing := by simpa [Mode.inQuotes] using h
      obtain ⟨closed, more, rest, hrest⟩ := lexFrom_quoted d (.inside []) post
      refine ⟨d, content ++ point.text, closed, more, rest, fun cs hcs hspace => ?_⟩
      obtain ⟨c, hc, hspace⟩ := hspace
      have hfree : c ∉ d.closing :=
        hproper.1.notMem_closing (hcs c hc) (not_isWord_of_isSpace hspace)
      rw [lex, lexFrom_append, hmode, lexFrom_open hopen hcs ⟨c, hc, hfree⟩, hrest]
  | _ => simp [hmode, Mode.inQuotes] at h

omit [PythonTables] in
/-- At the end any text is. -/
theorem lex_quoteOpen_end {pre : List Char} (h : quoteOpen pre = true) :
    ∃ d content, ∀ cs, (∀ c ∈ cs, delimits c = false) →
      lex (pre ++ cs) = Mode.code.completed pre ++ [.unclosed d (content ++ cs)] := by
  rw [quoteOpen] at h
  cases hmode : Mode.code.after pre with
  | quoted d content point =>
      rw [hmode] at h
      have hopen : point ≠ .inside d.closing := by simpa [Mode.inQuotes] using h
      refine ⟨d, content ++ point.text, fun cs hcs => ?_⟩
      obtain ⟨content', point', htext, hopen', hlex⟩ := exists_lexFrom_open hopen hcs content []
      rw [List.append_nil] at hlex
      rw [lex, lexFrom_append, hmode, hlex, lexFrom, Mode.flush, if_neg hopen', htext]
  | _ => simp [hmode, Mode.inQuotes] at h

/-! ## A whole quoted text -/

omit [PythonTables] in
/-- Contents that are read as they stand. -/
def Delimiter.Reads (d : Delimiter) (content : List Char) : Prop :=
  ∀ before rest, lexFrom (.quoted d before (.inside [])) (content ++ rest) =
    lexFrom (.quoted d (before ++ content) (.inside [])) rest

omit [PythonTables] in
/-- What can be written is read. -/
theorem Delimiter.Fits.reads {d : Delimiter} {content : List Char} (h : d.Fits content) :
    d.Reads content := by
  have hstep : ∀ {before added : List Char} {point point' : Point} {c : Char},
      d.next point c = some (added, point') → ∀ rest,
        lexFrom (.quoted d before point) (c :: rest) =
          lexFrom (.quoted d (before ++ added) point') rest := fun hnext rest =>
    lexFrom_of_next (by simp [Mode.next, hnext]) rest
  have hnil : ([] : List Char) ≠ d.closing := d.closing_ne_nil.symm
  induction h with
  | nil => exact fun before rest => by simp
  | @plain c cs hc hescape _ ih =>
      intro before rest
      have hprefix : ¬ [c] <+: d.closing := fun h => hc (h.subset (by simp))
      have hnext : d.next (.inside []) c = some ([c], .inside []) := by
        simp only [next, if_neg hnil, List.nil_append, if_neg hprefix, if_neg hescape]
      rw [List.cons_append, hstep hnext, ih, List.append_assoc, List.singleton_append]
  | @doubled c cs hd hc _ ih =>
      intro before rest
      have hnext : d.next (.inside []) c = some ([], .inside [c]) := by
        simp [next, hc, hnil]
      have hnext' : d.next (.inside [c]) c = some ([c, c], .inside []) := by
        simp [next, hc, hd]
      rw [List.cons_append, List.cons_append, hstep hnext, hstep hnext', ih]
      simp
  | @escaped c cs hd _ ih =>
      intro before rest
      have hprefix : ¬ ['\\'] <+: d.closing := by cases d <;> simp_all [escapes, closing]
      have hnext : d.next (.inside []) '\\' = some (['\\'], .escaped) := by
        simp only [next, if_neg hnil, List.nil_append, if_neg hprefix, hd, true_and, if_true]
      rw [List.cons_append, List.cons_append, hstep hnext, hstep rfl, ih]
      simp

omit [PythonTables] in
theorem Delimiter.reads_of_not_delimits (d : Delimiter) {content : List Char}
    (h : ∀ c ∈ content, delimits c = false) : d.Reads content :=
  fun before rest => lexFrom_inside d before h rest

omit [PythonTables] in
/-- The closing delimiter ends a quoted text that is not doubled there. -/
theorem lexFrom_closing (d : Delimiter) (content : List Char) {rest : List Char}
    (hrest : ∀ c ∈ rest.head?, [c] ≠ d.closing) :
    lexFrom (.quoted d content (.inside [])) (d.closing ++ rest) =
      .quoted d content :: lex rest := by
  have hread : ∀ s p, d.closing = p ++ s → lexFrom (.quoted d content (.inside p)) (s ++ rest) =
      lexFrom (.quoted d content (.inside d.closing)) rest := by
    intro s
    induction s with
    | nil =>
        intro p hp
        rw [hp]
        simp
    | cons c s ih =>
        intro p hp
        have hne : p ≠ d.closing := fun h => by simp [h] at hp
        have hprefix : p ++ [c] <+: d.closing := ⟨s, by simp [hp]⟩
        have hnext : (Mode.quoted d content (.inside p)).next c =
            some (.quoted d content (.inside (p ++ [c]))) := by
          simp [Mode.next, Delimiter.next, hne, hprefix]
        rw [List.cons_append, lexFrom_of_next hnext]
        exact ih (p ++ [c]) (by simp [hp])
  have hbreaks : (Mode.quoted d content (.inside d.closing)).Breaks rest := fun c hc =>
    Mode.step_of_none (fun _ => Mode.noConfusion)
      (by simp [Mode.next, Delimiter.next, hrest c hc])
  rw [hread d.closing [] rfl, lexFrom_of_breaks hbreaks]
  simp [Mode.flush]

omit [Python] [PythonTables] in
theorem startsName_append {u : List Char} (hu : u ≠ []) (v : List Char) :
    startsName (u ++ v) = startsName u := by
  obtain ⟨c, u, rfl⟩ := List.exists_cons_of_ne_nil hu
  rfl

/-- The opening delimiter opens a quoted text. -/
theorem Delimiter.Proper.lex_opening {d : Delimiter} (hd : d.Proper) (rest : List Char) :
    lex (d.opening ++ rest) = lexFrom (.quoted d [] (.inside [])) rest := by
  have hquote : ∀ {c : Char}, delimits c = true → isSpace c = false ∧ isWord c = false :=
    fun hc => ⟨not_isSpace_of_delimits hc, not_isWord_of_delimits hc⟩
  cases d with
  | single =>
      obtain ⟨hspace, hword⟩ := hquote (c := '\'') (by decide)
      simp [opening, lex_cons, begin, hspace, hword]
  | double =>
      obtain ⟨hspace, hword⟩ := hquote (c := '"') (by decide)
      simp [opening, lex_cons, begin, hspace, hword]
  | escape letter =>
      have hletter : isWord letter = true := isWord_of_isAlphanum (by
        rcases hd with rfl | rfl <;> decide)
      have hescape : escapeLetter [letter] = some letter := if_pos hd
      have hnext : (Mode.word [letter]).next '\'' =
          some (.quoted (.escape letter) [] (.inside [])) := by
        simp [Mode.next, (hquote (c := '\'') (by decide)).2, hescape]
      rw [opening, List.cons_append, lex_cons, begin_word hletter, List.nil_append,
        List.cons_append, lexFrom_of_next hnext, List.nil_append]
  | dollar tag =>
      obtain ⟨hspace, hword⟩ := hquote (c := '$') (by decide)
      have hbegin : begin '$' = ([], .tag []) := by simp [begin, hspace, hword]
      have hread : ∀ s t, tag = t ++ s → lexFrom (.tag t) (s ++ '$' :: rest) =
          lexFrom (.tag tag) ('$' :: rest) := by
        intro s
        induction s with
        | nil =>
            intro t ht
            rw [ht, List.append_nil, List.nil_append]
        | cons c s ih =>
            intro t ht
            have hc : isWord c = true := hd.1 c (by simp [ht])
            have hdollar : c ≠ '$' := by
              rintro rfl
              rw [hword] at hc
              cases hc
            have hstarts : startsName (t ++ [c]) = true := by
              have hwhole := hd.2 (by simp [ht])
              rwa [ht, ← List.singleton_append, ← List.append_assoc,
                startsName_append (by simp)] at hwhole
            have hnext : (Mode.tag t).next c = some (.tag (t ++ [c])) := by
              simp [Mode.next, hdollar, hc, hstarts]
            rw [List.cons_append, lexFrom_of_next hnext]
            exact ih (t ++ [c]) (by simp [ht])
      have hnext : (Mode.tag tag).next '$' = some (.quoted (.dollar tag) [] (.inside [])) := by
        simp [Mode.next]
      rw [opening, List.cons_append, lex_cons, hbegin, List.nil_append, List.append_assoc,
        List.singleton_append, hread tag [] rfl, lexFrom_of_next hnext]

/-- A quoted text is read as one. -/
theorem lex_quoted {d : Delimiter} (hd : d.Proper) {content : List Char} (h : d.Reads content)
    {rest : List Char} (hrest : ∀ c ∈ rest.head?, [c] ≠ d.closing) :
    lex ((Lexeme.quoted d content).text ++ rest) = .quoted d content :: lex rest := by
  rw [Lexeme.text, List.append_assoc, hd.lex_opening, List.append_assoc, h, List.nil_append,
    lexFrom_closing d content hrest]

/-! ## Where a lexeme ends -/

omit [PythonTables] in
/-- A character outside words and delimiters ends the lexeme before it. -/
theorem Mode.breaks_of_head {m : Mode} {rest : List Char} (hcode : m.inQuotes = false)
    (hhead : ∀ c ∈ rest.head?, isWord c = false ∧ delimits c = false) : m.Breaks rest := by
  intro c hc
  obtain ⟨hword, hdelimits⟩ := hhead c hc
  have hnot := mt delimits_iff.mpr (Bool.eq_false_iff.mp hdelimits)
  simp only [not_or] at hnot
  have hwordEnds : ∀ w, (Mode.word w).next c = none := fun w => by
    simp [Mode.next, hword, hnot]
  cases m with
  | code => exact Mode.step_of_none (fun _ => Mode.noConfusion) rfl
  | word w => exact Mode.step_of_none (fun _ => Mode.noConfusion) (hwordEnds w)
  | name w => exact Mode.step_of_none (fun _ => Mode.noConfusion) (by simp [Mode.next, hword, hnot])
  | tag t =>
      have hnext : (Mode.tag t).next c = none := by simp [Mode.next, hword, hnot]
      rw [Mode.step_tag hnext]
      cases t with
      | nil =>
          rw [Mode.again, Mode.step_code]
          rfl
      | cons e t =>
          rw [Mode.again, Mode.step_of_none (fun _ => Mode.noConfusion) (hwordEnds _)]
          rfl
  | quoted d content point =>
      obtain rfl : point = .inside d.closing := by simpa [Mode.inQuotes] using hcode
      have hdouble : ¬ (d.doubles = true ∧ [c] = d.closing) := fun h =>
        (Delimiter.not_prefix_closing [] hdelimits).1 h.2
      exact Mode.step_of_none (fun _ => Mode.noConfusion)
        (by simp [Mode.next, Delimiter.next, hdouble])

omit [PythonTables] in
/-- A text ends with the lexeme the lexer is in. -/
theorem exists_pending (cs : List Char) :
    ∃ before, cs = before ++ (Mode.code.after cs).pending := by
  refine ⟨(Mode.code.completed cs).flatMap Lexeme.text, ?_⟩
  have hlex : lex cs = Mode.code.completed cs ++ (Mode.code.after cs).flush := lexFrom_eq _ cs
  have htext := flatMap_text_lex cs
  rw [hlex, List.flatMap_append, Mode.flatMap_text_flush] at htext
  exact htext.symm

/-- A word after a boundary, outside quotes and names, is a lexeme of its own. -/
theorem lexFrom_boundary {pre : List Char} (hcode : quoteOpen pre = false)
    (hname : nameOpen pre = false) (hbefore : pre.getLast?.any isWord = false) {w : List Char}
    (hne : w ≠ []) (hw : ∀ c ∈ w, isWord c = true) {rest : List Char}
    (hspace : ∃ c ∈ rest.head?, isSpace c = true) :
    lexFrom (Mode.code.after pre) (w ++ rest) =
      (Mode.code.after pre).flush ++ lexFrom (.word w) rest := by
  have hproper := Mode.proper_after pre
  obtain ⟨before, hpending⟩ := exists_pending pre
  obtain ⟨c, w', hcons⟩ := List.exists_cons_of_ne_nil hne
  have hc : isWord c = true := hw c (by simp [hcons])
  have hnot := mt delimits_iff.mpr (Bool.eq_false_iff.mp (not_delimits_of_isWord hc))
  simp only [not_or] at hnot
  have hends : (Mode.code.after pre).Breaks (w ++ rest) →
      lexFrom (Mode.code.after pre) (w ++ rest) =
        (Mode.code.after pre).flush ++ lexFrom (.word w) rest := fun hbreaks => by
    rw [lexFrom_of_breaks hbreaks, lex_word_append hne hw]
  rw [quoteOpen] at hcode
  rw [nameOpen] at hname
  generalize Mode.code.after pre = m at hproper hpending hcode hname hends
  have hlast : ∀ v, m.pending = v → v ≠ [] → v.getLast?.any isWord = false := by
    rintro v rfl hv
    rwa [hpending, List.getLast?_append_of_ne_nil _ hv] at hbefore
  cases m with
  | code => exact lex_word_append hne hw rest
  | word v =>
      have hv := hlast v rfl hproper.1
      rw [List.getLast?_eq_some_getLast hproper.1, Option.any_some,
        hproper.2 _ (List.getLast_mem _)] at hv
      cases hv
  | name v => cases hname
  | tag t =>
      cases t with
      | cons e t =>
          have ht := hlast ('$' :: e :: t) rfl (List.cons_ne_nil _ _)
          rw [List.getLast?_cons_cons, List.getLast?_eq_some_getLast (List.cons_ne_nil _ _),
            Option.any_some, hproper.1 _ (List.getLast_mem _)] at ht
          cases ht
      | nil =>
          obtain ⟨b, hb, hspace⟩ := hspace
          obtain ⟨rest, rfl⟩ : ∃ rest', rest = b :: rest' := by
            cases rest with
            | nil => cases hb
            | cons b' rest => exact ⟨rest, by rw [Option.some.inj hb]⟩
          have hbnot := mt delimits_iff.mpr (Bool.eq_false_iff.mp (not_delimits_of_isSpace hspace))
          simp only [not_or] at hbnot
          have hbword := not_isWord_of_isSpace hspace
          by_cases hstarts : startsName w = true
          · -- what may be a tag is read again where it ends
            have htag : ∀ (t cs : List Char), (∀ e ∈ cs, isWord e = true) →
                startsName (t ++ cs.take 1) = true → lexFrom (.tag t) (cs ++ b :: rest) =
                  lexFrom (.tag (t ++ cs)) (b :: rest) := by
              intro t cs
              induction cs generalizing t with
              | nil => simp
              | cons e cs ih =>
                  intro hcs ht
                  have he : isWord e = true := hcs e (by simp)
                  have hdollar : e ≠ '$' := by
                    rintro rfl
                    rw [not_isWord_of_delimits (by decide)] at he
                    cases he
                  have ht' : startsName (t ++ [e]) = true := by simpa using ht
                  have hnext : (Mode.tag t).next e = some (.tag (t ++ [e])) := by
                    simp [Mode.next, hdollar, he, ht']
                  have hmore : startsName (t ++ [e] ++ cs.take 1) = true := by
                    cases t <;> simpa [startsName] using ht'
                  rw [List.cons_append, lexFrom_of_next hnext,
                    ih _ (fun e' he' => hcs e' (by simp [he'])) hmore]
                  simp
            have hfirst : startsName ([] ++ w.take 1) = true := by
              simpa [startsName, hcons] using hstarts
            have hnext : (Mode.tag w).next b = none := by simp [Mode.next, hbnot, hbword]
            rw [htag [] w hw hfirst, List.nil_append, lexFrom, Mode.step_tag hnext, hcons]
            rfl
          · have hnext : (Mode.tag []).next c = none := by
              have hc' : startsName [c] = false := by simpa [startsName, hcons] using hstarts
              simp [Mode.next, hnot, hc']
            refine hends fun e he => ?_
            obtain rfl : c = e := by simpa [hcons] using he
            rw [Mode.step_tag hnext, Mode.again, Mode.step_code]
            rfl
  | quoted d content point =>
      obtain rfl : point = .inside d.closing := by simpa [Mode.inQuotes] using hcode
      have hdouble : ¬ (d.doubles = true ∧ [c] = d.closing) := fun h =>
        (Delimiter.not_prefix_closing [] (not_delimits_of_isWord hc)).1 h.2
      refine hends fun e he => ?_
      obtain rfl : c = e := by simpa [hcons] using he
      exact Mode.step_of_none (fun _ => Mode.noConfusion)
        (by simp [Mode.next, Delimiter.next, hdouble])

end

end DbGateway.Sql
