import DbGateway.Repository.Cost

/-!
# DbGateway.Repository.CostTables

Which tables `estimate_query_cost` counts.  The pattern for a parenthesized
block ends at the next closing parenthesis, so what follows a block nested in
another one is taken for a part of the outermost query; and the pattern for
string literals knows neither dollar quotes nor backslashes.
-/

namespace DbGateway.Repository

open Re Sql

/-! ## Depth -/

/-- The parentheses of a text close each other, from a depth on. -/
def balancedFrom : Nat → List Lexeme → Bool
  | depth, [] => depth == 0
  | depth, l :: ls =>
      if l = .symbol '(' then balancedFrom (depth + 1) ls
      else if l = .symbol ')' then decide (0 < depth) && balancedFrom (depth - 1) ls
      else balancedFrom depth ls

/-- The lexemes outside parentheses. -/
def outermost : Nat → List Lexeme → List Lexeme
  | _, [] => []
  | depth, l :: ls =>
      if l = .symbol '(' then outermost (depth + 1) ls
      else if l = .symbol ')' then outermost (depth - 1) ls
      else if depth = 0 then l :: outermost depth ls
      else outermost depth ls

theorem mem_of_balancedFrom {depth : Nat} {ls : List Lexeme} (h : balancedFrom depth ls = true)
    (hdepth : 0 < depth) : .symbol ')' ∈ ls := by
  induction ls generalizing depth with
  | nil =>
      have hzero : depth = 0 := by simpa [balancedFrom] using h
      omega
  | cons l ls ih =>
      by_cases hclose : l = .symbol ')'
      · simp [hclose]
      · rw [balancedFrom, if_neg hclose] at h
        split at h
        · exact List.mem_cons_of_mem _ (ih h (by omega))
        · exact List.mem_cons_of_mem _ (ih h hdepth)

@[simp] theorem tableCount_symbol (c : Char) (ls : List Lexeme) :
    tableCount (.symbol c :: ls) = tableCount ls := by
  simp [tableCount, Lexeme.isWordIn]

theorem tableCount_append (as bs : List Lexeme) :
    tableCount (as ++ bs) = tableCount as + tableCount bs := by
  simp [tableCount]

/-- What is outside parentheses goes on at the depth a text ends at. -/
theorem exists_outermost_append (depth : Nat) (as : List Lexeme) :
    ∃ after, ∀ bs, outermost depth (as ++ bs) = outermost depth as ++ outermost after bs := by
  induction as generalizing depth with
  | nil => exact ⟨depth, fun bs => rfl⟩
  | cons l as ih =>
      by_cases hopen : l = .symbol '('
      · obtain ⟨after, hafter⟩ := ih (depth + 1)
        exact ⟨after, fun bs => by simp [outermost, hopen, hafter]⟩
      · by_cases hclose : l = .symbol ')'
        · obtain ⟨after, hafter⟩ := ih (depth - 1)
          exact ⟨after, fun bs => by simp [outermost, hclose, hafter]⟩
        · obtain ⟨after, hafter⟩ := ih depth
          refine ⟨after, fun bs => ?_⟩
          by_cases hdepth : depth = 0
          · simp [outermost, hopen, hclose, hdepth] at hafter ⊢
            exact hafter bs
          · simp [outermost, hopen, hclose, hdepth, hafter]

/-- Nothing of a block is outside parentheses. -/
theorem outermost_block (depth inner : Nat) {bs : List Lexeme} (h : balancedFrom inner bs = true)
    (hdepth : 0 < depth) (cs : List Lexeme) :
    outermost (depth + inner) (bs ++ cs) = outermost depth cs := by
  induction bs generalizing inner with
  | nil =>
      have hzero : inner = 0 := by simpa [balancedFrom] using h
      simp [hzero]
  | cons l bs ih =>
      rw [balancedFrom] at h
      rw [List.cons_append, outermost]
      by_cases hopen : l = .symbol '('
      · simp only [if_pos hopen] at h ⊢
        exact ih (inner + 1) h
      · simp only [if_neg hopen] at h ⊢
        by_cases hclose : l = .symbol ')'
        · simp only [if_pos hclose, Bool.and_eq_true, decide_eq_true_eq] at h ⊢
          have hrest := ih (inner - 1) h.2
          rwa [show depth + inner - 1 = depth + (inner - 1) by omega]
        · simp only [if_neg hclose] at h ⊢
          rw [if_neg (by omega)]
          exact ih inner h

section

variable [Python]

/-- Quotes and parentheses close. -/
def Balanced (cs : List Char) : Prop := closed cs = true ∧ balancedFrom 0 (lex cs) = true

instance (cs : List Char) : Decidable (Balanced cs) := inferInstanceAs (Decidable (_ ∧ _))

/-- The `FROM` and `JOIN` keywords of the outermost query. -/
def outermostTables (cs : List Char) : Nat := tableCount (outermost 0 (lex cs))

/-! ## What is counted -/

/-- The parts of some lexemes, each with whether it is a word of the outermost
query. -/
def markedFrom : Nat → List Lexeme → List (Bool × Lexeme)
  | _, [] => []
  | depth, l :: ls =>
      (parts l.text).map (Prod.mk (decide (depth = 0) && l.isWord)) ++
        markedFrom (l.depthAfter depth) ls

/-- What the substitutions leave of them. -/
def visible (marked : List (Bool × Lexeme)) : List (Bool × Lexeme) :=
  shown Prod.snd parenClosing none (shown Prod.snd quoteClosing none marked)

/-- A `FROM` or `JOIN` of the outermost query. -/
def isOwn (part : Bool × Lexeme) : Bool := part.1 && part.2.isWordIn tableWords

/-- Any other `FROM` or `JOIN`. -/
def isStray (part : Bool × Lexeme) : Bool := !part.1 && part.2.isWordIn tableWords

/-- The `FROM` and `JOIN` keywords of the outermost query that are blanked out. -/
def hiddenTables (cs : List Char) : Nat :=
  outermostTables cs - (visible (markedFrom 0 (lex cs))).countP isOwn

/-- The other `FROM` and `JOIN` words, of inner queries and in literals, that are not. -/
def strayTables (cs : List Char) : Nat := (visible (markedFrom 0 (lex cs))).countP isStray

/-- As many keywords of the outermost query are blanked out as other words are not,
or both ways there is one table at most. -/
def TablesCounted (cs : List Char) : Prop :=
  hiddenTables cs = strayTables cs ∨
    outermostTables cs ≤ 1 ∧ outermostTables cs + strayTables cs ≤ hiddenTables cs + 1

instance (cs : List Char) : Decidable (TablesCounted cs) := inferInstanceAs (Decidable (_ ∨ _))

variable [PythonTables]

omit [PythonTables] in
theorem map_snd_markedFrom (depth : Nat) (ls : List Lexeme) :
    (markedFrom depth ls).map Prod.snd = ls.flatMap fun l => parts l.text := by
  induction ls generalizing depth with
  | nil => rfl
  | cons l ls ih => simp [markedFrom, ih, Function.comp_def]

omit [PythonTables] in
/-- The words of the outermost query are its lexemes. -/
theorem countP_isOwn (depth : Nat) {ls : List Lexeme} (h : ∀ l ∈ ls, l.Proper) :
    (markedFrom depth ls).countP isOwn = tableCount (outermost depth ls) := by
  induction ls generalizing depth with
  | nil => rfl
  | cons l ls ih =>
      obtain ⟨hl, hls⟩ := List.forall_mem_cons.mp h
      have hnone : l.isWord = false → (markedFrom depth (l :: ls)).countP isOwn =
          tableCount (outermost (l.depthAfter depth) ls) := by
        intro hword
        rw [← ih _ hls, markedFrom, List.countP_append, List.countP_map]
        simp [hword, isOwn, Function.comp_def]
      cases l with
      | word w =>
          have hparts : parts (Lexeme.word w).text = [.word w] := parts_word hl.1 hl.2
          by_cases hdepth : depth = 0
          · simp [markedFrom, hparts, outermost, hdepth, isOwn, Lexeme.isWord, Lexeme.depthAfter,
              tableCount, List.countP_cons, ih 0 hls]
          · simp [markedFrom, hparts, outermost, hdepth, isOwn, Lexeme.isWord, Lexeme.depthAfter,
              ih depth hls]
      | symbol c =>
          rw [hnone rfl, outermost, Lexeme.depthAfter]
          split_ifs <;> simp
      | _ =>
          rw [hnone rfl, outermost, Lexeme.depthAfter]
          split_ifs <;> simp_all [tableCount, Lexeme.isWordIn]

theorem numberOfTables_eq_visible (cs : List Char) : hiddenTables cs ≤ outermostTables cs ∧
    numberOfTables cs = max 1 (outermostTables cs - hiddenTables cs + strayTables cs) := by
  have hown : (markedFrom 0 (lex cs)).countP isOwn = outermostTables cs :=
    countP_isOwn 0 fun l hl => proper_of_mem_lex hl
  have hsublist : (visible (markedFrom 0 (lex cs))).Sublist (markedFrom 0 (lex cs)) :=
    (shown_sublist none _).trans (shown_sublist none _)
  have hless : (visible (markedFrom 0 (lex cs))).countP isOwn ≤
      (markedFrom 0 (lex cs)).countP isOwn := hsublist.countP_le
  have hseen : (visible (markedFrom 0 (lex cs))).map Prod.snd = seenParts cs := by
    have hmap : ∀ (closing : Char → Option Char) (marked : List (Bool × Lexeme)),
        (shown Prod.snd closing none marked).map Prod.snd =
          shown id closing none (marked.map Prod.snd) := fun closing marked =>
      @map_shown Lexeme (Bool × Lexeme) id closing Prod.snd none marked
    rw [visible, hmap, hmap, map_snd_markedFrom, ← parts_eq, seenParts]
  have hcount : tableCount (seenParts cs) =
      (visible (markedFrom 0 (lex cs))).countP isOwn + strayTables cs := by
    rw [← hseen, tableCount, List.countP_map, strayTables]
    induction visible (markedFrom 0 (lex cs)) with
    | nil => rfl
    | cons part visible ih =>
        obtain ⟨own, x⟩ := part
        simp only [List.countP_cons, ih]
        cases own <;> simp [isOwn, isStray] <;> omega
  rw [numberOfTables_eq, hcount, hiddenTables]
  exact ⟨by omega, by congr 1; omega⟩

/-! ## Statements whose literals are plain -/

omit [Python] [PythonTables] in
/-- A literal that looks alike to the patterns: without quotes and parentheses between
dollar signs, and without a backslash in front of a quote. -/
def IsPlain : Lexeme → Prop
  | .quoted (.dollar _) content => ∀ c ∈ content, isQuote c = false ∧ c ≠ '(' ∧ c ≠ ')'
  | .quoted (.escape _) content => Delimiter.single.Fits content
  | _ => True

omit [PythonTables] in
/-- What is left of a plain lexeme without string literals. -/
def bare : Lexeme → List Lexeme
  | .quoted .single _ => []
  | .quoted .double _ => []
  | .quoted (.escape letter) _ => [.word [letter]]
  | l => parts l.text

omit [PythonTables] in
/-- The words that are taken for words of the outermost query: those inside
parentheses that follow a nested block, those with a dollar sign and those between
dollar signs.  The flag says that the last parenthesis was opened. -/
def strays : Nat → Bool → List Lexeme → List Lexeme
  | _, _, [] => []
  | depth, opened, l :: ls =>
      if l = .symbol '(' then strays (depth + 1) true ls
      else if l = .symbol ')' then strays (depth - 1) false ls
      else if opened || (decide (depth = 0) && l.isWord) then strays depth opened ls
      else bare l ++ strays depth opened ls

omit [PythonTables] in
/-- What is left of some lexemes without string literals. -/
def bareFrom : Nat → List Lexeme → List (Bool × Lexeme)
  | _, [] => []
  | depth, l :: ls =>
      (bare l).map (Prod.mk (decide (depth = 0) && l.isWord)) ++ bareFrom (l.depthAfter depth) ls

theorem not_isQuote_of_isWord {c : Char} (hc : isWord c = true) : isQuote c = false := by
  by_contra hq
  rw [not_isWord_of_delimits (delimits_of_isQuote (by simpa using hq))] at hc
  cases hc

omit [PythonTables] in
/-- Nothing is blanked out of a text without quotes. -/
theorem shown_parts {α : Type} {key : α → Lexeme} {f : Lexeme → α} (hf : ∀ x, key (f x) = x)
    {cs : List Char} (h : ∀ c ∈ cs, isQuote c = false) (bs : List α) :
    shown key quoteClosing none ((parts cs).map f ++ bs) =
      (parts cs).map f ++ shown key quoteClosing none bs := by
  refine shown_append (fun a ha => ?_) bs
  obtain ⟨x, hx, rfl⟩ := List.mem_map.mp ha
  rw [hf]
  exact closes?_eq_none_of_parts (fun c hc => by simp [quoteClosing, h c hc]) x hx

/-- Without string literals this is left of a plain lexeme. -/
theorem shown_bare {α : Type} {key : α → Lexeme} {f : Lexeme → α} (hf : ∀ x, key (f x) = x)
    {l : Lexeme} (hl : l.Proper) (hclosed : l.isUnclosed = false) (hplain : IsPlain l)
    (bs : List α) : shown key quoteClosing none ((parts l.text).map f ++ bs) =
      (bare l).map f ++ shown key quoteClosing none bs := by
  have hkept : (∀ c ∈ l.text, isQuote c = false) → bare l = parts l.text →
      shown key quoteClosing none ((parts l.text).map f ++ bs) =
        (bare l).map f ++ shown key quoteClosing none bs := fun hquotes hbare => by
    rw [shown_parts hf hquotes, hbare]
  cases l with
  | space c =>
      refine hkept (fun d hd => ?_) rfl
      obtain rfl : d = c := List.mem_singleton.mp hd
      by_contra hq
      rw [Lexeme.Proper, not_isSpace_of_delimits (delimits_of_isQuote (by simpa using hq))] at hl
      cases hl
  | word w => exact hkept (fun c hc => not_isQuote_of_isWord (hl.2 c hc)) rfl
  | name w =>
      refine hkept (fun c hc => ?_) rfl
      obtain ⟨u, v, rfl, -, hu, hv⟩ := hl
      simp only [Lexeme.text, List.mem_append, List.mem_cons] at hc
      rcases hc with hc | rfl | hc
      · exact not_isQuote_of_isWord (hu c hc)
      · decide
      · rcases hv c hc with hc | rfl
        · exact not_isQuote_of_isWord hc
        · decide
  | symbol c =>
      refine hkept (fun d hd => ?_) rfl
      obtain rfl : d = c := List.mem_singleton.mp hd
      exact hl.2.2
  | unclosed d content => cases hclosed
  | quoted d content =>
      cases d with
      | single => exact shown_quoted hf rfl (hl.2 rfl) bs
      | double => exact shown_quoted hf rfl (hl.2 rfl) bs
      | escape letter =>
          -- the letter is a word, and the quoted text behind it is blanked out
          have hletter : isWord letter = true := isWord_of_isAlphanum (by
            rcases hl.1 with rfl | rfl <;> decide)
          have hquote : isWord '\'' = false := not_isWord_of_delimits (by decide)
          have hparts : parts (Lexeme.quoted (.escape letter) content).text =
              .word [letter] :: parts (Lexeme.quoted .single content).text :=
            parts_word_append (List.cons_ne_nil letter []) (by simpa using hletter)
              (by simpa [Lexeme.text, Delimiter.opening] using hquote)
          have hword : ∀ c, (key (f (.word [letter]))).closes? quoteClosing = some c →
              Lexeme.symbol c ∉ ((parts (Lexeme.quoted .single content).text).map f ++ bs).map
                key := fun c hc => by
            rw [hf] at hc
            cases hc
          rw [hparts, List.map_cons, List.cons_append]
          exact (shown_cons_of_not_closes hword).trans
            (congrArg (_ :: ·) (shown_quoted hf rfl hplain bs))
      | dollar tag =>
          refine hkept (fun c hc => ?_) rfl
          simp only [Lexeme.text, Delimiter.opening, Delimiter.closing, List.mem_append,
            List.mem_cons, List.not_mem_nil, or_false] at hc
          rcases hc with (rfl | hc | rfl) | hc | rfl | hc | rfl
          · decide
          · exact not_isQuote_of_isWord (hl.1.1 c hc)
          · decide
          · exact (hplain c hc).1
          · decide
          · exact not_isQuote_of_isWord (hl.1.1 c hc)
          · decide

theorem shown_markedFrom (depth : Nat) {ls : List Lexeme} (hproper : ∀ l ∈ ls, l.Proper)
    (hclosed : ∀ l ∈ ls, l.isUnclosed = false) (hplain : ∀ l ∈ ls, IsPlain l) :
    shown Prod.snd quoteClosing none (markedFrom depth ls) = bareFrom depth ls := by
  induction ls generalizing depth with
  | nil => rfl
  | cons l ls ih =>
      obtain ⟨hl, hproper⟩ := List.forall_mem_cons.mp hproper
      obtain ⟨hlclosed, hclosed⟩ := List.forall_mem_cons.mp hclosed
      obtain ⟨hlplain, hplain⟩ := List.forall_mem_cons.mp hplain
      rw [markedFrom, shown_bare (fun _ => rfl) hl hlclosed hlplain, ih _ hproper hclosed hplain,
        bareFrom]

omit [Python] [PythonTables] in
theorem shown_some_skip {α : Type} {key : α → Lexeme} {closing : Char → Option Char} {c : Char}
    {as : List α} (has : ∀ a ∈ as, key a ≠ .symbol c) (bs : List α) :
    shown key closing (some c) (as ++ bs) = shown key closing (some c) bs := by
  induction as with
  | nil => rfl
  | cons a as ih =>
      obtain ⟨ha, has⟩ := List.forall_mem_cons.mp has
      rw [List.cons_append, shown, if_neg ha, ih has]

/-- A plain lexeme that is no parenthesis has none. -/
theorem not_paren_of_mem_bare {l : Lexeme} (hl : l.Proper) (hplain : IsPlain l)
    (hclosed : l.isUnclosed = false) (hopen : l ≠ .symbol '(') (hclose : l ≠ .symbol ')') {c : Char}
    (hc : c = '(' ∨ c = ')') : .symbol c ∉ bare l := by
  have hspace : isSpace c = false := by rcases hc with rfl | rfl <;> decide
  have hword : isWord c = false := by
    rcases hc with rfl | rfl <;> rw [isWord_ascii (by decide)] <;> decide
  have hdollar : c ≠ '$' := by rcases hc with rfl | rfl <;> decide
  have hnotWord : ∀ {w : List Char}, (∀ d ∈ w, isWord d = true) → c ∉ w := fun hw hmem => by
    rw [hw c hmem] at hword
    cases hword
  have htext : c ∉ l.text → bare l = parts l.text → .symbol c ∉ bare l := fun hnot hbare => by
    rwa [hbare, symbol_mem_parts hspace hword]
  cases l with
  | space d =>
      refine htext (fun hmem => ?_) rfl
      obtain rfl : c = d := List.mem_singleton.mp hmem
      rw [show isSpace c = true from hl] at hspace
      cases hspace
  | word w => exact htext (hnotWord hl.2) rfl
  | name w =>
      obtain ⟨u, v, rfl, -, hu, hv⟩ := hl
      refine htext (fun hmem => ?_) rfl
      simp only [Lexeme.text, List.mem_append, List.mem_cons] at hmem
      rcases hmem with hmem | rfl | hmem
      · exact hnotWord hu hmem
      · exact hdollar rfl
      · rcases hv c hmem with hc | rfl
        · rw [hc] at hword
          cases hword
        · exact hdollar rfl
  | symbol d =>
      refine htext (fun hmem => ?_) rfl
      obtain rfl : c = d := List.mem_singleton.mp hmem
      rcases hc with rfl | rfl
      · exact hopen rfl
      · exact hclose rfl
  | unclosed d content => cases hclosed
  | quoted d content =>
      cases d with
      | single => simp [bare]
      | double => simp [bare]
      | escape letter => simp [bare]
      | dollar tag =>
          have htag := hnotWord hl.1.1
          have hcontent : c ∉ content := fun hmem => by
            rcases hc with rfl | rfl
            · exact (hplain _ hmem).2.1 rfl
            · exact (hplain _ hmem).2.2 rfl
          exact htext (by simp [Lexeme.text, Delimiter.opening, Delimiter.closing, htag, hcontent,
            hdollar]) rfl

omit [PythonTables] in
theorem mem_bareFrom {l : Lexeme} {ls : List Lexeme} (hmem : l ∈ ls) {x : Lexeme} (hx : x ∈ bare l)
    (depth : Nat) : x ∈ (bareFrom depth ls).map Prod.snd := by
  induction ls generalizing depth with
  | nil => cases hmem
  | cons l' ls ih =>
      simp only [bareFrom, List.map_append, List.mem_append]
      rcases List.mem_cons.mp hmem with rfl | hmem
      · left
        simpa using hx
      · exact .inr (ih hmem _)

theorem bare_paren {c : Char} (hc : c = '(' ∨ c = ')') : bare (.symbol c) = [.symbol c] := by
  have hspace : isSpace c = false := by rcases hc with rfl | rfl <;> decide
  have hword : isWord c = false := by
    rcases hc with rfl | rfl <;> rw [isWord_ascii (by decide)] <;> decide
  exact parts_symbol hspace hword []

/-- The `FROM` and `JOIN` keywords of the outermost query are left where all literals are
plain, and of the others those that follow a nested block or stand in a name or a literal. -/
theorem count_shown_bareFrom (depth : Nat) (opened : Bool) {ls : List Lexeme}
    (hproper : ∀ l ∈ ls, l.Proper) (hclosed : ∀ l ∈ ls, l.isUnclosed = false)
    (hplain : ∀ l ∈ ls, IsPlain l) (h : balancedFrom depth ls = true)
    (hopened : opened = true → 0 < depth) :
    (shown Prod.snd parenClosing (bif opened then some ')' else none) (bareFrom depth ls)).countP
        isOwn = tableCount (outermost depth ls) ∧
      (shown Prod.snd parenClosing (bif opened then some ')' else none) (bareFrom depth ls)).countP
        isStray = tableCount (strays depth opened ls) := by
  induction ls generalizing depth opened with
  | nil => cases opened <;> exact ⟨rfl, rfl⟩
  | cons l ls ih =>
      obtain ⟨hl, hlsproper⟩ := List.forall_mem_cons.mp hproper
      obtain ⟨hlclosed, hlsclosed⟩ := List.forall_mem_cons.mp hclosed
      obtain ⟨hlplain, hlsplain⟩ := List.forall_mem_cons.mp hplain
      have hrest := fun depth opened h hopened =>
        ih depth opened hlsproper hlsclosed hlsplain h hopened
      rw [balancedFrom] at h
      rw [outermost, strays, bareFrom, Lexeme.depthAfter]
      by_cases hopen : l = .symbol '('
      · subst hopen
        simp only [if_true] at h ⊢
        have hcount := hrest (depth + 1) true h fun _ => by omega
        have hlater : Lexeme.symbol ')' ∈ (bareFrom (depth + 1) ls).map Prod.snd :=
          mem_bareFrom (mem_of_balancedFrom h (by omega)) (by simp [bare_paren (.inr rfl)]) _
        rw [bare_paren (.inl rfl), List.map_singleton, List.singleton_append]
        cases opened with
        | true => simpa [shown] using hcount
        | false =>
            rw [cond_false, shown_cons_of_closes rfl hlater]
            exact hcount
      · simp only [if_neg hopen] at h ⊢
        by_cases hclose : l = .symbol ')'
        · subst hclose
          simp only [if_true, Bool.and_eq_true] at h ⊢
          have hcount := hrest (depth - 1) false h.2 (by simp)
          rw [bare_paren (.inr rfl), List.map_singleton, List.singleton_append]
          cases opened with
          | true => simpa [shown] using hcount
          | false =>
              have hkept : ∀ c, (Lexeme.symbol ')').closes? parenClosing = some c →
                  Lexeme.symbol c ∉ (bareFrom (depth - 1) ls).map Prod.snd := by
                simp [Lexeme.closes?, parenClosing]
              rw [cond_false, shown_cons_of_not_closes hkept, List.countP_cons, List.countP_cons]
              simpa [isOwn, isStray, Lexeme.isWordIn] using hcount
        · simp only [if_neg hclose] at h ⊢
          have hcount := hrest depth opened h hopened
          have hparen : ∀ c, c = '(' ∨ c = ')' → Lexeme.symbol c ∉ bare l := fun c hc =>
            not_paren_of_mem_bare hl hlplain hlclosed hopen hclose hc
          cases opened with
          | true =>
              have hskip : ∀ part ∈ (bare l).map (Prod.mk (decide (depth = 0) && l.isWord)),
                  part.2 ≠ .symbol ')' := by
                simp only [List.mem_map, forall_exists_index, and_imp, forall_apply_eq_imp_iff₂]
                rintro x hx rfl
                exact hparen ')' (.inr rfl) hx
              have hdepth : depth ≠ 0 := Nat.ne_of_gt (hopened rfl)
              rw [cond_true, shown_some_skip hskip, if_neg hdepth]
              exact hcount
          | false =>
              have hopens : ∀ part ∈ (bare l).map (Prod.mk (decide (depth = 0) && l.isWord)),
                  part.2.closes? parenClosing = none := by
                simp only [List.mem_map, forall_exists_index, and_imp, forall_apply_eq_imp_iff₂]
                intro x hx
                cases x with
                | symbol c =>
                    have hc : c ≠ '(' := fun heq => hparen '(' (.inl rfl) (heq ▸ hx)
                    simp [Lexeme.closes?, parenClosing, hc]
                | _ => rfl
              have hown : ((bare l).map (Prod.mk (decide (depth = 0) && l.isWord))).countP isOwn =
                  if depth = 0 ∧ l.isWord then tableCount (bare l) else 0 := by
                by_cases hmark : depth = 0 ∧ l.isWord = true
                · simp [hmark, isOwn, Function.comp_def, tableCount]
                · have hfalse : (decide (depth = 0) && l.isWord) = false := by simpa using hmark
                  rw [if_neg hmark, hfalse, List.countP_map]
                  simp [isOwn, Function.comp_def]
              have hstray : ((bare l).map (Prod.mk (decide (depth = 0) && l.isWord))).countP
                  isStray = if depth = 0 ∧ l.isWord then 0 else tableCount (bare l) := by
                by_cases hmark : depth = 0 ∧ l.isWord = true
                · simp [hmark, isStray, Function.comp_def]
                · have hfalse : (decide (depth = 0) && l.isWord) = false := by simpa using hmark
                  rw [if_neg hmark, hfalse, List.countP_map]
                  simp [isStray, Function.comp_def, tableCount]
              rw [cond_false] at hcount
              rw [cond_false, shown_append hopens, List.countP_append, List.countP_append, hown,
                hstray, hcount.1, hcount.2, Bool.false_or]
              by_cases hdepth : depth = 0
              · cases l with
                | word w =>
                    have hbare : bare (.word w) = [.word w] := parts_word hl.1 hl.2
                    simp [hdepth, Lexeme.isWord, hbare, ← tableCount_append]
                | _ => simp [hdepth, Lexeme.isWord, tableCount, Lexeme.isWordIn]
              · simp [hdepth, tableCount_append]

/-- In a balanced statement with plain literals no keyword of the outermost query is
blanked out. -/
theorem tables_of_plain {cs : List Char} (h : Balanced cs) (hplain : ∀ l ∈ lex cs, IsPlain l) :
    hiddenTables cs = 0 ∧ strayTables cs = tableCount (strays 0 false (lex cs)) := by
  have hproper : ∀ l ∈ lex cs, l.Proper := fun l hl => proper_of_mem_lex hl
  have hclosed : ∀ l ∈ lex cs, l.isUnclosed = false := fun l hl => by
    simpa using List.all_eq_true.mp h.1 l hl
  have hcount := count_shown_bareFrom 0 false hproper hclosed hplain h.2 (by simp)
  rw [cond_false, ← shown_markedFrom 0 hproper hclosed hplain] at hcount
  constructor
  · rw [hiddenTables, visible, hcount.1, outermostTables, Nat.sub_self]
  · rw [strayTables, visible, hcount.2]

/-- A parenthesized block has no tables of the outermost query. -/
theorem outermostTables_block {pre block : List Char} (hpre : quoteOpen pre = false)
    (hblock : Balanced block) (post : List Char) :
    outermostTables (pre ++ '(' :: (block ++ ')' :: post)) =
      outermostTables (pre ++ '(' :: ')' :: post) := by
  have hparen : isWord '(' = false ∧ isWord ')' = false := by
    rw [isWord_ascii (by decide), isWord_ascii (by decide)]
    exact ⟨rfl, rfl⟩
  have hopen := fun rest => lex_append_symbol hpre (by decide) hparen.1 (by decide) rest
  have hclose := lex_append_symbol (quoteOpen_of_closed hblock.1) (by decide) hparen.2 (by decide)
    post
  have hempty := lex_symbol (by decide) hparen.2 (by decide) post
  obtain ⟨after, hafter⟩ := exists_outermost_append 0 (lex pre)
  have hskip := outermost_block (after + 1) 0 hblock.2 (by omega) (.symbol ')' :: lex post)
  rw [outermostTables, outermostTables, hopen, hopen, hclose, hempty, hafter, hafter]
  simp only [outermost, if_true] at hskip ⊢
  rw [← hskip]

/-- Where the tables of the outermost query are counted, another block in the place of one
changes nothing. -/
theorem numberOfTables_block {pre block block' post : List Char} (hpre : quoteOpen pre = false)
    (hblock : Balanced block) (hblock' : Balanced block')
    (h : TablesCounted (pre ++ '(' :: (block ++ ')' :: post)))
    (h' : TablesCounted (pre ++ '(' :: (block' ++ ')' :: post))) :
    numberOfTables (pre ++ '(' :: (block ++ ')' :: post)) =
      numberOfTables (pre ++ '(' :: (block' ++ ')' :: post)) := by
  have hsame := (outermostTables_block hpre hblock post).trans
    (outermostTables_block hpre hblock' post).symm
  have hcounted : ∀ {cs}, TablesCounted cs → numberOfTables cs = max 1 (outermostTables cs) := by
    intro cs hcs
    obtain ⟨hless, hcount⟩ := numberOfTables_eq_visible cs
    rw [TablesCounted] at hcs
    omega
  rw [hcounted h, hcounted h', hsame]

end

end DbGateway.Repository
