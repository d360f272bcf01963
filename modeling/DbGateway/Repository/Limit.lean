import DbGateway.Sql.RowCap

/-!
# DbGateway.Repository.Limit

`SqlQueryRepository._ensure_limit`: the row cap a statement gets before it is
executed.

The function edits the text: it replaces the first `FETCH FIRST n ROWS ONLY`,
else the first `LIMIT n`, by a `LIMIT` within the maximum, wherever in the
statement it stands, and appends a `LIMIT` where it finds neither.
-/

namespace DbGateway.Repository

open Re Re.Pattern Sql

variable [Python] [PythonTables]

/-! ## `_ensure_limit` -/

/-- `\d+` -/
def digits : Pattern := plus (.char fun c => (PythonTables.decimal c).isSome)

/-- `\bFETCH\s+FIRST\s+(\d+)\s+ROWS` -/
def fetchFirst : Pattern :=
  seqs [.boundary, word "fetch", spaces, word "first", spaces, .group 1 digits, spaces,
    word "rows"]

/-- `(?:\s+ONLY)?\b` -/
def optionalOnly : Pattern := .seq (alts [.seq spaces (word "only"), .empty]) .boundary

/-- `\bFETCH\s+FIRST\s+(\d+)\s+ROWS(?:\s+ONLY)?\b`, ignoring case. -/
def fetchFirstPattern : Pattern := .seq fetchFirst optionalOnly

/-- `\bLIMIT\s+\d+\b`, ignoring case. -/
def limitPattern : Pattern := seqs [.boundary, word "limit", spaces, digits, .boundary]

/-- `\bLIMIT\s+(\d+)\b`, ignoring case. -/
def limitValuePattern : Pattern :=
  seqs [.boundary, word "limit", spaces, .group 1 digits, .boundary]

/-- The number some decimal digits write. -/
def decimalValue (ds : List Char) : Nat :=
  ds.foldl (fun n c => 10 * n + (PythonTables.decimal c).getD 0) 0

/-- `int(text)` of decimal digits; more than 4300 of them raise. -/
def int (ds : List Char) : Option Nat := if ds.length ≤ 4300 then some (decimalValue ds) else none

/-- `f"LIMIT {n}"` -/
def limitText (n : Nat) : List Char := "LIMIT ".toList ++ Nat.toDigits 10 n

/-- `sql.rstrip(";").rstrip()` -/
def trimmed (sql : List Char) : List Char :=
  (sql.rdropWhile fun c => c == ';').rdropWhile isSpace

/-- `_ensure_limit`; `none` when a number has too many digits to be read. -/
def ensureLimit (maxRowLimit : Nat) (sql : String) : Option String :=
  let sql := trimmed sql.toList
  match search fetchFirstPattern sql with
  | some m => (int (m.groupText sql 1)).map fun n =>
      String.ofList (sql.take m.start ++ (limitText (min n maxRowLimit) ++ sql.drop m.stop))
  | none =>
      if (search limitPattern sql).isSome then
        (subOnce limitValuePattern (fun m => (int (m.groupText sql 1)).map fun n =>
          limitText (min n maxRowLimit)) sql).map String.ofList
      else some (String.ofList (sql ++ ' ' :: limitText (min 100 maxRowLimit)))

/-! ## Words the patterns match -/

section

omit [Python] [PythonTables] in
theorem foldsTo_cases {letter c : Char} (h : foldsTo letter c = true) :
    c.toLower = letter ∨ c ∈ foldedLetters := by
  simp only [foldsTo, Bool.or_eq_true, Bool.and_eq_true, beq_iff_eq] at h
  simp only [foldedLetters, List.mem_cons, List.not_mem_nil, or_false]
  tauto

theorem isWord_of_foldsTo {letter c : Char} (hletter : letter.isLower = true)
    (h : foldsTo letter c = true) : isWord c = true := by
  rcases foldsTo_cases h with h | h
  · have halpha : c.isAlpha = true := Char.isAlpha_of_isLower_toLower (h ▸ hletter)
    exact isWord_of_isAlphanum (by simp [Char.isAlphanum, halpha])
  · simp [isWord, PythonTables.isAlnum_folded c h]

theorem isWord_of_folds {w mid : List Char} (hw : w.all Char.isLower = true) (h : Folds w mid) :
    ∀ c ∈ mid, isWord c = true := by
  induction h with
  | nil => simp
  | cons hc _ ih =>
      simp only [List.all_cons, Bool.and_eq_true] at hw
      have hhead := isWord_of_foldsTo hw.1 hc
      have htail := ih hw.2
      simpa using ⟨hhead, htail⟩

omit [Python] [PythonTables] in
theorem ne_nil_of_folds {w mid : List Char} (hw : w ≠ []) (h : Folds w mid) : mid ≠ [] := by
  rintro rfl
  cases h
  exact hw rfl

omit [Python] [PythonTables] in
/-- A word that folds to a keyword is no other keyword. -/
theorem eq_of_folds {w k mid : List Char} (hk : k.all Char.isLower = true) (h : Folds w mid)
    (hmap : mid.map Char.toLower = k) : w = k := by
  induction h generalizing k with
  | nil => simpa using hmap
  | @cons a c w mid hc _ ih =>
      cases k with
      | nil => simp at hmap
      | cons b k =>
          simp only [List.map_cons, List.cons.injEq] at hmap
          simp only [List.all_cons, Bool.and_eq_true] at hk
          have htail := ih hk.2 hmap.2
          rcases foldsTo_cases hc with hfold | hfold
          · rw [htail, ← hfold, hmap.1]
          · have halpha : c.isAlpha = true := Char.isAlpha_of_isLower_toLower (hmap.1 ▸ hk.1)
            have hascii := Char.toNat_lt_of_isAlphanum (c := c) (by simp [Char.isAlphanum, halpha])
            simp only [foldedLetters, List.mem_cons, List.not_mem_nil, or_false] at hfold
            rcases hfold with rfl | rfl | rfl | rfl <;> exact absurd hascii (by decide)

omit [Python] [PythonTables] in
theorem not_isKeyword_of_folds {w : List Char} {k : String} {mid : List Char}
    (hk : k.toList.all Char.isLower = true) (hne : w ≠ k.toList) (h : Folds w mid) :
    isKeyword k mid = false := by
  by_contra hkey
  simp only [isKeyword, Bool.not_eq_false, beq_iff_eq] at hkey
  exact hne (eq_of_folds hk h hkey)

omit [Python] [PythonTables] in
/-- A word that folds to letters states no number. -/
theorem statedNumber?_of_folds {w mid : List Char} (hne : w ≠ []) (hw : w.all Char.isLower = true)
    (h : Folds w mid) : statedNumber? mid = none := by
  cases h with
  | nil => exact absurd rfl hne
  | @cons a c w mid hc _ =>
      simp only [List.all_cons, Bool.and_eq_true] at hw
      have hdigit : c.isDigit = false := by
        rcases foldsTo_cases hc with hfold | hfold
        · have halpha : c.isAlpha = true := Char.isAlpha_of_isLower_toLower (hfold ▸ hw.1)
          exact Char.not_isDigit_of_isAlpha halpha
        · simp only [foldedLetters, List.mem_cons, List.not_mem_nil, or_false] at hfold
          rcases hfold with rfl | rfl | rfl | rfl <;> decide
      simp [statedNumber?, hdigit]

/-- Decimal digits are no keyword. -/
theorem not_isKeyword_of_decimal {ds : List Char} {k : String} (hne : ds ≠ [])
    (hk : k.toList.all Char.isLower = true) (h : ∀ c ∈ ds, (PythonTables.decimal c).isSome) :
    isKeyword k ds = false := by
  by_contra hkey
  simp only [isKeyword, Bool.not_eq_false, beq_iff_eq] at hkey
  obtain ⟨c, ds, rfl⟩ := List.exists_cons_of_ne_nil hne
  rw [← hkey] at hk
  simp only [List.map_cons, List.all_cons, Bool.and_eq_true] at hk
  have halpha : c.isAlpha = true := Char.isAlpha_of_isLower_toLower hk.1
  have hascii := Char.toNat_lt_of_isAlphanum (c := c) (by simp [Char.isAlphanum, halpha])
  have hdecimal := h c (by simp)
  rw [PythonTables.decimal_ascii c hascii] at hdecimal
  have hdigit : c.isDigit = true := by
    by_contra hnot
    simp [hnot] at hdecimal
  rw [Char.not_isDigit_of_isAlpha halpha] at hdigit
  contradiction

end

/-! ## What the patterns find -/

omit [Python] [PythonTables] in
theorem capWord_of_folds {w mid : List Char} (hw : w = "limit".toList ∨ w = "fetch".toList)
    (h : Folds w mid) : CapWord mid := by
  have hne : w ≠ [] := by rcases hw with rfl | rfl <;> decide
  have hlower : w.all Char.isLower = true := by rcases hw with rfl | rfl <;> decide
  have hkey : ∀ k : String, k.toList.all Char.isLower = true → k ≠ "limit" → k ≠ "fetch" →
      isKeyword k mid = false := by
    intro k hk hlimit hfetch
    refine not_isKeyword_of_folds hk ?_ h
    rcases hw with rfl | rfl
    · exact fun heq => hlimit (String.toList_inj.mp heq.symm)
    · exact fun heq => hfetch (String.toList_inj.mp heq.symm)
  have hnumber := statedNumber?_of_folds hne hlower h
  refine ⟨?_, hkey "as" (by decide) (by decide) (by decide), fun o => ?_⟩
  · simp [endsCap, hkey "offset" (by decide) (by decide) (by decide),
      hkey "for" (by decide) (by decide) (by decide)]
  · cases o <;> simp [Operand.read, isRows, hnumber,
      hkey "first" (by decide) (by decide) (by decide),
      hkey "next" (by decide) (by decide) (by decide),
      hkey "row" (by decide) (by decide) (by decide),
      hkey "rows" (by decide) (by decide) (by decide),
      hkey "only" (by decide) (by decide) (by decide)]

omit [Python] [PythonTables] in
theorem inert_of_not_isKeyword {w : List Char}
    (h : ∀ k ∈ ["limit", "fetch", "offset", "for", "as"], isKeyword k w = false) : Inert w := by
  simp only [List.forall_mem_cons, List.not_mem_nil, false_implies, implies_true, and_true] at h
  obtain ⟨hlimit, hfetch, hoffset, hfor, has⟩ := h
  exact ⟨by simp [startsCap, hlimit, hfetch], by simp [endsCap, hoffset, hfor], has⟩

omit [Python] [PythonTables] in
theorem inert_of_folds {w mid : List Char}
    (hw : w ∉ ["limit", "fetch", "offset", "for", "as"].map String.toList) (h : Folds w mid) :
    Inert mid := by
  refine inert_of_not_isKeyword fun k hk => ?_
  have hlower : k.toList.all Char.isLower = true := by
    revert k
    decide
  have hne : w ≠ k.toList := by
    rintro rfl
    exact hw (List.mem_map_of_mem hk)
  exact not_isKeyword_of_folds hlower hne h

theorem inert_of_decimal {ds : List Char} (hne : ds ≠ [])
    (h : ∀ c ∈ ds, (PythonTables.decimal c).isSome) : Inert ds := by
  refine inert_of_not_isKeyword fun k hk => ?_
  have hlower : k.toList.all Char.isLower = true := by
    revert k
    decide
  exact not_isKeyword_of_decimal hne hlower h

/-- The phrases the patterns match, with their digits. -/
inductive CapPhrase : Phrase → List Char → Prop
  | limit {w sp ds} (hw : Folds "limit".toList w) : CapPhrase ⟨w, [(sp, ds)]⟩ ds
  | fetch {w s₁ w₁ s₂ ds s₃ w₃} (hw : Folds "fetch".toList w) (hfirst : Folds "first".toList w₁)
      (hrows : Folds "rows".toList w₃) : CapPhrase ⟨w, [(s₁, w₁), (s₂, ds), (s₃, w₃)]⟩ ds
  | fetchOnly {w s₁ w₁ s₂ ds s₃ w₃ s₄ w₄} (hw : Folds "fetch".toList w)
      (hfirst : Folds "first".toList w₁) (hrows : Folds "rows".toList w₃)
      (honly : Folds "only".toList w₄) :
      CapPhrase ⟨w, [(s₁, w₁), (s₂, ds), (s₃, w₃), (s₄, w₄)]⟩ ds

/-- ` ONLY` after a text: spaces and the word, where the word ends. -/
def OnlyFollows (post : List Char) : Prop :=
  ∃ sp w rest, post = sp ++ (w ++ rest) ∧ sp ≠ [] ∧ (∀ c ∈ sp, isSpace c = true) ∧
    Folds "only".toList w ∧ AtBoundary w rest

/-- What a search finds: the phrase, between what is before and after it. -/
structure Found (text : List Char) (m : Match) (pre : List Char) (p : Phrase)
    (ds post : List Char) : Prop where
  text_eq : text = pre ++ (p.text ++ post)
  start_eq : m.start = pre.length
  stop_eq : m.stop = pre.length + p.text.length
  groupText_eq : m.groupText text 1 = ds
  cap : CapPhrase p ds
  proper : p.Proper
  decimal : ds ≠ [] ∧ ∀ c ∈ ds, (PythonTables.decimal c).isSome
  before : AtBoundary pre (p.text ++ post)
  ends : ∀ c ∈ post.head?, isWord c = false
  /-- `(?:\s+ONLY)?` takes what it can. -/
  greedy : p.more.length = 3 → ¬ OnlyFollows post

omit [PythonTables] in
theorem any_isWord_getLast? {cs : List Char} (hne : cs ≠ []) (h : ∀ c ∈ cs, isWord c = true) :
    cs.getLast?.any isWord = true := by
  rw [List.getLast?_eq_some_getLast hne]
  exact h _ (List.getLast_mem hne)

theorem isWord_of_decimal {c : Char} (h : (PythonTables.decimal c).isSome) : isWord c = true := by
  simp [isWord, PythonTables.isAlnum_of_decimal c h]

theorem matches_digits {pre mid post : List Char} {gs : Groups} :
    Matches digits pre mid post gs ↔
      (mid ≠ [] ∧ ∀ c ∈ mid, (PythonTables.decimal c).isSome = true) ∧ gs = [] := by
  rw [digits, matches_plus_char, and_assoc]

/-- `LIMIT n`, as the pattern finds it. -/
theorem found_limit {text : List Char} {m : Match} (h : search limitValuePattern text = some m) :
    ∃ pre p ds post, Found text m pre p ds post := by
  obtain ⟨pre, mid, post, gs, rfl, hmatch, rfl⟩ := search_sound h
  obtain ⟨hbefore, hmatch⟩ := matches_seq_boundary.mp hmatch
  obtain ⟨w, _, rfl, hw, hmatch⟩ := matches_seq_word.mp hmatch
  obtain ⟨sp, _, rfl, ⟨hsp, hspaces⟩, hmatch⟩ := matches_seq_plus_char.mp hmatch
  obtain ⟨ds, _, ks, rfl, rfl, ⟨hds, hdecimal⟩, hmatch⟩ :=
    (matches_seq_group matches_digits).mp hmatch
  obtain ⟨hafter, hmatch⟩ := matches_seq_boundary.mp hmatch
  obtain ⟨rfl, rfl⟩ := matches_empty.mp hmatch
  have hwne := ne_nil_of_folds (by decide) hw
  have hword := isWord_of_folds (by decide) hw
  have hdigits : ∀ c ∈ ds, isWord c = true := fun c hc => isWord_of_decimal (hdecimal c hc)
  have hlast : (pre ++ w ++ sp ++ ds).getLast?.any isWord = true := by
    rw [List.getLast?_append_of_ne_nil _ hds]
    exact any_isWord_getLast? hds hdigits
  refine ⟨pre, ⟨w, [(sp, ds)]⟩, ds, post, ?_, rfl, ?_, ?_, .limit hw, ?_, ⟨hds, hdecimal⟩, ?_,
    hafter.ends hlast, by simp⟩
  · simp [Phrase.text, spacedText]
  · simp [Phrase.text, spacedText]
  · simp [Match.groupText, slice]
  · exact ⟨hwne, hword, by simp, by simpa using ⟨hsp, hds⟩, by simpa using hspaces,
      by simpa using hdigits⟩
  · simpa [Phrase.text, spacedText] using hbefore

omit [PythonTables] in
/-- `(?:\s+ONLY)?` takes the word where it follows. -/
theorem optionalOnly_sound {pre rest : List Char} {groups : Groups} {k : Continuation} {m : Match}
    (h : matchFrom (pre ++ rest) optionalOnly pre.length groups k = some m)
    (hk : ∀ stop gs, (k stop gs).isSome) :
    (∃ sp w post, rest = sp ++ (w ++ post) ∧ sp ≠ [] ∧ (∀ c ∈ sp, isSpace c = true) ∧
      Folds "only".toList w ∧ AtBoundary w post ∧
        k (pre.length + (sp ++ w).length) groups = some m) ∨
    (¬ OnlyFollows rest ∧ AtBoundary pre rest ∧ k pre.length groups = some m) := by
  have hrun : ((matchFrom (pre ++ rest) (.seq spaces (word "only")) pre.length groups fun pos gs =>
      matchFrom (pre ++ rest) .boundary pos gs k).or
        (matchFrom (pre ++ rest) .boundary pre.length groups k)) = some m := by
    rw [← h]
    exact (Option.orElse_eq_or
      (f := fun _ => matchFrom (pre ++ rest) .boundary pre.length groups k)).symm
  rcases Option.or_eq_some_iff.mp hrun with honly | ⟨hnone, hend⟩
  · left
    obtain ⟨mid, post, gs, rfl, hmatch, hnext⟩ := matchFrom_sound _ pre rest groups _ m honly
    simp only [matches_seq, spaces, matches_plus_char, matches_word] at hmatch
    obtain ⟨sp, w, _, _, rfl, rfl, ⟨hsp, hspaces, rfl⟩, hw, rfl⟩ := hmatch
    have hbound := matchFrom_boundary (pre ++ (sp ++ w)) post ([] ++ [] ++ groups) k
    rw [← List.append_assoc, ← List.length_append] at hnext
    rw [hbound] at hnext
    by_cases hat : AtBoundary (pre ++ (sp ++ w)) post
    · rw [if_pos hat] at hnext
      have hwne := ne_nil_of_folds (by decide) hw
      rw [← List.append_assoc, atBoundary_append hwne] at hat
      exact ⟨sp, w, post, by simp, hsp, hspaces, hw, hat, by simpa [Nat.add_assoc] using hnext⟩
    · rw [if_neg hat] at hnext
      cases hnext
  · right
    rw [matchFrom_boundary] at hend
    by_cases hat : AtBoundary pre rest
    · rw [if_pos hat] at hend
      refine ⟨?_, hat, hend⟩
      rintro ⟨sp, w, post, rfl, hsp, hspaces, hw, hbound⟩
      have hmatch : Matches (.seq spaces (word "only")) pre (sp ++ w) post ([] ++ []) :=
        .seq (matches_plus_char.mpr ⟨hsp, hspaces, rfl⟩) (matches_word.mpr ⟨hw, rfl⟩)
      have hwne := ne_nil_of_folds (by decide) hw
      have hsome := matchFrom_complete _ pre (sp ++ w) post _ groups
        (fun pos gs => matchFrom (pre ++ (sp ++ w ++ post)) .boundary pos gs k) hmatch
        fun gs => by
          rw [← List.append_assoc pre, ← List.length_append, matchFrom_boundary, if_pos]
          · exact hk _ _
          · rwa [← List.append_assoc, atBoundary_append hwne]
      rw [List.append_assoc] at hsome
      simp [hnone] at hsome
    · rw [if_neg hat] at hend
      cases hend

/-- The phrase `\bFETCH\s+FIRST\s+(\d+)\s+ROWS` matches, and its group. -/
theorem matches_fetchFirst {pre mid post : List Char} {gs : Groups}
    (h : Matches fetchFirst pre mid post gs) :
    ∃ w s₁ w₁ s₂ ds s₃ w₃, mid = Phrase.text ⟨w, [(s₁, w₁), (s₂, ds), (s₃, w₃)]⟩ ∧
      gs = [(1, (pre ++ (w ++ s₁ ++ w₁ ++ s₂)).length,
        (pre ++ (w ++ s₁ ++ w₁ ++ s₂)).length + ds.length)] ∧
      Folds "fetch".toList w ∧ Folds "first".toList w₁ ∧ Folds "rows".toList w₃ ∧
      Phrase.Proper ⟨w, [(s₁, w₁), (s₂, ds), (s₃, w₃)]⟩ ∧
      (ds ≠ [] ∧ ∀ c ∈ ds, (PythonTables.decimal c).isSome) ∧ AtBoundary pre (mid ++ post) := by
  obtain ⟨hbefore, h⟩ := matches_seq_boundary.mp h
  obtain ⟨w, _, rfl, hw, h⟩ := matches_seq_word.mp h
  obtain ⟨s₁, _, rfl, ⟨hs₁, hspaces₁⟩, h⟩ := matches_seq_plus_char.mp h
  obtain ⟨w₁, _, rfl, hw₁, h⟩ := matches_seq_word.mp h
  obtain ⟨s₂, _, rfl, ⟨hs₂, hspaces₂⟩, h⟩ := matches_seq_plus_char.mp h
  obtain ⟨ds, _, ks, rfl, rfl, ⟨hds, hdecimal⟩, h⟩ := (matches_seq_group matches_digits).mp h
  obtain ⟨s₃, _, rfl, ⟨hs₃, hspaces₃⟩, h⟩ := matches_seq_plus_char.mp h
  obtain ⟨w₃, _, rfl, hw₃, h⟩ := matches_seq_word.mp h
  obtain ⟨rfl, rfl⟩ := matches_empty.mp h
  have hdigits : ∀ c ∈ ds, isWord c = true := fun c hc => isWord_of_decimal (hdecimal c hc)
  have hwne := ne_nil_of_folds (by decide) hw
  have hw₁ne := ne_nil_of_folds (by decide) hw₁
  have hw₃ne := ne_nil_of_folds (by decide) hw₃
  have hword := isWord_of_folds (by decide) hw
  have hword₁ := isWord_of_folds (by decide) hw₁
  have hword₃ := isWord_of_folds (by decide) hw₃
  refine ⟨w, s₁, w₁, s₂, ds, s₃, w₃, by simp [Phrase.text, spacedText], by simp, hw, hw₁, hw₃,
    ⟨hwne, hword, by simp, ?_, ?_, ?_⟩, ⟨hds, hdecimal⟩, by simpa using hbefore⟩
  · simpa using ⟨⟨hs₁, hw₁ne⟩, ⟨hs₂, hds⟩, hs₃, hw₃ne⟩
  · simpa using ⟨hspaces₁, hspaces₂, hspaces₃⟩
  · simpa using ⟨hword₁, hdigits, hword₃⟩

/-- `FETCH FIRST n ROWS`, with `ONLY` where it follows, as the pattern finds
it. -/
theorem found_fetchFirst {text : List Char} {m : Match}
    (h : search fetchFirstPattern text = some m) : ∃ pre p ds post, Found text m pre p ds post := by
  obtain ⟨pre, rest, rfl, hat⟩ := exists_matchAt_of_search h
  obtain ⟨mid, post, gs, rfl, hmatch, htail⟩ := matchFrom_sound fetchFirst pre rest [] _ m hat
  obtain ⟨w, s₁, w₁, s₂, ds, s₃, w₃, hmid, hgs, hw, hw₁, hw₃, hproper, hds, hbefore⟩ :=
    matches_fetchFirst hmatch
  have hw₃ne := ne_nil_of_folds (by decide) hw₃
  have hlast : (pre ++ mid).getLast?.any isWord = true := by
    have hsplit : pre ++ mid = pre ++ (w ++ (s₁ ++ (w₁ ++ (s₂ ++ (ds ++ s₃))))) ++ w₃ := by
      simp [hmid, Phrase.text, spacedText]
    rw [hsplit, List.getLast?_append_of_ne_nil _ hw₃ne]
    exact any_isWord_getLast? hw₃ne (isWord_of_folds (by decide) hw₃)
  rw [← List.length_append, ← List.append_assoc] at htail
  rcases optionalOnly_sound htail fun _ _ => rfl with honly | ⟨hnot, hbound, hend⟩
  · obtain ⟨s₄, w₄, post, rfl, hs₄, hspaces₄, hw₄, hbound, hm⟩ := honly
    have hw₄ne := ne_nil_of_folds (by decide) hw₄
    have hword₄ := isWord_of_folds (by decide) hw₄
    obtain ⟨hwne, hword, -, hne, hspace, hwords⟩ := hproper
    refine ⟨pre, ⟨w, [(s₁, w₁), (s₂, ds), (s₃, w₃), (s₄, w₄)]⟩, ds, post, ?_⟩
    have hm' := Option.some.inj hm
    refine ⟨by simp [hmid, Phrase.text, spacedText], by simp [← hm'], ?_, ?_,
      .fetchOnly hw hw₁ hw₃ hw₄, ?_, hds, ?_, hbound.ends (any_isWord_getLast? hw₄ne hword₄),
      by simp⟩
    · simp [← hm', hmid, Phrase.text, spacedText]
      omega
    · simp [← hm', hgs, hmid, Match.groupText, slice, Phrase.text, spacedText]
    · refine ⟨hwne, hword, by simp, ?_, ?_, ?_⟩
      · simpa [hs₄, hw₄ne] using hne
      · obtain ⟨hspaces₁, hspaces₂, hspaces₃, -⟩ := List.forall_mem_cons.mp hspace |>.imp_right
          fun h => (List.forall_mem_cons.mp h).imp_right List.forall_mem_cons.mp
        simpa using ⟨hspaces₁, hspaces₂, hspaces₃, hspaces₄⟩
      · obtain ⟨hword₁, hdigits, hword₃, -⟩ := List.forall_mem_cons.mp hwords |>.imp_right
          fun h => (List.forall_mem_cons.mp h).imp_right List.forall_mem_cons.mp
        simpa using ⟨hword₁, hdigits, hword₃, hword₄⟩
    · simpa [hmid, Phrase.text, spacedText] using hbefore
  · have hm' := Option.some.inj hend
    refine ⟨pre, ⟨w, [(s₁, w₁), (s₂, ds), (s₃, w₃)]⟩, ds, post, by simp [hmid], by simp [← hm'], ?_,
      ?_, .fetch hw hw₁ hw₃, hproper, hds, by simpa [hmid] using hbefore, hbound.ends hlast,
      fun _ => hnot⟩
    · simp [← hm', hmid]
    · simp [← hm', hgs, hmid, Match.groupText, slice, Phrase.text, spacedText]

/-! ## The edit -/

/-- The row cap the patterns find first. -/
def foundCap (text : List Char) : Option Match :=
  (search fetchFirstPattern text).or (search limitValuePattern text)

/-- Both patterns for `LIMIT n` match the same texts. -/
theorem search_limitPattern_isSome (text : List Char) :
    (search limitPattern text).isSome = (search limitValuePattern text).isSome := by
  rw [Bool.eq_iff_iff, search_isSome_iff, search_isSome_iff]
  constructor
  · intro ⟨pre, mid, post, gs, htext, h⟩
    obtain ⟨hbefore, h⟩ := matches_seq_boundary.mp h
    obtain ⟨w, _, hmid, hw, h⟩ := matches_seq_word.mp h
    obtain ⟨sp, _, hsp, hspaces, h⟩ := matches_seq_plus_char.mp h
    obtain ⟨ds, rest, hds, hdigits, h⟩ := (matches_seq_of_silent matches_digits).mp h
    exact ⟨pre, mid, post, _, htext, matches_seq_boundary.mpr ⟨hbefore,
      matches_seq_word.mpr ⟨w, _, hmid, hw, matches_seq_plus_char.mpr ⟨sp, _, hsp, hspaces,
        (matches_seq_group matches_digits).mpr ⟨ds, rest, gs, hds, rfl, hdigits, h⟩⟩⟩⟩⟩
  · intro ⟨pre, mid, post, gs, htext, h⟩
    obtain ⟨hbefore, h⟩ := matches_seq_boundary.mp h
    obtain ⟨w, _, hmid, hw, h⟩ := matches_seq_word.mp h
    obtain ⟨sp, _, hsp, hspaces, h⟩ := matches_seq_plus_char.mp h
    obtain ⟨ds, rest, ks, hds, -, hdigits, h⟩ := (matches_seq_group matches_digits).mp h
    exact ⟨pre, mid, post, ks, htext, matches_seq_boundary.mpr ⟨hbefore,
      matches_seq_word.mpr ⟨w, _, hmid, hw, matches_seq_plus_char.mpr ⟨sp, _, hsp, hspaces,
        (matches_seq_of_silent matches_digits).mpr ⟨ds, rest, hds, hdigits, h⟩⟩⟩⟩⟩

theorem exists_found {text : List Char} {m : Match} (h : foundCap text = some m) :
    ∃ pre p ds post, Found text m pre p ds post := by
  rcases Option.or_eq_some_iff.mp h with h | ⟨-, h⟩
  · exact found_fetchFirst h
  · exact found_limit h

/-- What `_ensure_limit` returns, by what the patterns find. -/
theorem ensureLimit_eq (maxRowLimit : Nat) (sql : String) :
    ensureLimit maxRowLimit sql =
      match foundCap (trimmed sql.toList) with
      | none => some (String.ofList (trimmed sql.toList ++ ' ' :: limitText (min 100 maxRowLimit)))
      | some m => (int (m.groupText (trimmed sql.toList) 1)).map fun n =>
          String.ofList ((trimmed sql.toList).take m.start ++
            (limitText (min n maxRowLimit) ++ (trimmed sql.toList).drop m.stop)) := by
  rw [ensureLimit, foundCap]
  cases hfetch : search fetchFirstPattern (trimmed sql.toList) with
  | some m => rfl
  | none =>
      have hsome := search_limitPattern_isSome (trimmed sql.toList)
      cases hlimit : search limitValuePattern (trimmed sql.toList) with
      | none => simp [hsome, hlimit]
      | some m => simp [hsome, hlimit, subOnce, Function.comp_def]

/-- An edited statement: a phrase that is replaced, or none and a clause that is
appended. -/
theorem ensureLimit_cases {maxRowLimit : Nat} {sql out : String}
    (h : ensureLimit maxRowLimit sql = some out) :
    (foundCap (trimmed sql.toList) = none ∧
      out.toList = trimmed sql.toList ++ ' ' :: limitText (min 100 maxRowLimit)) ∨
    ∃ m pre p ds post, foundCap (trimmed sql.toList) = some m ∧
      Found (trimmed sql.toList) m pre p ds post ∧
      out.toList = pre ++ (limitText (min (decimalValue ds) maxRowLimit) ++ post) := by
  rw [ensureLimit_eq] at h
  cases hfound : foundCap (trimmed sql.toList) with
  | none =>
      simp only [hfound, Option.some.injEq] at h
      exact .inl ⟨rfl, by rw [← h, String.toList_ofList]⟩
  | some m =>
      obtain ⟨pre, p, ds, post, hm⟩ := exists_found hfound
      simp only [hfound, hm.groupText_eq, hm.start_eq, hm.stop_eq, int] at h
      split at h
      · have htake : (trimmed sql.toList).take pre.length = pre := by simp [hm.text_eq]
        have hdrop : (trimmed sql.toList).drop (pre.length + p.text.length) = post := by
          simp [hm.text_eq]
        rw [Option.map_some, Option.some.injEq, htake, hdrop] at h
        exact .inr ⟨m, pre, p, ds, post, rfl, hm, by rw [← h, String.toList_ofList]⟩
      · cases h

end DbGateway.Repository
