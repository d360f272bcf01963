import DbGateway.Re.Blocks
import DbGateway.Sql.Tokens

/-!
# DbGateway.Sql.Scan

What a substitution that blanks out quoted texts or parentheses, and a search
for whole words, see of a text.  They know no lexemes: a text is its words and
the other characters between them, quotes among them, and all of it is said by
these parts.
-/

namespace DbGateway.Sql

open Re

/-- Each quote closes itself. -/
def quoteClosing (c : Char) : Option Char := if isQuote c then some c else none

/-- A parenthesis is closed by the next one, whatever is opened between them. -/
def parenClosing (c : Char) : Option Char := if c = '(' then some ')' else none

/-- One of some words. -/
def Lexeme.isWordIn (ws : List (List Char)) : Lexeme → Bool
  | .word w => decide (w ∈ ws)
  | _ => false

/-! ## Blocks -/

/-- What closes the block a part opens. -/
def Lexeme.closes? (closing : Char → Option Char) : Lexeme → Option Char
  | .symbol o => closing o
  | _ => none

section

variable {α β : Type} (key : α → Lexeme) (closing : Char → Option Char)

/-- What is left of some parts when each block is blanked out up to the next
closing character; what is not closed is no block.  The state says how the block
that is open closes. -/
def shown : Option Char → List α → List α
  | _, [] => []
  | none, a :: as =>
      (((key a).closes? closing).filter fun c => decide (.symbol c ∈ as.map key)).elim
        (a :: shown none as) fun c => shown (some c) as
  | some c, a :: as => if key a = .symbol c then shown none as else shown (some c) as

@[simp] theorem shown_nil (state : Option Char) : shown key closing state [] = [] := by
  cases state <;> rfl

variable {key closing}

theorem shown_cons_of_closes {a : α} {as : List α} {c : Char}
    (hcloses : (key a).closes? closing = some c) (hmem : .symbol c ∈ as.map key) :
    shown key closing none (a :: as) = shown key closing (some c) as := by
  simp [shown, hcloses, Option.filter, List.mem_map.mp hmem]

theorem shown_cons_of_not_closes {a : α} {as : List α}
    (h : ∀ c, (key a).closes? closing = some c → .symbol c ∉ as.map key) :
    shown key closing none (a :: as) = a :: shown key closing none as := by
  have hnone : (((key a).closes? closing).filter fun c => decide (.symbol c ∈ as.map key)) =
      none := by
    cases hcloses : (key a).closes? closing with
    | none => rfl
    | some c => simpa [Option.filter] using h c hcloses
  rw [shown, hnone]
  rfl

/-- Parts that open nothing are left. -/
theorem shown_append {as : List α} (h : ∀ a ∈ as, (key a).closes? closing = none) (bs : List α) :
    shown key closing none (as ++ bs) = as ++ shown key closing none bs := by
  induction as with
  | nil => rfl
  | cons a as ih =>
      obtain ⟨ha, has⟩ := List.forall_mem_cons.mp h
      rw [List.cons_append, shown_cons_of_not_closes (by simp [ha]), ih has]
      rfl

/-- In an open block nothing is left up to where it ends. -/
theorem shown_some_append {c : Char} {as : List α} (has : .symbol c ∉ as.map key) {a : α}
    (ha : key a = .symbol c) (bs : List α) :
    shown key closing (some c) (as ++ a :: bs) = shown key closing none bs := by
  induction as with
  | nil => simp [shown, ha]
  | cons a' as ih =>
      simp only [List.map_cons, List.mem_cons, not_or] at has
      rw [List.cons_append, shown, if_neg (Ne.symm has.1), ih has.2]

theorem shown_sublist (state : Option Char) (as : List α) :
    (shown key closing state as).Sublist as := by
  induction as generalizing state with
  | nil => simp
  | cons a as ih =>
      cases state with
      | some c =>
          rw [shown]
          split
          · exact (ih none).trans (List.sublist_cons_self a as)
          · exact (ih (some c)).trans (List.sublist_cons_self a as)
      | none =>
          rw [shown]
          cases (((key a).closes? closing).filter fun c => decide (.symbol c ∈ as.map key)) with
          | none => exact (ih none).cons_cons a
          | some c => exact (ih (some c)).trans (List.sublist_cons_self a as)

/-- What is left depends on the parts only. -/
theorem map_shown (f : β → α) (state : Option Char) (bs : List β) :
    (shown (fun b => key (f b)) closing state bs).map f =
      shown key closing state (bs.map f) := by
  induction bs generalizing state with
  | nil => simp
  | cons b bs ih =>
      cases state with
      | some c =>
          simp only [List.map_cons, shown]
          split
          · exact ih none
          · exact ih (some c)
      | none =>
          have hmap : bs.map (fun b => key (f b)) = (bs.map f).map key := by simp
          simp only [List.map_cons, shown, hmap]
          cases ((key (f b)).closes? closing).filter
              fun c => decide (.symbol c ∈ (bs.map f).map key) with
          | none => simp [ih]
          | some c => simp [ih]

end

/-! ## Parts -/

/-- The word that ends. -/
def endedWord (w : List Char) : List Lexeme := if w = [] then [] else [.word w]

section

variable [Python]

/-- The words and the other characters of a text without its spaces, after the
beginning of a word. -/
def partsFrom : List Char → List Char → List Lexeme
  | w, [] => endedWord w
  | w, c :: cs =>
      if isWord c then partsFrom (w ++ [c]) cs
      else endedWord w ++ ((if isSpace c then [] else [.symbol c]) ++ partsFrom [] cs)

/-- The words and the other characters of a text without its spaces. -/
def parts (cs : List Char) : List Lexeme := partsFrom [] cs

@[simp] theorem parts_nil : parts [] = [] := rfl

theorem partsFrom_append {w : List Char} (hw : ∀ c ∈ w, isWord c = true) {as bs : List Char}
    (h : (w ++ as).getLast?.any isWord = true → ∀ c ∈ bs.head?, isWord c = false) :
    partsFrom w (as ++ bs) = partsFrom w as ++ parts bs := by
  induction as generalizing w with
  | nil =>
      by_cases hne : w = []
      · simp [hne, partsFrom, endedWord, parts]
      · have hends := h (by
          rw [List.append_nil, List.getLast?_eq_some_getLast hne]
          exact hw _ (List.getLast_mem hne))
        cases bs with
        | nil => simp [partsFrom]
        | cons c bs =>
            have hc : isWord c = false := hends c rfl
            simp [partsFrom, parts, hc, endedWord]
  | cons c as ih =>
      cases hc : isWord c with
      | true =>
          have hlonger : ∀ d ∈ w ++ [c], isWord d = true :=
            List.forall_mem_append.mpr ⟨hw, by simpa using hc⟩
          simpa [partsFrom, hc] using ih hlonger (by simpa using h)
      | false =>
          have hlast : ([] ++ as).getLast?.any isWord = true →
              ∀ d ∈ bs.head?, isWord d = false := by
            intro hlast
            refine h ?_
            cases as with
            | nil => cases hlast
            | cons d as => rwa [List.getLast?_append_of_ne_nil _ (List.cons_ne_nil _ _),
                List.getLast?_cons_cons]
          have hrest := ih (List.forall_mem_nil _) hlast
          simp [partsFrom, hc, hrest]

/-- Texts that go on with no word are read apart. -/
theorem parts_append {as bs : List Char} (h : Apart as bs) :
    parts (as ++ bs) = parts as ++ parts bs :=
  partsFrom_append (List.forall_mem_nil _) h

theorem parts_word {w : List Char} (hne : w ≠ []) (hw : ∀ c ∈ w, isWord c = true) :
    parts w = [.word w] := by
  have hread : ∀ (w' : List Char), (∀ c ∈ w, isWord c = true) →
      partsFrom w' w = endedWord (w' ++ w) := by
    intro w' hw
    clear hne
    induction w generalizing w' with
    | nil => simp [partsFrom]
    | cons c w ih =>
        obtain ⟨hc, hw⟩ := List.forall_mem_cons.mp hw
        simp [partsFrom, hc, ih hw _ hw]
  rw [parts, hread [] hw, List.nil_append, endedWord, if_neg hne]

theorem parts_word_append {w rest : List Char} (hne : w ≠ []) (hw : ∀ c ∈ w, isWord c = true)
    (hrest : ∀ c ∈ rest.head?, isWord c = false) :
    parts (w ++ rest) = .word w :: parts rest := by
  rw [parts_append fun _ => hrest, parts_word hne hw]
  rfl

variable [PythonTables]

theorem parts_space {c : Char} (hc : isSpace c = true) (rest : List Char) :
    parts (c :: rest) = parts rest := by
  simp [parts, partsFrom, not_isWord_of_isSpace hc, hc, endedWord]

omit [PythonTables] in
theorem parts_symbol {c : Char} (hspace : isSpace c = false) (hword : isWord c = false)
    (rest : List Char) : parts (c :: rest) = .symbol c :: parts rest := by
  simp [parts, partsFrom, hword, hspace, endedWord]

omit [PythonTables] in
/-- Part by part. -/
theorem parts_induction {motive : List Char → Prop} (nil : motive [])
    (space : ∀ c rest, isSpace c = true → motive rest → motive (c :: rest))
    (symbol : ∀ c rest, isSpace c = false → isWord c = false → motive rest → motive (c :: rest))
    (word : ∀ w rest, w ≠ [] → (∀ c ∈ w, isWord c = true) → (∀ c ∈ rest.head?, isWord c = false) →
      motive rest → motive (w ++ rest)) (cs : List Char) : motive cs := by
  induction hn : cs.length using Nat.strong_induction_on generalizing cs with
  | _ n ih =>
      cases cs with
      | nil => exact nil
      | cons c rest =>
          cases hspace : isSpace c with
          | true => exact space c rest hspace (ih rest.length (by simp [← hn]) rest rfl)
          | false =>
              cases hword : isWord c with
              | false => exact symbol c rest hspace hword (ih rest.length (by simp [← hn]) rest rfl)
              | true =>
                  have hsplit := List.takeWhile_append_dropWhile (p := isWord) (l := c :: rest)
                  have hhead := List.head?_dropWhile_not isWord (c :: rest)
                  have hw : ∀ d ∈ (c :: rest).takeWhile isWord, isWord d = true := fun d hd =>
                    List.mem_takeWhile_imp hd
                  have hne : (c :: rest).takeWhile isWord ≠ [] := by simp [hword]
                  generalize (c :: rest).takeWhile isWord = w at hsplit hw hne
                  generalize (c :: rest).dropWhile isWord = tail at hsplit hhead
                  have hshorter := List.length_pos_iff.mpr hne
                  rw [← hsplit] at hn ⊢
                  refine word w tail hne hw (fun d hd => ?_)
                    (ih tail.length (by simp [← hn]; omega) tail rfl)
                  rw [Option.mem_def.mp hd] at hhead
                  simpa using hhead

omit [PythonTables] in
/-- A part that is no word stands in the text. -/
theorem mem_of_symbol_mem_parts {c : Char} {cs : List Char} (h : .symbol c ∈ parts cs) :
    c ∈ cs := by
  have hfrom : ∀ w : List Char, .symbol c ∈ partsFrom w cs → c ∈ cs := by
    have hended : ∀ w, Lexeme.symbol c ∉ endedWord w := fun w => by
      rw [endedWord]
      split <;> simp
    clear h
    induction cs with
    | nil => exact fun w h => absurd h (hended w)
    | cons d cs ih =>
        intro w h
        rw [partsFrom] at h
        split_ifs at h with hword hspace
        · exact List.mem_cons_of_mem _ (ih _ h)
        · rcases List.mem_append.mp h with h | h
          · exact absurd h (hended w)
          · exact List.mem_cons_of_mem _ (ih [] h)
        · rcases List.mem_append.mp h with h | h
          · exact absurd h (hended w)
          · rcases List.mem_cons.mp h with heq | h
            · exact Lexeme.symbol.inj heq ▸ List.mem_cons_self
            · exact List.mem_cons_of_mem _ (ih [] h)
  exact hfrom [] h

omit [PythonTables] in
/-- A text without opening characters opens no block. -/
theorem closes?_eq_none_of_parts {closing : Char → Option Char} {cs : List Char}
    (h : ∀ c ∈ cs, closing c = none) : ∀ x ∈ parts cs, x.closes? closing = none := by
  intro x hx
  cases x with
  | symbol c => exact h c (mem_of_symbol_mem_parts hx)
  | _ => rfl

theorem symbol_mem_parts {c : Char} (hspace : isSpace c = false) (hword : isWord c = false)
    (cs : List Char) : .symbol c ∈ parts cs ↔ c ∈ cs := by
  induction cs using parts_induction with
  | nil => simp
  | space d rest hd ih =>
      have hne : c ≠ d := by
        rintro rfl
        rw [hspace] at hd
        cases hd
      simp [parts_space hd, ih, hne]
  | symbol d rest hdspace hdword ih => simp [parts_symbol hdspace hdword, ih]
  | word w rest hne hw hrest ih =>
      have hnot : c ∉ w := fun hmem => by
        rw [hw c hmem] at hword
        cases hword
      simp [parts_word_append hne hw hrest, ih, hnot]

/-- The parts of a text are those of its lexemes. -/
theorem parts_eq (cs : List Char) : parts cs = (lex cs).flatMap fun l => parts l.text := by
  induction cs using lex_induction with
  | nil => rfl
  | cons l rest hl hapart hlex ih => rw [hlex, List.flatMap_cons, parts_append hapart, ih]

/-! ## Quoted texts -/

omit [Python] [PythonTables] in
/-- Up to its first quote nothing is doubled. -/
theorem Delimiter.Fits.cases_closing {d : Delimiter} (hd : d.standard = true) {q : Char}
    (hq : d.closing = [q]) {content : List Char} (h : d.Fits content) :
    q ∉ content ∨
      ∃ body rest, content = body ++ q :: q :: rest ∧ q ∉ body ∧ d.Fits rest := by
  have hescapes : d.escapes = false := by cases d <;> simp_all [escapes, standard]
  induction h with
  | nil => exact .inl (by simp)
  | @plain c cs hc _ _ ih =>
      have hne : q ≠ c := by
        rintro rfl
        exact hc (by simp [hq])
      rcases ih with hnot | ⟨body, rest, rfl, hbody, hrest⟩
      · exact .inl (by simp [hne, hnot])
      · exact .inr ⟨c :: body, rest, rfl, by simp [hne, hbody], hrest⟩
  | @doubled c cs _ hc hrest _ =>
      obtain rfl : c = q := by simpa [hq] using hc
      exact .inr ⟨[], cs, rfl, by simp, hrest⟩
  | escaped hd => simp [hescapes] at hd

/-- A quoted text is blanked out, piece by piece between its doubled quotes. -/
theorem shown_quoted {α : Type} {key : α → Lexeme} {f : Lexeme → α} (hf : ∀ x, key (f x) = x)
    {d : Delimiter} (hd : d.standard = true) {content : List Char} (h : d.Fits content)
    (bs : List α) :
    shown key quoteClosing none ((parts (Lexeme.quoted d content).text).map f ++ bs) =
      shown key quoteClosing none bs := by
  obtain ⟨q, hopening, hclosing, hq⟩ :
      ∃ q, d.opening = [q] ∧ d.closing = [q] ∧ isQuote q = true := by
    cases d with
    | single => exact ⟨'\'', rfl, rfl, rfl⟩
    | double => exact ⟨'"', rfl, rfl, rfl⟩
    | _ => cases hd
  have hspace := not_isSpace_of_delimits (delimits_of_isQuote hq)
  have hword := not_isWord_of_delimits (delimits_of_isQuote hq)
  have hcloses : (key (f (.symbol q))).closes? quoteClosing = some q := by
    simp [hf, Lexeme.closes?, quoteClosing, hq]
  have hmap : ∀ xs : List Lexeme, (xs.map f).map key = xs := fun xs => by
    have hid : key ∘ f = id := funext hf
    rw [List.map_map, hid, List.map_id]
  have hblank : ∀ body, q ∉ body → ∀ tail,
      shown key quoteClosing none (f (.symbol q) :: ((parts body).map f ++ f (.symbol q) :: tail)) =
        shown key quoteClosing none tail := by
    intro body hbody tail
    have hnot : Lexeme.symbol q ∉ ((parts body).map f).map key := by
      rwa [hmap, symbol_mem_parts hspace hword]
    rw [shown_cons_of_closes hcloses (by simp [hf]), shown_some_append hnot (hf _)]
  have hsplit : ∀ as tail, parts (as ++ q :: tail) = parts as ++ .symbol q :: parts tail := by
    intro as tail
    rw [parts_append fun _ => by simpa using hword, parts_symbol hspace hword]
  have hpieces : ∀ content, d.Fits content →
      shown key quoteClosing none (f (.symbol q) :: ((parts (content ++ [q])).map f ++ bs)) =
        shown key quoteClosing none bs := by
    intro content h
    induction hn : content.length using Nat.strong_induction_on generalizing content with
    | _ n ih =>
        rcases h.cases_closing hd hclosing with hnot | ⟨body, rest, rfl, hbody, hrest⟩
        · rw [hsplit, parts_nil]
          simpa using hblank content hnot bs
        · have hnext := ih rest.length (by simp [← hn]; omega) rest hrest rfl
          have hquote := parts_symbol hspace hword (rest ++ [q])
          rw [List.append_assoc, List.cons_append, List.cons_append, hsplit, hquote]
          have hfirst := hblank body hbody (f (.symbol q) :: ((parts (rest ++ [q])).map f ++ bs))
          simpa using hfirst.trans hnext
  have htext : (Lexeme.quoted d content).text = q :: (content ++ [q]) := by
    simp [Lexeme.text, hopening, hclosing]
  rw [htext, parts_symbol hspace hword]
  exact hpieces content h

/-! ## What is seen -/

variable {r : Pattern} {closing : Char → Option Char}

omit [PythonTables] in
/-- A text without its blocks begins like it, or with a blank. -/
theorem head_blankRest (hr : IsBlocks r closing) (pre cs : List Char) :
    ∀ c ∈ (blankRest r pre cs).head?, c = ' ' ∨ cs.head? = some c := by
  intro c hc
  cases cs with
  | nil =>
      rw [hr.blankRest_nil] at hc
      cases hc
  | cons o rest =>
      by_cases hopens : ∃ d, closing o = some d ∧ d ∈ rest
      · obtain ⟨d, hd, hmem⟩ := hopens
        obtain ⟨body, after, rfl, hbody⟩ := List.eq_append_cons_of_mem hmem
        rw [hr.blankRest_block hd (fun e he heq => hbody (heq ▸ he))] at hc
        exact .inl (Option.some.inj hc).symm
      · rw [hr.blankRest_skip fun d hd hmem => hopens ⟨d, hd, hmem⟩] at hc
        exact .inr hc

/-- What a substitution of blocks leaves is said by the parts. -/
theorem parts_blankRest (hr : IsBlocks r closing)
    (hclosing : ∀ o c, closing o = some c →
      (isSpace o = false ∧ isWord o = false) ∧ isSpace c = false ∧ isWord c = false)
    (pre cs : List Char) : parts (blankRest r pre cs) = shown id closing none (parts cs) := by
  induction hn : cs.length using Nat.strong_induction_on generalizing pre cs with
  | _ n ih =>
      cases cs using parts_induction with
      | nil => simp [hr.blankRest_nil]
      | space c rest hc _ =>
          have hnone : ∀ d, closing c = some d → d ∉ rest := fun d hd => by
            rw [(hclosing c d hd).1.1] at hc
            cases hc
          rw [hr.blankRest_skip hnone, parts_space hc, parts_space hc]
          exact ih rest.length (by simp [← hn]) _ rest rfl
      | word w rest hne hw hrest _ =>
          have hlonger : 0 < w.length := List.length_pos_iff.mpr hne
          have hnone : ∀ c ∈ w, closing c = none := by
            intro c hc
            by_contra hsome
            obtain ⟨d, hd⟩ := Option.ne_none_iff_exists'.mp hsome
            have hnot := (hclosing c d hd).1.2
            rw [hw c hc] at hnot
            cases hnot
          have hhead : ∀ c ∈ (blankRest r (pre ++ w) rest).head?, isWord c = false := by
            intro c hc
            rcases head_blankRest hr _ _ c hc with rfl | hhead
            · exact not_isWord_of_isSpace (by decide)
            · exact hrest c hhead
          have hword : (Lexeme.word w).closes? closing = none := rfl
          rw [hr.blankRest_append hnone, parts_word_append hne hw hhead,
            parts_word_append hne hw hrest, shown_cons_of_not_closes (by simp [hword]),
            ih rest.length (by simp [← hn]; omega) _ rest rfl]
      | symbol c rest hspace hword _ =>
          by_cases hopens : ∃ d, closing c = some d ∧ d ∈ rest
          · obtain ⟨d, hd, hmem⟩ := hopens
            obtain ⟨hdspace, hdword⟩ := (hclosing c d hd).2
            obtain ⟨body, after, rfl, hbody⟩ := List.eq_append_cons_of_mem hmem
            have hsplit : parts (body ++ d :: after) = parts body ++ .symbol d :: parts after := by
              rw [parts_append fun _ => by simpa using hdword, parts_symbol hdspace hdword]
            have hbodyparts : Lexeme.symbol d ∉ (parts body).map id := by
              simpa [symbol_mem_parts hdspace hdword] using hbody
            have hblank := hr.blankRest_block hd (fun e he heq => hbody (heq ▸ he)) pre after
            have hcloses : (id (Lexeme.symbol c)).closes? closing = some d := hd
            have hlater : Lexeme.symbol d ∈ (parts body ++ .symbol d :: parts after).map id := by
              simp
            rw [hblank, parts_space (by decide), parts_symbol hspace hword, hsplit,
              shown_cons_of_closes hcloses hlater, shown_some_append hbodyparts rfl]
            exact ih after.length (by simp [← hn]; omega) _ after rfl
          · have hnone : ∀ d, closing c = some d → d ∉ rest := fun d hd hmem =>
              hopens ⟨d, hd, hmem⟩
            have hkept : ∀ d, (Lexeme.symbol c).closes? closing = some d →
                Lexeme.symbol d ∉ (parts rest).map id := by
              intro d hd
              obtain ⟨hdspace, hdword⟩ := (hclosing c d hd).2
              simpa [symbol_mem_parts hdspace hdword] using hnone d hd
            rw [hr.blankRest_skip hnone, parts_symbol hspace hword, parts_symbol hspace hword,
              shown_cons_of_not_closes hkept, ih rest.length (by simp [← hn]) _ rest rfl]

/-- A search for whole words finds the words among the parts. -/
theorem length_findRest {ws : List (List Char)} (hr : IsWords r ws) {pre cs : List Char}
    (hpre : Apart pre cs) :
    (findRest r pre cs).length = (parts cs).countP (Lexeme.isWordIn ws) := by
  induction cs using parts_induction generalizing pre with
  | nil => simp [hr.findRest_nil]
  | space c rest hc ih =>
      have hword := not_isWord_of_isSpace hc
      rw [hr.findRest_skip (by simp [hword]), parts_space hc, ih (by simp [Apart, hword])]
  | symbol c rest hspace hword ih =>
      rw [hr.findRest_skip (by simp [hword]), parts_symbol hspace hword, List.countP_cons,
        ih (by simp [Apart, hword])]
      simp [Lexeme.isWordIn]
  | word w rest hne hw hrest ih =>
      have hbefore : pre.getLast?.any isWord = false := by
        by_contra hlast
        obtain ⟨c, v, rfl⟩ := List.exists_cons_of_ne_nil hne
        have hnot := hpre (by simpa using hlast) c (by simp)
        rw [hw c (by simp)] at hnot
        cases hnot
      rw [hr.findRest_word hne hw hbefore hrest, parts_word_append hne hw hrest, List.countP_cons,
        ih fun _ => hrest]
      simp [Lexeme.isWordIn]
      omega

end

end DbGateway.Sql
