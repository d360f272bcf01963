import DbGateway.Sql.Quoted

/-!
# DbGateway.Sql.Phrase

Words with spaces between them, as they are read in the middle of a text.
-/

namespace DbGateway.Sql

open Re

section

variable [Python] [PythonTables]

omit [Python] [PythonTables] in
/-- Words with spaces between them. -/
structure Phrase where
  first : List Char
  /-- Each further word, after its spaces. -/
  more : List (List Char × List Char)

omit [Python] [PythonTables] in
/-- The text of the further words of a phrase. -/
def spacedText (more : List (List Char × List Char)) : List Char :=
  more.flatMap fun part => part.1 ++ part.2

omit [Python] [PythonTables] in
/-- The lexemes of the further words of a phrase. -/
def spacedLexemes (more : List (List Char × List Char)) : List Lexeme :=
  more.flatMap fun part => part.1.map .space ++ [.word part.2]

omit [PythonTables] in
theorem exists_name {pre : List Char} (h : nameOpen pre = true) :
    ∃ u, Mode.code.after pre = .name u := by
  rw [nameOpen] at h
  split at h
  · exact ⟨_, ‹_›⟩
  · cases h

namespace Phrase

def text (p : Phrase) : List Char := p.first ++ spacedText p.more

def lexemes (p : Phrase) : List Lexeme := .word p.first :: spacedLexemes p.more

/-- The words are words and the spaces are spaces, none of them empty; there are two
words at least. -/
structure Proper (p : Phrase) : Prop where
  first_ne : p.first ≠ []
  first_word : ∀ c ∈ p.first, isWord c = true
  two : p.more ≠ []
  more_ne : ∀ part ∈ p.more, part.1 ≠ [] ∧ part.2 ≠ []
  more_space : ∀ part ∈ p.more, ∀ c ∈ part.1, isSpace c = true
  more_word : ∀ part ∈ p.more, ∀ c ∈ part.2, isWord c = true

variable {p : Phrase}

omit [PythonTables] in
/-- The characters of a phrase. -/
theorem Proper.mem_text (hp : p.Proper) {c : Char} (hc : c ∈ p.text) :
    isWord c = true ∨ isSpace c = true := by
  simp only [text, spacedText, List.mem_append, List.mem_flatMap] at hc
  rcases hc with hc | ⟨part, hpart, hc | hc⟩
  · exact .inl (hp.first_word c hc)
  · exact .inr (hp.more_space part hpart c hc)
  · exact .inl (hp.more_word part hpart c hc)

theorem Proper.not_delimits (hp : p.Proper) : ∀ c ∈ p.text, delimits c = false := fun _ hc =>
  (hp.mem_text hc).elim not_delimits_of_isWord not_delimits_of_isSpace

omit [PythonTables] in
theorem Proper.exists_space (hp : p.Proper) : ∃ c ∈ p.text, isSpace c = true := by
  obtain ⟨part, more, hcons⟩ := List.exists_cons_of_ne_nil hp.two
  obtain ⟨c, sp, hsp⟩ := List.exists_cons_of_ne_nil (hp.more_ne part (by simp [hcons])).1
  exact ⟨c, by simp [text, spacedText, hcons, hsp],
    hp.more_space part (by simp [hcons]) c (by simp [hsp])⟩

/-- The words behind the first one, read from where a lexeme ends. -/
theorem lexFrom_spacedText {init : List (List Char × List Char)} {part : List Char × List Char}
    (hne : ∀ q ∈ init ++ [part], q.1 ≠ [] ∧ q.2 ≠ [])
    (hspace : ∀ q ∈ init ++ [part], ∀ c ∈ q.1, isSpace c = true)
    (hword : ∀ q ∈ init ++ [part], ∀ c ∈ q.2, isWord c = true) {m : Mode}
    (hm : m.inQuotes = false) (rest : List Char) :
    lexFrom m (spacedText (init ++ [part]) ++ rest) =
      m.flush ++ (spacedLexemes init ++ (part.1.map .space ++ lexFrom (.word part.2) rest)) := by
  have hfirst : ∀ {m : Mode}, m.inQuotes = false → ∀ q : List Char × List Char, q.1 ≠ [] →
      q.2 ≠ [] → (∀ c ∈ q.1, isSpace c = true) → (∀ c ∈ q.2, isWord c = true) → ∀ tail,
      lexFrom m (q.1 ++ q.2 ++ tail) = m.flush ++ (q.1.map .space ++ lexFrom (.word q.2) tail) := by
    intro m hm q hsp hw hspace hword tail
    obtain ⟨c, sp, hcons⟩ := List.exists_cons_of_ne_nil hsp
    have hc : isSpace c = true := hspace c (by simp [hcons])
    have hbreaks : m.Breaks (q.1 ++ (q.2 ++ tail)) := Mode.breaks_of_head hm fun e he => by
      obtain rfl : c = e := by simpa [hcons] using he
      exact ⟨not_isWord_of_isSpace hc, not_delimits_of_isSpace hc⟩
    rw [List.append_assoc, lexFrom_of_breaks hbreaks, lex_spaces hspace, lex_word_append hw hword]
  induction init generalizing m with
  | nil =>
      have hpart := hfirst hm part (hne part (by simp)).1 (hne part (by simp)).2
        (hspace part (by simp)) (hword part (by simp)) rest
      simpa [spacedText, spacedLexemes] using hpart
  | cons q init ih =>
      have hq := hfirst hm q (hne q (by simp)).1 (hne q (by simp)).2 (hspace q (by simp))
        (hword q (by simp)) (spacedText (init ++ [part]) ++ rest)
      have hmore := ih (m := .word q.2) (fun r hr => hne r (List.mem_cons_of_mem _ hr))
        (fun r hr => hspace r (List.mem_cons_of_mem _ hr))
        (fun r hr => hword r (List.mem_cons_of_mem _ hr)) rfl
      rw [hmore] at hq
      simpa [spacedText, spacedLexemes, Mode.flush] using hq

omit [Python] [PythonTables] in
/-- The last word. -/
def last (p : Phrase) : List Char := (p.more.getLast?.map Prod.snd).getD p.first

omit [PythonTables] in
theorem Proper.exists_concat (hp : p.Proper) :
    ∃ init part, p.more = init ++ [part] ∧ p.last = part.2 := by
  obtain ⟨init, part, hmore⟩ := (List.eq_nil_or_concat p.more).resolve_left hp.two
  rw [List.concat_eq_append] at hmore
  exact ⟨init, part, hmore, by simp [last, hmore]⟩

omit [PythonTables] in
/-- The last lexeme of a phrase is its last word. -/
theorem Proper.spacedLexemes_eq (hp : p.Proper) :
    spacedLexemes p.more = (spacedLexemes p.more).dropLast ++ [.word p.last] := by
  obtain ⟨init, part, hmore, hlast⟩ := hp.exists_concat
  have hsplit : spacedLexemes p.more =
      (spacedLexemes init ++ part.1.map .space) ++ [.word part.2] := by
    simp [spacedLexemes, hmore]
  rw [hlast, hsplit, List.dropLast_concat]

/-- The words of a phrase behind the first one; the last may go on. -/
theorem Proper.lexFrom_more (hp : p.Proper) {m : Mode} (hm : m.inQuotes = false)
    (rest : List Char) : lexFrom m (spacedText p.more ++ rest) =
      m.flush ++ ((spacedLexemes p.more).dropLast ++ lexFrom (.word p.last) rest) := by
  obtain ⟨init, part, hmore, hlast⟩ := hp.exists_concat
  have hdrop : (spacedLexemes p.more).dropLast = spacedLexemes init ++ part.1.map .space := by
    simp [spacedLexemes, hmore, ← List.append_assoc]
  rw [hdrop, hlast, hmore, lexFrom_spacedText (hmore ▸ hp.more_ne) (hmore ▸ hp.more_space)
    (hmore ▸ hp.more_word) hm, List.append_assoc]

theorem Proper.lexFrom_more_of_breaks (hp : p.Proper) {m : Mode} (hm : m.inQuotes = false)
    {rest : List Char} (hrest : (Mode.word p.last).Breaks rest) :
    lexFrom m (spacedText p.more ++ rest) = m.flush ++ (spacedLexemes p.more ++ lex rest) := by
  rw [hp.lexFrom_more hm, lexFrom_of_breaks hrest, hp.spacedLexemes_eq]
  simp [Mode.flush]

/-- A phrase is read as its words and spaces. -/
theorem Proper.lex_append (hp : p.Proper) {rest : List Char}
    (hrest : (Mode.word p.last).Breaks rest) : lex (p.text ++ rest) = p.lexemes ++ lex rest := by
  rw [text, List.append_assoc, lex_word_append hp.first_ne hp.first_word,
    hp.lexFrom_more_of_breaks rfl hrest]
  rfl

theorem Proper.lex_text (hp : p.Proper) : lex p.text = p.lexemes := by
  have happend := hp.lex_append (Mode.breaks_nil _)
  simpa [lex, lexFrom, Mode.flush] using happend

omit [PythonTables] in
theorem Proper.space_head (hp : p.Proper) (rest : List Char) :
    ∃ c ∈ (spacedText p.more ++ rest).head?, isSpace c = true := by
  obtain ⟨part, more, hcons⟩ := List.exists_cons_of_ne_nil hp.two
  obtain ⟨c, sp, hsp⟩ := List.exists_cons_of_ne_nil (hp.more_ne part (by simp [hcons])).1
  exact ⟨c, by simp [spacedText, hcons, hsp],
    hp.more_space part (by simp [hcons]) c (by simp [hsp])⟩

variable {pre post : List Char}

/-- A phrase after a boundary, outside quotes and names; its last word may go on. -/
theorem Proper.lex_between (hp : p.Proper) (hcode : quoteOpen pre = false)
    (hname : nameOpen pre = false) (hbefore : pre.getLast?.any isWord = false) :
    lex (pre ++ (p.text ++ post)) = lex pre ++ (.word p.first ::
      ((spacedLexemes p.more).dropLast ++ lexFrom (.word p.last) post)) := by
  have hpre : lex pre = Mode.code.completed pre ++ (Mode.code.after pre).flush := lexFrom_eq _ pre
  rw [text, List.append_assoc, hpre, lex, lexFrom_append,
    lexFrom_boundary hcode hname hbefore hp.first_ne hp.first_word (hp.space_head post),
    hp.lexFrom_more rfl]
  simp [Mode.flush]

theorem Proper.lex_between_of_breaks (hp : p.Proper) (hcode : quoteOpen pre = false)
    (hname : nameOpen pre = false) (hbefore : pre.getLast?.any isWord = false)
    (hpost : (Mode.word p.last).Breaks post) :
    lex (pre ++ (p.text ++ post)) = lex pre ++ (p.lexemes ++ lex post) := by
  rw [hp.lex_between hcode hname hbefore, lexFrom_of_breaks hpost, lexemes, hp.spacedLexemes_eq]
  simp [Mode.flush]

/-- The first word of a phrase goes on with an identifier with a dollar sign. -/
theorem Proper.lex_nameOpen (hp : p.Proper) {u : List Char}
    (hname : Mode.code.after pre = .name u) :
    lex (pre ++ (p.text ++ post)) = Mode.code.completed pre ++ (.name (u ++ p.first) ::
      ((spacedLexemes p.more).dropLast ++ lexFrom (.word p.last) post)) := by
  have hfirst : ∀ c ∈ p.first, isWord c = true ∨ c = '$' := fun c hc => .inl (hp.first_word c hc)
  rw [text, List.append_assoc, lex, lexFrom_append, hname, lexFrom_name u hfirst,
    hp.lexFrom_more rfl]
  simp [Mode.flush]

/-- The first word of a phrase is where its letters begin. -/
theorem Proper.takeWhile_text (hp : p.Proper) : p.text.takeWhile isWord = p.first := by
  rw [text, List.takeWhile_append_of_pos hp.first_word]
  obtain ⟨c, hc, hspace⟩ := hp.space_head []
  rw [List.append_nil] at hc
  obtain ⟨tail, htail⟩ : ∃ tail, spacedText p.more = c :: tail := by
    cases hmore : spacedText p.more with
    | nil => simp [hmore] at hc
    | cons d tail => exact ⟨tail, by rw [hmore] at hc; rw [Option.some.inj hc]⟩
  simp [htail, not_isWord_of_isSpace hspace]

/-- The last word is where they end. -/
theorem Proper.rtakeWhile_text (hp : p.Proper) : p.text.rtakeWhile isWord = p.last := by
  obtain ⟨init, part, hmore, hlast⟩ := hp.exists_concat
  have hpart : part ∈ p.more := by simp [hmore]
  obtain ⟨sp, c, hsp⟩ := (List.eq_nil_or_concat part.1).resolve_left (hp.more_ne part hpart).1
  have hc : isWord c = false :=
    not_isWord_of_isSpace (hp.more_space part hpart c (by simp [hsp]))
  have htext : p.text = (p.first ++ spacedText init ++ sp ++ [c]) ++ part.2 := by
    simp [text, spacedText, hmore, hsp]
  have hword : ∀ d ∈ part.2.reverse, isWord d = true := fun d hd =>
    hp.more_word part hpart d (List.mem_reverse.mp hd)
  rw [htext, hlast, List.rtakeWhile, List.reverse_append, List.takeWhile_append_of_pos hword]
  simp [hc]

end Phrase

end

end DbGateway.Sql
