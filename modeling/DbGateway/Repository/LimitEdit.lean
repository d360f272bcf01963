import DbGateway.Repository.Limit
import DbGateway.Sql.Allowlist

/-!
# DbGateway.Repository.LimitEdit

What `_ensure_limit` makes of a statement as SQL reads it: whether the
statement it returns has a row cap within the maximum on its outermost query,
and whether anything else of the statement changes.
-/

namespace DbGateway.Repository

open Re Re.Pattern Sql

section

variable [Python] [PythonTables]

/-! ## The new clause -/

/-- `LIMIT n` as a phrase. -/
def limitPhrase (n : Nat) : Phrase := ⟨"LIMIT".toList, [([' '], Nat.toDigits 10 n)]⟩

omit [Python] [PythonTables] in
theorem text_limitPhrase (n : Nat) : (limitPhrase n).text = limitText n := by
  change "LIMIT".toList ++ (' ' :: Nat.toDigits 10 n ++ []) = "LIMIT ".toList ++ Nat.toDigits 10 n
  simp

omit [Python] [PythonTables] in
theorem isDigit_of_mem_toDigits {n : Nat} {c : Char} (h : c ∈ Nat.toDigits 10 n) :
    c.isDigit = true := Nat.isDigit_of_mem_toDigits (by omega) (by omega) h

omit [Python] [PythonTables] in
theorem folds_limit : Folds "limit".toList "LIMIT".toList := by decide

theorem decimal_of_isDigit {c : Char} (h : c.isDigit = true) : (PythonTables.decimal c).isSome := by
  have hascii : c.toNat < 128 := Char.toNat_lt_of_isAlphanum (by simp [Char.isAlphanum, h])
  simp [PythonTables.decimal_ascii c hascii, h]

theorem proper_limitPhrase (n : Nat) : (limitPhrase n).Proper := by
  refine ⟨by simp [limitPhrase], isWord_of_folds (by decide) folds_limit, by simp [limitPhrase],
    ?_, ?_, ?_⟩
  · simp [limitPhrase, Nat.toDigits_ne_nil]
  · simp only [limitPhrase, List.mem_singleton, forall_eq]
    decide
  · simp only [limitPhrase, List.mem_singleton, forall_eq]
    exact fun c hc => isWord_of_decimal (decimal_of_isDigit (isDigit_of_mem_toDigits hc))

omit [Python] [PythonTables] in
theorem capPhrase_limitPhrase (n : Nat) : CapPhrase (limitPhrase n) (Nat.toDigits 10 n) :=
  .limit folds_limit

omit [Python] [PythonTables] in
theorem CapPhrase.capWord {p : Phrase} {ds : List Char} (h : CapPhrase p ds) : CapWord p.first := by
  cases h with
  | limit hw => exact capWord_of_folds (.inl rfl) hw
  | fetch hw => exact capWord_of_folds (.inr rfl) hw
  | fetchOnly hw => exact capWord_of_folds (.inr rfl) hw

theorem CapPhrase.inert {p : Phrase} {ds : List Char} (h : CapPhrase p ds) (hne : ds ≠ [])
    (hdecimal : ∀ c ∈ ds, (PythonTables.decimal c).isSome) : ∀ part ∈ p.more, Inert part.2 := by
  have hds : Inert ds := inert_of_decimal hne hdecimal
  cases h with
  | limit hw => simpa using hds
  | fetch hw hfirst hrows =>
      have hfirst := inert_of_folds (by decide) hfirst
      have hrows := inert_of_folds (by decide) hrows
      simpa using ⟨hfirst, hds, hrows⟩
  | fetchOnly hw hfirst hrows honly =>
      have hfirst := inert_of_folds (by decide) hfirst
      have hrows := inert_of_folds (by decide) hrows
      have honly := inert_of_folds (by decide) honly
      simpa using ⟨hfirst, hds, hrows, honly⟩

theorem inert_limitPhrase (n : Nat) : ∀ part ∈ (limitPhrase n).more, Inert part.2 :=
  (capPhrase_limitPhrase n).inert Nat.toDigits_ne_nil fun _ hc =>
    decimal_of_isDigit (isDigit_of_mem_toDigits hc)

omit [Python] [PythonTables] in
theorem capWord_limitPhrase (n : Nat) : CapWord (limitPhrase n).first :=
  (capPhrase_limitPhrase n).capWord

omit [Python] [PythonTables] in
theorem statedNumber?_toDigits (n : Nat) : statedNumber? (Nat.toDigits 10 n) = some n := by
  have hdigits : (Nat.toDigits 10 n).all Char.isDigit = true := by
    simpa using fun c hc => isDigit_of_mem_toDigits (n := n) hc
  simp [statedNumber?, Nat.toDigits_ne_nil, hdigits]

theorem inert_toDigits (n : Nat) : Inert (Nat.toDigits 10 n) := by
  simpa [limitPhrase] using inert_limitPhrase n

/-- Where a cap can stand and none does, the clause states its number. -/
theorem read_limitPhrase {r : Reading} (h : r.takesCap = true) (hphase : r.phase = .uncapped)
    (n : Nat) : r.read (limitPhrase n).lexemes = ⟨0, false, .inCap (.stated n)⟩ := by
  obtain ⟨depth, glued, phase⟩ := r
  obtain rfl : phase = .uncapped := hphase
  obtain ⟨rfl, rfl⟩ : depth = 0 ∧ glued = false := by simpa [Reading.takesCap] using h
  have hstart : Reading.step ⟨0, false, .uncapped⟩ (.word "LIMIT".toList) =
      ⟨0, false, .inCap .limit⟩ := by decide
  have hnumber : Reading.step ⟨0, false, .inCap .limit⟩ (.word (Nat.toDigits 10 n)) =
      ⟨0, false, .inCap (.stated n)⟩ := by
    simp [Reading.step, Reading.readWord, (inert_toDigits n).not_as, (inert_toDigits n).endsCap_eq,
      Operand.read, statedNumber?_toDigits]
  have hlexemes : (limitPhrase n).lexemes =
      [.word "LIMIT".toList, .space ' ', .word (Nat.toDigits 10 n)] := by
    simp [Phrase.lexemes, limitPhrase, spacedLexemes]
  rw [hlexemes]
  simp only [Reading.read_cons, hstart, Reading.step_space, hnumber, Reading.read_nil]

/-! ## What is read -/

theorem Found.not_isWord_before {text : List Char} {m : Match} {pre : List Char} {p : Phrase}
    {ds post : List Char} (hm : Found text m pre p ds post) :
    pre.getLast?.any isWord = false := by
  obtain ⟨c, w, hcons⟩ := List.exists_cons_of_ne_nil hm.proper.first_ne
  have hc : isWord c = true := hm.proper.first_word c (by simp [hcons])
  have hat := hm.before
  rw [AtBoundary, Phrase.text, hcons] at hat
  simpa [hc] using hat

omit [PythonTables] in
/-- A number ends where no word goes on. -/
theorem breaks_toDigits {n : Nat} {post : List Char} (hends : ∀ c ∈ post.head?, isWord c = false) :
    (Mode.word (Nat.toDigits 10 n)).Breaks post := by
  have hdigits : ∀ c ∈ Nat.toDigits 10 n, c.isDigit = true := fun c hc =>
    isDigit_of_mem_toDigits hc
  refine Mode.breaks_word hends (fun _ => ?_) fun _ => ?_
  · obtain ⟨c, ds, hcons⟩ := List.exists_cons_of_ne_nil (Nat.toDigits_ne_nil (n := n) (b := 10))
    simp [startsName, hcons, hdigits c (by simp [hcons])]
  · by_contra hletter
    obtain ⟨l, hl⟩ := Option.ne_none_iff_exists'.mp hletter
    obtain ⟨hword, hl⟩ := escapeLetter_eq_some hl
    have hdigit : l.isDigit = true := hdigits l (by simp [hword])
    rcases hl with rfl | rfl <;> exact absurd hdigit (by decide)

/-- A phrase outside quotes and names is read after what is before it. -/
theorem Found.reading_eq {text : List Char} {m : Match} {pre : List Char} {p : Phrase}
    {ds post : List Char} (hm : Found text m pre p ds post) (hcode : quoteOpen pre = false)
    (hname : nameOpen pre = false) {q : Phrase} (hq : q.Proper)
    (hlast : (Mode.word q.last).Breaks post) :
    reading (pre ++ (q.text ++ post)) = ((reading pre).read q.lexemes).read (lex post) := by
  rw [reading, hq.lex_between_of_breaks hcode hname hm.not_isWord_before hlast,
    Reading.read_append, Reading.read_append]
  rfl

/-- What is in quotes is not read. -/
theorem reading_quoteOpen {pre : List Char} (h : quoteOpen pre = true) {p q : Phrase}
    (hp : p.Proper) (hq : q.Proper) (post : List Char) :
    reading (pre ++ (p.text ++ post)) = reading (pre ++ (q.text ++ post)) := by
  obtain ⟨d, content, closed, more, rest, hlex⟩ := lex_quoteOpen h post
  rw [reading, reading, hlex _ hp.not_delimits hp.exists_space,
    hlex _ hq.not_delimits hq.exists_space]
  cases closed <;> simp [literal, Reading.step]

omit [Python] [PythonTables] in
/-- After a name no word is the operand of a cap. -/
theorem settled_step_name (r : Reading) (w : List Char) : (r.step (.name w)).Settled := by
  obtain ⟨depth, glued, phase⟩ := r
  cases phase <;> exact ⟨rfl, by trivial⟩

/-- The first word of a phrase only changes the name it goes on with. -/
theorem reading_nameOpen {pre : List Char} (h : nameOpen pre = true) {p q : Phrase}
    (hp : p.Proper) (hq : q.Proper) (hpmore : ∀ part ∈ p.more, Inert part.2)
    (hqmore : ∀ part ∈ q.more, Inert part.2) {post : List Char}
    (hplast : (Mode.word p.last).Breaks post) (hqlast : (Mode.word q.last).Breaks post) :
    reading (pre ++ (p.text ++ post)) = reading (pre ++ (q.text ++ post)) := by
  obtain ⟨u, hu⟩ := exists_name h
  have hread : ∀ {s : Phrase}, s.Proper → (∀ part ∈ s.more, Inert part.2) →
      (Mode.word s.last).Breaks post → reading (pre ++ (s.text ++ post)) =
        ((Reading.read {} (Mode.code.completed pre)).step (.name u)).read (lex post) := by
    intro s hs hmore hlast
    have hlex : lex (pre ++ (s.text ++ post)) = Mode.code.completed pre ++
        (.name (u ++ s.first) :: (spacedLexemes s.more ++ lex post)) := by
      rw [hs.lex_nameOpen hu, lexFrom_of_breaks hlast, hs.spacedLexemes_eq]
      simp [Mode.flush]
    have hsettled := settled_step_name (Reading.read {} (Mode.code.completed pre)) (u ++ s.first)
    rw [reading, hlex, Reading.read_append, Reading.read_cons, Reading.read_append,
      hsettled.read_spacedLexemes hmore]
    rfl
  rw [hread hp hpmore hplast, hread hq hqmore hqlast]

/-! ## The row cap of the statement -/

/-- The outermost query has a row cap within the maximum. -/
def Capped (maxRowLimit : Nat) (statement : List Char) : Prop :=
  ∃ n ≤ maxRowLimit, rowCap statement = some n

/-- After this text only a cap of the outermost query can stand. -/
def AtOutermost (pre : List Char) : Prop := quoteOpen pre = false ∧ (reading pre).takesCap = true

/-- After a number, this text leaves it the whole operand of the only cap. -/
def Closes (post : List Char) : Prop :=
  (Reading.read ⟨0, false, .inCap (.stated 0)⟩ (lex post)).value?.isSome

/-- A `LIMIT` or `FETCH` right after this text can only be a cap of the outermost
query: it does not go on with an identifier either. -/
def Reaches (pre : List Char) : Prop := AtOutermost pre ∧ nameOpen pre = false

/-- A statement with a name and a number in place of a clause. -/
def withoutClause (pre post : List Char) : List Char := pre ++ ("x 0".toList ++ post)

/-- The edit reaches the outermost query, or that query has another cap. -/
def CapReached (maxRowLimit : Nat) (text : List Char) : Prop :=
  match foundCap text with
  | none => AtOutermost text ∧ (reading text).phase = .uncapped
  | some m =>
      (Reaches (text.take m.start) ∧ (reading (text.take m.start)).phase = .uncapped ∧
        Closes (text.drop m.stop)) ∨
      (¬ Reaches (text.take m.start) ∧
        Capped maxRowLimit (withoutClause (text.take m.start) (text.drop m.stop)))

omit [Python] [PythonTables] in
theorem value?_stated (n : Nat) (ls : List Lexeme) :
    (Reading.read ⟨0, false, .inCap (.stated n)⟩ ls).value? =
      (Reading.read ⟨0, false, .inCap (.stated 0)⟩ ls).value?.map fun _ => n := by
  have hcounted : Reading.Counted ⟨0, false, .inCap (.stated 0)⟩ := Operand.counted_stated 0
  rw [← Reading.value?_setValue, ← hcounted.read]
  rfl

/-- The clause that is appended comes after the statement. -/
theorem lex_append_limitText {text : List Char} (hcode : quoteOpen text = false) (n : Nat) :
    lex (text ++ ' ' :: limitText n) = lex text ++ .space ' ' :: (limitPhrase n).lexemes := by
  have hspace : isWord ' ' = false := not_isWord_of_isSpace (by decide)
  have hbreaks : (Mode.code.after text).Breaks (' ' :: limitText n) := by
    refine Mode.breaks_of_head hcode ?_
    simpa [hspace] using (by decide : delimits ' ' = false)
  have hphrase : lex (limitText n) = (limitPhrase n).lexemes := by
    rw [← text_limitPhrase]
    exact (proper_limitPhrase n).lex_text
  have hspaces : ∀ c ∈ [' '], isSpace c = true := by simpa using (by decide : isSpace ' ' = true)
  rw [lex_append hbreaks, ← hphrase]
  exact congrArg (lex text ++ ·) (lex_spaces hspaces (limitText n))

theorem reading_append {text : List Char} (hcode : quoteOpen text = false) (n : Nat) :
    reading (text ++ ' ' :: limitText n) = (reading text).read (limitPhrase n).lexemes := by
  rw [reading, lex_append_limitText hcode, Reading.read_append]
  rfl

/-- Where a cap cannot stand, none is stated in the end. -/
theorem value?_read_limitPhrase {r : Reading} (h : r.takesCap = false) (n : Nat) :
    (r.read (limitPhrase n).lexemes).value? = none := by
  rw [Reading.read_phrase_of_not_takesCap h (capWord_limitPhrase n) (inert_limitPhrase n)]
  obtain ⟨depth, glued, phase⟩ := r
  cases phase with
  | later value =>
      have hdepth : depth ≠ 0 := by simpa [Reading.takesCap] using h
      simp [Reading.value?, hdepth]
  | _ => simp [Reading.value?, Phase.value?, Operand.value?]

omit [PythonTables] in
/-- A text that leaves a quote open has no row cap. -/
theorem rowCap_of_quoteOpen {text : List Char} (h : quoteOpen text = true) :
    rowCap text = none := by
  rw [quoteOpen] at h
  cases hmode : Mode.code.after text with
  | quoted d content point =>
      have hopen : point ≠ .inside d.closing := by simpa [hmode, Mode.inQuotes] using h
      rw [rowCap, reading, lex, lexFrom_eq, hmode, Reading.read_append, Mode.flush, if_neg hopen]
      exact Reading.Doomed.value? (.inr (.inr rfl))
  | _ => simp [hmode, Mode.inQuotes] at h

theorem not_delimits_limitText {n : Nat} {c : Char} (h : c ∈ ' ' :: limitText n) :
    delimits c = false := by
  rcases List.mem_cons.mp h with rfl | h
  · decide
  · rw [← text_limitPhrase] at h
    exact (proper_limitPhrase n).not_delimits c h

theorem capped_append_iff (maxRowLimit : Nat) (text : List Char) :
    Capped maxRowLimit (text ++ ' ' :: limitText (min 100 maxRowLimit)) ↔
      AtOutermost text ∧ (reading text).phase = .uncapped := by
  cases hcode : quoteOpen text with
  | true =>
      have hopen : quoteOpen (text ++ ' ' :: limitText (min 100 maxRowLimit)) = quoteOpen text :=
        quoteOpen_append (fun _ => not_delimits_limitText) text
      have hnone := rowCap_of_quoteOpen (hopen.trans hcode)
      simp [Capped, AtOutermost, hcode, hnone]
  | false =>
      rw [Capped, rowCap, reading_append hcode]
      cases htakes : (reading text).takesCap with
      | false =>
          have hnone := value?_read_limitPhrase htakes (min 100 maxRowLimit)
          simp [AtOutermost, htakes, hnone]
      | true =>
          by_cases hphase : (reading text).phase = .uncapped
          · rw [read_limitPhrase htakes hphase]
            simp [AtOutermost, hcode, htakes, hphase, Reading.value?, Phase.value?, Operand.value?]
          · have hdoomed := Reading.doomed_read_phrase htakes hphase
              (capWord_limitPhrase (min 100 maxRowLimit)) (inert_limitPhrase _) rfl
            simp [hphase, hdoomed.value?]

/-- `x 0` as a phrase. -/
def otherPhrase : Phrase := ⟨['x'], [([' '], Nat.toDigits 10 0)]⟩

omit [Python] [PythonTables] in
theorem text_otherPhrase : otherPhrase.text = "x 0".toList := by decide

theorem proper_otherPhrase : otherPhrase.Proper := by
  refine ⟨by simp [otherPhrase], ?_, by simp [otherPhrase], by simp [otherPhrase], ?_, ?_⟩
  · have hx : isWord 'x' = true := isWord_of_isAlphanum (by decide)
    simpa [otherPhrase] using hx
  · have hspace : isSpace ' ' = true := by decide
    simpa [otherPhrase] using hspace
  · have hzero : isWord '0' = true := isWord_of_isAlphanum (by decide)
    simpa [otherPhrase] using hzero

omit [Python] [PythonTables] in
theorem capWord_otherPhrase : CapWord otherPhrase.first := by
  refine ⟨by decide, by decide, fun o => ?_⟩
  cases o <;> rfl

theorem inert_otherPhrase : ∀ part ∈ otherPhrase.more, Inert part.2 := by
  simpa [otherPhrase] using inert_toDigits 0

/-- The row cap of a statement in which a phrase is replaced. -/
theorem capped_edit_iff {maxRowLimit : Nat} {text : List Char} {m : Match} {pre : List Char}
    {p : Phrase} {ds post : List Char} (hm : Found text m pre p ds post) {n : Nat}
    (hn : n ≤ maxRowLimit) :
    Capped maxRowLimit (pre ++ (limitText n ++ post)) ↔
      (Reaches pre ∧ (reading pre).phase = .uncapped ∧ Closes post) ∨
        (¬ Reaches pre ∧ Capped maxRowLimit (withoutClause pre post)) := by
  have hproper := proper_limitPhrase n
  have hbreaks : (Mode.word (limitPhrase n).last).Breaks post := breaks_toDigits hm.ends
  have hother : (Mode.word otherPhrase.last).Breaks post := breaks_toDigits (n := 0) hm.ends
  rw [← text_limitPhrase, withoutClause, ← text_otherPhrase]
  -- where the edit misses the outermost query, it does not matter what it puts there
  have hmisses : ¬ Reaches pre →
      reading (pre ++ ((limitPhrase n).text ++ post)) =
        reading (pre ++ (otherPhrase.text ++ post)) →
      (Capped maxRowLimit (pre ++ ((limitPhrase n).text ++ post)) ↔
        (Reaches pre ∧ (reading pre).phase = .uncapped ∧ Closes post) ∨
          (¬ Reaches pre ∧ Capped maxRowLimit (pre ++ (otherPhrase.text ++ post)))) := by
    intro hnot hreading
    simp [hnot, Capped, rowCap, hreading]
  cases hcode : quoteOpen pre with
  | true =>
      exact hmisses (by simp [Reaches, AtOutermost, hcode])
        (reading_quoteOpen hcode hproper proper_otherPhrase post)
  | false =>
      cases hname : nameOpen pre with
      | true =>
          exact hmisses (by simp [Reaches, hname]) (reading_nameOpen hname hproper
            proper_otherPhrase (inert_limitPhrase n) inert_otherPhrase hbreaks hother)
      | false =>
          have hnew := hm.reading_eq hcode hname hproper hbreaks
          cases htakes : (reading pre).takesCap with
          | false =>
              have hold := hm.reading_eq hcode hname proper_otherPhrase hother
              rw [Reading.read_phrase_of_not_takesCap htakes capWord_otherPhrase
                inert_otherPhrase] at hold
              rw [Reading.read_phrase_of_not_takesCap htakes (capWord_limitPhrase n)
                (inert_limitPhrase n), ← hold] at hnew
              exact hmisses (by simp [Reaches, AtOutermost, htakes]) hnew
          | true =>
              have hat : Reaches pre := ⟨⟨hcode, htakes⟩, hname⟩
              by_cases hphase : (reading pre).phase = .uncapped
              · rw [read_limitPhrase htakes hphase] at hnew
                have hvalue : rowCap (pre ++ ((limitPhrase n).text ++ post)) =
                    (Reading.read ⟨0, false, .inCap (.stated 0)⟩ (lex post)).value?.map
                      fun _ => n := by
                  rw [rowCap, hnew, value?_stated]
                have hcapped : Capped maxRowLimit (pre ++ ((limitPhrase n).text ++ post)) ↔
                    Closes post := by
                  rw [Capped, hvalue, Closes]
                  cases (Reading.read ⟨0, false, .inCap (.stated 0)⟩ (lex post)).value? <;>
                    simp [hn]
                simp [hat, hphase, hcapped]
              · have hdoomed := Reading.doomed_read_phrase htakes hphase (capWord_limitPhrase n)
                  (inert_limitPhrase n) rfl
                have hnone : rowCap (pre ++ ((limitPhrase n).text ++ post)) = none := by
                  rw [rowCap, hnew]
                  exact (hdoomed.read _).value?
                simp [hat, hphase, Capped, hnone]

end

/-- A derived table with a cap of its own. -/
def nestedText : String := "SELECT title FROM (SELECT title FROM album LIMIT 10) AS t"

def nestedQuery : Query :=
  .select false [.item (.column none ⟨"title", false⟩) none]
    (some (.derived
      (.select false [.item (.column none ⟨"title", false⟩) none]
        (some (.table none ⟨"album", false⟩ none)) [] none [] none [] { limit := some 10 })
      (some ⟨⟨"t", false⟩, []⟩)))
    [] none [] none [] {}

def nestedTokens : ParsedStatement where
  type := "SELECT"
  tokens :=
    [.leaf .dml "SELECT" "SELECT", .leaf .other " " " ",
      .group (.identifier ⟨none, some "title"⟩) [.leaf .other "title" "TITLE"],
      .leaf .other " " " ", .leaf .keyword "FROM" "FROM", .leaf .other " " " ",
      .group (.identifier ⟨none, some "t"⟩)
        [.group .other
          [.leaf .other "(" "(", .leaf .dml "SELECT" "SELECT", .leaf .other " " " ",
            .group (.identifier ⟨none, some "title"⟩) [.leaf .other "title" "TITLE"],
            .leaf .other " " " ", .leaf .keyword "FROM" "FROM", .leaf .other " " " ",
            .group (.identifier ⟨none, some "album"⟩) [.leaf .other "album" "ALBUM"],
            .leaf .other " " " ", .leaf .keyword "LIMIT" "LIMIT", .leaf .other " " " ",
            .leaf .other "10" "10", .leaf .other ")" ")"],
          .leaf .other " " " ", .leaf .keyword "AS" "AS", .leaf .other " " " ",
          .group (.identifier ⟨none, some "t"⟩) [.leaf .other "t" "T"]]]

end DbGateway.Repository
