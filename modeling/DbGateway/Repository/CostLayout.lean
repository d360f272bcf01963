import DbGateway.Repository.CostLiterals
import Mathlib.Algebra.Order.Ring.Rat
import Mathlib.Data.Nat.Cast.Order.Ring

/-!
# DbGateway.Repository.CostLayout

How the score of a statement depends on what separates its tokens and on what is
in its string literals.  Every statement with some tokens scores at least what
they force, and at most what they allow; both are reached.
-/

namespace DbGateway.Repository

open Re Sql

/-- `str.upper` goes character by character, with the laws of its table. -/
class UpperTables [PythonUpper] where
  upperChar : Char → List Char
  upper_eq : ∀ s, upper s = String.ofList (s.toList.flatMap upperChar)
  upperChar_ne_nil : ∀ c, upperChar c ≠ []
  upperChar_upperChar : ∀ c, ∀ d ∈ upperChar c, upperChar d = [d]
  upperChar_ascii : ∀ c, c.toNat < 128 → upperChar c = [c.toUpper]
  isSpace_upperChar : ∀ c, ∀ d ∈ upperChar c, isSpace d = isSpace c
  star_upperChar : ∀ c, '*' ∈ upperChar c → c = '*'

open UpperTables

/-! ## What the tokens say -/

/-- The heuristic applies whatever is between the tokens and in the literals. -/
def Heuristic.Forced (h : Heuristic) (ts : List Lexeme) : Prop :=
  ∃ needle ∈ h.needles, Fixed needle.toList ts

/-- The heuristic applies for some blanks between the tokens and some literals. -/
def Heuristic.Possible (h : Heuristic) (ts : List Lexeme) : Prop :=
  ∃ needle ∈ h.needles,
    Fixed needle.toList ts ∨ stringToken ∈ ts ∨ Spans needle.toList ts

/-- Every heuristic that may apply does. -/
def Stable (ts : List Lexeme) : Prop := ∀ h ∈ heuristics, h.Possible ts → h.Forced ts

/-! ## Scores -/

/-- Of two selections, one in the other, only equal ones weigh the same. -/
theorem sum_filter_eq_iff {α : Type} {w : α → Nat} {f g : α → Bool} {as : List α}
    (hw : ∀ a ∈ as, 0 < w a) (hle : ∀ a ∈ as, f a = true → g a = true) :
    ((as.filter f).map w).sum = ((as.filter g).map w).sum ↔ ∀ a ∈ as, g a = true → f a = true := by
  have hsum : ∀ as : List α, (∀ a ∈ as, f a = true → g a = true) →
      ((as.filter f).map w).sum ≤ ((as.filter g).map w).sum := by
    intro as hle
    induction as with
    | nil => simp
    | cons a as ih =>
        obtain ⟨ha, has⟩ := List.forall_mem_cons.mp hle
        have hrest := ih has
        cases hf : f a with
        | true => simp [hf, ha hf, hrest]
        | false =>
            cases hg : g a with
            | true =>
                simp [hf, hg]
                omega
            | false => simpa [hf, hg] using hrest
  induction as with
  | nil => simp
  | cons a as ih =>
      obtain ⟨ha, has⟩ := List.forall_mem_cons.mp hle
      obtain ⟨hwa, hwas⟩ := List.forall_mem_cons.mp hw
      have hrest := ih hwas has
      cases hf : f a with
      | true => simp [hf, ha hf, hrest]
      | false =>
          cases hg : g a with
          | true =>
              have hless := hsum as has
              simp [hf, hg]
              omega
          | false => simp [hf, hg, hrest]

section

variable [Python] [PythonTables] [PythonUpper] [UpperTables]

omit [PythonUpper] [UpperTables] in
theorem needle_of_mem {h : Heuristic} (hh : h ∈ heuristics) {needle : String}
    (hneedle : needle ∈ h.needles) : Needle needle.toList := by
  have hascii : ∀ w : String, w.toList.all Char.isAlphanum = true →
      ∀ c ∈ w.toList, isWord c = true := fun w hw c hc =>
    isWord_of_isAlphanum (List.all_eq_true.mp hw c hc)
  have hword : ∀ w : String, w.toList ≠ [] → w.toList.all Char.isAlphanum = true →
      Needle w.toList := fun w hne hw => .word hne (hascii w hw)
  have hphrase : ∀ a b : String, a.toList ≠ [] → a.toList.all Char.isAlphanum = true →
      b.toList.all Char.isAlphanum = true → Needle (a.toList ++ ' ' :: b.toList) :=
    fun a b hne ha hb => .phrase hne (hascii a ha) (hascii b hb)
  simp only [heuristics, List.mem_cons, List.not_mem_nil, or_false] at hh
  rcases hh with rfl | rfl | rfl | rfl | rfl | rfl | rfl | rfl | rfl
  all_goals simp only [List.mem_cons, List.not_mem_nil, or_false] at hneedle
  · exact hneedle ▸ hword "SELECT" (by decide) (by decide)
  · exact hneedle ▸ hword "JOIN" (by decide) (by decide)
  · rcases hneedle with rfl | rfl
    · exact hphrase "GROUP" "BY" (by decide) (by decide) (by decide)
    · exact hword "HAVING" (by decide) (by decide)
  · exact hneedle ▸ hphrase "ORDER" "BY" (by decide) (by decide) (by decide)
  · exact hneedle ▸ hword "LIMIT" (by decide) (by decide)
  · subst hneedle
    refine .symbol (by decide) ?_ (by decide)
    rw [isWord_ascii (by decide)]
    rfl
  · rcases hneedle with rfl | rfl | rfl
    · exact hword "UNION" (by decide) (by decide)
    · exact hword "INTERSECT" (by decide) (by decide)
    · exact hword "EXCEPT" (by decide) (by decide)
  · exact hneedle ▸ hphrase "WITH" "" (by decide) (by decide) (by decide)
  · exact hneedle ▸ hphrase "SELECT" "COUNT" (by decide) (by decide) (by decide)

/-! ## The upper-cased statement -/

omit [Python] [PythonTables] in
theorem upperSql_eq (sql : String) : upperSql sql = (strip sql).toList.flatMap upperChar := by
  rw [upperSql, upper_eq, String.toList_ofList]

omit [Python] [PythonTables] in
theorem upperChar_of_mem_upperSql {sql : String} {c : Char} (hc : c ∈ upperSql sql) :
    upperChar c = [c] := by
  rw [upperSql_eq] at hc
  obtain ⟨d, -, hd⟩ := List.mem_flatMap.mp hc
  exact upperChar_upperChar d c hd

omit [Python] [PythonTables] [PythonUpper] [UpperTables] in
theorem getLast_strip (sql : String) : ∀ c ∈ (strip sql).toList.getLast?, isSpace c = false := by
  intro c hc
  rw [strip, stripChars, String.toList_ofList, stripList, List.getLast?_reverse] at hc
  have hnot := List.head?_dropWhile_not isSpace (sql.toList.dropWhile isSpace).reverse
  rw [Option.mem_def.mp hc] at hnot
  simpa using hnot

omit [Python] [PythonTables] in
/-- The statement does not end with a space. -/
theorem getLast_upperSql (sql : String) : ∀ c ∈ (upperSql sql).getLast?, isSpace c = false := by
  have hstrip := getLast_strip sql
  rw [upperSql_eq]
  rcases List.eq_nil_or_concat (strip sql).toList with hnil | ⟨init, c, hconcat⟩
  · simp [hnil]
  · rw [hconcat] at hstrip ⊢
    have hc : isSpace c = false := hstrip c (by simp)
    intro d hd
    rw [List.concat_eq_append, List.flatMap_append, List.flatMap_singleton,
      List.getLast?_append_of_ne_nil _ (upperChar_ne_nil c)] at hd
    rw [isSpace_upperChar c d (List.mem_of_getLast? hd), hc]

omit [Python] [PythonTables] [PythonUpper] [UpperTables] in
theorem strip_ofList {cs : List Char} (hhead : ∀ c ∈ cs.head?, isSpace c = false)
    (hlast : ∀ c ∈ cs.getLast?, isSpace c = false) :
    strip (String.ofList cs) = String.ofList cs := by
  have hdrop : ∀ ds : List Char, (∀ c ∈ ds.head?, isSpace c = false) →
      ds.dropWhile isSpace = ds := by
    intro ds hds
    cases ds with
    | nil => rfl
    | cons d ds => simp [hds d (by simp)]
  rw [strip, stripChars, String.toList_ofList, stripList, hdrop cs hhead,
    hdrop cs.reverse (by simpa using hlast), List.reverse_reverse]

omit [Python] [PythonTables] in
/-- An upper-cased text is left as it is. -/
theorem upperSql_ofList {cs : List Char} (hhead : ∀ c ∈ cs.head?, isSpace c = false)
    (hlast : ∀ c ∈ cs.getLast?, isSpace c = false) (hupper : ∀ c ∈ cs, upperChar c = [c]) :
    upperSql (String.ofList cs) = cs := by
  rw [upperSql_eq, strip_ofList hhead hlast, String.toList_ofList]
  calc cs.flatMap upperChar = cs.flatMap (fun c => [c]) := List.flatMap_congr hupper
    _ = cs := List.flatMap_singleton' cs

/-! ## The heuristics -/

omit [Python] [PythonTables] [PythonUpper] [UpperTables] in
theorem needles_of_not_folded {h : Heuristic} (hh : h ∈ heuristics) (hfolded : h.folded = false) :
    h.needles = ["*"] := by
  have hall : ∀ h ∈ heuristics, h.folded = false → h.needles = ["*"] := by decide
  exact hall h hh hfolded

omit [Python] [PythonTables] in
/-- A heuristic applies where one of its texts stands in the upper-cased
statement. -/
theorem found_iff {h : Heuristic} (hh : h ∈ heuristics) (sql : String) :
    h.found (strip sql).toList (upperSql sql) = true ↔
      ∃ needle ∈ h.needles, needle.toList <:+: upperSql sql := by
  have hstar : ['*'] <:+: (strip sql).toList ↔ ['*'] <:+: upperSql sql := by
    have hmem : ∀ cs : List Char, ['*'] <:+: cs ↔ '*' ∈ cs := by
      intro cs
      constructor
      · intro hin
        exact hin.subset (by simp)
      · intro hin
        obtain ⟨before, after, hsplit⟩ := List.append_of_mem hin
        exact ⟨before, after, by simp [hsplit]⟩
    rw [hmem, hmem, upperSql_eq, List.mem_flatMap]
    constructor
    · intro hin
      have hself : upperChar '*' = ['*'] := upperChar_ascii '*' (by decide)
      exact ⟨'*', hin, by simp [hself]⟩
    · rintro ⟨c, hc, hin⟩
      exact star_upperChar c hin ▸ hc
  have hfound : h.found (strip sql).toList (upperSql sql) = true ↔ ∃ needle ∈ h.needles,
      needle.toList <:+: (bif h.folded then upperSql sql else (strip sql).toList) := by
    simp [Heuristic.found, contains]
  rw [hfound]
  cases hfolded : h.folded with
  | true => rfl
  | false =>
      simpa [needles_of_not_folded hh hfolded] using hstar

/-- Between what the tokens force and what they allow. -/
theorem found_of_forced {h : Heuristic} (hh : h ∈ heuristics) {sql : String} {ts : List Lexeme}
    (htokens : tokenSequence (upperSql sql) = some ts) (hplain : ∀ t ∈ ts, t.isExtended = false)
    (hforced : h.Forced ts) : h.found (strip sql).toList (upperSql sql) = true := by
  obtain ⟨needle, hneedle, hfixed⟩ := hforced
  exact (found_iff hh sql).mpr
    ⟨needle, hneedle, (needle_of_mem hh hneedle).infix_of_fixed htokens hplain hfixed⟩

theorem possible_of_found {h : Heuristic} (hh : h ∈ heuristics) {sql : String} {ts : List Lexeme}
    (htokens : tokenSequence (upperSql sql) = some ts) (hplain : ∀ t ∈ ts, t.isExtended = false)
    (hfound : h.found (strip sql).toList (upperSql sql) = true) : h.Possible ts := by
  obtain ⟨needle, hneedle, hin⟩ := (found_iff hh sql).mp hfound
  exact ⟨needle, hneedle,
    (needle_of_mem hh hneedle).cases_of_found htokens hplain (getLast_upperSql sql) hin⟩

/-! ## The cheapest and the dearest layout -/

omit [Python] [PythonTables] [PythonUpper] [UpperTables] in
/-- All texts that are looked for. -/
def everyNeedle : List Char :=
  heuristics.flatMap fun h => h.needles.flatMap fun needle => needle.toList ++ ['/']

omit [Python] [PythonTables] [PythonUpper] [UpperTables] in
theorem infix_everyNeedle {h : Heuristic} (hh : h ∈ heuristics) {needle : String}
    (hneedle : needle ∈ h.needles) : needle.toList <:+: everyNeedle := by
  have hin : needle.toList <:+: h.needles.flatMap fun needle => needle.toList ++ ['/'] := by
    rw [List.flatMap_def]
    exact List.IsInfix.trans (List.prefix_append _ _).isInfix
      (List.infix_of_mem_flatten (List.mem_map_of_mem hneedle))
  rw [everyNeedle, List.flatMap_def]
  exact hin.trans (List.infix_of_mem_flatten (List.mem_map_of_mem hh))

omit [PythonTables] [PythonUpper] [UpperTables] in
theorem readable_everyNeedle : Readable fun _ => everyNeedle := by
  have hall : everyNeedle.all (fun c => !delimits c) = true := by decide
  exact fun d _ => d.reads_of_not_delimits fun c hc => by
    simpa using List.all_eq_true.mp hall c hc

omit [Python] [PythonTables] in
/-- ASCII characters that are no small letters stay. -/
theorem upperChar_of_all {cs : List Char}
    (h : cs.all (fun c => decide (c.toNat < 128) && c.toUpper == c) = true) :
    ∀ c ∈ cs, upperChar c = [c] := by
  intro c hc
  have hupper := List.all_eq_true.mp h c hc
  simp only [Bool.and_eq_true, decide_eq_true_eq, beq_iff_eq] at hupper
  rw [upperChar_ascii c hupper.1, hupper.2]

omit [Python] [PythonTables] in
theorem upperChar_everyNeedle : ∀ c ∈ everyNeedle, upperChar c = [c] :=
  upperChar_of_all (by decide)

omit [Python] [PythonTables] in
theorem upperChar_crowd (k : Nat) (d : Delimiter) : ∀ c ∈ crowd k d, upperChar c = [c] := by
  have hlines : ∀ c ∈ fromLines k, upperChar c = [c] := by
    intro c hc
    obtain ⟨line, hmem, hc⟩ := List.mem_flatten.mp hc
    rw [List.eq_of_mem_replicate hmem] at hc
    exact upperChar_of_all (by decide) c hc
  cases d with
  | dollar tag =>
      intro c hc
      rcases List.mem_append.mp (show c ∈ [')', '\n'] ++ fromLines k from hc) with hc | hc
      · exact upperChar_of_all (by decide) c hc
      · exact hlines c hc
  | escape letter =>
      intro c hc
      have hsplit : c ∈ ['\\', '\'', ')', '\n'] ++ (fromLines k ++ ['\\', '\'']) := hc
      rcases List.mem_append.mp hsplit with hc | hc
      · exact upperChar_of_all (by decide) c hc
      · rcases List.mem_append.mp hc with hc | hc
        · exact hlines c hc
        · exact upperChar_of_all (by decide) c hc
  | _ => exact List.forall_mem_nil _

/-- The statement with these tokens, laid out. -/
theorem upperSql_layout {sql : String} {ts : List Lexeme}
    (htokens : tokenSequence (upperSql sql) = some ts) {sep : Char} (hsep : upperChar sep = [sep])
    (fill : Delimiter → List Char) (hfill : ∀ d, ∀ c ∈ fill d, upperChar c = [c]) :
    upperSql (String.ofList (layout sep fill ts)) = layout sep fill ts := by
  have htoken : ∀ t ∈ ts, t.IsToken := fun t ht => isToken_of_mem htokens ht
  refine upperSql_ofList (head_layout htoken) (getLast_layout htoken) fun c hc => ?_
  rcases mem_layout hc with rfl | ⟨t, ht, hc⟩
  · exact hsep
  · rcases mem_load_text htokens ht hc with hc | ⟨d, hc⟩
    · exact upperChar_of_mem_upperSql hc
    · exact hfill d c hc

/-- Laid out line by line, with empty literals, a statement shows what its tokens
force only. -/
theorem forced_of_found_layout {h : Heuristic} (hh : h ∈ heuristics) {sql : String}
    {ts : List Lexeme} (htokens : tokenSequence (upperSql sql) = some ts)
    (hfound : h.found (strip (String.ofList (layout '\n' (fun _ => []) ts))).toList
      (upperSql (String.ofList (layout '\n' (fun _ => []) ts))) = true) : h.Forced ts := by
  have hupper := upperSql_layout htokens (upperChar_ascii '\n' (by decide))
    (fun _ => []) fun _ => List.forall_mem_nil _
  obtain ⟨needle, hneedle, hin⟩ := (found_iff hh _).mp hfound
  rw [hupper] at hin
  exact ⟨needle, hneedle, (needle_of_mem hh hneedle).fixed_of_infix_layout
    (fun t ht => isToken_of_mem htokens ht) hin⟩

/-- Laid out with blanks and with all texts in its literals, a statement shows all
that its tokens allow. -/
theorem found_layout_of_possible {h : Heuristic} (hh : h ∈ heuristics) {sql : String}
    {ts : List Lexeme} (htokens : tokenSequence (upperSql sql) = some ts)
    (hplain : ∀ t ∈ ts, t.isExtended = false) (hpossible : h.Possible ts) :
    h.found (strip (String.ofList (layout ' ' (fun _ => everyNeedle) ts))).toList
      (upperSql (String.ofList (layout ' ' (fun _ => everyNeedle) ts))) = true := by
  have hupper := upperSql_layout htokens (upperChar_ascii ' ' (by decide))
    (fun _ => everyNeedle) fun _ => upperChar_everyNeedle
  have hlayout : tokenSequence (layout ' ' (fun _ => everyNeedle) ts) = some ts :=
    tokenSequence_layout (by decide) readable_everyNeedle fun t ht => isToken_of_mem htokens ht
  obtain ⟨needle, hneedle, hfixed | hstring | hspans⟩ := hpossible
  all_goals rw [found_iff hh, hupper]; refine ⟨needle, hneedle, ?_⟩
  · exact (needle_of_mem hh hneedle).infix_of_fixed hlayout hplain hfixed
  · exact infix_layout_of_string (infix_everyNeedle hh hneedle) hstring ' '
  · exact (needle_of_mem hh hneedle).infix_layout_of_spans hspans hplain _

/-! ## The score -/

theorem strip_eq_empty_iff {sql : String} {ts : List Lexeme}
    (htokens : tokenSequence (upperSql sql) = some ts) : strip sql = "" ↔ ts = [] := by
  constructor
  · intro hempty
    have hnil : upperSql sql = [] := by simp [upperSql_eq, hempty]
    rw [hnil] at htokens
    exact (Option.some.inj htokens).symm
  · rintro rfl
    have hnil := eq_nil_of_tokenSequence (getLast_upperSql sql) htokens
    rw [upperSql_eq, List.flatMap_eq_nil_iff] at hnil
    refine String.toList_eq_nil_iff.mp (List.eq_nil_iff_forall_not_mem.mpr fun c hc => ?_)
    exact upperChar_ne_nil c (hnil c hc)

omit [PythonTables] [UpperTables] in
theorem score_of_ne {sql : String} (hne : strip sql ≠ "") :
    (estimateQueryCost sql).score =
      1 + ((heuristics.filter fun h => h.found (strip sql).toList (upperSql sql)).map
        Heuristic.weight).sum + (numberOfTables (upperSql sql) - 1) := by
  rw [estimateQueryCost, if_neg hne]
  rfl

/-- Of two statements with the same tokens, what the one finds the other may
find: the scores are equal only if it does. -/
theorem score_eq_score_iff {sql sql' : String} {ts : List Lexeme} (hne : ts ≠ [])
    (hplain : ∀ t ∈ ts, t.isExtended = false) (htokens : tokenSequence (upperSql sql) = some ts)
    (htokens' : tokenSequence (upperSql sql') = some ts)
    (hle : ∀ h ∈ heuristics, h.found (strip sql).toList (upperSql sql) = true →
      h.found (strip sql').toList (upperSql sql') = true) :
    (estimateQueryCost sql).score = (estimateQueryCost sql').score ↔
      ∀ h ∈ heuristics, h.found (strip sql').toList (upperSql sql') = true →
        h.found (strip sql).toList (upperSql sql) = true := by
  have hweight : ∀ h ∈ heuristics, 0 < h.weight := by decide
  rw [score_of_ne (mt (strip_eq_empty_iff htokens).mp hne),
    score_of_ne (mt (strip_eq_empty_iff htokens').mp hne),
    numberOfTables_eq_of_tokenSequence htokens htokens' hplain, ← sum_filter_eq_iff hweight hle]
  omega

omit [Python] [PythonTables] [PythonUpper] [UpperTables] in
theorem stable_nil : Stable [] := by
  rintro h - ⟨needle, -, ⟨t, ht, -⟩ | hstring | ⟨a, b, pre, x, y, post, -, hts, -⟩⟩
  · cases ht
  · cases hstring
  · simp at hts

/-- With a literal that is no standard one the score depends on its contents. -/
theorem exists_score_ne (sql : String) {ts : List Lexeme}
    (htokens : tokenSequence (upperSql sql) = some ts) {t : Lexeme} (ht : t ∈ ts)
    (hext : t.isExtended = true) : ∃ sql', tokenSequence (upperSql sql') = some ts ∧
      (estimateQueryCost sql').score ≠ (estimateQueryCost sql).score := by
  have htoken : ∀ t ∈ ts, t.IsToken := fun t ht => isToken_of_mem htokens ht
  have hne : ts ≠ [] := List.ne_nil_of_mem ht
  have hupper : ∀ k, upperSql (String.ofList (layout '\n' (crowd k) ts)) =
      layout '\n' (crowd k) ts := fun k =>
    upperSql_layout htokens (upperChar_ascii '\n' (by decide)) (crowd k) (upperChar_crowd k)
  have hlayout : ∀ k, tokenSequence
      (upperSql (String.ofList (layout '\n' (crowd k) ts))) = some ts := fun k => by
    rw [hupper]
    exact tokenSequence_layout (by decide) (readable_crowd k) htoken
  -- both find the same texts, and the one has more tables
  have hfound : ∀ h ∈ heuristics,
      h.found (strip (String.ofList (layout '\n' (crowd 2) ts))).toList
          (upperSql (String.ofList (layout '\n' (crowd 2) ts))) =
        h.found (strip (String.ofList (layout '\n' (crowd 1) ts))).toList
          (upperSql (String.ofList (layout '\n' (crowd 1) ts))) := by
    intro h hh
    rw [Bool.eq_iff_iff, found_iff hh, found_iff hh, hupper, hupper]
    exact exists_congr fun needle => and_congr_right fun hneedle =>
      infix_layout_crowd (needle_of_mem hh hneedle) 1 ts
  have hmore := numberOfTables_crowd htoken ht hext
  have hdiffer : (estimateQueryCost (String.ofList (layout '\n' (crowd 2) ts))).score ≠
      (estimateQueryCost (String.ofList (layout '\n' (crowd 1) ts))).score := by
    rw [score_of_ne (mt (strip_eq_empty_iff (hlayout 2)).mp hne),
      score_of_ne (mt (strip_eq_empty_iff (hlayout 1)).mp hne), List.filter_congr hfound,
      hupper, hupper]
    have hleast : 1 ≤ numberOfTables (layout '\n' (crowd 1) ts) := Nat.le_max_left _ _
    omega
  by_cases hsame : (estimateQueryCost (String.ofList (layout '\n' (crowd 1) ts))).score =
      (estimateQueryCost sql).score
  · exact ⟨_, hlayout 2, fun h => hdiffer (h.trans hsame.symm)⟩
  · exact ⟨_, hlayout 1, hsame⟩

/-- Statements with these tokens all have one score just when their literals are
standard ones and each heuristic that some of them meet is met by all. -/
theorem score_eq_iff_stable (sql : String) {ts : List Lexeme}
    (htokens : tokenSequence (upperSql sql) = some ts) :
    (∀ sql', tokenSequence (upperSql sql') = some ts →
      (estimateQueryCost sql').score = (estimateQueryCost sql).score) ↔
      (∀ t ∈ ts, t.isExtended = false) ∧ Stable ts := by
  have htoken : ∀ t ∈ ts, t.IsToken := fun t ht => isToken_of_mem htokens ht
  by_cases hplain : ∀ t ∈ ts, t.isExtended = false
  · rw [and_iff_right hplain]
    by_cases hne : ts = []
    · subst hne
      have hzero : ∀ {sql'}, tokenSequence (upperSql sql') = some [] →
          (estimateQueryCost sql').score = 0 := by
        intro sql' htokens'
        rw [estimateQueryCost, if_pos ((strip_eq_empty_iff htokens').mpr rfl)]
      constructor
      · exact fun _ => stable_nil
      · intro _ sql' htokens'
        rw [hzero htokens', hzero htokens]
    · constructor
      · intro hall h hh hpossible
        -- the cheapest and the dearest statement with these tokens
        have hupper := upperSql_layout htokens (upperChar_ascii '\n' (by decide))
          (fun _ => []) fun _ => List.forall_mem_nil _
        have hupper' := upperSql_layout htokens (upperChar_ascii ' ' (by decide))
          (fun _ => everyNeedle) fun _ => upperChar_everyNeedle
        have hlow := (congrArg tokenSequence hupper).trans
          (tokenSequence_layout (by decide) readable_nil htoken)
        have hhigh := (congrArg tokenSequence hupper').trans
          (tokenSequence_layout (by decide) readable_everyNeedle htoken)
        have hsame := (hall _ hlow).trans (hall _ hhigh).symm
        have hle := fun (h : Heuristic) (hh : h ∈ heuristics) hfound =>
          found_layout_of_possible hh htokens hplain (possible_of_found hh hlow hplain hfound)
        exact forced_of_found_layout hh htokens
          ((score_eq_score_iff hne hplain hlow hhigh hle).mp hsame h hh
            (found_layout_of_possible hh htokens hplain hpossible))
      · intro hstable sql' htokens'
        have hfound : ∀ {sql₁ sql₂}, tokenSequence (upperSql sql₁) = some ts →
            tokenSequence (upperSql sql₂) = some ts → ∀ h ∈ heuristics,
            h.found (strip sql₁).toList (upperSql sql₁) = true →
              h.found (strip sql₂).toList (upperSql sql₂) = true := by
          intro sql₁ sql₂ h₁ h₂ h hh hfound
          exact found_of_forced hh h₂ hplain
            (hstable h hh (possible_of_found hh h₁ hplain hfound))
        exact (score_eq_score_iff hne hplain htokens' htokens (hfound htokens' htokens)).mpr
          (hfound htokens htokens')
  · refine iff_of_false (fun hall => ?_) fun h => hplain h.1
    push Not at hplain
    obtain ⟨t, ht, hext⟩ := hplain
    obtain ⟨sql', htokens', hdiffer⟩ := exists_score_ne sql htokens ht (by simpa using hext)
    exact hdiffer (hall sql' htokens')

/-! ## The guard -/

omit [PythonTables] [UpperTables] in
theorem decision_eq (threshold : Rat) (action : CostAction) (sql : String) :
    (evaluateQueryCost threshold action sql).decision =
      if ((estimateQueryCost sql).score : Rat) ≥ threshold then action else .allow := by
  simp only [evaluateQueryCost]
  split <;> simp_all

omit [PythonTables] [UpperTables] in
/-- The guard tells scores apart. -/
theorem decision_eq_iff (sql sql' : String) :
    (∀ threshold action, (evaluateQueryCost threshold action sql').decision =
      (evaluateQueryCost threshold action sql).decision) ↔
      (estimateQueryCost sql').score = (estimateQueryCost sql).score := by
  constructor
  · intro hall
    have hlow := hall (estimateQueryCost sql).score .deny
    have hhigh := hall (estimateQueryCost sql').score .deny
    simp only [decision_eq, ge_iff_le, Nat.cast_le] at hlow hhigh
    apply le_antisymm
    · by_contra hnot
      simp [hnot] at hhigh
    · by_contra hnot
      simp [hnot] at hlow
  · intro hscore threshold action
    rw [decision_eq, decision_eq, hscore]

end

/-- Only the ASCII small letters change. -/
theorem toUpper_cases (c : Char) :
    c.toUpper = c ∨ (97 ≤ c.toNat ∧ c.toNat ≤ 122 ∧ c.toUpper.toNat = c.toNat - 32) := by
  by_cases h : 'a'.val ≤ c.val ∧ c.val ≤ 'z'.val
  · right
    have hlow : 97 ≤ c.toNat := UInt32.le_iff_toNat_le.mp h.1
    have hhigh : c.toNat ≤ 122 := UInt32.le_iff_toNat_le.mp h.2
    have hupper : c.toUpper.toNat = (c.val + ('A'.val - 'a'.val)).toNat := by
      unfold Char.toUpper
      rw [dif_pos h]
      rfl
    have hsum : (c.val + ('A'.val - 'a'.val)).toNat = (c.toNat + 4294967264) % 4294967296 :=
      UInt32.toNat_add _ _
    omega
  · left
    unfold Char.toUpper
    rw [dif_neg h]

theorem isSpace_toUpper (c : Char) : isSpace c.toUpper = isSpace c := by
  rcases toUpper_cases c with hsame | ⟨hlow, hhigh, hupper⟩
  · rw [hsame]
  · have hnot : ∀ d : Char, 65 ≤ d.toNat → d.toNat ≤ 122 → isSpace d = false := by
      intro d hlow hhigh
      simp [isSpace]
      omega
    rw [hnot c (by omega) (by omega), hnot c.toUpper (by omega) (by omega)]

@[reducible] def UpperTables.ascii : @UpperTables PythonUpper.ascii :=
  let _ := PythonUpper.ascii
  { upperChar := fun c => [c.toUpper]
    upper_eq := fun s => by simp [PythonUpper.upper, mapChars, ← List.map_eq_flatMap]
    upperChar_ne_nil := by simp
    upperChar_upperChar := by
      intro c d hd
      obtain rfl := List.mem_singleton.mp hd
      rcases toUpper_cases c.toUpper with hsame | ⟨hlow, -, -⟩
      · rw [hsame]
      · rcases toUpper_cases c with hsame | ⟨-, hhigh, hupper⟩
        · rw [hsame, hsame]
        · omega
    upperChar_ascii := fun _ _ => rfl
    isSpace_upperChar := by simp [isSpace_toUpper]
    star_upperChar := by
      intro c hc
      have hstar : c.toUpper = '*' := (List.mem_singleton.mp hc).symm
      rcases toUpper_cases c with hsame | ⟨hlow, -, hupper⟩
      · rw [← hsame, hstar]
      · have hval : c.toUpper.toNat = 42 := by rw [hstar]; rfl
        omega }

end DbGateway.Repository
