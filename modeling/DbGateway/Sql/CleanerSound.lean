import DbGateway.Repository.CostLayout
import DbGateway.Sql.Cleaner

/-!
# DbGateway.Sql.CleanerSound

What `clean_sql` keeps of a statement.

The statement that comes out is what was left of the text from some place on, or
that with an `S` in front.  It is stripped and begins with `SELECT` or `WITH`, so
that cleaning it once more finds nothing to take away (`cleanSql_sound`).
-/

namespace DbGateway.Sql

open Re
open Repository (UpperTables)
open Repository.UpperTables

/-! ## Upper case -/

section

variable [PythonUpper] [UpperTables]

theorem toList_upper (s : String) : (upper s).toList = s.toList.flatMap upperChar := by
  rw [upper_eq, String.toList_ofList]

theorem toList_upper_append (s t : String) :
    (upper (s ++ t)).toList = (upper s).toList ++ (upper t).toList := by
  rw [toList_upper, String.toList_append, List.flatMap_append, toList_upper, toList_upper]

theorem upperChar_of_mem_upper {s : String} {d : Char} (h : d ∈ (upper s).toList) :
    upperChar d = [d] := by
  rw [toList_upper, List.mem_flatMap] at h
  obtain ⟨c, -, hd⟩ := h
  exact upperChar_upperChar c d hd

/-- A small ASCII letter is not in an upper-case text. -/
theorem ne_of_mem_upper {s : String} {c d : Char} (h : c ∈ (upper s).toList)
    (hascii : d.toNat < 128) (hsmall : d.toUpper ≠ d) : c ≠ d := by
  rintro rfl
  have hfixed := upperChar_of_mem_upper h
  rw [upperChar_ascii c hascii] at hfixed
  exact hsmall (List.cons.inj hfixed).1

/-- What is stripped stays so in upper case. -/
theorem strip_upper {s : String} (h : strip s = s) : strip (upper s) = upper s := by
  have hs := stripList_of_strip h
  have hfirst : ∀ d ∈ (s.toList.flatMap upperChar).head?, isSpace d = false := by
    intro d hd
    cases hcs : s.toList with
    | nil =>
        rw [hcs] at hd
        contradiction
    | cons c cs =>
        obtain ⟨e, es, he⟩ := List.exists_cons_of_ne_nil (upperChar_ne_nil c)
        rw [hcs, List.flatMap_cons, he] at hd
        obtain rfl : e = d := Option.some.inj hd
        rw [isSpace_upperChar c e (he ▸ List.mem_cons_self)]
        exact head_of_stripList hs c (by rw [hcs]; rfl)
  have hlast : ∀ d ∈ (s.toList.flatMap upperChar).getLast?, isSpace d = false := by
    intro d hd
    rcases List.eq_nil_or_concat' s.toList with hcs | ⟨cs, c, hcs⟩
    · rw [hcs] at hd
      contradiction
    · have hd' : d ∈ (upperChar c).getLast? := by
        rwa [hcs, List.flatMap_append, List.flatMap_singleton,
          List.getLast?_append_of_ne_nil _ (upperChar_ne_nil c)] at hd
      rw [isSpace_upperChar c d (List.mem_of_mem_getLast? hd')]
      exact last_of_stripList hs c (by rw [hcs, List.getLast?_concat]; rfl)
  rw [strip, stripChars, toList_upper, stripList_of_ends hfirst hlast, upper_eq]

/-- ASCII at the front stays ASCII at the front. -/
theorem startsWith_upper {s head : String} (hascii : head.toList.all (·.toNat < 128) = true)
    (h : startsWith s head = true) :
    head.toList.map Char.toUpper <+: (upper s).toList := by
  obtain ⟨rest, hrest⟩ := List.isPrefixOf_iff_prefix.mp h
  have hhead : head.toList.flatMap upperChar = head.toList.map Char.toUpper := by
    rw [List.all_eq_true] at hascii
    rw [List.map_eq_flatMap]
    exact List.flatMap_congr fun c hc => upperChar_ascii c (by simpa using hascii c hc)
  rw [toList_upper, ← hrest, List.flatMap_append, hhead]
  exact List.prefix_append _ _

end

/-! ## The first word -/

/-- The word that is read goes on as long as there is no blank. -/
theorem head?_wordsOf {word : List Char} (hne : word ≠ []) (cs : List Char) :
    (wordsOf word cs).head? = some (word.reverse ++ cs.takeWhile (!isSpace ·)) := by
  induction cs generalizing word with
  | nil => rw [wordsOf, if_neg hne, List.takeWhile_nil, List.append_nil, List.head?_cons]
  | cons c cs ih =>
      rw [wordsOf, if_neg hne]
      cases hc : isSpace c with
      | true => rw [if_pos rfl, List.head?_cons, List.takeWhile_cons, hc]; simp
      | false =>
          rw [if_neg Bool.false_ne_true, ih (List.cons_ne_nil c word), List.takeWhile_cons, hc]
          simp

/-- A stripped text begins with its first word. -/
theorem startsWith_of_head?_splitWords {s word : String} (hstrip : strip s = s)
    (h : (splitWords s).head? = some word) : startsWith s word = true := by
  have hs := stripList_of_strip hstrip
  rw [splitWords, List.head?_map] at h
  rw [startsWith, List.isPrefixOf_iff_prefix]
  cases hcs : s.toList with
  | nil =>
      rw [hcs] at h
      contradiction
  | cons c cs =>
      have hc : isSpace c = false := head_of_stripList hs c (by rw [hcs]; rfl)
      rw [hcs, wordsOf, hc, if_neg Bool.false_ne_true, head?_wordsOf (List.cons_ne_nil c []),
        Option.map_some, Option.some.injEq] at h
      rw [← h, String.toList_ofList]
      exact (List.prefix_cons_inj c).mpr (List.takeWhile_prefix _)

/-! ## One statement -/

section

variable [PythonUpper]

/-- A truncated `SELECT` completed. -/
def completed (sql : String) : String :=
  if startsWith (upper sql) "ELECT" then "S" ++ sql else sql

variable [UpperTables]

theorem upper_S : (upper "S").toList = ['S'] := by
  rw [toList_upper]
  exact (List.append_nil _).trans (upperChar_ascii 'S' (by decide))

theorem not_startsWith_elect_completed (sql : String) :
    startsWith (upper (completed sql)) "ELECT" = false := by
  rw [completed]
  split
  · rw [startsWith, toList_upper_append, upper_S]
    rfl
  · next h => exact Bool.eq_false_iff.mpr h

theorem strip_completed {sql : String} (h : strip sql = sql) :
    strip (completed sql) = completed sql := by
  rw [completed]
  split
  · next helect =>
      have hs := stripList_of_strip h
      have hne : sql.toList ≠ [] := by
        intro hnil
        rw [startsWith, toList_upper, hnil] at helect
        contradiction
      have hlast : ∀ c ∈ ("S" ++ sql).toList.getLast?, isSpace c = false := by
        rw [String.toList_append, List.getLast?_append_of_ne_nil _ hne]
        exact last_of_stripList hs
      have hfirst : ∀ c ∈ ("S" ++ sql).toList.head?, isSpace c = false := by
        intro c hc
        obtain rfl : 'S' = c := Option.some.inj (by rwa [String.toList_append] at hc)
        rfl
      rw [strip, stripChars, stripList_of_ends hfirst hlast, String.ofList_toList]
  · exact h

variable [Python]

/-- **What comes out** is the completed statement, where it begins with `SELECT`
or `WITH`; the branch for a first word `ELECT` is never taken. -/
theorem cleanStripped_ok_iff {sql result : String} (hstrip : strip sql = sql) :
    cleanStripped sql = .ok result ↔ result = completed (removeKeyword (removeFences sql)) ∧
      (startsWith (upper result) "SELECT" = true ∨ startsWithWith (upper result) = true) := by
  have hfences := strip_removeFences hstrip
  have hbody := strip_completed (strip_removeKeyword hfences)
  have hword : ((splitWords (completed (removeKeyword (removeFences sql)))).head?.map upper) ≠
      some "ELECT" := by
    intro h
    obtain ⟨word, hword, hupper⟩ := Option.map_eq_some_iff.mp h
    obtain ⟨rest, hrest⟩ :=
      List.isPrefixOf_iff_prefix.mp (startsWith_of_head?_splitWords hbody hword)
    have helect := not_startsWith_elect_completed (removeKeyword (removeFences sql))
    rw [startsWith, toList_upper, ← hrest, List.flatMap_append, ← toList_upper, hupper] at helect
    contradiction
  have hif : (if startsWith (strip (upper (removeKeyword (removeFences sql)))) "ELECT" then
      "S" ++ removeKeyword (removeFences sql) else removeKeyword (removeFences sql)) =
      completed (removeKeyword (removeFences sql)) := by
    rw [strip_upper (strip_removeKeyword hfences), completed]
  have hupper := strip_upper hbody
  simp only [cleanStripped, hfences, hif, hupper]
  generalize completed (removeKeyword (removeFences sql)) = body at *
  cases hbegins : startsWith (upper body) "SELECT" || startsWithWith (upper body) with
  | true =>
      have hok : (Except.ok body : Except String String) = .ok result ↔ result = body :=
        ⟨fun h => (Except.ok.inj h).symm, fun h => by rw [h]⟩
      have hbegins' : ∀ text, text = body → startsWith (upper text) "SELECT" = true ∨
          startsWithWith (upper text) = true := by
        rintro _ rfl
        rwa [Bool.or_eq_true] at hbegins
      rw [and_iff_left_of_imp (hbegins' result), ← hok]
      rcases hbegins' body rfl with hselect | hwith
      · simp [hselect, hupper, hbody]
      · simp [hwith, hword, hupper, hbody]
  | false =>
      obtain ⟨hselect, hwith⟩ := Bool.or_eq_false_iff.mp hbegins
      simp [hselect, hwith, hword]
      rintro rfl
      simp [hselect, hwith]

/-! ## Cleaned statements -/

/-- `SELECT`, or the word `WITH`, in upper or lower case. -/
def BeginsQuery (text : String) : Prop :=
  "SELECT".toList <+: (upper text).toList ∨
    ∃ i rest, i ∈ ['I', '\u0130', '\u0131'] ∧
      (upper text).toList = 'W' :: i :: 'T' :: 'H' :: rest ∧ AtBoundary ['W', i, 'T', 'H'] rest

theorem startsWithWith_upper {s : String} (h : startsWithWith (upper s) = true) :
    ∃ i rest, i ∈ ['I', '\u0130', '\u0131'] ∧
      (upper s).toList = 'W' :: i :: 'T' :: 'H' :: rest ∧ AtBoundary ['W', i, 'T', 'H'] rest := by
  obtain ⟨m, hm⟩ := Option.isSome_iff_exists.mp h
  obtain ⟨mid, post, gs, htext, hmatch, -⟩ := @matchAt_sound _ _ [] (upper s).toList m hm
  simp only [withPrefix, matches_seq, matches_char, decide_eq_true_eq] at hmatch
  obtain ⟨_, _, _, _, rfl, -, ⟨⟨w, rfl, hw⟩, rfl⟩, _, _, _, _, rfl, -, ⟨⟨i, rfl, hi⟩, rfl⟩,
    _, _, _, _, rfl, -, ⟨⟨t, rfl, ht⟩, rfl⟩, _, _, _, _, rfl, -, ⟨⟨h, rfl, hh⟩, rfl⟩, hboundary⟩ :=
    hmatch
  have hmem : ∀ c ∈ [w, i, t, h], c ∈ (upper s).toList := by
    intro c hc
    rw [htext]
    simp only [List.mem_cons, List.not_mem_nil, or_false] at hc
    rcases hc with rfl | rfl | rfl | rfl <;> simp
  obtain rfl := (List.mem_pair.mp hw).resolve_right
    (ne_of_mem_upper (hmem w (by simp)) (by decide) (by decide))
  obtain rfl := (List.mem_pair.mp ht).resolve_right
    (ne_of_mem_upper (hmem t (by simp)) (by decide) (by decide))
  obtain rfl := (List.mem_pair.mp hh).resolve_right
    (ne_of_mem_upper (hmem h (by simp)) (by decide) (by decide))
  have hi' : i ∈ ['I', '\u0130', '\u0131'] := by
    have hne : i ≠ 'i' := ne_of_mem_upper (hmem i (by simp)) (by decide) (by decide)
    simp only [List.mem_cons, List.not_mem_nil, or_false] at hi ⊢
    exact hi.imp_right fun h => h.resolve_left hne
  cases hboundary with
  | boundary hboundary => exact ⟨i, post, hi', htext, hboundary⟩

omit [UpperTables] in
/-- How a cleaned statement goes on after its first letter. -/
theorem BeginsQuery.front {s : String} (h : BeginsQuery s) :
    ∃ c d rest, (upper s).toList = c :: d :: rest ∧ (c = 'S' ∧ d = 'E' ∨ c = 'W') := by
  rcases h with ⟨rest, hrest⟩ | ⟨i, rest, -, hrest, -⟩
  · exact ⟨'S', 'E', _, hrest.symm, .inl ⟨rfl, rfl⟩⟩
  · exact ⟨'W', i, _, hrest, .inr rfl⟩

/-- Of a text that begins like a query the cleaner takes nothing away. -/
theorem BeginsQuery.completed_eq {s : String} (h : BeginsQuery s) :
    completed (removeKeyword (removeFences s)) = s := by
  obtain ⟨c, d, rest, hfront, hcd⟩ := h.front
  have hnot : ∀ head : String, (head = "SQL:" ∨ head = "SQL " ∨ head = "ELECT") →
      ¬ startsWith (upper s) head = true := by
    intro head hhead
    rw [startsWith, hfront]
    rcases hhead with rfl | rfl | rfl <;> rcases hcd with ⟨rfl, rfl⟩ | rfl <;>
      exact Bool.false_ne_true
  have hfence : ¬ startsWith s fence = true := by
    intro hfence
    obtain ⟨tail, htail⟩ := startsWith_upper (by decide) hfence
    rw [hfront] at htail
    rcases hcd with ⟨rfl, rfl⟩ | rfl <;> exact absurd (List.cons.inj htail).1 (by decide)
  rw [removeFences, if_neg hfence, removeKeyword, if_neg (hnot _ (.inl rfl)),
    if_neg (hnot _ (.inr (.inl rfl))), completed, if_neg (hnot _ (.inr (.inr rfl)))]

omit [UpperTables] [Python] in
theorem removeKeyword_suffix {sql : String} (h : strip sql = sql) :
    (removeKeyword sql).toList <:+ sql.toList := by
  have hdrop : (strip (dropChars 4 sql)).toList <:+ sql.toList := by
    have hsuffix := List.drop_suffix 4 sql.toList
    rw [strip, stripChars, dropChars, String.toList_ofList, String.toList_ofList]
    exact (stripList_suffix (stripList_of_strip h) hsuffix).trans hsuffix
  rw [removeKeyword]
  split
  · exact hdrop
  · split
    · exact hdrop
    · exact List.suffix_rfl

/-- **Cleaning a cleaned statement** leaves it as it is; the statement is stripped,
begins with `SELECT` or `WITH`, and is the end of the text without its fences, or
that with an `S` before it. -/
theorem cleanSql_sound {sql result : String} (h : cleanSql sql = .ok result) :
    cleanSql result = .ok result ∧ BeginsQuery result ∧ strip result = result ∧
      ∃ rest, rest <:+ (removeFences (strip sql)).toList ∧
        (result.toList = rest ∨ result.toList = 'S' :: rest) := by
  have hsql : sql ≠ "" := by
    rintro rfl
    rw [cleanSql, if_pos rfl] at h
    contradiction
  rw [cleanSql, if_neg hsql] at h
  obtain ⟨hresult, hbegins⟩ := (cleanStripped_ok_iff (strip_strip sql)).mp h
  have hfences := strip_removeFences (strip_strip sql)
  have hstrip : strip result = result := by
    rw [hresult]
    exact strip_completed (strip_removeKeyword hfences)
  have hquery : BeginsQuery result :=
    hbegins.imp (fun hselect => List.isPrefixOf_iff_prefix.mp hselect) startsWithWith_upper
  have hne : result ≠ "" := by
    rintro rfl
    obtain ⟨c, d, rest, hfront, -⟩ := hquery.front
    rw [toList_upper] at hfront
    exact List.cons_ne_nil _ _ hfront.symm
  refine ⟨?_, hquery, hstrip, (removeKeyword (removeFences (strip sql))).toList,
    removeKeyword_suffix hfences, ?_⟩
  · rw [cleanSql, if_neg hne, hstrip]
    exact (cleanStripped_ok_iff hstrip).mpr ⟨hquery.completed_eq.symm, hbegins⟩
  · rw [hresult, completed]
    split
    · exact .inr (String.toList_append ..)
    · exact .inl rfl

end

/-- A fenced and truncated statement. -/
theorem cleanSql_sound_truncated :
    letI := Python.ascii
    letI := PythonUpper.ascii
    cleanSql "Select title FROM album" = .ok "Select title FROM album" ∧
      BeginsQuery "Select title FROM album" ∧
      strip "Select title FROM album" = "Select title FROM album" ∧
      ∃ rest, rest <:+ (removeFences (strip "```sql\nSQL: elect title FROM album\n```")).toList ∧
        ("Select title FROM album".toList = rest ∨
          "Select title FROM album".toList = 'S' :: rest) := by
  let _ := Python.ascii
  let _ := PythonUpper.ascii
  let _ := UpperTables.ascii
  exact cleanSql_sound
    (show cleanSql "```sql\nSQL: elect title FROM album\n```" = .ok "Select title FROM album" by
      decide +kernel)

end DbGateway.Sql
