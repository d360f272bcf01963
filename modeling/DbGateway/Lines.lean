import DbGateway.Python

/-!
# DbGateway.Lines

`str.splitlines` against `"\n".join`.  More characters end a line than the one
`join` puts between two, so a joined text is read line by line only in this
sense: each part, with the newline that follows it, is split on its own
(`splitlines_join`).
-/

namespace DbGateway

/-- The characters `str.splitlines` ends a line at. -/
def isLineBreak (c : Char) : Bool :=
  c ∈ ['\n', '\r', '\x0b', '\x0c', '\x1c', '\x1d', '\x1e', '\x85', '\u2028', '\u2029']

/-- The lines from a position on, given the line so far, backwards, and whether
a carriage return has just ended one. -/
def splitlinesFrom : Bool → List Char → List Char → List (List Char)
  | _, line, [] => if line = [] then [] else [line.reverse]
  | cr, line, c :: cs =>
      if cr && c = '\n' then splitlinesFrom false line cs
      else if isLineBreak c then line.reverse :: splitlinesFrom (c = '\r') [] cs
      else splitlinesFrom false (c :: line) cs

/-- `text.splitlines()` -/
def splitlines (text : String) : List String :=
  (splitlinesFrom false [] text.toList).map String.ofList

/-- `sep.join(parts)` for a newline. -/
def joinLines (parts : List String) : String := String.intercalate "\n" parts

example : splitlines "a\r\nb\n\nc\u2028" = ["a", "b", "", "c"] := by decide

/-- The characters of a part are characters of the text. -/
theorem mem_joinLines {parts : List String} {part : String} (hpart : part ∈ parts) {c : Char}
    (hc : c ∈ part.toList) : c ∈ (joinLines parts).toList := by
  induction parts with
  | nil => exact absurd hpart List.not_mem_nil
  | cons first parts ih =>
      unfold joinLines at ih ⊢
      by_cases hnil : parts = []
      · rw [hnil, List.mem_singleton] at hpart
        rwa [hnil, String.intercalate_singleton, ← hpart]
      · rw [String.intercalate_cons_of_ne_nil hnil, String.toList_append, String.toList_append,
          List.mem_append, List.mem_append]
        cases List.mem_cons.mp hpart with
        | inl hfirst => exact .inl (.inl (hfirst ▸ hc))
        | inr hrest => exact .inr (ih hrest)

/-- What follows a newline is split on its own. -/
theorem splitlinesFrom_append (cr : Bool) (line : List Char) (hcr : cr = true → line = [])
    (a b : List Char) :
    splitlinesFrom cr line (a ++ '\n' :: b) =
      splitlinesFrom cr line (a ++ ['\n']) ++ splitlinesFrom false [] b := by
  induction a generalizing cr line with
  | nil =>
      cases cr with
      | true =>
          rw [hcr rfl]
          rfl
      | false => rfl
  | cons c a ih =>
      rw [List.cons_append, List.cons_append, splitlinesFrom, splitlinesFrom]
      split
      · exact ih false line (fun h => absurd h Bool.false_ne_true)
      · split
        · rw [ih _ [] fun _ => rfl, List.cons_append]
        · exact ih false (c :: line) (fun h => absurd h Bool.false_ne_true)

theorem splitlines_append (a b : String) :
    splitlines (a ++ "\n" ++ b) = splitlines (a ++ "\n") ++ splitlines b := by
  have hnewline : "\n".toList = ['\n'] := rfl
  unfold splitlines
  rw [String.toList_append, String.toList_append, hnewline, List.append_assoc,
    List.singleton_append, splitlinesFrom_append false [] (fun _ => rfl), List.map_append]

/-- A text of joined parts that ends with a newline. -/
theorem splitlines_join (parts : List String) :
    splitlines (joinLines (parts ++ [""])) = parts.flatMap fun part => splitlines (part ++ "\n") := by
  induction parts with
  | nil => rfl
  | cons part parts ih =>
      have hjoin : joinLines (part :: parts ++ [""]) =
          part ++ "\n" ++ joinLines (parts ++ [""]) :=
        String.intercalate_cons_of_ne_nil (by simp)
      rw [hjoin, splitlines_append, ih, List.flatMap_cons]

/-- A character that ends no line stands in some line. -/
theorem exists_mem_splitlinesFrom {cr : Bool} {line text : List Char} {c : Char}
    (hmem : c ∈ line ∨ c ∈ text) (hbreak : isLineBreak c = false) :
    ∃ l ∈ splitlinesFrom cr line text, c ∈ l := by
  induction text generalizing cr line with
  | nil =>
      have hline : c ∈ line := hmem.resolve_right List.not_mem_nil
      rw [splitlinesFrom, if_neg (List.ne_nil_of_mem hline)]
      exact ⟨_, List.mem_singleton_self _, List.mem_reverse.mpr hline⟩
  | cons d text ih =>
      rw [List.mem_cons] at hmem
      rw [splitlinesFrom]
      split
      · next hnewline =>
        refine ih (hmem.imp_right fun h => h.resolve_left fun hc => ?_)
        rw [Bool.and_eq_true, decide_eq_true_eq] at hnewline
        rw [hc, hnewline.2] at hbreak
        contradiction
      · split
        · next hd =>
          rcases hmem with hline | hc | htext
          · exact ⟨_, List.mem_cons_self, List.mem_reverse.mpr hline⟩
          · rw [hc, hd] at hbreak
            contradiction
          · obtain ⟨l, hl, hcl⟩ : ∃ l ∈ splitlinesFrom (d = '\r') [] text, c ∈ l :=
              ih (.inr htext)
            exact ⟨l, List.mem_cons_of_mem _ hl, hcl⟩
        · refine ih ?_
          rw [List.mem_cons, or_assoc, or_left_comm]
          exact hmem

theorem exists_mem_splitlines {text : String} {c : Char} (hmem : c ∈ text.toList)
    (hbreak : isLineBreak c = false) : ∃ line ∈ splitlines text, c ∈ line.toList := by
  obtain ⟨l, hl, hc⟩ : ∃ l ∈ splitlinesFrom false [] text.toList, c ∈ l :=
    exists_mem_splitlinesFrom (.inr hmem) hbreak
  exact ⟨_, List.mem_map_of_mem hl, by rwa [String.toList_ofList]⟩

end DbGateway
