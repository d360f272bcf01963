import Mathlib.Data.List.Infix

/-!
# DbGateway.Glob

File name patterns as `fnmatch` reads them: `*`, `?` and character classes.

A pattern with text after it that closes no class is read piece by piece
(`parse_append`), so what the whole matches splits into what the parts match
(`matches_append`).
-/

namespace DbGateway.Glob

/-! ## Patterns -/

/-- A piece of a pattern: a character of some kind, or any text. -/
inductive Piece where
  | one (p : Char → Bool)
  | star

/-- The characters of a class, and the ranges of it. -/
def inItems : List Char → Char → Bool
  | a :: '-' :: b :: rest, c => (decide (a ≤ c) && decide (c ≤ b)) || inItems rest c
  | a :: rest, c => decide (c = a) || inItems rest c
  | [], _ => false

/-- `[seq]` and `[!seq]` -/
def inClass : List Char → Char → Bool
  | '!' :: items, c => !inItems items c
  | items, c => inItems items c

/-- The text up to a closing bracket, without it. -/
def untilBracket : List Char → Option (List Char)
  | [] => none
  | c :: cs => if c = ']' then some [] else (untilBracket cs).map (c :: ·)

/-- The same, where the first character is no closing bracket, whatever it is. -/
def untilBracketAfter : List Char → Option (List Char)
  | [] => none
  | c :: cs => (untilBracket cs).map (c :: ·)

/-- What stands in a class. -/
def classText : List Char → Option (List Char)
  | [] => none
  | c :: cs =>
      if c = '!' then (untilBracketAfter cs).map (c :: ·) else untilBracketAfter (c :: cs)

/-- The pieces of a pattern, of which some characters are read already.  A class
that is not closed is a bracket. -/
def parseFrom : Nat → List Char → List Piece
  | _, [] => []
  | skip + 1, _ :: cs => parseFrom skip cs
  | 0, c :: cs =>
      if c = '*' then .star :: parseFrom 0 cs
      else if c = '?' then .one (fun _ => true) :: parseFrom 0 cs
      else if c = '[' then
        match classText cs with
        | some text => .one (inClass text) :: parseFrom (text.length + 1) cs
        | none => .one (fun d => decide (d = '[')) :: parseFrom 0 cs
      else .one (fun d => decide (d = c)) :: parseFrom 0 cs

/-- `fnmatch.translate` -/
def parse (pattern : List Char) : List Piece := parseFrom 0 pattern

/-- Some end of a text. -/
def anyEnd (p : List Char → Bool) : List Char → Bool
  | [] => p []
  | c :: cs => p (c :: cs) || anyEnd p cs

/-- The whole of a text matches. -/
def matchPieces : List Piece → List Char → Bool
  | [], cs => cs.isEmpty
  | .one _ :: _, [] => false
  | .one p :: ps, c :: cs => p c && matchPieces ps cs
  | .star :: ps, cs => anyEnd (matchPieces ps) cs

/-- `fnmatch.fnmatchcase` -/
def fnmatch (name pattern : List Char) : Bool := matchPieces (parse pattern) name

/-! ## Classes -/

section

variable {x : List Char} (hx : ']' ∉ x)

include hx

theorem untilBracket_eq_none : untilBracket x = none := by
  induction x with
  | nil => rfl
  | cons c x ih =>
      rw [List.mem_cons, not_or] at hx
      rw [untilBracket, if_neg (Ne.symm hx.1), ih hx.2]
      rfl

theorem untilBracketAfter_eq_none : untilBracketAfter x = none := by
  cases x with
  | nil => rfl
  | cons c x =>
      rw [untilBracketAfter, untilBracket_eq_none fun h => hx (List.mem_cons_of_mem c h)]
      rfl

theorem classText_eq_none : classText x = none := by
  cases x with
  | nil => rfl
  | cons c x =>
      rw [classText, untilBracketAfter_eq_none hx,
        untilBracketAfter_eq_none fun h => hx (List.mem_cons_of_mem c h)]
      exact ite_self none

theorem untilBracket_append (cs : List Char) : untilBracket (cs ++ x) = untilBracket cs := by
  induction cs with
  | nil => exact untilBracket_eq_none hx
  | cons c cs ih => rw [List.cons_append, untilBracket, untilBracket, ih]

theorem untilBracketAfter_append (cs : List Char) :
    untilBracketAfter (cs ++ x) = untilBracketAfter cs := by
  cases cs with
  | nil => exact untilBracketAfter_eq_none hx
  | cons c cs => rw [List.cons_append, untilBracketAfter, untilBracketAfter, untilBracket_append hx]

/-- A class is not closed by what comes after the pattern. -/
theorem classText_append (cs : List Char) : classText (cs ++ x) = classText cs := by
  cases cs with
  | nil => exact classText_eq_none hx
  | cons c cs =>
      have hwhole := untilBracketAfter_append hx (c :: cs)
      rw [List.cons_append] at hwhole ⊢
      rw [classText, classText, untilBracketAfter_append hx, hwhole]

end

theorem length_untilBracket {cs text : List Char} (h : untilBracket cs = some text) :
    text.length + 1 ≤ cs.length := by
  induction cs generalizing text with
  | nil => contradiction
  | cons c cs ih =>
      rw [untilBracket] at h
      split at h
      · rw [← Option.some_inj.mp h]
        exact Nat.succ_le_succ (Nat.zero_le _)
      · obtain ⟨text', htext, rfl⟩ := Option.map_eq_some_iff.mp h
        exact Nat.succ_le_succ (ih htext)

theorem length_untilBracketAfter {cs text : List Char} (h : untilBracketAfter cs = some text) :
    text.length + 1 ≤ cs.length := by
  cases cs with
  | nil => contradiction
  | cons c cs =>
      obtain ⟨text', htext, rfl⟩ := Option.map_eq_some_iff.mp h
      exact Nat.succ_le_succ (length_untilBracket htext)

/-- A class and its closing bracket are within the pattern. -/
theorem length_classText {cs text : List Char} (h : classText cs = some text) :
    text.length + 1 ≤ cs.length := by
  cases cs with
  | nil => contradiction
  | cons c cs =>
      rw [classText] at h
      split at h
      · obtain ⟨text', htext, rfl⟩ := Option.map_eq_some_iff.mp h
        exact Nat.succ_le_succ (length_untilBracketAfter htext)
      · exact length_untilBracketAfter h

/-! ## Patterns one after the other -/

theorem parseFrom_append {x : List Char} (hx : ']' ∉ x) (cs : List Char) {skip : Nat}
    (hskip : skip ≤ cs.length) :
    parseFrom skip (cs ++ x) = parseFrom skip cs ++ parse x := by
  induction cs generalizing skip with
  | nil =>
      obtain rfl := Nat.le_zero.mp hskip
      cases x <;> rfl
  | cons c cs ih =>
      cases skip with
      | succ skip => exact ih (Nat.le_of_succ_le_succ hskip)
      | zero =>
          have hrest := ih (Nat.zero_le cs.length)
          rw [List.cons_append, parseFrom, parseFrom, hrest, classText_append hx]
          by_cases hstar : c = '*'
          · rw [if_pos hstar, if_pos hstar]
            rfl
          · rw [if_neg hstar, if_neg hstar]
            by_cases hany : c = '?'
            · rw [if_pos hany, if_pos hany]
              rfl
            · rw [if_neg hany, if_neg hany]
              by_cases hopen : c = '['
              · rw [if_pos hopen, if_pos hopen]
                cases htext : classText cs with
                | none => rfl
                | some text =>
                    dsimp only
                    rw [ih (length_classText htext)]
                    rfl
              · rw [if_neg hopen, if_neg hopen]
                rfl

theorem parse_append (cs : List Char) {x : List Char} (hx : ']' ∉ x) :
    parse (cs ++ x) = parse cs ++ parse x :=
  parseFrom_append hx cs (Nat.zero_le _)

/-! ## Matching -/

theorem anyEnd_iff {p : List Char → Bool} {cs : List Char} :
    anyEnd p cs = true ↔ ∃ front back, cs = front ++ back ∧ p back = true := by
  induction cs with
  | nil =>
      constructor
      · exact fun h => ⟨[], [], rfl, h⟩
      · rintro ⟨front, back, hsplit, h⟩
        rwa [(List.append_eq_nil_iff.mp hsplit.symm).2] at h
  | cons c cs ih =>
      rw [anyEnd, Bool.or_eq_true, ih]
      constructor
      · rintro (h | ⟨front, back, rfl, h⟩)
        · exact ⟨[], c :: cs, rfl, h⟩
        · exact ⟨c :: front, back, rfl, h⟩
      · rintro ⟨front, back, hsplit, h⟩
        cases front with
        | nil => exact .inl (hsplit ▸ h)
        | cons d front => exact .inr ⟨front, back, (List.cons.inj hsplit).2, h⟩

/-- Pieces one after the other match what is made of what they match. -/
theorem matchPieces_append {ps qs : List Piece} {cs : List Char} :
    matchPieces (ps ++ qs) cs = true ↔
      ∃ front back, cs = front ++ back ∧ matchPieces ps front = true ∧
        matchPieces qs back = true := by
  induction ps generalizing cs with
  | nil =>
      constructor
      · exact fun h => ⟨[], cs, rfl, rfl, h⟩
      · rintro ⟨front, back, rfl, hfront, hback⟩
        rw [List.isEmpty_iff.mp hfront]
        exact hback
  | cons piece ps ih =>
      cases piece with
      | one p =>
          cases cs with
          | nil =>
              refine iff_of_false Bool.false_ne_true ?_
              rintro ⟨front, back, hsplit, hfront, -⟩
              rw [(List.append_eq_nil_iff.mp hsplit.symm).1] at hfront
              contradiction
          | cons c cs =>
              rw [List.cons_append, matchPieces, Bool.and_eq_true, ih]
              constructor
              · rintro ⟨hc, front, back, rfl, hfront, hback⟩
                refine ⟨c :: front, back, rfl, ?_, hback⟩
                rw [matchPieces, hc, hfront]
                rfl
              · rintro ⟨front, back, hsplit, hfront, hback⟩
                cases front with
                | nil => contradiction
                | cons d front =>
                    obtain ⟨rfl, rfl⟩ := List.cons.inj hsplit
                    rw [matchPieces, Bool.and_eq_true] at hfront
                    exact ⟨hfront.1, front, back, rfl, hfront.2, hback⟩
      | star =>
          rw [List.cons_append, matchPieces, anyEnd_iff]
          constructor
          · rintro ⟨skipped, rest, rfl, hrest⟩
            obtain ⟨front, back, rfl, hfront, hback⟩ := ih.mp hrest
            refine ⟨skipped ++ front, back, (List.append_assoc _ _ _).symm, ?_, hback⟩
            exact anyEnd_iff.mpr ⟨skipped, front, rfl, hfront⟩
          · rintro ⟨front, back, rfl, hfront, hback⟩
            obtain ⟨skipped, rest, rfl, hrest⟩ := anyEnd_iff.mp hfront
            exact ⟨skipped, rest ++ back, List.append_assoc _ _ _, ih.mpr ⟨rest, back, rfl, hrest, hback⟩⟩

/-- A pattern with a simple one after it. -/
theorem fnmatch_append {name pattern x : List Char} (hx : ']' ∉ x) :
    fnmatch name (pattern ++ x) = true ↔
      ∃ front back, name = front ++ back ∧ fnmatch front pattern = true ∧
        fnmatch back x = true := by
  rw [fnmatch, parse_append pattern hx, matchPieces_append]
  rfl

/-- A pattern without special characters matches itself. -/
theorem fnmatch_literal {text : List Char} (h : (text.all fun c => c ∉ ['*', '?', '[']) = true)
    {name : List Char} : fnmatch name text = true ↔ name = text := by
  induction text generalizing name with
  | nil => exact List.isEmpty_iff
  | cons c text ih =>
      rw [List.all_cons, Bool.and_eq_true, decide_eq_true_eq] at h
      obtain ⟨hc, h⟩ := h
      simp only [List.mem_cons, List.not_mem_nil, or_false, not_or] at hc
      have hparse : parse (c :: text) = .one (fun d => decide (d = c)) :: parse text := by
        rw [parse, parseFrom, if_neg hc.1, if_neg hc.2.1, if_neg hc.2.2]
        rfl
      have htext := @ih h
      cases name with
      | nil =>
          rw [fnmatch, hparse]
          exact iff_of_false Bool.false_ne_true (List.cons_ne_nil c text).symm
      | cons d name =>
          rw [fnmatch, hparse, matchPieces, Bool.and_eq_true, decide_eq_true_eq, List.cons.injEq]
          exact and_congr_right' htext

theorem fnmatch_star (name : List Char) : fnmatch name ['*'] = true :=
  anyEnd_iff.mpr ⟨name, [], (List.append_nil name).symm, rfl⟩

end DbGateway.Glob
