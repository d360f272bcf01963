import DbGateway.Re.Matches

/-!
# DbGateway.Re.Blocks

Two shapes of patterns and what `re.sub` and `re.findall` make of a text with
them: a block from an opening to the next closing character, and whole words.
-/

namespace DbGateway.Re

open Pattern

namespace Pattern

/-- `o[^c]*c` -/
def block (opening closing : Char) : Pattern :=
  .seq (.char (· == opening)) (.seq (.star true (.char (· != closing))) (.char (· == closing)))

/-- `\bw\b` -/
def wholeWord (w : String) : Pattern := seqs [.boundary, text w, .boundary]

end Pattern

section

variable [Python] {r : Pattern} {pre mid post rest : List Char} {gs : Groups}

/-- A match that is the only one at its position is the one that is found. -/
theorem matchAt_eq_some (h : Matches r pre mid post gs)
    (hunique : ∀ mid' post' gs', mid ++ post = mid' ++ post' → Matches r pre mid' post' gs' →
      mid' = mid ∧ gs' = gs) :
    matchAt r (pre ++ (mid ++ post)) pre.length =
      some ⟨pre.length, pre.length + mid.length, gs⟩ := by
  obtain ⟨m, hm⟩ := Option.isSome_iff_exists.mp (matchAt_isSome h)
  obtain ⟨mid', post', gs', hsplit, hmatch, rfl⟩ := matchAt_sound hm
  obtain ⟨rfl, rfl⟩ := hunique mid' post' gs' hsplit hmatch
  exact hm

/-! ## Blocks -/

theorem matches_block {o c : Char} : Matches (block o c) pre mid post gs ↔
    ∃ body, mid = o :: (body ++ [c]) ∧ (∀ d ∈ body, d ≠ c) ∧ gs = [] := by
  simp only [block, matches_seq, matches_char, matches_star_char, beq_iff_eq, bne_iff_ne]
  constructor
  · rintro ⟨_, _, _, _, rfl, rfl, ⟨⟨_, rfl, rfl⟩, rfl⟩, body, _, _, _, rfl, rfl, ⟨hbody, rfl⟩,
      ⟨_, rfl, rfl⟩, rfl⟩
    exact ⟨body, rfl, hbody, rfl⟩
  · rintro ⟨body, rfl, hbody, rfl⟩
    exact ⟨[o], body ++ [c], [], [], rfl, rfl, ⟨⟨o, rfl, rfl⟩, rfl⟩, body, [c], [], [], rfl, rfl,
      ⟨hbody, rfl⟩, ⟨c, rfl, rfl⟩, rfl⟩

/-- A pattern for blocks, by the character that closes what a character opens. -/
def IsBlocks (r : Pattern) (closing : Char → Option Char) : Prop :=
  ∀ pre mid post gs, Matches r pre mid post gs ↔
    ∃ o c body, closing o = some c ∧ mid = o :: (body ++ [c]) ∧ (∀ d ∈ body, d ≠ c) ∧ gs = []

/-- `re.sub` with a blank, on what is left of a text. -/
def blankRest (r : Pattern) (pre rest : List Char) : List Char := subRest r (fun _ => [' ']) pre rest

variable {closing : Char → Option Char}

omit [Python] in
/-- The first closing character ends a block. -/
theorem block_unique {c : Char} {as bs as' bs' : List Char} (has : ∀ d ∈ as, d ≠ c)
    (has' : ∀ d ∈ as', d ≠ c) (h : as ++ c :: bs = as' ++ c :: bs') : as = as' := by
  induction as generalizing as' with
  | nil =>
      cases as' with
      | nil => rfl
      | cons d as' => exact absurd (List.cons.inj h).1.symm (has' d (by simp))
  | cons d as ih =>
      cases as' with
      | nil => exact absurd (List.cons.inj h).1 (has d (by simp))
      | cons d' as' =>
          obtain ⟨rfl, htail⟩ := List.cons.inj h
          rw [ih (fun e he => has e (by simp [he])) (fun e he => has' e (by simp [he])) htail]

theorem IsBlocks.blankRest_block (hr : IsBlocks r closing) {o c : Char} (hclosing : closing o = some c)
    {body : List Char} (hbody : ∀ d ∈ body, d ≠ c) (pre rest : List Char) :
    blankRest r pre (o :: (body ++ c :: rest)) =
      ' ' :: blankRest r (pre ++ o :: (body ++ [c])) rest := by
  have hmatch : Matches r pre (o :: (body ++ [c])) rest [] :=
    (hr _ _ _ _).mpr ⟨o, c, body, hclosing, rfl, hbody, rfl⟩
  have hat := matchAt_eq_some hmatch fun mid' post' gs' hsplit hmatch' => by
    obtain ⟨o', c', body', hclosing', rfl, hbody', rfl⟩ := (hr _ _ _ _).mp hmatch'
    simp only [List.cons_append, List.append_assoc, List.cons.injEq] at hsplit
    obtain ⟨rfl, hsplit⟩ := hsplit
    obtain rfl : c = c' := Option.some.inj (hclosing.symm.trans hclosing')
    rw [block_unique hbody hbody' hsplit]
    exact ⟨rfl, rfl⟩
  have htake : blankRest r pre (o :: (body ++ [c]) ++ rest) = _ :=
    subRest_take (List.cons_ne_nil _ _) hat
  simpa [blankRest] using htake

/-- A character that opens no block is kept. -/
theorem IsBlocks.blankRest_skip (hr : IsBlocks r closing) {o : Char} {rest : List Char}
    (h : ∀ c, closing o = some c → c ∉ rest) (pre : List Char) :
    blankRest r pre (o :: rest) = o :: blankRest r (pre ++ [o]) rest := by
  refine subRest_skip (matchAt_eq_none.mpr fun mid post gs hsplit hmatch => ?_)
  obtain ⟨o', c, body, hclosing, rfl, -, -⟩ := (hr _ _ _ _).mp hmatch
  simp only [List.cons_append, List.append_assoc, List.cons.injEq] at hsplit
  obtain ⟨rfl, rfl⟩ := hsplit
  exact h c hclosing (by simp)

theorem IsBlocks.blankRest_nil (hr : IsBlocks r closing) (pre : List Char) :
    blankRest r pre [] = [] := by
  refine subRest_nil (matchAt_eq_none.mpr fun mid post gs hsplit hmatch => ?_)
  obtain ⟨o, c, body, -, rfl, -, -⟩ := (hr _ _ _ _).mp hmatch
  simp at hsplit

/-- A text that opens no block is kept. -/
theorem IsBlocks.blankRest_append (hr : IsBlocks r closing) {cs : List Char}
    (h : ∀ o ∈ cs, closing o = none) (pre rest : List Char) :
    blankRest r pre (cs ++ rest) = cs ++ blankRest r (pre ++ cs) rest := by
  induction cs generalizing pre with
  | nil => simp
  | cons o cs ih =>
      have ho : closing o = none := h o (by simp)
      rw [List.cons_append, hr.blankRest_skip (by simp [ho]), ih fun c hc => h c (by simp [hc])]
      simp

/-! ## Whole words -/

theorem matches_text {t : String} : Matches (text t) pre mid post gs ↔ mid = t.toList ∧ gs = [] := by
  rw [Pattern.text]
  generalize t.toList = cs
  induction cs generalizing pre mid gs with
  | nil => simp
  | cons c cs ih =>
      simp only [List.foldr_cons, matches_seq, matches_char, ih, beq_iff_eq]
      constructor
      · rintro ⟨_, _, _, _, rfl, rfl, ⟨⟨_, rfl, rfl⟩, rfl⟩, rfl, rfl⟩
        exact ⟨rfl, rfl⟩
      · rintro ⟨rfl, rfl⟩
        exact ⟨[c], cs, [], [], rfl, rfl, ⟨⟨c, rfl, rfl⟩, rfl⟩, rfl, rfl⟩

theorem matches_wholeWord {w : String} : Matches (wholeWord w) pre mid post gs ↔
    mid = w.toList ∧ AtBoundary pre (mid ++ post) ∧ AtBoundary (pre ++ mid) post ∧ gs = [] := by
  simp only [wholeWord, seqs, List.foldr, matches_seq, matches_boundary, matches_text, matches_empty]
  constructor
  · rintro ⟨_, _, _, _, rfl, rfl, ⟨rfl, rfl, hbefore⟩, _, _, _, _, rfl, rfl, ⟨rfl, rfl⟩,
      _, _, _, _, rfl, rfl, ⟨rfl, rfl, hafter⟩, rfl, rfl⟩
    exact ⟨by simp, by simpa using hbefore, by simpa using hafter, rfl⟩
  · rintro ⟨rfl, hbefore, hafter, rfl⟩
    exact ⟨[], w.toList, [], [], rfl, rfl, ⟨rfl, rfl, hbefore⟩, w.toList, [], [], [], by simp, rfl,
      ⟨rfl, rfl⟩,
      [], [], [], [], rfl, rfl, ⟨rfl, rfl, by simpa using hafter⟩, rfl, rfl⟩

/-- A pattern for some words, each of them as a whole. -/
def IsWords (r : Pattern) (ws : List (List Char)) : Prop :=
  (∀ w ∈ ws, w ≠ [] ∧ ∀ c ∈ w, isWord c = true) ∧
    ∀ pre mid post gs, Matches r pre mid post gs ↔
      mid ∈ ws ∧ AtBoundary pre (mid ++ post) ∧ AtBoundary (pre ++ mid) post ∧ gs = []

variable {ws : List (List Char)}

theorem IsWords.findRest_nil (hr : IsWords r ws) (pre : List Char) : findRest r pre [] = [] := by
  refine Re.findRest_nil (matchAt_eq_none.mpr fun mid post gs hsplit hmatch => ?_)
  obtain ⟨hmid, -⟩ := (hr.2 _ _ _ _).mp hmatch
  simp [(hr.1 mid hmid).1] at hsplit

/-- No word begins outside a boundary. -/
theorem IsWords.findRest_skip (hr : IsWords r ws) {c : Char}
    (h : isWord c = true → pre.getLast?.any isWord = true) (rest : List Char) :
    findRest r pre (c :: rest) = findRest r (pre ++ [c]) rest := by
  refine Re.findRest_skip (matchAt_eq_none.mpr fun mid post gs hsplit hmatch => ?_)
  obtain ⟨hmid, hbefore, -⟩ := (hr.2 _ _ _ _).mp hmatch
  obtain ⟨hne, hword⟩ := hr.1 mid hmid
  obtain ⟨d, mid, rfl⟩ := List.exists_cons_of_ne_nil hne
  obtain ⟨rfl, rfl⟩ := List.cons.inj hsplit
  have hc : isWord c = true := hword c (by simp)
  simp [AtBoundary, h hc, hc] at hbefore

/-- No word begins inside a word. -/
theorem IsWords.findRest_inside (hr : IsWords r ws) {w : List Char} (hw : ∀ c ∈ w, isWord c = true)
    (hpre : pre.getLast?.any isWord = true) (rest : List Char) :
    findRest r pre (w ++ rest) = findRest r (pre ++ w) rest := by
  induction w generalizing pre with
  | nil => simp
  | cons c w ih =>
      have hc : isWord c = true := hw c (by simp)
      have hlast : (pre ++ [c]).getLast?.any isWord = true := by simpa using hc
      have hnext := ih (fun d hd => hw d (by simp [hd])) hlast
      rw [List.cons_append, hr.findRest_skip fun _ => hpre, hnext]
      simp

/-- A run of characters of words ends where the next is none. -/
theorem run_unique {as bs as' bs' : List Char} (has : ∀ c ∈ as, isWord c = true)
    (has' : ∀ c ∈ as', isWord c = true) (hbs : ∀ c ∈ bs.head?, isWord c = false)
    (hbs' : ∀ c ∈ bs'.head?, isWord c = false) (h : as ++ bs = as' ++ bs') : as = as' := by
  induction as generalizing as' with
  | nil =>
      cases as' with
      | nil => rfl
      | cons c as' =>
          have hnot := hbs c (by simp [show bs = _ from h])
          rw [has' c (by simp)] at hnot
          cases hnot
  | cons c as ih =>
      cases as' with
      | nil =>
          have hnot := hbs' c (by simp [← show _ = bs' from h])
          rw [has c (by simp)] at hnot
          cases hnot
      | cons c' as' =>
          obtain ⟨rfl, htail⟩ := List.cons.inj h
          rw [ih (fun d hd => has d (by simp [hd])) (fun d hd => has' d (by simp [hd])) htail]

/-- A word is found or passed over as a whole. -/
theorem IsWords.findRest_word (hr : IsWords r ws) {w : List Char} (hne : w ≠ [])
    (hw : ∀ c ∈ w, isWord c = true) (hpre : pre.getLast?.any isWord = false)
    (hrest : ∀ c ∈ rest.head?, isWord c = false) :
    (findRest r pre (w ++ rest)).length =
      (if w ∈ ws then 1 else 0) + (findRest r (pre ++ w) rest).length := by
  have hlast : (pre ++ w).getLast?.any isWord = true := by
    rw [List.getLast?_append_of_ne_nil _ hne, List.getLast?_eq_some_getLast hne]
    exact hw _ (List.getLast_mem hne)
  have hwhole : ∀ mid post gs, w ++ rest = mid ++ post → Matches r pre mid post gs →
      mid = w ∧ gs = [] := by
    intro mid post gs hsplit hmatch
    obtain ⟨hmid, -, hafter, rfl⟩ := (hr.2 _ _ _ _).mp hmatch
    obtain ⟨hmidne, hmidw⟩ := hr.1 mid hmid
    have hends : ∀ c ∈ post.head?, isWord c = false := by
      refine AtBoundary.ends hafter ?_
      rw [List.getLast?_append_of_ne_nil _ hmidne, List.getLast?_eq_some_getLast hmidne]
      exact hmidw _ (List.getLast_mem hmidne)
    exact ⟨run_unique hmidw hw hends hrest hsplit.symm, rfl⟩
  by_cases hmem : w ∈ ws
  · have hnext : rest.head?.any isWord = false := by
      cases rest with
      | nil => rfl
      | cons c rest => simpa using hrest c rfl
    obtain ⟨c, v, hcons⟩ := List.exists_cons_of_ne_nil hne
    have hc : isWord c = true := hw c (by simp [hcons])
    have hmatch : Matches r pre w rest [] := by
      refine (hr.2 _ _ _ _).mpr ⟨hmem, ?_, ?_, rfl⟩
      · simp [AtBoundary, hpre, hcons, hc]
      · rw [AtBoundary, hlast, hnext]
        simp
    rw [if_pos hmem, findRest_take hne (matchAt_eq_some hmatch hwhole), List.length_cons]
    omega
  · have hnone : matchAt r (pre ++ (w ++ rest)) pre.length = none := by
      refine matchAt_eq_none.mpr fun mid post gs hsplit hmatch => ?_
      obtain ⟨rfl, -⟩ := hwhole mid post gs hsplit hmatch
      exact hmem ((hr.2 _ _ _ _).mp hmatch).1
    obtain ⟨c, v, rfl⟩ := List.exists_cons_of_ne_nil hne
    have hc : isWord c = true := hw c (by simp)
    have hcword : (pre ++ [c]).getLast?.any isWord = true := by simpa using hc
    have hinside := hr.findRest_inside (fun d hd => hw d (List.mem_cons_of_mem c hd)) hcword rest
    have hskip : findRest r pre (c :: (v ++ rest)) = findRest r (pre ++ [c]) (v ++ rest) :=
      Re.findRest_skip hnone
    rw [if_neg hmem, List.cons_append, hskip, hinside]
    simp

end

end DbGateway.Re
