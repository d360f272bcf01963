import DbGateway.Re

/-!
# DbGateway.Re.Matches

What a pattern matches, apart from the order in which the backtracking tries
it: `Matches r pre mid post groups` says that `r` matches `mid`, with `pre`
before it and `post` after it, and sets `groups`.  The matcher only finds such
texts, and finds one wherever there is one; `re.search`, `re.finditer` and
`re.sub` then go from match to match.
-/

namespace DbGateway.Re

/-! ## Matches -/

section

variable [Python]

/-- `\b` between two texts. -/
def AtBoundary (pre post : List Char) : Prop :=
  (pre.getLast?.any isWord) ≠ (post.head?.any isWord)

instance (pre post : List Char) : Decidable (AtBoundary pre post) :=
  inferInstanceAs (Decidable (_ ≠ _))

/-- After a character of a word, a boundary is where the word ends. -/
theorem AtBoundary.ends {pre post : List Char} (h : AtBoundary pre post)
    (hlast : pre.getLast?.any isWord = true) : ∀ c ∈ post.head?, isWord c = false := by
  intro c hc
  rw [AtBoundary, hlast, Option.mem_def.mp hc] at h
  simpa using h.symm

/-- Only the last character before a boundary matters. -/
theorem atBoundary_append {as bs post : List Char} (hne : bs ≠ []) :
    AtBoundary (as ++ bs) post ↔ AtBoundary bs post := by
  rw [AtBoundary, AtBoundary, List.getLast?_append_of_ne_nil as hne]

inductive Matches : Pattern → List Char → List Char → List Char → Groups → Prop
  | empty {pre post} : Matches .empty pre [] post []
  | char {p c pre post} (h : p c = true) : Matches (.char p) pre [c] post []
  | seq {r s pre a b post gs hs} (first : Matches r pre a (b ++ post) gs)
      (second : Matches s (pre ++ a) b post hs) : Matches (.seq r s) pre (a ++ b) post (hs ++ gs)
  | altLeft {r s pre mid post gs} (h : Matches r pre mid post gs) :
      Matches (.alt r s) pre mid post gs
  | altRight {r s pre mid post gs} (h : Matches s pre mid post gs) :
      Matches (.alt r s) pre mid post gs
  | starNil {greedy r pre post} : Matches (.star greedy r) pre [] post []
  | starStep {greedy r pre a b post gs hs} (hne : a ≠ []) (first : Matches r pre a (b ++ post) gs)
      (rest : Matches (.star greedy r) (pre ++ a) b post hs) :
      Matches (.star greedy r) pre (a ++ b) post (hs ++ gs)
  | group {n r pre mid post gs} (h : Matches r pre mid post gs) :
      Matches (.group n r) pre mid post ((n, pre.length, pre.length + mid.length) :: gs)
  | boundary {pre post} (h : AtBoundary pre post) : Matches .boundary pre [] post []
  | end_ {pre post} (h : post = [] ∨ post = ['\n']) : Matches .end_ pre [] post []

variable {r s : Pattern} {pre mid post : List Char} {gs : Groups}

@[simp] theorem matches_empty : Matches .empty pre mid post gs ↔ mid = [] ∧ gs = [] := by
  constructor
  · intro h
    cases h
    simp
  · rintro ⟨rfl, rfl⟩
    exact .empty

@[simp] theorem matches_char {p : Char → Bool} :
    Matches (.char p) pre mid post gs ↔ (∃ c, mid = [c] ∧ p c = true) ∧ gs = [] := by
  constructor
  · intro h
    cases h with
    | char h => exact ⟨⟨_, rfl, h⟩, rfl⟩
  · rintro ⟨⟨c, rfl, h⟩, rfl⟩
    exact .char h

theorem matches_seq :
    Matches (.seq r s) pre mid post gs ↔ ∃ a b hs ks, mid = a ++ b ∧ gs = ks ++ hs ∧
      Matches r pre a (b ++ post) hs ∧ Matches s (pre ++ a) b post ks := by
  constructor
  · intro h
    cases h with
    | seq first second => exact ⟨_, _, _, _, rfl, rfl, first, second⟩
  · rintro ⟨a, b, hs, ks, rfl, rfl, first, second⟩
    exact .seq first second

@[simp] theorem matches_alt :
    Matches (.alt r s) pre mid post gs ↔ Matches r pre mid post gs ∨ Matches s pre mid post gs := by
  constructor
  · intro h
    cases h with
    | altLeft h => exact .inl h
    | altRight h => exact .inr h
  · rintro (h | h)
    · exact .altLeft h
    · exact .altRight h

theorem matches_group {n : Nat} :
    Matches (.group n r) pre mid post gs ↔
      ∃ hs, gs = (n, pre.length, pre.length + mid.length) :: hs ∧ Matches r pre mid post hs := by
  constructor
  · intro h
    cases h with
    | group h => exact ⟨_, rfl, h⟩
  · rintro ⟨hs, rfl, h⟩
    exact .group h

@[simp] theorem matches_boundary :
    Matches .boundary pre mid post gs ↔ mid = [] ∧ gs = [] ∧ AtBoundary pre post := by
  constructor
  · intro h
    cases h with
    | boundary h => exact ⟨rfl, rfl, h⟩
  · rintro ⟨rfl, rfl, h⟩
    exact .boundary h

/-- A repeated character class matches the runs of that class. -/
@[simp] theorem matches_star_char {greedy : Bool} {p : Char → Bool} :
    Matches (.star greedy (.char p)) pre mid post gs ↔ (∀ c ∈ mid, p c = true) ∧ gs = [] := by
  constructor
  · intro h
    generalize hr : Pattern.star greedy (.char p) = r at h
    induction h with
    | starNil => simp
    | starStep hne first rest ihFirst ihRest =>
        cases hr
        obtain ⟨⟨c, rfl, hc⟩, rfl⟩ := matches_char.mp first
        have hrest := ihRest rfl
        simpa using ⟨⟨hc, hrest.1⟩, hrest.2⟩
    | _ => cases hr
  · rintro ⟨h, rfl⟩
    induction mid generalizing pre with
    | nil => exact .starNil
    | cons c mid ih =>
        have hc : Matches (.char p) pre [c] (mid ++ post) [] := .char (h c (by simp))
        have hmid : Matches (.star greedy (.char p)) (pre ++ [c]) mid post [] :=
          ih fun d hd => h d (by simp [hd])
        exact .starStep (a := [c]) (by simp) hc hmid

/-- What a word matches under `IGNORECASE`. -/
def Folds (w mid : List Char) : Prop := List.Forall₂ (fun c d => Pattern.foldsTo c d = true) w mid

instance (w mid : List Char) : Decidable (Folds w mid) :=
  inferInstanceAs (Decidable (List.Forall₂ _ w mid))

theorem matches_word {w : String} :
    Matches (Pattern.word w) pre mid post gs ↔ Folds w.toList mid ∧ gs = [] := by
  rw [Pattern.word]
  generalize w.toList = cs
  induction cs generalizing pre mid gs with
  | nil => simp [Folds]
  | cons c cs ih =>
      rw [List.foldr_cons, matches_seq]
      constructor
      · rintro ⟨a, b, hs, ks, rfl, rfl, ha, hb⟩
        obtain ⟨⟨d, rfl, hd⟩, rfl⟩ := matches_char.mp ha
        obtain ⟨hfolds, rfl⟩ := ih.mp hb
        exact ⟨.cons hd hfolds, rfl⟩
      · rintro ⟨hfolds, rfl⟩
        cases hfolds with
        | cons hd hfolds =>
            exact ⟨[_], _, [], [], rfl, rfl, .char hd, ih.mpr ⟨hfolds, rfl⟩⟩

/-- `r+` -/
theorem matches_plus_char {p : Char → Bool} :
    Matches (Pattern.plus (.char p)) pre mid post gs ↔
      mid ≠ [] ∧ (∀ c ∈ mid, p c = true) ∧ gs = [] := by
  rw [Pattern.plus, matches_seq]
  constructor
  · rintro ⟨a, b, hs, ks, rfl, rfl, ha, hb⟩
    obtain ⟨⟨c, rfl, hc⟩, rfl⟩ := matches_char.mp ha
    obtain ⟨hall, rfl⟩ := matches_star_char.mp hb
    simpa using ⟨hc, hall⟩
  · rintro ⟨hne, h, rfl⟩
    obtain ⟨c, mid, rfl⟩ := List.exists_cons_of_ne_nil hne
    exact ⟨[c], mid, [], [], rfl, rfl, .char (h c (by simp)),
      matches_star_char.mpr ⟨fun d hd => h d (by simp [hd]), rfl⟩⟩

/-! ## A sequence, one step at a time -/

theorem matches_seq_boundary : Matches (.seq .boundary s) pre mid post gs ↔
    AtBoundary pre (mid ++ post) ∧ Matches s pre mid post gs := by
  rw [matches_seq]
  constructor
  · intro ⟨a, b, hs, ks, hmid, hgs, first, second⟩
    obtain ⟨rfl, rfl, hat⟩ := matches_boundary.mp first
    rw [List.append_nil] at hgs second
    rw [hmid, hgs]
    exact ⟨hat, second⟩
  · intro ⟨hat, second⟩
    refine ⟨[], mid, [], gs, rfl, (List.append_nil gs).symm, .boundary hat, ?_⟩
    rwa [List.append_nil]

/-- What sets no group comes first. -/
theorem matches_seq_of_silent {P : List Char → Prop}
    (hr : ∀ {pre mid post gs}, Matches r pre mid post gs ↔ P mid ∧ gs = []) :
    Matches (.seq r s) pre mid post gs ↔
      ∃ a b, mid = a ++ b ∧ P a ∧ Matches s (pre ++ a) b post gs := by
  rw [matches_seq]
  constructor
  · intro ⟨a, b, hs, ks, hmid, hgs, first, second⟩
    obtain ⟨ha, rfl⟩ := hr.mp first
    rw [List.append_nil] at hgs
    exact ⟨a, b, hmid, ha, hgs ▸ second⟩
  · intro ⟨a, b, hmid, ha, second⟩
    exact ⟨a, b, [], gs, hmid, (List.append_nil gs).symm, hr.mpr ⟨ha, rfl⟩, second⟩

theorem matches_seq_word {w : String} : Matches (.seq (Pattern.word w) s) pre mid post gs ↔
    ∃ a b, mid = a ++ b ∧ Folds w.toList a ∧ Matches s (pre ++ a) b post gs :=
  matches_seq_of_silent matches_word

theorem matches_seq_plus_char {p : Char → Bool} :
    Matches (.seq (Pattern.plus (.char p)) s) pre mid post gs ↔
      ∃ a b, mid = a ++ b ∧ (a ≠ [] ∧ ∀ c ∈ a, p c = true) ∧ Matches s (pre ++ a) b post gs :=
  matches_seq_of_silent (matches_plus_char.trans and_assoc.symm)

/-- A group of its own comes first. -/
theorem matches_seq_group {n : Nat} {P : List Char → Prop}
    (hr : ∀ {pre mid post gs}, Matches r pre mid post gs ↔ P mid ∧ gs = []) :
    Matches (.seq (.group n r) s) pre mid post gs ↔
      ∃ a b ks, mid = a ++ b ∧ gs = ks ++ [(n, pre.length, pre.length + a.length)] ∧ P a ∧
        Matches s (pre ++ a) b post ks := by
  rw [matches_seq]
  constructor
  · intro ⟨a, b, hs, ks, hmid, hgs, first, second⟩
    obtain ⟨hs', rfl, hgroup⟩ := matches_group.mp first
    obtain ⟨ha, rfl⟩ := hr.mp hgroup
    exact ⟨a, b, ks, hmid, hgs, ha, second⟩
  · intro ⟨a, b, ks, hmid, hgs, ha, second⟩
    exact ⟨a, b, _, ks, hmid, hgs, matches_group.mpr ⟨[], rfl, hr.mpr ⟨ha, rfl⟩⟩, second⟩

end

/-! ## The matcher finds what matches -/

theorem getElem?_append_length (pre rest : List Char) :
    (pre ++ rest)[pre.length]? = rest.head? := by
  cases rest <;> simp

section

variable [Python]

/-- A matcher's way to run a pattern on a text. -/
abbrev Runner := List Char → Nat → Groups → Continuation → Option Match

theorem matchFrom_boundary (pre rest : List Char) (groups : Groups) (k : Continuation) :
    matchFrom (pre ++ rest) .boundary pre.length groups k =
      if AtBoundary pre rest then k pre.length groups else none := by
  have hbefore : (pre.length != 0 && (pre ++ rest)[pre.length - 1]?.any isWord) =
      pre.getLast?.any isWord := by
    rcases List.eq_nil_or_concat pre with rfl | ⟨init, c, rfl⟩ <;> simp
  simp only [matchFrom, hbefore, getElem?_append_length]
  exact if_congr bne_iff_ne rfl rfl

/-- A result of the matcher comes from a match. -/
def FindsMatches (r : Pattern) (run : Runner) : Prop :=
  ∀ pre rest groups k m, run (pre ++ rest) pre.length groups k = some m →
    ∃ mid post gs, rest = mid ++ post ∧ Matches r pre mid post gs ∧
      k (pre.length + mid.length) (gs ++ groups) = some m

theorem repeat_sound {r : Pattern} {body : Runner} (greedy : Bool) (hbody : FindsMatches r body)
    (fuel : Nat) : FindsMatches (.star greedy r) fun text => repeat_ (body text) greedy fuel := by
  induction fuel with
  | zero => exact fun pre rest groups k m h => ⟨[], rest, [], rfl, .starNil, h⟩
  | succ fuel ih =>
      intro pre rest groups k m h
      have hstop : k pre.length groups = some m → ∃ mid post gs, rest = mid ++ post ∧
          Matches (.star greedy r) pre mid post gs ∧
            k (pre.length + mid.length) (gs ++ groups) = some m :=
        fun hk => ⟨[], rest, [], rfl, .starNil, hk⟩
      have hmore : body (pre ++ rest) pre.length groups (fun pos' groups' =>
          if pre.length < pos' then repeat_ (body (pre ++ rest)) greedy fuel pos' groups' k
          else none) = some m → ∃ mid post gs, rest = mid ++ post ∧
          Matches (.star greedy r) pre mid post gs ∧
            k (pre.length + mid.length) (gs ++ groups) = some m := by
        intro hround
        obtain ⟨a, post, gs, rfl, hfirst, hnext⟩ := hbody pre rest groups _ m hround
        have hlt : pre.length < pre.length + a.length := by
          by_contra hle
          simp [hle] at hnext
        rw [if_pos hlt, ← List.length_append, ← List.append_assoc] at hnext
        obtain ⟨b, post, hs, rfl, hrest, hk⟩ := ih (pre ++ a) post _ k m hnext
        have hne : a ≠ [] := by
          rintro rfl
          simp at hlt
        refine ⟨a ++ b, post, hs ++ gs, by simp, .starStep hne hfirst hrest, ?_⟩
        simpa [Nat.add_assoc] using hk
      cases greedy with
      | true =>
          simp only [repeat_, if_true, Option.orElse_eq_or, Option.or_eq_some_iff] at h
          exact h.elim hmore fun h => hstop h.2
      | false =>
          simp only [repeat_, Bool.false_eq_true, if_false, Option.orElse_eq_or,
            Option.or_eq_some_iff] at h
          exact h.elim hstop fun h => hmore h.2

/-- What the matcher finds, the pattern matches. -/
theorem matchFrom_sound (r : Pattern) : FindsMatches r fun text => matchFrom text r := by
  induction r with
  | empty => exact fun pre rest groups k m h => ⟨[], rest, [], rfl, .empty, h⟩
  | char p =>
      intro pre rest groups k m h
      simp only [matchFrom, getElem?_append_length] at h
      cases rest with
      | nil => simp at h
      | cons c rest =>
          by_cases hc : p c = true
          · exact ⟨[c], rest, [], rfl, .char hc, by simpa [hc] using h⟩
          · simp [hc] at h
  | seq r s ihr ihs =>
      intro pre rest groups k m h
      obtain ⟨a, post, gs, rfl, hfirst, hnext⟩ := ihr pre rest groups _ m h
      rw [← List.length_append, ← List.append_assoc] at hnext
      obtain ⟨b, post, hs, rfl, hsecond, hk⟩ := ihs (pre ++ a) post _ k m hnext
      refine ⟨a ++ b, post, hs ++ gs, by simp, .seq hfirst hsecond, ?_⟩
      simpa [Nat.add_assoc] using hk
  | alt r s ihr ihs =>
      intro pre rest groups k m h
      simp only [matchFrom, Option.orElse_eq_or, Option.or_eq_some_iff] at h
      rcases h with h | ⟨-, h⟩
      · obtain ⟨mid, post, gs, hrest, hmatch, hk⟩ := ihr pre rest groups k m h
        exact ⟨mid, post, gs, hrest, .altLeft hmatch, hk⟩
      · obtain ⟨mid, post, gs, hrest, hmatch, hk⟩ := ihs pre rest groups k m h
        exact ⟨mid, post, gs, hrest, .altRight hmatch, hk⟩
  | star greedy r ih =>
      intro pre rest groups k m h
      exact repeat_sound greedy ih _ pre rest groups k m h
  | group n r ih =>
      intro pre rest groups k m h
      obtain ⟨mid, post, gs, hrest, hmatch, hk⟩ := ih pre rest groups _ m h
      exact ⟨mid, post, _, hrest, .group hmatch, hk⟩
  | boundary =>
      intro pre rest groups k m h
      replace h := (matchFrom_boundary pre rest groups k).symm.trans h
      by_cases hat : AtBoundary pre rest
      · rw [if_pos hat] at h
        exact ⟨[], rest, [], rfl, .boundary hat, h⟩
      · rw [if_neg hat] at h
        cases h
  | end_ =>
      intro pre rest groups k m h
      simp only [matchFrom, getElem?_append_length] at h
      by_cases hend : rest = [] ∨ rest = ['\n']
      · refine ⟨[], rest, [], rfl, .end_ hend, ?_⟩
        rcases hend with rfl | rfl <;> simpa using h
      · match rest with
        | [] => simp at hend
        | [c] =>
            have hc : c ≠ '\n' := by simpa using hend
            simp [hc] at h
        | _ :: _ :: _ => simp at h

/-- The matcher succeeds where the pattern matches and the rest succeeds. -/
def MissesNothing (r : Pattern) (run : Runner) : Prop :=
  ∀ pre mid post gs groups k, Matches r pre mid post gs →
    (∀ groups', (k (pre.length + mid.length) groups').isSome) →
    (run (pre ++ (mid ++ post)) pre.length groups k).isSome

theorem repeat_complete {r : Pattern} {text : List Char}
    {body : Nat → Groups → Continuation → Option Match} {greedy : Bool}
    (hbody : ∀ pre mid post gs groups k, text = pre ++ (mid ++ post) →
      Matches r pre mid post gs → (∀ groups', (k (pre.length + mid.length) groups').isSome) →
      (body pre.length groups k).isSome)
    {pre mid post : List Char} {gs : Groups} (h : Matches (.star greedy r) pre mid post gs)
    (htext : text = pre ++ (mid ++ post)) {fuel : Nat} (hfuel : mid.length ≤ fuel)
    {groups : Groups} {k : Continuation}
    (hk : ∀ groups', (k (pre.length + mid.length) groups').isSome) :
    (repeat_ body greedy fuel pre.length groups k).isSome := by
  generalize hr : Pattern.star greedy r = star at h
  induction h generalizing fuel groups with
  | starNil =>
      have hstop : (k _ groups).isSome := hk groups
      cases fuel with
      | zero => exact hstop
      | succ fuel => cases greedy <;> simp_all [repeat_]
  | @starStep _ _ pre a b post _ _ hne first rest _ ih =>
      cases hr
      cases fuel with
      | zero => simp_all
      | succ fuel =>
          have hlength : 0 < a.length := List.length_pos_iff.mpr hne
          have hlt : pre.length < pre.length + a.length := by omega
          have hround : (body pre.length groups fun pos' groups' =>
              if pre.length < pos' then repeat_ body greedy fuel pos' groups' k
              else none).isSome := by
            refine hbody pre a (b ++ post) _ groups _ (by simpa using htext) first
              fun groups' => ?_
            rw [if_pos hlt, ← List.length_append]
            refine ih (by simpa using htext) ?_ (fun groups' => ?_) rfl
            · simp at hfuel
              omega
            · simpa [Nat.add_assoc] using hk groups'
          cases greedy with
          | true => simp [repeat_, hround]
          | false => simp [repeat_, hround]
  | _ => cases hr

/-- Where the pattern matches, the matcher finds something. -/
theorem matchFrom_complete (r : Pattern) : MissesNothing r fun text => matchFrom text r := by
  induction r with
  | empty =>
      intro pre mid post gs groups k h hk
      obtain ⟨rfl, rfl⟩ := matches_empty.mp h
      exact hk groups
  | char p =>
      intro pre mid post gs groups k h hk
      obtain ⟨⟨c, rfl, hc⟩, rfl⟩ := matches_char.mp h
      have hk' := hk groups
      simp only [matchFrom, getElem?_append_length]
      simpa [hc] using hk'
  | seq r s ihr ihs =>
      intro pre mid post gs groups k h hk
      obtain ⟨a, b, _, _, rfl, rfl, hfirst, hsecond⟩ := matches_seq.mp h
      rw [List.append_assoc]
      refine ihr pre a (b ++ post) _ groups _ hfirst fun groups' => ?_
      have hs := ihs (pre ++ a) b post _ groups' k hsecond fun groups'' => by
        simpa [Nat.add_assoc] using hk groups''
      simpa using hs
  | alt r s ihr ihs =>
      intro pre mid post gs groups k h hk
      simp only [matchFrom]
      rcases matches_alt.mp h with h | h
      · have hr := ihr pre mid post gs groups k h hk
        simp [hr]
      · have hs := ihs pre mid post gs groups k h hk
        simp [hs]
  | star greedy r ih =>
      intro pre mid post gs groups k h hk
      have hfuel : mid.length ≤ (pre ++ (mid ++ post)).length + 1 := by
        simp
        omega
      refine repeat_complete ?_ h rfl hfuel hk
      rintro pre' mid' post' gs' groups' k' htext hmatch hk'
      simp only [htext]
      exact ih pre' mid' post' gs' groups' k' hmatch hk'
  | group n r ih =>
      intro pre mid post gs groups k h hk
      obtain ⟨hs, rfl, hmatch⟩ := matches_group.mp h
      exact ih pre mid post hs groups _ hmatch fun groups' => hk _
  | boundary =>
      intro pre mid post gs groups k h hk
      obtain ⟨rfl, rfl, hat⟩ := matches_boundary.mp h
      have hrun := matchFrom_boundary pre post groups k
      rw [if_pos hat] at hrun
      simpa [hrun] using hk groups
  | end_ =>
      intro pre mid post gs groups k h hk
      cases h with
      | end_ hend =>
          have hk' := hk groups
          rcases hend with rfl | rfl <;> simpa [matchFrom] using hk'

/-! ## `re.match`, `re.search`, `re.finditer` -/

variable {r : Pattern}

theorem matchAt_sound {pre rest : List Char} {m : Match}
    (h : matchAt r (pre ++ rest) pre.length = some m) :
    ∃ mid post gs, rest = mid ++ post ∧ Matches r pre mid post gs ∧
      m = ⟨pre.length, pre.length + mid.length, gs⟩ := by
  obtain ⟨mid, post, gs, hrest, hmatch, hm⟩ := matchFrom_sound r pre rest [] _ m h
  have heq : m = ⟨pre.length, pre.length + mid.length, gs⟩ := by simpa using hm.symm
  exact ⟨mid, post, gs, hrest, hmatch, heq⟩

theorem matchAt_isSome {pre mid post : List Char} {gs : Groups} (h : Matches r pre mid post gs) :
    (matchAt r (pre ++ (mid ++ post)) pre.length).isSome :=
  matchFrom_complete r pre mid post gs [] _ h fun _ => rfl

theorem matchAt_eq_none {pre rest : List Char} :
    matchAt r (pre ++ rest) pre.length = none ↔
      ∀ mid post gs, rest = mid ++ post → ¬ Matches r pre mid post gs := by
  constructor
  · rintro h mid post gs rfl hmatch
    have hsome := matchAt_isSome hmatch
    simp [h] at hsome
  · intro h
    cases hm : matchAt r (pre ++ rest) pre.length with
    | none => rfl
    | some m =>
        obtain ⟨mid, post, gs, hrest, hmatch, -⟩ := matchAt_sound hm
        exact absurd hmatch (h mid post gs hrest)

/-- A search finds what the matcher does at some position. -/
theorem exists_matchAt_of_search {text : List Char} {m : Match} (h : search r text = some m) :
    ∃ pre rest, text = pre ++ rest ∧ matchAt r (pre ++ rest) pre.length = some m := by
  obtain ⟨pos, hpos, hm⟩ := List.exists_of_findSome?_eq_some h
  have hle : pos ≤ text.length := by
    have := List.mem_range'_1.mp hpos
    omega
  have hlength : (text.take pos).length = pos := by simp [hle]
  refine ⟨text.take pos, text.drop pos, (List.take_append_drop pos text).symm, ?_⟩
  rw [List.take_append_drop, hlength]
  exact hm

/-- What a search finds is a match. -/
theorem search_sound {text : List Char} {m : Match} (h : search r text = some m) :
    ∃ pre mid post gs, text = pre ++ (mid ++ post) ∧ Matches r pre mid post gs ∧
      m = ⟨pre.length, pre.length + mid.length, gs⟩ := by
  obtain ⟨pre, rest, rfl, hat⟩ := exists_matchAt_of_search h
  obtain ⟨mid, post, gs, rfl, hmatch, heq⟩ := matchAt_sound hat
  exact ⟨pre, mid, post, gs, rfl, hmatch, heq⟩

theorem search_isSome_iff {text : List Char} :
    (search r text).isSome ↔
      ∃ pre mid post gs, text = pre ++ (mid ++ post) ∧ Matches r pre mid post gs := by
  constructor
  · intro h
    obtain ⟨m, hm⟩ := Option.isSome_iff_exists.mp h
    obtain ⟨pre, mid, post, gs, htext, hmatch, -⟩ := search_sound hm
    exact ⟨pre, mid, post, gs, htext, hmatch⟩
  · rintro ⟨pre, mid, post, gs, rfl, hmatch⟩
    have hlength : pre.length ≤ (pre ++ (mid ++ post)).length := by simp
    have hpos : pre.length ∈ List.range' 0 ((pre ++ (mid ++ post)).length + 1 - 0) := by
      rw [List.mem_range'_1]
      omega
    rw [search, searchFrom, List.findSome?_isSome_iff]
    exact ⟨pre.length, hpos, matchAt_isSome hmatch⟩

/-! ## From match to match -/

theorem searchFrom_cons {text : List Char} {pos : Nat} (hpos : pos ≤ text.length) :
    searchFrom r text pos = (matchAt r text pos).or (searchFrom r text (pos + 1)) := by
  have hlength : text.length + 1 - pos = text.length + 1 - (pos + 1) + 1 := by omega
  rw [searchFrom, hlength, List.range'_succ, List.findSome?_cons]
  cases h : matchAt r text pos <;> simp [searchFrom]

/-- A search goes forward, and stays in the text. -/
theorem searchFrom_bounds {text : List Char} {pos : Nat} {m : Match}
    (h : searchFrom r text pos = some m) :
    pos ≤ m.start ∧ m.start ≤ m.stop ∧ m.stop ≤ text.length := by
  obtain ⟨start, hmem, hm⟩ := List.exists_of_findSome?_eq_some h
  have hrange := List.mem_range'_1.mp hmem
  have hlength : (text.take start).length = start := by simp; omega
  have hat : matchAt r (text.take start ++ text.drop start) (text.take start).length = some m := by
    rw [List.take_append_drop, hlength]
    exact hm
  obtain ⟨mid, post, gs, hrest, -, rfl⟩ := matchAt_sound hat
  have hdrop := congrArg List.length hrest
  simp at hdrop ⊢
  omega

theorem searchFrom_of_length_lt {text : List Char} {pos : Nat} (h : text.length < pos) :
    searchFrom r text pos = none := by
  have hlength : text.length + 1 - pos = 0 := by omega
  simp [searchFrom, hlength]

/-- More fuel than positions changes nothing. -/
theorem matchesFrom_fuel {text : List Char} {fuel fuel' pos : Nat}
    (h : text.length + 1 - pos ≤ fuel) (h' : text.length + 1 - pos ≤ fuel') :
    matchesFrom r text fuel pos = matchesFrom r text fuel' pos := by
  induction fuel generalizing fuel' pos with
  | zero =>
      have hnone : searchFrom r text pos = none := searchFrom_of_length_lt (by omega)
      cases fuel' <;> simp [matchesFrom, hnone]
  | succ fuel ih =>
      cases fuel' with
      | zero =>
          have hnone : searchFrom r text pos = none := searchFrom_of_length_lt (by omega)
          simp [matchesFrom, hnone]
      | succ fuel' =>
          cases hsearch : searchFrom r text pos with
          | none => simp [matchesFrom, hsearch]
          | some m =>
              have hbounds := searchFrom_bounds hsearch
              simp only [matchesFrom, hsearch]
              congr 1
              apply ih <;> split <;> omega

/-- `re.finditer` on what is left of a text. -/
def findRest (r : Pattern) (pre rest : List Char) : List Match :=
  matchesFrom r (pre ++ rest) (rest.length + 1) pre.length

theorem findRest_nil {pre : List Char} (h : matchAt r (pre ++ []) pre.length = none) :
    findRest r pre [] = [] := by
  have hnone : searchFrom r (pre ++ []) (pre.length + 1) = none :=
    searchFrom_of_length_lt (by simp)
  have hsearch : searchFrom r (pre ++ []) pre.length = none := by
    rw [searchFrom_cons (by simp), h, hnone]
    rfl
  simp only [findRest, matchesFrom, hsearch]

theorem findRest_skip {pre rest : List Char} {c : Char}
    (h : matchAt r (pre ++ c :: rest) pre.length = none) :
    findRest r pre (c :: rest) = findRest r (pre ++ [c]) rest := by
  have hsearch : searchFrom r (pre ++ c :: rest) pre.length =
      searchFrom r (pre ++ c :: rest) (pre.length + 1) := by
    rw [searchFrom_cons (by simp), h]
    rfl
  have htext : pre ++ c :: rest = pre ++ [c] ++ rest := by simp
  have hrest : findRest r (pre ++ [c]) rest =
      matchesFrom r (pre ++ c :: rest) ((c :: rest).length + 1) (pre.length + 1) := by
    rw [findRest, ← htext, List.length_append, List.length_singleton]
    exact matchesFrom_fuel (by simp) (by simp)
  rw [hrest, findRest, matchesFrom, matchesFrom, hsearch]

theorem findRest_take {pre mid post : List Char} {gs : Groups} (hne : mid ≠ [])
    (h : matchAt r (pre ++ (mid ++ post)) pre.length =
      some ⟨pre.length, pre.length + mid.length, gs⟩) :
    findRest r pre (mid ++ post) =
      ⟨pre.length, pre.length + mid.length, gs⟩ :: findRest r (pre ++ mid) post := by
  have hlength : 0 < mid.length := List.length_pos_iff.mpr hne
  have hsearch : searchFrom r (pre ++ (mid ++ post)) pre.length =
      some ⟨pre.length, pre.length + mid.length, gs⟩ := by
    rw [searchFrom_cons (by simp), h]
    rfl
  have hnext : pre.length + mid.length ≠ pre.length := by omega
  have hrest : findRest r (pre ++ mid) post =
      matchesFrom r (pre ++ (mid ++ post)) (mid ++ post).length (pre.length + mid.length) := by
    rw [findRest, List.append_assoc, List.length_append]
    refine matchesFrom_fuel ?_ ?_ <;> simp <;> omega
  rw [hrest, findRest, matchesFrom]
  simp only [hsearch, if_neg hnext]

/-- No match begins before what is left. -/
theorem start_ge_of_mem_findRest {pre rest : List Char} {m : Match}
    (h : m ∈ findRest r pre rest) : pre.length ≤ m.start := by
  have hfrom : ∀ fuel pos, m ∈ matchesFrom r (pre ++ rest) fuel pos → pos ≤ m.start := by
    intro fuel
    induction fuel with
    | zero => simp [matchesFrom]
    | succ fuel ih =>
        intro pos hmem
        cases hsearch : searchFrom r (pre ++ rest) pos with
        | none => simp [matchesFrom, hsearch] at hmem
        | some first =>
            have hbounds := searchFrom_bounds hsearch
            simp only [matchesFrom, hsearch, List.mem_cons] at hmem
            rcases hmem with rfl | hmem
            · omega
            · have hlater := ih _ hmem
              split at hlater <;> omega
  exact hfrom _ _ h

end

/-- `match.group(0)` of a match in the middle of a text. -/
theorem Match.whole_mk (pre mid post : List Char) (gs : Groups) :
    Match.whole ⟨pre.length, pre.length + mid.length, gs⟩ (pre ++ (mid ++ post)) = mid := by
  simp [Match.whole, slice]

/-! ## `re.sub` -/

/-- The text from a position on, with the given matches replaced. -/
def subFrom (text : List Char) (replacement : Match → List Char) : Nat → List Match → List Char
  | pos, [] => text.drop pos
  | pos, m :: ms =>
      slice text pos m.start ++ (replacement m ++ subFrom text replacement m.stop ms)

section

variable [Python]

/-- `re.sub` -/
def sub (r : Pattern) (replacement : Match → List Char) (text : List Char) : List Char :=
  subFrom text replacement 0 (findIter r text)

/-- `re.sub` with `count=1`, for a replacement that may raise. -/
def subOnce (r : Pattern) (replacement : Match → Option (List Char)) (text : List Char) :
    Option (List Char) :=
  match search r text with
  | none => some text
  | some m => (replacement m).map fun new => text.take m.start ++ (new ++ text.drop m.stop)

/-- `re.sub` on what is left of a text. -/
def subRest (r : Pattern) (replacement : Match → List Char) (pre rest : List Char) : List Char :=
  subFrom (pre ++ rest) replacement pre.length (findRest r pre rest)

variable {r : Pattern} {replacement : Match → List Char}

theorem subRest_nil {pre : List Char} (h : matchAt r (pre ++ []) pre.length = none) :
    subRest r replacement pre [] = [] := by
  rw [subRest, findRest_nil h]
  simp [subFrom]

theorem subRest_skip {pre rest : List Char} {c : Char}
    (h : matchAt r (pre ++ c :: rest) pre.length = none) :
    subRest r replacement pre (c :: rest) = c :: subRest r replacement (pre ++ [c]) rest := by
  have htext : pre ++ [c] ++ rest = pre ++ c :: rest := by simp
  rw [subRest, subRest, findRest_skip h, htext, List.length_append, List.length_singleton]
  cases hfind : findRest r (pre ++ [c]) rest with
  | nil => simp [subFrom]
  | cons m ms =>
      have hstart : (pre ++ [c]).length ≤ m.start :=
        start_ge_of_mem_findRest (hfind ▸ List.mem_cons_self)
      have hlt : m.start - pre.length = m.start - (pre.length + 1) + 1 := by
        simp at hstart
        omega
      have hslice : slice (pre ++ c :: rest) pre.length m.start =
          c :: slice (pre ++ c :: rest) (pre.length + 1) m.start := by
        have hdrop : (pre ++ c :: rest).drop (pre.length + 1) = rest := by
          rw [← htext, ← List.length_singleton (a := c), ← List.length_append]
          exact List.drop_left
        rw [slice, slice, hlt, hdrop, List.drop_left, List.take_succ_cons]
      simp [subFrom, hslice]

theorem subRest_take {pre mid post : List Char} {gs : Groups} (hne : mid ≠ [])
    (h : matchAt r (pre ++ (mid ++ post)) pre.length =
      some ⟨pre.length, pre.length + mid.length, gs⟩) :
    subRest r replacement pre (mid ++ post) =
      replacement ⟨pre.length, pre.length + mid.length, gs⟩ ++
        subRest r replacement (pre ++ mid) post := by
  rw [subRest, findRest_take hne h, subRest]
  simp [subFrom, slice]

end

end DbGateway.Re
