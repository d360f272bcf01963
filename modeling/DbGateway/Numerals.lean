import Mathlib.Data.List.TakeWhile

/-!
# DbGateway.Numerals

Numbers in a text, over any alphabet with digits, a comma and a point.

A token is a run of digits and commas that begins with a digit, and the digits
after a point that follows it.  In a text made of numbers with something between
them, a point alone between two numbers makes the first group of the second one
the fraction of the first (`plainTokens_text`).
-/

namespace DbGateway.Numerals

/-- What numbers are written with. -/
structure Alphabet (α : Type*) where
  digit : α → Bool
  comma : α
  point : α
  digit_comma : digit comma = false
  digit_point : digit point = false
  point_ne_comma : point ≠ comma

/-- A run of digits and commas, and its fraction. -/
structure Token (α : Type*) where
  whole : List α
  fraction : List α

section

variable {α : Type*} [DecidableEq α] (A : Alphabet α)

/-- A digit or a comma. -/
def Alphabet.numeral (c : α) : Bool := A.digit c || c = A.comma

/-! ## Tokens -/

/-- The fraction a text begins with, and what follows it. -/
def fractionOf : List α → List α × List α
  | [] => ([], [])
  | c :: cs =>
      if c = A.point ∧ cs.takeWhile A.digit ≠ [] then (cs.takeWhile A.digit, cs.dropWhile A.digit)
      else ([], c :: cs)

theorem length_fractionOf_le (text : List α) : (fractionOf A text).2.length ≤ text.length := by
  cases text with
  | nil => exact Nat.le_refl _
  | cons c cs =>
      rw [fractionOf]
      split
      · exact Nat.le_succ_of_le (List.dropWhile_sublist _).length_le
      · exact Nat.le_refl _

/-- The tokens of a text, from left to right. -/
def findTokens : List α → List (Token α)
  | [] => []
  | c :: cs =>
      if A.digit c then
        let found := fractionOf A (cs.dropWhile A.numeral)
        ⟨c :: cs.takeWhile A.numeral, found.1⟩ :: findTokens found.2
      else findTokens cs
termination_by text => text.length
decreasing_by
  · have hfraction := length_fractionOf_le A (cs.dropWhile A.numeral)
    have hdrop := (List.dropWhile_sublist A.numeral (l := cs)).length_le
    rw [List.length_cons]
    omega
  · exact Nat.lt_succ_self _

variable {A}

theorem numeral_of_digit {c : α} (h : A.digit c = true) : A.numeral c = true := by
  rw [Alphabet.numeral, h, Bool.true_or]

theorem digit_of_numeral {c : α} (h : A.numeral c = false) : A.digit c = false := by
  rw [Alphabet.numeral, Bool.or_eq_false_iff] at h
  exact h.1

theorem findTokens_skip {sep : List α} (hsep : ∀ c ∈ sep, A.digit c = false) (rest : List α) :
    findTokens A (sep ++ rest) = findTokens A rest := by
  induction sep with
  | nil => rfl
  | cons c sep ih =>
      have hc := hsep c List.mem_cons_self
      rw [List.cons_append, findTokens, hc, if_neg Bool.false_ne_true]
      exact ih fun d hd => hsep d (List.mem_cons_of_mem _ hd)

theorem findTokens_plain {text : List α} (h : ∀ c ∈ text, A.digit c = false) :
    findTokens A text = [] := by
  have hskip := findTokens_skip h []
  rwa [List.append_nil, findTokens] at hskip

/-- A token goes on for as long as there are digits and commas. -/
theorem findTokens_run {c : α} {cs rest : List α} (hc : A.digit c = true)
    (hcs : ∀ d ∈ cs, A.numeral d = true) (hrest : ∀ d ∈ rest.head?, A.numeral d = false) :
    findTokens A (c :: cs ++ rest) =
      ⟨c :: cs, (fractionOf A rest).1⟩ :: findTokens A (fractionOf A rest).2 := by
  have htake : rest.takeWhile A.numeral = [] ∧ rest.dropWhile A.numeral = rest := by
    cases rest with
    | nil => exact ⟨rfl, rfl⟩
    | cons d rest =>
        have hd := hrest d rfl
        rw [List.takeWhile_cons, List.dropWhile_cons, hd]
        exact ⟨rfl, rfl⟩
  rw [List.cons_append, findTokens, if_pos hc]
  dsimp only
  rw [List.takeWhile_append_of_pos hcs, List.dropWhile_append_of_pos hcs, htake.1, htake.2,
    List.append_nil]

/-- A token begins with a digit. -/
theorem exists_of_mem_findTokens {text : List α} {token : Token α} (h : token ∈ findTokens A text) :
    ∃ c cs, token.whole = c :: cs ∧ A.digit c = true := by
  induction text using findTokens.induct A with
  | case1 =>
      rw [findTokens] at h
      contradiction
  | case2 c cs hc found ih =>
      rw [findTokens, if_pos hc] at h
      rcases List.mem_cons.mp h with rfl | hmem
      · exact ⟨c, _, rfl, hc⟩
      · exact ih hmem
  | case3 c cs hc ih =>
      rw [findTokens, if_neg hc] at h
      exact ih h

/-! ## Numbers with something between them -/

variable (A)

/-- A number and what stands before it: a group of digits, and further groups
after commas. -/
structure Piece where
  sep : List α
  group : List α
  groups : List (List α)
  sep_plain : ∀ c ∈ sep, A.numeral c = false
  group_digits : group ≠ [] ∧ ∀ c ∈ group, A.digit c = true
  groups_digits : ∀ g ∈ groups, g ≠ [] ∧ ∀ c ∈ g, A.digit c = true

variable {A} in
theorem Piece.digits (self : Piece A) :
    ∀ g ∈ self.group :: self.groups, g ≠ [] ∧ ∀ c ∈ g, A.digit c = true := by
  intro g hg
  rcases List.mem_cons.mp hg with rfl | hg
  · exact self.group_digits
  · exact self.groups_digits g hg

/-- The groups with commas between them. -/
def runText (group : List α) (groups : List (List α)) : List α :=
  group ++ groups.flatMap fun g => A.comma :: g

/-- How much of a number a token holds: all of it, or what follows its first
group. -/
inductive Reading (β : Type*) where
  | whole (number : β)
  | rest (number : β)

variable {A} {β : Type*} (piece : β → Piece A)

/-- The groups that are read. -/
def Reading.read : Reading β → List (List α)
  | whole number => (piece number).group :: (piece number).groups
  | rest number => (piece number).groups

/-- The tokens without a fraction.  A number after a point alone makes the one
before a decimal; its own first group is the fraction. -/
def readings : Option (Reading β) → List β → List (Reading β)
  | current, [] => current.toList
  | none, number :: numbers => readings (some (.whole number)) numbers
  | some current, number :: numbers =>
      if (piece number).sep = [A.point] then
        if (piece number).groups = [] then readings none numbers
        else readings (some (.rest number)) numbers
      else current :: readings (some (.whole number)) numbers

/-- A token holds something. -/
theorem read_ne_nil_of_mem {current : Option (Reading β)} {numbers : List β}
    (hcurrent : ∀ r ∈ current, r.read piece ≠ []) {r : Reading β}
    (hr : r ∈ readings piece current numbers) : r.read piece ≠ [] := by
  have hwhole : ∀ number : β, (Reading.whole number).read piece ≠ [] :=
    fun _ => List.cons_ne_nil _ _
  induction numbers generalizing current with
  | nil => exact hcurrent r (Option.mem_toList.mp hr)
  | cons number numbers ih =>
      cases current with
      | none =>
          rw [readings] at hr
          exact ih (fun _ h => Option.some_inj.mp h ▸ hwhole number) hr
      | some current =>
          rw [readings] at hr
          split at hr
          · split at hr
            case isTrue => exact ih (fun r h => absurd h (Option.not_mem_none r)) hr
            case isFalse hgroups =>
              have hrest : (Reading.rest number).read piece ≠ [] := hgroups
              exact ih (fun _ h => Option.some_inj.mp h ▸ hrest) hr
          · rcases List.mem_cons.mp hr with rfl | hr
            · exact hcurrent r rfl
            · exact ih (fun _ h => Option.some_inj.mp h ▸ hwhole number) hr

/-- The numbers, each after what stands before it. -/
def joinPieces (numbers : List β) : List α :=
  numbers.flatMap fun number =>
    (piece number).sep ++ runText A (piece number).group (piece number).groups

/-- The tokens without a fraction, with the characters of `keep`. -/
def plainTokens (A : Alphabet α) (keep : α → Bool) (text : List α) : List (List α) :=
  ((findTokens A text).filter fun t => t.fraction.isEmpty).map fun t => t.whole.filter keep

omit [DecidableEq α] in
theorem runText_filter {keep : α → Bool} (hkeep : keep A.comma = false) (group : List α)
    (groups : List (List α)) :
    (runText A group groups).filter keep = (group :: groups).flatten.filter keep := by
  rw [runText, List.flatten_cons, List.filter_append, List.filter_append]
  congr 1
  induction groups with
  | nil => rfl
  | cons g groups ih =>
      rw [List.flatMap_cons, List.flatten_cons, List.filter_append, List.filter_append, ih,
        List.filter_cons, if_neg (Bool.eq_false_iff.mp hkeep)]

theorem runText_numeral {group : List α} {groups : List (List α)}
    (h : ∀ g ∈ group :: groups, g ≠ [] ∧ ∀ c ∈ g, A.digit c = true) :
    ∀ c ∈ runText A group groups, A.numeral c = true := by
  intro c hc
  rcases List.mem_append.mp hc with hgroup | hgroups
  · exact numeral_of_digit ((h group List.mem_cons_self).2 c hgroup)
  · obtain ⟨g, hg, hmem⟩ := List.mem_flatMap.mp hgroups
    rcases List.mem_cons.mp hmem with rfl | hmem
    · rw [Alphabet.numeral, decide_eq_true rfl, Bool.or_true]
    · exact numeral_of_digit ((h g (List.mem_cons_of_mem _ hg)).2 c hmem)

/-- A number is the beginning of a token, whatever follows it. -/
theorem findTokens_runText {group rest : List α} {groups : List (List α)}
    (h : ∀ g ∈ group :: groups, g ≠ [] ∧ ∀ c ∈ g, A.digit c = true) :
    findTokens A (runText A group groups ++ rest) =
      ⟨runText A group groups ++ rest.takeWhile A.numeral,
          (fractionOf A (rest.dropWhile A.numeral)).1⟩ ::
        findTokens A (fractionOf A (rest.dropWhile A.numeral)).2 := by
  obtain ⟨c, cs, hrun⟩ : ∃ c cs, runText A group groups = c :: cs ∧ A.digit c = true := by
    obtain ⟨c, cs, rfl⟩ := List.exists_cons_of_ne_nil (h group List.mem_cons_self).1
    exact ⟨c, _, rfl, (h _ List.mem_cons_self).2 c List.mem_cons_self⟩
  have hnumeral := runText_numeral h
  rw [hrun.1] at hnumeral ⊢
  have hrest : ∀ d ∈ (rest.dropWhile A.numeral).head?, A.numeral d = false := by
    intro d hd
    have hstop := List.head?_dropWhile_not A.numeral rest
    rw [Option.mem_def.mp hd] at hstop
    simpa using hstop
  have hall : ∀ d ∈ cs ++ rest.takeWhile A.numeral, A.numeral d = true := by
    intro d hd
    rcases List.mem_append.mp hd with hcs | hmore
    · exact hnumeral d (List.mem_cons_of_mem _ hcs)
    · exact List.mem_takeWhile_imp hmore
  have htoken := findTokens_run hrun.2 hall hrest
  rwa [List.cons_append, List.append_assoc, List.takeWhile_append_dropWhile] at htoken

/-- A number is a token by itself, unless a fraction follows it. -/
theorem plainTokens_runText {keep : α → Bool} (hkeep : keep A.comma = false)
    {group rest : List α} {groups : List (List α)}
    (h : ∀ g ∈ group :: groups, g ≠ [] ∧ ∀ c ∈ g, A.digit c = true)
    (hcommas : ∀ c ∈ rest.takeWhile A.numeral, c = A.comma) :
    plainTokens A keep (runText A group groups ++ rest) =
      (if (fractionOf A (rest.dropWhile A.numeral)).1.isEmpty then
          [(group :: groups).flatten.filter keep] else []) ++
        plainTokens A keep (fractionOf A (rest.dropWhile A.numeral)).2 := by
  have hnone : (rest.takeWhile A.numeral).filter keep = [] := by
    rw [List.filter_eq_nil_iff]
    intro c hc
    rw [hcommas c hc, hkeep]
    exact Bool.false_ne_true
  rw [plainTokens, findTokens_runText h, List.filter_cons]
  split
  case isTrue =>
    rw [List.map_cons, List.filter_append, runText_filter hkeep, hnone, List.append_nil]
    rfl
  case isFalse => rfl

/-- Where no digit is next, a point begins no fraction. -/
theorem fractionOf_plain {rest : List α} (h : ∀ c ∈ rest.tail.head?, A.digit c = false) :
    fractionOf A rest = ([], rest) := by
  cases rest with
  | nil => rfl
  | cons c cs =>
      have hdigits : cs.takeWhile A.digit = [] := by
        cases cs with
        | nil => rfl
        | cons d cs => rw [List.takeWhile_cons, h d rfl, if_neg Bool.false_ne_true]
      rw [fractionOf, if_neg fun hc => hc.2 hdigits]

theorem fractionOf_of_ne {c : α} {rest : List α} (h : c ≠ A.point) :
    fractionOf A (c :: rest) = ([], c :: rest) := by
  rw [fractionOf, if_neg fun hc => h hc.1]

/-- The fraction after a point is the digits there. -/
theorem fractionOf_point {group rest : List α} (hne : group ≠ [])
    (hgroup : ∀ c ∈ group, A.digit c = true) (hrest : ∀ c ∈ rest.head?, A.digit c = false) :
    fractionOf A (A.point :: (group ++ rest)) = (group, rest) := by
  have hstop : rest.takeWhile A.digit = [] ∧ rest.dropWhile A.digit = rest := by
    cases rest with
    | nil => exact ⟨rfl, rfl⟩
    | cons c rest =>
        rw [List.takeWhile_cons, List.dropWhile_cons, hrest c rfl]
        exact ⟨rfl, rfl⟩
  have htake : (group ++ rest).takeWhile A.digit = group := by
    rw [List.takeWhile_append_of_pos hgroup, hstop.1, List.append_nil]
  rw [fractionOf, htake, if_pos ⟨rfl, hne⟩, List.dropWhile_append_of_pos hgroup, hstop.2]

/-- What stands before a number begins with no digit. -/
theorem head_joinPieces {numbers : List β} {tail : List α}
    (hsep : ∀ number ∈ numbers, (piece number).sep ≠ []) (htail : ∀ c ∈ tail, A.digit c = false) :
    ∀ c ∈ (joinPieces piece numbers ++ tail).head?, A.digit c = false := by
  intro c hc
  cases numbers with
  | nil => exact htail c (List.mem_of_mem_head? hc)
  | cons number numbers =>
      obtain ⟨d, sep, hd⟩ := List.exists_cons_of_ne_nil (hsep number List.mem_cons_self)
      rw [joinPieces, List.flatMap_cons, hd] at hc
      have hplain := (piece number).sep_plain d (hd ▸ List.mem_cons_self)
      exact Option.some_inj.mp hc ▸ digit_of_numeral hplain

/-- In a text of numbers with something between them, the tokens without a
fraction are the readings. -/
theorem plainTokens_join {keep : α → Bool} (hkeep : keep A.comma = false) {tail : List α}
    (htail : ∀ c ∈ tail, A.digit c = false) (numbers : List β)
    (hsep : ∀ number ∈ numbers, (piece number).sep ≠ []) :
    (∀ (current : Reading β) (group : List α) (groups : List (List α)),
      current.read piece = group :: groups →
      (∀ g ∈ group :: groups, g ≠ [] ∧ ∀ c ∈ g, A.digit c = true) →
      plainTokens A keep (runText A group groups ++ (joinPieces piece numbers ++ tail)) =
        (readings piece (some current) numbers).map fun r => (r.read piece).flatten.filter keep) ∧
    plainTokens A keep (joinPieces piece numbers ++ tail) =
      (readings piece none numbers).map fun r => (r.read piece).flatten.filter keep := by
  induction numbers with
  | nil =>
      have hnone : plainTokens A keep tail = [] := by
        rw [plainTokens, findTokens_plain htail]
        rfl
      refine ⟨fun current group groups hread hdigits => ?_, hnone⟩
      have hcommas : ∀ c ∈ tail.takeWhile A.numeral, c = A.comma := by
        intro c hc
        have hnumeral := List.mem_takeWhile_imp hc
        rw [Alphabet.numeral, htail c ((List.takeWhile_sublist _).subset hc), Bool.false_or,
          decide_eq_true_eq] at hnumeral
        exact hnumeral
      have hdrop : ∀ c ∈ tail.dropWhile A.numeral, A.digit c = false :=
        fun c hc => htail c ((List.dropWhile_sublist _).subset hc)
      have hfraction : fractionOf A (tail.dropWhile A.numeral) =
          ([], tail.dropWhile A.numeral) :=
        fractionOf_plain fun c hc => hdrop c (List.mem_of_mem_tail (List.mem_of_mem_head? hc))
      have hrest : plainTokens A keep (tail.dropWhile A.numeral) = [] := by
        rw [plainTokens, findTokens_plain hdrop]
        rfl
      rw [joinPieces, List.flatMap_nil, List.nil_append, plainTokens_runText hkeep hdigits hcommas,
        hfraction, hrest, ← hread]
      rfl
  | cons number numbers ih =>
      obtain ⟨ihrun, ihnone⟩ := ih fun n hn => hsep n (List.mem_cons_of_mem _ hn)
      have hpiece := (piece number).digits
      have hjoin : joinPieces piece (number :: numbers) ++ tail = (piece number).sep ++
          (runText A (piece number).group (piece number).groups ++
            (joinPieces piece numbers ++ tail)) := by
        rw [joinPieces, List.flatMap_cons, ← joinPieces, List.append_assoc, List.append_assoc]
      have hfresh : plainTokens A keep (joinPieces piece (number :: numbers) ++ tail) =
          (readings piece (some (.whole number)) numbers).map
            fun r => (r.read piece).flatten.filter keep := by
        rw [← ihrun (.whole number) _ _ rfl hpiece, hjoin, plainTokens, findTokens_skip]
        · rfl
        · exact fun c hc => digit_of_numeral ((piece number).sep_plain c hc)
      refine ⟨fun current group groups hread hdigits => ?_, hfresh⟩
      obtain ⟨c, sep, hc⟩ := List.exists_cons_of_ne_nil (hsep number List.mem_cons_self)
      have hplain : A.numeral c = false :=
        (piece number).sep_plain c (hc ▸ List.mem_cons_self)
      have htake : (joinPieces piece (number :: numbers) ++ tail).takeWhile A.numeral = [] := by
        rw [hjoin, hc, List.cons_append, List.takeWhile_cons, hplain, if_neg Bool.false_ne_true]
      have hdrop : (joinPieces piece (number :: numbers) ++ tail).dropWhile A.numeral =
          joinPieces piece (number :: numbers) ++ tail := by
        rw [hjoin, hc, List.cons_append, List.dropWhile_cons, hplain, if_neg Bool.false_ne_true]
      rw [plainTokens_runText hkeep hdigits (by rw [htake]; exact nofun), hdrop, readings]
      by_cases hpoint : (piece number).sep = [A.point]
      · -- the first group of the number is the fraction of the current one
        have hhead : ∀ d ∈ (((piece number).groups.flatMap fun g => A.comma :: g) ++
            (joinPieces piece numbers ++ tail)).head?, A.digit d = false := by
          intro d hd
          cases hgroups : (piece number).groups with
          | nil =>
              rw [hgroups] at hd
              exact head_joinPieces piece (fun n hn => hsep n (List.mem_cons_of_mem _ hn)) htail d hd
          | cons g gs =>
              rw [hgroups] at hd
              exact Option.some_inj.mp hd ▸ A.digit_comma
        have hfraction := fractionOf_point (piece number).group_digits.1
          (piece number).group_digits.2 hhead
        have hempty : (piece number).group.isEmpty = false :=
          List.isEmpty_eq_false_iff.mpr (piece number).group_digits.1
        rw [if_pos hpoint, hjoin, hpoint, List.singleton_append, runText, List.append_assoc,
          hfraction, hempty, if_neg Bool.false_ne_true, List.nil_append]
        cases hgroups : (piece number).groups with
        | nil =>
            rw [if_pos rfl]
            exact ihnone
        | cons g gs =>
            have hrest : (Reading.rest number).read piece = g :: gs := hgroups
            rw [if_neg (List.cons_ne_nil g gs), ← ihrun (.rest number) g gs hrest
              fun g' hg' => hpiece g' (hgroups ▸ List.mem_cons_of_mem _ hg')]
            have hplain : ∀ d ∈ [A.comma], A.digit d = false :=
              fun d hd => List.mem_singleton.mp hd ▸ A.digit_comma
            have hcomma := findTokens_skip hplain
              (runText A g gs ++ (joinPieces piece numbers ++ tail))
            rw [plainTokens, plainTokens, ← hcomma]
            rfl
      · -- the current number is a token by itself
        have hfraction : fractionOf A (joinPieces piece (number :: numbers) ++ tail) =
            ([], joinPieces piece (number :: numbers) ++ tail) := by
          rw [hjoin, hc, List.cons_append]
          by_cases hfirst : c = A.point
          · obtain ⟨d, sep', rfl⟩ : ∃ d sep', sep = d :: sep' := by
              refine List.exists_cons_of_ne_nil fun hnil => hpoint ?_
              rw [hc, hfirst, hnil]
            have hd : A.numeral d = false := (piece number).sep_plain d
              (hc ▸ List.mem_cons_of_mem _ List.mem_cons_self)
            exact fractionOf_plain fun d' hd' => Option.some_inj.mp hd' ▸ digit_of_numeral hd
          · exact fractionOf_of_ne hfirst
        rw [if_neg hpoint, hfraction, hfresh, List.map_cons, hread]
        rfl

/-- The same after a beginning without digits, with anything before the first
number. -/
theorem plainTokens_text {keep : α → Bool} (hkeep : keep A.comma = false) {head tail : List α}
    (hhead : ∀ c ∈ head, A.digit c = false) (htail : ∀ c ∈ tail, A.digit c = false)
    (numbers : List β) (hsep : ∀ number ∈ numbers.tail, (piece number).sep ≠ []) :
    plainTokens A keep (head ++ (joinPieces piece numbers ++ tail)) =
      (readings piece none numbers).map fun r => (r.read piece).flatten.filter keep := by
  have hskip : plainTokens A keep (head ++ (joinPieces piece numbers ++ tail)) =
      plainTokens A keep (joinPieces piece numbers ++ tail) := by
    rw [plainTokens, findTokens_skip hhead, plainTokens]
  rw [hskip]
  cases numbers with
  | nil => exact (plainTokens_join piece hkeep htail [] nofun).2
  | cons number numbers =>
      have hrun := (plainTokens_join piece hkeep htail numbers hsep).1 (.whole number) _ _ rfl
        (piece number).digits
      rw [readings, ← hrun, joinPieces, List.flatMap_cons, ← joinPieces, List.append_assoc,
        List.append_assoc, plainTokens, findTokens_skip]
      · rfl
      · exact fun c hc => digit_of_numeral ((piece number).sep_plain c hc)

end

end DbGateway.Numerals
