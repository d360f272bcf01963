import Mathlib.Data.List.Basic
import Mathlib.Data.List.Induction
import Mathlib.Tactic.Common

/-!
# DbGateway.Placeholder

Words of a text replaced all at once, and one after the other.

The words are slots: a name between an opening and a closing symbol that stand
in no name.  Two slots never overlap, so a text splits at every slot, and so do
the replacements.  Replacing one more word by its value does what replacing all
at once does exactly when the text so far has the slot as often as the text at
the beginning had, or the value is the slot (`replace_substitute_iff`).
-/

namespace DbGateway.Placeholder

variable {α : Type*} [DecidableEq α]

/-! ## Replacing -/

/-- Words, and what stands for them. -/
abbrev Rules (α : Type*) := List (List α × List α)

/-- Put the value of the first rule whose word stands here; of a word that was
found, `skip` symbols are still to be passed. -/
def substituteFrom (rules : Rules α) : Nat → List α → List α
  | _, [] => []
  | skip + 1, _ :: cs => substituteFrom rules skip cs
  | 0, c :: cs =>
      match rules.find? fun rule => rule.1 <+: c :: cs with
      | some rule => rule.2 ++ substituteFrom rules (rule.1.length - 1) cs
      | none => c :: substituteFrom rules 0 cs

/-- Every word of the rules by its value, in one pass. -/
def substitute (rules : Rules α) (cs : List α) : List α := substituteFrom rules 0 cs

/-- `text.replace(old, new)`, for an `old` that is not empty. -/
def replace (old new : List α) (cs : List α) : List α := substitute [(old, new)] cs

/-- How often a word stands in a text. -/
def occurrences (word : List α) : List α → Nat
  | [] => 0
  | c :: cs => (if word <+: c :: cs then 1 else 0) + occurrences word cs

theorem occurrences_drop_le (word : List α) (k : Nat) (cs : List α) :
    occurrences word (cs.drop k) ≤ occurrences word cs := by
  induction cs generalizing k with
  | nil => simp
  | cons c cs ih =>
      cases k with
      | zero => exact Nat.le_refl _
      | succ k => exact Nat.le_trans (ih k) (Nat.le_add_left _ _)

theorem substituteFrom_eq (rules : Rules α) (skip : Nat) (cs : List α) :
    substituteFrom rules skip cs = substitute rules (cs.drop skip) := by
  induction skip generalizing cs with
  | zero => rfl
  | succ skip ih =>
      cases cs with
      | nil => rfl
      | cons c cs => rw [substituteFrom, ih, List.drop_succ_cons]

/-- Without rules nothing is replaced. -/
theorem substitute_nil (cs : List α) : substitute [] cs = cs := by
  induction cs with
  | nil => rfl
  | cons c cs ih => exact congrArg (c :: ·) ih

/-! ## Slots -/

/-- An opening and a closing symbol. -/
structure Brackets (α : Type*) where
  opening : α
  closing : α
  ne : opening ≠ closing

/-- A name in which the brackets do not stand. -/
abbrev Name (b : Brackets α) := {name : List α // b.opening ∉ name ∧ b.closing ∉ name}

variable {b : Brackets α}

/-- A name between its brackets. -/
def slot (name : Name b) : List α := b.opening :: name.1 ++ [b.closing]

/-- Names and their values. -/
abbrev Values (b : Brackets α) := List (Name b × List α)

/-- The rules that fill slots. -/
def rules (values : Values b) : Rules α := values.map fun value => (slot value.1, value.2)

omit [DecidableEq α] in
theorem length_slot (name : Name b) : (slot name).length = name.1.length + 2 := by
  simp [slot]

omit [DecidableEq α] in
/-- Behind its first symbol, a slot has no opening symbol. -/
theorem opening_notMem (name : Name b) : b.opening ∉ name.1 ++ [b.closing] := by
  rw [List.mem_append, List.mem_singleton, not_or]
  exact ⟨name.2.1, b.ne⟩

omit [DecidableEq α] in
/-- A slot begins with its opening symbol. -/
theorem not_slot_begins (name : Name b) {a : α} (ha : a ≠ b.opening) (x : List α) :
    ¬ slot name <+: a :: x := by
  intro h
  exact ha (List.cons_prefix_cons.mp h).1.symm

omit [DecidableEq α] in
/-- A slot does not reach beyond an opening symbol. -/
theorem slot_prefix_append_iff (name : Name b) {a : α} {x z : List α} :
    slot name <+: a :: x ++ b.opening :: z ↔ slot name <+: a :: x := by
  refine ⟨fun h => ?_, fun h => h.trans (List.prefix_append _ _)⟩
  cases List.prefix_or_prefix_of_prefix h (List.prefix_append (a :: x) (b.opening :: z)) with
  | inl hshort => exact hshort
  | inr hlong =>
      obtain ⟨rest, hrest⟩ := hlong
      cases rest with
      | nil => exact ⟨[], by rw [← hrest, List.append_nil, List.append_nil]⟩
      | cons d rest =>
          -- the opening symbol would be inside the slot
          rw [← hrest, List.prefix_append_right_inj, List.cons_prefix_cons] at h
          have hslot : x ++ d :: rest = name.1 ++ [b.closing] := (List.cons.inj hrest).2
          have hmem : b.opening ∈ name.1 ++ [b.closing] := by
            rw [← hslot, h.1]
            simp
          exact absurd hmem (opening_notMem name)

omit [DecidableEq α] in
theorem prefix_closing_iff {c : α} {name name' z : List α} (h : c ∉ name) (h' : c ∉ name') :
    name ++ [c] <+: name' ++ c :: z ↔ name = name' := by
  induction name generalizing name' with
  | nil =>
      cases name' with
      | nil => simp
      | cons a name' =>
          rw [List.mem_cons, not_or] at h'
          simp [h'.1]
  | cons a name ih =>
      rw [List.mem_cons, not_or] at h
      cases name' with
      | nil => simp [Ne.symm h.1]
      | cons a' name' =>
          rw [List.mem_cons, not_or] at h'
          rw [List.cons_append, List.cons_append, List.cons_prefix_cons, ih h.2 h'.2,
            List.cons.injEq]

omit [DecidableEq α] in
/-- Two slots at one place are one. -/
theorem slot_prefix_slot_iff (name name' : Name b) (z : List α) :
    slot name <+: slot name' ++ z ↔ name = name' := by
  rw [slot, slot, List.cons_append, List.cons_append, List.cons_append, List.cons_prefix_cons,
    List.append_assoc, List.singleton_append, prefix_closing_iff name.2.2 name'.2.2,
    Subtype.ext_iff]
  exact and_iff_right rfl

/-! ## Splitting a text at a slot -/

theorem occurrences_append_opening (name : Name b) (x z : List α) :
    occurrences (slot name) (x ++ b.opening :: z) =
      occurrences (slot name) x + occurrences (slot name) (b.opening :: z) := by
  induction x with
  | nil => rw [List.nil_append, occurrences, Nat.zero_add]
  | cons a x ih =>
      rw [List.cons_append, occurrences, occurrences, ih, Nat.add_assoc, ← List.cons_append]
      simp only [slot_prefix_append_iff]

theorem occurrences_of_notMem (name : Name b) {x : List α} (hx : b.opening ∉ x) (z : List α) :
    occurrences (slot name) (x ++ z) = occurrences (slot name) z := by
  induction x with
  | nil => rfl
  | cons a x ih =>
      rw [List.mem_cons, not_or] at hx
      rw [List.cons_append, occurrences, ih hx.2,
        if_neg (not_slot_begins name (Ne.symm hx.1) _), Nat.zero_add]

theorem occurrences_append_slot (name name' : Name b) (x z : List α) :
    occurrences (slot name) (x ++ slot name' ++ z) =
      occurrences (slot name) x + (if name = name' then 1 else 0) +
        occurrences (slot name) z := by
  have hslot : slot name' ++ z = b.opening :: (name'.1 ++ [b.closing] ++ z) := rfl
  rw [List.append_assoc, hslot, occurrences_append_opening, occurrences,
    occurrences_of_notMem name (opening_notMem name'), ← hslot, Nat.add_assoc]
  simp only [slot_prefix_slot_iff]

theorem substitute_cons (rules : Rules α) (a : α) (cs : List α) :
    substitute rules (a :: cs) =
      match rules.find? fun rule => rule.1 <+: a :: cs with
      | some rule => rule.2 ++ substitute rules (cs.drop (rule.1.length - 1))
      | none => a :: substitute rules cs := by
  rw [substitute, substituteFrom]
  split
  · rw [substituteFrom_eq]
  · rfl

/-- A rule that finds nothing to begin with lets the first symbol pass. -/
theorem substitute_cons_of_none {rules : Rules α} {a : α} {cs : List α}
    (h : ∀ rule ∈ rules, ¬ rule.1 <+: a :: cs) :
    substitute rules (a :: cs) = a :: substitute rules cs := by
  have hnone : (rules.find? fun rule => rule.1 <+: a :: cs) = none := by
    rw [List.find?_eq_none]
    intro rule hrule
    simpa using h rule hrule
  rw [substitute_cons, hnone]

variable (values : Values b)

theorem substitute_of_notMem {x : List α} (hx : b.opening ∉ x) (z : List α) :
    substitute (rules values) (x ++ z) = x ++ substitute (rules values) z := by
  induction x with
  | nil => rfl
  | cons a x ih =>
      rw [List.mem_cons, not_or] at hx
      rw [List.cons_append, substitute_cons_of_none, ih hx.2, List.cons_append]
      intro rule hrule
      obtain ⟨value, -, rfl⟩ := List.mem_map.mp hrule
      exact not_slot_begins value.1 (Ne.symm hx.1) _

/-- A slot is filled with the value its name has. -/
theorem substitute_slot (name : Name b) (z : List α) :
    substitute (rules values) (slot name ++ z) =
      (values.lookup name).getD (slot name) ++ substitute (rules values) z := by
  have hfind : ((rules values).find? fun rule => rule.1 <+: slot name ++ z) =
      (values.lookup name).map fun value => (slot name, value) := by
    induction values with
    | nil => rfl
    | cons value values ih =>
        rw [rules, List.map_cons, List.find?_cons, List.lookup_cons, ← rules, ih]
        by_cases hname : value.1 = name
        · simp [hname]
        · have hfront : ¬ slot value.1 <+: slot name ++ z := by rwa [slot_prefix_slot_iff]
          have hbeq : (name == value.1) = false := beq_eq_false_iff_ne.mpr (Ne.symm hname)
          simp only [hfront, hbeq, decide_false]
  have hslot : slot name ++ z = b.opening :: (name.1 ++ [b.closing] ++ z) := rfl
  cases hvalue : values.lookup name with
  | none =>
      rw [hvalue] at hfind
      rw [hslot, substitute_cons, ← hslot, hfind]
      simp only [Option.map_none, Option.getD_none]
      rw [substitute_of_notMem values (opening_notMem name)]
      rfl
  | some value =>
      rw [hvalue] at hfind
      have hdrop : (name.1 ++ [b.closing] ++ z).drop ((slot name).length - 1) = z := by
        rw [length_slot, List.drop_left' (by simp)]
      rw [hslot, substitute_cons, ← hslot, hfind]
      simp only [Option.map_some, Option.getD_some, hdrop]

theorem substitute_append_opening (x z : List α) :
    substitute (rules values) (x ++ b.opening :: z) =
      substitute (rules values) x ++ substitute (rules values) (b.opening :: z) := by
  induction hlength : x.length using Nat.strongRecOn generalizing x with
  | _ n ih =>
      cases x with
      | nil => rfl
      | cons a x =>
          have hfind : ((rules values).find? fun rule => rule.1 <+: a :: x ++ b.opening :: z) =
              (rules values).find? fun rule => rule.1 <+: a :: x := by
            unfold rules
            simp only [List.find?_map, Function.comp_def, slot_prefix_append_iff]
          rw [List.cons_append] at hfind ⊢
          rw [substitute_cons, hfind, substitute_cons]
          cases hrule : (rules values).find? fun rule => rule.1 <+: a :: x with
          | none =>
              simp only
              rw [ih x.length (by rw [← hlength]; simp) x rfl, List.cons_append]
          | some rule =>
              simp only
              have hfront : rule.1 <+: a :: x := by simpa using List.find?_some hrule
              have hlt : rule.1.length - 1 ≤ x.length := by
                have := hfront.length_le
                simp at this
                omega
              rw [List.drop_append_of_le_length hlt,
                ih _ (by rw [← hlength, List.length_drop, List.length_cons]; omega) _ rfl, List.append_assoc]

/-- A text is filled piece by piece between slots. -/
theorem substitute_append_slot (name : Name b) (x z : List α) :
    substitute (rules values) (x ++ slot name ++ z) =
      substitute (rules values) x ++ (values.lookup name).getD (slot name) ++
        substitute (rules values) z := by
  have hslot : slot name ++ z = b.opening :: (name.1 ++ [b.closing] ++ z) := rfl
  rw [List.append_assoc, hslot, substitute_append_opening, ← hslot, substitute_slot,
    List.append_assoc]

/-! ## From slot to slot -/

/-- A text has a slot nowhere, or what precedes its first place does not. -/
theorem exists_split (name : Name b) (cs : List α) :
    occurrences (slot name) cs = 0 ∨
      ∃ x z, cs = x ++ slot name ++ z ∧ occurrences (slot name) x = 0 := by
  induction cs with
  | nil => exact .inl rfl
  | cons a cs ih =>
      by_cases hfront : slot name <+: a :: cs
      · obtain ⟨z, hz⟩ := hfront
        exact .inr ⟨[], z, hz.symm, rfl⟩
      · rw [occurrences, if_neg hfront, Nat.zero_add]
        cases ih with
        | inl hnone => exact .inl hnone
        | inr hsome =>
            obtain ⟨x, z, rfl, hx⟩ := hsome
            refine .inr ⟨a :: x, z, rfl, ?_⟩
            rw [occurrences, hx, if_neg]
            intro hslot
            exact hfront (hslot.trans ⟨slot name ++ z, by simp⟩)

/-- Induction from each place of a slot to the next. -/
theorem slot_induction (name : Name b) {motive : List α → Prop}
    (none : ∀ cs, occurrences (slot name) cs = 0 → motive cs)
    (next : ∀ x z, occurrences (slot name) x = 0 → motive z → motive (x ++ slot name ++ z))
    (cs : List α) : motive cs := by
  induction hlength : cs.length using Nat.strongRecOn generalizing cs with
  | _ n ih =>
      cases exists_split name cs with
      | inl hnone => exact none cs hnone
      | inr hsome =>
          obtain ⟨x, z, rfl, hx⟩ := hsome
          refine next x z hx (ih z.length ?_ z rfl)
          rw [← hlength]
          simp [length_slot]
          omega

/-- A value for a slot that is not there. -/
theorem substitute_concat_of_occurrences {name : Name b} {value : List α} {cs : List α}
    (hcs : occurrences (slot name) cs = 0) :
    substitute (rules (values ++ [(name, value)])) cs = substitute (rules values) cs := by
  induction hlength : cs.length using Nat.strongRecOn generalizing cs with
  | _ n ih =>
      cases cs with
      | nil => rfl
      | cons a cs =>
          rw [occurrences, Nat.add_eq_zero_iff] at hcs
          have hfront : ¬ slot name <+: a :: cs := fun h => by simp [h] at hcs
          have hfind : ((rules (values ++ [(name, value)])).find? fun rule => rule.1 <+: a :: cs) =
              (rules values).find? fun rule => rule.1 <+: a :: cs := by
            simp [rules, List.find?_append, hfront]
          have hdrop : ∀ k, occurrences (slot name) (cs.drop k) = 0 := fun k =>
            Nat.eq_zero_of_le_zero (hcs.2 ▸ occurrences_drop_le (slot name) k cs)
          rw [substitute_cons, hfind, substitute_cons]
          split
          · rw [ih _ (by rw [← hlength, List.length_drop, List.length_cons]; omega) (hdrop _) rfl]
          · rw [ih cs.length (by rw [← hlength]; simp) hcs.2 rfl]

/-! ## One after the other -/

section

variable (name : Name b) (value : List α)

theorem replace_append_slot (x z : List α) :
    replace (slot name) value (x ++ slot name ++ z) =
      replace (slot name) value x ++ value ++ replace (slot name) value z := by
  have h := substitute_append_slot [(name, value)] name x z
  simpa [rules, replace] using h

theorem replace_of_occurrences {cs : List α} (h : occurrences (slot name) cs = 0) :
    replace (slot name) value cs = cs := by
  have hnone : substitute (rules ([] ++ [(name, value)])) cs = substitute (rules []) cs :=
    substitute_concat_of_occurrences [] h
  have hrules : substitute (rules ([] : Values b)) cs = cs := substitute_nil cs
  rwa [hrules] at hnone

/-- Every place of a slot changes the length by the same. -/
theorem length_replace (cs : List α) :
    (replace (slot name) value cs).length + occurrences (slot name) cs * (slot name).length =
      cs.length + occurrences (slot name) cs * value.length := by
  induction cs using slot_induction name with
  | none cs h => rw [replace_of_occurrences name value h, h, Nat.zero_mul, Nat.zero_mul]
  | next x z hx ih =>
      rw [replace_append_slot, occurrences_append_slot, replace_of_occurrences name value hx, hx]
      simp only [List.length_append, if_true, Nat.zero_add, Nat.add_mul, Nat.one_mul]
      omega

/-- A slot replaced by itself. -/
theorem replace_slot (cs : List α) : replace (slot name) (slot name) cs = cs := by
  induction cs using slot_induction name with
  | none cs h => exact replace_of_occurrences name _ h
  | next x z hx ih => rw [replace_append_slot, replace_of_occurrences name _ hx, ih]

theorem replace_eq_self_iff (hlength : value.length = (slot name).length) {cs : List α} :
    replace (slot name) value cs = cs ↔ occurrences (slot name) cs = 0 ∨ value = slot name := by
  constructor
  · intro h
    cases exists_split name cs with
    | inl hnone => exact .inl hnone
    | inr hsome =>
        obtain ⟨x, z, rfl, hx⟩ := hsome
        rw [replace_append_slot, replace_of_occurrences name value hx, List.append_assoc,
          List.append_assoc, List.append_cancel_left_eq] at h
        exact .inr (List.append_inj_left h hlength)
  · intro h
    cases h with
    | inl hnone => exact replace_of_occurrences name value hnone
    | inr hvalue => rw [hvalue, replace_slot]

variable {name} {value} {values : Values b} (hnew : values.lookup name = none)

include hnew

theorem lookup_concat : (values ++ [(name, value)]).lookup name = some value := by
  rw [List.lookup_append, hnew]
  simp

/-- What is filled in takes no slot away. -/
theorem occurrences_substitute (cs : List α) :
    occurrences (slot name) cs ≤ occurrences (slot name) (substitute (rules values) cs) := by
  induction cs using slot_induction name with
  | none cs h => rw [h]; exact Nat.zero_le _
  | next x z hx ih =>
      rw [substitute_append_slot, hnew, Option.getD_none, occurrences_append_slot,
        occurrences_append_slot, hx]
      omega

variable (value) in
/-- Slots that were filled in make the two lengths differ. -/
theorem length_replace_substitute (cs : List α) :
    (replace (slot name) value (substitute (rules values) cs)).length +
        (occurrences (slot name) (substitute (rules values) cs) - occurrences (slot name) cs) *
          (slot name).length =
      (substitute (rules (values ++ [(name, value)])) cs).length +
        (occurrences (slot name) (substitute (rules values) cs) - occurrences (slot name) cs) *
          value.length := by
  induction cs using slot_induction name with
  | none cs h =>
      rw [substitute_concat_of_occurrences values h, h, Nat.sub_zero]
      exact length_replace name value _
  | next x z hx ih =>
      have hz := occurrences_substitute hnew z
      have hxlength := length_replace name value (substitute (rules values) x)
      rw [substitute_append_slot, substitute_append_slot, hnew, lookup_concat hnew,
        Option.getD_none, Option.getD_some, replace_append_slot, occurrences_append_slot,
        occurrences_append_slot, substitute_concat_of_occurrences values hx, hx]
      have hsplit : ∀ k : Nat, (occurrences (slot name) (substitute (rules values) x) +
          (if name = name then 1 else 0) + occurrences (slot name) (substitute (rules values) z) -
            (0 + (if name = name then 1 else 0) + occurrences (slot name) z)) * k =
          occurrences (slot name) (substitute (rules values) x) * k +
            (occurrences (slot name) (substitute (rules values) z) -
              occurrences (slot name) z) * k := by
        intro k
        rw [← Nat.add_mul, if_pos rfl]
        congr 1
        omega
      rw [hsplit, hsplit]
      simp only [List.length_append]
      omega

/-- **One more word**: replacing it in the text so far fills its slots of the
text at the beginning exactly when no other has come up, or its value is the
slot. -/
theorem replace_substitute_iff (cs : List α) :
    replace (slot name) value (substitute (rules values) cs) =
        substitute (rules (values ++ [(name, value)])) cs ↔
      occurrences (slot name) (substitute (rules values) cs) = occurrences (slot name) cs ∨
        value = slot name := by
  by_cases hlength : value.length = (slot name).length
  · induction cs using slot_induction name with
    | none cs h =>
        rw [substitute_concat_of_occurrences values h, h]
        exact replace_eq_self_iff name value hlength
    | next x z hx ih =>
        have hz := occurrences_substitute hnew z
        have hxlength := length_replace name value (substitute (rules values) x)
        rw [hlength, Nat.add_right_cancel_iff] at hxlength
        rw [substitute_append_slot, substitute_append_slot, hnew, lookup_concat hnew,
          Option.getD_none, Option.getD_some, replace_append_slot, occurrences_append_slot,
          occurrences_append_slot, substitute_concat_of_occurrences values hx, hx,
          List.append_assoc, List.append_assoc, List.append_eq_append_iff_of_size_eq_left hxlength,
          List.append_cancel_left_eq, ih, replace_eq_self_iff name value hlength]
        constructor
        · intro ⟨hleft, hright⟩
          obtain hleft | hvalue := hleft
          · exact hright.imp_left fun hright => by omega
          · exact .inr hvalue
        · intro h
          cases h with
          | inl hsum => exact ⟨.inl (by omega), .inl (by omega)⟩
          | inr hvalue => exact ⟨.inr hvalue, .inr hvalue⟩
  · have hvalue : value ≠ slot name := fun h => hlength (congrArg List.length h)
    rw [or_iff_left hvalue]
    constructor
    · intro h
      have hle := occurrences_substitute hnew cs
      have hsizes := length_replace_substitute value hnew cs
      rw [h, Nat.add_left_cancel_iff] at hsizes
      by_contra hmore
      exact hlength (Nat.eq_of_mul_eq_mul_left (by omega) hsizes.symm)
    · intro h
      induction cs using slot_induction name with
      | none cs hnone =>
          rw [hnone] at h
          rw [substitute_concat_of_occurrences values hnone, replace_of_occurrences name value h]
      | next x z hx ih =>
          have hz := occurrences_substitute hnew z
          rw [substitute_append_slot, hnew, Option.getD_none, occurrences_append_slot,
            occurrences_append_slot, hx] at h
          rw [substitute_append_slot, substitute_append_slot, hnew, lookup_concat hnew,
            Option.getD_none, Option.getD_some, replace_append_slot,
            replace_of_occurrences name value (by omega), ih (by omega),
            substitute_concat_of_occurrences values hx]

end

/-- Replacing word after word. -/
def replaceEach (values : Values b) (cs : List α) : List α :=
  values.foldl (fun cs value => replace (slot value.1) value.2 cs) cs

/-- **One after the other is all at once**, after each word, exactly when no
value brings up the slot of a later one. -/
theorem replaceEach_iff {κ : Type*} (valueOf : κ → Name b × List α) {keys : List κ}
    (hnodup : (keys.map fun key => (valueOf key).1).Nodup) (cs : List α) :
    (∀ earlier, earlier <+: keys →
        replaceEach (earlier.map valueOf) cs = substitute (rules (earlier.map valueOf)) cs) ↔
      ∀ earlier key, earlier ++ [key] <+: keys →
        occurrences (slot (valueOf key).1) (substitute (rules (earlier.map valueOf)) cs) =
            occurrences (slot (valueOf key).1) cs ∨
          (valueOf key).2 = slot (valueOf key).1 := by
  have hlookup : ∀ {earlier : List κ} {key : κ}, earlier ++ [key] <+: keys →
      (earlier.map valueOf).lookup (valueOf key).1 = none := by
    intro earlier key hfront
    have hsub := hnodup.sublist (hfront.sublist.map fun key => (valueOf key).1)
    rw [List.map_append, List.nodup_append] at hsub
    rw [List.lookup_eq_none_iff]
    intro entry hentry
    obtain ⟨key', hkey', rfl⟩ := List.mem_map.mp hentry
    have hne := hsub.2.2 _ (List.mem_map_of_mem hkey') (valueOf key).1 (by simp)
    simpa using Ne.symm hne
  have hconcat : ∀ (earlier : List κ) (key : κ),
      replaceEach ((earlier ++ [key]).map valueOf) cs =
        replace (slot (valueOf key).1) (valueOf key).2 (replaceEach (earlier.map valueOf) cs) := by
    intro earlier key
    rw [replaceEach, List.map_append, List.foldl_append]
    rfl
  constructor
  · intro h earlier key hfront
    have hall := h _ hfront
    rw [hconcat, h _ ((List.prefix_append _ _).trans hfront), List.map_append] at hall
    exact (replace_substitute_iff (hlookup hfront) cs).mp hall
  · intro h earlier
    induction earlier using List.reverseRecOn with
    | nil => exact fun _ => (substitute_nil cs).symm
    | append_singleton earlier key ih =>
        intro hfront
        rw [hconcat, ih ((List.prefix_append _ _).trans hfront), List.map_append]
        exact (replace_substitute_iff (hlookup hfront) cs).mpr (h _ _ hfront)

end DbGateway.Placeholder
