import Mathlib.Data.List.Basic

/-!
# DbGateway.Multimap

Values grouped under keys, in the order in which keys and values come:
what `d.setdefault(key, []).append(value)` builds in a loop.

Looking a key up in a grouping is filtering the values by their key
(`get_ofList`), so nothing stored under another key can be observed.
-/

namespace DbGateway

universe u v

/-- A dictionary of lists, in insertion order. -/
abbrev Multimap (κ : Type u) (α : Type v) := List (κ × List α)

namespace Multimap

variable {κ : Type u} {α : Type v} [DecidableEq κ]

/-- `d.get(key, [])` -/
def get (m : Multimap κ α) (key : κ) : List α := (m.lookup key).getD []

/-- `d.setdefault(key, []).append(value)` -/
def append : Multimap κ α → κ → α → Multimap κ α
  | [], key, value => [(key, [value])]
  | (k, values) :: m, key, value =>
      if k = key then (k, values ++ [value]) :: m else (k, values) :: append m key value

/-- The values of a list grouped by a key of theirs. -/
def ofList (keyOf : α → κ) (values : List α) : Multimap κ α :=
  values.foldl (fun m value => append m (keyOf value) value) []

theorem get_cons (key k : κ) (values : List α) (m : Multimap κ α) :
    get ((k, values) :: m) key = if k = key then values else m.get key := by
  rw [get, List.lookup_cons]
  by_cases h : k = key
  · have hkey : (key == k) = true := beq_iff_eq.mpr h.symm
    rw [if_pos h, hkey, Option.getD_some]
  · have hkey : (key == k) = false := beq_eq_false_iff_ne.mpr (Ne.symm h)
    rw [if_neg h, hkey, get]

/-- Storing a value is seen under its own key only. -/
theorem get_append (m : Multimap κ α) (key : κ) (value : α) (k : κ) :
    (m.append key value).get k = if key = k then m.get k ++ [value] else m.get k := by
  induction m with
  | nil =>
      rw [append, get_cons]
      rfl
  | cons p m ih =>
      obtain ⟨k', values⟩ := p
      simp only [append]
      by_cases h : k' = key
      · rw [if_pos h, get_cons, get_cons, h]
        by_cases hk : key = k
        · rw [if_pos hk, if_pos hk, if_pos hk]
        · rw [if_neg hk, if_neg hk, if_neg hk]
      · rw [if_neg h, get_cons, get_cons, ih]
        by_cases hk : key = k
        · rw [if_pos hk, if_pos hk, if_neg (hk ▸ h), if_neg (hk ▸ h)]
        · rw [if_neg hk, if_neg hk]

/-- **A key of a grouping holds the values having it**, in their order. -/
theorem get_ofList (keyOf : α → κ) (values : List α) (key : κ) :
    (ofList keyOf values).get key = values.filter fun value => keyOf value = key := by
  have hfold : ∀ m : Multimap κ α,
      (values.foldl (fun m value => append m (keyOf value) value) m).get key =
        m.get key ++ values.filter fun value => keyOf value = key := by
    induction values with
    | nil => exact fun m => by rw [List.foldl_nil, List.filter_nil, List.append_nil]
    | cons value values ih =>
        intro m
        rw [List.foldl_cons, ih, get_append, List.filter_cons]
        by_cases h : keyOf value = key
        · rw [if_pos h, if_pos (decide_eq_true h), List.append_assoc]
          rfl
        · rw [if_neg h, if_neg (by simpa using h)]
  exact hfold []

/-! ## Values -/

/-- `[value for values in d.values() for value in values]` -/
def values (m : Multimap κ α) : List α := m.flatMap Prod.snd

theorem mem_values_append {m : Multimap κ α} {key : κ} {value v : α} :
    v ∈ (m.append key value).values ↔ v = value ∨ v ∈ m.values := by
  induction m with
  | nil => simp [append, values]
  | cons p m ih =>
      obtain ⟨k, vs⟩ := p
      simp only [values] at ih ⊢
      by_cases hk : k = key
      · simp only [append, if_pos hk, List.flatMap_cons, List.mem_append, List.mem_singleton]
        rw [or_right_comm, or_comm]
      · simp only [append, if_neg hk, List.flatMap_cons, List.mem_append, ih, or_left_comm]

/-- Grouping loses no value. -/
theorem mem_values_ofList {keyOf : α → κ} {vs : List α} {v : α} :
    v ∈ (ofList keyOf vs).values ↔ v ∈ vs := by
  have hfold : ∀ m : Multimap κ α,
      v ∈ (vs.foldl (fun m value => append m (keyOf value) value) m).values ↔
        v ∈ m.values ∨ v ∈ vs := by
    induction vs with
    | nil => simp
    | cons value vs ih =>
        intro m
        rw [List.foldl_cons, ih, mem_values_append, List.mem_cons, or_assoc, or_left_comm]
  rw [ofList, hfold, values, List.flatMap_nil]
  exact or_iff_right List.not_mem_nil

/-! ## Keys -/

theorem keys_append (m : Multimap κ α) (key : κ) (value : α) :
    (m.append key value).map Prod.fst =
      if key ∈ m.map Prod.fst then m.map Prod.fst else m.map Prod.fst ++ [key] := by
  induction m with
  | nil => rfl
  | cons p m ih =>
      obtain ⟨k, values⟩ := p
      by_cases hk : k = key
      · subst hk
        simp [append]
      · simp only [append, if_neg hk, List.map_cons, ih, List.mem_cons, Ne.symm hk, false_or]
        by_cases hmem : key ∈ m.map Prod.fst
        · rw [if_pos hmem, if_pos hmem]
        · rw [if_neg hmem, if_neg hmem, List.cons_append]

/-- A grouping has each key once. -/
theorem nodup_ofList (keyOf : α → κ) (values : List α) :
    ((ofList keyOf values).map Prod.fst).Nodup := by
  have hfold : ∀ m : Multimap κ α, (m.map Prod.fst).Nodup →
      ((values.foldl (fun m value => append m (keyOf value) value) m).map Prod.fst).Nodup := by
    induction values with
    | nil => exact fun _ hm => hm
    | cons value values ih =>
        intro m hm
        refine ih _ ?_
        rw [keys_append]
        by_cases hmem : keyOf value ∈ m.map Prod.fst
        · rwa [if_pos hmem]
        · rw [if_neg hmem, List.nodup_append]
          refine ⟨hm, by simp, fun k hk k' hk' => ?_⟩
          rw [List.mem_singleton.mp hk']
          exact ne_of_mem_of_not_mem hk hmem
  exact hfold [] List.nodup_nil

theorem get_of_mem {m : Multimap κ α} (hm : (m.map Prod.fst).Nodup) {key : κ} {values : List α}
    (h : (key, values) ∈ m) : m.get key = values := by
  induction m with
  | nil => exact absurd h List.not_mem_nil
  | cons p m ih =>
      obtain ⟨k, values'⟩ := p
      rw [List.map_cons, List.nodup_cons] at hm
      rw [get_cons]
      cases List.mem_cons.mp h with
      | inl hp =>
          cases hp
          rw [if_pos rfl]
      | inr hmem =>
          have hk : k ≠ key := by
            intro hk
            subst hk
            exact hm.1 (List.mem_map.mpr ⟨(k, values), hmem, rfl⟩)
          rw [if_neg hk]
          exact ih hm.2 hmem

/-- Where no two values have the same key, each is alone in its group. -/
theorem filter_of_nodup {keyOf : α → κ} {values : List α} (h : (values.map keyOf).Nodup) {value : α}
    (hmem : value ∈ values) :
    (values.filter fun other => keyOf other = keyOf value) = [value] := by
  induction values with
  | nil => exact absurd hmem List.not_mem_nil
  | cons first values ih =>
      rw [List.map_cons, List.nodup_cons] at h
      have hothers {key : κ} (hkey : key ∉ values.map keyOf) :
          (values.filter fun other => keyOf other = key) = [] := by
        rw [List.filter_eq_nil_iff]
        intro other hother hsame
        exact hkey (of_decide_eq_true hsame ▸ List.mem_map_of_mem hother)
      cases List.mem_cons.mp hmem with
      | inl hfirst =>
          subst hfirst
          rw [List.filter_cons_of_pos (by simp), hothers h.1]
      | inr hrest =>
          have hne : keyOf first ≠ keyOf value := by
            intro hsame
            exact h.1 (hsame ▸ List.mem_map_of_mem hrest)
          rw [List.filter_cons_of_neg (by simpa using hne), ih h.2 hrest]

/-- Where no two values have a key in common, a key of the grouping holds one value. -/
theorem get_ofList_of_nodup {keyOf : α → κ} {values : List α} (h : (values.map keyOf).Nodup)
    {value : α} (hmem : value ∈ values) : (ofList keyOf values).get (keyOf value) = [value] := by
  rw [get_ofList, filter_of_nodup h hmem]

/-- Where no two values have a key in common, no group has two. -/
theorem length_le_one_of_nodup {keyOf : α → κ} {values : List α} (h : (values.map keyOf).Nodup)
    {group : κ × List α} (hmem : group ∈ ofList keyOf values) : group.2.length ≤ 1 := by
  have hget := get_of_mem (nodup_ofList keyOf values) hmem
  rw [get_ofList] at hget
  cases hgroup : group.2 with
  | nil => exact Nat.zero_le 1
  | cons value rest =>
      have hvalue : value ∈ values.filter fun other => keyOf other = group.1 := by
        rw [hget, hgroup]
        exact List.mem_cons_self
      obtain ⟨hvalue, hkey⟩ := List.mem_filter.mp hvalue
      rw [← of_decide_eq_true hkey, filter_of_nodup h hvalue, hgroup] at hget
      rw [← hget]
      exact Nat.le_refl 1

end Multimap

end DbGateway
