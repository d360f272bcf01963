import DbGateway.Python

/-!
# DbGateway.Dict

What a dictionary holds under a key, after it is built, filtered, updated and
reordered.  A dictionary has each key once; the operations keep it so.
-/

namespace DbGateway.Dict

variable {α : Type _}

/-! ## Keys -/

/-- Setting a key adds no other. -/
theorem keys_set (d : Dict α) (key : String) (value : α) :
    (d.set key value).map Prod.fst =
      if key ∈ d.map Prod.fst then d.map Prod.fst else d.map Prod.fst ++ [key] := by
  induction d with
  | nil => rfl
  | cons p d ih =>
      obtain ⟨k, v⟩ := p
      by_cases hk : k = key
      · subst hk
        simp [set]
      · simp only [set, if_neg hk, List.map_cons, ih, List.mem_cons, Ne.symm hk, false_or]
        by_cases hmem : key ∈ d.map Prod.fst
        · rw [if_pos hmem, if_pos hmem]
        · rw [if_neg hmem, if_neg hmem, List.cons_append]

theorem mem_keys_set {d : Dict α} {key : String} {value : α} {k : String} :
    k ∈ (d.set key value).map Prod.fst ↔ k = key ∨ k ∈ d.map Prod.fst := by
  rw [keys_set]
  by_cases hmem : key ∈ d.map Prod.fst
  · rw [if_pos hmem]
    exact ⟨.inr, fun h => h.elim (fun hk => hk ▸ hmem) id⟩
  · rw [if_neg hmem, List.mem_append, List.mem_singleton, or_comm]

theorem mem_keys_update {d other : Dict α} {k : String} :
    k ∈ (d.update other).map Prod.fst ↔ k ∈ d.map Prod.fst ∨ k ∈ other.map Prod.fst := by
  induction other generalizing d with
  | nil => simp [update]
  | cons p other ih =>
      rw [update, List.foldl_cons, ← update, ih, mem_keys_set, List.map_cons, List.mem_cons,
        or_comm (a := k = p.1), or_assoc]

theorem nodup_set {d : Dict α} (hd : (d.map Prod.fst).Nodup) (key : String) (value : α) :
    ((d.set key value).map Prod.fst).Nodup := by
  rw [keys_set]
  by_cases hmem : key ∈ d.map Prod.fst
  · rwa [if_pos hmem]
  · rw [if_neg hmem, ← List.concat_eq_append]
    exact hd.concat hmem

theorem nodup_update {d : Dict α} (hd : (d.map Prod.fst).Nodup) (other : Dict α) :
    ((d.update other).map Prod.fst).Nodup := by
  induction other generalizing d with
  | nil => exact hd
  | cons p other ih => exact ih (nodup_set hd p.1 p.2)

theorem nodup_filter {d : Dict α} (hd : (d.map Prod.fst).Nodup) (p : String × α → Bool) :
    ((d.filter p).map Prod.fst).Nodup :=
  hd.sublist (List.filter_sublist.map _)

/-! ## Values -/

theorem get?_nil (k : String) : get? ([] : Dict α) k = none := rfl

theorem get?_cons (key : String) (value : α) (d : Dict α) (k : String) :
    get? ((key, value) :: d) k = if k = key then some value else d.get? k := by
  rw [get?, List.lookup_cons]
  by_cases hk : k = key
  · rw [if_pos hk, beq_iff_eq.mpr hk]
  · rw [if_neg hk, beq_eq_false_iff_ne.mpr hk, get?]

theorem get?_eq_none_iff {d : Dict α} {k : String} : d.get? k = none ↔ k ∉ d.map Prod.fst := by
  induction d with
  | nil => simp [get?]
  | cons p d ih =>
      rw [get?_cons, List.map_cons, List.mem_cons, not_or]
      by_cases hk : k = p.1
      · simp [hk]
      · simp [hk, ih]

theorem mem_of_get? {d : Dict α} {k : String} {v : α} (h : d.get? k = some v) : (k, v) ∈ d := by
  induction d with
  | nil => contradiction
  | cons p d ih =>
      rw [get?_cons] at h
      by_cases hk : k = p.1
      · rw [if_pos hk] at h
        rw [hk, ← Option.some_inj.mp h]
        exact List.mem_cons_self
      · rw [if_neg hk] at h
        exact List.mem_cons_of_mem _ (ih h)

/-- With each key once, a dictionary is the set of its pairs. -/
theorem get?_eq_some_iff {d : Dict α} (hd : (d.map Prod.fst).Nodup) {k : String} {v : α} :
    d.get? k = some v ↔ (k, v) ∈ d := by
  refine ⟨mem_of_get?, ?_⟩
  induction d with
  | nil => exact fun h => absurd h List.not_mem_nil
  | cons p d ih =>
      intro hmem
      rw [List.map_cons, List.nodup_cons] at hd
      rw [get?_cons]
      cases List.mem_cons.mp hmem with
      | inl hp => rw [← hp, if_pos rfl]
      | inr hmem =>
          have hk : k ≠ p.1 := by
            intro hk
            rw [← hk] at hd
            exact hd.1 (List.mem_map_of_mem hmem)
          rw [if_neg hk]
          exact ih hd.2 hmem

theorem get?_set (d : Dict α) (key : String) (value : α) (k : String) :
    (d.set key value).get? k = if k = key then some value else d.get? k := by
  induction d with
  | nil => rw [set, get?_cons]
  | cons p d ih =>
      obtain ⟨key', value'⟩ := p
      by_cases hkey : key' = key
      · rw [set, if_pos hkey, get?_cons, get?_cons, hkey]
        by_cases hk : k = key
        · rw [if_pos hk, if_pos hk]
        · rw [if_neg hk, if_neg hk, if_neg hk]
      · rw [set, if_neg hkey, get?_cons, get?_cons, ih]
        by_cases hk : k = key'
        · rw [if_pos hk, if_pos hk, if_neg (hk ▸ hkey)]
        · rw [if_neg hk, if_neg hk]

/-- An update wins where it has the key. -/
theorem get?_update (d : Dict α) {other : Dict α} (hother : (other.map Prod.fst).Nodup)
    (k : String) : (d.update other).get? k = (other.get? k).or (d.get? k) := by
  induction other generalizing d with
  | nil => rfl
  | cons p other ih =>
      rw [List.map_cons, List.nodup_cons] at hother
      rw [update, List.foldl_cons, ← update, ih _ hother.2, get?_set, get?_cons]
      by_cases hk : k = p.1
      · have hnone : get? other k = none := get?_eq_none_iff.mpr (hk ▸ hother.1)
        rw [hnone, if_pos hk, if_pos hk]
        rfl
      · rw [if_neg hk, if_neg hk]

theorem get?_filter (p : String → Bool) (d : Dict α) (k : String) :
    get? (d.filter fun kv => p kv.1) k = if p k then d.get? k else none := by
  induction d with
  | nil => simp [get?]
  | cons q d ih =>
      rw [List.filter_cons, get?_cons]
      by_cases hq : p q.1 = true
      · rw [if_pos hq, get?_cons, ih]
        by_cases hk : k = q.1
        · rw [if_pos hk, if_pos hk, hk, if_pos hq]
        · rw [if_neg hk, if_neg hk]
      · rw [if_neg hq, ih]
        by_cases hk : k = q.1
        · rw [hk, if_neg hq, if_neg hq]
        · rw [if_neg hk]

theorem get?_map (f : α → α) (d : Dict α) (k : String) :
    get? (d.map fun kv => (kv.1, f kv.2)) k = (d.get? k).map f := by
  induction d with
  | nil => rfl
  | cons p d ih =>
      rw [List.map_cons, get?_cons, get?_cons, ih]
      by_cases hk : k = p.1
      · rw [if_pos hk, if_pos hk]
        rfl
      · rw [if_neg hk, if_neg hk]

/-- The order of the pairs does not matter. -/
theorem get?_perm {d d' : Dict α} (hd : (d.map Prod.fst).Nodup) (h : d.Perm d') (k : String) :
    d.get? k = d'.get? k := by
  have hd' : (d'.map Prod.fst).Nodup := (h.map _).nodup_iff.mp hd
  refine Option.ext fun v => ?_
  rw [get?_eq_some_iff hd, get?_eq_some_iff hd', h.mem_iff]

/-- Dictionaries holding the same are permutations of each other. -/
theorem perm_of_get? {d d' : Dict α} (hd : (d.map Prod.fst).Nodup) (hd' : (d'.map Prod.fst).Nodup)
    (h : ∀ k, d.get? k = d'.get? k) : d.Perm d' := by
  refine (List.perm_ext_iff_of_nodup (List.Nodup.of_map _ hd) (List.Nodup.of_map _ hd')).mpr ?_
  intro kv
  rw [← get?_eq_some_iff hd, ← get?_eq_some_iff hd', h]

end DbGateway.Dict
