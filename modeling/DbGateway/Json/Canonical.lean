import DbGateway.Dict
import DbGateway.Json.Roundtrip
import Mathlib.Data.List.Sort
import Mathlib.Data.String.Basic

/-!
# DbGateway.Json.Canonical

`json.dumps(value, sort_keys=True, separators=(",", ":"))`.

Sorting forgets the order of the keys and nothing else: two objects have one
canonical text exactly when they hold the same under every key
(`canonical_eq_iff`).
-/

namespace DbGateway.Json

/-- The order of the keys. -/
def keyLe (a b : String × Json) : Prop := a.1 ≤ b.1

instance : DecidableRel keyLe := fun a b => inferInstanceAs (Decidable (a.1 ≤ b.1))

instance : Std.Total keyLe := ⟨fun a b => le_total a.1 b.1⟩

instance : IsTrans (String × Json) keyLe := ⟨fun _ _ _ hab hbc => @le_trans String _ _ _ _ hab hbc⟩

mutual
/-- `sort_keys=True`: objects inside objects too. -/
def sortKeys : Json → Json
  | .arr items => .arr (sortItems items)
  | .obj fields => .obj ((sortFields fields).insertionSort keyLe)
  | v => v

def sortItems : List Json → List Json
  | [] => []
  | x :: xs => sortKeys x :: sortItems xs

def sortFields : List (String × Json) → List (String × Json)
  | [] => []
  | (k, v) :: xs => (k, sortKeys v) :: sortFields xs
end

theorem sortFields_eq_map (fields : Dict Json) :
    sortFields fields = fields.map fun kv => (kv.1, sortKeys kv.2) := by
  induction fields with
  | nil => rfl
  | cons kv fields ih => rw [sortFields, ih, List.map_cons]

theorem keys_sortFields (fields : Dict Json) :
    (sortFields fields).map Prod.fst = fields.map Prod.fst := by
  rw [sortFields_eq_map, List.map_map]
  rfl

/-- **Sorted objects are equal** exactly when they hold the same, sorted, under
every key. -/
theorem sortKeys_obj_eq_iff {xs ys : Dict Json} (hxs : (xs.map Prod.fst).Nodup)
    (hys : (ys.map Prod.fst).Nodup) :
    sortKeys (.obj xs) = sortKeys (.obj ys) ↔
      ∀ k, (xs.get? k).map sortKeys = (ys.get? k).map sortKeys := by
  have hkeysx : ((sortFields xs).map Prod.fst).Nodup := by rwa [keys_sortFields]
  have hkeysy : ((sortFields ys).map Prod.fst).Nodup := by rwa [keys_sortFields]
  have hperm : ∀ fields : Dict Json,
      ((sortFields fields).insertionSort keyLe).Perm (sortFields fields) :=
    fun fields => List.perm_insertionSort keyLe _
  rw [sortKeys, sortKeys, Json.obj.injEq]
  constructor
  · intro hsorted k
    have hsame : (sortFields xs).Perm (sortFields ys) :=
      (hperm xs).symm.trans (hsorted ▸ hperm ys)
    have hget := Dict.get?_perm hkeysx hsame k
    rwa [sortFields_eq_map, sortFields_eq_map, Dict.get?_map, Dict.get?_map] at hget
  · intro hget
    have hsame : (sortFields xs).Perm (sortFields ys) := by
      refine Dict.perm_of_get? hkeysx hkeysy fun k => ?_
      rw [sortFields_eq_map, sortFields_eq_map, Dict.get?_map, Dict.get?_map, hget]
    refine List.Perm.eq_of_pairwise ?_ (List.pairwise_insertionSort keyLe _)
      (List.pairwise_insertionSort keyLe _) ((hperm xs).trans (hsame.trans (hperm ys).symm))
    intro a b ha hb hab hba
    have hb' : b ∈ sortFields xs := hsame.mem_iff.mpr ((hperm ys).mem_iff.mp hb)
    have ha' : a ∈ sortFields xs := (hperm xs).mem_iff.mp ha
    have hkey : a.1 = b.1 := @le_antisymm String _ _ _ hab hba
    have hgeta := (Dict.get?_eq_some_iff hkeysx).mpr (show (a.1, a.2) ∈ _ from ha')
    have hgetb := (Dict.get?_eq_some_iff hkeysx).mpr (show (b.1, b.2) ∈ _ from hb')
    rw [hkey, hgetb] at hgeta
    exact Prod.ext hkey (Option.some_inj.mp hgeta).symm

/-! ## Keys -/

mutual
/-- A document with each key of an object once. -/
def Keyed : Json → Prop
  | .arr items => KeyedItems items
  | .obj fields => (fields.map Prod.fst).Nodup ∧ KeyedFields fields
  | _ => True

def KeyedItems : List Json → Prop
  | [] => True
  | x :: xs => Keyed x ∧ KeyedItems xs

def KeyedFields : List (String × Json) → Prop
  | [] => True
  | (_, v) :: xs => Keyed v ∧ KeyedFields xs
end

theorem keyedFields_iff {xs : List (String × Json)} :
    KeyedFields xs ↔ ∀ kv ∈ xs, Keyed kv.2 := by
  induction xs with
  | nil => simp [KeyedFields]
  | cons x xs ih => simp [KeyedFields, ih]

theorem keyed_obj_iff {fields : Dict Json} :
    Keyed (.obj fields) ↔ (fields.map Prod.fst).Nodup ∧ ∀ kv ∈ fields, Keyed kv.2 := by
  rw [Keyed, keyedFields_iff]

/-! ## The canonical text -/

section

variable [Python]

/-- `json.dumps(value, sort_keys=True, separators=(",", ":"))` -/
def canonical (v : Json) : String := dumps .compact (sortKeys v)

variable [PythonFloat]

theorem proper_obj_iff {fields : Dict Json} :
    Proper (.obj fields) ↔ (fields.map Prod.fst).Nodup ∧ ∀ kv ∈ fields, Proper kv.2 := by
  rw [Proper, properFields_iff]

theorem proper_set {d : Dict Json} (hd : Proper (.obj d)) (key : String) {v : Json}
    (hv : Proper v) : Proper (.obj (d.set key v)) := by
  rw [proper_obj_iff] at hd ⊢
  refine ⟨Dict.nodup_set hd.1 key v, fun kv hkv => ?_⟩
  cases Dict.mem_set hkv with
  | inl h => rwa [h]
  | inr h => exact hd.2 kv h

theorem proper_update {d other : Dict Json} (hd : Proper (.obj d))
    (hother : ∀ kv ∈ other, Proper kv.2) : Proper (.obj (d.update other)) := by
  rw [proper_obj_iff] at hd ⊢
  refine ⟨Dict.nodup_update hd.1 other, fun kv hkv => ?_⟩
  cases Dict.mem_update hkv with
  | inl h => exact hd.2 kv h
  | inr h => exact hother kv h

theorem proper_filter {d : Dict Json} (hd : Proper (.obj d)) (p : String × Json → Bool) :
    Proper (.obj (d.filter p)) := by
  rw [proper_obj_iff] at hd ⊢
  exact ⟨Dict.nodup_filter hd.1 p, fun kv hkv => hd.2 kv (List.mem_filter.mp hkv).1⟩

mutual
/-- A sorted document is a document. -/
theorem proper_sortKeys : ∀ {v : Json}, Proper v → Proper (sortKeys v)
  | .null, _ => trivial
  | .bool _, _ => trivial
  | .int _, _ => trivial
  | .float _, hv => hv
  | .str _, _ => trivial
  | .arr items, hv => properItems_sortItems (show ProperItems items from hv)
  | .obj fields, hv => by
      have hperm := List.perm_insertionSort keyLe (sortFields fields)
      have hkeys : ((sortFields fields).map Prod.fst).Nodup := by
        rw [keys_sortFields]
        exact hv.1
      refine ⟨(hperm.map Prod.fst).nodup_iff.mpr hkeys, ?_⟩
      rw [properFields_iff]
      intro kv hkv
      exact properFields_iff.mp (properFields_sortFields hv.2) kv (hperm.mem_iff.mp hkv)

theorem properItems_sortItems : ∀ {xs : List Json}, ProperItems xs → ProperItems (sortItems xs)
  | [], _ => trivial
  | _ :: _, hxs => ⟨proper_sortKeys hxs.1, properItems_sortItems hxs.2⟩

theorem properFields_sortFields : ∀ {xs : Dict Json},
    ProperFields xs → ProperFields (sortFields xs)
  | [], _ => trivial
  | _ :: _, hxs => ⟨proper_sortKeys hxs.1, properFields_sortFields hxs.2⟩
end

theorem canonical_inj {v w : Json} (hv : Proper v) (hw : Proper w) :
    canonical v = canonical w ↔ sortKeys v = sortKeys w := by
  refine ⟨dumps_inj .compact (proper_sortKeys hv) (proper_sortKeys hw), fun h => ?_⟩
  rw [canonical, canonical, h]

/-- **Objects have one canonical text** exactly when they hold the same under
every key. -/
theorem canonical_eq_iff {xs ys : Dict Json} (hxs : Proper (.obj xs)) (hys : Proper (.obj ys)) :
    canonical (.obj xs) = canonical (.obj ys) ↔
      ∀ k, (xs.get? k).map sortKeys = (ys.get? k).map sortKeys :=
  (canonical_inj hxs hys).trans (sortKeys_obj_eq_iff hxs.1 hys.1)

end

end DbGateway.Json
