import Mathlib.Data.List.Chain
import Mathlib.Data.List.Induction
import Mathlib.Data.List.Nodup

/-!
# DbGateway.HashChain

Logs whose records each name the hash of the record before.

Where the hashes differ, such a log gives every change of its past away: any
selection of its records, in any order, that is still linked from the same
start is one of its prefixes (`prefix_of_linkedFrom`).
-/

namespace DbGateway.HashChain

variable {α η : Type*} (prev hash : α → η)

/-- Each record but the first names the hash of the one before it. -/
def Linked (log : List α) : Prop := log.IsChain fun a b => prev b = hash a

/-- The hash the next record is to name. -/
def head (start : η) (log : List α) : η := log.foldl (fun _ a => hash a) start

/-- A linked log whose first record names `start`. -/
def LinkedFrom (start : η) (log : List α) : Prop :=
  (∀ a ∈ log.head?, prev a = start) ∧ Linked prev hash log

variable {prev hash}

@[simp] theorem head_nil (start : η) : head hash start [] = start := rfl

@[simp] theorem head_concat (start : η) (log : List α) (a : α) :
    head hash start (log ++ [a]) = hash a := by
  rw [head, List.foldl_append]
  rfl

theorem linkedFrom_nil (start : η) : LinkedFrom prev hash start [] := by
  refine ⟨fun a ha => ?_, List.isChain_nil⟩
  contradiction

theorem linked_concat (start : η) (log : List α) (a : α) :
    Linked prev hash (log ++ [a]) ↔
      Linked prev hash log ∧ (log ≠ [] → prev a = head hash start log) := by
  induction log using List.reverseRecOn with
  | nil => simp [Linked]
  | append_singleton log b _ =>
      rw [Linked, List.isChain_append, head_concat]
      simp [Linked]

/-- A log grows by records that name its head. -/
theorem linkedFrom_concat (start : η) (log : List α) (a : α) :
    LinkedFrom prev hash start (log ++ [a]) ↔
      LinkedFrom prev hash start log ∧ prev a = head hash start log := by
  rw [LinkedFrom, LinkedFrom, linked_concat start]
  cases log with
  | nil => simp [Linked]
  | cons b log => simp [and_assoc]

variable (hash) in
/-- The heads of a log, in order, are its start and its hashes. -/
theorem getElem?_head (start : η) (before after : List α) :
    (start :: (before ++ after).map hash)[before.length]? = some (head hash start before) := by
  induction before using List.reverseRecOn generalizing after with
  | nil => rfl
  | append_singleton before a ih =>
      rw [head_concat, List.length_append, List.length_singleton, List.getElem?_cons_succ,
        List.map_append, List.map_append, List.append_assoc]
      simp

/-- Where the hashes differ, a head belongs to one prefix. -/
theorem length_eq_of_head_eq {start : η} {log before after before' after' : List α}
    (hdistinct : (start :: log.map hash).Nodup) (hlog : log = before ++ after)
    (hlog' : log = before' ++ after')
    (hhead : head hash start before = head hash start before') :
    before.length = before'.length := by
  have hbefore := getElem?_head hash start before after
  have hbefore' := getElem?_head hash start before' after'
  rw [← hlog] at hbefore
  rw [← hlog', ← hhead, ← hbefore] at hbefore'
  have hlt : before.length < (start :: log.map hash).length := by
    rw [hlog, List.length_cons, List.length_map, List.length_append]
    omega
  exact (List.getElem?_inj hlt hdistinct).mp hbefore'.symm

/-- Each record of a linked log names the head of what comes before it. -/
theorem LinkedFrom.prev_eq {start : η} {before after : List α} {a : α}
    (h : LinkedFrom prev hash start (before ++ a :: after)) : prev a = head hash start before := by
  have hprefix : LinkedFrom prev hash start (before ++ [a]) := by
    refine ⟨?_, List.IsChain.prefix h.2 ⟨after, by simp⟩⟩
    intro b hb
    refine h.1 b ?_
    cases before with
    | nil => exact hb
    | cons c before => exact hb
  exact ((linkedFrom_concat start before a).mp hprefix).2

/-- **Tamper evidence**: records of a linked log that are linked from its start
are a prefix of it. -/
theorem prefix_of_linkedFrom {start : η} {log kept : List α}
    (hlog : LinkedFrom prev hash start log) (hdistinct : (start :: log.map hash).Nodup)
    (hmem : ∀ a ∈ kept, a ∈ log) (hkept : LinkedFrom prev hash start kept) : kept <+: log := by
  induction kept using List.reverseRecOn with
  | nil => exact List.nil_prefix
  | append_singleton kept a ih =>
      obtain ⟨hlinked, hprev⟩ := (linkedFrom_concat start kept a).mp hkept
      obtain ⟨after, hafter⟩ := ih (fun b hb => hmem b (List.mem_append_left _ hb)) hlinked
      have ha : a ∈ log := hmem a (List.mem_append_right _ (List.mem_singleton_self a))
      obtain ⟨before', after', hsplit⟩ := List.append_of_mem ha
      have hnamed : prev a = head hash start before' := (hsplit ▸ hlog).prev_eq
      have hlength := length_eq_of_head_eq hdistinct hafter.symm hsplit (hprev.symm.trans hnamed)
      obtain ⟨hsame, -⟩ := List.append_inj (hafter.trans hsplit) hlength
      refine ⟨after', ?_⟩
      rw [hsplit, hsame, List.append_assoc, List.singleton_append]

end DbGateway.HashChain
