import DbGateway.Runs
import Mathlib.Data.List.Basic
import Mathlib.Order.Lattice
import Mathlib.Order.Monotone.Defs

/-!
# DbGateway.SlidingWindow

A limit on what is recorded in any span of time, kept by a queue of time
stamps.

At a reading of the clock the stamps that are due, at or before a cutoff, leave
the front of the queue; a new one enters if the queue is then shorter than the
limit.  As long as the clock does not go back, the queue holds every stamp that
is not due (`Bounded.held`), so a span in which no reading makes another one due
has no more of them than the limit (`Bounded.bounded`).
-/

namespace DbGateway.SlidingWindow

variable {τ : Type*} [LinearOrder τ]

/-! ## The queue -/

/-- The queue without what is due at its front. -/
def evict (cutoff : τ) (stamps : List τ) : List τ := stamps.dropWhile (· ≤ cutoff)

/-- The stamps that are not due. -/
def unexpired (cutoff : τ) (stamps : List τ) : List τ := stamps.filter (cutoff < ·)

theorem evict_cons (cutoff x : τ) (stamps : List τ) :
    evict cutoff (x :: stamps) = if x ≤ cutoff then evict cutoff stamps else x :: stamps := by
  simp [evict, List.dropWhile_cons]

theorem unexpired_cons (cutoff x : τ) (stamps : List τ) :
    unexpired cutoff (x :: stamps) =
      if x ≤ cutoff then unexpired cutoff stamps else x :: unexpired cutoff stamps := by
  by_cases hx : x ≤ cutoff
  · simp [unexpired, hx]
  · simp [unexpired, hx, lt_of_not_ge hx]

theorem unexpired_append (cutoff : τ) (stamps stamps' : List τ) :
    unexpired cutoff (stamps ++ stamps') = unexpired cutoff stamps ++ unexpired cutoff stamps' :=
  List.filter_append ..

/-- What is due stays due. -/
theorem unexpired_unexpired {cutoff cutoff' : τ} (h : cutoff ≤ cutoff') (stamps : List τ) :
    unexpired cutoff' (unexpired cutoff stamps) = unexpired cutoff' stamps := by
  rw [unexpired, unexpired, unexpired, List.filter_filter]
  refine List.filter_congr fun x _ => ?_
  by_cases hx : cutoff' < x
  · simp [hx, lt_of_le_of_lt h hx]
  · simp [hx]

/-- Nothing leaves the queue before it is due. -/
theorem unexpired_evict (cutoff : τ) (stamps : List τ) :
    unexpired cutoff (evict cutoff stamps) = unexpired cutoff stamps := by
  induction stamps with
  | nil => rfl
  | cons x stamps ih =>
      rw [evict_cons]
      by_cases hx : x ≤ cutoff
      · rw [if_pos hx, ih, unexpired_cons, if_pos hx]
      · rw [if_neg hx]

theorem unexpired_sublist_evict (cutoff : τ) (stamps : List τ) :
    (unexpired cutoff stamps).Sublist (evict cutoff stamps) := by
  rw [← unexpired_evict]
  exact List.filter_sublist

/-- A queue in the order of its stamps loses all that are due. -/
theorem evict_of_sorted {cutoff : τ} {stamps : List τ} (h : stamps.Pairwise (· ≤ ·)) :
    evict cutoff stamps = unexpired cutoff stamps := by
  induction stamps with
  | nil => rfl
  | cons x stamps ih =>
      rw [List.pairwise_cons] at h
      rw [evict_cons, unexpired_cons]
      by_cases hx : x ≤ cutoff
      · rw [if_pos hx, if_pos hx, ih h.2]
      · rw [if_neg hx, if_neg hx, unexpired, List.filter_eq_self.mpr]
        intro y hy
        exact decide_eq_true (lt_of_lt_of_le (lt_of_not_ge hx) (h.1 y hy))

/-- What a reading does to a queue: nothing, or what is due leaves and the
queue is full, or what is due leaves and the reading is recorded. -/
inductive Check (limit : Int) (cutoff now : τ) (stamps : List τ) : Bool → List τ → Prop
  | skipped : Check limit cutoff now stamps false stamps
  | full (h : limit ≤ (evict cutoff stamps).length) :
      Check limit cutoff now stamps false (evict cutoff stamps)
  | recorded (h : (evict cutoff stamps).length < limit) :
      Check limit cutoff now stamps true (evict cutoff stamps ++ [now])

/-- Whatever happens, the stamps that are not due stay. -/
theorem Check.unexpired_sublist {limit : Int} {cutoff now : τ} {stamps stamps' : List τ} {b : Bool}
    (h : Check limit cutoff now stamps b stamps') :
    (unexpired cutoff stamps).Sublist stamps' := by
  cases h with
  | skipped => exact List.filter_sublist
  | full => exact unexpired_sublist_evict cutoff stamps
  | recorded => exact (unexpired_sublist_evict cutoff stamps).trans (List.sublist_append_left _ _)

/-- A queue in the order of its stamps, none of them after the last reading. -/
structure Ordered (last : τ) (stamps : List τ) : Prop where
  sorted : stamps.Pairwise (· ≤ ·)
  past : ∀ x ∈ stamps, x ≤ last

theorem Ordered.later {last now : τ} {stamps : List τ} (h : Ordered last stamps)
    (hlast : last ≤ now) : Ordered now stamps :=
  ⟨h.sorted, fun x hx => (h.past x hx).trans hlast⟩

/-- A queue that is not all due was read after the cutoff. -/
theorem Ordered.cutoff_lt {cutoff last : τ} {stamps : List τ} (h : Ordered last stamps)
    (hlive : unexpired cutoff stamps ≠ []) : cutoff < last := by
  obtain ⟨stamp, hstamp⟩ := List.exists_mem_of_ne_nil _ hlive
  obtain ⟨hmem, hdue⟩ := List.mem_filter.mp hstamp
  exact lt_of_lt_of_le (of_decide_eq_true hdue) (h.past stamp hmem)

/-- Readings that do not go back keep the order. -/
theorem Check.ordered {limit : Int} {cutoff last now : τ} {stamps stamps' : List τ} {b : Bool}
    (h : Check limit cutoff now stamps b stamps') (hordered : Ordered last stamps)
    (hlast : last ≤ now) : Ordered now stamps' := by
  have hpast : ∀ x ∈ stamps, x ≤ now := fun x hx => (hordered.past x hx).trans hlast
  have hkept : (evict cutoff stamps).Sublist stamps := List.dropWhile_sublist _
  cases h with
  | skipped => exact ⟨hordered.sorted, hpast⟩
  | full => exact ⟨hordered.sorted.sublist hkept, fun x hx => hpast x (hkept.subset hx)⟩
  | recorded =>
      constructor
      · refine List.pairwise_append.mpr ⟨hordered.sorted.sublist hkept, List.pairwise_singleton _ _,
          fun x hx y hy => ?_⟩
        rw [List.mem_singleton.mp hy]
        exact hpast x (hkept.subset hx)
      · intro x hx
        cases List.mem_append.mp hx with
        | inl hold => exact hpast x (hkept.subset hold)
        | inr hnew => rw [List.mem_singleton.mp hnew]

/-! ## The bound -/

/-- A span of time in which no reading makes another one due. -/
def Span (cutoff : τ → τ) (p : τ → Bool) : Prop :=
  ∀ x y, p x = true → p y = true → cutoff y < x

/-- The stamps admitted so far: the queue holds those that are not due at the
last reading, and no span has more of them than the limit. -/
structure Bounded (cutoff : τ → τ) (limit : Int) (admitted stamps : List τ) (last : τ) : Prop where
  held : (unexpired (cutoff last) admitted).Sublist stamps
  bounded : ∀ p, Span cutoff p → ((admitted.filter p).length : Int) ≤ limit

namespace Bounded

variable {cutoff : τ → τ} {limit : Int} {admitted stamps stamps' : List τ} {last now : τ}

theorem nil (hlimit : 0 ≤ limit) : Bounded cutoff limit [] [] last where
  held := List.Sublist.refl _
  bounded _ _ := hlimit

/-- A check whose request is not admitted, recorded or not. -/
theorem keep (h : Bounded cutoff limit admitted stamps last) (hcutoff : Monotone cutoff)
    (hlast : last ≤ now) {b : Bool} (hcheck : Check limit (cutoff now) now stamps b stamps') :
    Bounded cutoff limit admitted stamps' now where
  held := by
    have hsub : (unexpired (cutoff now) (unexpired (cutoff last) admitted)).Sublist
        (unexpired (cutoff now) stamps) := h.held.filter _
    rw [unexpired_unexpired (hcutoff hlast)] at hsub
    exact hsub.trans hcheck.unexpired_sublist
  bounded := h.bounded

/-- Time passes. -/
theorem later (h : Bounded cutoff limit admitted stamps last) (hcutoff : Monotone cutoff)
    (hlast : last ≤ now) : Bounded cutoff limit admitted stamps now :=
  h.keep hcutoff hlast .skipped

/-- A check whose request is recorded and admitted: the stamps of a span around
the reading are all in the queue, which is not full. -/
theorem record (h : Bounded cutoff limit admitted stamps last) (hcutoff : Monotone cutoff)
    (hlast : last ≤ now) (hcheck : Check limit (cutoff now) now stamps true stamps') :
    Bounded cutoff limit (admitted ++ [now]) stamps' now := by
  have hkept := h.later hcutoff hlast
  cases hcheck with
  | recorded hroom =>
      have hevict : (unexpired (cutoff now) admitted).Sublist (evict (cutoff now) stamps) := by
        have hsub : (unexpired (cutoff now) (unexpired (cutoff now) admitted)).Sublist
            (unexpired (cutoff now) stamps) := hkept.held.filter _
        rw [unexpired_unexpired le_rfl] at hsub
        exact hsub.trans (unexpired_sublist_evict _ _)
      refine ⟨?_, fun p hp => ?_⟩
      · rw [unexpired, List.filter_append]
        exact hevict.append List.filter_sublist
      · rw [List.filter_append, List.length_append]
        by_cases hnow : p now = true
        · have hspan : (admitted.filter p).Sublist (unexpired (cutoff now) admitted) :=
            List.monotone_filter_right admitted fun x hx =>
              decide_eq_true (hp x now hx hnow)
          have hlen := (hspan.trans hevict).length_le
          rw [List.filter_cons_of_pos hnow, List.filter_nil, List.length_singleton]
          omega
        · have hbounded := h.bounded p hp
          rw [List.filter_cons_of_neg hnow, List.filter_nil, List.length_nil]
          omega

end Bounded

/-! ## Runs of a machine -/

section Machine

variable {σ ε : Type*} {decide : σ → ε → Bool × σ} {init : σ} {time : ε → τ} {counts : ε → Bool}
  {q : σ → List τ} {cutoff : τ → τ} {limit : Int}

/-- When the accepted events that count were. -/
def admitted (decide : σ → ε → Bool × σ) (init : σ) (time : ε → τ) (counts : ε → Bool)
    (run : List ε) : List τ :=
  ((Runs.accepted decide init run).filter counts).map time

omit [LinearOrder τ] in
theorem admitted_concat (decide : σ → ε → Bool × σ) (init : σ) (time : ε → τ) (counts : ε → Bool)
    (run : List ε) (event : ε) :
    admitted decide init time counts (run ++ [event]) =
      if (decide (Runs.after (Runs.next decide) init run) event).1 = true ∧ counts event = true then
        admitted decide init time counts run ++ [time event]
      else admitted decide init time counts run := by
  unfold admitted
  rw [Runs.accepted_concat, List.filter_append, List.map_append]
  by_cases haccepted : (decide (Runs.after (Runs.next decide) init run) event).1 = true
  · by_cases hcounts : counts event = true
    · rw [if_pos haccepted, if_pos ⟨haccepted, hcounts⟩, List.filter_cons_of_pos hcounts]
      rfl
    · rw [if_pos haccepted, if_neg fun h => hcounts h.2, List.filter_cons_of_neg hcounts]
      exact List.append_nil _
  · rw [if_neg haccepted, if_neg fun h => haccepted h.1]
    exact List.append_nil _

/-- **Run rule**: a machine whose every step checks a queue, and records what it
accepts and counts, keeps the bound while the clock does not go back. -/
theorem bounded_after (hcutoff : Monotone cutoff) (hlimit : 0 ≤ limit) (hinit : q init = [])
    (hstep : ∀ state event, ∃ recorded, Check limit (cutoff (time event)) (time event)
        (q state) recorded (q (Runs.next decide state event)) ∧
      ((decide state event).1 = true → counts event = true → recorded = true))
    {run : List ε} (hclock : run.Pairwise fun e e' => time e ≤ time e') {last : τ}
    (hlast : ∀ e ∈ run, time e ≤ last) :
    Bounded cutoff limit (admitted decide init time counts run)
      (q (Runs.after (Runs.next decide) init run)) last := by
  induction run using List.reverseRecOn generalizing last with
  | nil => exact hinit ▸ .nil hlimit
  | append_singleton run event ih =>
      obtain ⟨hrun, -, hnow⟩ := List.pairwise_append.mp hclock
      have hbounded : Bounded cutoff limit (admitted decide init time counts run)
          (q (Runs.after (Runs.next decide) init run)) (time event) :=
        ih hrun fun e he => hnow e he _ (List.mem_singleton_self _)
      obtain ⟨recorded, hcheck, hrecorded⟩ :=
        hstep (Runs.after (Runs.next decide) init run) event
      have hpasses : time event ≤ last := hlast _ (by simp)
      rw [admitted_concat, Runs.after_concat]
      split
      · next h =>
        rw [hrecorded h.1 h.2] at hcheck
        exact (hbounded.record hcutoff le_rfl hcheck).later hcutoff hpasses
      · exact (hbounded.keep hcutoff le_rfl hcheck).later hcutoff hpasses

/-- No span has more of the accepted events that count than the limit. -/
theorem length_admitted_le (hcutoff : Monotone cutoff) (hlimit : 0 ≤ limit)
    (hinit : q init = [])
    (hstep : ∀ state event, ∃ recorded, Check limit (cutoff (time event)) (time event)
        (q state) recorded (q (Runs.next decide state event)) ∧
      ((decide state event).1 = true → counts event = true → recorded = true))
    {run : List ε} (hclock : run.Pairwise fun e e' => time e ≤ time e') {p : τ → Bool}
    (hp : Span cutoff p) :
    (((admitted decide init time counts run).filter p).length : Int) ≤ limit := by
  cases List.eq_nil_or_concat run with
  | inl hnil => simpa [hnil, admitted, Runs.accepted] using hlimit
  | inr hconcat =>
      obtain ⟨rest, last, rfl⟩ := hconcat
      rw [List.concat_eq_append] at hclock ⊢
      have hlast : ∀ e ∈ rest ++ [last], time e ≤ time last := by
        intro e he
        cases List.mem_append.mp he with
        | inl hrest =>
            exact (List.pairwise_append.mp hclock).2.2 e hrest last (List.mem_singleton_self _)
        | inr hsame => rw [List.mem_singleton.mp hsame]
      exact (bounded_after hcutoff hlimit hinit hstep hclock hlast).bounded p hp

end Machine

end DbGateway.SlidingWindow
