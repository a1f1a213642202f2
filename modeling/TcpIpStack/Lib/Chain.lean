import Mathlib.Combinatorics.Pigeonhole
import Mathlib.Data.Set.Finite.Lattice
import Mathlib.Dynamics.PeriodicPts.Defs
import Mathlib.Order.Preorder.Finite

/-!
# Chains of links

A partial function `f` links each point to at most one next. Followed from a
point, the links end, or come back to where they have been; there is no third
way when only finitely many points are linked to.
-/

namespace TcpIpStack.Lib.Chain

variable {α : Type} (f : α → Option α)

/-- One link further; nothing follows the end. -/
def step (x : Option α) : Option α := x.bind f

/-- The links from `a` end. -/
def Ends (a : α) : Prop := Acc (fun b a => f a = some b) a

/-- The links from `a` lead into a cycle. -/
def Loops (a : α) : Prop :=
  ∃ i b, (step f)^[i] (some a) = some b ∧ some b ∈ Function.periodicPts (step f)

variable {f}

theorem iterate_none (n : Nat) : (step f)^[n] none = none := Function.iterate_fixed rfl n

/-- A chain that ended earlier has ended. -/
theorem iterate_eq_none {a : α} {m n : Nat} (hle : m ≤ n) (h : (step f)^[m] (some a) = none) :
    (step f)^[n] (some a) = none := by
  rw [← Nat.sub_add_cancel hle, Function.iterate_add_apply, h, iterate_none]

theorem exists_next {a : α} (h : ¬ Ends f a) : ∃ b, f a = some b ∧ ¬ Ends f b := by
  by_contra hnone
  push Not at hnone
  exact h (Acc.intro a hnone)

theorem Ends.iterate {a : α} (h : Ends f a) : ∃ n, (step f)^[n] (some a) = none := by
  induction h with
  | intro a _ ih =>
    cases hf : f a with
    | none => exact ⟨1, hf⟩
    | some b =>
      obtain ⟨n, hn⟩ := ih b hf
      exact ⟨n + 1, by rw [Function.iterate_succ_apply]; exact (congrArg _ hf).trans hn⟩

theorem iterate_ne_none {a : α} (h : ¬ Ends f a) (n : Nat) : (step f)^[n] (some a) ≠ none := by
  induction n generalizing a with
  | zero => exact Option.some_ne_none a
  | succ n ih =>
    obtain ⟨b, hf, hb⟩ := exists_next h
    rw [Function.iterate_succ_apply, show step f (some a) = some b from hf]
    exact ih hb

/-- A cycle has no end. -/
theorem Loops.not_ends {a : α} (h : Loops f a) : ¬ Ends f a := by
  obtain ⟨i, b, hb, hper⟩ := h
  obtain ⟨k, hk, hkb⟩ := Function.mem_periodicPts.mp hper
  intro hends
  obtain ⟨n, hn⟩ := hends.iterate
  -- after `n` rounds of the cycle the chain is past the end
  have hround : (step f)^[n * k + i] (some a) = some b := by
    rw [Function.iterate_add_apply, hb]
    exact hkb.const_mul n
  have hpast : (step f)^[n * k + i] (some a) = none := by
    have hle : n ≤ n * k + i := Nat.le_trans (Nat.le_mul_of_pos_right n hk) (Nat.le_add_right ..)
    exact iterate_eq_none hle hn
  rw [hround] at hpast
  cases hpast

/-- A chain that comes back to where it was loops. -/
theorem loops_of_repeat {a : α} {m n : Nat} (hlt : m < n)
    (heq : (step f)^[m] (some a) = (step f)^[n] (some a)) (hne : (step f)^[m] (some a) ≠ none) :
    Loops f a := by
  obtain ⟨b, hb⟩ := Option.ne_none_iff_exists'.mp hne
  refine ⟨m, b, hb, Function.mk_mem_periodicPts (n := n - m) (by omega) ?_⟩
  show (step f)^[n - m] (some b) = some b
  rw [← hb, ← Function.iterate_add_apply, Nat.sub_add_cancel hlt.le, ← heq]

/-- Behind the first link every point is linked to. -/
theorem exists_link {a : α} {n : Nat} (h : (step f)^[n + 1] (some a) ≠ none) :
    ∃ b, (step f)^[n + 1] (some a) = some b ∧ ∃ c, f c = some b := by
  obtain ⟨b, hb⟩ := Option.ne_none_iff_exists'.mp h
  refine ⟨b, hb, ?_⟩
  rw [Function.iterate_succ_apply'] at hb
  obtain ⟨c, -, hc⟩ := Option.bind_eq_some_iff.mp hb
  exact ⟨c, hc⟩

/-- Where finitely many points are linked to, the links end unless they cycle. -/
theorem not_ends_iff_loops (hfin : {b | ∃ a, f a = some b}.Finite) {a : α} :
    ¬ Ends f a ↔ Loops f a := by
  refine ⟨fun h => ?_, Loops.not_ends⟩
  have hmem : ∀ n, (step f)^[n + 1] (some a) ∈ some '' {b | ∃ a, f a = some b} := by
    intro n
    obtain ⟨b, hb, hlink⟩ := exists_link (iterate_ne_none h (n + 1))
    exact ⟨b, hlink, hb.symm⟩
  obtain ⟨m, n, hlt, heq⟩ := Set.Finite.exists_lt_map_eq_of_forall_mem hmem (hfin.image some)
  exact loops_of_repeat (Nat.succ_lt_succ hlt) heq (iterate_ne_none h (m + 1))

/-- A chain of more links than there are points to link to has no end. -/
theorem long_iff_loops {points : Finset α} (hpoints : ∀ a b, f a = some b → b ∈ points) {n : Nat}
    (hn : points.card < n) {a : α} : (step f)^[n] (some a) ≠ none ↔ Loops f a := by
  refine ⟨fun h => ?_, fun h => iterate_ne_none h.not_ends n⟩
  have hlong : ∀ k, k ≤ n → (step f)^[k] (some a) ≠ none := fun k hk hnone =>
    h (iterate_eq_none hk hnone)
  have hmem : ∀ k ∈ Finset.range n, (step f)^[k + 1] (some a) ∈ points.map .some := by
    intro k hk
    obtain ⟨b, hb, c, hc⟩ := exists_link (hlong (k + 1) (Finset.mem_range.mp hk))
    rw [hb]
    exact Finset.mem_map_of_mem _ (hpoints c b hc)
  obtain ⟨i, hi, j, hj, hne, heq⟩ := Finset.exists_ne_map_eq_of_card_lt_of_maps_to
    (by rw [Finset.card_map, Finset.card_range]; exact hn) hmem
  rw [Finset.mem_range] at hi hj
  rcases Nat.lt_or_gt_of_ne hne with hlt | hgt
  · exact loops_of_repeat (Nat.succ_lt_succ hlt) heq (hlong (i + 1) hi)
  · exact loops_of_repeat (Nat.succ_lt_succ hgt) heq.symm (hlong (j + 1) hj)

end TcpIpStack.Lib.Chain
