import Mathlib.Data.List.Nodup

/-!
# Stop and wait

A sender numbers its blocks from 1, goes on to the next block once the last has
been answered, and may send again any block it has sent before. `LockStep` are
the arrivals this allows. A receiver that keeps whatever arrives ends with the
blocks in order exactly when none arrived twice.
-/

namespace TcpIpStack.Lib

variable {ι α : Type}

/-- Arrivals after which the blocks up to `k` have been seen. -/
inductive LockStep (block : ι → Nat) : Nat → List ι → Prop
  | start : LockStep block 0 []
  | next {k : Nat} {run : List ι} {i : ι} (h : LockStep block k run) (hi : block i = k + 1) :
      LockStep block (k + 1) (run ++ [i])
  | again {k : Nat} {run : List ι} {i : ι} (h : LockStep block k run) (hpos : 1 ≤ block i)
      (hle : block i ≤ k) : LockStep block k (run ++ [i])

namespace LockStep

variable {block : ι → Nat} {k : Nat} {run : List ι}

/-- The blocks seen are those from 1 to `k`. -/
theorem mem_iff (h : LockStep block k run) (j : Nat) : j ∈ run.map block ↔ 1 ≤ j ∧ j ≤ k := by
  induction h with
  | start => simp only [List.map_nil, List.not_mem_nil, false_iff]; omega
  | next _ hi ih =>
    rw [List.map_append, List.mem_append, ih, List.map_singleton, List.mem_singleton, hi]
    omega
  | again _ hpos hle ih =>
    rw [List.map_append, List.mem_append, ih, List.map_singleton, List.mem_singleton]
    omega

theorem le_length (h : LockStep block k run) : k ≤ run.length := by
  induction h with
  | start => exact Nat.le_refl 0
  | next _ _ ih => rw [List.length_append]; exact Nat.succ_le_succ ih
  | again _ _ _ ih => rw [List.length_append]; exact Nat.le_succ_of_le ih

/-- As many arrivals as blocks: each has come once, in order. -/
theorem map_block (h : LockStep block k run) (hlen : run.length = k) :
    run.map block = List.range' 1 k := by
  induction h with
  | start => rfl
  | next _ hi ih =>
    rw [List.length_append] at hlen
    rw [List.map_append, ih (Nat.succ.inj hlen), List.map_singleton, hi,
      List.range'_1_concat, Nat.add_comm 1]
  | again h _ _ _ =>
    have hle := h.le_length
    rw [List.length_append, List.length_singleton] at hlen
    omega

theorem nodup_iff (h : LockStep block k run) : (run.map block).Nodup ↔ run.length = k := by
  constructor
  · intro hnodup
    induction h with
    | start => rfl
    | next _ _ ih =>
      rw [List.map_append] at hnodup
      rw [List.length_append, ih (List.nodup_append.mp hnodup).1]
      rfl
    | @again _ run i h hpos hle _ =>
      rw [List.map_append] at hnodup
      have hseen : block i ∈ run.map block := (h.mem_iff _).mpr ⟨hpos, hle⟩
      exact absurd rfl ((List.nodup_append.mp hnodup).2.2 _ hseen _ (List.mem_singleton_self _))
  · intro hlen
    rw [h.map_block hlen]
    exact List.nodup_range'

/-- What arrived, put one after the other, is the blocks in order if and only if
no block arrived twice; all have one positive length. -/
theorem flatMap_eq_iff (h : LockStep block k run) (payload : Nat → List α) {m : Nat} (hm : 0 < m)
    (hlen : ∀ j, 1 ≤ j → j ≤ k → (payload j).length = m) :
    run.flatMap (fun i => payload (block i)) = (List.range' 1 k).flatMap payload ↔
      (run.map block).Nodup := by
  have hmap : run.flatMap (fun i => payload (block i)) = (run.map block).flatMap payload :=
    (List.flatMap_map ..).symm
  have hlength : ∀ js : List Nat, (∀ j ∈ js, 1 ≤ j ∧ j ≤ k) →
      (js.flatMap payload).length = js.length * m := by
    intro js hjs
    rw [List.length_flatMap, List.map_congr_left fun j hj => hlen j (hjs j hj).1 (hjs j hj).2,
      List.map_const', List.sum_replicate_nat]
  rw [h.nodup_iff, hmap]
  constructor
  · intro heq
    have hcount := congrArg List.length heq
    rw [hlength _ fun j hj => (h.mem_iff j).mp hj, hlength _ fun j hj => by
      rw [List.mem_range'_1] at hj; omega, List.length_map, List.length_range'] at hcount
    exact Nat.eq_of_mul_eq_mul_right hm hcount
  · intro heq
    rw [h.map_block heq]

end LockStep

end TcpIpStack.Lib
