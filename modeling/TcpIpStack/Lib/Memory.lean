import Mathlib.Data.List.Basic

/-!
# Memory behind a pointer

C code that is handed a pointer and a length can read on behind the length. A
`Memory` is what stands behind the pointer for as far as it is followed;
`laid xs beyond` holds the array `xs` first. A region inside the array does not
depend on `beyond` (`region_laid`).
-/

namespace TcpIpStack.Lib

variable {α : Type}

/-- What stands behind a pointer, by offset. -/
abbrev Memory (α : Type) : Type := Nat → α

namespace Memory

/-- The `n` cells from offset `i` on. -/
def region (m : Memory α) (i n : Nat) : List α := (List.range n).map fun k => m (i + k)

/-- The array, and whatever comes after it. -/
def laid (xs : List α) (beyond : Memory α) : Memory α := fun i =>
  if h : i < xs.length then xs[i] else beyond (i - xs.length)

@[simp] theorem region_length (m : Memory α) (i n : Nat) : (m.region i n).length = n := by
  simp [region]

@[simp] theorem region_zero (m : Memory α) (i : Nat) : m.region i 0 = [] := rfl

theorem laid_of_lt {xs : List α} {i : Nat} (h : i < xs.length) (beyond : Memory α) :
    laid xs beyond i = xs[i] := dif_pos h

/-- Inside the array a region is a piece of it. -/
theorem region_laid {xs : List α} {i n : Nat} (h : i + n ≤ xs.length) (beyond : Memory α) :
    (laid xs beyond).region i n = (xs.drop i).take n := by
  apply List.ext_getElem
  · rw [region_length, List.length_take, List.length_drop]
    omega
  · intro k hk _
    rw [region_length] at hk
    simp only [region, List.getElem_map, List.getElem_range, List.getElem_take, List.getElem_drop]
    exact laid_of_lt (by omega) beyond

/-- A region that starts at the pointer. -/
theorem region_laid_zero {xs : List α} {n : Nat} (h : n ≤ xs.length) (beyond : Memory α) :
    (laid xs beyond).region 0 n = xs.take n := by
  rw [region_laid (by omega), List.drop_zero]

end Memory

end TcpIpStack.Lib
