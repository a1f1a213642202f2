import Mathlib.Data.Nat.ModEq
import Mathlib.Tactic.Ring

/-!
# Big-endian digits

`beDigits k n` are the `k` low digits of `n` in base `2 ^ w`, most significant
first, each a `w`-bit word; `beNat` reads a digit list back. The two are
inverse up to the width: `beNat_beDigits` and `beDigits_beNat`.
-/

namespace TcpIpStack.Lib

variable {w : Nat}

/-- The `k` low base-`2 ^ w` digits of `n`, most significant first. -/
def beDigits : Nat → Nat → List (BitVec w)
  | 0, _ => []
  | k + 1, n => BitVec.ofNat w (n / 2 ^ (w * k)) :: beDigits k n

/-- The number a digit list spells. -/
def beNat : List (BitVec w) → Nat
  | [] => 0
  | d :: ds => d.toNat * 2 ^ (w * ds.length) + beNat ds

@[simp] theorem beDigits_length (k n : Nat) : (beDigits k n : List (BitVec w)).length = k := by
  induction k with
  | zero => rfl
  | succ k ih => simp [beDigits, ih]

theorem beNat_lt (ds : List (BitVec w)) : beNat ds < 2 ^ (w * ds.length) := by
  induction ds with
  | nil => simp [beNat]
  | cons d ds ih =>
    have hd := d.isLt
    calc beNat (d :: ds) < d.toNat * 2 ^ (w * ds.length) + 2 ^ (w * ds.length) := by
          simp only [beNat]; omega
      _ = (d.toNat + 1) * 2 ^ (w * ds.length) := by ring
      _ ≤ 2 ^ w * 2 ^ (w * ds.length) := Nat.mul_le_mul_right _ hd
      _ = 2 ^ (w * (d :: ds).length) := by rw [← Nat.pow_add, List.length_cons]; ring_nf

/-- Writing `k` digits and reading them back reduces modulo the width. -/
theorem beNat_beDigits (k n : Nat) : beNat (beDigits k n : List (BitVec w)) = n % 2 ^ (w * k) := by
  induction k with
  | zero => simp [beDigits, beNat, Nat.mod_one]
  | succ k ih =>
    simp only [beDigits, beNat, beDigits_length, BitVec.toNat_ofNat, ih]
    rw [Nat.mul_succ, Nat.pow_add, Nat.mod_mul, Nat.mul_comm (2 ^ (w * k)), Nat.add_comm]

theorem beDigits_add_mul (k m n : Nat) :
    (beDigits k (m * 2 ^ (w * k) + n) : List (BitVec w)) = beDigits k n := by
  suffices h : ∀ j, j ≤ k → (beDigits j (m * 2 ^ (w * k) + n) : List (BitVec w)) = beDigits j n from
    h k (Nat.le_refl k)
  intro j
  induction j with
  | zero => intro _; rfl
  | succ j ih =>
    intro hj
    rw [beDigits, beDigits, ih (by omega)]
    congr 1
    apply BitVec.eq_of_toNat_eq
    obtain ⟨d, rfl⟩ : ∃ d, k = j + 1 + d := ⟨k - (j + 1), by omega⟩
    have hsplit : m * 2 ^ (w * (j + 1 + d)) + n = 2 ^ (w * j) * (2 ^ w * (m * 2 ^ (w * d))) + n := by
      rw [show w * (j + 1 + d) = w * j + w + w * d by ring, Nat.pow_add, Nat.pow_add]; ring
    rw [hsplit, BitVec.toNat_ofNat, BitVec.toNat_ofNat,
      Nat.mul_add_div (Nat.two_pow_pos _), Nat.mul_add_mod]

/-- Reading digits and writing them back is the identity. -/
theorem beDigits_beNat (ds : List (BitVec w)) : beDigits ds.length (beNat ds) = ds := by
  induction ds with
  | nil => rfl
  | cons d ds ih =>
    have hlt := beNat_lt ds
    simp only [List.length_cons, beDigits, beNat, beDigits_add_mul, ih]
    congr 1
    apply BitVec.eq_of_toNat_eq
    rw [BitVec.toNat_ofNat, Nat.mul_comm, Nat.mul_add_div (Nat.two_pow_pos _),
      Nat.div_eq_of_lt hlt, Nat.add_zero, Nat.mod_eq_of_lt d.isLt]

end TcpIpStack.Lib
