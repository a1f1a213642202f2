import TcpIpStack.Lib.Digits

/-!
# Ones'-complement sums

A sum `s` is folded in base `B` by adding its carry `s / B` back to its low
digit `s % B`. `foldOnce` does so one time, `foldAll` until no carry is left;
`foldAll_eq_max_iff` says which sums fold to the all-ones digit `B - 1`, and
`foldAll_add_complement_iff` when adding the complement of a once-folded sum
makes one of them: exactly when that one fold left no carry.

`pairSum` sums a digit list two digits at a time, an odd last digit padded with
a zero digit on its right.
-/

namespace TcpIpStack.Lib

variable {B s : Nat}

/-- One carry fold of `s` in base `B`. -/
def foldOnce (B s : Nat) : Nat := s % B + s / B

theorem foldOnce_lt (hB : 2 ≤ B) (hs : B ≤ s) : foldOnce B s < s := by
  have hq : 1 ≤ s / B := (Nat.one_le_div_iff (by omega)).mpr hs
  have hdiv := Nat.mod_add_div s B
  have : s / B * 2 ≤ s / B * B := Nat.mul_le_mul_left _ hB
  rw [Nat.mul_comm B] at hdiv
  simp only [foldOnce]
  omega

/-- Fold the carries of `s` until none is left. -/
def foldAll (B s : Nat) : Nat :=
  if _h : 2 ≤ B ∧ B ≤ s then foldAll B (foldOnce B s) else s
termination_by s
decreasing_by exact foldOnce_lt _h.1 _h.2

theorem foldAll_of_lt (hs : s < B) : foldAll B s = s := by
  rw [foldAll, dif_neg (by omega)]

theorem foldAll_of_le (hB : 2 ≤ B) (hs : B ≤ s) : foldAll B s = foldAll B (foldOnce B s) := by
  rw [foldAll, dif_pos ⟨hB, hs⟩]

/-- Folding keeps the residue modulo `B - 1`. -/
theorem foldOnce_modEq (hB : 1 ≤ B) (s : Nat) : foldOnce B s ≡ s [MOD B - 1] := by
  have hone : B ≡ 1 [MOD B - 1] := by
    have : B - 1 + 1 ≡ 0 + 1 [MOD B - 1] := Nat.ModEq.add_right 1 (by simp [Nat.ModEq])
    rwa [Nat.sub_add_cancel hB] at this
  calc foldOnce B s = s % B + 1 * (s / B) := by rw [foldOnce, Nat.one_mul]
    _ ≡ s % B + B * (s / B) [MOD B - 1] := (hone.symm.mul_right _).add_left _
    _ = s := Nat.mod_add_div s B

/-- What relates every sum without a carry to itself, and a sum to what its fold is
related to, relates every sum to what it folds to. -/
theorem foldAll_rel {P : Nat → Nat → Prop} (hB : 2 ≤ B) (hlt : ∀ s < B, P s s)
    (hfold : ∀ s r, B ≤ s → P (foldOnce B s) r → P s r) (s : Nat) : P s (foldAll B s) := by
  induction s using Nat.strong_induction_on with
  | _ s ih =>
    by_cases hs : B ≤ s
    · rw [foldAll_of_le hB hs]
      exact hfold s _ hs (ih _ (foldOnce_lt hB hs))
    · rw [foldAll_of_lt (by omega)]
      exact hlt s (by omega)

theorem foldAll_modEq (hB : 2 ≤ B) (s : Nat) : foldAll B s ≡ s [MOD B - 1] :=
  foldAll_rel (P := fun s r => r ≡ s [MOD B - 1]) hB (fun s _ => Nat.ModEq.refl s)
    (fun s _ _ h => h.trans (foldOnce_modEq (by omega) s)) s

theorem foldAll_lt (hB : 2 ≤ B) (s : Nat) : foldAll B s < B :=
  foldAll_rel (P := fun _ r => r < B) hB (fun _ hs => hs) (fun _ _ _ h => h) s

theorem foldAll_pos (hB : 2 ≤ B) (s : Nat) : 0 < foldAll B s ↔ 0 < s := by
  refine foldAll_rel (P := fun s r => 0 < r ↔ 0 < s) hB (fun _ _ => Iff.rfl) ?_ s
  intro s r hs h
  have hq : 1 ≤ s / B := (Nat.one_le_div_iff (by omega)).mpr hs
  have hpos : 0 < foldOnce B s := by
    simp only [foldOnce]
    omega
  exact h.trans (iff_of_true hpos (by omega))

/-- The sums that fold to all ones: the positive multiples of `B - 1`. -/
theorem foldAll_eq_max_iff (hB : 2 ≤ B) : foldAll B s = B - 1 ↔ 0 < s ∧ B - 1 ∣ s := by
  have hmod := foldAll_modEq hB s
  constructor
  · intro h
    rw [h] at hmod
    exact ⟨(foldAll_pos hB s).mp (by omega), (hmod.dvd_iff (Nat.dvd_refl _)).mp (Nat.dvd_refl _)⟩
  · rintro ⟨hpos, hdvd⟩
    have hlt := foldAll_lt hB s
    have hp := (foldAll_pos hB s).mpr hpos
    have hd := (hmod.dvd_iff (Nat.dvd_refl _)).mpr hdvd
    have := Nat.le_of_dvd hp hd
    omega

/-- Adding the complement of the once-folded sum `s` makes a sum that folds to
all ones, if and only if one fold was enough. The complement drops the second
carry `foldOnce B s / B`, which is what is left modulo `B - 1`. -/
theorem foldAll_add_complement_iff (hB : 2 ≤ B) (hq : foldOnce B s / B < B - 1) :
    foldAll B (s + (B - 1 - foldOnce B s % B)) = B - 1 ↔ foldOnce B s < B := by
  rw [foldAll_eq_max_iff hB]
  have hr : foldOnce B s % B < B := Nat.mod_lt _ (by omega)
  have hres : s + (B - 1 - foldOnce B s % B) ≡ foldOnce B s / B [MOD B - 1] := by
    calc s + (B - 1 - foldOnce B s % B)
        ≡ foldOnce B (foldOnce B s) + (B - 1 - foldOnce B s % B) [MOD B - 1] :=
          (((foldOnce_modEq (by omega) _).trans (foldOnce_modEq (by omega) s)).symm).add_right _
      _ = foldOnce B s / B + (B - 1) := by
          have : foldOnce B (foldOnce B s) = foldOnce B s % B + foldOnce B s / B := rfl
          omega
      _ ≡ foldOnce B s / B [MOD B - 1] := by simp [Nat.ModEq]
  rw [hres.dvd_iff (Nat.dvd_refl _)]
  constructor
  · rintro ⟨-, hdvd⟩
    have hzero := Nat.eq_zero_of_dvd_of_lt hdvd hq
    exact (Nat.div_eq_zero_iff_lt (by omega)).mp hzero
  · intro hlt
    refine ⟨?_, ?_⟩
    · rw [Nat.mod_eq_of_lt hlt]
      by_cases hs : s = 0
      · subst hs; simp [foldOnce]; omega
      · omega
    · rw [Nat.div_eq_of_lt hlt]; exact Nat.dvd_zero _

/-! ## Sums of digit pairs -/

variable {w : Nat}

/-- The sum of the two-digit words of a list. -/
def pairSum : List (BitVec w) → Nat
  | [] => 0
  | [a] => a.toNat * 2 ^ w
  | a :: b :: rest => a.toNat * 2 ^ w + b.toNat + pairSum rest

theorem pairSum_append {x : List (BitVec w)} (hx : x.length % 2 = 0) (y : List (BitVec w)) :
    pairSum (x ++ y) = pairSum x + pairSum y := by
  induction x using pairSum.induct with
  | case1 => simp [pairSum]
  | case2 a => simp at hx
  | case3 a b rest ih =>
    simp only [List.length_cons] at hx
    simp only [List.cons_append, pairSum, ih (by omega), Nat.add_assoc]

/-- A word is two digits: it adds its own value. -/
theorem pairSum_beDigits_append {n : Nat} (hn : n < 2 ^ (w * 2)) (y : List (BitVec w)) :
    pairSum (beDigits 2 n ++ y) = n + pairSum y := by
  have hmul : 2 ^ (w * 2) = 2 ^ w * 2 ^ w := by rw [Nat.mul_two, Nat.pow_add]
  rw [hmul] at hn
  have hdiv : n / 2 ^ w < 2 ^ w := Nat.div_lt_of_lt_mul hn
  simp only [beDigits, List.cons_append, List.nil_append, pairSum, BitVec.toNat_ofNat, Nat.mul_one,
    Nat.mul_zero, Nat.pow_zero, Nat.div_one, Nat.mod_eq_of_lt hdiv]
  have := Nat.mod_add_div n (2 ^ w)
  rw [Nat.mul_comm] at this
  omega

theorem pairSum_lt (x : List (BitVec w)) : pairSum x < (x.length / 2 + 1) * 2 ^ (w * 2) := by
  have hmul : 2 ^ (w * 2) = 2 ^ w * 2 ^ w := by rw [Nat.mul_two, Nat.pow_add]
  have hpos := Nat.two_pow_pos w
  have hword : ∀ a b : BitVec w, a.toNat * 2 ^ w + b.toNat < 2 ^ w * 2 ^ w := fun a b =>
    calc a.toNat * 2 ^ w + b.toNat < a.toNat * 2 ^ w + 2 ^ w := by have := b.isLt; omega
      _ = (a.toNat + 1) * 2 ^ w := by ring
      _ ≤ 2 ^ w * 2 ^ w := Nat.mul_le_mul_right _ a.isLt
  rw [hmul]
  induction x using pairSum.induct with
  | case1 => simp [pairSum]
  | case2 a =>
    have := hword a 0
    simpa [pairSum] using this
  | case3 a b rest ih =>
    have h1 := hword a b
    simp only [pairSum, List.length_cons]
    rw [show (rest.length + 1 + 1) / 2 + 1 = (rest.length / 2 + 1) + 1 by omega, Nat.add_mul,
      Nat.one_mul]
    omega

end TcpIpStack.Lib
