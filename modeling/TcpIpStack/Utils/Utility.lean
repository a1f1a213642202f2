import TcpIpStack.Lib.OnesComplement
import TcpIpStack.Java.ByteBuffer

/-!
# `utils.Utility`: the Internet checksum

`checksum` sums a buffer in 16-bit words and folds the carry once before it
complements (`checksum_toNat`). A buffer is accepted when the complete
ones'-complement sum is all ones (`Verifies`).
-/

namespace TcpIpStack.Utility

open TcpIpStack.Lib TcpIpStack.Java

/-- The `while (length > 0)` loop over the bytes still to add. -/
def checksumLoop (sum : Long) : Bytes → Long
  | [] => sum
  | [a] => sum + a.setWidth 64 <<< 8
  | a :: b :: rest => checksumLoop (sum + a.setWidth 64 <<< 8 + b.setWidth 64) rest

/-- `checksum(byte[] buf, int length)`. -/
def checksum (buf : Bytes) (length : Nat) : Except Throwable Long :=
  if length ≤ buf.length then
    let sum := checksumLoop 0 (buf.take length)
    .ok (~~~((sum &&& 0xFFFF) + sum.sshiftRight 16) &&& 0xFFFF)
  else .error .indexOutOfBounds

/-- The complete ones'-complement sum of the buffer's 16-bit words is `0xFFFF`. -/
def Verifies (b : Bytes) : Prop := foldAll (2 ^ 16) (pairSum b) = 2 ^ 16 - 1

/-- One fold of the buffer's sum leaves no carry. -/
def FoldsOnce (b : Bytes) : Prop := foldOnce (2 ^ 16) (pairSum b) < 2 ^ 16

instance (b : Bytes) : Decidable (FoldsOnce b) := inferInstanceAs (Decidable (_ < _))

theorem checksumLoop_toNat (b : Bytes) (sum : Long) (h : sum.toNat + pairSum b < 2 ^ 64) :
    (checksumLoop sum b).toNat = sum.toNat + pairSum b := by
  have hshift : ∀ a : Byte, (a.setWidth 64 <<< 8 : Long).toNat = a.toNat * 2 ^ 8 := fun a => by
    have := a.isLt
    simp only [BitVec.toNat_shiftLeft, BitVec.toNat_setWidth, Nat.shiftLeft_eq]
    omega
  induction sum, b using checksumLoop.induct with
  | case1 sum => simp [checksumLoop, pairSum]
  | case2 sum a =>
    simp only [pairSum] at h ⊢
    rw [checksumLoop, BitVec.toNat_add, hshift]
    omega
  | case3 sum a b rest ih =>
    have hb : (b.setWidth 64 : Long).toNat = b.toNat := by
      have := b.isLt
      rw [BitVec.toNat_setWidth]; omega
    simp only [pairSum] at h ⊢
    have hsum : (sum + a.setWidth 64 <<< 8 + b.setWidth 64).toNat =
        sum.toNat + a.toNat * 2 ^ 8 + b.toNat := by
      rw [BitVec.toNat_add, BitVec.toNat_add, hshift, hb]; omega
    rw [checksumLoop, ih (by omega)]
    omega

/-- A Java array's sum stays far below the sign bit of a `long`. -/
theorem pairSum_lt_of_length {b : Bytes} (h : b.length ≤ maxArrayLength) :
    pairSum b < 2 ^ 46 + 2 ^ 16 := by
  have := pairSum_lt b
  simp only [maxArrayLength] at h
  omega

/-- The checksum is the complement of the low half of the once-folded sum. -/
theorem checksum_toNat {b : Bytes} (h : b.length ≤ maxArrayLength) :
    ∃ c, checksum b b.length = .ok c ∧
      c.toNat = 2 ^ 16 - 1 - foldOnce (2 ^ 16) (pairSum b) % 2 ^ 16 := by
  have hlt := pairSum_lt_of_length h
  refine ⟨_, by rw [checksum, if_pos (Nat.le_refl _), List.take_length], ?_⟩
  have hsum : (checksumLoop 0 b).toNat = pairSum b := by
    rw [checksumLoop_toNat b 0 (by simp; omega)]; simp
  generalize checksumLoop 0 b = sum at hsum
  have hmsb : sum.msb = false := by rw [BitVec.msb_eq_false_iff_two_mul_lt]; omega
  have hlow : ∀ x : Long, (x &&& 0xFFFF).toNat = x.toNat % 2 ^ 16 := fun x => by
    rw [BitVec.toNat_and]; exact Nat.and_two_pow_sub_one_eq_mod x.toNat 16
  have hshr : (sum.sshiftRight 16).toNat = sum.toNat / 2 ^ 16 := by
    rw [BitVec.sshiftRight_eq_of_msb_false hmsb, BitVec.toNat_ushiftRight, Nat.shiftRight_eq_div_pow]
  rw [hlow, BitVec.toNat_not, BitVec.toNat_add, hlow, hshr, hsum]
  simp only [foldOnce]
  omega

/-- Storing a 16-bit value over a zero word at an even offset adds it to the sum. -/
theorem pairSum_storeAt {b : Bytes} {o : Nat} (ho : o % 2 = 0) (hz : slice b o 2 = [0, 0])
    (s : Short) : pairSum (ByteBuffer.storeAt b o (shortBytes s)) = s.toNat + pairSum b := by
  have hlen : o + 2 ≤ b.length := by
    have := congrArg List.length hz
    simp only [slice, List.length_take, List.length_drop, List.length_cons, List.length_nil] at this
    omega
  have hsplit : b = b.take o ++ ([0, 0] ++ b.drop (o + 2)) := by
    rw [← hz, slice, ← List.drop_drop, List.take_append_drop, List.take_append_drop]
  have hpre : (b.take o).length % 2 = 0 := by rw [List.length_take]; omega
  have hb : pairSum b = pairSum (b.take o) + pairSum (b.drop (o + 2)) := by
    conv_lhs => rw [hsplit, pairSum_append hpre]
    simp [pairSum]
  rw [ByteBuffer.storeAt, shortBytes_length, List.append_assoc, pairSum_append hpre, shortBytes,
    pairSum_beDigits_append (by have := s.isLt; omega), hb]
  omega

/-- The buffer with its checksum stored verifies if and only if folding once
was enough. -/
theorem verifies_storeAt_checksum {b : Bytes} {o : Nat} (h : b.length ≤ maxArrayLength)
    (ho : o % 2 = 0) (hz : slice b o 2 = [0, 0]) {c : Long} (hc : checksum b b.length = .ok c) :
    Verifies (ByteBuffer.storeAt b o (shortBytes (c.setWidth 16))) ↔ FoldsOnce b := by
  obtain ⟨c', hc', hval⟩ := checksum_toNat h
  obtain rfl : c' = c := by rw [hc] at hc'; cases hc'; rfl
  have hlt := pairSum_lt_of_length h
  have hlow : (c'.setWidth 16).toNat = 2 ^ 16 - 1 - foldOnce (2 ^ 16) (pairSum b) % 2 ^ 16 := by
    rw [BitVec.toNat_setWidth, hval]; omega
  rw [Verifies, FoldsOnce, pairSum_storeAt ho hz, hlow, Nat.add_comm]
  apply foldAll_add_complement_iff (by decide)
  simp only [foldOnce]
  omega

/-! ## Headers -/

/-- How an encoder ends: the checksum of the header it laid out, stored over
the zero word at `o`. A header it did not lay out stays `null`. -/
def storeChecksum (o : Nat) (header : Option ByteBuffer) : Except Throwable (Option Bytes) :=
  match header with
  | none => return none
  | some byteBuffer => do
    let checkSum ← checksum byteBuffer.array byteBuffer.array.length
    let byteBuffer ← byteBuffer.putShortAt o (checkSum.setWidth 16)
    return some byteBuffer.array

/-- The checksum goes over the word at `o`, whatever it comes to. -/
theorem storeChecksum_eq {o : Nat} {bb : ByteBuffer} (h : o + 2 ≤ bb.array.length) :
    ∃ c, storeChecksum o (some bb) = .ok (some (ByteBuffer.storeAt bb.array o (shortBytes c))) := by
  simp only [storeChecksum, checksum, ByteBuffer.putShortAt, if_pos (Nat.le_refl _), ok_bind,
    dif_pos h]
  exact ⟨_, rfl⟩

theorem storeAt_storeAt {a xs ys : Bytes} {i : Nat} (hi : i + ys.length ≤ a.length)
    (hlen : xs.length = ys.length) :
    ByteBuffer.storeAt (ByteBuffer.storeAt a i xs) i ys = ByteBuffer.storeAt a i ys := by
  have htake : (a.take i).length = i := by rw [List.length_take]; omega
  simp only [ByteBuffer.storeAt, List.append_assoc]
  rw [List.take_append_of_le_length (by omega), List.take_take, Nat.min_self, List.drop_append,
    List.drop_eq_nil_of_le (by omega), htake, Nat.add_sub_cancel_left, ← hlen, List.drop_left,
    List.nil_append]

theorem storeAt_slice {a : Bytes} {i n : Nat} (h : i + n ≤ a.length) :
    ByteBuffer.storeAt a i (slice a i n) = a := by
  rw [ByteBuffer.storeAt, slice_length h, slice, ← List.drop_drop, List.append_assoc,
    List.take_append_drop, List.take_append_drop]

/-- A header with its checksum stored verifies if and only if its other words
fold without a second carry. -/
theorem storeChecksum_verifies_iff {n o : Nat} {bb : ByteBuffer} {h : Bytes} (ho : o % 2 = 0)
    (hn : n ≤ maxArrayLength) (hbb : bb.Filled n (ByteBuffer.ZeroWordAt o))
    (hc : storeChecksum o (some bb) = .ok (some h)) :
    Verifies h ↔ FoldsOnce (ByteBuffer.storeAt h o [0, 0]) := by
  obtain ⟨hlen, hz⟩ := hbb.zeroWord
  obtain ⟨c, hsum, hc⟩ := bind_eq_ok_iff.mp hc
  obtain ⟨b, hput, hc⟩ := bind_eq_ok_iff.mp hc
  cases hc
  unfold ByteBuffer.putShortAt at hput
  split at hput
  · rename_i hfit
    cases hput
    rw [verifies_storeAt_checksum (by omega) ho hz hsum,
      storeAt_storeAt (by simpa using hfit) (by simp), ← hz, storeAt_slice hfit]
  · cases hput

end TcpIpStack.Utility
