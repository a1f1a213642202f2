import Mathlib.Data.List.GetD
import TcpIpStack.Lib.Digits

/-!
# Java values

Machine integers are bit vectors read as signed by `BitVec.toInt`: widening is
`signExtend` (zero extension for `char`), a narrowing cast is `setWidth`. A
`byte[]` is a list of bytes, a `String` a list of UTF-16 code units. A method
that can throw returns in `Except Throwable`.
-/

namespace TcpIpStack.Java

open TcpIpStack.Lib

abbrev Byte := BitVec 8
abbrev Short := BitVec 16
/-- `char`: sixteen bits, unsigned. -/
abbrev JChar := BitVec 16
abbrev JInt := BitVec 32
abbrev Long := BitVec 64
abbrev Bytes := List Byte
abbrev JString := List JChar

/-- What the modelled code can throw. -/
inductive Throwable where
  | bufferUnderflow
  | bufferOverflow
  | indexOutOfBounds
  | illegalArgument
  | negativeArraySize
  | nullPointer
  | classCast
  | ioException
  | exception (message : String)
  | stackOverflowError
  deriving DecidableEq, Repr

/-- Whether `catch (Exception e)` catches it: an `Error` is no `Exception`. -/
def Throwable.isException : Throwable → Bool
  | stackOverflowError => false
  | _ => true

/-- The lengths a Java array can have. -/
def maxArrayLength : Nat := 2 ^ 31 - 1

/-- `new byte[n]`. -/
def newArray (n : Int) : Except Throwable Bytes :=
  if n < 0 then .error .negativeArraySize else .ok (List.replicate n.toNat 0)

/-- The `n` bytes of an array from `i` on. -/
def slice (a : Bytes) (i n : Nat) : Bytes := (a.drop i).take n

/-- An array read `a[i]`, or a bulk read of `n` elements from `i`. -/
def readAt (a : Bytes) (i n : Nat) : Except Throwable Bytes :=
  if i + n ≤ a.length then .ok (slice a i n) else .error .indexOutOfBounds

/-- The `short` two bytes spell, big-endian. -/
def shortOf (bs : Bytes) : Short := BitVec.ofNat 16 (beNat bs)

def intOf (bs : Bytes) : JInt := BitVec.ofNat 32 (beNat bs)

def longOf (bs : Bytes) : Long := BitVec.ofNat 64 (beNat bs)

def shortBytes (s : Short) : Bytes := beDigits 2 s.toNat

def intBytes (i : JInt) : Bytes := beDigits 4 i.toNat

def longBytes (l : Long) : Bytes := beDigits 8 l.toNat

@[simp] theorem shortBytes_length (s : Short) : (shortBytes s).length = 2 := beDigits_length ..

@[simp] theorem intBytes_length (i : JInt) : (intBytes i).length = 4 := beDigits_length ..

@[simp] theorem shortOf_shortBytes (s : Short) : shortOf (shortBytes s) = s := by
  apply BitVec.eq_of_toNat_eq
  rw [shortOf, shortBytes, beNat_beDigits, BitVec.toNat_ofNat]
  have := s.isLt
  omega

@[simp] theorem intOf_intBytes (i : JInt) : intOf (intBytes i) = i := by
  apply BitVec.eq_of_toNat_eq
  rw [intOf, intBytes, beNat_beDigits, BitVec.toNat_ofNat]
  have := i.isLt
  omega

theorem intBytes_intOf {bs : Bytes} (h : bs.length = 4) : intBytes (intOf bs) = bs := by
  have hlt := beNat_lt bs
  rw [h] at hlt
  rw [intBytes, intOf, BitVec.toNat_ofNat, Nat.mod_eq_of_lt hlt, ← h, beDigits_beNat]

theorem shortBytes_shortOf {bs : Bytes} (h : bs.length = 2) : shortBytes (shortOf bs) = bs := by
  have hlt := beNat_lt bs
  rw [h] at hlt
  rw [shortBytes, shortOf, BitVec.toNat_ofNat, Nat.mod_eq_of_lt hlt, ← h, beDigits_beNat]

/-- A `short` narrowed from a small natural number. -/
theorem toInt_ofNat_short {n : Nat} (h : n < 2 ^ 16) :
    (BitVec.ofNat 16 n).toInt = if n < 2 ^ 15 then (n : Int) else n - 2 ^ 16 := by
  unfold BitVec.toInt
  rw [BitVec.toNat_ofNat, Nat.mod_eq_of_lt h]
  split <;> split <;> omega

/-! ## Slices of concatenations -/

theorem slice_length {a : Bytes} {i n : Nat} (h : i + n ≤ a.length) : (slice a i n).length = n := by
  simp only [slice, List.length_take, List.length_drop]; omega

theorem slice_append {pre mid post : Bytes} {i n : Nat} (hi : pre.length = i)
    (hn : mid.length = n) : slice (pre ++ mid ++ post) i n = mid := by
  subst hi hn
  simp [slice, List.append_assoc]

theorem slice_append_left {a b : Bytes} {i n : Nat} (h : i + n ≤ a.length) :
    slice (a ++ b) i n = slice a i n := by
  rw [slice, slice, List.drop_append_of_le_length (by omega), List.take_append_of_le_length]
  rw [List.length_drop]; omega

theorem slice_append_right {a b : Bytes} {i n : Nat} (h : a.length ≤ i) :
    slice (a ++ b) i n = slice b (i - a.length) n := by
  rw [slice, slice, List.drop_append, List.drop_eq_nil_of_le h, List.nil_append]

theorem slice_zero_append {mid post : Bytes} {n : Nat} (hn : mid.length = n) :
    slice (mid ++ post) 0 n = mid := by
  subst hn; simp [slice]

end TcpIpStack.Java
