import TcpIpStack.Java.Basic
import TcpIpStack.Lib.Prog

/-!
# `java.nio.ByteBuffer`

A heap buffer over a whole array: its limit is always the capacity, so the
state is the backing array and a position inside it. Every relative read is a
`take`, every relative write a `putBytes`, of the width of its type; all
multi-byte values are big-endian.

The encoders fill a fresh array from the left: `fresh w k` is such a buffer
with `w` written and `k` zero bytes left, and `fresh_putBytes` is the one fact
about a write their proofs use.
-/

namespace TcpIpStack.Java

open TcpIpStack.Lib

structure ByteBuffer where
  array : Bytes
  position : Nat
  position_le : position ≤ array.length

namespace ByteBuffer

theorem ext {b c : ByteBuffer} (ha : b.array = c.array) (hp : b.position = c.position) : b = c := by
  obtain ⟨a, p, h⟩ := b
  obtain ⟨a', p', h'⟩ := c
  cases ha; cases hp; rfl

def wrap (a : Bytes) : ByteBuffer := ⟨a, 0, Nat.zero_le _⟩

def remaining (b : ByteBuffer) : Nat := b.array.length - b.position

/-- The bytes not read yet. -/
def rest (b : ByteBuffer) : Bytes := b.array.drop b.position

/-- `position(int newPosition)`. -/
def setPosition (b : ByteBuffer) (p : Int) : Except Throwable ByteBuffer :=
  if h : 0 ≤ p ∧ p ≤ b.array.length then .ok ⟨b.array, p.toNat, by omega⟩
  else .error .illegalArgument

/-! ## Relative reads -/

/-- Read the next `n` bytes. -/
def take (b : ByteBuffer) (n : Nat) : Except Throwable (Bytes × ByteBuffer) :=
  if h : b.position + n ≤ b.array.length then
    .ok (slice b.array b.position n, ⟨b.array, b.position + n, h⟩)
  else .error .bufferUnderflow

/-- `get()`. -/
def get (b : ByteBuffer) : Except Throwable (Byte × ByteBuffer) :=
  if h : b.position < b.array.length then
    .ok (b.array[b.position], ⟨b.array, b.position + 1, h⟩)
  else .error .bufferUnderflow

/-- `getShort()`. -/
def getShort (b : ByteBuffer) : Except Throwable (Short × ByteBuffer) := do
  let (bs, b) ← b.take 2
  return (shortOf bs, b)

/-- `getInt()`. -/
def getInt (b : ByteBuffer) : Except Throwable (JInt × ByteBuffer) := do
  let (bs, b) ← b.take 4
  return (intOf bs, b)

/-- `getLong()`. -/
def getLong (b : ByteBuffer) : Except Throwable (Long × ByteBuffer) := do
  let (bs, b) ← b.take 8
  return (longOf bs, b)

/-! ## Absolute reads -/

/-- `get(int index)`. -/
def getAt (b : ByteBuffer) (i : Nat) : Except Throwable Byte :=
  if h : i < b.array.length then .ok b.array[i] else .error .indexOutOfBounds

/-- `getShort(int index)`. -/
def getShortAt (b : ByteBuffer) (i : Nat) : Except Throwable Short := do
  return shortOf (← readAt b.array i 2)

/-- `getInt(int index)`. -/
def getIntAt (b : ByteBuffer) (i : Nat) : Except Throwable JInt := do
  return intOf (← readAt b.array i 4)

theorem setPosition_ok {b : ByteBuffer} {p : Int} {n : Nat} (hp : p = n)
    (h : n ≤ b.array.length) : b.setPosition p = .ok ⟨b.array, n, h⟩ := by
  subst hp
  rw [setPosition, dif_pos ⟨Int.natCast_nonneg n, by exact_mod_cast h⟩]
  rfl

theorem take_length {b : ByteBuffer} {n : Nat} : Returns (b.take n) fun r => r.1.length = n := by
  intro r h
  unfold take at h
  split at h
  · next hle =>
    cases h
    exact slice_length hle
  · cases h

theorem take_ok {b : ByteBuffer} {n : Nat} (h : b.position + n ≤ b.array.length) :
    b.take n = .ok (slice b.array b.position n, ⟨b.array, b.position + n, h⟩) := dif_pos h

theorem setPosition_eq_ok {b b' : ByteBuffer} {p : Int} (h : b.setPosition p = .ok b') :
    b'.array = b.array ∧ (b'.position : Int) = p := by
  unfold setPosition at h
  split at h
  · cases h
    exact ⟨rfl, Int.toNat_of_nonneg (by omega)⟩
  · cases h

theorem take_eq_ok {b b' : ByteBuffer} {n : Nat} {bs : Bytes} (h : b.take n = .ok (bs, b')) :
    b.position + n ≤ b.array.length ∧ b'.array = b.array := by
  unfold take at h
  split at h
  · cases h
    exact ⟨‹_›, rfl⟩
  · cases h

theorem getAt_ok {b : ByteBuffer} {i : Nat} (h : i < b.array.length) :
    b.getAt i = .ok (b.array.getD i 0) := by
  rw [getAt, dif_pos h]
  exact congrArg Except.ok (List.getD_eq_getElem _ _ h).symm

theorem getAt_returns (b : ByteBuffer) (i : Nat) :
    Returns (b.getAt i) fun v => v = b.array.getD i 0 := by
  unfold getAt
  split
  · exact .ok (List.getD_eq_getElem ..).symm
  · exact .error

theorem getShortAt_ok {b : ByteBuffer} {i : Nat} (h : i + 2 ≤ b.array.length) :
    b.getShortAt i = .ok (shortOf (slice b.array i 2)) := by
  unfold getShortAt
  rw [readAt, if_pos h]
  rfl

theorem getIntAt_ok {b : ByteBuffer} {i : Nat} (h : i + 4 ≤ b.array.length) :
    b.getIntAt i = .ok (intOf (slice b.array i 4)) := by
  unfold getIntAt
  rw [readAt, if_pos h]
  rfl

/-! Every relative read of `n` bytes either fits or underflows. -/

theorem take_mk {a : Bytes} {p : Nat} (hp : p ≤ a.length) (n : Nat) :
    take ⟨a, p, hp⟩ n = if h : p + n ≤ a.length then .ok (slice a p n, ⟨a, p + n, h⟩)
      else .error .bufferUnderflow := rfl

theorem get_mk {a : Bytes} {p : Nat} (hp : p ≤ a.length) :
    get ⟨a, p, hp⟩ = if h : p + 1 ≤ a.length then .ok (a.getD p 0, ⟨a, p + 1, h⟩)
      else .error .bufferUnderflow := by
  unfold get
  by_cases h : p < a.length
  · rw [dif_pos h, dif_pos (show p + 1 ≤ a.length from h), List.getD_eq_getElem _ _ h]
  · rw [dif_neg h, dif_neg (show ¬ p + 1 ≤ a.length from h)]

theorem getShort_mk {a : Bytes} {p : Nat} (hp : p ≤ a.length) :
    getShort ⟨a, p, hp⟩ = if h : p + 2 ≤ a.length then
      .ok (shortOf (slice a p 2), ⟨a, p + 2, h⟩) else .error .bufferUnderflow := by
  rw [getShort, take_mk hp]
  split <;> rfl

theorem getInt_mk {a : Bytes} {p : Nat} (hp : p ≤ a.length) :
    getInt ⟨a, p, hp⟩ = if h : p + 4 ≤ a.length then
      .ok (intOf (slice a p 4), ⟨a, p + 4, h⟩) else .error .bufferUnderflow := by
  rw [getInt, take_mk hp]
  split <;> rfl

/-- An array of four read as an `int`. -/
theorem getInt_wrap {a : Bytes} (h : a.length = 4) :
    (wrap a).getInt = .ok (intOf a, ⟨a, 4, by omega⟩) := by
  unfold getInt
  rw [take_ok (by show 0 + 4 ≤ a.length; omega)]
  show Except.ok (intOf (slice a 0 4), _) = _
  rw [slice, List.drop_zero, List.take_of_length_le (by omega)]
  rfl

/-! ## Reading from the left -/

/-- A buffer with `r` read and `xs` left to read. -/
def reading (r xs : Bytes) : ByteBuffer := ⟨r ++ xs, r.length, by simp⟩

theorem wrap_eq_reading (a : Bytes) : wrap a = reading [] a := rfl

theorem setPosition_reading (r xs : Bytes) {b : ByteBuffer} {p : Int} (hb : b.array = r ++ xs)
    (hp : p = r.length) : b.setPosition p = .ok (reading r xs) := by
  rw [setPosition_ok hp (by rw [hb, List.length_append]; omega)]
  exact congrArg Except.ok (ext hb rfl)

theorem reading_get_nil (r : Bytes) : (reading r []).get = .error .bufferUnderflow := by
  rw [get, dif_neg]
  simp [reading]

@[simp] theorem reading_get_cons (r : Bytes) (x : Byte) (xs : Bytes) :
    (reading r (x :: xs)).get = .ok (x, reading (r ++ [x]) xs) := by
  have h : (reading r (x :: xs)).position < (reading r (x :: xs)).array.length := by simp [reading]
  rw [get, dif_pos h]
  refine congrArg Except.ok (Prod.ext ?_ (ext ?_ ?_)) <;> simp [reading]

theorem reading_take {bs : Bytes} {n : Nat} (r xs : Bytes) (h : bs.length = n) :
    (reading r (bs ++ xs)).take n = .ok (bs, reading (r ++ bs) xs) := by
  subst h
  rw [take_ok (by simp [reading])]
  refine congrArg Except.ok (Prod.ext ?_ (ext ?_ ?_))
  · show slice (r ++ (bs ++ xs)) r.length bs.length = bs
    rw [← List.append_assoc]
    exact slice_append rfl rfl
  · exact (List.append_assoc r bs xs).symm
  · exact (List.length_append).symm

theorem reading_getShort (r : Bytes) (s : Short) (xs : Bytes) :
    (reading r (shortBytes s ++ xs)).getShort = .ok (s, reading (r ++ shortBytes s) xs) := by
  rw [getShort, reading_take r xs (shortBytes_length s), ok_bind]
  show Except.ok (shortOf (shortBytes s), _) = _
  rw [shortOf_shortBytes]

theorem reading_getInt (r : Bytes) {bs : Bytes} (h : bs.length = 4) (xs : Bytes) :
    (reading r (bs ++ xs)).getInt = .ok (intOf bs, reading (r ++ bs) xs) := by
  rw [getInt, reading_take r xs h, ok_bind]
  rfl

/-- Every buffer is one. -/
theorem eq_reading (b : ByteBuffer) : b = reading (b.array.take b.position) b.rest := by
  have hlen : (b.array.take b.position).length = b.position := by
    rw [List.length_take]; exact Nat.min_eq_left b.position_le
  exact ext (List.take_append_drop ..).symm hlen.symm

@[simp] theorem reading_remaining (r xs : Bytes) : (reading r xs).remaining = xs.length := by
  simp [remaining, reading]

/-! ## Writes -/

/-- Write `xs` at the position: `put(byte[])`. -/
def putBytes (b : ByteBuffer) (xs : Bytes) : Except Throwable ByteBuffer :=
  if h : b.position + xs.length ≤ b.array.length then
    .ok ⟨b.array.take b.position ++ xs ++ b.array.drop (b.position + xs.length),
      b.position + xs.length, by simp; omega⟩
  else .error .bufferOverflow

/-- `put(byte)`. -/
def put (b : ByteBuffer) (x : Byte) : Except Throwable ByteBuffer := b.putBytes [x]

/-- `putShort(short)`. -/
def putShort (b : ByteBuffer) (s : Short) : Except Throwable ByteBuffer := b.putBytes (shortBytes s)

/-- `putChar(char)`. -/
def putChar (b : ByteBuffer) (c : JChar) : Except Throwable ByteBuffer := b.putBytes (shortBytes c)

/-- `putInt(int)`. -/
def putInt (b : ByteBuffer) (i : JInt) : Except Throwable ByteBuffer := b.putBytes (intBytes i)

/-- `putLong(long)`. -/
def putLong (b : ByteBuffer) (l : Long) : Except Throwable ByteBuffer := b.putBytes (longBytes l)

/-- `xs` stored over `a` from `i` on. -/
def storeAt (a : Bytes) (i : Nat) (xs : Bytes) : Bytes := a.take i ++ xs ++ a.drop (i + xs.length)

theorem storeAt_length {a xs : Bytes} {i : Nat} (h : i + xs.length ≤ a.length) :
    (storeAt a i xs).length = a.length := by
  simp only [storeAt, List.length_append, List.length_take, List.length_drop]; omega

/-- `putShort(int index, short)`. -/
def putShortAt (b : ByteBuffer) (i : Nat) (s : Short) : Except Throwable ByteBuffer :=
  if h : i + 2 ≤ b.array.length then
    .ok ⟨storeAt b.array i (shortBytes s), b.position, by
      rw [storeAt_length (by simpa using h)]; exact b.position_le⟩
  else .error .indexOutOfBounds

/-! ## Filling a fresh array -/

/-- A buffer over a new array with `w` written and `k` bytes left. -/
def fresh (w : Bytes) (k : Nat) : ByteBuffer := ⟨w ++ List.replicate k 0, w.length, by simp⟩

@[simp] theorem fresh_array (w : Bytes) (k : Nat) : (fresh w k).array = w ++ List.replicate k 0 := rfl

@[simp] theorem wrap_array (a : Bytes) : (wrap a).array = a := rfl

theorem wrap_replicate (k : Nat) : wrap (List.replicate k 0) = fresh [] k := rfl

/-- A write into a fresh array appends, or overflows. -/
@[simp] theorem fresh_putBytes (w xs : Bytes) (k : Nat) :
    (fresh w k).putBytes xs =
      if xs.length ≤ k then .ok (fresh (w ++ xs) (k - xs.length)) else .error .bufferOverflow := by
  unfold putBytes
  by_cases h : xs.length ≤ k
  · rw [dif_pos (by simp [fresh]; omega), if_pos h]
    congr 1
    apply ext
    · simp [fresh, List.append_assoc, List.drop_append]
    · simp [fresh]
  · rw [dif_neg (by simp [fresh]; omega), if_neg h]

theorem fresh_putBytes_ok {w xs : Bytes} {k m : Nat} (h : k = xs.length + m) :
    (fresh w k).putBytes xs = .ok (fresh (w ++ xs) m) := by
  rw [fresh_putBytes, if_pos (by omega), h, Nat.add_sub_cancel_left]

/-- A write that did not overflow. -/
theorem fresh_putBytes_eq_ok {w xs : Bytes} {k : Nat} {b : ByteBuffer}
    (h : (fresh w k).putBytes xs = .ok b) :
    xs.length ≤ k ∧ b = fresh (w ++ xs) (k - xs.length) := by
  rw [fresh_putBytes] at h
  split at h
  · rename_i hle
    exact ⟨hle, (Except.ok.inj h).symm⟩
  · cases h

/-- One write after the other. -/
def putAll (b : ByteBuffer) : List Bytes → Except Throwable ByteBuffer
  | [] => .ok b
  | xs :: rest => do (← b.putBytes xs).putAll rest

theorem putAll_append (b : ByteBuffer) (xs ys : List Bytes) :
    b.putAll (xs ++ ys) = (do (← b.putAll xs).putAll ys) := by
  induction xs generalizing b with
  | nil => rfl
  | cons x xs ih =>
    rw [List.cons_append, putAll, putAll, bind_assoc]
    exact bind_congr fun b => ih b

/-- A new array of `n` bytes, filled from the left. -/
def fill (n : Nat) (parts : List Bytes) : Except Throwable Bytes := do
  return (← (wrap (List.replicate n 0)).putAll parts).array

theorem fresh_putAll {w : Bytes} {parts : List Bytes} {k : Nat} (h : parts.flatten.length ≤ k) :
    (fresh w k).putAll parts = .ok (fresh (w ++ parts.flatten) (k - parts.flatten.length)) := by
  induction parts generalizing w k with
  | nil => simp [putAll]
  | cons xs rest ih =>
    rw [List.flatten_cons, List.length_append] at h ⊢
    rw [putAll, fresh_putBytes, if_pos (by omega), ok_bind, ih (by omega), List.append_assoc,
      Nat.sub_sub]

theorem fill_eq {n : Nat} {parts : List Bytes} (h : parts.flatten.length ≤ n) :
    fill n parts = .ok (parts.flatten ++ List.replicate (n - parts.flatten.length) 0) := by
  rw [fill, wrap_replicate, fresh_putAll h]
  rfl

/-- Writes that all fit. -/
theorem fresh_putAll_eq_ok {w : Bytes} {parts : List Bytes} {k : Nat} {b : ByteBuffer}
    (h : (fresh w k).putAll parts = .ok b) : parts.flatten.length ≤ k := by
  induction parts generalizing w k with
  | nil => exact Nat.zero_le _
  | cons xs rest ih =>
    obtain ⟨b', hput, hrest⟩ := bind_eq_ok_iff.mp h
    obtain ⟨hle, rfl⟩ := fresh_putBytes_eq_ok hput
    have := ih hrest
    rw [List.flatten_cons, List.length_append]
    omega

theorem fill_eq_ok {n : Nat} {parts : List Bytes} {a : Bytes} (h : fill n parts = .ok a) :
    parts.flatten.length ≤ n := by
  obtain ⟨b, hput, -⟩ := bind_eq_ok_iff.mp h
  rw [wrap_replicate] at hput
  exact fresh_putAll_eq_ok hput

theorem fill_length {n : Nat} {parts : List Bytes} {a : Bytes} (h : fill n parts = .ok a) :
    a.length = n := by
  have hle := fill_eq_ok h
  rw [fill_eq hle] at h
  cases h
  rw [List.length_append, List.length_replicate]
  omega

/-- The buffer is over a new array of `n` bytes and what is written satisfies `P`. -/
def Filled (n : Nat) (P : Bytes → Prop) (b : ByteBuffer) : Prop :=
  ∃ w k, b = fresh w k ∧ w.length + k = n ∧ P w

theorem filled_wrap_newArray {n : Int} {a : Bytes} (h : newArray n = .ok a) :
    Filled n.toNat (fun w => w.length = 0) (wrap a) := by
  unfold newArray at h
  split at h
  · cases h
  · cases h
    exact ⟨[], n.toNat, wrap_replicate _, by simp, rfl⟩

theorem Filled.putBytes {n : Nat} {P Q : Bytes → Prop} {b : ByteBuffer} {xs : Bytes}
    (hb : Filled n P b) (h : ∀ w, P w → Q (w ++ xs)) : Returns (b.putBytes xs) (Filled n Q) := by
  obtain ⟨w, k, rfl, hn, hw⟩ := hb
  rw [fresh_putBytes]
  split
  · exact .ok ⟨w ++ xs, k - xs.length, rfl, by rw [List.length_append]; omega, h w hw⟩
  · exact .error

/-- A write moves a known position on. -/
theorem Filled.advance {n i : Nat} {b : ByteBuffer} {xs : Bytes}
    (hb : Filled n (fun w => w.length = i) b) :
    Returns (b.putBytes xs) (Filled n fun w => w.length = i + xs.length) :=
  hb.putBytes fun w hw => by rw [List.length_append, hw]

/-- The word at `o` is written and zero. -/
def ZeroWordAt (o : Nat) (w : Bytes) : Prop := slice w o 2 = [0, 0]

/-- Writing a zero word makes one at the position; -/
theorem Filled.putZeroWord {n o : Nat} {b : ByteBuffer} (hb : Filled n (fun w => w.length = o) b) :
    Returns (b.putShort 0) (Filled n (ZeroWordAt o)) :=
  hb.putBytes fun w hw => by
    have h := @slice_append w (shortBytes 0) [] o 2 hw (shortBytes_length 0)
    rwa [List.append_nil] at h

/-- and later writes leave it alone. -/
theorem Filled.keep {n o : Nat} {b : ByteBuffer} {xs : Bytes} (hb : Filled n (ZeroWordAt o) b) :
    Returns (b.putBytes xs) (Filled n (ZeroWordAt o)) :=
  hb.putBytes fun w hw => by
    have hlen := congrArg List.length hw
    simp only [slice, List.length_take, List.length_drop, List.length_cons, List.length_nil] at hlen
    rw [ZeroWordAt, slice_append_left (by omega), hw]

theorem Filled.zeroWord {n o : Nat} {b : ByteBuffer} (hb : Filled n (ZeroWordAt o) b) :
    b.array.length = n ∧ slice b.array o 2 = [0, 0] := by
  obtain ⟨w, k, rfl, hn, hw⟩ := hb
  have hlen := congrArg List.length hw
  simp only [slice, List.length_take, List.length_drop, List.length_cons, List.length_nil] at hlen
  refine ⟨by simp [fresh, hn], ?_⟩
  rw [fresh_array, slice_append_left (by omega), hw]

end ByteBuffer

end TcpIpStack.Java
