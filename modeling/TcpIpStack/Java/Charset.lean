import TcpIpStack.Java.Basic

/-!
# `String.getBytes` in UTF-8

A surrogate pair is one character of four bytes; a surrogate alone cannot be
encoded and becomes a question mark. So the bytes are at least as many as the
`char`s, and more unless each of them makes one byte.
-/

namespace TcpIpStack.Java.UTF8

/-- `Character.isHighSurrogate`. -/
def isHighSurrogate (c : JChar) : Bool := 0xD800 ≤ c ∧ c < 0xDC00

/-- `Character.isLowSurrogate`. -/
def isLowSurrogate (c : JChar) : Bool := 0xDC00 ≤ c ∧ c < 0xE000

/-- `Character.isSurrogate`. -/
def isSurrogate (c : JChar) : Bool := 0xD800 ≤ c ∧ c < 0xE000

/-- The two make one character. -/
def isPair (c d : JChar) : Bool := isHighSurrogate c && isLowSurrogate d

/-- A byte that goes on with six bits of a code point. -/
def tail (v : JInt) : Byte := (v &&& 0x3F ||| 0x80).setWidth 8

/-- A `char` outside a pair. -/
def encode (c : JChar) : Bytes :=
  let v : JInt := c.setWidth 32
  if c < 0x80 then [c.setWidth 8]
  else if c < 0x800 then [(v >>> 6 ||| 0xC0).setWidth 8, tail v]
  else if isSurrogate c then [63]
  else [(v >>> 12 ||| 0xE0).setWidth 8, tail (v >>> 6), tail v]

def encodePair (c d : JChar) : Bytes :=
  let v : JInt := ((c &&& 0x3FF).setWidth 32 <<< 10 ||| (d &&& 0x3FF).setWidth 32) + 0x10000
  [(v >>> 18 ||| 0xF0).setWidth 8, tail (v >>> 12), tail (v >>> 6), tail v]

def getBytes : JString → Bytes
  | [] => []
  | [c] => encode c
  | c :: d :: s => if isPair c d then encodePair c d ++ getBytes s else encode c ++ getBytes (d :: s)

/-- The `char` makes one byte outside a pair. -/
def Narrow (c : JChar) : Prop := c < 0x80 ∨ isSurrogate c = true

/-- No pair stands here, and every `char` makes one byte. -/
def AllNarrow : JString → Prop
  | [] => True
  | [c] => Narrow c
  | c :: d :: s => isPair c d = false ∧ Narrow c ∧ AllNarrow (d :: s)

/-- One byte to three, and one just for a narrow `char`. -/
theorem length_encode (c : JChar) :
    1 ≤ (encode c).length ∧ ((encode c).length = 1 ↔ Narrow c) := by
  unfold encode Narrow
  dsimp only
  split
  · rename_i hascii
    exact ⟨Nat.le_refl 1, iff_of_true rfl (.inl hascii)⟩
  rename_i hascii
  rw [or_iff_right hascii]
  split
  · rename_i htwo
    refine ⟨by simp, iff_of_false (by simp) fun hsurrogate => ?_⟩
    have hrange := of_decide_eq_true hsurrogate
    bv_omega
  split
  · rename_i hsurrogate
    exact ⟨Nat.le_refl 1, iff_of_true rfl hsurrogate⟩
  · rename_i hsurrogate
    exact ⟨by simp, iff_of_false (by simp) hsurrogate⟩

/-- No name gets shorter, and it keeps its length just if every `char` makes one byte. -/
theorem length_getBytes (s : JString) :
    s.length ≤ (getBytes s).length ∧ ((getBytes s).length = s.length ↔ AllNarrow s) := by
  induction s using getBytes.induct with
  | case1 => exact ⟨Nat.le_refl 0, iff_of_true rfl trivial⟩
  | case2 c => exact length_encode c
  | case3 c d s hpair ih =>
    have hfour : (encodePair c d).length = 4 := rfl
    rw [getBytes, if_pos hpair, AllNarrow, List.length_append, hfour, List.length_cons,
      List.length_cons]
    refine ⟨by omega, iff_of_false (by omega) fun h => ?_⟩
    rw [hpair] at h
    cases h.1
  | case4 c d s hpair ih =>
    obtain ⟨hle, hone⟩ := length_encode c
    obtain ⟨hrest, hiff⟩ := ih
    rw [getBytes, if_neg hpair, AllNarrow, ← hone, ← hiff, List.length_append, List.length_cons,
      and_iff_right (Bool.eq_false_iff.mpr hpair)]
    exact ⟨by omega, by omega⟩

example : getBytes [0x41, 0xE4, 0x20AC, 0xD83D, 0xDE00, 0xD800] =
    [0x41, 0xC3, 0xA4, 0xE2, 0x82, 0xAC, 0xF0, 0x9F, 0x98, 0x80, 63] := by decide

end TcpIpStack.Java.UTF8
