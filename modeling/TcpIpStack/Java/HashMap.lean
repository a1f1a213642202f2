import Mathlib.Data.List.AList
import TcpIpStack.Java.Basic

/-!
# `java.util.Arrays.toString` and `HashMap<String, byte[]>`

The tables of the stack are keyed by the printed form of an address,
`Arrays.toString(ip)`. Printing loses nothing (`Arrays.toString_injective`), so
such a table is one keyed by arrays. A map may hold `null`; the order in which
`keySet` is walked is the implementation's own (`KeyOrder`).
-/

namespace TcpIpStack.Java

namespace Arrays

/-- A number as `StringBuilder.append(int)` prints it. -/
def decimal (i : Int) : List Char :=
  if i < 0 then '-' :: Nat.toDigits 10 i.natAbs else Nat.toDigits 10 i.natAbs

/-- The elements from `b` on, and the closing bracket. -/
def elements (b : Byte) : Bytes → List Char
  | [] => decimal b.toInt ++ [']']
  | c :: rest => decimal b.toInt ++ ',' :: ' ' :: elements c rest

/-- `Arrays.toString(byte[] a)`. -/
def toString : Option Bytes → List Char
  | none => ['n', 'u', 'l', 'l']
  | some [] => ['[', ']']
  | some (b :: bs) => '[' :: elements b bs

/-- The characters of a number. -/
def numeral (c : Char) : Bool := c.isDigit || c == '-'

theorem numeral_of_mem_decimal {i : Int} {c : Char} (h : c ∈ decimal i) : numeral c = true := by
  have hdigits : ∀ {c}, c ∈ Nat.toDigits 10 i.natAbs → numeral c = true := fun hc => by
    rw [numeral, Nat.isDigit_of_mem_toDigits (by decide) (by decide) hc, Bool.true_or]
  unfold decimal at h
  split at h
  · rcases List.mem_cons.mp h with rfl | h
    · rfl
    · exact hdigits h
  · exact hdigits h

theorem toDigits_injective {m n : Nat} (h : Nat.toDigits 10 m = Nat.toDigits 10 n) : m = n := by
  rw [← Nat.ofDigitChars_ten_toDigits (n := m), h, Nat.ofDigitChars_ten_toDigits]

theorem decimal_injective {i j : Int} (h : decimal i = decimal j) : i = j := by
  have hminus : ∀ n : Nat, ∀ l, Nat.toDigits 10 n ≠ '-' :: l := fun n l he => by
    have hd := Nat.isDigit_of_mem_toDigits (b := 10) (n := n) (c := '-') (by decide) (by decide)
      (he ▸ List.mem_cons_self)
    exact absurd hd (by decide)
  unfold decimal at h
  split at h <;> split at h
  · have := toDigits_injective (List.cons.inj h).2
    omega
  · exact absurd h.symm (hminus _ _)
  · exact absurd h (hminus _ _)
  · have := toDigits_injective h
    omega

/-- A number ends where the first other character stands. -/
theorem decimal_append_inj {i j : Int} {c d : Char} {r s : List Char} (hc : numeral c = false)
    (hd : numeral d = false) (h : decimal i ++ c :: r = decimal j ++ d :: s) :
    i = j ∧ c = d ∧ r = s := by
  have htake : ∀ {i : Int} {c : Char} {r : List Char}, numeral c = false →
      (decimal i ++ c :: r).takeWhile numeral = decimal i := fun hc => by
    rw [List.takeWhile_append_of_pos fun a ha => numeral_of_mem_decimal ha,
      List.takeWhile_cons_of_neg (by simp [hc]), List.append_nil]
  have hij : decimal i = decimal j := by rw [← htake hc, h, htake hd]
  rw [hij] at h
  obtain ⟨hcd, hrs⟩ := List.cons.inj (List.append_cancel_left h)
  exact ⟨decimal_injective hij, hcd, hrs⟩

theorem elements_injective {b c : Byte} {bs cs : Bytes} (h : elements b bs = elements c cs) :
    b :: bs = c :: cs := by
  induction bs generalizing b c cs with
  | nil =>
    cases cs with
    | nil =>
      obtain ⟨hbc, -⟩ := decimal_append_inj (by decide) (by decide) h
      rw [BitVec.eq_of_toInt_eq hbc]
    | cons d cs =>
      obtain ⟨-, hne, -⟩ := decimal_append_inj (by decide) (by decide) h
      exact absurd hne (by decide)
  | cons d bs ih =>
    cases cs with
    | nil =>
      obtain ⟨-, hne, -⟩ := decimal_append_inj (by decide) (by decide) h
      exact absurd hne (by decide)
    | cons e cs =>
      obtain ⟨hbc, -, hrest⟩ := decimal_append_inj (by decide) (by decide) h
      rw [BitVec.eq_of_toInt_eq hbc, ih (List.cons.inj hrest).2]

theorem elements_ne_bracket (b : Byte) (bs : Bytes) : elements b bs ≠ [']'] := by
  have hne : 0 < (decimal b.toInt).length := by
    unfold decimal
    split
    · exact Nat.succ_pos _
    · exact Nat.length_toDigits_pos
  intro h
  have hlen := congrArg List.length h
  cases bs <;> simp only [elements, List.length_append, List.length_cons, List.length_nil] at hlen <;>
    omega

/-- Different arrays print differently, and none prints as `null`. -/
theorem toString_injective : Function.Injective toString := by
  rintro (_ | _ | ⟨b, bs⟩) (_ | _ | ⟨c, cs⟩) h
  · rfl
  · exact absurd h (by decide)
  · exact absurd (List.cons.inj h).1 (by decide)
  · exact absurd h (by decide)
  · rfl
  · exact absurd (List.cons.inj h).2.symm (elements_ne_bracket c cs)
  · exact absurd (List.cons.inj h).1 (by decide)
  · exact absurd (List.cons.inj h).2 (elements_ne_bracket b bs)
  · rw [elements_injective (List.cons.inj h).2]

end Arrays

/-- `HashMap<String, byte[]>`: a value may be `null`. -/
abbrev HashMap := AList fun _ : List Char => Option Bytes

namespace HashMap

/-- `get`: `null` for an absent key too. -/
def get (m : HashMap) (k : List Char) : Option Bytes := (m.lookup k).join

def put (m : HashMap) (k : List Char) (v : Option Bytes) : HashMap := m.insert k v

/-- How many keys hold the array. -/
def holding (m : HashMap) (v : Bytes) : Nat := m.keys.countP fun k => m.get k = some v

@[simp] theorem get_empty (k : List Char) : get ∅ k = none := rfl

@[simp] theorem holding_empty (v : Bytes) : holding ∅ v = 0 := rfl

theorem get_put (m : HashMap) (k k' : List Char) (v : Option Bytes) :
    (m.put k v).get k' = if k' = k then v else m.get k' := by
  unfold get put
  split
  · subst_vars
    rw [AList.lookup_insert]
    rfl
  · rw [AList.lookup_insert_ne ‹_›]

/-- After a `put` the key stands in front of the other keys. -/
theorem keys_put (m : HashMap) (k : List Char) (v : Option Bytes) :
    ∃ l, (m.put k v).keys = k :: l ∧ k ∉ l ∧ (m.keys.Perm (k :: l) ∨ k ∉ m.keys ∧ m.keys = l) := by
  refine ⟨_, AList.keys_insert m, ?_, ?_⟩
  · exact @List.Nodup.not_mem_erase _ instBEqOfDecidableEq m.keys inferInstance k m.keys_nodup
  · by_cases hmem : k ∈ m.keys
    · exact .inl (@List.perm_cons_erase _ instBEqOfDecidableEq inferInstance k m.keys hmem)
    · exact .inr ⟨hmem, (@List.erase_of_not_mem _ instBEqOfDecidableEq inferInstance k m.keys hmem).symm⟩

/-- A `put` adds its value and drops the one that stood there. -/
theorem holding_put (m : HashMap) (k : List Char) (x : Option Bytes) (v : Bytes) :
    (m.put k x).holding v + (if m.get k = some v then 1 else 0) =
      m.holding v + (if x = some v then 1 else 0) := by
  obtain ⟨l, hkeys, hkl, hold⟩ := m.keys_put k x
  -- the other keys keep their values
  have hrest : l.countP (fun k' => (m.put k x).get k' = some v) =
      l.countP fun k' => m.get k' = some v := by
    refine List.countP_congr fun k' hk' => ?_
    have hne : k' ≠ k := fun h => hkl (h ▸ hk')
    rw [get_put, if_neg hne]
  have hk : (m.put k x).get k = x := by rw [get_put, if_pos rfl]
  simp only [holding, hkeys, List.countP_cons, hrest, hk, decide_eq_true_eq]
  rcases hold with hperm | ⟨hmem, rfl⟩
  · rw [hperm.countP_eq, List.countP_cons]
    simp only [decide_eq_true_eq]
    omega
  · have hget : m.get k = none := by
      rw [get, AList.lookup_eq_none.mpr (by rwa [AList.mem_keys])]; rfl
    simp [hget]

end HashMap

/-- An order in which `keySet` of a map is walked. -/
structure KeyOrder where
  keySet : HashMap → List (List Char)
  perm : ∀ m : HashMap, (keySet m).Perm m.keys

@[simp] theorem KeyOrder.keySet_empty (order : KeyOrder) : order.keySet ∅ = [] :=
  List.perm_nil.mp (order.perm ∅)

/-- What a key holds, a walk over the map meets. -/
theorem KeyOrder.mem_keySet {order : KeyOrder} {m : HashMap} {key : List Char}
    (h : (m.get key).isSome) : key ∈ order.keySet m := by
  rw [(order.perm m).mem_iff]
  by_contra hmem
  rw [HashMap.get, AList.lookup_eq_none.mpr (by rwa [AList.mem_keys])] at h
  cases h

/-- The arrays a walk over the map meets are those its keys hold. -/
theorem KeyOrder.count (order : KeyOrder) (m : HashMap) (v : Bytes) :
    ((order.keySet m).map m.get).count (some v) = m.holding v := by
  rw [List.count, List.countP_map, (order.perm m).countP_eq]
  exact List.countP_congr fun k _ => by simp

end TcpIpStack.Java
