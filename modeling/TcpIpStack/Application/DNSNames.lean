import TcpIpStack.Application.DNSApplication
import TcpIpStack.Lib.Chain
import TcpIpStack.Lib.Fuel

/-!
# Names in a DNS reply

What is written at a position is a row of labels that ends in a zero byte, in a
pointer, or at the end of the array (`scan`). A pointer leads to another
position, so the pointers of an array form chains. Reading a name takes as many
nested calls as its chain has links: it settles if the chain ends and runs out
of stack if the chain cycles.
-/

namespace TcpIpStack.DNSApplication

open TcpIpStack.Java TcpIpStack.Lib

/-- How a row of labels ends; `next` is the position after it. -/
inductive Ending where
  | zero (next : Nat)
  | pointer (offset : Byte) (next : Nat)
  | outOfBounds
  deriving DecidableEq, Repr

/-- A row of labels, as it is printed. -/
structure Labels where
  chars : List JChar
  ending : Ending
  deriving DecidableEq, Repr

/-- A dot goes before every label but the first. -/
def separator (charCount : Byte) : List JChar := if charCount ≠ 0 then [dot] else []

/-- The labels from a count on, with `xs` after it at position `p`. -/
def scan : Nat → Byte → Bytes → Nat → Labels
  | 0, _, _, _ => ⟨[], .outOfBounds⟩
  | n + 1, charCount, xs, p =>
    if isNameCompression charCount then
      match xs with
      | [] => ⟨[], .outOfBounds⟩
      | offset :: _ => ⟨[], .pointer offset (p + 1)⟩
    else if charCount ≠ 0 then
      let k := charCount.toInt.toNat
      let label := (xs.take k).map (·.signExtend 16)
      match xs.drop k with
      | [] => ⟨label, .outOfBounds⟩
      | charCount :: ys =>
        let rest := scan n charCount ys (p + k + 1)
        ⟨label ++ separator charCount ++ rest.chars, rest.ending⟩
    else ⟨[], .zero p⟩

/-- The labels at a position of an array. -/
def labelsAt (a : Bytes) (p : Nat) : Labels :=
  match a.drop p with
  | [] => ⟨[], .outOfBounds⟩
  | charCount :: xs => scan (xs.length + 1) charCount xs (p + 1)

/-- Where an offset byte points, if it points into the array. -/
def pointsTo (a : Bytes) (offset : Byte) : Option Nat :=
  if 0 ≤ offset.toInt ∧ offset.toInt ≤ a.length then some offset.toInt.toNat else none

/-- The position the labels at `p` point on to. -/
def target (a : Bytes) (p : Nat) : Option Nat :=
  match (labelsAt a p).ending with
  | .pointer offset _ => pointsTo a offset
  | _ => none

/-- The labels at a position are followed through pointers to the last, and a
reader then stands at `q`. -/
inductive Reads (a : Bytes) : Nat → Nat → Prop
  | zero {p q : Nat} (h : (labelsAt a p).ending = .zero q) : Reads a p q
  | pointer {p q t r : Nat} {offset : Byte} (h : (labelsAt a p).ending = .pointer offset q)
      (ht : pointsTo a offset = some t) (hr : Reads a t r) : Reads a p q

/-- A bound above the bytes left makes no difference. -/
theorem scan_bound {n m : Nat} {xs : Bytes} (hn : xs.length < n) (hm : xs.length < m)
    (charCount : Byte) (p : Nat) : scan n charCount xs p = scan m charCount xs p := by
  induction n generalizing m charCount xs p with
  | zero => omega
  | succ n ih =>
    obtain ⟨m, rfl⟩ : ∃ m', m = m' + 1 := ⟨m - 1, by omega⟩
    simp only [scan]
    split
    · rfl
    split
    · cases hdrop : xs.drop charCount.toInt.toNat with
      | nil => rfl
      | cons c ys =>
        have hlen := congrArg List.length hdrop
        rw [List.length_drop, List.length_cons] at hlen
        have hrest := @ih m ys (by omega) (by omega) c (p + charCount.toInt.toNat + 1)
        simp only [hrest]
    · rfl

/-! ## Reading a row of labels -/

section

variable {σ : Type} (follow : ByteBuffer → AppM σ ByteBuffer)

/-- What the loop does once the labels are printed. -/
def conclude (a : Bytes) : Ending → AppM σ ByteBuffer
  | .zero next => Prog.lift ((ByteBuffer.wrap a).setPosition next)
  | .pointer offset next => do
    let dup_buffer ← Prog.lift (duplicate (ByteBuffer.wrap a) offset)
    let _ ← follow dup_buffer
    Prog.lift ((ByteBuffer.wrap a).setPosition next)
  | .outOfBounds => Prog.throw .bufferUnderflow

theorem printed_append (cs ds : List JChar) : printed (cs ++ ds) = printed cs ++ printed ds :=
  List.map_append

/-- Printing leaves the state alone. -/
theorem printChars_bind_run {α : Type} (cs : List JChar) (m : AppM σ α) (s : σ) :
    (printChars cs >>= fun _ => m) s = ⟨(m s).result, (m s).state, printed cs ++ (m s).out⟩ := rfl

theorem readChars_run (n : Nat) (r xs : Bytes) (s : σ) :
    readChars n (ByteBuffer.reading r xs) s =
      ⟨if n ≤ xs.length then .ok (ByteBuffer.reading (r ++ xs.take n) (xs.drop n))
        else .error .bufferUnderflow, s, printed ((xs.take n).map (·.signExtend 16))⟩ := by
  induction n generalizing r xs with
  | zero => simp [readChars, printed]
  | succ n ih =>
    cases xs with
    | nil => simp [readChars, ByteBuffer.reading_get_nil, Prog.throw, printed]
    | cons x xs =>
      rw [readChars, ByteBuffer.reading_get_cons, Prog.lift_ok_bind]
      refine (Prog.bind_run_ok (Prog.emitAll_run _ s) (ih _ xs)).trans ?_
      simp [printed]

theorem setPosition_wrap {a r xs : Bytes} (ha : a = r ++ xs) :
    (Prog.lift ((ByteBuffer.wrap a).setPosition r.length) : AppM σ ByteBuffer) =
      pure (ByteBuffer.reading r xs) := by
  rw [ByteBuffer.setPosition_reading r xs ha rfl]
  rfl

/-- A label that the array cuts off. -/
theorem labelLoop_short {charCount : Byte} (hcomp : ¬ isNameCompression charCount)
    (hzero : charCount ≠ 0) (n : Nat) (r xs : Bytes) (s : σ)
    (hdrop : xs.drop charCount.toInt.toNat = []) :
    labelLoop follow (n + 1) charCount (ByteBuffer.reading r xs) s =
      ⟨.error .bufferUnderflow, s,
        printed ((xs.take charCount.toInt.toNat).map (·.signExtend 16))⟩ := by
  have hread := readChars_run charCount.toInt.toNat r xs s
  rw [hdrop] at hread
  simp only [labelLoop, if_neg hcomp, if_pos hzero]
  by_cases hk : charCount.toInt.toNat ≤ xs.length
  · rw [if_pos hk] at hread
    rw [Prog.bind_run, hread]
    simp only [ByteBuffer.reading_get_nil, Prog.lift_error_bind, Prog.throw_run, List.append_nil]
  · rw [if_neg hk] at hread
    exact Prog.bind_run_error hread

/-- A label and the count after it. -/
theorem labelLoop_label {charCount : Byte} (hcomp : ¬ isNameCompression charCount)
    (hzero : charCount ≠ 0) (n : Nat) (r : Bytes) {xs ys : Bytes} {c : Byte} (s : σ)
    (hdrop : xs.drop charCount.toInt.toNat = c :: ys) :
    labelLoop follow (n + 1) charCount (ByteBuffer.reading r xs) s =
      (printChars ((xs.take charCount.toInt.toNat).map (·.signExtend 16) ++ separator c) >>= fun _ =>
        labelLoop follow n c
          (ByteBuffer.reading (r ++ xs.take charCount.toInt.toNat ++ [c]) ys)) s := by
  have hlen := congrArg List.length hdrop
  rw [List.length_drop, List.length_cons] at hlen
  have hread := readChars_run charCount.toInt.toNat r xs s
  rw [hdrop, if_pos (by omega)] at hread
  simp only [labelLoop, if_neg hcomp, if_pos hzero]
  rw [Prog.bind_run, hread, printChars_bind_run, printed_append, List.append_assoc (printed _)]
  simp only [ByteBuffer.reading_get_cons, Prog.lift_ok_bind, separator]
  by_cases hc : c = 0
  · simp only [hc, ne_eq, not_true_eq_false, ↓reduceIte]
    rfl
  · simp only [hc, ne_eq, not_false_eq_true, ↓reduceIte]
    rfl

/-- The loop prints the labels it stands at and goes on as they end. -/
theorem labelLoop_run (n : Nat) (charCount : Byte) (r xs : Bytes) (s : σ) :
    labelLoop follow n charCount (ByteBuffer.reading r xs) s =
      (printChars (scan n charCount xs r.length).chars >>= fun _ =>
        conclude follow (r ++ xs) (scan n charCount xs r.length).ending) s := by
  induction n generalizing charCount r xs s with
  | zero => rfl
  | succ n ih =>
    by_cases hcomp : isNameCompression charCount
    · cases xs with
      | nil =>
        simp only [labelLoop, scan, if_pos hcomp, ByteBuffer.reading_get_nil, Prog.lift_error_bind]
        rfl
      | cons o ys =>
        have ha : r ++ o :: ys = (r ++ [o]) ++ ys := List.append_cons r o ys
        have hpos := @setPosition_wrap σ _ (r ++ [o]) ys ha
        rw [List.length_append] at hpos
        have harray : (ByteBuffer.reading (r ++ [o]) ys).array = r ++ o :: ys := ha.symm
        simp only [labelLoop, scan, if_pos hcomp, ByteBuffer.reading_get_cons, Prog.lift_ok_bind,
          conclude, duplicate, harray, ByteBuffer.wrap_array]
        rw [show (r.length + 1 : Nat) = r.length + [o].length from rfl, hpos]
        rfl
    by_cases hzero : charCount = 0
    · subst hzero
      have hpos := @setPosition_wrap σ _ r xs rfl
      simp only [labelLoop, scan, if_neg hcomp, ne_eq, not_true_eq_false, ↓reduceIte, conclude, hpos]
      rfl
    cases hdrop : xs.drop charCount.toInt.toNat with
    | nil =>
      rw [labelLoop_short follow hcomp hzero n r xs s hdrop]
      simp only [scan, if_neg hcomp, if_pos hzero, hdrop, printChars_bind_run, conclude,
        Prog.throw_run, List.append_nil]
    | cons c ys =>
      have hlen := congrArg List.length hdrop
      rw [List.length_drop, List.length_cons] at hlen
      have hpos : (r ++ xs.take charCount.toInt.toNat ++ [c]).length =
          r.length + charCount.toInt.toNat + 1 := by
        rw [List.length_append, List.length_append, List.length_take, List.length_singleton]
        omega
      have hjoin : r ++ xs.take charCount.toInt.toNat ++ [c] ++ ys = r ++ xs := by
        rw [List.append_assoc, List.singleton_append, ← hdrop, List.append_assoc,
          List.take_append_drop]
      rw [labelLoop_label follow hcomp hzero n r s hdrop, printChars_bind_run, ih, hjoin, hpos]
      simp only [scan, if_neg hcomp, if_pos hzero, hdrop, printChars_bind_run, printed_append,
        List.append_assoc]

/-- One call prints the labels at the position and goes on as they end. -/
theorem readStringContent_run (depth : Nat) {a : Bytes} {p : Nat} (hp : p ≤ a.length) (s : σ) :
    readStringContent (depth + 1) ⟨a, p, hp⟩ s =
      (printChars (labelsAt a p).chars >>= fun _ =>
        conclude (readStringContent depth) a (labelsAt a p).ending) s := by
  have hbuffer : (⟨a, p, hp⟩ : ByteBuffer) = ByteBuffer.reading (a.take p) (a.drop p) :=
    ByteBuffer.eq_reading _
  have hlen : (a.take p).length = p := by rw [List.length_take]; omega
  have ha := List.take_append_drop p a
  rw [hbuffer, readStringContent, labelsAt]
  cases hdrop : a.drop p with
  | nil =>
    rw [ByteBuffer.reading_get_nil, Prog.lift_error_bind]
    rfl
  | cons charCount xs =>
    rw [hdrop] at ha
    rw [ByteBuffer.reading_get_cons, Prog.lift_ok_bind]
    show labelLoop _ ((ByteBuffer.reading _ xs).remaining + 1) charCount _ s = _
    rw [labelLoop_run, ByteBuffer.reading_remaining, List.length_append, hlen, List.append_assoc,
      List.singleton_append, ha]
    rfl

end

/-! ## The end of a row of labels -/

theorem scan_le {n : Nat} {charCount : Byte} {xs : Bytes} {p q : Nat}
    (h : (scan n charCount xs p).ending = .zero q ∨
      ∃ offset, (scan n charCount xs p).ending = .pointer offset q) : q ≤ p + xs.length := by
  induction n generalizing charCount xs p with
  | zero => simp [scan] at h
  | succ n ih =>
    simp only [scan] at h
    split at h
    · cases xs with
      | nil => simp at h
      | cons o ys =>
        simp only [reduceCtorEq, Ending.pointer.injEq, false_or] at h
        obtain ⟨_, -, rfl⟩ := h
        rw [List.length_cons]; omega
    split at h
    · cases hdrop : xs.drop charCount.toInt.toNat with
      | nil => rw [hdrop] at h; simp at h
      | cons c ys =>
        have hlen := congrArg List.length hdrop
        rw [List.length_drop, List.length_cons] at hlen
        rw [hdrop] at h
        have := ih h
        omega
    · simp only [Ending.zero.injEq, reduceCtorEq, exists_false, or_false] at h
      omega

/-- A row that ends leaves the reader inside the array. -/
theorem labelsAt_le {a : Bytes} {p q : Nat} (h : (labelsAt a p).ending = .zero q ∨
    ∃ offset, (labelsAt a p).ending = .pointer offset q) : q ≤ a.length := by
  unfold labelsAt at h
  cases hdrop : a.drop p with
  | nil => rw [hdrop] at h; simp at h
  | cons c xs =>
    rw [hdrop] at h
    have hlen := congrArg List.length hdrop
    rw [List.length_drop, List.length_cons] at hlen
    have := scan_le h
    omega

/-- Pointers lead to the first 128 bytes. -/
theorem pointsTo_lt {a : Bytes} {offset : Byte} {t : Nat} (h : pointsTo a offset = some t) :
    t < 128 := by
  unfold pointsTo at h
  split at h
  · have := BitVec.toInt_lt (x := offset)
    cases h
    omega
  · cases h

theorem target_lt {a : Bytes} {p t : Nat} (h : target a p = some t) : t < 128 := by
  unfold target at h
  split at h
  · exact pointsTo_lt h
  · cases h

theorem target_finite (a : Bytes) : {t | ∃ p, target a p = some t}.Finite :=
  (Set.finite_lt_nat 128).subset fun _ ⟨_, h⟩ => target_lt h

end TcpIpStack.DNSApplication
