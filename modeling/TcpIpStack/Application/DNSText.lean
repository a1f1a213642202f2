import TcpIpStack.Application.DNSTermination

/-!
# The text of a name

A name is a row of labels that ends in a zero byte, or in a pointer to the name
that goes on from there. `Name` is such a name with the bytes it is written in,
`Spells` what is printed for the bytes at a position, a name or not. They agree
on the names whose pointers are found by their second byte alone, read as a
signed number (`Name.Legible`).
-/

namespace TcpIpStack.DNSApplication

open TcpIpStack.Java TcpIpStack.Lib

/-- A label of 1 to 63 ASCII characters. -/
structure Label where
  bytes : Bytes
  length_range : 1 ≤ bytes.length ∧ bytes.length ≤ 63
  ascii : ∀ b ∈ bytes, b.toNat < 128

namespace Label

def encode (l : Label) : Bytes := BitVec.ofNat 8 l.bytes.length :: l.bytes

def text (l : Label) : JString := l.bytes.map (·.setWidth 16)

@[simp] theorem encode_length (l : Label) : l.encode.length = l.bytes.length + 1 := rfl

end Label

def rowBytes (row : List Label) : Bytes := row.flatMap Label.encode

@[simp] theorem rowBytes_nil : rowBytes [] = [] := rfl

theorem rowBytes_cons (l : Label) (row : List Label) :
    rowBytes (l :: row) = l.encode ++ rowBytes row := rfl

/-- Labels joined by dots. -/
def joined (labels : List Label) : JString := [dot].intercalate (labels.map Label.text)

/-- The 14 bits after the mark of a pointer. -/
def pointerOffset (high low : Byte) : Nat := (high.toNat - 192) * 256 + low.toNat

/-- A name written from `p` on; `q` is the position after its zero byte or pointer. -/
inductive Name (a : Bytes) : (p q : Nat) → Type
  | plain {p : Nat} (row : List Label) {rest : Bytes}
      (written : a.drop p = rowBytes row ++ 0 :: rest) : Name a p (p + (rowBytes row).length + 1)
  | compressed {p t r : Nat} (row : List Label) {high low : Byte} {rest : Bytes}
      (written : a.drop p = rowBytes row ++ high :: low :: rest) (marked : 192 ≤ high.toNat)
      (offset : t = pointerOffset high low) (backward : t < p + (rowBytes row).length)
      (onward : Name a t r) : Name a p (p + (rowBytes row).length + 2)

def Name.labels {a : Bytes} {p q : Nat} : Name a p q → List Label
  | plain row _ => row
  | compressed row _ _ _ _ onward => row ++ onward.labels

/-- What is printed for the bytes at `p`, and where their reader stands afterwards. -/
inductive Spells (a : Bytes) : Nat → List JChar → Nat → Prop
  | zero {p q : Nat} (h : (labelsAt a p).ending = .zero q) : Spells a p (labelsAt a p).chars q
  | pointer {p q t r : Nat} {offset : Byte} {cs : List JChar}
      (h : (labelsAt a p).ending = .pointer offset q) (ht : pointsTo a offset = some t)
      (hr : Spells a t cs r) : Spells a p ((labelsAt a p).chars ++ cs) q

/-- Every pointer of the name is found by its second byte, and none follows a dot
only to end the name. An offset of 256 or more is not found, but the bytes found
in its place may happen to spell the same. -/
def Name.Legible {a : Bytes} {p q : Nat} : Name a p q → Prop
  | plain _ _ => True
  | @compressed _ _ t _ row _ low _ _ _ _ _ onward =>
    (row = [] ∨ onward.labels ≠ []) ∧
      (t < 128 ∧ onward.Legible ∨
        256 ≤ t ∧ ∃ x r, pointsTo a low = some x ∧ Spells a x (joined onward.labels) r)

/-! ## Counts -/

theorem isNameCompression_iff (b : Byte) : isNameCompression b = true ↔ 192 ≤ b.toNat := by
  revert b
  decide +kernel

theorem ne_zero_of_marked {b : Byte} (h : 192 ≤ b.toNat) : b ≠ 0 := by
  rintro rfl
  exact absurd h (by decide)

theorem signExtend_ascii {b : Byte} (h : b.toNat < 128) : b.signExtend 16 = b.setWidth 16 := by
  apply BitVec.signExtend_eq_setWidth_of_msb_false
  rw [BitVec.msb_eq_decide]
  exact decide_eq_false (by omega)

theorem Label.toNat_count (l : Label) : (BitVec.ofNat 8 l.bytes.length).toNat = l.bytes.length := by
  have := l.length_range
  rw [BitVec.toNat_ofNat]
  omega

theorem Label.count_ne_zero (l : Label) : (BitVec.ofNat 8 l.bytes.length : Byte) ≠ 0 := by
  intro h
  have := l.length_range
  have hnat : (BitVec.ofNat 8 l.bytes.length).toNat = 0 := congrArg BitVec.toNat h
  rw [l.toNat_count] at hnat
  omega

theorem Label.not_compression (l : Label) : ¬ isNameCompression (BitVec.ofNat 8 l.bytes.length) := by
  have := l.length_range
  rw [isNameCompression_iff, l.toNat_count]
  omega

theorem Label.toInt_count (l : Label) :
    (BitVec.ofNat 8 l.bytes.length).toInt.toNat = l.bytes.length := by
  have := l.length_range
  have hnat := l.toNat_count
  unfold BitVec.toInt
  split <;> omega

/-! ## A row of labels as it is read -/

theorem labelsAt_of_drop {a xs : Bytes} {p : Nat} {charCount : Byte}
    (h : a.drop p = charCount :: xs) : labelsAt a p = scan (xs.length + 1) charCount xs (p + 1) := by
  unfold labelsAt
  rw [h]

theorem labelsAt_zero {a rest : Bytes} {p : Nat} (h : a.drop p = 0 :: rest) :
    labelsAt a p = ⟨[], .zero (p + 1)⟩ := by
  rw [labelsAt_of_drop h]
  rfl

theorem labelsAt_pointer {a rest : Bytes} {p : Nat} {high low : Byte} (hmark : 192 ≤ high.toNat)
    (h : a.drop p = high :: low :: rest) : labelsAt a p = ⟨[], .pointer low (p + 2)⟩ := by
  rw [labelsAt_of_drop h]
  simp only [scan, if_pos ((isNameCompression_iff high).mpr hmark)]

theorem drop_append_length {a xs ys : Bytes} {p : Nat} (h : a.drop p = xs ++ ys) :
    a.drop (p + xs.length) = ys := by
  rw [← List.drop_drop, h, List.drop_left]

theorem scan_label (l : Label) (n : Nat) (c : Byte) (ys : Bytes) (p : Nat) :
    scan (n + 1) (BitVec.ofNat 8 l.bytes.length) (l.bytes ++ c :: ys) p =
      ⟨l.text ++ separator c ++ (scan n c ys (p + l.bytes.length + 1)).chars,
        (scan n c ys (p + l.bytes.length + 1)).ending⟩ := by
  have htext : l.bytes.map (·.signExtend 16) = l.text :=
    List.map_congr_left fun b hb => signExtend_ascii (l.ascii b hb)
  simp only [scan, if_neg l.not_compression, if_pos l.count_ne_zero, l.toInt_count, List.take_left,
    List.drop_left, htext]

/-- A label, and what stands behind it. -/
theorem labelsAt_label {a ys : Bytes} {p : Nat} {c : Byte} (l : Label)
    (h : a.drop p = l.encode ++ c :: ys) :
    labelsAt a p = ⟨l.text ++ separator c ++ (labelsAt a (p + l.encode.length)).chars,
      (labelsAt a (p + l.encode.length)).ending⟩ := by
  have hcount : a.drop p = BitVec.ofNat 8 l.bytes.length :: (l.bytes ++ c :: ys) := h
  have hbound : ys.length < (l.bytes ++ c :: ys).length := by
    rw [List.length_append, List.length_cons]
    omega
  have hnext : p + 1 + l.bytes.length + 1 = p + l.encode.length + 1 := by
    rw [l.encode_length]
    omega
  rw [labelsAt_of_drop hcount, labelsAt_of_drop (drop_append_length h), scan_label, hnext,
    scan_bound hbound (Nat.lt_succ_self ys.length)]

/-- What ends a row of labels. -/
def endingOf (p : Nat) (c : Byte) (ys : Bytes) : Ending :=
  if c = 0 then .zero (p + 1) else match ys with
    | [] => .outOfBounds
    | offset :: _ => .pointer offset (p + 2)

theorem endingOf_zero (p : Nat) (ys : Bytes) : endingOf p 0 ys = .zero (p + 1) := by
  cases ys <;> rfl

/-- A row of labels up to a zero byte or a pointer. -/
theorem labelsAt_row {a ys : Bytes} {p : Nat} {c : Byte} (hend : c = 0 ∨ 192 ≤ c.toNat)
    (row : List Label) (h : a.drop p = rowBytes row ++ c :: ys) :
    labelsAt a p = ⟨joined row ++ (if row = [] then [] else separator c),
      endingOf (p + (rowBytes row).length) c ys⟩ := by
  induction row generalizing p with
  | nil =>
    rcases hend with rfl | hmark
    · exact labelsAt_zero h
    · have hne := ne_zero_of_marked hmark
      cases ys with
      | nil =>
        rw [labelsAt_of_drop h]
        simp only [scan, if_pos ((isNameCompression_iff c).mpr hmark), endingOf, if_neg hne]
        rfl
      | cons offset rest =>
        rw [labelsAt_pointer hmark h, endingOf, if_neg hne]
        rfl
  | cons l row ih =>
    rw [rowBytes_cons, List.append_assoc] at h
    have hrest := ih (drop_append_length h)
    have hpos : p + (rowBytes (l :: row)).length = p + l.encode.length + (rowBytes row).length := by
      rw [rowBytes_cons, List.length_append]
      omega
    rw [hpos, if_neg (List.cons_ne_nil l row)]
    cases row with
    | nil =>
      rw [labelsAt_label l h, hrest]
      simp [joined]
    | cons l' row =>
      have hnext : a.drop p = l.encode ++
          BitVec.ofNat 8 l'.bytes.length :: (l'.bytes ++ rowBytes row ++ c :: ys) := by
        rw [h]
        simp [rowBytes_cons, Label.encode]
      rw [labelsAt_label l hnext, hrest, if_neg (List.cons_ne_nil l' row), separator, if_pos l'.count_ne_zero]
      simp [joined, List.intercalate_cons_cons]

/-! ## Where a name ends -/

theorem Name.ending {a : Bytes} {p q : Nat} (name : Name a p q) :
    (labelsAt a p).ending = .zero q ∨ ∃ low, (labelsAt a p).ending = .pointer low q := by
  cases name with
  | plain row written =>
    rw [labelsAt_row (.inl rfl) row written, endingOf_zero]
    exact .inl rfl
  | @compressed _ _ _ row high low _ written marked _ _ _ =>
    rw [labelsAt_row (.inr marked) row written, endingOf, if_neg (ne_zero_of_marked marked)]
    exact .inr ⟨low, rfl⟩

theorem Name.lt_end {a : Bytes} {p q : Nat} (name : Name a p q) : p < q := by
  cases name <;> omega

/-- Whoever reads the name stands behind it. -/
theorem Name.reads_end {a : Bytes} {p q r : Nat} (name : Name a p q) (h : Reads a p r) : r = q := by
  rw [reads_iff] at h
  rcases name.ending with hzero | ⟨low, hpointer⟩
  · rw [hzero] at h
    exact h
  · rw [hpointer] at h
    exact h.2

/-- A name that begins with a pointer is that pointer. -/
theorem Name.pointer_end {a : Bytes} {p q : Nat} (name : Name a p q)
    (h : isNameCompression (a.getD p 0)) : q = p + 2 := by
  have hget : ∀ c xs, a.drop p = c :: xs → a.getD p 0 = c := fun c xs hdrop => by
    rw [List.getD_eq_getElem?_getD, ← List.head?_drop, hdrop]
    rfl
  cases name with
  | plain row written =>
    cases row with
    | nil =>
      rw [hget _ _ written] at h
      exact absurd h (by decide)
    | cons l row =>
      rw [hget _ _ written] at h
      exact absurd h l.not_compression
  | compressed row written _ _ _ _ =>
    cases row with
    | nil => rfl
    | cons l row =>
      rw [hget _ _ written] at h
      exact absurd h l.not_compression

/-! ## What is spelled is printed -/

section

variable {a : Bytes}

theorem Spells.reads {p q : Nat} {cs : List JChar} (h : Spells a p cs q) : Reads a p q := by
  induction h with
  | zero h => exact .zero h
  | pointer h ht _ ih => exact .pointer h ht ih

theorem Reads.spells {p q : Nat} (h : Reads a p q) : ∃ cs, Spells a p cs q := by
  induction h with
  | zero h => exact ⟨_, .zero h⟩
  | pointer h ht _ ih =>
    obtain ⟨cs, hcs⟩ := ih
    exact ⟨_, .pointer h ht hcs⟩

theorem Spells.le {p q : Nat} {cs : List JChar} (h : Spells a p cs q) : q ≤ a.length := by
  cases h with
  | zero h => exact labelsAt_le (.inl h)
  | pointer h _ _ => exact labelsAt_le (.inr ⟨_, h⟩)

theorem target_of_pointer {p q t : Nat} {offset : Byte}
    (h : (labelsAt a p).ending = .pointer offset q) (ht : pointsTo a offset = some t) :
    target a p = some t := by
  rw [target, h]
  exact ht

/-- The pointers of a name that is read end. -/
theorem Reads.ends {p q : Nat} (h : Reads a p q) : Chain.Ends (target a) p := by
  induction h with
  | zero h =>
    refine Acc.intro _ fun t ht => ?_
    rw [target, h] at ht
    cases ht
  | pointer h ht _ ih =>
    refine Acc.intro _ fun t' ht' => ?_
    rw [target_of_pointer h ht] at ht'
    cases ht'
    exact ih

theorem Reads.not_deep {p q depth : Nat} (h : Reads a p q) (hdepth : 128 < depth) :
    ¬ Deep a depth p := fun hdeep => ((deep_iff_loops hdepth p).mp hdeep).not_ends h.ends

variable {σ : Type}

/-- A call that has room for the pointers prints what is spelled. -/
theorem Spells.run {p q : Nat} {cs : List JChar} (h : Spells a p cs q) {depth : Nat}
    (hdeep : ¬ Deep a depth p) (hp : p ≤ a.length) (s : σ) :
    readStringContent depth ⟨a, p, hp⟩ s = ⟨.ok ⟨a, q, h.le⟩, s, printed cs⟩ := by
  induction h generalizing depth s with
  | zero h =>
    cases depth with
    | zero => exact absurd (Option.some_ne_none _) hdeep
    | succ depth =>
      rw [readStringContent_run, printChars_bind_run, h, conclude,
        setPosition_within (labelsAt_le (.inl h)), Prog.pure_run, List.append_nil]
  | pointer h ht hr ih =>
    cases depth with
    | zero => exact absurd (Option.some_ne_none _) hdeep
    | succ depth =>
      rw [deep_succ, target_of_pointer h ht] at hdeep
      have hnext := ih (fun hdeep' => hdeep ⟨_, rfl, hdeep'⟩) (pointsTo_le ht) s
      rw [readStringContent_run, printChars_bind_run, h, conclude,
        duplicate_some ht (ByteBuffer.wrap a) rfl, Prog.lift_ok_bind,
        setPosition_within (labelsAt_le (.inr ⟨_, h⟩)), Prog.bind_run, hnext]
      simp only [Prog.pure_run, List.append_nil, printed_append]

/-- A call that returns has printed what is spelled. -/
theorem spells_of_run {p depth : Nat} {hp : p ≤ a.length} {s : σ} {buffer : ByteBuffer}
    (h : (readStringContent depth ⟨a, p, hp⟩ s).result = .ok buffer) :
    ∃ cs, Spells a p cs buffer.position := by
  have hdeep : ¬ Deep a depth p := fun hdeep => by
    rw [(readStringContent_overflows depth hp s).mpr hdeep] at h
    cases h
  induction depth generalizing p buffer with
  | zero => exact absurd (Option.some_ne_none p) hdeep
  | succ depth ih =>
    rw [readStringContent_run, printChars_bind_run] at h
    cases hending : (labelsAt a p).ending with
    | zero q =>
      rw [hending, conclude, setPosition_within (labelsAt_le (.inl hending))] at h
      cases h
      exact ⟨_, .zero hending⟩
    | outOfBounds =>
      rw [hending] at h
      cases h
    | pointer offset q =>
      rw [hending, conclude] at h
      cases ht : pointsTo a offset with
      | none =>
        rw [duplicate_none ht (ByteBuffer.wrap a) rfl, Prog.lift_error_bind] at h
        cases h
      | some t =>
        rw [duplicate_some ht (ByteBuffer.wrap a) rfl, Prog.lift_ok_bind, Prog.bind_run,
          setPosition_within (labelsAt_le (.inr ⟨_, hending⟩))] at h
        cases hnext : (readStringContent depth ⟨a, t, pointsTo_le ht⟩ s).result with
        | error e =>
          rw [hnext] at h
          cases h
        | ok b =>
          rw [hnext] at h
          cases h
          rw [deep_succ, target_of_pointer hending ht] at hdeep
          obtain ⟨cs, hcs⟩ := ih hnext fun hdeep' => hdeep ⟨_, rfl, hdeep'⟩
          exact ⟨_, .pointer hending ht hcs⟩

theorem printed_injective : Function.Injective printed :=
  List.map_injective_iff.mpr fun c d h => by cases h; rfl

/-- On a stack with room for more calls than pointers have targets, just what is
spelled is printed. -/
theorem readStringContent_iff {p q depth : Nat} (hdepth : 128 < depth) (hp : p ≤ a.length)
    (hq : q ≤ a.length) (cs : List JChar) (s : σ) :
    readStringContent depth ⟨a, p, hp⟩ s = ⟨.ok ⟨a, q, hq⟩, s, printed cs⟩ ↔ Spells a p cs q := by
  constructor
  · intro h
    obtain ⟨ds, hds⟩ := spells_of_run (congrArg Outcome.result h)
    have hrun := hds.run (hds.reads.not_deep hdepth) hp s
    rw [h] at hrun
    rw [printed_injective (congrArg Outcome.out hrun)]
    exact hds
  · exact fun h => h.run (h.reads.not_deep hdepth) hp s

end

/-! ## Names as they are read -/

section

variable {a : Bytes}

theorem spells_zero_iff {p q q' : Nat} {cs : List JChar}
    (h : (labelsAt a p).ending = .zero q) :
    Spells a p cs q' ↔ cs = (labelsAt a p).chars ∧ q' = q := by
  constructor
  · rintro (h' | ⟨h', -, -⟩)
    · rw [h] at h'
      cases h'
      exact ⟨rfl, rfl⟩
    · rw [h] at h'
      cases h'
  · rintro ⟨rfl, rfl⟩
    exact .zero h

theorem spells_pointer_iff {p q q' : Nat} {offset : Byte} {cs : List JChar}
    (h : (labelsAt a p).ending = .pointer offset q) :
    Spells a p cs q' ↔ q' = q ∧ ∃ t r ds, pointsTo a offset = some t ∧ Spells a t ds r ∧
      cs = (labelsAt a p).chars ++ ds := by
  constructor
  · rintro (h' | ⟨h', ht, hr⟩)
    · rw [h] at h'
      cases h'
    · rw [h] at h'
      cases h'
      exact ⟨rfl, _, _, _, ht, hr, rfl⟩
  · rintro ⟨rfl, t, r, ds, ht, hr, rfl⟩
    exact .pointer h ht hr

theorem joined_append (row labels : List Label) :
    joined (row ++ labels) =
      joined row ++ (if row = [] ∨ labels = [] then [] else [dot]) ++ joined labels := by
  induction row with
  | nil => simp [joined]
  | cons l row ih =>
    cases row with
    | nil =>
      cases labels with
      | nil => simp [joined]
      | cons l' labels => simp [joined, List.intercalate_cons_cons]
    | cons l' row =>
      simp only [joined, List.cons_append, List.map_cons, List.intercalate_cons_cons] at ih ⊢
      rw [ih]
      simp

theorem Name.start_lt {p q : Nat} (name : Name a p q) : p < a.length := by
  have hdrop : a.drop p ≠ [] := by
    cases name with
    | plain row written => rw [written]; simp
    | compressed row written _ _ _ _ => rw [written]; simp
  exact Nat.lt_of_not_le fun hle => hdrop (List.drop_eq_nil_of_le hle)

theorem pointerOffset_lt_128 {high low : Byte} (h : pointerOffset high low < 128) :
    low.toInt = pointerOffset high low := by
  have := low.isLt
  unfold pointerOffset at *
  unfold BitVec.toInt
  split <;> omega

theorem pointsTo_near {high low : Byte} (h : pointerOffset high low < 128)
    (hle : pointerOffset high low ≤ a.length) :
    pointsTo a low = some (pointerOffset high low) := by
  have hlow := pointerOffset_lt_128 h
  rw [pointsTo, if_pos ⟨by omega, by omega⟩, hlow]
  rfl

/-- A second byte of 128 and more is a negative position. -/
theorem pointsTo_far {high low : Byte} (h : 128 ≤ pointerOffset high low)
    (h' : pointerOffset high low < 256) : pointsTo a low = none := by
  have := low.isLt
  have hneg : low.toInt < 0 := by
    unfold pointerOffset at h h'
    unfold BitVec.toInt
    split <;> omega
  exact if_neg fun hpos => absurd hpos.1 (by omega)

/-- What is spelled for a pointer after a row of labels. -/
theorem spells_compressed_iff {p q' : Nat} {high low : Byte} {rest : Bytes} {row labels : List Label}
    (written : a.drop p = rowBytes row ++ high :: low :: rest) (marked : 192 ≤ high.toNat) :
    Spells a p (joined (row ++ labels)) q' ↔ q' = p + (rowBytes row).length + 2 ∧
      (row = [] ∨ labels ≠ []) ∧ ∃ t r, pointsTo a low = some t ∧ Spells a t (joined labels) r := by
  have hne := ne_zero_of_marked marked
  have hrow := labelsAt_row (.inr marked) row written
  have hending : (labelsAt a p).ending = .pointer low (p + (rowBytes row).length + 2) := by
    rw [hrow, endingOf, if_neg hne]
  rw [spells_pointer_iff hending, hrow, joined_append]
  refine and_congr_right fun _ => ?_
  by_cases hnil : row = []
  · subst hnil
    simp [joined]
  · simp only [hnil, false_or, separator, if_neg, ne_eq, hne, not_false_eq_true, if_true]
    by_cases hlabels : labels = []
    · subst hlabels
      refine iff_of_false ?_ fun h => h.1 rfl
      rintro ⟨t, r, ds, -, -, heq⟩
      have hlen := congrArg List.length heq
      simp [joined] at hlen
    · simp [hlabels]

/-- The text of a name is printed just if the name is legible. -/
theorem Name.spells_iff {p q : Nat} (name : Name a p q) (q' : Nat) :
    Spells a p (joined name.labels) q' ↔ q' = q ∧ name.Legible := by
  induction name generalizing q' with
  | @plain p row rest written =>
    have hrow := labelsAt_row (.inl rfl) row written
    have hending : (labelsAt a p).ending = .zero (p + (rowBytes row).length + 1) := by
      rw [hrow, endingOf_zero]
    rw [spells_zero_iff hending, hrow, Name.labels, Name.Legible]
    simp [separator]
  | @compressed p t r row high low rest written marked offset backward onward ih =>
    rw [Name.labels, spells_compressed_iff written marked, Name.Legible]
    refine and_congr_right fun _ => and_congr_right fun _ => ?_
    have hlt := onward.start_lt
    subst offset
    constructor
    · rintro ⟨x, y, hx, hy⟩
      by_cases hnear : pointerOffset high low < 128
      · rw [pointsTo_near hnear (Nat.le_of_lt hlt)] at hx
        cases hx
        exact .inl ⟨hnear, ((ih y).mp hy).2⟩
      · by_cases hfar : pointerOffset high low < 256
        · rw [pointsTo_far (by omega) hfar] at hx
          cases hx
        · exact .inr ⟨by omega, x, y, hx, hy⟩
    · rintro (⟨hnear, hlegible⟩ | ⟨-, h⟩)
      · exact ⟨_, r, pointsTo_near hnear (Nat.le_of_lt hlt), (ih r).mpr ⟨rfl, hlegible⟩⟩
      · exact h

theorem Name.end_le {p q : Nat} (name : Name a p q) : q ≤ a.length := by
  cases name with
  | plain row written =>
    have hlen := congrArg List.length written
    rw [List.length_drop, List.length_append, List.length_cons] at hlen
    omega
  | compressed row written _ _ _ _ =>
    have hlen := congrArg List.length written
    rw [List.length_drop, List.length_append, List.length_cons, List.length_cons] at hlen
    omega

/-- `readStringContent` prints the text of the name and leaves the buffer behind
it, wherever the stack has room for more calls than pointers have targets. -/
def Decompressed {p q : Nat} (name : Name a p q) : Prop :=
  ∀ depth, 128 < depth → ∀ this : DNSApplication,
    readStringContent depth ⟨a, p, name.start_lt.le⟩ this =
      ⟨.ok ⟨a, q, name.end_le⟩, this, printed (joined name.labels)⟩

/-- Which names are decompressed. -/
theorem decompressed_iff_legible (a : Bytes) {p q : Nat} (name : Name a p q) :
    Decompressed name ↔ name.Legible := by
  constructor
  · intro h
    have hrun := h 129 (by decide) ⟨0, none, [], [], [], 0⟩
    rw [readStringContent_iff (by decide)] at hrun
    exact ((name.spells_iff q).mp hrun).2
  · intro h depth hdepth this
    rw [readStringContent_iff hdepth]
    exact (name.spells_iff q).mpr ⟨rfl, h⟩

end

/-- The mark of a pointer to the first 256 bytes. -/
theorem pointer_marked : 192 ≤ (0xC0 : Byte).toNat := by decide

/-- The label `a`. -/
def sampleLabel : Label := ⟨[97], by decide, by decide⟩

/-- The name `a` at position 128 and a pointer to it. -/
def farName : Bytes := List.replicate 128 0 ++ [1, 97, 0, 0xC0, 0x80]

theorem farName_pointer_written : farName.drop 131 = rowBytes [] ++ 0xC0 :: 0x80 :: [] := by decide

def farName_target : Name farName 128 131 :=
  .plain [sampleLabel] (show _ = rowBytes [sampleLabel] ++ 0 :: [0xC0, 0x80] by decide)

def farName_pointer : Name farName 131 133 :=
  .compressed [] farName_pointer_written pointer_marked rfl (by decide) farName_target

/-- The second byte of the pointer is read as -128. -/
theorem far_pointer_not_decompressed :
    ¬ ∀ (a : Bytes) (p q : Nat) (name : Name a p q), Decompressed name := by
  intro h
  have hrun := h farName 131 133 farName_pointer 129 (by decide) ⟨0, none, [], [], [], 0⟩
  have hrow := labelsAt_pointer pointer_marked farName_pointer_written
  have hnone : pointsTo farName 0x80 = none := by decide
  rw [readStringContent_run, printChars_bind_run, hrow, conclude,
    duplicate_none hnone (ByteBuffer.wrap farName) rfl, Prog.lift_error_bind] at hrun
  cases congrArg Outcome.result hrun

end TcpIpStack.DNSApplication
