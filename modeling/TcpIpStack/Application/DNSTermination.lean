import TcpIpStack.Application.DNSNames

/-!
# Whether parsing a DNS reply ends

A reader of the reply starts to read names at certain positions (`starts`) and,
if it gets that far, stands at a certain position afterwards (`ends`). It ends
at a large enough depth of the stack if and only if the pointers of every name
it starts to read end, and that is so exactly when none leads into a cycle.
-/

namespace TcpIpStack.DNSApplication

open TcpIpStack.Java TcpIpStack.Lib

/-- The exceptions of a read or a position outside the array. -/
def IsBounds (e : Throwable) : Prop := e = .bufferUnderflow ∨ e = .illegalArgument

/-- What a reader returns that can stand at the positions `ends` afterwards. -/
inductive Parsed (a : Bytes) (ends : Nat → Prop) : Except Throwable ByteBuffer → Prop
  | ok {q : Nat} (hq : q ≤ a.length) (h : ∀ r, ends r ↔ r = q) : Parsed a ends (.ok ⟨a, q, hq⟩)
  | error {e : Throwable} (he : IsBounds e) (h : ∀ q, ¬ ends q) : Parsed a ends (.error e)

/-- The pointers of the name at `x` go on for `depth` links. -/
def Deep (a : Bytes) (depth x : Nat) : Prop := (Chain.step (target a))^[depth] (some x) ≠ none

/-- The reader `m` of the array starts to read the names at `starts` and stands
at `ends` afterwards; it runs out of stack only on account of a name. -/
structure Follows {σ : Type} (a : Bytes) (m : Nat → AppM σ ByteBuffer) (starts ends : Nat → Prop) :
    Prop where
  overflows : ∀ depth s, (m depth s).result = .error .stackOverflowError ↔
    ∃ x, starts x ∧ Deep a depth x
  settles : (∀ x, starts x → Chain.Ends (target a) x) →
    ∀ s, ∃ o, Prog.Settles .stackOverflowError m s o ∧ Parsed a ends o.result

/-- On a stack with room for more calls than pointers have targets, just the names
whose pointers cycle are too deep. -/
theorem deep_iff_loops {a : Bytes} {depth : Nat} (h : 128 < depth) (x : Nat) :
    Deep a depth x ↔ Chain.Loops (target a) x :=
  Chain.long_iff_loops (fun _ _ hlink => Finset.mem_range.mpr (target_lt hlink))
    (by rwa [Finset.card_range])

theorem Parsed.ne_stackOverflow {a : Bytes} {ends : Nat → Prop} {r : Except Throwable ByteBuffer}
    (h : Parsed a ends r) : r ≠ .error .stackOverflowError := by
  rintro rfl
  cases h with
  | error he _ => rcases he with he | he <;> cases he

namespace Follows

variable {σ : Type} {a : Bytes} {m : Nat → AppM σ ByteBuffer} {S E : Nat → Prop}

/-- Endless pointers use up any stack. -/
theorem runsOut (h : Follows a m S E) {x : Nat} (hx : S x) (hx' : ¬ Chain.Ends (target a) x)
    (s : σ) : Prog.RunsOut .stackOverflowError m s := fun depth =>
  (h.overflows depth s).mpr ⟨x, hx, Chain.iterate_ne_none hx' depth⟩

/-- A run that does not overflow ends as at any other depth. -/
theorem parsed (h : Follows a m S E) {depth : Nat} {s : σ}
    (hno : (m depth s).result ≠ .error .stackOverflowError) : Parsed a E (m depth s).result := by
  obtain ⟨o, hsettles, hparsed⟩ := h.settles (fun x hx => by
    by_contra hends
    exact hno (h.runsOut hx hends s depth)) s
  rwa [hsettles.otherwise depth hno]

theorem congr {S' E' : Nat → Prop} (h : Follows a m S E) (hS : ∀ x, S' x ↔ S x)
    (hE : ∀ q, E' q ↔ E q) : Follows a m S' E' := by
  have hS' : S' = S := funext fun x => propext (hS x)
  have hE' : E' = E := funext fun q => propext (hE q)
  rwa [hS', hE']

/-- A program that reads no names. -/
theorem const {p : AppM σ ByteBuffer} (hS : ∀ x, ¬ S x) (hp : ∀ s, Parsed a E (p s).result) :
    Follows a (fun _ => p) S E :=
  ⟨fun _ s => iff_of_false (hp s).ne_stackOverflow fun ⟨x, hx, _⟩ => hS x hx,
    fun _ s => ⟨_, .const _ s, hp s⟩⟩

theorem pure {q : Nat} (hq : q ≤ a.length) (hS : ∀ x, ¬ S x) (hE : ∀ r, E r ↔ r = q) :
    Follows a (fun _ => (Pure.pure ⟨a, q, hq⟩ : AppM σ ByteBuffer)) S E :=
  const hS fun _ => .ok hq hE

theorem throw {e : Throwable} (he : IsBounds e) (hS : ∀ x, ¬ S x) (hE : ∀ q, ¬ E q) :
    Follows a (fun _ => (Prog.throw e : AppM σ ByteBuffer)) S E :=
  const hS fun _ => .error he hE

/-- One reader after the other. -/
theorem bind {f : Nat → ByteBuffer → AppM σ ByteBuffer} {S' E' : Nat → Nat → Prop}
    (h : Follows a m S E)
    (h' : ∀ q (hq : q ≤ a.length), Follows a (fun d => f d ⟨a, q, hq⟩) (S' q) (E' q)) :
    Follows a (fun d => m d >>= f d) (fun x => S x ∨ ∃ q, E q ∧ S' q x)
      (fun r => ∃ q, E q ∧ E' q r) := by
  constructor
  · intro depth s
    show ((m depth >>= f depth) s).result = _ ↔ _
    by_cases hover : (m depth s).result = .error .stackOverflowError
    · obtain ⟨x, hx, hdeep⟩ := (h.overflows depth s).mp hover
      exact iff_of_true (by rw [Prog.bind_run, hover]) ⟨x, .inl hx, hdeep⟩
    -- the first reader has found its names shallow
    have hshallow : ∀ x, S x → ¬ Deep a depth x := fun x hx hdeep =>
      hover ((h.overflows depth s).mpr ⟨x, hx, hdeep⟩)
    have hparsed := h.parsed hover
    rw [Prog.bind_run]
    generalize (m depth s).result = r at hparsed ⊢
    cases hparsed with
    | error he hends =>
      refine iff_of_false (Parsed.error (a := a) he hends).ne_stackOverflow ?_
      rintro ⟨x, hx | ⟨q, hq, -⟩, hdeep⟩
      · exact hshallow x hx hdeep
      · exact hends q hq
    | ok hle hends =>
      rename_i q
      refine ((h' q hle).overflows depth (m depth s).state).trans ⟨?_, ?_⟩
      · rintro ⟨x, hx, hdeep⟩
        exact ⟨x, .inr ⟨q, (hends q).mpr rfl, hx⟩, hdeep⟩
      · rintro ⟨x, hx | ⟨q', hq', hx⟩, hdeep⟩
        · exact absurd hdeep (hshallow x hx)
        · obtain rfl := (hends q').mp hq'
          exact ⟨x, hx, hdeep⟩
  · intro hall s
    obtain ⟨⟨r, s', out⟩, hsettles, hparsed⟩ := h.settles (fun x hx => hall x (.inl hx)) s
    cases hparsed with
    | ok hle hends =>
      rename_i q
      have hq : E q := (hends q).mpr rfl
      have hiff : ∀ r, (∃ q, E q ∧ E' q r) ↔ E' q r := fun r =>
        ⟨fun ⟨q', hq', hr⟩ => by obtain rfl := (hends q').mp hq'; exact hr, fun hr => ⟨q, hq, hr⟩⟩
      obtain ⟨⟨r', s'', out'⟩, hsettles', hparsed'⟩ :=
        (h' q hle).settles (fun x hx => hall x (.inr ⟨q, hq, hx⟩)) s'
      refine ⟨_, hsettles.bind_ok hsettles', ?_⟩
      cases hparsed' with
      | ok hle' hends' => exact .ok hle' fun r => (hiff r).trans (hends' r)
      | error he hends' => exact .error he fun r hr => hends' r ((hiff r).mp hr)
    | error he hends =>
      exact ⟨_, hsettles.bind_error, .error he fun r ⟨q, hq, _⟩ => hends q hq⟩

/-- Read `n` bytes first; names and ends lie behind them. -/
theorem read {β : Type} {r : Except Throwable (β × ByteBuffer)} {n p : Nat} {v : β}
    {k : Nat → β × ByteBuffer → AppM σ ByteBuffer}
    (hr : r = if h : p + n ≤ a.length then .ok (v, ⟨a, p + n, h⟩) else .error .bufferUnderflow)
    (hS : ∀ x, S x → p + n ≤ a.length) (hE : ∀ q, E q → p + n ≤ a.length)
    (h : ∀ h : p + n ≤ a.length, Follows a (fun d => k d (v, ⟨a, p + n, h⟩)) S E) :
    Follows a (fun d => Prog.lift r >>= k d) S E := by
  by_cases hle : p + n ≤ a.length
  · rw [hr, dif_pos hle]
    simp only [Prog.lift_ok_bind]
    exact h hle
  · rw [hr, dif_neg hle]
    simp only [Prog.lift_error_bind]
    exact throw (.inl rfl) (fun x hx => hle (hS x hx)) fun q hq => hle (hE q hq)

/-- Printing changes nothing of this. -/
theorem emitAll (es : List Call) (h : Follows a m S E) :
    Follows a (fun d => (Prog.emitAll es : AppM σ Unit) >>= fun _ => m d) S E := by
  refine ⟨fun depth s => h.overflows depth s, fun hall s => ?_⟩
  obtain ⟨o, hsettles, hparsed⟩ := h.settles hall s
  exact ⟨_, (Prog.Settles.const (Prog.emitAll es) s).bind_ok hsettles, hparsed⟩

end Follows

/-! ## Names -/

section

variable {σ : Type} {a : Bytes}

theorem pointsTo_le {offset : Byte} {t : Nat} (h : pointsTo a offset = some t) : t ≤ a.length := by
  unfold pointsTo at h
  split at h
  · cases h
    omega
  · cases h

theorem duplicate_some {offset : Byte} {t : Nat} (h : pointsTo a offset = some t) (b : ByteBuffer)
    (hb : b.array = a) : duplicate b offset = .ok ⟨a, t, pointsTo_le h⟩ := by
  subst hb
  unfold pointsTo at h
  split at h
  · cases h
    exact ByteBuffer.setPosition_ok (by omega) _
  · cases h

theorem duplicate_none {offset : Byte} (h : pointsTo a offset = none) (b : ByteBuffer)
    (hb : b.array = a) : duplicate b offset = .error .illegalArgument := by
  subst hb
  unfold pointsTo at h
  split at h
  · cases h
  · rename_i hout
    exact dif_neg hout

/-- Where the reader of a row of labels stands once the pointer is followed. -/
def endsAfter (a : Bytes) : Ending → Nat → Prop
  | .zero q, r => r = q
  | .pointer offset q, r => (∃ t, pointsTo a offset = some t ∧ ∃ u, Reads a t u) ∧ r = q
  | .outOfBounds, _ => False

theorem reads_iff {p q : Nat} : Reads a p q ↔ endsAfter a (labelsAt a p).ending q := by
  constructor
  · rintro (h | ⟨h, ht, hr⟩)
    · rw [h]; rfl
    · rw [h]; exact ⟨⟨_, ht, _, hr⟩, rfl⟩
  · intro h
    cases hending : (labelsAt a p).ending with
    | zero r => rw [hending] at h; cases h; exact .zero hending
    | pointer offset r =>
      rw [hending] at h
      obtain ⟨⟨t, ht, u, hu⟩, rfl⟩ := h
      exact .pointer hending ht hu
    | outOfBounds => rw [hending] at h; cases h

theorem setPosition_within {q : Nat} (hq : q ≤ a.length) :
    (Prog.lift ((ByteBuffer.wrap a).setPosition q) : AppM σ ByteBuffer) = pure ⟨a, q, hq⟩ := by
  rw [ByteBuffer.setPosition_ok rfl hq]
  rfl

theorem deep_succ {depth p : Nat} :
    Deep a (depth + 1) p ↔ ∃ t, target a p = some t ∧ Deep a depth t := by
  unfold Deep
  rw [Function.iterate_succ_apply, show Chain.step (target a) (some p) = target a p from rfl]
  cases target a p with
  | none => exact iff_of_false (not_not.mpr (Chain.iterate_none depth)) nofun
  | some t => exact ⟨fun h => ⟨t, rfl, h⟩, fun ⟨_, ht, h⟩ => Option.some.inj ht ▸ h⟩

/-- A name overflows the stack when its pointers outnumber the calls it has room for. -/
theorem readStringContent_overflows (depth : Nat) {p : Nat} (hp : p ≤ a.length) (s : σ) :
    (readStringContent depth ⟨a, p, hp⟩ s).result = .error .stackOverflowError ↔
      Deep a depth p := by
  induction depth generalizing p s with
  | zero => exact iff_of_true rfl (Option.some_ne_none p)
  | succ depth ih =>
    have hnone : ¬ ∃ t, none = some t ∧ Deep a depth t := by
      rintro ⟨t, ht, -⟩
      cases ht
    rw [deep_succ, readStringContent_run, printChars_bind_run]
    show (conclude (readStringContent depth) a (labelsAt a p).ending s).result = _ ↔ _
    unfold target
    cases hending : (labelsAt a p).ending with
    | zero q =>
      rw [conclude, setPosition_within (labelsAt_le (.inl hending))]
      refine iff_of_false ?_ hnone
      rintro ⟨⟩
    | outOfBounds =>
      refine iff_of_false ?_ hnone
      rintro ⟨⟩
    | pointer offset q =>
      have hq := labelsAt_le (.inr ⟨offset, hending⟩)
      rw [conclude, setPosition_within hq]
      dsimp only
      cases ht : pointsTo a offset with
      | none =>
        rw [duplicate_none ht (ByteBuffer.wrap a) rfl, Prog.lift_error_bind]
        refine iff_of_false ?_ hnone
        rintro ⟨⟩
      | some t =>
        rw [duplicate_some ht (ByteBuffer.wrap a) rfl, Prog.lift_ok_bind, Prog.bind_run]
        have hfollow := ih (pointsTo_le ht) s
        have hlink : (∃ t', some t = some t' ∧ Deep a depth t') ↔ Deep a depth t := by
          refine ⟨?_, fun h => ⟨t, rfl, h⟩⟩
          rintro ⟨_, ht', h⟩
          rwa [Option.some.inj ht']
        rw [hlink, ← hfollow]
        cases (readStringContent depth ⟨a, t, pointsTo_le ht⟩ s).result with
        | ok buffer =>
          refine iff_of_false ?_ ?_ <;> rintro ⟨⟩
        | error e => exact Iff.rfl

/-- The pointer of a row of labels is followed to its end. -/
theorem conclude_follows {ending : Ending}
    (hle : ∀ q, (ending = .zero q ∨ ∃ offset, ending = .pointer offset q) → q ≤ a.length)
    (h : ∀ offset q t ht, ending = .pointer offset q → pointsTo a offset = some t →
      Follows (σ := σ) a (fun d => readStringContent d ⟨a, t, ht⟩) (· = t) (Reads a t)) :
    Follows (σ := σ) a (fun d => conclude (readStringContent d) a ending)
      (fun x => ∃ offset q, ending = .pointer offset q ∧ pointsTo a offset = some x)
      (endsAfter a ending) := by
  cases ending with
  | zero q =>
    simp only [conclude, setPosition_within (hle q (.inl rfl))]
    exact .pure _ (by simp) fun r => Iff.rfl
  | outOfBounds => exact .throw (.inl rfl) (by simp) fun q hq => hq
  | pointer offset q =>
    have hq := hle q (.inr ⟨offset, rfl⟩)
    simp only [conclude, setPosition_within hq]
    cases ht : pointsTo a offset with
    | none =>
      simp only [duplicate_none ht (ByteBuffer.wrap a) rfl, Prog.lift_error_bind]
      refine .throw (.inr rfl) ?_ ?_
      · rintro x ⟨offset', q', heq, hx⟩
        cases heq
        rw [ht] at hx
        cases hx
      · rintro r ⟨⟨t, hx, -⟩, -⟩
        rw [ht] at hx
        cases hx
    | some t =>
      simp only [duplicate_some ht (ByteBuffer.wrap a) rfl, Prog.lift_ok_bind]
      have hnext := h offset q t (pointsTo_le ht) rfl ht
      have hback : ∀ q' (hq' : q' ≤ a.length), Follows (σ := σ) a (fun _ => pure ⟨a, q, hq⟩)
          (fun _ => False) (· = q) := fun _ _ => .pure hq (fun _ h => h) fun r => Iff.rfl
      refine (hnext.bind hback).congr (fun x => ?_) fun r => ?_
      · simp [ht, eq_comm]
      · simp [endsAfter, ht]

/-- Reading a name follows its pointers. -/
theorem readStringContent_follows {p : Nat} (hp : p ≤ a.length) :
    Follows (σ := σ) a (fun d => readStringContent d ⟨a, p, hp⟩) (· = p) (Reads a p) := by
  have hover : ∀ {p : Nat} (hp : p ≤ a.length) (depth : Nat) (s : σ),
      (readStringContent depth ⟨a, p, hp⟩ s).result = .error .stackOverflowError ↔
        ∃ x, x = p ∧ Deep a depth x := fun hp depth s =>
    (readStringContent_overflows depth hp s).trans (exists_eq_left (p := Deep a depth)).symm
  refine ⟨hover hp, fun hall s => ?_⟩
  have hends := hall p rfl
  clear hall
  induction hends generalizing s with
  | intro p hacc ih =>
    have htarget : ∀ offset q t, (labelsAt a p).ending = .pointer offset q →
        pointsTo a offset = some t → target a p = some t := by
      intro offset q t hending ht
      rw [target, hending]
      exact ht
    -- one level down the induction applies
    have hnext : ∀ offset q t ht, (labelsAt a p).ending = .pointer offset q →
        pointsTo a offset = some t →
        Follows (σ := σ) a (fun d => readStringContent d ⟨a, t, ht⟩) (· = t) (Reads a t) := by
      intro offset q t hle hending ht
      exact ⟨hover hle, fun _ s => ih t (htarget offset q t hending ht) hle s⟩
    obtain ⟨o, hsettles, hparsed⟩ :=
      ((conclude_follows (fun q hq => labelsAt_le hq) hnext).emitAll
        (printed (labelsAt a p).chars)).settles
        (fun x ⟨offset, q, hending, hx⟩ => hacc x (htarget offset q x hending hx)) s
    refine ⟨o, .succ rfl (hsettles.congr fun d => readStringContent_run d hp s), ?_⟩
    rwa [show Reads a p = _ from funext fun q => propext reads_iff]

end

/-! ## The sections of a reply -/

section

variable (a : Bytes)

/-- The names of `n` questions from `p` on: each is followed by four bytes. -/
def questionStarts : Nat → Nat → Nat → Prop
  | 0, _, _ => False
  | n + 1, p, x => x = p ∨ ∃ q, Reads a p q ∧ q + 4 ≤ a.length ∧ questionStarts n (q + 4) x

/-- The end of `n` questions from `p` on. -/
def questionEnds : Nat → Nat → Nat → Prop
  | 0, p, r => r = p
  | n + 1, p, r => ∃ q, Reads a p q ∧ q + 4 ≤ a.length ∧ questionEnds n (q + 4) r

/-- The name of an answer at `p`: behind its first byte, unless that is half of a
pointer. -/
def ownerStarts (p x : Nat) : Prop :=
  p + 1 ≤ a.length ∧
    if isNameCompression (a.getD p 0) then
      p + 2 ≤ a.length ∧ pointsTo a (a.getD (p + 1) 0) = some x
    else x = p + 1

def ownerEnds (p r : Nat) : Prop :=
  p + 1 ≤ a.length ∧
    if isNameCompression (a.getD p 0) then
      p + 2 ≤ a.length ∧
        ∃ x, pointsTo a (a.getD (p + 1) 0) = some x ∧ (∃ u, Reads a x u) ∧ r = p + 2
    else Reads a (p + 1) r

/-- The name in the data of an answer whose type is at `p`. -/
def recordStarts (p x : Nat) : Prop :=
  p + 10 ≤ a.length ∧ shortOf (slice a p 2) = DNS_ANSWER_CANONICAL_NAME_FOR_ALIAS ∧ x = p + 10

def recordEnds (p r : Nat) : Prop :=
  p + 10 ≤ a.length ∧
    if shortOf (slice a p 2) = DNS_ANSWER_CANONICAL_NAME_FOR_ALIAS then Reads a (p + 10) r
    else if shortOf (slice a p 2) = DNS_ANSWER_HOST_ADDRESS then
      p + 14 ≤ a.length ∧ r = p + 14
    else r = p + 10

def answerStarts : Nat → Nat → Nat → Prop
  | 0, _, _ => False
  | n + 1, p, x => ownerStarts a p x ∨
      ∃ q, ownerEnds a p q ∧ (recordStarts a q x ∨ ∃ r, recordEnds a q r ∧ answerStarts n r x)

def answerEnds : Nat → Nat → Nat → Prop
  | 0, p, r => r = p
  | n + 1, p, r => ∃ q, ownerEnds a p q ∧ ∃ q', recordEnds a q q' ∧ answerEnds n q' r

/-- A count of the header, as it is read. -/
def count (p : Nat) : Nat := (shortOf (slice a p 2)).toInt.toNat

/-- The position of a name that the reader of the reply starts to read. -/
def Reached (x : Nat) : Prop :=
  12 ≤ a.length ∧ (questionStarts a (count a 4) 12 x ∨
    ∃ q, questionEnds a (count a 4) 12 q ∧ answerStarts a (count a 6) q x)

end

section

variable {σ : Type} {a : Bytes}

theorem readQuestions_follows (n : Nat) {p : Nat} (hp : p ≤ a.length) :
    Follows (σ := σ) a (fun d => readQuestions d n ⟨a, p, hp⟩) (questionStarts a n p)
      (questionEnds a n p) := by
  induction n generalizing p with
  | zero => exact .pure hp (fun x hx => hx) fun r => Iff.rfl
  | succ n ih =>
    refine (readStringContent_follows hp).bind fun q hq => ?_
    refine .read (ByteBuffer.getShort_mk hq) (fun x hx => ?_) (fun r hr => ?_) fun h => ?_
    · have := hx.1; omega
    · have := hr.1; omega
    refine .read (ByteBuffer.getShort_mk h) (fun x hx => hx.1) (fun r hr => hr.1) fun h' => ?_
    exact (ih h').congr (fun x => and_iff_right h') fun r => and_iff_right h'

theorem readOwner_follows {p : Nat} (hp : p ≤ a.length) :
    Follows (σ := σ) a (fun d => readOwner d ⟨a, p, hp⟩) (ownerStarts a p) (ownerEnds a p) := by
  refine .read (ByteBuffer.get_mk hp) (fun x hx => hx.1) (fun r hr => hr.1) fun h => ?_
  by_cases hcomp : isNameCompression (a.getD p 0)
  · simp only [if_pos hcomp]
    have hS : ∀ x, ownerStarts a p x ↔
        p + 1 ≤ a.length ∧ p + 2 ≤ a.length ∧ pointsTo a (a.getD (p + 1) 0) = some x := fun x => by
      rw [ownerStarts, if_pos hcomp]
    have hE : ∀ r, ownerEnds a p r ↔ p + 1 ≤ a.length ∧ p + 2 ≤ a.length ∧
        ∃ x, pointsTo a (a.getD (p + 1) 0) = some x ∧ (∃ u, Reads a x u) ∧ r = p + 2 := fun r => by
      rw [ownerEnds, if_pos hcomp]
    refine .read (ByteBuffer.get_mk h) (fun x hx => ((hS x).mp hx).2.1)
      (fun r hr => ((hE r).mp hr).2.1) fun h' => ?_
    cases ht : pointsTo a (a.getD (p + 1) 0) with
    | none =>
      simp only [duplicate_none ht ⟨a, p + 1 + 1, h'⟩ rfl, Prog.lift_error_bind]
      refine .throw (.inr rfl) (fun x hx => ?_) fun r hr => ?_
      · rw [hS, ht] at hx
        cases hx.2.2
      · obtain ⟨-, -, x, hx, -⟩ := (hE r).mp hr
        rw [ht] at hx
        cases hx
    | some t =>
      simp only [duplicate_some ht ⟨a, p + 1 + 1, h'⟩ rfl, Prog.lift_ok_bind]
      have hback : ∀ q' (hq' : q' ≤ a.length), Follows (σ := σ) a
          (fun _ => pure ⟨a, p + 1 + 1, h'⟩) (fun _ => False) (· = p + 2) :=
        fun _ _ => .pure h' (fun _ h => h) fun r => Iff.rfl
      refine ((readStringContent_follows (pointsTo_le ht)).bind hback).congr (fun x => ?_)
        fun r => ?_
      · rw [hS, ht]
        simp [h, h', eq_comm]
      · rw [hE, ht]
        simp [h, h']
  · simp only [if_neg hcomp]
    refine (readStringContent_follows h).congr (fun x => ?_) fun r => ?_
    · simp only [ownerStarts, if_neg hcomp, h, true_and]
    · simp only [ownerEnds, if_neg hcomp, h, true_and]

theorem readRecord_follows {p : Nat} (hp : p ≤ a.length) :
    Follows (σ := σ) a (fun d => readRecord d ⟨a, p, hp⟩) (recordStarts a p) (recordEnds a p) := by
  have hS : ∀ n, n ≤ 10 → ∀ x, recordStarts a p x → p + n ≤ a.length := fun n hn x hx => by
    have := hx.1; omega
  have hE : ∀ n, n ≤ 10 → ∀ r, recordEnds a p r → p + n ≤ a.length := fun n hn r hr => by
    have := hr.1; omega
  refine .read (ByteBuffer.getShort_mk hp) (hS 2 (by decide)) (hE 2 (by decide)) fun h2 => ?_
  refine .read (ByteBuffer.getShort_mk h2) (hS 4 (by decide)) (hE 4 (by decide)) fun h4 => ?_
  refine .read (ByteBuffer.getInt_mk h4) (hS 8 (by decide)) (hE 8 (by decide)) fun h8 => ?_
  refine .read (ByteBuffer.getShort_mk h8) (hS 10 (by decide)) (hE 10 (by decide)) fun h10 => ?_
  have h10' : p + 10 ≤ a.length := h10
  by_cases halias : shortOf (slice a p 2) = DNS_ANSWER_CANONICAL_NAME_FOR_ALIAS
  · simp only [if_pos halias]
    refine (readStringContent_follows h10).congr (fun x => ?_) fun r => ?_
    · simp only [recordStarts, h10', halias, true_and]
    · simp only [recordEnds, h10', if_pos halias, true_and]
  have hnone : ∀ x, ¬ recordStarts a p x := fun x hx => halias hx.2.1
  by_cases haddr : shortOf (slice a p 2) = DNS_ANSWER_HOST_ADDRESS
  · have hE' : ∀ r, recordEnds a p r ↔ p + 14 ≤ a.length ∧ r = p + 14 := fun r => by
      simp only [recordEnds, h10', if_neg halias, if_pos haddr, true_and]
    simp only [if_neg halias, if_pos haddr]
    refine .read (ByteBuffer.take_mk h10 4) (fun x hx => absurd hx (hnone x))
      (fun r hr => ((hE' r).mp hr).1) fun h14 => ?_
    exact .emitAll [_] (.pure h14 hnone fun r => (hE' r).trans (and_iff_right h14))
  · simp only [if_neg halias, if_neg haddr]
    refine .pure h10 hnone fun r => ?_
    simp only [recordEnds, h10', if_neg halias, if_neg haddr, true_and]

theorem readAnswers_follows (n : Nat) {p : Nat} (hp : p ≤ a.length) :
    Follows (σ := σ) a (fun d => readAnswers d n ⟨a, p, hp⟩) (answerStarts a n p)
      (answerEnds a n p) := by
  induction n generalizing p with
  | zero => exact .pure hp (fun x hx => hx) fun r => Iff.rfl
  | succ n ih =>
    refine (readOwner_follows hp).bind fun q hq => ?_
    exact (readRecord_follows hq).bind fun r hr => ih hr

/-- The whole reply behind the transaction's number. -/
theorem readReply_follows (hp : 2 ≤ a.length) :
    Follows (σ := σ) a (fun d => readReply d ⟨a, 2, hp⟩) (Reached a) (fun r => 12 ≤ a.length ∧
      ∃ q, questionEnds a (count a 4) 12 q ∧ answerEnds a (count a 6) q r) := by
  have hlen : ∀ n, n ≤ 12 → 12 ≤ a.length → n ≤ a.length := fun n hn h => by omega
  refine .read (ByteBuffer.getShort_mk hp) (fun x hx => hlen 4 (by decide) hx.1)
    (fun r hr => hlen 4 (by decide) hr.1) fun h4 => ?_
  refine .read (ByteBuffer.getShort_mk h4) (fun x hx => hlen 6 (by decide) hx.1)
    (fun r hr => hlen 6 (by decide) hr.1) fun h6 => ?_
  refine .read (ByteBuffer.getShort_mk h6) (fun x hx => hlen 8 (by decide) hx.1)
    (fun r hr => hlen 8 (by decide) hr.1) fun h8 => ?_
  refine .read (ByteBuffer.getShort_mk h8) (fun x hx => hlen 10 (by decide) hx.1)
    (fun r hr => hlen 10 (by decide) hr.1) fun h10 => ?_
  refine .read (ByteBuffer.getShort_mk h10) (fun x hx => hx.1) (fun r hr => hr.1) fun h12 => ?_
  refine ((readQuestions_follows _ h12).bind fun q hq => readAnswers_follows _ hq).congr
    (fun x => ?_) fun r => ?_
  · exact and_iff_right h12
  · exact and_iff_right h12

end

/-! ## The handler -/

/-- At every large enough depth of the stack the run ends in the same way:
normally or with one of the two exceptions. -/
def Finishes {σ : Type} (m : Nat → AppM σ Unit) (s : σ) : Prop :=
  ∃ n r, (r = .ok () ∨ ∃ e, IsBounds e ∧ r = .error e) ∧ ∀ d, n ≤ d → (m d s).result = r

/-- A reply to this client's transaction goes to `readReply`. -/
theorem handleData_eq {this : DNSApplication} {headerInfo : Info} {data : Bytes}
    (hdata : headerInfo .data = some (.bytes data))
    (hid : slice data 0 2 = shortBytes this.transition_id) (hlen : 2 ≤ data.length) (depth : Nat) :
    handleData depth headerInfo this =
      (readReply depth ⟨data, 2, hlen⟩ >>= fun _ => pure ()) this := by
  have hbytes : headerInfo.getBytes .data = .ok (some data) := Info.getBytes_ok hdata
  have hshort : (ByteBuffer.wrap data).getShort = .ok (this.transition_id, ⟨data, 2, hlen⟩) := by
    rw [ByteBuffer.wrap, ByteBuffer.getShort_mk, dif_pos (show 0 + 2 ≤ data.length from hlen), hid,
      shortOf_shortBytes]
  unfold handleData
  simp only [hbytes, hshort, Prog.lift_ok_bind]
  rw [Prog.read_bind_run, if_neg (fun h => h rfl)]

theorem le_length_of_id {data : Bytes} {id : Short} (hid : slice data 0 2 = shortBytes id) :
    2 ≤ data.length := by
  have h := congrArg List.length hid
  rw [slice, List.length_take, shortBytes_length, List.drop_zero] at h
  omega

/-- A name with endless pointers exhausts the stack. -/
theorem handleData_runsOut {this : DNSApplication} {headerInfo : Info} {data : Bytes}
    (hdata : headerInfo .data = some (.bytes data))
    (hid : slice data 0 2 = shortBytes this.transition_id) {x : Nat} (hx : Reached data x)
    (hends : ¬ Chain.Ends (target data) x) (depth : Nat) :
    (handleData depth headerInfo this).result = .error .stackOverflowError := by
  have hout := (readReply_follows (le_length_of_id hid)).runsOut hx hends this depth
  rw [handleData_eq hdata hid (le_length_of_id hid), Prog.bind_run, hout]

/-- If the pointers of all names end, so does the parser. -/
theorem handleData_finishes {this : DNSApplication} {headerInfo : Info} {data : Bytes}
    (hdata : headerInfo .data = some (.bytes data))
    (hid : slice data 0 2 = shortBytes this.transition_id)
    (hall : ∀ x, Reached data x → Chain.Ends (target data) x) :
    Finishes (fun depth => handleData depth headerInfo) this := by
  have hrun := handleData_eq hdata hid (le_length_of_id hid)
  obtain ⟨⟨r, s', out⟩, hsettles, hparsed⟩ :=
    (readReply_follows (le_length_of_id hid)).settles hall this
  cases hparsed with
  | ok hq hends =>
    obtain ⟨n, hn⟩ := (hsettles.bind_ok (f := fun _ _ => pure ()) (.const (pure ()) s')).eventually
    exact ⟨n, .ok (), .inl rfl, fun d hd => congrArg Outcome.result ((hrun d).trans (hn d hd))⟩
  | error he hends =>
    obtain ⟨n, hn⟩ := (hsettles.bind_error (f := fun _ _ => pure ())).eventually
    exact ⟨n, .error _, .inr ⟨_, he, rfl⟩,
      fun d hd => congrArg Outcome.result ((hrun d).trans (hn d hd))⟩

theorem Finishes.not_stackOverflow {σ : Type} {m : Nat → AppM σ Unit} {s : σ} (h : Finishes m s) :
    ¬ ∀ d, (m d s).result = .error .stackOverflowError := by
  obtain ⟨n, r, hr, hall⟩ := h
  intro hout
  rw [← hall n (Nat.le_refl n), hout n] at hr
  rcases hr with hr | ⟨e, rfl | rfl, hr⟩ <;> cases hr

/-- A reply to this client's transaction is parsed to an end if and only if none
of the names the parser starts to read has pointers into a cycle. -/
theorem parsing_ends_iff {this : DNSApplication} {headerInfo : Info} {data : Bytes}
    (hdata : headerInfo .data = some (.bytes data))
    (hid : slice data 0 2 = shortBytes this.transition_id) :
    Finishes (fun depth => handleData depth headerInfo) this ↔
      ∀ x, Reached data x → ¬ Chain.Loops (target data) x := by
  constructor
  · intro hfin x hx hloops
    exact hfin.not_stackOverflow (handleData_runsOut hdata hid hx hloops.not_ends)
  · intro hall
    refine handleData_finishes hdata hid fun x hx => ?_
    by_contra hends
    exact hall x hx ((Chain.not_ends_iff_loops (target_finite data)).mp hends)

/-- A client whose transaction has the number 1. -/
def sampleClient : DNSApplication := ⟨0, none, [], [], [], 1⟩

/-- A reply with one question and no answer. -/
def sampleReply (name : Bytes) : Bytes := [0, 1, 0x81, 0x80, 0, 1, 0, 0, 0, 0, 0, 0] ++ name

/-- The name `a` has no pointer. -/
theorem parsing_ends_plain_name :
    Finishes (fun depth => handleData depth (Info.empty.put .data (.bytes
      (sampleReply [1, 97, 0, 0, 1, 0, 1])))) sampleClient := by
  have hdata : (Info.empty.put .data (.bytes (sampleReply [1, 97, 0, 0, 1, 0, 1]))) .data =
      some (.bytes (sampleReply [1, 97, 0, 0, 1, 0, 1])) := rfl
  refine (parsing_ends_iff hdata (by decide)).mpr ?_
  rintro x ⟨-, hx | ⟨q, -, hx⟩⟩
  · rcases hx with rfl | ⟨q, -, -, hx⟩
    · have htarget : target (sampleReply [1, 97, 0, 0, 1, 0, 1]) 12 = none := by decide
      exact fun hloop => hloop.not_ends (Acc.intro _ fun t ht => by rw [htarget] at ht; cases ht)
    · exact hx.elim
  · exact hx.elim

/-- A pointer to itself in the place of the name. -/
theorem parsing_self_pointer :
    ¬ ∀ (this : DNSApplication) (data : Bytes), slice data 0 2 = shortBytes this.transition_id →
      Finishes (fun depth => handleData depth (Info.empty.put .data (.bytes data))) this := by
  intro h
  have htarget : target (sampleReply [0xC0, 12]) 12 = some 12 := by decide
  have hreached : Reached (sampleReply [0xC0, 12]) 12 := ⟨by decide, .inl (.inl rfl)⟩
  have hloops : Chain.Loops (target (sampleReply [0xC0, 12])) 12 :=
    ⟨0, 12, rfl, Function.mk_mem_periodicPts (n := 1) (by decide) htarget⟩
  exact (h sampleClient (sampleReply [0xC0, 12]) (by decide)).not_stackOverflow
    (handleData_runsOut rfl (by decide) hreached hloops.not_ends)

end TcpIpStack.DNSApplication
