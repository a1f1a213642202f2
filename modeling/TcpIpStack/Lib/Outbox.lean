import Mathlib.Data.List.Nodup
import Mathlib.Data.List.Pairwise
import Mathlib.Logic.Function.Basic

/-!
# A box of outgoing packets

Packets for many destinations leave through one card whose address has to be
asked for. Until it is answered one packet a destination waits, the latest; an
answer sends what waits, in any order (`Step.flushed`), and from then on packets
pass (`Run.passed_eq`).
-/

namespace TcpIpStack.Lib.Outbox

variable {D K M : Type}

inductive Event (D K M : Type) where
  | hand (data : Option K) (dst : D)
  | answer (mac : M)

structure State (D K M : Type) where
  address : Option M
  waiting : D → Option K

def State.initial : State D K M := ⟨none, fun _ => none⟩

/-- One event, and what is sent on it. -/
inductive Step [DecidableEq D] :
    State D K M → Event D K M → List (M × K) → State D K M → Prop
  | wait {waiting : D → Option K} {data : Option K} {dst : D} :
      Step ⟨none, waiting⟩ (.hand data dst) [] ⟨none, Function.update waiting dst data⟩
  | pass {waiting : D → Option K} {mac : M} {data : Option K} {dst : D} :
      Step ⟨some mac, waiting⟩ (.hand data dst) (data.map (mac, ·)).toList ⟨some mac, waiting⟩
  | flush {s : State D K M} {mac : M} {dsts : List D} (hnodup : dsts.Nodup)
      (hall : ∀ d, (s.waiting d).isSome → d ∈ dsts) :
      Step s (.answer mac) (dsts.filterMap fun d => (s.waiting d).map (mac, ·))
        ⟨some mac, fun _ => none⟩

inductive Run [DecidableEq D] :
    State D K M → List (Event D K M) → List (M × K) → State D K M → Prop
  | nil (s : State D K M) : Run s [] [] s
  | cons {s s' s'' : State D K M} {e : Event D K M} {es : List (Event D K M)}
      {out out' : List (M × K)} (h : Step s e out s') (rest : Run s' es out' s'') :
      Run s (e :: es) (out ++ out') s''

section

variable [DecidableEq D] {s s' s'' : State D K M} {es es' : List (Event D K M)}
  {out out' : List (M × K)}

theorem Step.run {e : Event D K M} (h : Step s e out s') : Run s [e] out s' := by
  rw [← List.append_nil out]
  exact .cons h (.nil s')

theorem Run.step {e : Event D K M} (h : Run s [e] out s') : Step s e out s' := by
  cases h with
  | cons hstep rest =>
    cases rest
    rwa [List.append_nil]

theorem Run.append (h : Run s es out s') (h' : Run s' es' out' s'') :
    Run s (es ++ es') (out ++ out') s'' := by
  induction h with
  | nil s => exact h'
  | cons hstep _ ih =>
    rw [List.cons_append, List.append_assoc]
    exact .cons hstep (ih h')

end

/-! ## Packets -/

/-- A packet, if it is one, and its destination. -/
abbrev Handed (D K : Type) := Option K × D

def hands (ps : List (Handed D K)) : List (Event D K M) := ps.map fun p => .hand p.1 p.2

/-- What waits once the packets were handed in. -/
def waitingAfter [DecidableEq D] (waiting : D → Option K) (ps : List (Handed D K)) :
    D → Option K :=
  ps.foldl (fun w p => Function.update w p.2 p.1) waiting

/-- The last packet for each destination. -/
def lasts [DecidableEq D] (ps : List (Handed D K)) : List (Handed D K) :=
  ps.pwFilter fun p q => p.2 ≠ q.2

/-- What goes to the card as it is handed in. -/
def sentTo (mac : M) (ps : List (Handed D K)) : List (M × K) :=
  ps.filterMap fun p => p.1.map (mac, ·)

/-- What a run sends that knows the address, each packet to the one told last. -/
def passed : M → List (Event D K M) → List (M × K)
  | _, [] => []
  | mac, .hand data _ :: es => (data.map (mac, ·)).toList ++ passed mac es
  | _, .answer mac :: es => passed mac es

theorem passed_hands (mac : M) (ps : List (Handed D K)) : passed mac (hands ps) = sentTo mac ps := by
  induction ps with
  | nil => rfl
  | cons p ps ih =>
    show (p.1.map (mac, ·)).toList ++ passed mac (hands ps) = _
    rw [ih, sentTo, sentTo, List.filterMap_cons]
    cases p.1 <;> rfl

theorem sentTo_map {D' : Type} (f : D → D') (mac : M) (ps : List (Handed D K)) :
    sentTo mac (ps.map fun p => (p.1, f p.2)) = sentTo mac ps := by
  rw [sentTo, List.filterMap_map]
  rfl

section

variable [DecidableEq D]

theorem lasts_cons (p : Handed D K) (ps : List (Handed D K)) :
    lasts (p :: ps) = if ∀ q ∈ ps, p.2 ≠ q.2 then p :: lasts ps else lasts ps := by
  have hall : (∀ q ∈ lasts ps, p.2 ≠ q.2) ↔ ∀ q ∈ ps, p.2 ≠ q.2 :=
    List.forall_mem_pwFilter (fun {x y z} h => by
      by_contra hne
      simp only [not_or, not_not] at hne
      exact h (hne.1.trans hne.2)) p ps
  split
  · next h => exact List.pwFilter_cons_of_pos (hall.mpr h)
  · next h => exact List.pwFilter_cons_of_neg fun hc => h (hall.mp hc)

/-- For each destination the last packet waits, or what waited before if there is none. -/
theorem waitingAfter_eq_some_iff (waiting : D → Option K) (ps : List (Handed D K)) (d : D)
    (data : K) : waitingAfter waiting ps d = some data ↔
      (some data, d) ∈ lasts ps ∨ waiting d = some data ∧ ∀ p ∈ ps, p.2 ≠ d := by
  induction ps generalizing waiting with
  | nil => simp [waitingAfter, lasts]
  | cons p ps ih =>
    have hrest := ih (Function.update waiting p.2 p.1)
    have hmem : (some data, d) ∈ lasts (p :: ps) ↔
        (some data, d) ∈ lasts ps ∨ p = (some data, d) ∧ ∀ q ∈ ps, q.2 ≠ d := by
      rw [lasts_cons]
      split
      · next h =>
        rw [List.mem_cons]
        constructor
        · rintro (rfl | hmem)
          · exact .inr ⟨rfl, fun q hq he => h q hq he.symm⟩
          · exact .inl hmem
        · rintro (hmem | ⟨rfl, -⟩)
          · exact .inr hmem
          · exact .inl rfl
      · next h =>
        rw [or_iff_left]
        rintro ⟨rfl, hne⟩
        exact h fun q hq he => hne q hq he.symm
    rw [show waitingAfter waiting (p :: ps) = waitingAfter (Function.update waiting p.2 p.1) ps
      from rfl, hrest, hmem, or_assoc]
    rw [List.forall_mem_cons]
    refine or_congr_right ?_
    by_cases hd : d = p.2
    · subst hd
      rw [Function.update_self]
      constructor
      · rintro ⟨hp, hne⟩
        exact .inl ⟨Prod.ext hp rfl, hne⟩
      · rintro (⟨hp, hne⟩ | ⟨-, hne, -⟩)
        · exact ⟨congrArg Prod.fst hp, hne⟩
        · exact absurd rfl hne
    · rw [Function.update_of_ne hd]
      constructor
      · rintro ⟨hget, hne⟩
        exact .inr ⟨hget, fun he => hd he.symm, hne⟩
      · rintro (⟨rfl, -⟩ | ⟨hget, -, hne⟩)
        · exact absurd rfl hd
        · exact ⟨hget, hne⟩

/-- What waits is sent, whatever the order the box is emptied in. -/
theorem flush_perm {ps : List (Handed D K)} {dsts : List D} {waiting : D → Option K} {mac : M}
    (hnodup : dsts.Nodup) (hall : ∀ d, (waiting d).isSome → d ∈ dsts)
    (hwaiting : waiting = waitingAfter (fun _ => none) ps) :
    (dsts.filterMap fun d => (waiting d).map (mac, ·)).Perm (sentTo mac (lasts ps)) := by
  have hlasts : (lasts ps).Nodup := (List.pairwise_pwFilter ps).imp fun hne he =>
    hne (congrArg Prod.snd he)
  -- the packets with their destinations, each once on either side
  have hpairs : (dsts.filterMap fun d => (waiting d).map (·, d)).Perm
      ((lasts ps).filterMap fun p => p.1.map (·, p.2)) := by
    refine (List.perm_ext_iff_of_nodup ?_ ?_).mpr fun ⟨data, d⟩ => ?_
    · refine hnodup.filterMap fun d d' b hb hb' => ?_
      obtain ⟨_, _, rfl⟩ := Option.map_eq_some_iff.mp hb
      obtain ⟨_, _, he⟩ := Option.map_eq_some_iff.mp hb'
      exact (Prod.ext_iff.mp he).2.symm
    · refine hlasts.filterMap fun p q b hb hb' => ?_
      obtain ⟨_, hp, rfl⟩ := Option.map_eq_some_iff.mp hb
      obtain ⟨_, hq, he⟩ := Option.map_eq_some_iff.mp hb'
      obtain ⟨rfl, hd⟩ := Prod.ext_iff.mp he
      exact Prod.ext (hp.trans hq.symm) hd.symm
    · have hiff := waitingAfter_eq_some_iff (fun _ => none) ps d data
      rw [← hwaiting] at hiff
      rw [List.mem_filterMap, List.mem_filterMap]
      constructor
      · rintro ⟨d', -, hd'⟩
        obtain ⟨data', hget, he⟩ := Option.map_eq_some_iff.mp hd'
        obtain ⟨rfl, rfl⟩ := Prod.ext_iff.mp he
        rcases hiff.mp hget with hmem | ⟨hnone, -⟩
        · exact ⟨_, hmem, rfl⟩
        · cases hnone
      · rintro ⟨⟨data', d'⟩, hmem, hp⟩
        obtain ⟨_, rfl, he⟩ := Option.map_eq_some_iff.mp hp
        obtain ⟨rfl, rfl⟩ := Prod.ext_iff.mp he
        have hget := hiff.mpr (.inl hmem)
        exact ⟨_, hall _ (by rw [hget]; rfl), by rw [hget]; rfl⟩
  have hmap := hpairs.map fun p : K × D => (mac, p.1)
  rw [List.map_filterMap, List.map_filterMap] at hmap
  simpa only [Option.map_map, Function.comp_def, sentTo] using hmap

theorem lasts_map {D' : Type} [DecidableEq D'] {f : D → D'} (hf : Function.Injective f)
    (ps : List (Handed D K)) :
    lasts (ps.map fun p => (p.1, f p.2)) = (lasts ps).map fun p => (p.1, f p.2) := by
  induction ps with
  | nil => rfl
  | cons p ps ih =>
    have hall : (∀ q ∈ ps.map fun p => (p.1, f p.2), f p.2 ≠ q.2) ↔ ∀ q ∈ ps, p.2 ≠ q.2 := by
      rw [List.forall_mem_map]
      exact forall₂_congr fun q _ => hf.ne_iff
    rw [List.map_cons, lasts_cons, lasts_cons, if_congr hall rfl rfl, ih]
    split <;> rfl

/-! ## Runs -/

theorem Run.of_waiting (waiting : D → Option K) (ps : List (Handed D K)) :
    Run (M := M) ⟨none, waiting⟩ (hands ps) [] ⟨none, waitingAfter waiting ps⟩ := by
  induction ps generalizing waiting with
  | nil => exact .nil _
  | cons p ps ih => exact .cons .wait (ih _)

theorem Run.of_passing (waiting : D → Option K) (mac : M) (ps : List (Handed D K)) :
    Run ⟨some mac, waiting⟩ (hands ps) (sentTo mac ps) ⟨some mac, waiting⟩ := by
  rw [← passed_hands]
  induction ps with
  | nil => exact .nil _
  | cons p ps ih => exact .cons .pass ih

variable {s s' : State D K M} {out : List (M × K)}

/-- Nothing waits where the address is known. -/
theorem Run.passed_eq {es : List (Event D K M)} {mac : M}
    (h : Run ⟨some mac, fun _ => none⟩ es out s') : out = passed mac es := by
  induction es generalizing mac out with
  | nil =>
    cases h
    rfl
  | cons e es ih =>
    cases h with
    | cons hstep rest =>
      cases hstep with
      | pass =>
        rw [ih rest]
        rfl
      | flush hnodup hall =>
        rw [ih rest]
        simp [passed]

/-- An answer sends the last packet for each destination. -/
theorem Step.flushed {ps : List (Handed D K)} {mac : M}
    (hwaiting : s.waiting = waitingAfter (fun _ => none) ps) (h : Step s (.answer mac) out s') :
    out.Perm (sentTo mac (lasts ps)) ∧ s' = ⟨some mac, fun _ => none⟩ := by
  cases h with
  | flush hnodup hall => exact ⟨flush_perm hnodup hall hwaiting, rfl⟩

end

end TcpIpStack.Lib.Outbox
