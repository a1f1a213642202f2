import Mathlib.Data.List.TakeWhile
import TcpIpStack.Protocol.ARPCache

/-!
# Packets that wait for the router's address

The waiting table has room for one packet a destination. Every packet handed in
reaches the wire exactly once if and only if, before the address is known, none
is handed in for a destination another packet waits for.
-/

namespace TcpIpStack.ProtocolManager

open TcpIpStack.Java TcpIpStack.Lib

/-- No packet is followed by another for the same destination. -/
def OneEach (ps : List Handed) : Prop := ps.Pairwise fun p q => p.2 = q.2 → p.1 = none

instance (ps : List Handed) : Decidable (OneEach ps) := inferInstanceAs (Decidable (List.Pairwise _ _))

theorem oneEach_snoc {ps : List Handed} {p : Handed} :
    OneEach (ps ++ [p]) ↔ OneEach ps ∧ ∀ q ∈ ps, q.2 = p.2 → q.1 = none := by
  unfold OneEach
  rw [List.pairwise_append]
  simp

theorem wait_snoc (m : HashMap) (ps : List Handed) (p : Handed) :
    wait m (ps ++ [p]) = (wait m ps).put (Arrays.toString p.2) p.1 := wait_append m ps [p]

/-- While no packet replaces another, the table holds what was handed in. -/
theorem OneEach.get_wait {ps : List Handed} (h : OneEach ps) (data : Bytes) (ip : Option Bytes) :
    (wait ∅ ps).get (Arrays.toString ip) = some data ↔ (some data, ip) ∈ ps := by
  induction ps using List.reverseRecOn with
  | nil => simp [wait]
  | append_singleton ps p ih =>
    obtain ⟨h, hlast⟩ := oneEach_snoc.mp h
    rw [wait_snoc, HashMap.get_put, List.mem_append, List.mem_singleton]
    by_cases hip : ip = p.2
    · subst hip
      rw [if_pos rfl]
      constructor
      · intro hp
        exact .inr (by rw [← hp])
      · rintro (hmem | hp)
        · cases hlast _ hmem rfl
        · rw [← hp]
    · rw [if_neg fun he => hip (Arrays.toString_injective he), ih h]
      constructor
      · exact .inl
      · rintro (hmem | hp)
        · exact hmem
        · exact absurd (by rw [← hp]) hip

/-- The table holds every packet as often as it was handed in if and only if none
replaced another. -/
theorem holding_wait_eq_iff (ps : List Handed) :
    (∀ data, (wait ∅ ps).holding data = ps.countP fun p => p.1 = some data) ↔ OneEach ps := by
  induction ps using List.reverseRecOn with
  | nil => simp [wait, OneEach]
  | append_singleton ps p ih =>
    have hput := fun data => (wait ∅ ps).holding_put (Arrays.toString p.2) p.1 data
    have hle := fun data => holding_wait_le ∅ ps data
    have hcount : ∀ data, (ps ++ [p]).countP (fun p => p.1 = some data) =
        ps.countP (fun p => p.1 = some data) + if p.1 = some data then 1 else 0 := fun data => by
      rw [List.countP_append, List.countP_singleton]
      simp only [decide_eq_true_eq]
    rw [oneEach_snoc]
    constructor
    · intro h
      have hboth : ∀ data, (wait ∅ ps).holding data = ps.countP (fun p => p.1 = some data) ∧
          (wait ∅ ps).get (Arrays.toString p.2) ≠ some data := fun data => by
        have heq := h data
        rw [wait_snoc, hcount] at heq
        have hp := hput data
        have hl := hle data
        rw [HashMap.holding_empty] at hl
        by_cases hget : (wait ∅ ps).get (Arrays.toString p.2) = some data
        · rw [if_pos hget] at hp; omega
        · rw [if_neg hget] at hp; exact ⟨by omega, hget⟩
      have hps := ih.mp fun data => (hboth data).1
      refine ⟨hps, fun q hq hqp => ?_⟩
      obtain ⟨qdata, qip⟩ := q
      cases qdata with
      | none => rfl
      | some data => exact absurd ((hps.get_wait data p.2).mpr (hqp ▸ hq)) (hboth data).2
    · rintro ⟨hps, hlast⟩ data
      have hp := hput data
      have hget : (wait ∅ ps).get (Arrays.toString p.2) ≠ some data := fun he => by
        cases hlast _ ((hps.get_wait data p.2).mp he) rfl
      rw [if_neg hget, ih.mpr hps data] at hp
      rw [wait_snoc, hcount]
      omega

section

variable {σ : Type} (net : Network) (apps : AppLayer σ) (objects : σ)

/-- The part of a run before the router's address is told. -/
def unanswered (is : List (Input σ)) : List (Input σ) := is.takeWhile fun i => (answer net i).isNone

/-- Before the address is told packets only wait. -/
theorem unanswered_run {is : List (Input σ)} (h : ∀ i ∈ is, answer net i = none) :
    getRouterMac net (after net apps objects is) = none ∧
      sentFrames (log net apps objects is) = [] ∧
      (after net apps objects is).dataWaitToSend = wait ∅ (handed (log net apps objects is)) := by
  induction is using List.reverseRecOn with
  | nil =>
    obtain ⟨hhanded, hsent⟩ := log_nil_silent net apps objects
    rw [hhanded, after_nil]
    exact ⟨rfl, hsent, rfl⟩
  | append_singleton is i ih =>
    obtain ⟨hmac, hsent, hwait⟩ := ih fun j hj => h j (List.mem_append_left _ hj)
    have hspec := step_spec net apps (settled net apps objects is) i
    rw [h i (by simp)] at hspec
    obtain ⟨hmac', hspec⟩ := hspec
    rw [hmac] at hspec hmac'
    rw [after_snoc, log_snoc, sentFrames_append, handed_append, wait_append]
    exact ⟨hmac', by rw [hsent, hspec.1]; rfl, by rw [hspec.2, hwait]⟩

/-- Once it is known, every packet goes out as it is handed in. -/
theorem known_run {pre post : List (Input σ)}
    (h : (getRouterMac net (after net apps objects pre)).isSome) (data : Bytes) :
    sentCount (log net apps objects (pre ++ post)) data +
        handedCount (log net apps objects pre) data =
      handedCount (log net apps objects (pre ++ post)) data +
        sentCount (log net apps objects pre) data ∧
      (getRouterMac net (after net apps objects (pre ++ post))).isSome := by
  induction post using List.reverseRecOn with
  | nil => exact ⟨by rw [List.append_nil]; omega, by rwa [List.append_nil]⟩
  | append_singleton post i ih =>
    obtain ⟨hcount, hsome⟩ := ih
    have hempty := settled net apps objects (pre ++ post) hsome
    have hspec := step_spec net apps (settled net apps objects (pre ++ post)) i
    rw [← List.append_assoc, after_snoc, log_snoc, sentCount_append, handedCount_append]
    cases ha : answer net i with
    | none =>
      rw [ha] at hspec
      obtain ⟨hmac, hspec⟩ := hspec
      obtain ⟨mac, hm⟩ := Option.isSome_iff_exists.mp hsome
      rw [hm] at hspec hmac
      have hstep : sentCount (step net apps i (after net apps objects (pre ++ post))).out data =
          handedCount (step net apps i (after net apps objects (pre ++ post))).out data := by
        rw [sentCount, hspec.1, countP_ipFrame]; rfl
      exact ⟨by omega, by rw [hmac]; rfl⟩
    | some mac =>
      rw [ha] at hspec
      have hstep := hspec.count data
      rw [hempty] at hstep
      exact ⟨by simp only [HashMap.holding_empty] at hstep; omega, by rw [hspec.1]; rfl⟩

theorem split_answered {is : List (Input σ)} (h : ∃ i ∈ is, (answer net i).isSome) :
    ∃ i post mac, is = unanswered net is ++ i :: post ∧ answer net i = some mac := by
  have hsplit := List.takeWhile_append_dropWhile (p := fun i => (answer net i).isNone) (l := is)
  cases hdrop : is.dropWhile fun i => (answer net i).isNone with
  | nil =>
    obtain ⟨i, hi, hsome⟩ := h
    have hnone := List.dropWhile_eq_nil_iff.mp hdrop i hi
    rw [Option.isNone_iff_eq_none] at hnone
    simp [hnone] at hsome
  | cons i post =>
    have hhead := List.head?_dropWhile_not (fun i => (answer net i).isNone) is
    rw [hdrop] at hhead hsplit
    obtain ⟨mac, hmac⟩ := Option.isSome_iff_exists.mp (by simpa using hhead)
    exact ⟨i, post, mac, hsplit.symm, hmac⟩

/-- After the router has answered, every packet handed in was sent exactly as
often as it was handed in, if and only if before the answer no packet was
handed in for a destination another was waiting for. -/
theorem waiting_packets_iff (is : List (Input σ)) (hknown : ∃ i ∈ is, (answer net i).isSome) :
    (∀ data, sentCount (log net apps objects is) data = handedCount (log net apps objects is) data) ↔
      OneEach (handed (log net apps objects (unanswered net is))) := by
  obtain ⟨i, post, mac, hsplit, hi⟩ := split_answered net hknown
  have hpre : ∀ j ∈ unanswered net is, answer net j = none := fun j hj => by
    simpa using List.mem_takeWhile_imp hj
  obtain ⟨hmac, hsent, hwait⟩ := unanswered_run net apps objects hpre
  -- the answer empties the table, the rest of the run sends what comes in
  have hspec := step_spec net apps (settled net apps objects (unanswered net is)) i
  rw [hi] at hspec
  have hsome : (getRouterMac net (after net apps objects (unanswered net is ++ [i]))).isSome := by
    rw [after_snoc, hspec.1]; rfl
  rw [← holding_wait_eq_iff]
  refine forall_congr' fun data => ?_
  have hpost := (@known_run _ net apps objects _ post hsome data).1
  have hanswer := hspec.count data
  have hzero : sentCount (log net apps objects (unanswered net is)) data = 0 := by
    rw [sentCount, hsent]; rfl
  rw [List.append_assoc, List.singleton_append, ← hsplit, log_snoc, sentCount_append,
    handedCount_append, hzero, hanswer.1, hanswer.2.1, hwait] at hpost
  show _ ↔ _ = handedCount (log net apps objects (unanswered net is)) data
  omega

end

/-- No application. -/
def noApps : AppLayer Unit := ⟨fun _ _ => none, fun _ _ => pure ()⟩

/-- A packet handed in for host `8.8.8.n`. -/
def handIn (data : Bytes) (n : Byte) : Input Unit :=
  .app (Prog.emit (.sendData (some data) (some [8, 8, 8, n])))

/-- The answer of the router. -/
def sampleAnswer : Input Unit := .receivePacket (some sampleRouterReply)

/-- Two packets for two hosts, then the router's answer. -/
theorem waiting_packets_two_hosts :
    (∀ data, sentCount (log sampleNetwork noApps () [handIn [1] 8, handIn [2] 9, sampleAnswer]) data =
      handedCount (log sampleNetwork noApps () [handIn [1] 8, handIn [2] 9, sampleAnswer]) data) ↔
      OneEach (handed (log sampleNetwork noApps ()
        (unanswered sampleNetwork [handIn [1] 8, handIn [2] 9, sampleAnswer]))) :=
  waiting_packets_iff sampleNetwork noApps () _ ⟨sampleAnswer, by simp, by decide⟩

/-- Two packets for one host, as two pings send them: the first is lost. -/
theorem waiting_packet_replaced :
    ¬ ∀ (σ : Type) (net : Network) (apps : AppLayer σ) (objects : σ) (is : List (Input σ)),
      (∃ i ∈ is, (answer net i).isSome) → ∀ data,
        sentCount (log net apps objects is) data = handedCount (log net apps objects is) data := by
  intro h
  have hlost := h Unit sampleNetwork noApps () [handIn [1] 8, handIn [2] 8, sampleAnswer]
    ⟨sampleAnswer, by simp, by decide⟩ [1]
  exact absurd hlost (by decide)

end TcpIpStack.ProtocolManager
