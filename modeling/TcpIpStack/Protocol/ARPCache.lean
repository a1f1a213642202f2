import Mathlib.Data.List.Induction
import TcpIpStack.Protocol.Traffic

/-!
# The router's address and the waiting table over whole runs

From a freshly built manager, whatever the applications do and whatever frames
arrive.
-/

namespace TcpIpStack.ProtocolManager

open TcpIpStack.Java TcpIpStack.Lib

section

variable {σ : Type} (net : Network) (apps : AppLayer σ) (objects : σ)

/-- The manager after a run from the first `getInstance` on. -/
def after (is : List (Input σ)) : ProtocolManager σ :=
  (Prog.runs (step net apps) is (getInstance net objects).state).1

/-- The log of the run, with the question of `getInstance`. -/
def log (is : List (Input σ)) : List Event :=
  (getInstance net objects).out ++ (Prog.runs (step net apps) is (getInstance net objects).state).2

theorem after_nil : after net apps objects [] = emptyTables objects := getInstance_state net objects

theorem log_nil : ∃ frame, log net apps objects [] = [.transmit .prepareRouterMac frame] := by
  obtain ⟨frame, hrun⟩ := getInstance_run net objects
  refine ⟨frame, ?_⟩
  rw [log, hrun, Prog.runs_nil, List.append_nil]

/-- The question is not handed in, and carries no packet. -/
theorem log_nil_silent : handed (log net apps objects []) = [] ∧
    sentFrames (log net apps objects []) = [] := by
  obtain ⟨frame, hlog⟩ := log_nil net apps objects
  rw [hlog]
  exact ⟨rfl, rfl⟩

theorem after_append (is js : List (Input σ)) : after net apps objects (is ++ js) =
    (Prog.runs (step net apps) js (after net apps objects is)).1 := by
  rw [after, Prog.runs_append]; rfl

theorem log_append (is js : List (Input σ)) : log net apps objects (is ++ js) =
    log net apps objects is ++ (Prog.runs (step net apps) js (after net apps objects is)).2 := by
  rw [log, Prog.runs_append, ← List.append_assoc]; rfl

theorem after_snoc (is : List (Input σ)) (i : Input σ) : after net apps objects (is ++ [i]) =
    (step net apps i (after net apps objects is)).state := after_append net apps objects is [i]

theorem log_snoc (is : List (Input σ)) (i : Input σ) : log net apps objects (is ++ [i]) =
    log net apps objects is ++ (step net apps i (after net apps objects is)).out := by
  rw [log_append, Prog.runs_cons, Prog.runs_nil, List.append_nil]

/-- A run obeys what the question and the steps obey. -/
theorem log_obeys {T : Prog.Trace (ProtocolManager σ) Event} {is : List (Input σ)}
    (hask : Prog.Obeys T (prepareRouterMac net : StackM σ Unit))
    (hstep : ∀ i ∈ is, Prog.Obeys T (step net apps i)) :
    T.rel (emptyTables objects) (log net apps objects is) (after net apps objects is) :=
  T.trans (hask.catching Throwable.isException (emptyTables objects)) (Prog.runs_obeys hstep _)

theorem settled (is : List (Input σ)) : Settled net (after net apps objects is) := by
  have hstart : Settled net (getInstance net objects).state := by
    rw [getInstance_state]
    exact fun _ => rfl
  refine Prog.runs_invariant (fun i _ s hs => ?_) hstart
  have hspec := step_spec net apps hs i
  cases h : answer net i with
  | none => rw [h] at hspec; exact hspec.settled net hs
  | some mac => rw [h] at hspec; exact hspec.settled net

/-- The address is the one the latest answer told. -/
theorem getRouterMac_after (is : List (Input σ)) :
    getRouterMac net (after net apps objects is) = (is.filterMap (answer net)).getLast? := by
  induction is using List.reverseRecOn with
  | nil => rw [after_nil]; rfl
  | append_singleton is i ih =>
    have hspec := step_spec net apps (settled net apps objects is) i
    rw [after_snoc, List.filterMap_append, List.getLast?_append]
    cases h : answer net i with
    | none =>
      rw [h] at hspec
      rw [hspec.1, ih]
      simp [h]
    | some mac =>
      rw [h] at hspec
      rw [hspec.1]
      simp [h]

/-- A packet is sent or waits at most as often as it was handed in. -/
theorem sent_le_handed (is : List (Input σ)) (data : Bytes) :
    sentCount (log net apps objects is) data + (after net apps objects is).dataWaitToSend.holding data ≤
      handedCount (log net apps objects is) data := by
  induction is using List.reverseRecOn with
  | nil =>
    obtain ⟨-, hsent⟩ := log_nil_silent net apps objects
    rw [after_nil, sentCount, hsent]
    exact Nat.zero_le _
  | append_singleton is i ih =>
    have hspec := step_spec net apps (settled net apps objects is) i
    rw [after_snoc, log_snoc, sentCount_append, handedCount_append]
    cases h : answer net i with
    | none =>
      rw [h] at hspec
      have := hspec.count_le data
      omega
    | some mac =>
      rw [h] at hspec
      have := hspec.count data
      omega

/-- Every frame a step sends carries the address known while it does. -/
theorem step_dst_mac (is : List (Input σ)) (i : Input σ) {f : Frame}
    (hf : f ∈ sentFrames (step net apps i (after net apps objects is)).out) :
    f.frametype = ETHERTYPE_IP ∧
      getRouterMac net (after net apps objects (is ++ [i])) = some f.dst_mac ∧
      (answer net i = none → getRouterMac net (after net apps objects is) = some f.dst_mac) := by
  have hspec := step_spec net apps (settled net apps objects is) i
  rw [after_snoc]
  have hframe : ∀ {α : Type} {mac : Bytes} {g : α → Option Bytes} {xs : List α},
      f ∈ xs.filterMap (fun x => (g x).map (ipFrame net mac)) →
        f.frametype = ETHERTYPE_IP ∧ mac = f.dst_mac := by
    intro α mac g xs hmem
    obtain ⟨x, -, hx⟩ := List.mem_filterMap.mp hmem
    obtain ⟨d, -, rfl⟩ := Option.map_eq_some_iff.mp hx
    exact ⟨rfl, rfl⟩
  cases h : answer net i with
  | none =>
    rw [h] at hspec
    obtain ⟨hmac, hspec⟩ := hspec
    rw [hmac]
    cases hm : getRouterMac net (after net apps objects is) with
    | none =>
      rw [hm] at hspec
      rw [hspec.1] at hf
      cases hf
    | some mac =>
      rw [hm] at hspec
      rw [hspec.1] at hf
      obtain ⟨htype, rfl⟩ := hframe hf
      exact ⟨htype, rfl, fun _ => rfl⟩
  | some mac =>
    rw [h] at hspec
    rw [hspec.2.2.2] at hf
    obtain ⟨htype, rfl⟩ := hframe hf
    exact ⟨htype, hspec.1, fun hne => by cases hne⟩

/-- The cache and the waiting table in every reachable state. -/
theorem arp_cache_invariant (is : List (Input σ)) :
    getRouterMac net (after net apps objects is) = (is.filterMap (answer net)).getLast? ∧
    ((getRouterMac net (after net apps objects is)).isSome →
      (after net apps objects is).dataWaitToSend = ∅) ∧
    (∀ i f, f ∈ sentFrames (step net apps i (after net apps objects is)).out →
      f.frametype = ETHERTYPE_IP ∧
      getRouterMac net (after net apps objects (is ++ [i])) = some f.dst_mac ∧
      (answer net i = none → getRouterMac net (after net apps objects is) = some f.dst_mac)) ∧
    (∀ data, sentCount (log net apps objects is) data ≤
      handedCount (log net apps objects is) data) :=
  ⟨getRouterMac_after net apps objects is, settled net apps objects is,
    fun i _ hf => step_dst_mac net apps objects is i hf,
    fun data => Nat.le_trans (Nat.le_add_right ..) (sent_le_handed net apps objects is data)⟩

end

end TcpIpStack.ProtocolManager
