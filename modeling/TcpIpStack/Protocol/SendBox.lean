import TcpIpStack.Lib.Outbox
import TcpIpStack.Protocol.Waiting

/-!
# The manager is a box of outgoing packets

The manager's two tables are an `Outbox` of the packets handed to `sendData`:
whatever the applications do and whatever frames arrive, a run is one of the box
(`runs_refine`). So it is known which of these packets a run puts on the wire,
and when (`sends_exactly`). Broadcasts and the question for the router pass the
tables by.
-/

namespace TcpIpStack.ProtocolManager

open TcpIpStack.Java TcpIpStack.Lib

abbrev BoxEvent := Outbox.Event (List Char) Bytes Bytes

/-- The packets under the keys of the table. -/
def keyed (ps : List Handed) : List (Outbox.Handed (List Char) Bytes) :=
  ps.map fun p => (p.1, Arrays.toString p.2)

theorem get_wait (m : HashMap) (ps : List Handed) :
    (wait m ps).get = Outbox.waitingAfter m.get (keyed ps) := by
  induction ps generalizing m with
  | nil => rfl
  | cons p ps ih =>
    have hput : (m.put (Arrays.toString p.2) p.1).get =
        Function.update m.get (Arrays.toString p.2) p.1 := by
      funext key
      rw [HashMap.get_put, Function.update_apply]
    show (wait (m.put (Arrays.toString p.2) p.1) ps).get = _
    rw [ih, hput]
    rfl

section

variable {σ : Type} (net : Network) (apps : AppLayer σ)

/-- The two tables as a box. -/
def box (s : ProtocolManager σ) : Outbox.State (List Char) Bytes Bytes :=
  ⟨getRouterMac net s, s.dataWaitToSend.get⟩

/-- What a step means to the box. -/
def stepHistory (i : Input σ) (s : ProtocolManager σ) : List BoxEvent :=
  match answer net i with
  | some mac => [.answer mac]
  | none => Outbox.hands (keyed (handed (step net apps i s).out))

/-- What the steps of a run mean to it. -/
def history (s : ProtocolManager σ) : List (Input σ) → List BoxEvent
  | [] => []
  | i :: is => stepHistory net apps i s ++ history (step net apps i s).state is

/-- The frame a packet is sent in. -/
def frameOf (p : Bytes × Bytes) : Frame := ipFrame net p.1 p.2

theorem map_sentTo {D : Type} (mac : Bytes) (ps : List (Outbox.Handed D Bytes)) :
    (Outbox.sentTo mac ps).map (frameOf net) = ps.filterMap fun p => p.1.map (ipFrame net mac) := by
  rw [Outbox.sentTo, List.map_filterMap]
  refine List.filterMap_congr fun p _ => ?_
  cases p.1 <;> rfl

/-- A step of the manager is a run of the box. -/
theorem step_refines {s : ProtocolManager σ} (hs : Settled net s) (i : Input σ) :
    ∃ out, Outbox.Run (box net s) (stepHistory net apps i s) out (box net (step net apps i s).state) ∧
      sentFrames (step net apps i s).out = out.map (frameOf net) := by
  have hspec := step_spec net apps hs i
  unfold stepHistory
  cases ha : answer net i with
  | some mac =>
    rw [ha] at hspec
    obtain ⟨hmac, -, hwait, hsent⟩ := hspec
    have hnodup : (net.keyOrder.keySet s.dataWaitToSend).Nodup :=
      (net.keyOrder.perm _).nodup_iff.mpr s.dataWaitToSend.keys_nodup
    have hbox : box net (step net apps i s).state = ⟨some mac, fun _ => none⟩ := by
      rw [box, hmac, hwait]
      rfl
    rw [hbox]
    refine ⟨_, (Outbox.Step.flush hnodup fun key hkey => KeyOrder.mem_keySet hkey).run, ?_⟩
    rw [hsent, List.map_filterMap]
    refine List.filterMap_congr fun key _ => ?_
    show _ = ((s.dataWaitToSend.get key).map _).map _
    rw [Option.map_map]
    rfl
  | none =>
    rw [ha] at hspec
    obtain ⟨hmac, hspec⟩ := hspec
    cases hm : getRouterMac net s with
    | none =>
      rw [hm] at hmac hspec
      obtain ⟨hsent, hwait⟩ := hspec
      have hrun := Outbox.Run.of_waiting (M := Bytes) s.dataWaitToSend.get
        (keyed (handed (step net apps i s).out))
      rw [← get_wait, ← hwait] at hrun
      refine ⟨[], ?_, hsent⟩
      rw [box, box, hm, hmac]
      exact hrun
    | some mac =>
      rw [hm] at hmac hspec
      obtain ⟨hsent, hwait⟩ := hspec
      refine ⟨Outbox.sentTo mac (keyed (handed (step net apps i s).out)), ?_, ?_⟩
      · rw [box, box, hm, hmac, hwait]
        exact Outbox.Run.of_passing ..
      · rw [hsent, map_sentTo, keyed, List.filterMap_map]
        rfl

theorem Settled.step {s : ProtocolManager σ} (hs : Settled net s) (i : Input σ) :
    Settled net (ProtocolManager.step net apps i s).state := by
  have hspec := step_spec net apps hs i
  cases h : answer net i with
  | none =>
    rw [h] at hspec
    exact hspec.settled net hs
  | some mac =>
    rw [h] at hspec
    exact hspec.settled net

/-- A run of the manager is a run of the box. -/
theorem runs_refine {s : ProtocolManager σ} (hs : Settled net s) (is : List (Input σ)) :
    ∃ out, Outbox.Run (box net s) (history net apps s is) out
        (box net (Prog.runs (step net apps) is s).1) ∧
      sentFrames (Prog.runs (step net apps) is s).2 = out.map (frameOf net) := by
  induction is generalizing s with
  | nil => exact ⟨[], .nil _, rfl⟩
  | cons i is ih =>
    obtain ⟨out, hstep, hsent⟩ := step_refines net apps hs i
    obtain ⟨out', hrun, hrest⟩ := ih (hs.step net apps i)
    refine ⟨out ++ out', hstep.append hrun, ?_⟩
    rw [Prog.runs_cons, sentFrames_append, List.map_append, hsent, hrest]

variable (objects : σ)

/-- The last packet handed in for each destination. -/
def lastHanded (ps : List Handed) : List Handed := Outbox.lasts ps

/-- The first answer sends the last packet for each destination. -/
theorem answer_sends {is : List (Input σ)} {i : Input σ} {mac : Bytes}
    (h : ∀ j ∈ is, answer net j = none) (hi : answer net i = some mac) :
    (sentFrames (step net apps i (after net apps objects is)).out).Perm
      ((lastHanded (handed (log net apps objects is))).filterMap fun p =>
        p.1.map (ipFrame net mac)) := by
  obtain ⟨-, -, hwait⟩ := unanswered_run net apps objects h
  have hbox : (after net apps objects is).dataWaitToSend.get = Outbox.waitingAfter (fun _ => none)
      (keyed (handed (log net apps objects is))) := by
    rw [hwait, get_wait]
    rfl
  obtain ⟨out, hrun, hsent⟩ := step_refines net apps (settled net apps objects is) i
  rw [stepHistory, hi] at hrun
  have hperm := (hrun.step.flushed hbox).1.map (frameOf net)
  rw [keyed, Outbox.lasts_map Arrays.toString_injective, Outbox.sentTo_map, map_sentTo] at hperm
  rw [hsent]
  exact hperm

/-- When the packets handed to `sendData` go out in a run whose first answer is `mac`:
none before it, with it the last one for each destination, and after it each as it
comes, to the card told last. -/
theorem sends_exactly {pre post : List (Input σ)} {i : Input σ} {mac : Bytes}
    (hpre : ∀ j ∈ pre, answer net j = none) (hi : answer net i = some mac) :
    sentFrames (log net apps objects pre) = [] ∧
    (sentFrames (step net apps i (after net apps objects pre)).out).Perm
      ((lastHanded (handed (log net apps objects pre))).filterMap fun p =>
        p.1.map (ipFrame net mac)) ∧
    sentFrames (log net apps objects (pre ++ i :: post)) =
      sentFrames (step net apps i (after net apps objects pre)).out ++
        (Outbox.passed mac (history net apps (after net apps objects (pre ++ [i])) post)).map
          (frameOf net) := by
  obtain ⟨-, hsilent, -⟩ := unanswered_run net apps objects hpre
  refine ⟨hsilent, answer_sends net apps objects hpre hi, ?_⟩
  -- the answer empties the box, so what comes later only passes
  have hspec := step_spec net apps (settled net apps objects pre) i
  rw [hi] at hspec
  obtain ⟨hmac, -, hempty, -⟩ := hspec
  have hbox : box net (after net apps objects (pre ++ [i])) = ⟨some mac, fun _ => none⟩ := by
    rw [box, after_snoc, hmac, hempty]
    rfl
  obtain ⟨out, hrun, hsent⟩ := runs_refine net apps (settled net apps objects (pre ++ [i])) post
  rw [hbox] at hrun
  rw [← hrun.passed_eq, ← hsent, List.append_cons, log_append, log_snoc, sentFrames_append,
    sentFrames_append, hsilent, List.nil_append]

end

/-- Two packets for one host and one for another, the answer, and a packet more. -/
theorem sends_exactly_sample :
    sentFrames (log sampleNetwork noApps () [handIn [1] 8, handIn [2] 8, handIn [3] 9]) = [] ∧
    (sentFrames (step sampleNetwork noApps sampleAnswer (after sampleNetwork noApps ()
        [handIn [1] 8, handIn [2] 8, handIn [3] 9])).out).Perm
      ((lastHanded (handed (log sampleNetwork noApps ()
        [handIn [1] 8, handIn [2] 8, handIn [3] 9]))).filterMap fun p =>
          p.1.map (ipFrame sampleNetwork [0x10, 0x20, 0x30, 0x40, 0x50, 0x60])) ∧
    sentFrames (log sampleNetwork noApps ()
        ([handIn [1] 8, handIn [2] 8, handIn [3] 9] ++ sampleAnswer :: [handIn [4] 8])) =
      sentFrames (step sampleNetwork noApps sampleAnswer (after sampleNetwork noApps ()
        [handIn [1] 8, handIn [2] 8, handIn [3] 9])).out ++
        (Outbox.passed [0x10, 0x20, 0x30, 0x40, 0x50, 0x60] (history sampleNetwork noApps
          (after sampleNetwork noApps () ([handIn [1] 8, handIn [2] 8, handIn [3] 9] ++ [sampleAnswer]))
          [handIn [4] 8])).map (frameOf sampleNetwork) :=
  sends_exactly sampleNetwork noApps () (by decide) (by decide)

end TcpIpStack.ProtocolManager
