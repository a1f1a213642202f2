import TcpIpStack.Protocol.IPFrame
import TcpIpStack.Protocol.Traffic

/-!
# What an application's calls do

A method of an application runs to its end on the objects alone; its calls are
then carried out one after the other, and none of them throws. So a method
shows in the log exactly as it stands: the packets it hands in and the figures
it prints, in order, and no delivery.
-/

namespace TcpIpStack.ProtocolManager

open TcpIpStack.Java TcpIpStack.Lib

/-- The deliveries of a log. -/
def deliveries (log : List Event) : List (Nat × Info) :=
  log.filterMap fun
    | .delivered app info => some (app, info)
    | _ => none

/-- The figures of a log. -/
def reports (log : List Event) : List Report :=
  log.filterMap fun
    | .print report => some report
    | _ => none

/-- The packets a log shows to leave the applications. -/
def emitted (log : List Event) : List Bytes :=
  log.filterMap fun
    | .handed data _ => data
    | .transmit .broadCast frame => some frame.data
    | _ => none

@[simp] theorem deliveries_append (l l' : List Event) :
    deliveries (l ++ l') = deliveries l ++ deliveries l' := List.filterMap_append

@[simp] theorem reports_append (l l' : List Event) : reports (l ++ l') = reports l ++ reports l' :=
  List.filterMap_append

@[simp] theorem emitted_append (l l' : List Event) : emitted (l ++ l') = emitted l ++ emitted l' :=
  List.filterMap_append

/-- What calls hand in. -/
def handedBy (calls : List Call) : List Handed :=
  calls.filterMap fun
    | .sendData data ip => some (data, ip)
    | _ => none

/-- What calls print. -/
def reportedBy (calls : List Call) : List Report :=
  calls.filterMap fun
    | .print report => some report
    | _ => none

/-- The packets of calls. -/
def packets (calls : List Call) : List Bytes :=
  calls.filterMap fun
    | .sendData data _ => data
    | .broadCast data => data
    | _ => none

/-- The receivers once a call has registered its own. -/
def register (receivers : List Nat) : Call → List Nat
  | .registToReceiveICMPPacket i => if i ∈ receivers then receivers else receivers ++ [i]
  | _ => receivers

/-- No application is registered twice. -/
theorem nodup_foldl_register {calls : List Call} {receivers : List Nat} (h : receivers.Nodup) :
    (calls.foldl register receivers).Nodup := by
  induction calls generalizing receivers with
  | nil => exact h
  | cons call calls ih =>
    refine ih ?_
    unfold register
    split
    · split
      · exact h
      · rename_i i hi
        refine List.nodup_append.mpr ⟨h, List.nodup_singleton i, fun a ha b hb hab => hi ?_⟩
        rwa [← List.mem_singleton.mp hb, ← hab]
    · exact h

variable {σ : Type}

/-- The calls were carried out between the two states and left the log. -/
structure Performed (calls : List Call) (s : ProtocolManager σ) (log : List Event)
    (s' : ProtocolManager σ) : Prop where
  apps_eq : s'.apps = s.apps
  receivers_eq : s'.icmpPacketReceiverList = calls.foldl register s.icmpPacketReceiverList
  handed_eq : handed log = handedBy calls
  reports_eq : reports log = reportedBy calls
  emitted_eq : emitted log = packets calls
  deliveries_eq : deliveries log = []

theorem Performed.nil (s : ProtocolManager σ) : Performed [] s [] s :=
  ⟨rfl, rfl, rfl, rfl, rfl, rfl⟩

theorem Performed.cons {call : Call} {calls : List Call} {s s' s'' : ProtocolManager σ}
    {log log' : List Event} (h : Performed [call] s log s') (h' : Performed calls s' log' s'') :
    Performed (call :: calls) s (log ++ log') s'' where
  apps_eq := h'.apps_eq.trans h.apps_eq
  receivers_eq := by rw [h'.receivers_eq, h.receivers_eq]; rfl
  handed_eq := by
    rw [handed_append, h.handed_eq, h'.handed_eq]
    exact (List.filterMap_append (l := [call])).symm
  reports_eq := by
    rw [reports_append, h.reports_eq, h'.reports_eq]
    exact (List.filterMap_append (l := [call])).symm
  emitted_eq := by
    rw [emitted_append, h.emitted_eq, h'.emitted_eq]
    exact (List.filterMap_append (l := [call])).symm
  deliveries_eq := by rw [deliveries_append, h.deliveries_eq, h'.deliveries_eq]; rfl

section

variable (net : Network)

theorem reports_transmit (sender : Sender) (data : Option Bytes) (mac : Bytes) (frameType : Short) :
    reports ((net.dataLinkLayer.sendData data mac frameType).map (Event.transmit sender)) = [] := by
  cases data <;> rfl

/-- Only a broadcast goes out without being handed in. -/
theorem emitted_transmit (sender : Sender) (data : Option Bytes) (mac : Bytes) (frameType : Short) :
    emitted ((net.dataLinkLayer.sendData data mac frameType).map (Event.transmit sender)) =
      if sender = .broadCast then data.toList else [] := by
  cases data <;> cases sender <;> rfl

theorem deliveries_transmit (sender : Sender) (data : Option Bytes) (mac : Bytes)
    (frameType : Short) :
    deliveries ((net.dataLinkLayer.sendData data mac frameType).map (Event.transmit sender)) = [] := by
  cases data <;> rfl

/-- `sendData` puts the packet on the wire or into the table. -/
theorem sendData_run (data ip : Option Bytes) (s : ProtocolManager σ) :
    ∃ s' log, sendData net data ip s = ⟨.ok (), s', .handed data ip :: log⟩ ∧
      Performed [.sendData data ip] s (.handed data ip :: log) s' := by
  cases hm : getRouterMac net s with
  | none =>
    obtain ⟨frame, hrun⟩ := prepareRouterMac_run net s
    refine ⟨{ s with dataWaitToSend := s.dataWaitToSend.put (Arrays.toString ip) data },
      [.transmit .prepareRouterMac frame], ?_, rfl, rfl, rfl, rfl, ?_, rfl⟩
    · refine Prog.bind_run_ok (Prog.emit_run ..) ?_
      rw [Prog.read_bind_run, hm]
      exact Prog.bind_run_ok hrun rfl
    · cases data <;> rfl
  | some mac =>
    refine ⟨s, (net.dataLinkLayer.sendData data mac ETHERTYPE_IP).map (Event.transmit .sendData), ?_,
      rfl, rfl, ?_, ?_, ?_, ?_⟩
    · refine Prog.bind_run_ok (Prog.emit_run ..) ?_
      rw [Prog.read_bind_run, hm]
      rfl
    · exact congrArg ((data, ip) :: ·) (handed_transmit ..)
    · exact reports_transmit ..
    · have htransmit := emitted_transmit net .sendData data mac ETHERTYPE_IP
      cases data with
      | none => exact htransmit
      | some data => exact congrArg (data :: ·) htransmit
    · exact deliveries_transmit ..

/-- Every call is carried out. -/
theorem perform_run (call : Call) (s : ProtocolManager σ) :
    ∃ s' log, perform net call s = ⟨.ok (), s', log⟩ ∧ Performed [call] s log s' := by
  cases call with
  | sendData data ip =>
    obtain ⟨s', log, hrun, hperformed⟩ := sendData_run net data ip s
    exact ⟨s', _, Prog.catching_run_ok hrun, hperformed⟩
  | broadCast data =>
    refine ⟨s, _, rfl, rfl, rfl, handed_transmit .., reports_transmit .., ?_, deliveries_transmit ..⟩
    refine (emitted_transmit net .broadCast data broadcast ETHERTYPE_IP).trans ?_
    cases data <;> rfl
  | registToReceiveICMPPacket receiver =>
    refine ⟨_, _, rfl, ?_, ?_, rfl, rfl, rfl, rfl⟩
    · show (if receiver ∈ s.icmpPacketReceiverList then s else _).apps = s.apps
      split <;> rfl
    · show (if receiver ∈ s.icmpPacketReceiverList then s else _).icmpPacketReceiverList =
        if receiver ∈ s.icmpPacketReceiverList then _ else _
      split <;> rfl
  | print report => exact ⟨s, _, rfl, rfl, rfl, rfl, rfl, rfl, rfl⟩

theorem forM_perform_run (calls : List Call) (s : ProtocolManager σ) :
    ∃ s' log, calls.forM (perform net) s = ⟨.ok (), s', log⟩ ∧ Performed calls s log s' := by
  induction calls generalizing s with
  | nil => exact ⟨s, [], rfl, .nil s⟩
  | cons call calls ih =>
    obtain ⟨s', log, hrun, hperformed⟩ := perform_run net call s
    obtain ⟨s'', log', hrun', hperformed'⟩ := ih s'
    exact ⟨s'', log ++ log', Prog.bind_run_ok hrun hrun', hperformed.cons hperformed'⟩

/-- A method of an application: it ends as it does on the objects alone, and then
its calls are carried out. -/
theorem runApp_run {α : Type} (m : AppM σ α) (s : ProtocolManager σ) :
    ∃ s' log, runApp net m s = ⟨(m s.apps).result, s', log⟩ ∧
      Performed (m s.apps).out { s with apps := (m s.apps).state } log s' := by
  obtain ⟨s', log, hrun, hperformed⟩ :=
    forM_perform_run net (m s.apps).out { s with apps := (m s.apps).state }
  refine ⟨s', log, ?_, hperformed⟩
  refine (Prog.bind_run_ok hrun (Prog.lift_run ..)).trans ?_
  rw [List.append_nil]

variable (apps : AppLayer σ)

/-- A delivery is one delivery: what the application then does is not another. -/
theorem deliver_run (app : Nat) (info : Info) (s : ProtocolManager σ) :
    ∃ s' log, deliver net apps app info s =
        ⟨(apps.handleData app info s.apps).result, s', .delivered app info :: log⟩ ∧
      Performed (apps.handleData app info s.apps).out
        { s with apps := (apps.handleData app info s.apps).state } log s' := by
  obtain ⟨s', log, hrun, hperformed⟩ := runApp_run net (apps.handleData app info) s
  exact ⟨s', log, Prog.bind_run_ok (Prog.emit_run ..) hrun, hperformed⟩

/-- A UDP datagram is delivered to the application its port finds, if any. -/
theorem handleUDPPacket_deliveries {packet : Packet} (h : 8 ≤ packet.header.length)
    (s : ProtocolManager σ) :
    deliveries (handleUDPPacket net apps packet s).out =
      ((apps.getApplicationByPort s.apps
        ((shortOf (slice packet.header 2 2)).signExtend 32)).map fun app =>
          (app, UDPProtocolLayer.info packet.header packet.data)).toList := by
  have hport : (UDPProtocolLayer.info packet.header packet.data).unbox .dest_port Obj.asShort =
      .ok (shortOf (slice packet.header 2 2)) := rfl
  simp only [handleUDPPacket, UDPProtocolLayer.handlePacket_eq (show 6 ≤ packet.header.length by omega),
    hport, Prog.lift_ok_bind, Prog.read_bind_run]
  cases apps.getApplicationByPort s.apps ((shortOf (slice packet.header 2 2)).signExtend 32) with
  | none => rfl
  | some app =>
    obtain ⟨s', log, hrun, hperformed⟩ :=
      deliver_run net apps app (UDPProtocolLayer.info packet.header packet.data) s
    show deliveries (deliver net apps app _ s).out = _
    rw [hrun]
    exact congrArg (_ :: ·) hperformed.deliveries_eq

/-! ## Captured IP frames -/

variable {packet : Packet} {f : IPProtocolLayer.IPFrame} (htype : packet.frametype = ETHERTYPE_IP)
  (hbytes : packet.header ++ packet.data = f.bytes)

include htype

theorem receivePacket_ip (s : ProtocolManager σ) :
    (receivePacket net apps (some packet) s).state = (handleIPPacket net apps packet s).state ∧
      (receivePacket net apps (some packet) s).out = (handleIPPacket net apps packet s).out := by
  have harp : packet.frametype ≠ ETHERTYPE_ARP := by rw [htype]; decide
  rw [receivePacket_other net apps harp, if_pos htype]
  exact ⟨Prog.catching_state .., Prog.catching_out ..⟩

include hbytes

/-- A frame that is not for the device, or whose lengths do not fit, is dropped. -/
theorem receivePacket_dropped (h : ¬ f.Accepted net.dataLinkLayer) (s : ProtocolManager σ) :
    (receivePacket net apps (some packet) s).state = s ∧
      (receivePacket net apps (some packet) s).out = [] := by
  obtain ⟨hstate, hout⟩ := receivePacket_ip net apps htype s
  rw [hstate, hout]
  unfold handleIPPacket
  rcases IPProtocolLayer.handlePacket_not_accepted f hbytes h with hip | ⟨e, hip⟩
  · rw [hip, Prog.lift_ok_bind]
    exact ⟨rfl, rfl⟩
  · rw [hip, Prog.lift_error_bind]
    exact ⟨rfl, rfl⟩

/-- An ICMP message for the device. -/
theorem receivePacket_icmp (h : f.Accepted net.dataLinkLayer) (hproto : f.header.protocol = 1)
    (s : ProtocolManager σ) :
    (receivePacket net apps (some packet) s).state =
        (handleICMPPacket net apps { packet with header := f.payload } f.info s).state ∧
      (receivePacket net apps (some packet) s).out =
        (handleICMPPacket net apps { packet with header := f.payload } f.info s).out := by
  obtain ⟨hstate, hout⟩ := receivePacket_ip net apps htype s
  have hrun : handleIPPacket net apps packet =
      handleICMPPacket net apps { packet with header := f.payload } f.info := by
    have hprotocol : f.info .protocol = some (.byte 1) := by rw [← hproto]; rfl
    have hheader : f.info.unbox .header Obj.asBytes = .ok f.payload := rfl
    simp only [handleIPPacket, IPProtocolLayer.handlePacket_accepted f hbytes h, Prog.lift_ok_bind,
      hprotocol, Obj.asByte, hheader, ↓reduceIte]
  rw [hstate, hout, hrun]
  exact ⟨rfl, rfl⟩

/-- A UDP datagram for the device. -/
theorem receivePacket_udp (h : f.Accepted net.dataLinkLayer) (hproto : f.header.protocol = 17)
    (s : ProtocolManager σ) :
    (receivePacket net apps (some packet) s).state =
        (handleUDPPacket net apps { packet with header := f.payload } s).state ∧
      (receivePacket net apps (some packet) s).out =
        (handleUDPPacket net apps { packet with header := f.payload } s).out := by
  obtain ⟨hstate, hout⟩ := receivePacket_ip net apps htype s
  have hrun : handleIPPacket net apps packet =
      handleUDPPacket net apps { packet with header := f.payload } := by
    have hprotocol : f.info .protocol = some (.byte 17) := by rw [← hproto]; rfl
    have hheader : f.info.unbox .header Obj.asBytes = .ok f.payload := rfl
    have hne : ¬ (17 : Byte) = 1 := by decide
    simp only [handleIPPacket, IPProtocolLayer.handlePacket_accepted f hbytes h, Prog.lift_ok_bind,
      hprotocol, Obj.asByte, hheader, if_neg hne, ↓reduceIte]
  rw [hstate, hout, hrun]
  exact ⟨rfl, rfl⟩

end

end TcpIpStack.ProtocolManager
