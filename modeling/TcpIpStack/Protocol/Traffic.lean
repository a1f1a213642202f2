import TcpIpStack.Protocol.ProtocolManager

/-!
# What a step does to the two tables

While the router's address does not change, a step that learns nothing either
makes packets wait or sends them at once (`Quiet`); the step that learns it
empties the table onto the wire (`Answered`). Every step is one or the other
(`step_spec`).
-/

namespace TcpIpStack.ProtocolManager

open TcpIpStack.Java TcpIpStack.Lib

variable {σ : Type}

/-- A packet and the destination it is handed in for. -/
abbrev Handed := Option Bytes × Option Bytes

/-- The calls of `sendData` in a log. -/
def handed (log : List Event) : List Handed :=
  log.filterMap fun
    | .handed data ip => some (data, ip)
    | _ => none

/-- The frames that `sendData` and `sendWaitingData` put on the wire. -/
def sentFrames (log : List Event) : List Frame :=
  log.filterMap fun
    | .transmit .sendData frame => some frame
    | .transmit .sendWaitingData frame => some frame
    | _ => none

@[simp] theorem handed_append (o o' : List Event) : handed (o ++ o') = handed o ++ handed o' :=
  List.filterMap_append

@[simp] theorem sentFrames_append (o o' : List Event) :
    sentFrames (o ++ o') = sentFrames o ++ sentFrames o' := List.filterMap_append

@[simp] theorem handed_nil : handed [] = [] := rfl

@[simp] theorem sentFrames_nil : sentFrames [] = [] := rfl

/-- The frame that carries a packet to the router. -/
def ipFrame (net : Network) (mac data : Bytes) : Frame :=
  ⟨mac, net.dataLinkLayer.macAddress, ETHERTYPE_IP, data⟩

/-- The table after the packets were put to wait. -/
def wait (m : HashMap) (packets : List Handed) : HashMap :=
  packets.foldl (fun m p => m.put (Arrays.toString p.2) p.1) m

theorem wait_append (m : HashMap) (ps qs : List Handed) : wait m (ps ++ qs) = wait (wait m ps) qs :=
  List.foldl_append ..

/-- What a step does that learns no address of the router's. -/
def Quiet (net : Network) (s : ProtocolManager σ) (o : List Event) (s' : ProtocolManager σ) : Prop :=
  getRouterMac net s' = getRouterMac net s ∧
    match getRouterMac net s with
    | none => sentFrames o = [] ∧ s'.dataWaitToSend = wait s.dataWaitToSend (handed o)
    | some mac => sentFrames o = (handed o).filterMap (fun p => p.1.map (ipFrame net mac)) ∧
        s'.dataWaitToSend = s.dataWaitToSend

/-- What the step does that learns the address. -/
def Answered (net : Network) (mac : Bytes) (s : ProtocolManager σ) (o : List Event)
    (s' : ProtocolManager σ) : Prop :=
  getRouterMac net s' = some mac ∧ handed o = [] ∧ s'.dataWaitToSend = ∅ ∧
    sentFrames o = (net.keyOrder.keySet s.dataWaitToSend).filterMap fun key =>
      (s.dataWaitToSend.get key).map (ipFrame net mac)

def quiet (net : Network) : Prog.Trace (ProtocolManager σ) Event where
  rel := Quiet net
  refl s := by
    unfold Quiet
    cases getRouterMac net s <;> exact ⟨rfl, rfl, rfl⟩
  trans := by
    rintro s s' s'' o o' ⟨hmac, h⟩ ⟨hmac', h'⟩
    unfold Quiet
    rw [hmac] at hmac' h'
    refine ⟨hmac', ?_⟩
    cases hm : getRouterMac net s with
    | none =>
      rw [hm] at h h'
      refine ⟨by rw [sentFrames_append, h.1, h'.1, List.nil_append], ?_⟩
      rw [h'.2, h.2, handed_append, wait_append]
    | some mac =>
      rw [hm] at h h'
      refine ⟨?_, by rw [h'.2, h.2]⟩
      rw [sentFrames_append, h.1, h'.1, handed_append, List.filterMap_append]

/-- A step that leaves the router's address and what waits, and puts no packet on the
wire. -/
theorem Quiet.of_unchanged {net : Network} {s s' : ProtocolManager σ} {o : List Event}
    (hmac : getRouterMac net s' = getRouterMac net s) (hwait : s'.dataWaitToSend = s.dataWaitToSend)
    (hhanded : handed o = []) (hsent : sentFrames o = []) : Quiet net s o s' := by
  refine ⟨hmac, ?_⟩
  rw [hhanded, hsent, hwait]
  cases getRouterMac net s <;> exact ⟨rfl, rfl⟩

/-- A step that touches neither table and puts no packet on the wire. -/
theorem Quiet.of_silent {net : Network} {s s' : ProtocolManager σ} {o : List Event}
    (hcache : s'.ipToMacTable = s.ipToMacTable) (hwait : s'.dataWaitToSend = s.dataWaitToSend)
    (hhanded : handed o = []) (hsent : sentFrames o = []) : Quiet net s o s' :=
  .of_unchanged (by rw [getRouterMac, hcache, getRouterMac]) hwait hhanded hsent

section

variable (net : Network)

/-- The request for the router's address always goes out. -/
theorem prepareRouterMac_run (s : ProtocolManager σ) :
    ∃ frame, prepareRouterMac net s = ⟨.ok (), s, [.transmit .prepareRouterMac frame]⟩ := by
  obtain ⟨msg, hmsg⟩ := ARPProtocolLayer.createHeader_ok net.dataLinkLayer
    (show (Info.empty.put .sender_ip (.bytes net.routerAddress.getAddress)) .sender_ip = _ from rfl)
    net.routerAddress.length_eq
  refine ⟨⟨broadcast, net.dataLinkLayer.macAddress, ETHERTYPE_ARP, msg⟩, ?_⟩
  rw [prepareRouterMac, hmsg]
  rfl

/-- So the first `getInstance` catches nothing. -/
theorem getInstance_run (objects : σ) : ∃ frame, getInstance net objects =
    ⟨.ok (), emptyTables objects, [.transmit .prepareRouterMac frame]⟩ := by
  obtain ⟨frame, hrun⟩ := prepareRouterMac_run net (emptyTables objects)
  exact ⟨frame, Prog.catching_run_ok hrun⟩

theorem getInstance_state (objects : σ) : (getInstance net objects).state = emptyTables objects := by
  obtain ⟨frame, hrun⟩ := getInstance_run net objects
  rw [hrun]

/-- `transmit` for a packet from `sendData` or `sendWaitingData`. -/
theorem sentFrames_transmit {sender : Sender} (h : sender = .sendData ∨ sender = .sendWaitingData)
    (data : Option Bytes) (mac : Bytes) :
    sentFrames ((net.dataLinkLayer.sendData data mac ETHERTYPE_IP).map (Event.transmit sender)) =
      (data.map (ipFrame net mac)).toList := by
  rcases h with rfl | rfl <;> cases data <;> rfl

/-- Handing frames to the card is no call of `sendData`. -/
theorem handed_transmit (sender : Sender) (data : Option Bytes) (mac : Bytes) (frameType : Short) :
    handed ((net.dataLinkLayer.sendData data mac frameType).map (Event.transmit sender)) = [] := by
  cases data <;> rfl

theorem sendData_quiet (data ip : Option Bytes) :
    Prog.Obeys (quiet net) (sendData net data ip : StackM σ Unit) := by
  intro s
  show Quiet net s _ _
  cases hm : getRouterMac net s with
  | none =>
    obtain ⟨frame, hrun⟩ := prepareRouterMac_run net s
    have hsend : sendData net data ip s = ⟨.ok (),
        { s with dataWaitToSend := s.dataWaitToSend.put (Arrays.toString ip) data },
        [.handed data ip, .transmit .prepareRouterMac frame]⟩ := by
      refine Prog.bind_run_ok (Prog.emit_run ..) ?_
      rw [Prog.read_bind_run, hm]
      exact Prog.bind_run_ok hrun rfl
    rw [hsend]
    refine ⟨rfl, ?_⟩
    rw [hm]
    exact ⟨rfl, rfl⟩
  | some mac =>
    have hsend : sendData net data ip s = ⟨.ok (), s, .handed data ip ::
        (net.dataLinkLayer.sendData data mac ETHERTYPE_IP).map (Event.transmit .sendData)⟩ := by
      refine Prog.bind_run_ok (Prog.emit_run ..) ?_
      rw [Prog.read_bind_run, hm]
      rfl
    rw [hsend]
    refine ⟨rfl, ?_⟩
    rw [hm]
    refine ⟨?_, rfl⟩
    have hsent := sentFrames_transmit net (.inl rfl) data mac
    have hhand := handed_transmit net .sendData data mac ETHERTYPE_IP
    show sentFrames _ = ((data, ip) :: handed _).filterMap _
    rw [hhand]
    show sentFrames ((net.dataLinkLayer.sendData data mac ETHERTYPE_IP).map _) = _
    rw [hsent]
    cases data <;> rfl

theorem broadCast_quiet (data : Option Bytes) :
    Prog.Obeys (quiet net) (broadCast net data : StackM σ Unit) := by
  intro s
  refine Quiet.of_silent rfl rfl (handed_transmit ..) ?_
  show sentFrames ((net.dataLinkLayer.sendData data _ _).map (Event.transmit .broadCast)) = []
  cases data <;> rfl

theorem registToReceiveICMPPacket_quiet (receiver : Nat) :
    Prog.Obeys (quiet net) (registToReceiveICMPPacket receiver : StackM σ Unit) := by
  intro s
  unfold registToReceiveICMPPacket
  show Quiet net s [] (if receiver ∈ s.icmpPacketReceiverList then s else _)
  split
  · exact (quiet net).refl s
  · exact Quiet.of_silent rfl rfl rfl rfl

theorem perform_quiet (call : Call) : Prog.Obeys (quiet net) (perform net call : StackM σ Unit) := by
  cases call with
  | sendData data ip => exact .catching _ (sendData_quiet net data ip)
  | broadCast data => exact broadCast_quiet net data
  | registToReceiveICMPPacket receiver => exact registToReceiveICMPPacket_quiet net receiver
  | print report => exact .emit fun s => Quiet.of_silent rfl rfl rfl rfl

theorem runApp_quiet {α : Type} (m : AppM σ α) : Prog.Obeys (quiet net) (runApp net m) :=
  .interpret (fun _ _ => Quiet.of_silent rfl rfl rfl rfl) (perform_quiet net)

variable (apps : AppLayer σ)

theorem deliver_quiet (app : Nat) (info : Info) : Prog.Obeys (quiet net) (deliver net apps app info) :=
  .bind (.emit fun _ => Quiet.of_silent rfl rfl rfl rfl) fun _ => runApp_quiet net _

section

variable {T : Prog.Trace (ProtocolManager σ) Event}
  (h : ∀ app info, Prog.Obeys T (deliver net apps app info))

include h

theorem handleUDPPacket_obeys (packet : Packet) :
    Prog.Obeys T (handleUDPPacket net apps packet) := by
  refine .bind (.lift _) fun headerInfo => .bind (.lift _) fun dstPort => .bind .read fun s => ?_
  split
  · exact .pure ()
  · exact h _ _

theorem handleICMPPacket_obeys (packet : Packet) (info : Info) :
    Prog.Obeys T (handleICMPPacket net apps packet info) := by
  refine .bind (.lift _) fun headerInfo => ?_
  split
  · exact .throw _
  · exact .bind .read fun s => .forM fun receiver _ => h receiver _

/-- An IP frame does nothing but deliveries. -/
theorem handleIPPacket_obeys (packet : Packet) : Prog.Obeys T (handleIPPacket net apps packet) := by
  refine .bind (.lift _) fun info => ?_
  split
  · exact .pure ()
  split
  · exact .pure ()
  refine .bind (.lift _) fun protocol => .bind (.lift _) fun header => ?_
  split
  · exact handleICMPPacket_obeys net apps h _ _
  split
  · exact handleUDPPacket_obeys net apps h _
  · exact .pure ()

end

/-! ## ARP frames -/

/-- Once the router's address is known nothing waits. -/
def Settled (s : ProtocolManager σ) : Prop :=
  (getRouterMac net s).isSome → s.dataWaitToSend = ∅

theorem Quiet.settled {s s' : ProtocolManager σ} {o : List Event} (h : Quiet net s o s')
    (hs : Settled net s) : Settled net s' := by
  obtain ⟨hmac, h⟩ := h
  intro hsome
  rw [hmac] at hsome
  cases hm : getRouterMac net s with
  | none => simp [hm] at hsome
  | some mac =>
    rw [hm] at h
    rw [h.2]
    exact hs (by rw [hm]; rfl)

theorem Answered.settled {s s' : ProtocolManager σ} {mac : Bytes} {o : List Event}
    (h : Answered net mac s o s') : Settled net s' := fun _ => h.2.2.1

theorem sendWaitingData_run_none {s : ProtocolManager σ} (h : getRouterMac net s = none) :
    sendWaitingData net s = ⟨.ok (), s, []⟩ := by
  unfold sendWaitingData
  rw [Prog.read_bind_run, h]
  rfl

theorem sendWaitingData_run_some {s : ProtocolManager σ} {mac : Bytes}
    (h : getRouterMac net s = some mac) :
    sendWaitingData net s = ⟨.ok (), { s with dataWaitToSend := ∅ },
      (net.keyOrder.keySet s.dataWaitToSend).flatMap fun key =>
        (net.dataLinkLayer.sendData (s.dataWaitToSend.get key) mac ETHERTYPE_IP).map
          (Event.transmit .sendWaitingData)⟩ := by
  unfold sendWaitingData
  rw [Prog.read_bind_run, h]
  show (Prog.read >>= _) s = _
  rw [Prog.read_bind_run]
  rw [← List.append_nil (List.flatMap _ _)]
  exact Prog.bind_run_ok (Prog.forM_emitAll_run ..) rfl

/-- The frames of the packets that waited. -/
theorem sentFrames_waiting (m : HashMap) (keys : List (List Char)) (mac : Bytes) :
    sentFrames (keys.flatMap fun key => (net.dataLinkLayer.sendData (m.get key) mac ETHERTYPE_IP).map
      (Event.transmit .sendWaitingData)) = keys.filterMap fun key => (m.get key).map (ipFrame net mac) := by
  induction keys with
  | nil => rfl
  | cons key keys ih =>
    rw [List.flatMap_cons, sentFrames_append, sentFrames_transmit net (.inr rfl), ih]
    cases h : m.get key <;> simp [h]

theorem handed_waiting (m : HashMap) (keys : List (List Char)) (mac : Bytes) :
    handed (keys.flatMap fun key => (net.dataLinkLayer.sendData (m.get key) mac ETHERTYPE_IP).map
      (Event.transmit .sendWaitingData)) = [] := by
  induction keys with
  | nil => rfl
  | cons key keys ih => rw [List.flatMap_cons, handed_append, handed_transmit, ih, List.append_nil]

/-- The end of the ARP branch: the sender's address is put into the table. -/
def learn (key : Option Bytes) (mac : Option Bytes) : StackM σ Unit := do
  Prog.modify fun s => { s with ipToMacTable := s.ipToMacTable.put (Arrays.toString key) mac }
  sendWaitingData net

/-- An entry for any other key is put there and no more. -/
theorem learn_run_other {s : ProtocolManager σ} (hs : Settled net s) {key mac : Option Bytes}
    (hkey : key ≠ some net.routerAddress.getAddress) :
    learn net key mac s =
      ⟨.ok (), { s with ipToMacTable := s.ipToMacTable.put (Arrays.toString key) mac }, []⟩ := by
  let t := { s with ipToMacTable := s.ipToMacTable.put (Arrays.toString key) mac }
  have hget : getRouterMac net t = getRouterMac net s := by
    show HashMap.get (HashMap.put ..) _ = _
    rw [HashMap.get_put, if_neg fun h => hkey (Arrays.toString_injective h).symm]
    rfl
  have hrun : learn net key mac s = sendWaitingData net t := Prog.modify_bind_run ..
  rw [hrun]
  cases hm : getRouterMac net s with
  | none => exact sendWaitingData_run_none net (hget.trans hm)
  | some mac =>
    have hempty : t.dataWaitToSend = ∅ := hs (by rw [hm]; rfl)
    rw [sendWaitingData_run_some net (hget.trans hm), hempty, net.keyOrder.keySet_empty]
    show Outcome.mk _ { t with dataWaitToSend := ∅ } _ = _
    rw [← hempty]
    rfl

/-- It changes nothing about the traffic. -/
theorem learn_other {s : ProtocolManager σ} (hs : Settled net s) {key mac : Option Bytes}
    (hkey : key ≠ some net.routerAddress.getAddress) :
    Quiet net s (learn net key mac s).out (learn net key mac s).state := by
  rw [learn_run_other net hs hkey]
  refine Quiet.of_unchanged ?_ rfl rfl rfl
  show HashMap.get (HashMap.put ..) _ = _
  rw [HashMap.get_put, if_neg fun h => hkey (Arrays.toString_injective h).symm]
  rfl

/-- The router's own entry sends everything that waits. -/
theorem learn_router (s : ProtocolManager σ) (mac : Bytes) :
    Answered net mac s (learn net (some net.routerAddress.getAddress) (some mac) s).out
      (learn net (some net.routerAddress.getAddress) (some mac) s).state := by
  let t := { s with ipToMacTable :=
    s.ipToMacTable.put (Arrays.toString (some net.routerAddress.getAddress)) (some mac) }
  have hget : getRouterMac net t = some mac := by
    show HashMap.get (HashMap.put ..) _ = _
    rw [HashMap.get_put, if_pos rfl]
  have hrun : learn net (some net.routerAddress.getAddress) (some mac) s = sendWaitingData net t :=
    Prog.modify_bind_run ..
  rw [hrun, sendWaitingData_run_some net hget]
  exact ⟨hget, handed_waiting .., rfl, sentFrames_waiting ..⟩

/-- The address of the router that a frame tells: the sender's, in an ARP reply
to this device from the router. -/
def frameAnswer (packet : Packet) : Option Bytes :=
  if packet.frametype = ETHERTYPE_ARP ∧
      ARPProtocolLayer.IsReply net.dataLinkLayer packet.header ∧
      ARPProtocolLayer.senderIP packet.header = net.routerAddress.getAddress then
    some (ARPProtocolLayer.senderMac packet.header)
  else none

def answer : Input σ → Option Bytes
  | .receivePacket (some packet) => frameAnswer net packet
  | _ => none

/-- The branch of an ARP frame, by what the frame is. -/
theorem handleARPPacket_run (packet : Packet) (s : ProtocolManager σ) :
    (ARPProtocolLayer.IsReply net.dataLinkLayer packet.header ∧
      handleARPPacket net packet s = learn net (some (ARPProtocolLayer.senderIP packet.header))
        (some (ARPProtocolLayer.senderMac packet.header)) s) ∨
    (¬ ARPProtocolLayer.IsReply net.dataLinkLayer packet.header ∧
      (handleARPPacket net packet s = learn net none none s ∨
        ∃ e, handleARPPacket net packet s = ⟨.error e, s, []⟩)) := by
  unfold handleARPPacket
  rcases ARPProtocolLayer.handlePacket_eq net.dataLinkLayer packet with
    ⟨hreply, h⟩ | ⟨hreply, h | ⟨e, h⟩⟩
  · refine .inl ⟨hreply, ?_⟩
    rw [h]
    rfl
  · refine .inr ⟨hreply, .inl ?_⟩
    rw [h]
    rfl
  · refine .inr ⟨hreply, .inr ⟨e, ?_⟩⟩
    rw [h]
    rfl

theorem receivePacket_arp {packet : Packet} (h : packet.frametype = ETHERTYPE_ARP) :
    receivePacket net apps (some packet) =
      (handleARPPacket net packet >>= fun _ => pure () : StackM σ Unit) := by
  have hip : packet.frametype ≠ ETHERTYPE_IP := by rw [h]; decide
  simp only [receivePacket, if_pos h, if_neg hip]

theorem receivePacket_other {packet : Packet} (h : packet.frametype ≠ ETHERTYPE_ARP) :
    receivePacket net apps (some packet) =
      if packet.frametype = ETHERTYPE_IP then
        Prog.catching Throwable.isException (handleIPPacket net apps packet)
      else pure () := by
  simp only [receivePacket, if_neg h]

/-- An ARP frame is no business of the applications: it changes the tables and
sends what waits. -/
theorem handleARPPacket_obeys {T : Prog.Trace (ProtocolManager σ) Event}
    (hkeep : ∀ s s' : ProtocolManager σ, s'.apps = s.apps →
      s'.icmpPacketReceiverList = s.icmpPacketReceiverList → T.rel s [] s')
    (hsend : ∀ data mac, Prog.Obeys T (transmit net .sendWaitingData data mac ETHERTYPE_IP))
    (packet : Packet) : Prog.Obeys T (handleARPPacket net packet) := by
  refine .bind (.lift _) fun info => .bind (.lift _) fun senderIP => .bind (.lift _) fun senderMac =>
    .bind (.modify fun s => hkeep _ _ rfl rfl) fun _ => .bind .read fun s => ?_
  split
  · exact .pure ()
  · exact .bind .read fun s => .bind (.forM fun key _ => hsend _ _) fun _ =>
      .modify fun _ => hkeep _ _ rfl rfl

/-- A frame changes the tables, or is delivered. -/
theorem receivePacket_obeys {T : Prog.Trace (ProtocolManager σ) Event}
    (hkeep : ∀ s s' : ProtocolManager σ, s'.apps = s.apps →
      s'.icmpPacketReceiverList = s.icmpPacketReceiverList → T.rel s [] s')
    (hsend : ∀ data mac, Prog.Obeys T (transmit net .sendWaitingData data mac ETHERTYPE_IP))
    (hdeliver : ∀ app info, Prog.Obeys T (deliver net apps app info)) (packet : Option Packet) :
    Prog.Obeys T (receivePacket net apps packet) := by
  cases packet with
  | none => exact .pure ()
  | some packet =>
  by_cases harp : packet.frametype = ETHERTYPE_ARP
  · rw [receivePacket_arp net apps harp]
    exact .bind (handleARPPacket_obeys net hkeep hsend packet) fun _ => .pure ()
  · rw [receivePacket_other net apps harp]
    split
    · exact .catching _ (handleIPPacket_obeys net apps hdeliver packet)
    · exact .pure ()

theorem handleARPPacket_spec {s : ProtocolManager σ} (hs : Settled net s) {packet : Packet}
    (hp : packet.frametype = ETHERTYPE_ARP) :
    match frameAnswer net packet with
    | some mac =>
      Answered net mac s (handleARPPacket net packet s).out (handleARPPacket net packet s).state
    | none => Quiet net s (handleARPPacket net packet s).out (handleARPPacket net packet s).state := by
  unfold frameAnswer
  rcases handleARPPacket_run net packet s with ⟨hreply, h⟩ | ⟨hreply, h | ⟨e, h⟩⟩
  · rw [h]
    by_cases hr : ARPProtocolLayer.senderIP packet.header = net.routerAddress.getAddress
    · rw [if_pos ⟨hp, hreply, hr⟩, hr]
      exact learn_router net s _
    · rw [if_neg fun hc => hr hc.2.2]
      exact learn_other net hs fun he => hr (Option.some.inj he)
  · rw [if_neg fun hc => hreply hc.2.1, h]
    exact learn_other net hs (by simp)
  · rw [if_neg fun hc => hreply hc.2.1, h]
    exact (quiet net).refl s

/-- Every step either tells the router's address or is quiet. -/
theorem step_spec {s : ProtocolManager σ} (hs : Settled net s) (i : Input σ) :
    match answer net i with
    | some mac => Answered net mac s (step net apps i s).out (step net apps i s).state
    | none => Quiet net s (step net apps i s).out (step net apps i s).state := by
  cases i with
  | app method => exact runApp_quiet net method s
  | receivePacket packet =>
    cases packet with
    | none => exact (quiet net).refl s
    | some packet =>
      show match frameAnswer net packet with
        | some mac => Answered net mac s (receivePacket net apps (some packet) s).out
            (receivePacket net apps (some packet) s).state
        | none => Quiet net s (receivePacket net apps (some packet) s).out
            (receivePacket net apps (some packet) s).state
      by_cases harp : packet.frametype = ETHERTYPE_ARP
      · obtain ⟨hstate, hout⟩ := Prog.bind_pure_run (handleARPPacket net packet) () s
        rw [receivePacket_arp net apps harp, hstate, hout]
        exact handleARPPacket_spec net hs harp
      · have hobeys : Prog.Obeys (quiet net) (receivePacket net apps (some packet)) := by
          rw [receivePacket_other net apps harp]
          split
          · exact .catching _ (handleIPPacket_obeys net apps (deliver_quiet net apps) packet)
          · exact .pure ()
        rw [frameAnswer, if_neg fun h => harp h.1]
        exact hobeys s

end

/-! ## Counting a packet -/

/-- How often the packet was handed to `sendData`. -/
def handedCount (log : List Event) (data : Bytes) : Nat :=
  (handed log).countP fun p => p.1 = some data

/-- How often it went out. -/
def sentCount (log : List Event) (data : Bytes) : Nat :=
  (sentFrames log).countP fun f => f.data = data

@[simp] theorem handedCount_append (o o' : List Event) (data : Bytes) :
    handedCount (o ++ o') data = handedCount o data + handedCount o' data := by
  rw [handedCount, handed_append, List.countP_append]; rfl

@[simp] theorem sentCount_append (o o' : List Event) (data : Bytes) :
    sentCount (o ++ o') data = sentCount o data + sentCount o' data := by
  rw [sentCount, sentFrames_append, List.countP_append]; rfl

theorem countP_ipFrame {α : Type} (net : Network) (mac data : Bytes) (f : α → Option Bytes)
    (xs : List α) : (xs.filterMap fun x => (f x).map (ipFrame net mac)).countP (fun fr => fr.data = data) =
      xs.countP fun x => f x = some data := by
  induction xs with
  | nil => rfl
  | cons x xs ih =>
    cases h : f x with
    | none => simp [h, ih]
    | some d => simp [h, ih, List.countP_cons, ipFrame]

theorem holding_wait_le (m : HashMap) (ps : List Handed) (data : Bytes) :
    (wait m ps).holding data ≤ m.holding data + ps.countP fun p => p.1 = some data := by
  induction ps generalizing m with
  | nil => exact Nat.le_refl _
  | cons p ps ih =>
    have hput := m.holding_put (Arrays.toString p.2) p.1 data
    have hrest := ih (m.put (Arrays.toString p.2) p.1)
    rw [List.countP_cons]
    simp only [decide_eq_true_eq]
    show (wait (m.put _ _) ps).holding data ≤ _
    omega

/-- A quiet step keeps a packet at most as often as it was there or came in. -/
theorem Quiet.count_le {net : Network} {s s' : ProtocolManager σ} {o : List Event}
    (h : Quiet net s o s') (data : Bytes) :
    sentCount o data + s'.dataWaitToSend.holding data ≤
      s.dataWaitToSend.holding data + handedCount o data := by
  obtain ⟨-, h⟩ := h
  cases hm : getRouterMac net s with
  | none =>
    rw [hm] at h
    rw [sentCount, h.1, h.2, List.countP_nil, Nat.zero_add]
    exact holding_wait_le ..
  | some mac =>
    rw [hm] at h
    rw [sentCount, h.1, h.2, countP_ipFrame, Nat.add_comm]
    exact Nat.le_refl _

/-- The step that learns the address sends exactly what waits. -/
theorem Answered.count {net : Network} {s s' : ProtocolManager σ} {mac : Bytes} {o : List Event}
    (h : Answered net mac s o s') (data : Bytes) :
    sentCount o data = s.dataWaitToSend.holding data ∧ handedCount o data = 0 ∧
      s'.dataWaitToSend.holding data = 0 := by
  obtain ⟨-, hhanded, hwait, hsent⟩ := h
  refine ⟨?_, by rw [handedCount, hhanded]; rfl, by rw [hwait]; rfl⟩
  rw [sentCount, hsent, countP_ipFrame, ← net.keyOrder.count, List.count, List.countP_map]
  exact List.countP_congr fun key _ => by simp

end TcpIpStack.ProtocolManager
