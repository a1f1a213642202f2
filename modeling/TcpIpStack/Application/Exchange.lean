import TcpIpStack.Application.PortDispatch
import TcpIpStack.Application.Requests
import TcpIpStack.Java.Charset

/-!
# Whole exchanges

One UDP application runs alone: it is called, receives frames and lets out
requests. A reply goes to the address and the port its request came from. The
port always finds the application; the address passes the filter of the IP layer
only where the application writes the device's own.
-/

namespace TcpIpStack

open TcpIpStack.Java TcpIpStack.Lib
open ProtocolManager (packets emitted deliveries)

/-- Where an application's requests come from, and the port it is stored under. -/
structure Source where
  ip : Bytes
  port : JChar
  stored : JInt

/-- The source of a UDP application. -/
def App.source (dev : DataLinkLayer) : App → Option Source
  | dhcp this => some ⟨[0, 0, 0, 0], DHCPApplication.srcPort, this.port⟩
  | dns this => some ⟨dev.deviceIPAddress, this.port.setWidth 16, this.port⟩
  | tftp this => some ⟨TFTPClient.fake_ip, this.port.setWidth 16, this.port⟩
  | _ => none

theorem App.source_stored {dev : DataLinkLayer} {app : App} {src : Source}
    (h : app.source dev = some src) : app.getPort = src.stored ∧ app.sourcePort = some src.port := by
  cases app <;> cases h <;> exact ⟨rfl, rfl⟩

theorem mem_packets {p : Bytes} {calls : List Call} :
    p ∈ packets calls ↔ ∃ call ∈ calls, p ∈ packets [call] := by
  simp [packets]

namespace ApplicationManager

section

variable (dev : DataLinkLayer)

/-- Alone in the list, an application stays what it is and lets out only requests
from its source. -/
def alone : Prog.Trace ApplicationManager Call where
  rel m o m' := ∀ app src, m.app_list = [app] → app.source dev = some src →
    ∃ app', m'.app_list = [app'] ∧ app'.source dev = some src ∧
      ∀ p ∈ packets o, Application.Asks p src.ip src.port
  refl m app src happ hsrc := ⟨app, happ, hsrc, nofun⟩
  trans {m m' m'' o o'} h h' app src happ hsrc := by
    obtain ⟨app', happ', hsrc', hasks⟩ := h app src happ hsrc
    obtain ⟨app'', happ'', hsrc'', hasks'⟩ := h' app' src happ' hsrc'
    refine ⟨app'', happ'', hsrc'', fun p hp => ?_⟩
    rw [packets, List.filterMap_append, List.mem_append] at hp
    exact hp.elim (hasks p) (hasks' p)

variable {dev} {m : ApplicationManager} {src : Source}

/-- What `alone` says of one run from `m`. -/
abbrev Keeps (dev : DataLinkLayer) (src : Source)
    (r : Outcome Throwable ApplicationManager Call Unit) : Prop :=
  ∃ app', r.state.app_list = [app'] ∧ app'.source dev = some src ∧
    ∀ p ∈ packets r.out, Application.Asks p src.ip src.port

/-- A method on the fields of the only object. -/
theorem zoom_keeps {ρ : Type} {get : ApplicationManager → ρ} {object : ρ → App}
    {set : ρ → ApplicationManager → ApplicationManager}
    (hset : ∀ r, (set r m).app_list = m.app_list.set 0 (object r)) {app : App}
    (happ : m.app_list = [app]) {method : AppM ρ Unit}
    (hsrc : (object (method (get m)).state).source dev = some src)
    (hasks : ∀ call ∈ (method (get m)).out, ∀ p ∈ packets [call], Application.Asks p src.ip src.port) :
    Keeps dev src (Prog.zoom get set method m) := by
  refine ⟨object (method (get m)).state, ?_, hsrc, fun p hp => ?_⟩
  · show (set _ m).app_list = _
    rw [hset, happ]
    rfl
  · obtain ⟨call, hcall, hp⟩ := mem_packets.mp hp
    exact hasks call hcall p hp

theorem onDNS_keeps {this : DNSApplication} (happ : m.app_list = [.dns this])
    (hsrc : (App.dns this).source dev = some src) {method : AppM DNSApplication Unit}
    (h : Prog.Obeys (DNSApplication.asking dev) method) : Keeps dev src (onDNS 0 this method m) := by
  obtain ⟨hport, hasks⟩ := h this
  cases hsrc
  refine zoom_keeps (fun _ => rfl) happ ?_ hasks
  show some (Source.mk _ ((method this).state.port.setWidth 16) (method this).state.port) = _
  rw [show (method this).state.port = this.port from hport]

theorem onTFTP_keeps {this : TFTPClient} (happ : m.app_list = [.tftp this])
    (hsrc : (App.tftp this).source dev = some src) {method : AppM TFTPClient.Scope Unit}
    (h : Prog.Obeys TFTPClient.asking method) : Keeps dev src (onTFTP 0 this method m) := by
  obtain ⟨hport, hasks⟩ := h ⟨m.tftpStatics, this⟩
  cases hsrc
  refine zoom_keeps (fun _ => rfl) happ ?_ hasks
  show some (Source.mk _ ((method ⟨m.tftpStatics, this⟩).state.this.port.setWidth 16)
    (method ⟨m.tftpStatics, this⟩).state.this.port) = _
  rw [show (method ⟨m.tftpStatics, this⟩).state.this.port = this.port from hport]

theorem onDHCP_keeps {this : DHCPApplication} (happ : m.app_list = [.dhcp this])
    (hsrc : (App.dhcp this).source dev = some src) {method : AppM DHCPApplication.Scope Unit}
    (h : Prog.Obeys DHCPApplication.asking method) : Keeps dev src (onDHCP 0 this method m) := by
  obtain ⟨hport, hasks⟩ := h ⟨m.dhcpStatics, this⟩
  cases hsrc
  refine zoom_keeps (fun _ => rfl) happ ?_ hasks
  show some (Source.mk _ _ (method ⟨m.dhcpStatics, this⟩).state.this.port) = _
  rw [show (method ⟨m.dhcpStatics, this⟩).state.this.port = this.port from hport]

theorem handleData_alone (depth j : Nat) (info : Info) :
    Prog.Obeys (alone dev) (handleData dev depth j info) := by
  intro m app src happ hsrc
  unfold handleData
  rw [Prog.read_bind_run, happ]
  cases j with
  | succ j => exact ⟨app, happ, hsrc, nofun⟩
  | zero =>
  show ∃ app', _
  cases app with
  | dhcp this => exact onDHCP_keeps happ hsrc (DHCPApplication.handleData_asks dev info)
  | dns this => exact onDNS_keeps happ hsrc (DNSApplication.handleData_asks dev depth info)
  | tftp this => exact onTFTP_keeps happ hsrc (TFTPClient.handleData_asks dev info)
  | ping this => cases hsrc
  | hping this => cases hsrc
  | trace this => cases hsrc

end

/-- A call from outside on a UDP application. -/
inductive Request where
  | dhcpDiscovery
  | queryDomain
  | getFile (getBytes : JString → Bytes) (created : Bool) (filename : JString)

/-- The call on the first object, if it is of the method's class. -/
def request (dev : DataLinkLayer) (call : Request) : AppM ApplicationManager Unit := do
  let m ← Prog.read
  match call, m.app_list.head? with
  | .dhcpDiscovery, some (.dhcp this) => onDHCP 0 this (DHCPApplication.dhcpDiscovery dev)
  | .queryDomain, some (.dns this) => onDNS 0 this (DNSApplication.queryDomain dev)
  | .getFile getBytes created filename, some (.tftp this) =>
    onTFTP 0 this (TFTPClient.getFile dev getBytes created filename)
  | _, _ => return ()

theorem request_alone (dev : DataLinkLayer) (call : Request) :
    Prog.Obeys (alone dev) (request dev call) := by
  intro m app src happ hsrc
  unfold request
  rw [Prog.read_bind_run, happ]
  cases call <;> cases app
  case dhcpDiscovery.dhcp this =>
    exact onDHCP_keeps happ hsrc (DHCPApplication.dhcpDiscovery_asks dev)
  case queryDomain.dns this => exact onDNS_keeps happ hsrc (DNSApplication.queryDomain_asks dev)
  case getFile.tftp getBytes created filename this =>
    exact onTFTP_keeps happ hsrc (TFTPClient.getFile_asks dev getBytes created filename)
  all_goals exact ⟨_, happ, hsrc, nofun⟩

open ProtocolManager in
/-- `alone`, seen in the stack's log. -/
def aloneInStack (dev : DataLinkLayer) : Prog.Trace (ProtocolManager ApplicationManager) Event where
  rel s o s' := ∀ app src, s.apps.app_list = [app] → app.source dev = some src →
    ∃ app', s'.apps.app_list = [app'] ∧ app'.source dev = some src ∧
      ∀ p ∈ emitted o, Application.Asks p src.ip src.port
  refl s app src happ hsrc := ⟨app, happ, hsrc, nofun⟩
  trans {s s' s'' o o'} h h' app src happ hsrc := by
    obtain ⟨app', happ', hsrc', hasks⟩ := h app src happ hsrc
    obtain ⟨app'', happ'', hsrc'', hasks'⟩ := h' app' src happ' hsrc'
    refine ⟨app'', happ'', hsrc'', fun p hp => ?_⟩
    rw [emitted_append, List.mem_append] at hp
    exact hp.elim (hasks p) (hasks' p)

/-- What drives the exchange: calls on the application and captured frames. -/
inductive Stimulus where
  | call (request : Request)
  | frame (packet : Option Packet)

section

open ProtocolManager

variable (net : Network) (depth : Nat)

def Stimulus.input : Stimulus → Input ApplicationManager
  | call request => .app (ApplicationManager.request net.dataLinkLayer request)
  | frame packet => .receivePacket packet

theorem runApp_alone {method : AppM ApplicationManager Unit}
    (h : Prog.Obeys (alone net.dataLinkLayer) method) :
    Prog.Obeys (aloneInStack net.dataLinkLayer) (runApp net method) := by
  intro s app src happ hsrc
  obtain ⟨s', log, hrun, hperformed⟩ := runApp_run net method s
  obtain ⟨app', happ', hsrc', hasks⟩ := h s.apps app src happ hsrc
  rw [hrun]
  exact ⟨app', by rw [hperformed.apps_eq]; exact happ', hsrc', by rwa [hperformed.emitted_eq]⟩

theorem deliver_alone (j : Nat) (info : Info) : Prog.Obeys (aloneInStack net.dataLinkLayer)
    (deliver net (appLayer net.dataLinkLayer depth) j info) :=
  .bind (.emit fun _ app _ happ hsrc => ⟨app, happ, hsrc, nofun⟩) fun _ =>
    runApp_alone net (handleData_alone depth j info)

theorem step_alone (stimulus : Stimulus) : Prog.Obeys (aloneInStack net.dataLinkLayer)
    (step net (appLayer net.dataLinkLayer depth) (stimulus.input net)) := by
  cases stimulus with
  | call request => exact runApp_alone net (request_alone net.dataLinkLayer request)
  | frame packet =>
    refine receivePacket_obeys net _ ?_ ?_ (deliver_alone net depth) packet
    · exact fun s s' happs _ app src happ hsrc => ⟨app, by rw [happs]; exact happ, hsrc, nofun⟩
    · refine fun data mac s app src happ hsrc => ⟨app, happ, hsrc, ?_⟩
      show ∀ p ∈ emitted ((net.dataLinkLayer.sendData data mac ETHERTYPE_IP).map
        (Event.transmit .sendWaitingData)), _
      rw [emitted_transmit]
      exact nofun

/-- The stack and its log after one application was constructed and some stimuli. -/
def exchange (clock : Clock) (c : Construction) (stimuli : List Stimulus) :
    ProtocolManager ApplicationManager × List Event :=
  Prog.runs (step net (appLayer net.dataLinkLayer depth)) (stimuli.map (Stimulus.input net))
    (emptyTables (construct net.dataLinkLayer (initial clock) c))

end

/-! ## Replies -/

/-- A captured UDP datagram whose lengths are those of its parts. -/
structure ReplyFrame where
  frame : IPProtocolLayer.IPFrame
  udp : Bytes
  payload : Bytes
  udp_length : udp.length = 8
  body_eq : frame.body = udp ++ payload
  protocol_eq : frame.header.protocol = 17
  total_length_eq : frame.header.total_length.toNat = frame.header.bytes.length + 8 + payload.length

namespace ReplyFrame

/-- The capture library puts all headers into `header`. -/
def packet (r : ReplyFrame) : Packet :=
  ⟨ETHERTYPE_IP, r.frame.link ++ r.frame.header.bytes ++ r.udp, r.payload⟩

/-- The reply is addressed as the request of the application asks. -/
def Answers (r : ReplyFrame) (request : Bytes) : Construction → Prop
  | .dhcp _ =>
    (r.frame.header.destination_ip = [255, 255, 255, 255] ∨
      r.frame.header.destination_ip = slice r.payload 16 4) ∧
    slice r.udp 2 2 = shortBytes DHCPApplication.srcPort
  | .dns .. | .tftp .. =>
    r.frame.header.source_ip = slice request 16 4 ∧
    r.frame.header.destination_ip = slice request 12 4 ∧ slice r.udp 2 2 = slice request 20 2
  | _ => False

/-- The address the application makes replies go to is the device's, and the
frame's length is a positive `short`. -/
def Passes (r : ReplyFrame) (dev : DataLinkLayer) (c : Construction) : Prop :=
  r.frame.header.total_length.toNat < 2 ^ 15 ∧
    match c with
    | .dhcp _ => dev.deviceIPAddress = r.frame.header.destination_ip
    | .tftp _ => dev.deviceIPAddress = TFTPClient.fake_ip
    | _ => True

theorem packet_bytes (r : ReplyFrame) : r.packet.header ++ r.packet.data = r.frame.bytes := by
  simp [packet, IPProtocolLayer.IPFrame.bytes, r.body_eq]

theorem accepted_iff (r : ReplyFrame) (dev : DataLinkLayer) : r.frame.Accepted dev ↔
    dev.deviceIPAddress = r.frame.header.destination_ip ∧
      r.frame.header.total_length.toNat < 2 ^ 15 := by
  have htotal := r.total_length_eq
  have hbody : r.frame.body.length = 8 + r.payload.length := by
    rw [r.body_eq, List.length_append, r.udp_length]
  unfold IPProtocolLayer.IPFrame.Accepted
  refine and_congr_right fun _ => ?_
  rw [BitVec.toInt_eq_toNat_cond]
  split <;> constructor <;> intro h <;> omega

theorem payload_eq (r : ReplyFrame) (h : r.frame.header.total_length.toNat < 2 ^ 15) :
    r.frame.payload = r.udp ++ r.payload := by
  have htotal := r.total_length_eq
  rw [IPProtocolLayer.IPFrame.payload, BitVec.toInt_eq_toNat_of_lt (by omega), r.body_eq]
  refine List.take_of_length_le ?_
  rw [List.length_append, r.udp_length]
  omega

end ReplyFrame

/-- The source of the application a constructor call leaves alone in the list. -/
def constructedSource (dev : DataLinkLayer) : Construction → Option Bytes
  | .dhcp _ => some [0, 0, 0, 0]
  | .dns .. => some dev.deviceIPAddress
  | .tftp _ => some TFTPClient.fake_ip
  | _ => none

theorem construct_source (dev : DataLinkLayer) (clock : Clock) {c : Construction} {ip : Bytes}
    (hc : constructedSource dev c = some ip) :
    ∃ app src, (construct dev (initial clock) c).app_list = [app] ∧ app.source dev = some src ∧
      src.ip = ip ∧ src.stored = src.port.signExtend 32 ∧
      ∀ nextInt, c = .dhcp nextInt → src.port = DHCPApplication.srcPort := by
  obtain ⟨app, hlist, hported⟩ := construct_app_list dev (initial clock) c
  have hkind : ∃ src, app.source dev = some src ∧ src.ip = ip ∧
      ∀ nextInt, c = .dhcp nextInt → src.port = DHCPApplication.srcPort := by
    unfold construct at hlist
    cases c with
    | dhcp nextInt =>
      cases hc
      dsimp only at hlist
      split at hlist <;>
        (obtain rfl := List.singleton_inj.mp hlist; exact ⟨_, rfl, rfl, fun _ _ => rfl⟩)
    | dns destIP domainName nextInt nextInt' =>
      cases hc
      dsimp only at hlist
      split at hlist <;> (obtain rfl := List.singleton_inj.mp hlist; exact ⟨_, rfl, rfl, nofun⟩)
    | tftp server_ip =>
      cases hc
      obtain rfl := List.singleton_inj.mp hlist
      exact ⟨_, rfl, rfl, nofun⟩
    | ping times destIP nextInt => cases hc
    | hping times destIP nextInt => cases hc
    | trace dest_ip => cases hc
  obtain ⟨src, hsrc, hip, hdhcp⟩ := hkind
  obtain ⟨hstored, hport⟩ := App.source_stored hsrc
  exact ⟨app, src, hlist, hsrc, hip, hstored.symm.trans (hported _ hport), hdhcp⟩

section

open ProtocolManager

variable (net : Network) (depth : Nat) (clock : Clock) {c : Construction} (stimuli : List Stimulus)

/-- After any stimuli the application is alone, and every request came from its
source. -/
theorem exchange_source {ip : Bytes} (hc : constructedSource net.dataLinkLayer c = some ip) :
    ∃ app src, (exchange net depth clock c stimuli).1.apps.app_list = [app] ∧
      app.source net.dataLinkLayer = some src ∧ src.ip = ip ∧ src.stored = src.port.signExtend 32 ∧
      (∀ nextInt, c = .dhcp nextInt → src.port = DHCPApplication.srcPort) ∧
      ∀ p ∈ emitted (exchange net depth clock c stimuli).2, Application.Asks p src.ip src.port := by
  obtain ⟨app, src, happ, hsrc, hip, hstored, hdhcp⟩ := construct_source net.dataLinkLayer clock hc
  have hsteps : ∀ input ∈ stimuli.map (Stimulus.input net),
      Prog.Obeys (aloneInStack net.dataLinkLayer)
        (step net (appLayer net.dataLinkLayer depth) input) := by
    intro input hinput
    obtain ⟨stimulus, -, rfl⟩ := List.mem_map.mp hinput
    exact step_alone net depth stimulus
  have hruns := Prog.runs_obeys hsteps (emptyTables (construct net.dataLinkLayer (initial clock) c))
  obtain ⟨app', happ', hsrc', hasks⟩ := hruns app src happ hsrc
  exact ⟨app', src, happ', hsrc', hip, hstored, hdhcp, hasks⟩

/-- The lookup of the source's port finds the only application. -/
theorem getApplicationByPort_alone {m : ApplicationManager} {app : App} {src : Source}
    (happ : m.app_list = [app]) (hsrc : app.source net.dataLinkLayer = some src)
    (hstored : src.stored = src.port.signExtend 32) :
    m.getApplicationByPort (src.port.signExtend 32) = some 0 := by
  have hget : m.app_list[0]? = some app := by rw [happ]; rfl
  rw [← hstored, ← (App.source_stored hsrc).1]
  exact (getApplicationByPort_eq_iff hget).mpr fun j _ hj => absurd hj (Nat.not_lt_zero j)

/-- Where a request's own bytes ask the reply to go. -/
theorem asks_fields {p src : Bytes} {srcPort : JChar} (h : Application.Asks p src srcPort) :
    slice p 12 4 = src ∧ slice p 20 2 = shortBytes srcPort := by
  obtain ⟨dst, dstPort, payload, header, rfl, h20, -, hsrc, -⟩ := h
  refine ⟨?_, ?_⟩
  · rw [slice_append_left (by omega)]
    exact hsrc
  · rw [slice_append_right (by omega), h20, Nat.sub_self, UDPProtocolLayer.datagram,
      List.append_assoc, List.append_assoc, List.append_assoc]
    exact slice_zero_append (shortBytes_length _)

/-- A reply to a request is for the application's port, and accepted by the IP
layer exactly when it passes. -/
theorem answers_law {p : Bytes} {r : ReplyFrame} (hanswers : r.Answers p c) {ip : Bytes}
    (hc : constructedSource net.dataLinkLayer c = some ip) {port : JChar}
    (hasks : Application.Asks p ip port)
    (hdhcp : ∀ nextInt, c = .dhcp nextInt → port = DHCPApplication.srcPort) :
    slice r.udp 2 2 = shortBytes port ∧
      (r.Passes net.dataLinkLayer c ↔ r.frame.Accepted net.dataLinkLayer) := by
  obtain ⟨hsrc, hport⟩ := asks_fields hasks
  unfold ReplyFrame.Answers at hanswers
  rw [r.accepted_iff]
  unfold ReplyFrame.Passes
  cases c with
  | dhcp nextInt => exact ⟨by rw [hanswers.2, hdhcp nextInt rfl], and_comm⟩
  | dns destIP domainName nextInt nextInt' =>
    obtain ⟨-, hdst, hudp⟩ := hanswers
    cases hc
    exact ⟨hudp.trans hport, by rw [hdst, hsrc]; simp⟩
  | tftp server_ip =>
    obtain ⟨-, hdst, hudp⟩ := hanswers
    cases hc
    exact ⟨hudp.trans hport, by rw [hdst, hsrc]; exact and_comm⟩
  | ping times destIP nextInt => cases hc
  | hping times destIP nextInt => cases hc
  | trace dest_ip => cases hc

/-- A reply to any request of the exchange leads to exactly one delivery of its
payload if it passes, and to none otherwise. -/
theorem reply_delivered_iff {p : Bytes} (hp : p ∈ emitted (exchange net depth clock c stimuli).2)
    (r : ReplyFrame) (hanswers : r.Answers p c) :
    (r.Passes net.dataLinkLayer c →
      ∃ info, info .data = some (.bytes r.payload) ∧
        deliveries (step net (appLayer net.dataLinkLayer depth) (.receivePacket (some r.packet))
          (exchange net depth clock c stimuli).1).out = [(0, info)]) ∧
    (¬ r.Passes net.dataLinkLayer c →
      deliveries (step net (appLayer net.dataLinkLayer depth) (.receivePacket (some r.packet))
        (exchange net depth clock c stimuli).1).out = []) := by
  have hip : ∃ ip, constructedSource net.dataLinkLayer c = some ip := by
    cases c <;> first | exact ⟨_, rfl⟩ | exact hanswers.elim
  obtain ⟨ip, hip⟩ := hip
  obtain ⟨app, src, happ, hsrc, rfl, hstored, hdhcp, hasks⟩ :=
    exchange_source net depth clock stimuli hip
  obtain ⟨hport, hpasses⟩ := answers_law net hanswers hip (hasks p hp) hdhcp
  rw [hpasses]
  refine ⟨fun haccepted => ?_, fun haccepted => ?_⟩
  · have hpayload := r.payload_eq ((r.accepted_iff _).mp haccepted).2
    refine ⟨UDPProtocolLayer.info (r.udp ++ r.payload) r.payload, rfl, ?_⟩
    show deliveries (receivePacket net _ (some r.packet) _).out = _
    rw [(receivePacket_udp net _ rfl r.packet_bytes haccepted r.protocol_eq _).2, hpayload,
      handleUDPPacket_deliveries net _ (by
        show 8 ≤ (r.udp ++ r.payload).length
        rw [List.length_append, r.udp_length]
        omega)]
    show (Option.map _ (getApplicationByPort _ ((shortOf (slice (r.udp ++ r.payload) 2 2)).signExtend
      32))).toList = _
    rw [slice_append_left (by rw [r.udp_length]; decide), hport, shortOf_shortBytes,
      getApplicationByPort_alone net happ hsrc hstored]
    rfl
  · show deliveries (receivePacket net _ (some r.packet) _).out = _
    rw [(receivePacket_dropped net _ rfl r.packet_bytes haccepted _).2]
    rfl

/-- What the first call lets out. -/
theorem emitted_call (call : Request) :
    emitted (exchange net depth clock c [.call call]).2 = packets
      (request net.dataLinkLayer call (construct net.dataLinkLayer (initial clock) c)).out := by
  obtain ⟨s', log, hrun, hperformed⟩ := runApp_run net (request net.dataLinkLayer call)
    (emptyTables (construct net.dataLinkLayer (initial clock) c))
  have hstep : step net (appLayer net.dataLinkLayer depth) ((Stimulus.call call).input net) =
      runApp net (request net.dataLinkLayer call) := by rw [Stimulus.input, step]
  unfold exchange
  rw [List.map_cons, List.map_nil, Prog.runs_cons, Prog.runs_nil, hstep, hrun, List.append_nil]
  exact hperformed.emitted_eq

/-- The query for the name `a` to `192.168.1.1`. -/
def sampleQuery : Bytes :=
  [0x45, 0, 0, 47, 0, 7, 0, 0, 64, 17, 246, 239, 192, 168, 1, 118, 192, 168, 1, 1] ++
    [0, 9, 0, 53, 0, 27, 0, 0] ++ [0, 7, 1, 0, 0, 1, 0, 0, 0, 0, 0, 0, 1, 97, 0, 0, 1, 0, 1]

/-- The reply to it, without a question and an answer. -/
def sampleQueryReply : ReplyFrame where
  frame := ⟨List.replicate 14 0, rfl, ⟨[0x45, 0, 0, 40, 0, 0, 0, 0, 64, 17, 0, 0, 192, 168, 1, 1] ++
    [192, 168, 1, 118], by decide, by decide⟩, [0, 53, 0, 9, 0, 20, 0, 0] ++ [0, 7, 0x81, 0x80] ++
    List.replicate 8 0⟩
  udp := [0, 53, 0, 9, 0, 20, 0, 0]
  payload := [0, 7, 0x81, 0x80] ++ List.replicate 8 0
  udp_length := rfl
  body_eq := rfl
  protocol_eq := rfl
  total_length_eq := by decide

theorem reply_delivered_query : ∃ info, info .data = some (.bytes sampleQueryReply.payload) ∧
    deliveries (step sampleNetwork (appLayer sampleNetwork.dataLinkLayer 9)
      (.receivePacket (some sampleQueryReply.packet)) (exchange sampleNetwork 9 sampleClock
        (.dns (some [192, 168, 1, 1]) [97] 7 9) [.call .queryDomain]).1).out = [(0, info)] :=
  (reply_delivered_iff sampleNetwork 9 sampleClock (c := .dns (some [192, 168, 1, 1]) [97] 7 9)
    [.call .queryDomain] (p := sampleQuery) (by rw [emitted_call]; decide +kernel) sampleQueryReply ⟨rfl, rfl, rfl⟩).1 ⟨by decide, trivial⟩

/-- A read request to `192.168.1.1`, from the fixed address. -/
def sampleReadRequest : Bytes :=
  [0x45, 0, 0, 40, 0, 0, 0, 0, 64, 17, 247, 13, 192, 168, 1, 102, 192, 168, 1, 1] ++
    [237, 34, 0, 69, 0, 20, 0, 0] ++ [0, 1, 0, 110, 101, 116, 97, 115, 99, 105, 105, 0]

/-- The first block, empty, sent back to that address. -/
def sampleBlock : ReplyFrame where
  frame := ⟨List.replicate 14 0, rfl, ⟨[0x45, 0, 0, 32, 0, 0, 0, 0, 64, 17, 0, 0, 192, 168, 1, 1] ++
    [192, 168, 1, 102], by decide, by decide⟩, [0, 69, 237, 34, 0, 12, 0, 0] ++ [0, 3, 0, 1]⟩
  udp := [0, 69, 237, 34, 0, 12, 0, 0]
  payload := [0, 3, 0, 1]
  udp_length := rfl
  body_eq := rfl
  protocol_eq := rfl
  total_length_eq := by decide

/-- The filter drops it. -/
theorem read_request_unanswered :
    ¬ ∀ (net : Network) (depth : Nat) (clock : Clock) (c : Construction) (stimuli : List Stimulus)
      (p : Bytes) (r : ReplyFrame), p ∈ emitted (exchange net depth clock c stimuli).2 →
      r.Answers p c → ∃ info, info .data = some (.bytes r.payload) ∧
        deliveries (step net (appLayer net.dataLinkLayer depth) (.receivePacket (some r.packet))
          (exchange net depth clock c stimuli).1).out = [(0, info)] := by
  intro h
  obtain ⟨info, -, hdelivered⟩ := h sampleNetwork 0 sampleClock (.tftp (some [192, 168, 1, 1]))
    [.call (.getFile UTF8.getBytes true [])] sampleReadRequest sampleBlock
    (by rw [emitted_call]; decide +kernel) ⟨rfl, rfl, rfl⟩
  have hdropped : ¬ sampleBlock.frame.Accepted sampleNetwork.dataLinkLayer := by
    rw [sampleBlock.accepted_iff]
    decide
  have hstep : ∀ s, deliveries (step sampleNetwork (appLayer sampleNetwork.dataLinkLayer 0)
      (.receivePacket (some sampleBlock.packet)) s).out = [] := fun s =>
    congrArg deliveries (receivePacket_dropped sampleNetwork _ rfl sampleBlock.packet_bytes hdropped s).2
  rw [hstep] at hdelivered
  cases hdelivered

end

end ApplicationManager

end TcpIpStack
