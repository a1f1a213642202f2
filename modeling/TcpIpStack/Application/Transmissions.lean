import TcpIpStack.Application.Actions
import TcpIpStack.Application.Datagrams
import TcpIpStack.Application.Exchange
import TcpIpStack.Jpcap.Resolution

/-!
# What the stack transmits

Whatever a program does with the six classes and whatever is received, the frames
that leave are the question for the router and whole datagrams around the messages
of the program (`transmitted_messages`). Only a long name makes one of them long.
-/

namespace TcpIpStack

open TcpIpStack.Java TcpIpStack.Lib
open Application

namespace ApplicationManager

/-- What the object holds is what the program constructed it with. -/
def MadeApp (uses : List Use) : App → Prop
  | .dns this => this.Made uses
  | .dhcp this => DHCPApplication.Offered this
  | .tftp _ => ∃ server_ip, .construct (.tftp server_ip) ∈ uses
  | .ping this => this.Made uses
  | .hping this => this.Made uses
  | .trace _ => ∃ dest_ip, .construct (.trace dest_ip) ∈ uses

structure Made (dev : DataLinkLayer) (uses : List Use) (m : ApplicationManager) : Prop where
  apps : ∀ i app, object i m = some app → MadeApp uses app
  dhcpStatics : DHCPApplication.MadeStatics dev uses m.dhcpStatics

section

variable {dev : DataLinkLayer} {uses : List Use} {m : ApplicationManager}

theorem Made.set (h : Made dev uses m) {i : Nat} {app : App} {m' : ApplicationManager}
    (hlist : m'.app_list = m.app_list.set i app) (happ : MadeApp uses app)
    (hstatics : DHCPApplication.MadeStatics dev uses m'.dhcpStatics) : Made dev uses m' := by
  refine ⟨fun j app' hj => ?_, hstatics⟩
  unfold object at hj
  rw [hlist, List.getElem?_set] at hj
  split at hj
  · split at hj
    · obtain rfl := Option.some.inj hj
      exact happ
    · cases hj
  · exact h.apps j app' hj

theorem Made.add (h : Made dev uses m) {app : App} {m' : ApplicationManager}
    (hlist : m'.app_list = m.app_list) (happ : MadeApp uses app)
    (hstatics : DHCPApplication.MadeStatics dev uses m'.dhcpStatics) :
    Made dev uses (m'.addApplication app) := by
  refine ⟨fun j app' hj => ?_, hstatics⟩
  have hmem : app' ∈ m.app_list ++ [app] := by
    rw [← hlist]
    exact List.mem_of_getElem? hj
  rcases List.mem_append.mp hmem with hold | hnew
  · obtain ⟨k, hk⟩ := List.mem_iff_getElem?.mp hold
    exact h.apps k app' hk
  · obtain rfl := List.mem_singleton.mp hnew
    exact happ

theorem initial_made (clock : Clock) : Made dev uses (initial clock) :=
  ⟨nofun, nofun, nofun⟩

end

/-- What a construction or a call makes the packets of the object as long as: a name. -/
def Construction.size : Construction → Nat
  | .dns _ domainName _ _ => domainName.length + 46
  | _ => 0

def Method.size : Method → Nat
  | .getFile _ _ filename => filename.length + 40
  | _ => 0

def Use.size : Use → Nat
  | .construct c => Construction.size c
  | .invoke _ method => method.size
  | _ => 0

/-- The longest packet a program can make: no name makes one longer. -/
def limitOf (uses : List Use) : Nat := uses.foldr (fun use limit => max use.size limit) 342

theorem le_limitOf (uses : List Use) : 342 ≤ limitOf uses := by
  induction uses with
  | nil => exact Nat.le_refl _
  | cons use uses ih => exact Nat.le_trans ih (Nat.le_max_right ..)

theorem size_le_limitOf (uses : List Use) : ∀ use ∈ uses, use.size ≤ limitOf uses := by
  induction uses with
  | nil => exact nofun
  | cons use uses ih =>
    intro use' huse
    rcases List.mem_cons.mp huse with rfl | hmem
    · exact Nat.le_max_left ..
    · exact Nat.le_trans (ih use' hmem) (Nat.le_max_right ..)

theorem limitOf_le {uses : List Use} {n : Nat} (hn : 342 ≤ n) (h : ∀ use ∈ uses, use.size ≤ n) :
    limitOf uses ≤ n := by
  induction uses with
  | nil => exact hn
  | cons use uses ih =>
    exact Nat.max_le.mpr ⟨h use List.mem_cons_self, ih fun use' h' => h use' (List.mem_cons_of_mem _ h')⟩

/-- A message of the program is no longer than its longest packet. -/
theorem message_length_le {dev : DataLinkLayer} {uses : List Use} {proto : Byte} {body : Bytes}
    (h : Message dev uses proto body) : body.length + 20 ≤ limitOf uses := by
  have hlimit := le_limitOf uses
  cases h with
  | @dhcp nextInt first options huse hfirst hid hoptions =>
    have hlen : options.length ≤ 74 := by
      rcases hoptions with rfl | ⟨ip, hip, rfl⟩
      · exact (DHCPApplication.discoveryPart_length dev).le.trans (by decide)
      · exact (DHCPApplication.requestPart_length dev hip).le
    simp only [UDPProtocolLayer.datagram_length, List.length_append, hfirst,
      DHCPApplication.MAGIC_COOKIE, List.length_cons, List.length_nil]
    omega
  | @query destIP domainName nextInt nextInt' srcPort huse =>
    have hsize : domainName.length + 46 ≤ limitOf uses := size_le_limitOf uses _ huse
    have hlen := DNSApplication.queryOf_length destIP domainName nextInt nextInt'
    rw [UDPProtocolLayer.datagram_length]
    omega
  | @readRequest i getBytes created filename srcPort dstPort huse hfits =>
    have hsize : filename.length + 40 ≤ limitOf uses := size_le_limitOf uses _ huse
    rw [UDPProtocolLayer.datagram_length, TFTPClient.requestArray_length hfits]
    omega
  | acknowledgement huse =>
    simp only [UDPProtocolLayer.datagram_length, List.length_append, shortBytes_length,
      List.length_cons, List.length_nil]
    omega
  | echo huse hid htime =>
    rw [ICMPProtocolLayer.message_length, htime]
    omega
  | timestamp huse hid =>
    rw [ICMPProtocolLayer.message_length, show (ICMPProtocolLayer.timeBytes _).length = 12 from rfl]
    omega
  | probe huse =>
    rw [UDPProtocolLayer.datagram_length, List.length_replicate]
    omega

section

variable (dev : DataLinkLayer) {uses : List Use}

/-- A method of an object, seen from the manager. -/
theorem method_keeps {ρ : Type} {m : ApplicationManager} (hm : Made dev uses m) {i : Nat}
    {get : ApplicationManager → ρ} {set : ρ → ApplicationManager → ApplicationManager}
    {object' : ρ → App} {J : ρ → Prop} {method : AppM ρ Unit}
    (h : Prog.Keeps J (Speaks dev uses) (fun _ => True) method) (hget : J (get m))
    (hlist : ∀ r, (set r m).app_list = m.app_list.set i (object' r))
    (happ : ∀ r, J r → MadeApp uses (object' r))
    (hstatics : ∀ r, J r → DHCPApplication.MadeStatics dev uses (set r m).dhcpStatics) :
    Made dev uses (Prog.zoom get set method m).state ∧
      (∀ call ∈ (Prog.zoom get set method m).out, Speaks dev uses call) ∧
      Returns (Prog.zoom get set method m).result fun _ => True := by
  obtain ⟨hstate, hout⟩ := Prog.Keeps.zoom (I := Made dev uses) h hget fun r hr =>
    hm.set (hlist r) (happ r hr) (hstatics r hr)
  exact ⟨hstate, hout, fun _ _ => trivial⟩

theorem construct_made {c : Construction} (huse : .construct c ∈ uses) {m : ApplicationManager}
    (hm : Made dev uses m) : Made dev uses (construct dev m c) := by
  cases c with
  | dhcp nextInt =>
    unfold construct
    dsimp only
    split
    · next s hs =>
      obtain ⟨hstatics, hoffered⟩ := DHCPApplication.construct_made dev uses huse hs
      exact hm.add rfl hoffered hstatics
    · exact hm.add rfl nofun hm.dhcpStatics
  | dns destIP domainName nextInt nextInt' =>
    unfold construct
    dsimp only
    split
    · next this hthis =>
      refine hm.add rfl ⟨_, _, _, _, huse, ?_⟩ hm.dhcpStatics
      rw [DNSApplication.queryOf, hthis]
    · next e he =>
      refine hm.add rfl ⟨_, _, _, _, huse, ?_⟩ hm.dhcpStatics
      rw [DNSApplication.queryOf, he]
      rfl
  | tftp server_ip => exact hm.add rfl ⟨_, huse⟩ hm.dhcpStatics
  | ping times destIP nextInt =>
    unfold construct PingApp.construct
    dsimp only
    split
    · next this hthis =>
      refine hm.add rfl ⟨_, _, _, huse, fun hpos => ?_⟩ hm.dhcpStatics
      rw [if_pos hpos] at hthis
      cases hthis
      rfl
    · next e he =>
      refine hm.add rfl ⟨_, _, _, huse, fun hpos => ?_⟩ hm.dhcpStatics
      rw [if_pos hpos] at he
      cases he
  | hping times destIP nextInt =>
    unfold construct HPingApp.construct PingApp.construct
    dsimp only
    split
    · next this hthis =>
      refine hm.add rfl ⟨_, _, _, huse, fun hpos => ?_⟩ hm.dhcpStatics
      rw [if_pos hpos] at hthis
      cases hthis
      rfl
    · next e he =>
      refine hm.add rfl ⟨_, _, _, huse, fun hpos => ?_⟩ hm.dhcpStatics
      rw [if_pos hpos] at he
      cases he
  | trace dest_ip => exact hm.add rfl ⟨_, huse⟩ hm.dhcpStatics

theorem handleData_keeps (depth i : Nat) (info : Info) :
    Prog.Keeps (Made dev uses) (Speaks dev uses) (fun _ => True) (handleData dev depth i info) := by
  intro m hm
  unfold handleData
  rw [Prog.read_bind_run]
  cases happ : m.app_list[i]? with
  | none => exact ⟨hm, nofun, fun _ _ => trivial⟩
  | some app =>
  have hmade := hm.apps i app happ
  cases app with
  | dhcp this =>
    exact method_keeps dev hm (DHCPApplication.handleData_keeps dev uses info)
      ⟨hm.dhcpStatics, hmade⟩ (fun _ => rfl) (fun _ hr => hr.this) fun _ hr => hr.statics
  | dns this =>
    exact method_keeps dev hm (DNSApplication.handleData_keeps dev uses depth info) hmade
      (fun _ => rfl) (fun _ hr => hr) fun _ _ => hm.dhcpStatics
  | tftp this =>
    exact method_keeps dev hm (TFTPClient.handleData_keeps dev uses info hmade.choose_spec) trivial
      (fun _ => rfl) (fun _ _ => hmade) fun _ _ => hm.dhcpStatics
  | ping this =>
    exact method_keeps dev hm (PingApp.handleData_keeps dev uses m.clock info) hmade
      (fun _ => rfl) (fun _ hr => hr) fun _ _ => hm.dhcpStatics
  | hping this =>
    exact method_keeps dev hm (HPingApp.handleData_keeps dev uses info) hmade
      (fun _ => rfl) (fun _ hr => hr) fun _ _ => hm.dhcpStatics
  | trace this =>
    exact method_keeps dev hm (TraceRoute.handleData_keeps dev hmade.choose_spec i info) trivial
      (fun _ => rfl) (fun _ _ => hmade) fun _ _ => hm.dhcpStatics

theorem invoke_keeps {i : Nat} {method : Method} (huse : .invoke i method ∈ uses) :
    Prog.Keeps (Made dev uses) (Speaks dev uses) (fun _ => True) (invoke dev i method) := by
  intro m hm
  unfold invoke
  rw [Prog.read_bind_run]
  have hnothing : Made dev uses m ∧ (∀ call ∈ ([] : List Call), Speaks dev uses call) ∧
      Returns (.ok () : Except Throwable Unit) fun _ => True := ⟨hm, nofun, fun _ _ => trivial⟩
  cases happ : m.app_list[i]? with
  | none => cases method <;> exact hnothing
  | some app =>
  have hmade := hm.apps i app happ
  cases method with
  | dhcpDiscovery =>
    cases app with
    | dhcp this =>
      exact method_keeps dev hm (DHCPApplication.dhcpDiscovery_keeps dev uses)
        ⟨hm.dhcpStatics, hmade⟩ (fun _ => rfl) (fun _ hr => hr.this) fun _ hr => hr.statics
    | _ => exact hnothing
  | queryDomain =>
    cases app with
    | dns this =>
      exact method_keeps dev hm (DNSApplication.queryDomain_keeps dev uses) hmade
        (fun _ => rfl) (fun _ hr => hr) fun _ _ => hm.dhcpStatics
    | _ => exact hnothing
  | getFile getBytes created filename =>
    cases app with
    | tftp this =>
      exact method_keeps dev hm (TFTPClient.getFile_keeps dev uses huse) trivial
        (fun _ => rfl) (fun _ _ => hmade) fun _ _ => hm.dhcpStatics
    | _ => exact hnothing
  | startPing clock =>
    cases app with
    | ping this =>
      exact method_keeps dev hm (PingApp.startPing_keeps dev uses
        (PingApp.createICMPHeader_keeps dev uses) clock) hmade (fun _ => rfl) (fun _ hr => hr)
        fun _ _ => hm.dhcpStatics
    | hping this =>
      exact method_keeps dev hm (PingApp.startPing_keeps dev uses
        (HPingApp.createICMPHeader_keeps dev uses) clock) hmade (fun _ => rfl) (fun _ hr => hr)
        fun _ _ => hm.dhcpStatics
    | _ => exact hnothing
  | startTraceRoute =>
    cases app with
    | trace this =>
      exact method_keeps dev hm (TraceRoute.startTraceRoute_keeps dev hmade.choose_spec i) trivial
        (fun _ => rfl) (fun _ _ => hmade) fun _ _ => hm.dhcpStatics
    | _ => exact hnothing

end

end ApplicationManager

open ApplicationManager

namespace ProtocolManager

/-- The frames handed to the card. -/
def transmitted (log : List Event) : List Frame :=
  log.filterMap fun
    | .transmit _ frame => some frame
    | _ => none

theorem mem_transmitted {log : List Event} {frame : Frame} :
    frame ∈ transmitted log ↔ ∃ sender, .transmit sender frame ∈ log := by
  rw [transmitted, List.mem_filterMap]
  constructor
  · rintro ⟨event, hevent, hframe⟩
    cases event with
    | transmit sender frame' =>
      obtain rfl := Option.some.inj hframe
      exact ⟨sender, hevent⟩
    | _ => cases hframe
  · rintro ⟨sender, hevent⟩
    exact ⟨_, hevent, rfl⟩

/-- If nothing is handed in, what goes out is the first question and what is broadcast. -/
theorem transmitted_unhanded {σ : Type} (net : Network) (apps : AppLayer σ) (objects : σ)
    (is : List (Input σ)) (h : handed (log net apps objects is) = []) :
    transmitted (log net apps objects is) =
      questionFrame net :: (emitted (log net apps objects is)).map (ipFrame net broadcast) := by
  have hsub : handed (log net apps objects (unanswered net is)) = [] := by
    have hsplit : unanswered net is ++ is.dropWhile (fun i => (answer net i).isNone) = is :=
      List.takeWhile_append_dropWhile
    rw [← hsplit, log_append, handed_append] at h
    exact (List.append_eq_nil_iff.mp h).1
  have hquestions := questions_log net apps objects is
  have haddressed := fun event => @log_addressed _ net apps objects is event
  have hanswered := fun frame => @sentFrames_answered _ net apps objects is frame
  rw [hsub] at hquestions
  rw [h] at hanswered
  rw [log_eq_cons] at h hquestions haddressed hanswered ⊢
  generalize (Prog.runs (step net apps) is (emptyTables objects)).2 = events at *
  have hbroadcast : ∀ sender frame, .transmit sender frame ∈ events →
      sender = .broadCast ∧ frame = ipFrame net broadcast frame.data := by
    intro sender frame hevent
    have hmem := List.mem_cons_of_mem (.transmit .prepareRouterMac (questionFrame net)) hevent
    have hnot : frame ∉ sentFrames (.transmit .prepareRouterMac (questionFrame net) :: events) :=
      fun hsent => by
        obtain ⟨-, ip, hnone⟩ := hanswered frame hsent
        cases hnone
    cases sender with
    | prepareRouterMac =>
      -- no packet, no further question
      have hnone : questions events = [] := (List.cons.inj hquestions).2
      have hasked : frame ∈ questions events := List.mem_filterMap.mpr ⟨_, hevent, rfl⟩
      rw [hnone] at hasked
      cases hasked
    | broadCast =>
      obtain ⟨data, rfl⟩ := haddressed _ hmem
      exact ⟨rfl, rfl⟩
    | sendData => exact (hnot (List.mem_filterMap.mpr ⟨_, hmem, rfl⟩)).elim
    | sendWaitingData => exact (hnot (List.mem_filterMap.mpr ⟨_, hmem, rfl⟩)).elim
  replace h : handed events = [] := h
  refine congrArg (questionFrame net :: ·) ?_
  clear hquestions haddressed hanswered
  induction events with
  | nil => rfl
  | cons event events ih =>
    have hrest := fun sender frame hevent => hbroadcast sender frame (List.mem_cons_of_mem _ hevent)
    cases event with
    | handed data ip => cases h
    | print report => exact ih hrest h
    | delivered app info => exact ih hrest h
    | transmit sender frame =>
      obtain ⟨rfl, hframe⟩ := hbroadcast _ _ List.mem_cons_self
      exact congrArg₂ (· :: ·) hframe (ih hrest h)

section

variable (net : Network) (depth : Nat) (uses : List Use)

/-- The runs that keep the objects as they were made and let out the program's messages. -/
def sending : Prog.Trace (ProtocolManager ApplicationManager) Event where
  rel s o s' := Made net.dataLinkLayer uses s.apps → Made net.dataLinkLayer uses s'.apps ∧
    ∀ p ∈ emitted o, Carries net.dataLinkLayer (Message net.dataLinkLayer uses) p
  refl _ hs := ⟨hs, nofun⟩
  trans h h' hs := by
    obtain ⟨hmade, hout⟩ := h hs
    obtain ⟨hmade', hout'⟩ := h' hmade
    refine ⟨hmade', fun p hp => ?_⟩
    rw [emitted_append] at hp
    exact (List.mem_append.mp hp).elim (hout p) (hout' p)

variable {uses}

theorem runApp_sending {method : AppM ApplicationManager Unit}
    (h : Prog.Keeps (Made net.dataLinkLayer uses) (Speaks net.dataLinkLayer uses) (fun _ => True)
      method) : Prog.Obeys (sending net uses) (runApp net method) := by
  intro s hs
  obtain ⟨s', log, hrun, hperformed⟩ := runApp_run net method s
  obtain ⟨hmade, hsends, -⟩ := h s.apps hs
  rw [hrun]
  refine ⟨by rw [hperformed.apps_eq]; exact hmade, fun p hp => ?_⟩
  rw [hperformed.emitted_eq] at hp
  obtain ⟨call, hcall, hp⟩ := mem_packets.mp hp
  exact hsends call hcall p hp

theorem prepareRouterMac_sending :
    Prog.Obeys (sending net uses) (prepareRouterMac net : StackM ApplicationManager Unit) := by
  intro s hs
  rw [prepareRouterMac_eq]
  exact ⟨hs, nofun⟩

theorem step_sending {use : Use} (huse : use ∈ uses) : Prog.Obeys (sending net uses)
    (step net (appLayer net.dataLinkLayer depth) (use.input net.dataLinkLayer)) := by
  cases use with
  | construct c =>
    exact runApp_sending net (.modify fun m hm => construct_made net.dataLinkLayer huse hm)
  | invoke i method => exact runApp_sending net (invoke_keeps net.dataLinkLayer huse)
  | tick clock => exact runApp_sending net (.modify fun m hm => ⟨hm.apps, hm.dhcpStatics⟩)
  | receivePacket packet =>
    refine receivePacket_obeys net _ (T := sending net uses) (fun s s' happs _ hs => ?_)
      (fun data mac s hs => ⟨hs, ?_⟩) (fun app info => ?_) packet
    · exact ⟨by rw [happs]; exact hs, nofun⟩
    · have hnone := emitted_transmit net .sendWaitingData data mac ETHERTYPE_IP
      show ∀ p ∈ emitted ((net.dataLinkLayer.sendData data mac ETHERTYPE_IP).map _), _
      rw [hnone]
      exact nofun
    · exact .bind (.emit fun s hs => ⟨hs, nofun⟩) fun _ =>
        runApp_sending net (handleData_keeps net.dataLinkLayer depth app info)

theorem emitted_carries (clock : Clock) {p : Bytes}
    (hp : p ∈ emitted (usedLog net depth clock uses)) :
    Carries net.dataLinkLayer (Message net.dataLinkLayer uses) p := by
  refine (log_obeys net _ _ (T := sending net uses) (prepareRouterMac_sending net)
    (fun input hinput => ?_) (initial_made clock)).2 p hp
  obtain ⟨use, huse, rfl⟩ := List.mem_map.mp hinput
  exact step_sending net depth huse

end

/-- What a transmitted frame is, but for the question: a whole datagram from the device's card
to everyone's or to one that answered for the router, around a message of the program. -/
structure Transmission (net : Network) (uses : List Use) (frame : Frame) : Prop where
  frametype : frame.frametype = ETHERTYPE_IP
  src_mac : frame.src_mac = net.dataLinkLayer.macAddress
  dst_mac : frame.dst_mac = broadcast ∨
    ∃ use ∈ uses, answer net (use.input net.dataLinkLayer) = some frame.dst_mac
  carries : Carries net.dataLinkLayer (Message net.dataLinkLayer uses) frame.data
  length_le : frame.data.length ≤ limitOf uses

theorem transmission_of_mem {net : Network} {depth : Nat} {clock : Clock} {uses : List Use}
    {frame : Frame} (h : frame ∈ transmitted (usedLog net depth clock uses)) :
    frame = questionFrame net ∨ Transmission net uses frame := by
  obtain ⟨sender, hevent⟩ := mem_transmitted.mp h
  rcases log_transmit net _ (initial clock) _ hevent with rfl | ⟨data, hdata, hframe⟩
  · exact .inl rfl
  have hcarries := emitted_carries net depth clock hdata
  have hlen : data.length ≤ limitOf uses := by
    obtain ⟨header, body, src, dst, proto, rfl, hfor, -, -, hmessage⟩ := hcarries
    rw [List.length_append, hfor.length, Nat.add_comm]
    exact message_length_le hmessage
  rcases hframe with rfl | ⟨input, hinput, mac, hanswer, rfl⟩
  · exact .inr ⟨rfl, rfl, .inl rfl, hcarries, hlen⟩
  · obtain ⟨use, huse, rfl⟩ := List.mem_map.mp hinput
    exact .inr ⟨rfl, rfl, .inr ⟨use, huse, hanswer⟩, hcarries, hlen⟩

/-- A route is traced to a host of the same network. -/
def traceUses : List Use :=
  [.receivePacket (some sampleRouterReply), .construct (.trace (some [192, 168, 1, 50])),
    .invoke 0 .startTraceRoute]

/-- The header of its first probe. -/
def probeHeader : IPProtocolLayer.Header where
  bytes := [0x45, 0, 0, 52, 0, 0, 0, 0, 1, 17, 53, 193, 192, 168, 1, 118, 192, 168, 1, 50]
  min_length := by decide
  length_eq := by decide

/-- The first probe. -/
def probeFrame : Frame :=
  ipFrame sampleNetwork [0x10, 0x20, 0x30, 0x40, 0x50, 0x60]
    (probeHeader.bytes ++ UDPProtocolLayer.datagram 0 33434 (List.replicate 24 0))

end ProtocolManager

end TcpIpStack
