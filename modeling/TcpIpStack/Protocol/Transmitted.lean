import TcpIpStack.Protocol.ARPCache
import TcpIpStack.Protocol.ARPCodec
import TcpIpStack.Protocol.AppCalls
import TcpIpStack.Protocol.Waiting

/-!
# What goes out

Every frame the manager hands to the card is the one question it asks, or an IP
packet to all cards or to a card that has answered for the router. The packets
themselves are those the applications handed in.
-/

namespace TcpIpStack.ProtocolManager

open TcpIpStack.Java TcpIpStack.Lib

/-- The question for the router's card. -/
def question (net : Network) : ARPProtocolLayer.Message :=
  ARPProtocolLayer.request net.dataLinkLayer net.routerAddress

def questionFrame (net : Network) : Frame :=
  ⟨broadcast, net.dataLinkLayer.macAddress, ETHERTYPE_ARP, (question net).bytes⟩

/-- What a sender lets out. -/
def Addressed (net : Network) : Event → Prop
  | .transmit .prepareRouterMac frame => frame = questionFrame net
  | .transmit .broadCast frame => ∃ data, frame = ipFrame net broadcast data
  | .transmit _ frame => ∃ mac data, frame = ipFrame net mac data
  | _ => True

section

variable {σ : Type} (net : Network) (apps : AppLayer σ)

/-- The runs in which every frame is addressed. -/
def addressed : Prog.Trace (ProtocolManager σ) Event :=
  .emits (fun _ => ()) fun _ => Addressed net

theorem prepareRouterMac_eq (s : ProtocolManager σ) : prepareRouterMac net s =
    ⟨.ok (), s, [.transmit .prepareRouterMac (questionFrame net)]⟩ := by
  have hcreate := @ARPProtocolLayer.createHeader_eq net.dataLinkLayer
    (Info.empty.put .sender_ip (.bytes net.routerAddress.getAddress)) net.routerAddress rfl
  rw [prepareRouterMac, hcreate]
  rfl

theorem transmit_addressed (sender : Sender) (hsender : sender ≠ .prepareRouterMac) {mac : Bytes}
    (hmac : sender = .broadCast → mac = broadcast) (data : Option Bytes) :
    Prog.Obeys (addressed net) (transmit net sender data mac ETHERTYPE_IP : StackM σ Unit) := by
  refine fun s => ⟨rfl, fun event hevent => ?_⟩
  obtain ⟨frame, hframe, rfl⟩ := List.mem_map.mp hevent
  cases data with
  | none => cases hframe
  | some data =>
  obtain rfl := List.mem_singleton.mp hframe
  cases sender with
  | prepareRouterMac => exact absurd rfl hsender
  | broadCast =>
    obtain rfl := hmac rfl
    exact ⟨data, rfl⟩
  | sendData => exact ⟨mac, data, rfl⟩
  | sendWaitingData => exact ⟨mac, data, rfl⟩

theorem prepareRouterMac_addressed :
    Prog.Obeys (addressed net) (prepareRouterMac net : StackM σ Unit) := by
  intro s
  rw [prepareRouterMac_eq]
  refine ⟨rfl, fun event hevent => ?_⟩
  obtain rfl := List.mem_singleton.mp hevent
  rfl

theorem sendData_addressed (data ip : Option Bytes) :
    Prog.Obeys (addressed net) (sendData net data ip : StackM σ Unit) := by
  refine .bind (.emit fun _ => ⟨rfl, ?_⟩) fun _ => .bind .read fun s => ?_
  · intro event hevent
    obtain rfl := List.mem_singleton.mp hevent
    trivial
  dsimp only
  split
  · exact .bind (prepareRouterMac_addressed net) fun _ => .modify fun _ => ⟨rfl, nofun⟩
  · exact transmit_addressed net .sendData nofun nofun data

theorem perform_addressed (call : Call) :
    Prog.Obeys (addressed net) (perform net call : StackM σ Unit) := by
  cases call with
  | sendData data ip => exact .catching _ (sendData_addressed net data ip)
  | broadCast data => exact transmit_addressed net .broadCast nofun (fun _ => rfl) data
  | registToReceiveICMPPacket receiver => exact .modify fun _ => ⟨rfl, nofun⟩
  | print report =>
    refine .emit fun _ => ⟨rfl, fun event hevent => ?_⟩
    obtain rfl := List.mem_singleton.mp hevent
    trivial

theorem runApp_addressed {α : Type} (m : AppM σ α) : Prog.Obeys (addressed net) (runApp net m) :=
  .interpret (fun _ _ => ⟨rfl, nofun⟩) (perform_addressed net)

theorem step_addressed (i : Input σ) : Prog.Obeys (addressed net) (step net apps i) := by
  cases i with
  | app method => exact runApp_addressed net method
  | receivePacket packet =>
    refine receivePacket_obeys net apps (T := addressed net) (fun _ _ _ _ => ⟨rfl, nofun⟩)
      (fun data mac => transmit_addressed net .sendWaitingData nofun nofun data)
      (fun app info => ?_) packet
    refine .bind (.emit fun _ => ⟨rfl, fun event hevent => ?_⟩) fun _ => runApp_addressed net _
    obtain rfl := List.mem_singleton.mp hevent
    trivial

variable (objects : σ)

theorem log_addressed (is : List (Input σ)) {event : Event}
    (h : event ∈ log net apps objects is) : Addressed net event :=
  (log_obeys net apps objects (T := addressed net) (prepareRouterMac_addressed net)
    (fun i _ => step_addressed net apps i)).2 event h

/-- A frame a packet was sent in went to a card that has answered for the router, and
holds a packet that was handed in. -/
theorem sentFrames_answered (is : List (Input σ)) {frame : Frame}
    (h : frame ∈ sentFrames (log net apps objects is)) :
    (∃ i ∈ is, answer net i = some frame.dst_mac) ∧
      ∃ ip, (some frame.data, ip) ∈ handed (log net apps objects is) := by
  constructor
  · induction is using List.reverseRecOn with
    | nil =>
      rw [(log_nil_silent net apps objects).2] at h
      cases h
    | append_singleton is i ih =>
      rw [log_snoc, sentFrames_append, List.mem_append] at h
      rcases h with h | h
      · obtain ⟨j, hj, hanswer⟩ := ih h
        exact ⟨j, List.mem_append_left _ hj, hanswer⟩
      · have hmac := (step_dst_mac net apps objects is i h).2.1
        rw [getRouterMac_after] at hmac
        have hmem := List.mem_of_getLast? hmac
        obtain ⟨j, hj, hanswer⟩ := List.mem_filterMap.mp hmem
        exact ⟨j, hj, hanswer⟩
  · have hle := sent_le_handed net apps objects is frame.data
    have hsent : 0 < sentCount (log net apps objects is) frame.data :=
      List.countP_pos_iff.mpr ⟨frame, h, by simp⟩
    obtain ⟨⟨data, ip⟩, hmem, hdata⟩ := List.countP_pos_iff.mp
      (show 0 < handedCount (log net apps objects is) frame.data by omega)
    obtain rfl : data = some frame.data := by simpa using hdata
    exact ⟨ip, hmem⟩

/-- An answer tells a whole address. -/
theorem answer_length {i : Input σ} {mac : Bytes} (h : answer net i = some mac) : mac.length = 6 := by
  unfold answer at h
  split at h
  · next packet =>
    unfold frameAnswer at h
    split at h
    · next hreply =>
      cases h
      have hlen := hreply.2.1.length_le
      exact slice_length (by show 22 + 6 ≤ _; omega)
    · cases h
  · cases h

/-- Every frame of a run. -/
theorem log_transmit (is : List (Input σ)) {sender : Sender} {frame : Frame}
    (h : .transmit sender frame ∈ log net apps objects is) :
    frame = questionFrame net ∨
      ∃ data ∈ emitted (log net apps objects is), frame = ipFrame net broadcast data ∨
        ∃ i ∈ is, ∃ mac, answer net i = some mac ∧ frame = ipFrame net mac data := by
  have haddressed := log_addressed net apps objects is h
  have hsent : frame ∈ sentFrames (log net apps objects is) →
      (∃ mac data, frame = ipFrame net mac data) →
      ∃ data ∈ emitted (log net apps objects is), frame = ipFrame net broadcast data ∨
        ∃ i ∈ is, ∃ mac, answer net i = some mac ∧ frame = ipFrame net mac data := by
    rintro hframe ⟨mac, data, rfl⟩
    obtain ⟨⟨i, hi, hanswer⟩, ip, hhanded⟩ := sentFrames_answered net apps objects is hframe
    obtain ⟨event, hevent, hpair⟩ := List.mem_filterMap.mp hhanded
    refine ⟨data, List.mem_filterMap.mpr ⟨event, hevent, ?_⟩, .inr ⟨i, hi, mac, hanswer, rfl⟩⟩
    cases event with
    | handed d ip' =>
      cases hpair
      rfl
    | _ => cases hpair
  cases sender with
  | prepareRouterMac => exact .inl haddressed
  | broadCast =>
    obtain ⟨data, rfl⟩ := haddressed
    exact .inr ⟨data, List.mem_filterMap.mpr ⟨_, h, rfl⟩, .inl rfl⟩
  | sendData => exact .inr (hsent (List.mem_filterMap.mpr ⟨_, h, rfl⟩) haddressed)
  | sendWaitingData => exact .inr (hsent (List.mem_filterMap.mpr ⟨_, h, rfl⟩) haddressed)

/-! ## Questions -/

/-- The frames that ask. -/
def questions (log : List Event) : List Frame :=
  log.filterMap fun
    | .transmit .prepareRouterMac frame => some frame
    | _ => none

@[simp] theorem questions_append (o o' : List Event) :
    questions (o ++ o') = questions o ++ questions o' := List.filterMap_append

/-- The question for each packet, where the address is not known. -/
def asked (known : Option Bytes) (ps : List Handed) : List Frame :=
  match known with
  | none => ps.map fun _ => questionFrame net
  | some _ => []

theorem asked_append (known : Option Bytes) (ps qs : List Handed) :
    asked net known (ps ++ qs) = asked net known ps ++ asked net known qs := by
  cases known with
  | none => exact List.map_append
  | some mac => rfl

/-- The runs that ask for what is handed in and leave the address as it is. -/
def asking : Prog.Trace (ProtocolManager σ) Event where
  rel s o s' := getRouterMac net s' = getRouterMac net s ∧
    questions o = asked net (getRouterMac net s) (handed o)
  refl s := ⟨rfl, by cases getRouterMac net s <;> rfl⟩
  trans := by
    rintro s s' s'' o o' ⟨hmac, h⟩ ⟨hmac', h'⟩
    rw [hmac] at hmac' h'
    exact ⟨hmac', by rw [questions_append, handed_append, asked_append, h, h']⟩

theorem asking_silent {s s' : ProtocolManager σ} {o : List Event}
    (hcache : s'.ipToMacTable = s.ipToMacTable) (hhanded : handed o = [])
    (hquestions : questions o = []) : (asking net).rel s o s' := by
  refine ⟨by rw [getRouterMac, hcache, getRouterMac], ?_⟩
  rw [hquestions, hhanded]
  cases getRouterMac net s <;> rfl

theorem transmit_asking (sender : Sender) (hsender : sender ≠ .prepareRouterMac)
    (data : Option Bytes) (mac : Bytes) :
    Prog.Obeys (asking net) (transmit net sender data mac ETHERTYPE_IP : StackM σ Unit) := by
  refine fun s => asking_silent net rfl (handed_transmit ..) ?_
  show questions ((net.dataLinkLayer.sendData data mac ETHERTYPE_IP).map (Event.transmit sender)) = []
  cases data with
  | none => rfl
  | some data =>
    cases sender with
    | prepareRouterMac => exact absurd rfl hsender
    | _ => rfl

theorem sendData_asking (data ip : Option Bytes) :
    Prog.Obeys (asking net) (sendData net data ip : StackM σ Unit) := by
  intro s
  have hquiet := (sendData_quiet net data ip s).1
  refine ⟨hquiet, ?_⟩
  cases hm : getRouterMac net s with
  | none =>
    have hsend : sendData net data ip s = ⟨.ok (),
        { s with dataWaitToSend := s.dataWaitToSend.put (Arrays.toString ip) data },
        [.handed data ip, .transmit .prepareRouterMac (questionFrame net)]⟩ := by
      refine Prog.bind_run_ok (Prog.emit_run ..) ?_
      rw [Prog.read_bind_run, hm]
      exact Prog.bind_run_ok (prepareRouterMac_eq net s) rfl
    rw [hsend]
    rfl
  | some mac =>
    have hsend : sendData net data ip s = ⟨.ok (), s, .handed data ip ::
        (net.dataLinkLayer.sendData data mac ETHERTYPE_IP).map (Event.transmit .sendData)⟩ := by
      refine Prog.bind_run_ok (Prog.emit_run ..) ?_
      rw [Prog.read_bind_run, hm]
      rfl
    rw [hsend]
    cases data <;> rfl

theorem perform_asking (call : Call) :
    Prog.Obeys (asking net) (perform net call : StackM σ Unit) := by
  cases call with
  | sendData data ip => exact .catching _ (sendData_asking net data ip)
  | broadCast data => exact transmit_asking net .broadCast nofun data broadcast
  | registToReceiveICMPPacket receiver =>
    refine .modify fun s => asking_silent net ?_ rfl rfl
    split <;> rfl
  | print report => exact .emit fun s => asking_silent net rfl rfl rfl

theorem runApp_asking {α : Type} (m : AppM σ α) : Prog.Obeys (asking net) (runApp net m) :=
  .interpret (fun _ _ => asking_silent net rfl rfl rfl) (perform_asking net)

/-- Each packet a step hands in is asked for, where the address is not known. -/
theorem step_questions (i : Input σ) (s : ProtocolManager σ) :
    questions (step net apps i s).out =
      asked net (getRouterMac net s) (handed (step net apps i s).out) := by
  have hdeliver : ∀ app info, Prog.Obeys (asking net) (deliver net apps app info) := fun app info =>
    .bind (.emit fun s => asking_silent net rfl rfl rfl) fun _ => runApp_asking net _
  cases i with
  | app method => exact (runApp_asking net method s).2
  | receivePacket packet =>
    cases packet with
    | none => exact ((asking net).refl s).2
    | some packet =>
    show questions (receivePacket net apps (some packet) s).out = _
    by_cases harp : packet.frametype = ETHERTYPE_ARP
    · -- an ARP frame hands nothing in
      let T : Prog.Trace (ProtocolManager σ) Event :=
        .emits (fun _ => ()) fun _ event => questions [event] = [] ∧ handed [event] = []
      have hsend : ∀ data mac, Prog.Obeys T
          (transmit net .sendWaitingData data mac ETHERTYPE_IP : StackM σ Unit) :=
        fun data mac s => ⟨rfl, fun event hevent => by
          obtain ⟨frame, -, rfl⟩ := List.mem_map.mp hevent
          exact ⟨rfl, rfl⟩⟩
      have hobeys := (handleARPPacket_obeys net (T := T) (fun _ _ _ _ => ⟨rfl, nofun⟩) hsend packet s).2
      obtain ⟨-, hout⟩ := Prog.bind_pure_run (handleARPPacket net packet) () s
      have hrun : (step net apps (.receivePacket (some packet)) s).out =
          (handleARPPacket net packet s).out := by
        show (receivePacket net apps (some packet) s).out = _
        rw [receivePacket_arp net apps harp, hout]
      have hquestions : questions (handleARPPacket net packet s).out = [] :=
        List.filterMap_eq_nil_iff.mpr fun event hevent => by
          have h := (hobeys event hevent).1
          simpa [questions] using h
      have hhanded : handed (handleARPPacket net packet s).out = [] :=
        List.filterMap_eq_nil_iff.mpr fun event hevent => by
          have h := (hobeys event hevent).2
          simpa [handed] using h
      show questions (step net apps (.receivePacket (some packet)) s).out = _
      rw [hrun, hquestions, hhanded]
      cases getRouterMac net s <;> rfl
    · have hobeys : Prog.Obeys (asking net) (receivePacket net apps (some packet)) := by
        rw [receivePacket_other net apps harp]
        split
        · exact .catching _ (handleIPPacket_obeys net apps hdeliver packet)
        · exact .pure ()
      exact (hobeys s).2

theorem unanswered_append {is : List (Input σ)} (h : ∀ i ∈ is, answer net i = none)
    (js : List (Input σ)) : unanswered net (is ++ js) = is ++ unanswered net js :=
  List.takeWhile_append_of_pos fun i hi => by rw [h i hi]; rfl

theorem unanswered_append_of_answered {is : List (Input σ)} {i : Input σ} {mac : Bytes}
    (hmem : i ∈ is) (hi : answer net i = some mac) (js : List (Input σ)) :
    unanswered net (is ++ js) = unanswered net is := by
  have hlen : (unanswered net is).length ≠ is.length := fun hlen => by
    have hself : unanswered net is = is := (List.takeWhile_prefix _).eq_of_length hlen
    rw [← hself] at hmem
    have hnone := List.mem_takeWhile_imp hmem
    rw [hi] at hnone
    cases hnone
  exact List.takeWhile_append.trans (if_neg hlen)

/-- The log starts with the question that `getInstance` asks. -/
theorem log_eq_cons (is : List (Input σ)) : log net apps objects is =
    .transmit .prepareRouterMac (questionFrame net) ::
      (Prog.runs (step net apps) is (emptyTables objects)).2 := by
  have hask : getInstance net objects =
      ⟨.ok (), emptyTables objects, [.transmit .prepareRouterMac (questionFrame net)]⟩ :=
    Prog.catching_run_ok (prepareRouterMac_eq net _)
  rw [log, hask]
  rfl

theorem questions_log (is : List (Input σ)) : questions (log net apps objects is) =
    questionFrame net ::
      (handed (log net apps objects (unanswered net is))).map fun _ => questionFrame net := by
  induction is using List.reverseRecOn with
  | nil =>
    rw [log_eq_cons]
    show _ = questionFrame net :: (handed (log net apps objects [])).map _
    rw [(log_nil_silent net apps objects).1]
    rfl
  | append_singleton is i ih =>
    have hspec := step_spec net apps (settled net apps objects is) i
    rw [log_snoc, questions_append, ih, step_questions, getRouterMac_after]
    by_cases hall : ∀ j ∈ is, answer net j = none
    · have hnone : is.filterMap (answer net) = [] := List.filterMap_eq_nil_iff.mpr hall
      have hpre : unanswered net is = is := by
        rw [← List.append_nil is, unanswered_append net hall]
        rfl
      rw [hnone, hpre, unanswered_append net hall, unanswered]
      cases hi : answer net i with
      | none =>
        rw [List.takeWhile_cons_of_pos (by rw [hi]; rfl), List.takeWhile_nil, log_snoc,
          handed_append, List.map_append]
        rfl
      | some mac =>
        rw [hi] at hspec
        rw [List.takeWhile_cons_of_neg (by rw [hi]; exact Bool.false_ne_true), hspec.2.1,
          List.append_nil]
        exact List.append_nil _
    · push Not at hall
      obtain ⟨j, hj, hanswer⟩ := hall
      obtain ⟨mac, hmac⟩ := Option.ne_none_iff_exists'.mp hanswer
      have hne : is.filterMap (answer net) ≠ [] :=
        List.ne_nil_of_mem (List.mem_filterMap.mpr ⟨j, hj, hmac⟩)
      rw [unanswered_append_of_answered net hj hmac, List.getLast?_eq_getLast_of_ne_nil hne]
      exact List.append_nil _

/-- The question is asked once by `getInstance`, then for every packet handed in before the
first answer, and for no other. -/
theorem asked_until_answered (is : List (Input σ)) : questions (log net apps objects is) =
    questionFrame net ::
      (handed (log net apps objects (unanswered net is))).map fun _ => questionFrame net :=
  questions_log net apps objects is

end

end TcpIpStack.ProtocolManager
