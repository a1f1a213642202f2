import TcpIpStack.Application.Alone
import TcpIpStack.Application.DHCPMessages
import TcpIpStack.Application.TFTPMessages
import TcpIpStack.Lib.Keeps

/-!
# Sessions over the stack

What a class's own methods do by themselves they do in any program: the run of the
object alone is the run of its methods on its fields.
-/

namespace TcpIpStack

open TcpIpStack.Java TcpIpStack.Lib

namespace ApplicationManager

section

variable (dev : DataLinkLayer) (depth : Nat)

/-- What an action means for the fields of the only object. -/
def turnOf {ρ : Type} (onInvoke : Method → AppM ρ Unit) (onDeliver : Info → AppM ρ Unit) :
    Action → AppM ρ Unit
  | .invoke 0 method => onInvoke method
  | .deliver 0 info => onDeliver info
  | _ => return ()

/-- The calls a `DHCPApplication` takes. -/
def dhcpCall : Method → AppM DHCPApplication.Scope Unit
  | .dhcpDiscovery => DHCPApplication.dhcpDiscovery dev
  | _ => return ()

/-- The calls a `TFTPClient` takes. -/
def tftpCall : Method → AppM TFTPClient.Scope Unit
  | .getFile getBytes created filename => TFTPClient.getFile dev getBytes created filename
  | _ => return ()

/-- The only object is a `DHCPApplication` with these fields. -/
def OnlyDHCP (m : ApplicationManager) (s : DHCPApplication.Scope) : Prop :=
  m.app_list = [.dhcp s.this] ∧ m.dhcpStatics = s.statics

def OnlyTFTP (m : ApplicationManager) (s : TFTPClient.Scope) : Prop :=
  m.app_list = [.tftp s.this] ∧ m.tftpStatics = s.statics

theorem OnlyDHCP.method {m : ApplicationManager} {s : DHCPApplication.Scope} (h : OnlyDHCP m s)
    (method : AppM DHCPApplication.Scope Unit) :
    OnlyDHCP (onDHCP 0 s.this method m).state (method s).state ∧
      (onDHCP 0 s.this method m).out.map id = (method s).out := by
  obtain ⟨hlist, hstatics⟩ := h
  have hfields : (⟨m.dhcpStatics, s.this⟩ : DHCPApplication.Scope) = s := by rw [hstatics]
  unfold onDHCP Prog.zoom
  dsimp only
  rw [hfields]
  refine ⟨⟨?_, rfl⟩, List.map_id _⟩
  show m.app_list.set 0 _ = _
  rw [hlist]
  rfl

theorem OnlyTFTP.method {m : ApplicationManager} {s : TFTPClient.Scope} (h : OnlyTFTP m s)
    (method : AppM TFTPClient.Scope Unit) :
    OnlyTFTP (onTFTP 0 s.this method m).state (method s).state ∧
      (onTFTP 0 s.this method m).out.map id = (method s).out := by
  obtain ⟨hlist, hstatics⟩ := h
  have hfields : (⟨m.tftpStatics, s.this⟩ : TFTPClient.Scope) = s := by rw [hstatics]
  unfold onTFTP Prog.zoom
  dsimp only
  rw [hfields]
  refine ⟨⟨?_, rfl⟩, List.map_id _⟩
  show m.app_list.set 0 _ = _
  rw [hlist]
  rfl

/-- The first object. -/
theorem construct_onlyDHCP (clock : Clock) {nextInt : JInt} {s : DHCPApplication.Scope}
    (h : DHCPApplication.construct dev nextInt DHCPApplication.initialStatics = .ok s) :
    OnlyDHCP (construct dev (initial clock) (.dhcp nextInt)) s := by
  have hconstruct : DHCPApplication.construct dev nextInt (initial clock).dhcpStatics = .ok s := h
  unfold construct
  dsimp only
  rw [hconstruct]
  exact ⟨rfl, rfl⟩

/-- An action on an object there is not. -/
theorem act_absent_object {m : ApplicationManager} {j : Nat} (h : m.app_list[j]? = none) :
    (∀ method, invoke dev j method m = ⟨.ok (), m, []⟩) ∧
      ∀ info, handleData dev depth j info m = ⟨.ok (), m, []⟩ := by
  refine ⟨fun method => ?_, fun info => ?_⟩
  · unfold invoke
    rw [Prog.read_bind_run, h]
    cases method <;> rfl
  · unfold handleData
    rw [Prog.read_bind_run, h]
    rfl

/-- The fields of the only object, and the static ones of its class, are a component. -/
def fieldsOf {ρ : Type} (only : ApplicationManager → ρ → Prop) {onInvoke : Method → AppM ρ Unit}
    {onDeliver : Info → AppM ρ Unit} (hsingle : ∀ {m s}, only m s → ∃ app, m.app_list = [app])
    (htick : ∀ {m s} clock, only m s → only { m with clock } s)
    (hinvoke : ∀ {m s} method, only m s → only (invoke dev 0 method m).state (onInvoke method s).state ∧
      (invoke dev 0 method m).out.map id = (onInvoke method s).out)
    (hdeliver : ∀ {m s} info, only m s →
      only (handleData dev depth 0 info m).state (onDeliver info s).state ∧
        (handleData dev depth 0 info m).out.map id = (onDeliver info s).out) :
    Component (act dev depth) (turnOf onInvoke onDeliver) where
  rel := only
  select := some
  rename := id
  Allowed action := ∀ k, action ≠ .construct k
  idle := by
    intro action m s _ hselect
    cases hselect
  turn := by
    intro action _ m s hplain hselect h
    cases hselect
    obtain ⟨app, hlist⟩ := hsingle h
    have hnone : ∀ j, m.app_list[j + 1]? = none := by
      intro j
      rw [hlist]
      rfl
    cases action with
    | construct k => exact absurd rfl (hplain k)
    | tick clock => exact ⟨htick clock h, rfl⟩
    | invoke j method =>
      cases j with
      | zero => exact hinvoke method h
      | succ j =>
        rw [act, (act_absent_object dev depth (hnone j)).1 method]
        exact ⟨h, rfl⟩
    | deliver j info =>
      cases j with
      | zero => exact hdeliver info h
      | succ j =>
        rw [act, (act_absent_object dev depth (hnone j)).2 info]
        exact ⟨h, rfl⟩

/-- The fields of a `DHCPApplication` and its static ones. -/
def dhcpFields :
    Component (act dev depth) (turnOf (dhcpCall dev) (DHCPApplication.handleData dev)) := by
  refine fieldsOf dev depth OnlyDHCP (fun h => ⟨_, h.1⟩) (fun clock h => h) ?_ ?_
  · intro m s method h
    unfold invoke
    rw [Prog.read_bind_run, h.1]
    cases method with
    | dhcpDiscovery => exact h.method _
    | _ => exact ⟨h, rfl⟩
  · intro m s info h
    unfold handleData
    rw [Prog.read_bind_run, h.1]
    exact h.method _

/-- The fields of a `TFTPClient` and its static one. -/
def tftpFields : Component (act dev depth) (turnOf (tftpCall dev) (TFTPClient.handleData dev)) := by
  refine fieldsOf dev depth OnlyTFTP (fun h => ⟨_, h.1⟩) (fun clock h => h) ?_ ?_
  · intro m s method h
    unfold invoke
    rw [Prog.read_bind_run, h.1]
    cases method with
    | getFile getBytes created filename => exact h.method _
    | _ => exact ⟨h, rfl⟩
  · intro m s info h
    unfold handleData
    rw [Prog.read_bind_run, h.1]
    exact h.method _

end

end ApplicationManager

open ApplicationManager

namespace ProtocolManager

section

variable (net : Network) (depth : Nat) (clock : Clock) {before after : List Use}

theorem ownActions_plain (before after : List Use) (k : Construction) :
    ∀ action ∈ ownActions net depth clock before after k, ∀ k', action ≠ .construct k' := by
  rintro action haction k' rfl
  obtain ⟨action', -, haddressed⟩ := List.mem_filterMap.mp haction
  cases action' with
  | construct k => cases haddressed
  | tick clock => cases haddressed
  | invoke j method =>
    change (if j = _ then some (Action.invoke 0 method) else none) = _ at haddressed
    split at haddressed <;> cases haddressed
  | deliver j info =>
    change (if j = _ then some (Action.deliver 0 info) else none) = _ at haddressed
    split at haddressed <;> cases haddressed

/-! ### What is delivered -/

/-- The `i`th object is there and no tracer, and the receivers are in order. -/
structure Served (i : Nat) (s : ProtocolManager ApplicationManager) : Prop where
  orderly : Orderly s
  exists_object : ∃ app, object i s.apps = some app ∧ app.getClass ≠ .trace

/-- If the event is a delivery to the `i`th object, then of a datagram. -/
def Datagrams (i : Nat) (event : Event) : Prop :=
  ∀ info, event = .delivered i info → ∃ d : UDPProtocolLayer.Received, info = d.info

/-- An action leaves the object in its class. -/
theorem act_class (dev : DataLinkLayer) (depth : Nat) {i : Nat} {m : ApplicationManager} {app : App}
    (h : object i m = some app) (action : Action) :
    ∃ app', object i (act dev depth action m).state = some app' ∧ app'.getClass = app.getClass := by
  have hwrote : ∀ {j m'}, Wrote j m m' → ∃ app', object i m' = some app' ∧ app'.getClass = app.getClass := by
    intro j m' hwrote
    cases hwrote with
    | nothing => exact ⟨app, h, rfl⟩
    | object happ hclass hm' =>
    by_cases hji : j = i
    · subst hji
      obtain rfl := Option.some.inj (happ.symm.trans h)
      exact ⟨_, object_set_self happ hm', hclass⟩
    · exact ⟨app, (object_set_ne hji hm').trans h, rfl⟩
  cases action with
  | construct k =>
    obtain ⟨app', -, hlist, -⟩ := construct_appends dev m k
    refine ⟨app, ?_, rfl⟩
    show object i (construct dev m k) = _
    unfold object
    rw [hlist, List.getElem?_append_left (List.getElem?_eq_some_iff.mp h).1]
    exact h
  | invoke j method => exact hwrote (invoke_wrote dev method)
  | tick clock => exact ⟨app, h, rfl⟩
  | deliver j info => exact hwrote (handleData_wrote dev depth info)

theorem deliver_served {i j : Nat} {info : Info}
    (h : j ≠ i ∨ ∃ d : UDPProtocolLayer.Received, info = d.info) :
    Prog.Keeps (Served i) (Datagrams i) (fun _ => True)
      (deliver net (appLayer net.dataLinkLayer depth) j info) := by
  intro s hs
  have horderly := deliver_orderly net depth j info s hs.orderly
  obtain ⟨app, happ, htrace⟩ := hs.exists_object
  obtain ⟨s', log, hrun, hperformed⟩ := deliver_run net (appLayer net.dataLinkLayer depth) j info s
  rw [hrun] at horderly
  rw [hrun]
  refine ⟨⟨horderly, ?_⟩, fun event hevent info' heq => ?_, fun _ _ => trivial⟩
  · obtain ⟨app', happ', hclass⟩ :=
      act_class net.dataLinkLayer depth happ (.deliver j info)
    exact ⟨app', by rw [hperformed.apps_eq]; exact happ', by rw [hclass]; exact htrace⟩
  · subst heq
    rcases List.mem_cons.mp hevent with heq | hmem
    · cases heq
      exact h.resolve_left (not_not.mpr rfl)
    · -- the calls deliver nothing
      have hdelivered : (i, info') ∈ deliveries log := List.mem_filterMap.mpr ⟨_, hmem, rfl⟩
      rw [hperformed.deliveries_eq] at hdelivered
      cases hdelivered

/-- Only tracers are told of ICMP messages. -/
theorem handleICMPPacket_served {i : Nat} (packet : Packet) (info : Info) :
    Prog.Keeps (Served i) (Datagrams i) (fun _ => True)
      (handleICMPPacket net (appLayer net.dataLinkLayer depth) packet info) := by
  refine .bind_any fun headerInfo => ?_
  split
  · exact .throw _
  refine .bind .read fun s hs => .forM fun j hj => deliver_served net depth (.inl ?_)
  rintro rfl
  obtain ⟨app, happ, htrace⟩ := hs.exists_object
  obtain ⟨this, hthis⟩ := hs.orderly.isTracer j hj
  obtain rfl := Option.some.inj (happ.symm.trans hthis)
  exact htrace rfl

theorem handleUDPPacket_served {i : Nat} (packet : Packet) :
    Prog.Keeps (Served i) (Datagrams i) (fun _ => True)
      (handleUDPPacket net (appLayer net.dataLinkLayer depth) packet) := by
  have hread : Returns (UDPProtocolLayer.handlePacket packet) fun info =>
      ∃ d : UDPProtocolLayer.Received, info = d.info := by
    intro info hinfo
    have hsix := UDPProtocolLayer.six_le_of_handlePacket hinfo
    rw [UDPProtocolLayer.handlePacket_eq hsix] at hinfo
    exact ⟨⟨packet.header, packet.data⟩, (Except.ok.inj hinfo).symm⟩
  refine .bind (.lift hread) fun info hd => .bind_any fun dstPort => .bind .read fun s _ => ?_
  split
  · exact .pure trivial
  · exact deliver_served net depth (.inr hd)

theorem receivePacket_served {i : Nat} (packet : Option Packet) :
    Prog.Keeps (Served i) (Datagrams i) (fun _ => True)
      (receivePacket net (appLayer net.dataLinkLayer depth) packet) := by
  cases packet with
  | none => exact .pure trivial
  | some packet =>
  by_cases harp : packet.frametype = ETHERTYPE_ARP
  · rw [receivePacket_arp net _ harp]
    -- an ARP frame touches neither
    let T : Prog.Trace (ProtocolManager ApplicationManager) Event :=
      .emits (fun s => (s.apps, s.icmpPacketReceiverList)) fun _ => Datagrams i
    have hobeys : Prog.Obeys T (handleARPPacket net packet) := by
      refine handleARPPacket_obeys net (T := T) (fun s s' happs hreceivers => ⟨?_, nofun⟩) ?_ packet
      · show (s'.apps, s'.icmpPacketReceiverList) = _
        rw [happs, hreceivers]
      · refine fun data mac s => ⟨rfl, fun event hevent info heq => ?_⟩
        obtain ⟨frame, -, rfl⟩ := List.mem_map.mp hevent
        cases heq
    refine .bind (.of_obeys hobeys fun s s' hkey hs => ?_) fun _ _ => .pure trivial
    obtain ⟨happs, hreceivers⟩ := Prod.mk.inj hkey
    exact ⟨⟨by rw [hreceivers]; exact hs.orderly.nodup, by
      rw [hreceivers, happs]; exact hs.orderly.isTracer⟩, by rw [happs]; exact hs.exists_object⟩
  · rw [receivePacket_other net _ harp]
    split
    · refine .catching (.bind_any fun info => ?_)
      split
      · exact .pure trivial
      split
      · exact .pure trivial
      refine .bind_any fun protocol => .bind_any fun header => ?_
      split
      · exact handleICMPPacket_served net depth _ _
      split
      · exact handleUDPPacket_served net depth _
      · exact .pure trivial
    · exact .pure trivial

theorem step_served {i : Nat} (use : Use) {s : ProtocolManager ApplicationManager} (hs : Served i s) :
    Served i (step net (appLayer net.dataLinkLayer depth) (use.input net.dataLinkLayer) s).state := by
  refine ⟨step_orderly net depth use s hs.orderly, ?_⟩
  rw [(step_carried net depth use s).apps_eq]
  refine Prog.runs_invariant (P := fun m => ∃ app, object i m = some app ∧ app.getClass ≠ .trace)
    (fun action _ m ⟨app, happ, htrace⟩ => ?_) hs.exists_object
  obtain ⟨app', happ', hclass⟩ := act_class net.dataLinkLayer depth happ action
  exact ⟨app', happ', by rw [hclass]; exact htrace⟩

theorem actions_datagrams {i : Nat} (uses : List Use) {s : ProtocolManager ApplicationManager}
    (hs : Served i s) {info : Info} (h : .deliver i info ∈ actions net depth uses s) :
    ∃ d : UDPProtocolLayer.Received, info = d.info := by
  induction uses generalizing s with
  | nil => cases h
  | cons use uses ih =>
    rw [actions, List.mem_append] at h
    rcases h with h | h
    · cases use with
      | construct k => cases List.mem_singleton.mp h
      | invoke j method => cases List.mem_singleton.mp h
      | tick clock => cases List.mem_singleton.mp h
      | receivePacket packet =>
        obtain ⟨⟨j, info'⟩, hd, heq⟩ := List.mem_map.mp h
        cases heq
        obtain ⟨event, hevent, hdelivered⟩ := List.mem_filterMap.mp hd
        cases event with
        | delivered j info' =>
          cases hdelivered
          exact (receivePacket_served net depth packet s hs).2.1 _ hevent _ rfl
        | _ => cases hdelivered
    · exact ih (step_served net depth use hs) h

theorem constructed_served (before : List Use) {k : Construction} (hk : k.getClass ≠ .trace) :
    Served (place net depth clock before) (constructed net depth clock before k) := by
  obtain ⟨app, hclass, hlist, -⟩ :=
    construct_appends net.dataLinkLayer (used net depth clock before).apps k
  refine ⟨used_orderly .., app, ?_, by rw [hclass]; exact hk⟩
  rw [constructed_apps]
  unfold object
  rw [hlist, place, List.getElem?_append_right (Nat.le_refl _), Nat.sub_self]
  rfl

/-- An object that is no tracer is told of datagrams only. -/
theorem own_datagrams {before after : List Use} {k : Construction} (hk : k.getClass ≠ .trace)
    {info : Info} (h : .deliver 0 info ∈ ownActions net depth clock before after k) :
    ∃ d : UDPProtocolLayer.Received, info = d.info := by
  obtain ⟨action, hmem, haddressed⟩ := List.mem_filterMap.mp h
  cases action with
  | construct k => cases haddressed
  | tick clock => cases haddressed
  | invoke j method =>
    change (if j = _ then some (Action.invoke 0 method) else none) = _ at haddressed
    split at haddressed <;> cases haddressed
  | deliver j info' =>
    change (if j = _ then some (Action.deliver 0 info') else none) = _ at haddressed
    split at haddressed
    · next hj =>
      subst hj
      cases haddressed
      exact actions_datagrams net depth after (constructed_served net depth clock before hk) hmem
    · cases haddressed

/-! ### Sessions -/

/-- The run of the object alone is a run of its methods on its fields. -/
theorem byItself_fields {ρ : Type} {turn : Action → AppM ρ Unit} (before after : List Use)
    (k : Construction) (c : Component (act net.dataLinkLayer depth) turn) (hselect : c.select = some)
    (hrename : c.rename = id) (hallowed : ∀ action, (∀ k, action ≠ .construct k) → c.Allowed action)
    {s : ρ} (hstart : c.rel (construct net.dataLinkLayer
      (initial (used net depth clock before).apps.clock) k) s) :
    c.rel (byItself net depth clock before after k).1
        (Prog.runs turn (ownActions net depth clock before after k) s).1 ∧
      (byItself net depth clock before after k).2 =
        (Prog.runs turn (ownActions net depth clock before after k) s).2 :=
  c.run_all hselect hrename (fun action haction =>
    hallowed action (ownActions_plain net depth clock before after k action haction)) hstart

/-- In any program the only `DHCPApplication` does what its methods do. -/
theorem dhcp_session {nextInt : JInt} (h : Unrivalled .dhcp (before ++ after)) :
    ∃ s r, DHCPApplication.construct net.dataLinkLayer nextInt DHCPApplication.initialStatics = .ok s ∧
      r = Prog.runs (turnOf (dhcpCall net.dataLinkLayer) (DHCPApplication.handleData net.dataLinkLayer))
        (ownActions net depth clock before after (.dhcp nextInt)) s ∧
      object (place net depth clock before)
        (used net depth clock (before ++ .construct (.dhcp nextInt) :: after)).apps =
          some (.dhcp r.1.this) ∧
      ownCalls net depth clock before after (.dhcp nextInt) = r.2 := by
  obtain ⟨s, hs, -, -⟩ := DHCPApplication.construct_client net.dataLinkLayer nextInt
    DHCPApplication.initialStatics
  obtain ⟨hseated, hcalls⟩ := used_seated net depth clock (k := .dhcp nextInt) h
  have hstart := construct_onlyDHCP net.dataLinkLayer (used net depth clock before).apps.clock hs
  obtain ⟨honly, hout⟩ := byItself_fields net depth clock before after (.dhcp nextInt)
    (dhcpFields net.dataLinkLayer depth) rfl rfl (fun _ h => h) hstart
  refine ⟨s, _, hs, rfl, ?_, hcalls.trans hout⟩
  rw [hseated.object_eq, object, honly.1]
  rfl

/-- In any program the only `TFTPClient` does what its methods do. -/
theorem tftp_session {server_ip : Option Bytes} (h : Unrivalled .tftp (before ++ after)) :
    ∃ r, r = Prog.runs (turnOf (tftpCall net.dataLinkLayer) (TFTPClient.handleData net.dataLinkLayer))
        (ownActions net depth clock before after (.tftp server_ip)) (TFTPClient.construct server_ip) ∧
      object (place net depth clock before)
        (used net depth clock (before ++ .construct (.tftp server_ip) :: after)).apps =
          some (.tftp r.1.this) ∧
      ownCalls net depth clock before after (.tftp server_ip) = r.2 := by
  obtain ⟨hseated, hcalls⟩ := used_seated net depth clock (k := .tftp server_ip) h
  obtain ⟨honly, hout⟩ := byItself_fields net depth clock before after (.tftp server_ip)
    (tftpFields net.dataLinkLayer depth) rfl rfl (fun _ h => h)
    (s := TFTPClient.construct server_ip) ⟨rfl, rfl⟩
  refine ⟨_, rfl, ?_, hcalls.trans hout⟩
  rw [hseated.object_eq, object, honly.1]
  rfl

end

end ProtocolManager

end TcpIpStack
