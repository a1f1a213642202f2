import Mathlib.Data.List.Induction
import TcpIpStack.Application.ApplicationManager
import TcpIpStack.Protocol.AppCalls

/-!
# Which application a datagram reaches

A port goes out as a `char` and comes back as a `short`, and both are widened
to the `int` the object stores, so the lookup always asks for the right port.
It finds the application exactly when no object registered before has the same
port: an earlier object of the same class, one whose constructor threw, an ICMP
identifier.
-/

namespace TcpIpStack

open TcpIpStack.Java TcpIpStack.Lib

/-- The source port a UDP application puts into its requests. -/
def App.sourcePort : App → Option JChar
  | dhcp _ => some DHCPApplication.srcPort
  | dns this => some (this.port.setWidth 16)
  | tftp this => some (this.port.setWidth 16)
  | _ => none

/-- The stored port is the source port, sign-extended. -/
def App.WellPorted (app : App) : Prop :=
  ∀ port, app.sourcePort = some port → app.getPort = port.signExtend 32

theorem wellPorted_of_signExtend {app : App} {port : Short}
    (hget : app.getPort = port.signExtend 32)
    (hsource : ∀ p, app.sourcePort = some p → p = app.getPort.setWidth 16) : app.WellPorted := by
  intro p hp
  have hback : (port.signExtend 32).setWidth 16 = port := by
    ext i hi
    simp [BitVec.getLsbD_signExtend, hi]
    omega
  rw [hsource p hp, hget, hback]

theorem DHCPApplication.construct_port {dev : DataLinkLayer} {nextInt : JInt} {statics : DHCPStatics}
    {s : DHCPApplication.Scope} (h : DHCPApplication.construct dev nextInt statics = .ok s) :
    s.this.port = DHCPApplication.srcPort.setWidth 32 := by
  obtain ⟨first, -, h⟩ := bind_eq_ok_iff.mp h
  obtain ⟨options, -, h⟩ := bind_eq_ok_iff.mp h
  cases h
  rfl

theorem DNSApplication.construct_port {destIP : Option Bytes} {domainName : JString}
    {nextInt nextInt' : JInt} {this : DNSApplication}
    (h : DNSApplication.construct destIP domainName nextInt nextInt' = .ok this) :
    this.port = (nextInt'.setWidth 16).signExtend 32 := by
  obtain ⟨header, -, h⟩ := bind_eq_ok_iff.mp h
  obtain ⟨question, -, h⟩ := bind_eq_ok_iff.mp h
  cases h
  rfl

namespace ApplicationManager

section

variable (dev : DataLinkLayer)

/-- A constructor call registers one object. -/
theorem construct_app_list (m : ApplicationManager) (c : Construction) :
    ∃ app, (construct dev m c).app_list = m.app_list ++ [app] ∧ app.WellPorted := by
  have hdhcp : ∀ this : DHCPApplication, this.port = DHCPApplication.srcPort.setWidth 32 →
      (App.dhcp this).WellPorted := by
    intro this hport p hp
    cases hp
    exact hport.trans (by decide)
  have hdns : ∀ (this : DNSApplication) (port : Short), this.port = port.signExtend 32 →
      (App.dns this).WellPorted := fun this port hport =>
    wellPorted_of_signExtend hport fun p hp => (Option.some_inj.mp hp).symm
  have hicmp : ∀ app : App, app.sourcePort = none → app.WellPorted := by
    intro app hnone p hp
    rw [hnone] at hp
    cases hp
  unfold construct
  cases c with
  | dhcp nextInt =>
    dsimp only
    split
    · rename_i s hs
      exact ⟨_, rfl, hdhcp _ (DHCPApplication.construct_port hs)⟩
    · exact ⟨_, rfl, hdhcp _ rfl⟩
  | dns destIP domainName nextInt nextInt' =>
    dsimp only
    split
    · rename_i this hthis
      exact ⟨_, rfl, hdns _ _ (DNSApplication.construct_port hthis)⟩
    · exact ⟨_, rfl, hdns _ _ rfl⟩
  | tftp server_ip =>
    exact ⟨_, rfl, wellPorted_of_signExtend rfl fun p hp => (Option.some_inj.mp hp).symm⟩
  | ping times destIP nextInt => dsimp only; split <;> exact ⟨_, rfl, hicmp _ rfl⟩
  | hping times destIP nextInt => dsimp only; split <;> exact ⟨_, rfl, hicmp _ rfl⟩
  | trace dest_ip => exact ⟨_, rfl, hicmp _ rfl⟩

/-- The manager after the constructor calls. -/
def constructAll (clock : Clock) (cs : List Construction) : ApplicationManager :=
  cs.foldl (construct dev) (initial clock)

theorem wellPorted_constructAll (clock : Clock) (cs : List Construction) :
    ∀ app ∈ (constructAll dev clock cs).app_list, app.WellPorted := by
  induction cs using List.reverseRecOn with
  | nil => simp [constructAll, initial]
  | append_singleton cs c ih =>
    intro app happ
    obtain ⟨last, hlist, hlast⟩ := construct_app_list dev (constructAll dev clock cs) c
    have hconcat : constructAll dev clock (cs ++ [c]) = construct dev (constructAll dev clock cs) c :=
      List.foldl_concat ..
    rw [hconcat, hlist, List.mem_append, List.mem_singleton] at happ
    rcases happ with happ | rfl
    · exact ih app happ
    · exact hlast

end

/-- The lookup finds the first object with the port. -/
theorem getApplicationByPort_eq_iff {m : ApplicationManager} {i : Nat} {app : App}
    (happ : m.app_list[i]? = some app) :
    m.getApplicationByPort app.getPort = some i ↔
      ∀ j app', j < i → m.app_list[j]? = some app' → app'.getPort ≠ app.getPort := by
  obtain ⟨hi, happ⟩ := List.getElem?_eq_some_iff.mp happ
  unfold getApplicationByPort
  rw [List.findIdx?_eq_some_iff_getElem]
  constructor
  · rintro ⟨hi', -, hfirst⟩ j app' hj hget
    obtain ⟨hjlen, rfl⟩ := List.getElem?_eq_some_iff.mp hget
    simpa using hfirst j hj
  · intro hfirst
    refine ⟨hi, by rw [happ]; exact beq_self_eq_true _, fun j hj => ?_⟩
    have hne := hfirst j _ hj (List.getElem?_eq_getElem (by omega))
    simpa using hne

/-- A datagram for the source port of a UDP application is delivered to it, and
only to it, if and only if no object registered before has the same port. -/
theorem udp_dispatch_iff (net : Network) (depth : Nat) (clock : Clock) (cs : List Construction)
    {i : Nat} {app : App} {port : JChar}
    (happ : (constructAll net.dataLinkLayer clock cs).app_list[i]? = some app)
    (hport : app.sourcePort = some port) {s : ProtocolManager ApplicationManager}
    (hs : s.apps = constructAll net.dataLinkLayer clock cs) {packet : Packet}
    (hlen : 8 ≤ packet.header.length) (hdst : slice packet.header 2 2 = shortBytes port) :
    ProtocolManager.deliveries
        (ProtocolManager.handleUDPPacket net (appLayer net.dataLinkLayer depth) packet s).out =
      [(i, UDPProtocolLayer.info packet.header packet.data)] ↔
    ∀ j app', j < i → (constructAll net.dataLinkLayer clock cs).app_list[j]? = some app' →
      app'.getPort ≠ app.getPort := by
  have hported : app.getPort = port.signExtend 32 :=
    wellPorted_constructAll _ clock cs app (List.mem_of_getElem? happ) port hport
  rw [← getApplicationByPort_eq_iff happ, ProtocolManager.handleUDPPacket_deliveries net _ hlen,
    hdst, shortOf_shortBytes, ← hported, hs]
  show (Option.map _ (getApplicationByPort _ _)).toList = _ ↔ _
  cases getApplicationByPort (constructAll net.dataLinkLayer clock cs) app.getPort with
  | none => simp
  | some k => simp

/-- The fixed readings of a clock. -/
def sampleClock : Clock := ⟨0, 0, 0, 0⟩

/-- A datagram for port 60706 without data. -/
def sampleDatagram : Packet :=
  ⟨ETHERTYPE_IP, UDPProtocolLayer.datagram 40000 60706 [], []⟩

/-- The stack after two clients were constructed for the same server. -/
def twoClients : List Construction := [.tftp (some [192, 168, 1, 1]), .tftp (some [192, 168, 1, 1])]

theorem udp_dispatch_first_client :
    ProtocolManager.deliveries (ProtocolManager.handleUDPPacket sampleNetwork
      (appLayer sampleNetwork.dataLinkLayer 0) sampleDatagram (ProtocolManager.emptyTables
        (constructAll sampleNetwork.dataLinkLayer sampleClock twoClients))).out =
      [(0, UDPProtocolLayer.info sampleDatagram.header sampleDatagram.data)] :=
  have hclient : (constructAll sampleNetwork.dataLinkLayer sampleClock twoClients).app_list[0]? =
    some (.tftp (TFTPClient.construct (some [192, 168, 1, 1])).this) := rfl
  have hport : (App.tftp (TFTPClient.construct (some [192, 168, 1, 1])).this).sourcePort =
    some 60706 := rfl
  (udp_dispatch_iff sampleNetwork 0 sampleClock twoClients hclient hport rfl (by decide)
    (by decide)).mpr fun j app' hj => absurd hj (Nat.not_lt_zero j)

/-- The second client never sees a reply. -/
theorem udp_dispatch_second_client :
    ¬ ∀ (net : Network) (depth : Nat) (clock : Clock) (cs : List Construction) (i : Nat) (app : App)
      (port : JChar) (s : ProtocolManager ApplicationManager) (packet : Packet),
      (constructAll net.dataLinkLayer clock cs).app_list[i]? = some app →
      app.sourcePort = some port → s.apps = constructAll net.dataLinkLayer clock cs →
      8 ≤ packet.header.length → slice packet.header 2 2 = shortBytes port →
      ProtocolManager.deliveries
          (ProtocolManager.handleUDPPacket net (appLayer net.dataLinkLayer depth) packet s).out =
        [(i, UDPProtocolLayer.info packet.header packet.data)] := by
  intro h
  have hsecond := h sampleNetwork 0 sampleClock twoClients 1
    (.tftp (TFTPClient.construct (some [192, 168, 1, 1])).this) 60706 (ProtocolManager.emptyTables
      (constructAll sampleNetwork.dataLinkLayer sampleClock twoClients)) sampleDatagram rfl rfl rfl
    (by decide) (by decide)
  have hfirst : (appLayer sampleNetwork.dataLinkLayer 0).getApplicationByPort
      (ProtocolManager.emptyTables (constructAll sampleNetwork.dataLinkLayer sampleClock twoClients)).apps
      ((shortOf (slice sampleDatagram.header 2 2)).signExtend 32) = some 0 := by decide
  rw [ProtocolManager.handleUDPPacket_deliveries _ _ (by decide), hfirst] at hsecond
  exact absurd (congrArg (List.map Prod.fst) hsecond) (by decide)

end ApplicationManager

end TcpIpStack
