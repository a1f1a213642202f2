import TcpIpStack.Application.Transmissions
import TcpIpStack.Protocol.UDPPayload

/-!
# What the stack transmits arrives

A program uses the stack on one device; another device captures. Each frame that
fits the sender's buffer arrives split behind 42 bytes (`frames_arrive`), and with
names that fit each frame does (`short_names_arrive`). What arrives as a UDP
datagram goes to the application of its port, with the payload it was sent with
(`sent_datagram_delivered`).
-/

namespace TcpIpStack.Jpcap

open TcpIpStack.Java TcpIpStack.Lib
open Application ApplicationManager ProtocolManager

/-- A frame as it is captured elsewhere. -/
def arrival (packet : Frame) : Packet :=
  ⟨packet.frametype, (frameBytes packet).take 42, (frameBytes packet).drop 42⟩

section

variable (A : DataLinkLayer) (mac : MacAddress) {header : IPProtocolLayer.Header}
  {body src dst : Bytes} {proto : Byte}

/-- The frame of a whole datagram. -/
def ipFrameOf (header : IPProtocolLayer.Header) (body : Bytes) : IPProtocolLayer.IPFrame where
  link := mac.getAddress ++ A.macAddress ++ shortBytes TcpIpStack.ETHERTYPE_IP
  link_length := by
    simp only [List.length_append, mac.length_eq, A.mac_length, shortBytes_length]
    rfl
  header := header
  body := body

theorem arrival_eq_captured (h : HeaderFor header body src dst proto 0) :
    arrival (frameTo A mac (header.bytes ++ body)) = (ipFrameOf A mac header body).captured := by
  let link := mac.getAddress ++ A.macAddress ++ shortBytes TcpIpStack.ETHERTYPE_IP
  have hlen : (link ++ header.bytes).length = 34 := by
    simp only [link, List.length_append, mac.length_eq, A.mac_length, shortBytes_length, h.length]
  have hbytes : frameBytes (frameTo A mac (header.bytes ++ body)) = link ++ header.bytes ++ body :=
    (List.append_assoc ..).symm
  rw [arrival, hbytes, show 42 = (link ++ header.bytes).length + 8 by rw [hlen], List.take_append,
    List.drop_append, List.take_of_length_le (by omega), List.drop_eq_nil_of_le (by omega),
    Nat.add_sub_cancel_left, List.nil_append]
  rfl

theorem overWire_arrival (h : HeaderFor header body src dst proto 0) (hbody : Body proto body)
    (hfits : body.length ≤ 1566) (buf : Buffer) (e : Elsewhere) (beyond : Memory Byte) :
    overWire buf e beyond (frameTo A mac (header.bytes ++ body)) =
      some (.ok (arrival (frameTo A mac (header.bytes ++ body)))) := by
  have hmin := hbody.min_length
  have hproto := h.protocol_eq A mac
  have hfirst := h.fragmentOffset_eq A mac
  refine (h.datagram A mac hfits).overWire_capture ?_ ?_ hfirst buf e beyond
  · rw [hproto]
    exact hbody.protocol_eq
  · show 28 ≤ (header.bytes ++ body).length
    rw [List.length_append, h.length]
    omega

/-- The other device takes the datagram if it is the destination. -/
theorem accepted_iff {B : DataLinkLayer} (h : HeaderFor header body src dst proto 0)
    (hfits : body.length ≤ 1566) :
    (ipFrameOf A mac header body).Accepted B ↔ B.deviceIPAddress = dst := by
  have htotal : header.total_length.toInt = body.length + 20 := by
    rw [h.total_length, toInt_ofNat_short (by omega), if_pos (by omega)]
    push_cast
    rfl
  have hlen := h.length
  have hdst := h.destination_ip
  show B.deviceIPAddress = header.destination_ip ∧ (header.bytes.length : Int) ≤ header.total_length.toInt ∧
    header.total_length.toInt ≤ header.bytes.length + body.length ↔ _
  rw [hdst, htotal, hlen]
  constructor
  · exact fun haccepted => haccepted.1
  · intro hip
    exact ⟨hip, by omega, by omega⟩

theorem datagram_eq (h : HeaderFor header body src dst proto 0) (hfits : body.length ≤ 1566) :
    (ipFrameOf A mac header body).datagram = body := by
  have htotal : header.total_length.toNat = body.length + 20 := by
    rw [h.total_length, BitVec.toNat_ofNat]
    omega
  show body.take (header.total_length.toNat - header.bytes.length) = body
  rw [htotal, h.length, Nat.add_sub_cancel, List.take_length]

end

/-! ## Runs -/

theorem question_arrives (net : Network) (buf : Buffer) (e : Elsewhere) (beyond : Memory Byte) :
    overWire buf e beyond (questionFrame net) = some (.ok (arrival (questionFrame net))) := by
  have hdata : (questionFrame net).data.length = 28 := (question net).bytes_length
  have hlen : (frameBytes (questionFrame net)).length = 42 :=
    messageFrame_length everyone net.dataLinkLayer.mac (question net)
  have htake : (frameBytes (questionFrame net)).take 42 = frameBytes (questionFrame net) :=
    List.take_of_length_le (by omega)
  have hdrop : (frameBytes (questionFrame net)).drop 42 = [] := List.drop_eq_nil_of_le (by omega)
  have hmessage := overWire_message everyone net.dataLinkLayer.mac (question net) buf e beyond
  rw [questionFrame_eq, hmessage, ← questionFrame_eq, arrival, htake, hdrop]
  rfl

section

variable {net : Network} {uses : List Use} {frame : Frame}

/-- A transmission is a frame of a whole datagram. -/
theorem transmission_eq (h : Transmission net uses frame) :
    ∃ (mac : MacAddress) (header : IPProtocolLayer.Header) (body src dst : Bytes) (proto : Byte),
      frame = frameTo net.dataLinkLayer mac (header.bytes ++ body) ∧
        HeaderFor header body src dst proto 0 ∧ Body proto body := by
  obtain ⟨header, body, src, dst, proto, hdata, hfor, -, hbody, -⟩ := h.carries
  have hmac : frame.dst_mac.length = 6 := by
    rcases h.dst_mac with heq | ⟨use, -, hanswer⟩
    · rw [heq]
      rfl
    · exact answer_length net hanswer
  refine ⟨⟨frame.dst_mac, hmac⟩, header, body, src, dst, proto, ?_, hfor, hbody⟩
  have htype := h.frametype
  have hsrc := h.src_mac
  cases frame
  cases htype
  cases hsrc
  cases hdata
  rfl

theorem transmission_arrives (h : Transmission net uses frame) (hfits : frame.data.length ≤ 1586)
    (buf : Buffer) (e : Elsewhere) (beyond : Memory Byte) :
    overWire buf e beyond frame = some (.ok (arrival frame)) := by
  obtain ⟨mac, header, body, src, dst, proto, rfl, hfor, hbody⟩ := transmission_eq h
  have hlen : (frameTo net.dataLinkLayer mac (header.bytes ++ body)).data.length = body.length + 20 := by
    show (header.bytes ++ body).length = _
    rw [List.length_append, hfor.length, Nat.add_comm]
  exact overWire_arrival _ _ hfor hbody (by omega) buf e beyond

end

section

variable (net : Network) (depth : Nat) (clock : Clock) (uses : List Use) (buf : Buffer) (e : Elsewhere)
  (beyond : Memory Byte)

/-- A frame a program makes the stack transmit arrives if it fits the buffer. -/
theorem frames_arrive {frame : Frame} (h : frame ∈ transmitted (usedLog net depth clock uses))
    (hfits : frame.data.length ≤ 1586) :
    overWire buf e beyond frame = some (.ok (arrival frame)) := by
  rcases transmission_of_mem h with rfl | htransmission
  · exact question_arrives net buf e beyond
  · exact transmission_arrives htransmission hfits buf e beyond

theorem frames_arrive_probe :
    overWire .zero .zero (fun _ => 0) probeFrame = some (.ok (arrival probeFrame)) :=
  frames_arrive sampleNetwork 0 ⟨0, 0, 0, 0⟩ traceUses .zero .zero (fun _ => 0) (by decide +kernel)
    (by decide)

/-- If each name fits, so does each frame, and all arrive. -/
theorem short_names_arrive (hsize : ∀ use ∈ uses, use.size ≤ 1586) :
    (transmitted (usedLog net depth clock uses)).map (overWire buf e beyond) =
      (transmitted (usedLog net depth clock uses)).map fun frame => some (.ok (arrival frame)) := by
  refine List.map_congr_left fun frame hframe => ?_
  rcases transmission_of_mem hframe with rfl | htransmission
  · exact question_arrives net buf e beyond
  · have hfits := htransmission.length_le.trans (limitOf_le (by decide) hsize)
    exact transmission_arrives htransmission hfits buf e beyond

end

theorem short_names_arrive_traceUses :
    (transmitted (usedLog sampleNetwork 0 ⟨0, 0, 0, 0⟩ traceUses)).map
        (overWire .zero .zero fun _ => 0) =
      (transmitted (usedLog sampleNetwork 0 ⟨0, 0, 0, 0⟩ traceUses)).map fun frame =>
        some (.ok (arrival frame)) :=
  short_names_arrive sampleNetwork 0 ⟨0, 0, 0, 0⟩ traceUses .zero .zero (fun _ => 0) (by decide)

/-! ## Delivery -/

section

variable {σ : Type} (B : Network) (apps : AppLayer σ) {net : Network} {uses : List Use}
  {frame : Frame}

/-- A datagram that arrives at its destination goes to the application of its port, as what
was sent; anywhere else nothing happens. -/
theorem arrival_delivered (h : Transmission net uses frame)
    (hfits : frame.data.length ≤ 1586) {src dst payload : Bytes} {srcPort dstPort : JChar}
    (hdatagram : IsDatagram frame.data src dst srcPort dstPort payload) (s : ProtocolManager σ) :
    deliveries (receivePacket B apps (some (arrival frame)) s).out =
      if B.dataLinkLayer.deviceIPAddress = dst then
        ((apps.getApplicationByPort s.apps (dstPort.signExtend 32)).map fun app =>
          (app, UDPProtocolLayer.info (UDPProtocolLayer.datagram srcPort dstPort payload) payload)).toList
      else [] := by
  obtain ⟨mac, header, body, src', dst', proto, rfl, hfor, -⟩ := transmission_eq h
  obtain ⟨header', hdata, h20, hproto, -, hdst⟩ := hdatagram
  -- the two decompositions of the packet are one
  obtain ⟨hheader, rfl⟩ := List.append_inj hdata (hfor.length.trans h20.symm)
  obtain rfl : header = header' := by
    cases header
    cases header'
    cases hheader
    rfl
  have hbody : (UDPProtocolLayer.datagram srcPort dstPort payload).length ≤ 1566 := by
    have hle : (header.bytes ++ UDPProtocolLayer.datagram srcPort dstPort payload).length ≤ 1586 := hfits
    rw [List.length_append, h20] at hle
    omega
  have hlen := UDPProtocolLayer.datagram_length srcPort dstPort payload
  have hfrag := datagram_eq net.dataLinkLayer mac hfor hbody
  have haccepted := @accepted_iff net.dataLinkLayer mac _ _ _ _ _ B.dataLinkLayer hfor hbody
  rw [hfor.destination_ip.symm.trans hdst] at haccepted
  rw [arrival_eq_captured _ _ hfor]
  split
  · next hip =>
    rw [captured_deliveries B apps hproto (by rw [hfrag]; omega) (haccepted.mpr hip) s, hfrag]
    have hport : UDPProtocolLayer.destPort (UDPProtocolLayer.datagram srcPort dstPort payload) =
        dstPort.signExtend 32 := congrArg (·.signExtend 32) (shortOf_shortBytes dstPort)
    rw [hport]
    rfl
  · next hip =>
    have hdropped := (receivePacket_dropped B apps rfl
      (ipFrameOf net.dataLinkLayer mac header _).captured_bytes
      (fun hc => hip (haccepted.mp hc)) s).2
    rw [hdropped]
    rfl

end

/-- The question is no datagram. -/
theorem question_not_datagram (net : Network) {src dst payload : Bytes} {srcPort dstPort : JChar} :
    ¬ IsDatagram (questionFrame net).data src dst srcPort dstPort payload := by
  rintro ⟨header, hdata, h20, -⟩
  have hdeclared := header.length_eq
  have hfirst : (header.bytes ++ UDPProtocolLayer.datagram srcPort dstPort payload).getD 0 0 = 0 := by
    rw [← hdata]
    rfl
  rw [List.getD_append _ _ _ _ (by omega)] at hfirst
  rw [hfirst, h20] at hdeclared
  cases hdeclared

/-- Whatever a program does on one device, a datagram it makes the stack transmit that fits
the buffer is delivered on another: to the application of its port if it is for that
device, and to nobody if it is not. -/
theorem sent_datagram_delivered {σ : Type} (A B : Network) (depth : Nat) (clock : Clock)
    (uses : List Use) {frame : Frame} (h : frame ∈ transmitted (usedLog A depth clock uses))
    (hfits : frame.data.length ≤ 1586) {src dst payload : Bytes} {srcPort dstPort : JChar}
    (hdatagram : IsDatagram frame.data src dst srcPort dstPort payload) (apps : AppLayer σ)
    (s : ProtocolManager σ) :
    ∃ packet, (∀ buf e beyond, overWire buf e beyond frame = some (.ok packet)) ∧
      deliveries (receivePacket B apps (some packet) s).out =
        if B.dataLinkLayer.deviceIPAddress = dst then
          ((apps.getApplicationByPort s.apps (dstPort.signExtend 32)).map fun app =>
            (app, UDPProtocolLayer.info (UDPProtocolLayer.datagram srcPort dstPort payload)
              payload)).toList
        else [] := by
  rcases transmission_of_mem h with rfl | htransmission
  · exact absurd hdatagram (question_not_datagram A)
  refine ⟨arrival frame, fun buf e beyond => ?_,
    arrival_delivered B apps htransmission hfits hdatagram s⟩
  exact transmission_arrives htransmission hfits buf e beyond

/-- The host, and a listener at the port that is probed. -/
def probedNetwork : Network :=
  { sampleNetwork with dataLinkLayer := { sampleDevice with ipAddress := ⟨[192, 168, 1, 50], rfl⟩ } }

def listener : AppLayer Unit where
  getApplicationByPort _ port := if port = (33434 : JChar).signExtend 32 then some 0 else none
  handleData _ _ := pure ()

theorem probe_delivered :
    ∃ packet, (∀ buf e beyond, overWire buf e beyond probeFrame = some (.ok packet)) ∧
      deliveries (receivePacket probedNetwork listener (some packet) (emptyTables ())).out =
        if probedNetwork.dataLinkLayer.deviceIPAddress = [192, 168, 1, 50] then
          ((listener.getApplicationByPort () ((33434 : JChar).signExtend 32)).map fun app =>
            (app, UDPProtocolLayer.info (UDPProtocolLayer.datagram 0 33434 (List.replicate 24 0))
              (List.replicate 24 0))).toList
        else [] :=
  sent_datagram_delivered sampleNetwork probedNetwork 0 ⟨0, 0, 0, 0⟩ traceUses (by decide +kernel)
    (by decide) ⟨probeHeader, rfl, rfl, rfl, rfl, rfl⟩ listener (emptyTables ())

end TcpIpStack.Jpcap
