import TcpIpStack.Application.IApplication
import TcpIpStack.Protocol.IPFrame
import TcpIpStack.Protocol.UDP

/-!
# What the applications share

Every application asks the UDP layer for a header over its data, the IP layer
for a header of that length, and puts the two into one array. A `null` header
is dereferenced.
-/

namespace TcpIpStack.Application

open TcpIpStack.Java TcpIpStack.Lib

/-- A dereference. -/
def notNull {α : Type} : Option α → Except Throwable α
  | some a => .ok a
  | none => .error .nullPointer

/-- The two headers in one array; `createIPHeader` is given the UDP length. -/
def packet (udpHeader : Option Bytes) (createIPHeader : JInt → Except Throwable (Option Bytes)) :
    Except Throwable Bytes := do
  let udpHeader ← notNull udpHeader
  let ipHeader ← createIPHeader (BitVec.ofNat 32 udpHeader.length)
  return (← notNull ipHeader) ++ udpHeader

/-- The packet is a datagram from `src` to `dst` behind an option-less header. -/
def IsDatagram (packet src dst : Bytes) (srcPort dstPort : JChar) (payload : Bytes) : Prop :=
  ∃ header : IPProtocolLayer.Header,
    packet = header.bytes ++ UDPProtocolLayer.datagram srcPort dstPort payload ∧
    header.bytes.length = 20 ∧ header.protocol = 17 ∧ header.source_ip = src ∧
    header.destination_ip = dst

/-- The payload starts behind the two headers. -/
theorem IsDatagram.payload_eq {packet src dst : Bytes} {srcPort dstPort : JChar} {payload : Bytes}
    (h : IsDatagram packet src dst srcPort dstPort payload) : packet.drop 28 = payload := by
  obtain ⟨header, rfl, h20, -⟩ := h
  have hlen : (header.bytes ++ (shortBytes srcPort ++ shortBytes dstPort ++
      shortBytes (BitVec.ofNat 16 (payload.length + 8)) ++ [0, 0])).length = 28 := by
    simp [h20]
  rw [UDPProtocolLayer.datagram, ← List.append_assoc, ← hlen, List.drop_left]

/-- The destination port starts two bytes into the second. -/
theorem IsDatagram.dstPort_eq {packet src dst : Bytes} {srcPort dstPort : JChar} {payload : Bytes}
    (h : IsDatagram packet src dst srcPort dstPort payload) :
    shortOf (slice packet 22 2) = dstPort := by
  obtain ⟨header, rfl, h20, -⟩ := h
  have hport := @slice_append (header.bytes ++ shortBytes srcPort) (shortBytes dstPort)
    (shortBytes (BitVec.ofNat 16 (payload.length + 8)) ++ [0, 0] ++ payload) 22 2 (by simp [h20])
    (shortBytes_length _)
  rw [UDPProtocolLayer.datagram]
  simp only [List.append_assoc] at hport ⊢
  rw [hport, shortOf_shortBytes]

/-- An application whose tables are plain sends datagrams. -/
theorem packet_isDatagram {dev : DataLinkLayer}
    {createIPHeader : JInt → Except Throwable (Option Bytes)} {headerInfo : JInt → Info}
    {src dst : JInt}
    (hcreate : ∀ len, createIPHeader len = IPProtocolLayer.createHeader dev (headerInfo len))
    (hplain : ∀ len, IPProtocolLayer.Plain dev (headerInfo len) src dst UDPProtocolLayer.PROTOCOL_UDP)
    (hlen : ∀ len, headerInfo len .data_length = some (.int len)) (srcPort dstPort : JChar)
    (payload : Bytes) :
    ∃ p, packet (some (UDPProtocolLayer.datagram srcPort dstPort payload)) createIPHeader = .ok p ∧
      IsDatagram p (intBytes src) (intBytes dst) srcPort dstPort payload := by
  obtain ⟨header, hheader, h20, -, hproto, hsrc, hdst, -⟩ :=
    IPProtocolLayer.createHeader_ok (hplain _) (hlen (BitVec.ofNat 32 (payload.length + 8)))
  refine ⟨_, ?_, header, rfl, h20, hproto, hsrc, hdst⟩
  simp only [packet, notNull, ok_bind, UDPProtocolLayer.datagram_length, hcreate, hheader]
  rfl

end TcpIpStack.Application
