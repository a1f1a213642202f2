import TcpIpStack.Protocol.IPParser
import TcpIpStack.Lib.Memory

/-!
# The capture library's split of a frame

`get_packet` of `JpcapCaptor.c` on an Ethernet device: it is handed a pointer and
the number of bytes captured there, finds the link, network and transport headers
and makes two arrays of the packet, `header` up to the end of the last header it
knows and `data` behind it. Lengths are held in `short` variables, and of a
packet it takes for truncated the length is not bounded by the capture.
-/

namespace TcpIpStack.Jpcap

open TcpIpStack.Java TcpIpStack.Lib

/-- C's conversion of an `int` to a `short`. -/
def short (n : Int) : Int := (n + 32768) % 65536 - 32768

def u_short (n : Int) : Int := n % 65536

/-- C's conversion of an `int` to an `unsigned int`. -/
def u_int (n : Int) : Int := n % 4294967296

def ETHERTYPE_IP : Nat := 0x0800
def ETHERTYPE_ARP : Nat := 0x0806
def ETHERTYPE_IPV6 : Nat := 0x86dd
def UNKNOWN_PROTO : Nat := 0xffff
def IPPROTO_ICMP : Nat := 1
def IPPROTO_TCP : Nat := 6
def IPPROTO_UDP : Nat := 17
def IP_OFFMASK : Nat := 0x1fff
def TCPHDRLEN : Int := 20
def UDPHDRLEN : Int := 8
def ICMPHDRLEN : Int := 8

/-- `offset_type` and `offset_data` of an Ethernet link. -/
def offset_type : Nat := 12
def offset_data : Nat := 14

/-- A 16-bit field in network order. -/
def ntohs (m : Memory Byte) (p : Nat) : Short := shortOf (m.region p 2)

def get_network_type (data : Memory Byte) : Nat := (ntohs data offset_type).toNat

/-- The fields of a `struct ip` at the pointer `ip`. -/
def ip_hl (m : Memory Byte) (ip : Nat) : Nat := (m ip).toNat % 16
def ip_len (m : Memory Byte) (ip : Nat) : Nat := (ntohs m (ip + 2)).toNat
def ip_off (m : Memory Byte) (ip : Nat) : Nat := (ntohs m (ip + 6)).toNat
def ip_p (m : Memory Byte) (ip : Nat) : Nat := (m (ip + 9)).toNat

/-- `analyze_arp`: the length of the message by its two address lengths. -/
def analyze_arp (m : Memory Byte) (arp : Nat) : Int :=
  8 + (m (arp + 4)).toNat * 2 + (m (arp + 5)).toNat * 2

/-- `analyze_tcp`: `th_off` in words. -/
def analyze_tcp (m : Memory Byte) (tcp : Nat) : Int := (m (tcp + 12)).toNat / 16 * 4

/-- What the analysis of a frame takes from elsewhere: the value of `tproto` where no
branch assigns it, and the walk over the extension headers of IPv6. -/
structure Elsewhere where
  tproto : Nat
  /-- The protocol behind the extension headers and what is left of `clen`. -/
  ipv6_headers : Memory Byte → Int → Nat × Int
  analyze_ipv6 : Memory Byte → Int

/-- One case of it. -/
def Elsewhere.zero : Elsewhere := ⟨0, fun _ _ => (0, 0), fun _ => 0⟩

/-- How the library fails: `NewByteArray` with a negative length, or a packet left
without its data. -/
inductive Fault where
  | negativeArraySize
  | noData
  deriving DecidableEq, Repr

/-- `NewByteArray` and `SetByteArrayRegion`. -/
def newByteArray (m : Memory Byte) (p n : Int) : Except Fault Bytes :=
  if n < 0 then .error .negativeArraySize else .ok (m.region p.toNat n.toNat)

/-- The transport protocol, and what is left of `clen`. -/
def transportProtocol (e : Elsewhere) (data : Memory Byte) (nproto : Nat) (clen : Int) : Nat × Int :=
  if 0 < clen then
    if nproto = ETHERTYPE_IP then
      let clen := short (clen - ip_hl data offset_data * 4)
      if 0 < clen ∧ ip_off data offset_data &&& IP_OFFMASK = 0 then (ip_p data offset_data, clen)
      else (ETHERTYPE_IP, clen)
    else if nproto = ETHERTYPE_IPV6 then e.ipv6_headers data (short (clen - 40))
    else if nproto = ETHERTYPE_ARP then
      let clen := short (clen - 28)
      (if 0 < clen then ETHERTYPE_ARP else e.tproto, clen)
    else if nproto = UNKNOWN_PROTO then (UNKNOWN_PROTO, clen)
    else (get_network_type data, clen)
  else (e.tproto, clen)

/-- The check for a truncated packet. -/
def Truncated (tproto : Nat) (clen : Int) : Prop :=
  tproto = IPPROTO_TCP ∧ clen < TCPHDRLEN ∨ tproto = IPPROTO_UDP ∧ clen < UDPHDRLEN ∨
    tproto = IPPROTO_ICMP ∧ clen < ICMPHDRLEN

instance (tproto : Nat) (clen : Int) : Decidable (Truncated tproto clen) :=
  inferInstanceAs (Decidable (_ ∨ _))

/-- The length of the packet and of its network header, read at the pointer `data`. -/
def analyzeNetwork (e : Elsewhere) (m : Memory Byte) (caplen data nproto : Nat) : Int × Int :=
  if nproto = ETHERTYPE_IP then (short (ip_len m data), ip_hl m data * 4)
  else if nproto = ETHERTYPE_IPV6 then
    (short (short (ntohs m (data + 4)).toNat + 40), short (e.analyze_ipv6 m))
  else if nproto = ETHERTYPE_ARP then (short (analyze_arp m data), short (analyze_arp m data))
  else if nproto = UNKNOWN_PROTO then (short caplen, 0)
  else (short (caplen - offset_data), 0)

/-- The length of the transport header at the pointer `data`. -/
def analyzeTransport (m : Memory Byte) (data : Int) (tproto : Nat) : Int :=
  if tproto = IPPROTO_TCP then analyze_tcp m data.toNat
  else if tproto = IPPROTO_UDP then UDPHDRLEN
  else if tproto = IPPROTO_ICMP then ICMPHDRLEN
  else 0

/-- The end of `get_packet`: the network header ends at `data` and `clen` bytes are
left of the packet, of which `hlen` are a transport header. -/
def setPacket (m : Memory Byte) (frametype : Short) (data clen hlen : Int) :
    Except Fault Packet := do
  let hlen := if clen < hlen then clen else hlen
  let clen := short (clen - hlen)
  let data := data + hlen
  let hlen := short (u_short data)
  let header ← newByteArray m 0 hlen
  if 0 ≤ clen then
    return ⟨frametype, header, ← newByteArray m data clen⟩
  else throw .noData

/-- `get_packet` of the `caplen` bytes at the pointer, as the stack sees its packet. -/
def get_packet (e : Elsewhere) (caplen : Nat) (m : Memory Byte) : Except Fault Packet := do
  let nproto := get_network_type m
  let (tproto, clen) := transportProtocol e m nproto (short (short caplen - offset_data))
  let tproto := if Truncated tproto clen then UNKNOWN_PROTO else tproto
  let data := if nproto = UNKNOWN_PROTO then 0 else offset_data
  let (clen, hlen) := analyzeNetwork e m caplen data nproto
  let clen := if nproto ≠ UNKNOWN_PROTO ∧ tproto ≠ UNKNOWN_PROTO ∧
      u_int (caplen - offset_data) < u_int clen then short (caplen - offset_data) else clen
  let data := data + hlen
  let clen := short (clen - hlen)
  setPacket m (ntohs m offset_type) data clen (analyzeTransport m data tproto)

end TcpIpStack.Jpcap
