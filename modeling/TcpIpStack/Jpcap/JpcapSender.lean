import TcpIpStack.Java.ByteBuffer
import TcpIpStack.Protocol.IProtocol

/-!
# Sending a frame

`nativeSendPacket` of `JpcapSender.c` lays the link header and the data out in a
buffer on the C stack and hands the library the frame, filled up to the shortest
one Ethernet has. The stack's packets are of none of the kinds `set_packet` knows,
so their data is copied as it is. C does not check that it fits: a longer frame is
written past the buffer and sent with its whole length. What that does is undefined
in C and left open here.
-/

namespace TcpIpStack.Jpcap

open TcpIpStack.Java

def MAX_PACKET_SIZE : Nat := 1600

/-- The buffer on the C stack. -/
structure Buffer where
  bytes : Bytes
  length_eq : bytes.length = MAX_PACKET_SIZE

def Buffer.zero : Buffer := ⟨List.replicate MAX_PACKET_SIZE 0, List.length_replicate ..⟩

/-- `GetByteArrayRegion`: the first `n` elements to the offset `i`; an array that has
fewer is left alone. -/
def getByteArrayRegion (a : Bytes) (n : Nat) (buf : Bytes) (i : Nat) : Bytes :=
  if n ≤ a.length then ByteBuffer.storeAt buf i (a.take n) else buf

/-- `set_ether`, which describes and clears the exception of a short address. -/
def set_ether (packet : Frame) (buf : Bytes) : Bytes :=
  let buf := getByteArrayRegion packet.src_mac 6 buf 6
  let buf := getByteArrayRegion packet.dst_mac 6 buf 0
  ByteBuffer.storeAt buf 12 (shortBytes packet.frametype)

/-- `set_packet` of a packet of no known kind: the buffer and the length. `none` where the
data runs over the end of the buffer: then nothing is said about the frame. -/
def set_packet (packet : Frame) (buf : Buffer) : Option (Bytes × Nat) :=
  let pointer := set_ether packet buf.bytes
  let length := packet.data.length
  if 14 + length ≤ MAX_PACKET_SIZE then
    some (getByteArrayRegion packet.data length pointer 14, length + 14)
  else none

/-- What `nativeSendPacket` hands to `pcap_sendpacket`, where that is defined. -/
def nativeSendPacket (packet : Frame) (buf : Buffer) : Option Bytes := do
  let (buf, length) ← set_packet packet buf
  let (buf, length) :=
    if length < 60 then (ByteBuffer.storeAt buf length (List.replicate (60 - length + 1) 0), 60)
    else (buf, length)
  return buf.take length

/-- The bytes of a frame. -/
def frameBytes (packet : Frame) : Bytes :=
  packet.dst_mac ++ packet.src_mac ++ shortBytes packet.frametype ++ packet.data

/-- The bytes of a frame, filled up with zeros. -/
def wire (packet : Frame) : Bytes :=
  frameBytes packet ++ List.replicate (60 - (frameBytes packet).length) 0

theorem frameBytes_length {packet : Frame} (hdst : packet.dst_mac.length = 6)
    (hsrc : packet.src_mac.length = 6) :
    (frameBytes packet).length = packet.data.length + 14 := by
  simp only [frameBytes, List.length_append, shortBytes_length, hdst, hsrc]
  omega

/-- Writing at the end of what is known of the buffer. -/
theorem storeAt_append {known rest xs : Bytes} {i n : Nat} (hi : known.length = i)
    (hn : xs.length = n) :
    ByteBuffer.storeAt (known ++ rest) i xs = known ++ xs ++ rest.drop n := by
  rw [ByteBuffer.storeAt, ← hi, ← hn, List.take_left, ← List.drop_drop, List.drop_left]

theorem getByteArrayRegion_append {known rest a : Bytes} {i n : Nat} (hi : known.length = i)
    (ha : a.length = n) :
    getByteArrayRegion a n (known ++ rest) i = known ++ a ++ rest.drop n := by
  rw [getByteArrayRegion, if_pos (by omega), List.take_of_length_le (by omega), storeAt_append hi ha]

theorem set_ether_eq {packet : Frame} (hdst : packet.dst_mac.length = 6)
    (hsrc : packet.src_mac.length = 6) {buf : Bytes} (hbuf : 14 ≤ buf.length) :
    set_ether packet buf =
      packet.dst_mac ++ packet.src_mac ++ shortBytes packet.frametype ++ buf.drop 14 := by
  have hfirst : (buf.take 6).length = 6 := by
    rw [List.length_take]
    omega
  have hsource : getByteArrayRegion packet.src_mac 6 buf 6 =
      buf.take 6 ++ (packet.src_mac ++ (buf.drop 6).drop 6) := by
    conv_lhs => rw [← List.take_append_drop 6 buf]
    rw [getByteArrayRegion_append hfirst hsrc, List.append_assoc]
  have hdest : getByteArrayRegion packet.dst_mac 6
      (buf.take 6 ++ (packet.src_mac ++ (buf.drop 6).drop 6)) 0 =
        packet.dst_mac ++ packet.src_mac ++ (buf.drop 6).drop 6 := by
    have h := @getByteArrayRegion_append []
      (buf.take 6 ++ (packet.src_mac ++ (buf.drop 6).drop 6)) packet.dst_mac 0 6 rfl hdst
    rw [List.nil_append, List.nil_append, List.drop_left' hfirst] at h
    rw [h, List.append_assoc]
  simp only [set_ether, hsource, hdest]
  rw [storeAt_append (by rw [List.length_append, hdst, hsrc]) (shortBytes_length _),
    List.drop_drop, List.drop_drop]

/-- A frame that fits leaves as its own bytes, filled up. -/
theorem nativeSendPacket_eq {packet : Frame} (hdst : packet.dst_mac.length = 6)
    (hsrc : packet.src_mac.length = 6) (hfits : packet.data.length ≤ 1586) (buf : Buffer) :
    nativeSendPacket packet buf = some (wire packet) := by
  have hbuf := buf.length_eq
  unfold MAX_PACKET_SIZE at hbuf
  have hlink : (packet.dst_mac ++ packet.src_mac ++ shortBytes packet.frametype).length = 14 := by
    rw [List.length_append, List.length_append, hdst, hsrc, shortBytes_length]
  have hlen := frameBytes_length hdst hsrc
  have hdata : getByteArrayRegion packet.data packet.data.length (set_ether packet buf.bytes) 14 =
      frameBytes packet ++ buf.bytes.drop (packet.data.length + 14) := by
    rw [set_ether_eq hdst hsrc (by omega), getByteArrayRegion_append hlink rfl, List.drop_drop,
      Nat.add_comm]
    rfl
  have hset : set_packet packet buf = some (frameBytes packet ++
      buf.bytes.drop (packet.data.length + 14), packet.data.length + 14) := by
    unfold set_packet MAX_PACKET_SIZE
    rw [if_pos (by omega), hdata]
  simp only [nativeSendPacket, hset, Option.bind_eq_bind, Option.bind_some, pure, wire]
  congr 1
  split
  · next hshort =>
    rw [storeAt_append hlen (List.length_replicate ..), List.take_append_of_le_length
      (by simp only [List.length_append, List.length_replicate]; omega), hlen,
      List.take_append, hlen, List.take_of_length_le (by omega), List.take_replicate]
    congr 2
    omega
  · next hlong =>
    rw [List.take_left' hlen, Nat.sub_eq_zero_of_le (by omega), List.replicate_zero, List.append_nil]

end TcpIpStack.Jpcap
