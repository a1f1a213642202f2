import TcpIpStack.Protocol.IPFrame

/-!
# What the IP parser accepts

A frame is well formed for the device if its header has at least the fixed
fields and its total length, an unsigned number, covers the header and does not
exceed what was captured. The parser checks neither bound of the header, and it
takes the total length as a signed number.
-/

namespace TcpIpStack.IPProtocolLayer

open TcpIpStack.Java TcpIpStack.Lib

/-- The header length of a frame, in words. -/
def ihl (b : Bytes) : Nat := (b.getD 14 0).toNat % 16

/-- The total length of a frame's datagram. -/
def total (b : Bytes) : Nat := (shortOf (slice b 16 2)).toNat

/-- The frame holds a datagram for the device. -/
structure WellFormed (dev : DataLinkLayer) (b : Bytes) : Prop where
  destination : slice b 30 4 = dev.deviceIPAddress
  header : 5 ≤ ihl b ∧ ihl b ≤ 15
  total_length : 4 * ihl b ≤ total b ∧ total b + 14 ≤ b.length

/-- The table says what the frame says. -/
structure Delimits (b : Bytes) (headerInfo : Info) : Prop where
  source_ip : headerInfo .source_ip = some (.bytes (slice b 26 4))
  dest_ip : headerInfo .dest_ip = some (.bytes (slice b 30 4))
  protocol : headerInfo .protocol = some (.byte (b.getD 23 0))
  header : headerInfo .header = some (.bytes (slice b (14 + 4 * ihl b) (total b - 4 * ihl b)))

/-- The parser returns a table just for the well-formed frames, and the right one. -/
structure ParsesExactly (dev : DataLinkLayer) (packet : Packet) : Prop where
  accepts : (∃ headerInfo, handlePacket dev packet = .ok (some headerInfo)) ↔
    WellFormed dev (packet.header ++ packet.data)
  delimits : ∀ headerInfo, handlePacket dev packet = .ok (some headerInfo) →
    Delimits (packet.header ++ packet.data) headerInfo

section

variable {dev : DataLinkLayer} {b : Bytes}

theorem totalLength_toInt (b : Bytes) :
    (totalLength b).toInt = if total b < 2 ^ 15 then (total b : Int) else total b - 2 ^ 16 := by
  have hlt := (totalLength b).isLt
  show (totalLength b).toInt = if (totalLength b).toNat < 2 ^ 15 then ((totalLength b).toNat : Int)
    else (totalLength b).toNat - 2 ^ 16
  unfold BitVec.toInt
  split <;> split <;> omega

theorem ihl_le (b : Bytes) : ihl b ≤ 15 := by
  unfold ihl
  omega

/-- A frame that is taken has a total length below the sign bit. -/
theorem taken_iff (hlen : 34 ≤ b.length) :
    Taken dev b ↔ slice b 30 4 = dev.deviceIPAddress ∧ 4 * ihl b ≤ total b ∧
      total b + 14 ≤ b.length ∧ total b < 2 ^ 15 := by
  have htotal := totalLength_toInt b
  have hlt : total b < 2 ^ 16 := (totalLength b).isLt
  have hhl : headerLength b = 4 * ihl b := rfl
  rw [Taken, and_iff_right hlen, hhl]
  refine and_congr_right fun _ => ?_
  rw [htotal]
  split <;> omega

theorem Taken.delimits (h : Taken dev b) : Delimits b (info b) := by
  have htotal := totalLength_toInt b
  have hhl : headerLength b = 4 * ihl b := rfl
  have hbound := ((taken_iff h.1).mp h).2.2.2
  refine ⟨rfl, rfl, rfl, ?_⟩
  show some (Obj.bytes (payload b)) = _
  have hcount : ((totalLength b).toInt - headerLength b).toNat = total b - 4 * ihl b := by
    rw [htotal, if_pos hbound, hhl]
    omega
  have hstart : headerLength b + ETHERNET_FRAME_HEADER_LENGTH = 14 + 4 * ihl b := by
    rw [hhl, Nat.add_comm]
    rfl
  rw [payload, hcount, hstart]

/-- A table is returned for the frames that are taken, and it is that of the frame. -/
theorem handlePacket_eq_some_iff {packet : Packet} {headerInfo : Info} :
    handlePacket dev packet = .ok (some headerInfo) ↔
      Taken dev (packet.header ++ packet.data) ∧
        headerInfo = info (packet.header ++ packet.data) := by
  rcases handlePacket_bytes dev packet with ⟨htaken, hok⟩ | ⟨htaken, hno | ⟨e, he⟩⟩
  · rw [hok, and_iff_right htaken, Except.ok.injEq, Option.some.injEq]
    exact eq_comm
  · rw [hno]
    exact iff_of_false nofun fun h => htaken h.1
  · rw [he]
    exact iff_of_false nofun fun h => htaken h.1

theorem accepts_iff_taken {packet : Packet} :
    (∃ headerInfo, handlePacket dev packet = .ok (some headerInfo)) ↔
      Taken dev (packet.header ++ packet.data) := by
  constructor
  · rintro ⟨headerInfo, h⟩
    exact (handlePacket_eq_some_iff.mp h).1
  · intro h
    exact ⟨_, handlePacket_eq_some_iff.mpr ⟨h, rfl⟩⟩

theorem wellFormed_iff : WellFormed dev b ↔ slice b 30 4 = dev.deviceIPAddress ∧
    4 * ihl b ≤ total b ∧ total b + 14 ≤ b.length ∧ 5 ≤ ihl b := by
  have hihl := ihl_le b
  constructor
  · intro h
    exact ⟨h.destination, h.total_length.1, h.total_length.2, h.header.1⟩
  · rintro ⟨hdest, hmin, hmax, h5⟩
    exact ⟨hdest, ⟨h5, hihl⟩, hmin, hmax⟩

/-- Which frames are parsed exactly: for a frame to the device whose lengths fit, the
total length must stay below the sign bit just if the header has all fixed fields. -/
theorem parses_exactly_iff {packet : Packet}
    (hlen : 34 ≤ (packet.header ++ packet.data).length) :
    ParsesExactly dev packet ↔
      (slice (packet.header ++ packet.data) 30 4 = dev.deviceIPAddress →
        4 * ihl (packet.header ++ packet.data) ≤ total (packet.header ++ packet.data) →
        total (packet.header ++ packet.data) + 14 ≤ (packet.header ++ packet.data).length →
        (5 ≤ ihl (packet.header ++ packet.data) ↔ total (packet.header ++ packet.data) < 2 ^ 15)) := by
  have htaken := @taken_iff dev _ hlen
  constructor
  · intro h hdest hmin hmax
    have hiff := accepts_iff_taken.symm.trans h.accepts
    rw [htaken, wellFormed_iff] at hiff
    exact ⟨fun h5 => (hiff.mpr ⟨hdest, hmin, hmax, h5⟩).2.2.2,
      fun h15 => (hiff.mp ⟨hdest, hmin, hmax, h15⟩).2.2.2⟩
  · intro h
    refine ⟨?_, fun headerInfo hok => ?_⟩
    · rw [accepts_iff_taken, htaken, wellFormed_iff]
      exact and_congr_right fun hdest => and_congr_right fun hmin => and_congr_right fun hmax =>
        (h hdest hmin hmax).symm
    · obtain ⟨htaken, rfl⟩ := handlePacket_eq_some_iff.mp hok
      exact htaken.delimits

end

/-- A frame to the device with the first byte of an IP header, its total length and data. -/
def frameOf (first : Byte) (total_length : Short) (data : Bytes) : Packet :=
  ⟨ETHERTYPE_IP, List.replicate 14 0 ++ [first, 0] ++ shortBytes total_length ++
    [0, 0, 0, 0, 64, 17, 0, 0, 10, 0, 0, 1] ++ sampleDevice.deviceIPAddress, data⟩

/-- A header of five words and two bytes of data, one of them padding. -/
theorem parses_exactly_sample : ParsesExactly sampleDevice (frameOf 0x45 21 [1, 0]) :=
  (parses_exactly_iff (by decide)).mpr (by decide)

/-- A header of four words is taken, its last word being that of the payload. -/
theorem short_header_accepted :
    ¬ ∀ (dev : DataLinkLayer) (packet : Packet), 34 ≤ (packet.header ++ packet.data).length →
      ParsesExactly dev packet := by
  intro h
  have hframe := h sampleDevice (frameOf 0x44 20 []) (by decide)
  have hhandle : handlePacket sampleDevice (frameOf 0x44 20 []) =
      .ok (some (info ((frameOf 0x44 20 []).header ++ (frameOf 0x44 20 []).data))) := by
    rw [handlePacket_long rfl (by decide), if_neg (by decide), if_neg (by decide), if_pos (by decide)]
  exact absurd (hframe.accepts.mp ⟨_, hhandle⟩).header.1 (by decide)

end TcpIpStack.IPProtocolLayer
