import TcpIpStack.Jpcap.JpcapCaptor

/-!
# Captured datagrams

Of a frame with an IP datagram the library hands over the datagram as far as it
was captured, padding cut off (`get_packet_eq`), unless the capture holds the
beginning of a TCP, UDP or ICMP header and not all of it. Then the length field
alone says how much is read (`overreads_iff`), and a length with the sign bit
makes the library fail (`fails_iff`).
-/

namespace TcpIpStack.Jpcap

open TcpIpStack.Java TcpIpStack.Lib
open IPProtocolLayer (ihl total)

/-- The `snaplen` of the devices `ProtocolEntry` opens. -/
def snaplen : Nat := 2000

/-- The captured bytes of a frame with an IP datagram, of which at least the fixed
fields of the header were captured. -/
structure CapturedIP where
  bytes : Bytes
  min_length : 34 ≤ bytes.length
  length_le : bytes.length ≤ snaplen
  frametype : shortOf (slice bytes 12 2) = TcpIpStack.ETHERTYPE_IP

section Conversions

theorem short_of_mem {n : Int} (hlo : -32768 ≤ n) (hhi : n < 32768) : short n = n := by
  unfold short
  omega

theorem short_mem (n : Int) : -32768 ≤ short n ∧ short n < 32768 := by
  unfold short
  omega

theorem short_u_short (n : Int) : short (u_short n) = short n := by
  unfold short u_short
  omega

/-- The length is bounded by the capture, also one that is negative as a `short`. -/
theorem bounded_length {caplen total : Nat} (hmin : 14 ≤ caplen) (hmax : caplen ≤ 2000)
    (htotal : total < 65536) :
    (if u_int (caplen - offset_data) < u_int (short total) then short (caplen - offset_data)
      else short total) = (min total (caplen - 14) : Nat) := by
  have hleft : (caplen - offset_data : Int) = (caplen - 14 : Nat) := by
    unfold offset_data
    omega
  rw [hleft]
  unfold u_int short
  split <;> omega

end Conversions

section Memory

variable {b : Bytes} {beyond : Memory Byte}

theorem ntohs_laid {p : Nat} (h : p + 2 ≤ b.length) :
    ntohs (.laid b beyond) p = shortOf (slice b p 2) := by
  rw [ntohs, Memory.region_laid h, slice]

theorem laid_getD {p : Nat} (h : p < b.length) : Memory.laid b beyond p = b.getD p 0 := by
  rw [Memory.laid_of_lt h, List.getD_eq_getElem _ _ h]

end Memory

/-- The end of `get_packet` cuts the packet behind its last header: what is left of it
is `clen`, from the pointer `p` on. -/
theorem setPacket_eq {m : Memory Byte} {frametype : Short} {p : Nat} {clen hlen : Int}
    (hp : p ≤ 2000) (hclen : clen < 32768) (hnonneg : 0 ≤ hlen) (hle : hlen ≤ 2000)
    (hend : 0 ≤ p + clen) :
    setPacket m frametype p clen hlen = .ok ⟨frametype, m.region 0 (p + min clen hlen).toNat,
      m.region (p + min clen hlen).toNat (clen - min clen hlen).toNat⟩ := by
  have hcut : (if clen < hlen then clen else hlen) = min clen hlen := by
    split <;> omega
  have hclen' : short (clen - min clen hlen) = clen - min clen hlen :=
    short_of_mem (by omega) (by omega)
  have hhlen : short (u_short (p + min clen hlen)) = p + min clen hlen := by
    rw [short_u_short, short_of_mem (by omega) (by omega)]
  simp only [setPacket, hcut, hclen', hhlen, newByteArray]
  rw [if_neg (by omega), ok_bind, if_pos (by omega), if_neg (by omega), ok_bind]
  rfl

/-- A packet that ends before the frame does: the header would be of negative length. -/
theorem setPacket_error {m : Memory Byte} {frametype : Short} {p : Nat} {clen hlen : Int}
    (hclen : -32768 ≤ clen) (hnonneg : 0 ≤ hlen) (hend : p + clen < 0) :
    setPacket m frametype p clen hlen = .error .negativeArraySize := by
  have hhlen : short (u_short (p + clen)) = p + clen := by
    rw [short_u_short, short_of_mem (by omega) (by omega)]
  simp only [setPacket, if_pos (show clen < hlen by omega), hhlen, newByteArray]
  rw [if_pos hend, error_bind]

namespace CapturedIP

/-- The bytes captured behind the IP header; none where its length field says more. -/
def rest (c : CapturedIP) : Int := c.bytes.length - 14 - 4 * ihl c.bytes

def protocol (c : CapturedIP) : Nat := (c.bytes.getD 23 0).toNat

/-- A transport header is looked for: something was captured behind the IP header, and
the datagram is no later fragment. -/
def Begins (c : CapturedIP) : Prop :=
  0 < c.rest ∧ (shortOf (slice c.bytes 20 2)).toNat &&& IP_OFFMASK = 0

instance (c : CapturedIP) : Decidable c.Begins := inferInstanceAs (Decidable (_ ∧ _))

/-- Not all of the transport header's fixed fields were captured. -/
def HeaderCut (c : CapturedIP) : Prop := c.Begins ∧ Truncated c.protocol c.rest

instance (c : CapturedIP) : Decidable c.HeaderCut := inferInstanceAs (Decidable (_ ∧ _))

/-- The length of the transport header; none where it was cut. -/
def transportHeader (c : CapturedIP) : Nat :=
  if c.Begins ∧ ¬ c.HeaderCut then
    if c.protocol = IPPROTO_TCP then (c.bytes.getD (14 + 4 * ihl c.bytes + 12) 0).toNat / 16 * 4
    else if c.protocol = IPPROTO_UDP then 8
    else if c.protocol = IPPROTO_ICMP then 8
    else 0
  else 0

/-- What was captured of the datagram. -/
def extent (c : CapturedIP) : Nat := min (total c.bytes) (c.bytes.length - 14)

/-- Where the header ends in the frame. -/
def headerEnd (c : CapturedIP) : Nat :=
  14 + min c.extent (4 * ihl c.bytes + c.transportHeader)

/-- The datagram as far as it was captured, cut behind its last header. -/
def packet (c : CapturedIP) : Packet where
  frametype := TcpIpStack.ETHERTYPE_IP
  header := c.bytes.take c.headerEnd
  data := (c.bytes.take (14 + c.extent)).drop c.headerEnd

variable (c : CapturedIP) (e : Elsewhere) (beyond : Memory Byte)

/-- The captured bytes and what stands behind them. -/
def memory : Memory Byte := .laid c.bytes beyond

theorem protocol_lt : c.protocol < 256 := (c.bytes.getD 23 0).isLt

theorem ntohs_memory {p : Nat} (h : p + 2 ≤ c.bytes.length) :
    ntohs (c.memory beyond) p = shortOf (slice c.bytes p 2) := ntohs_laid h

theorem frametype_memory : ntohs (c.memory beyond) offset_type = TcpIpStack.ETHERTYPE_IP := by
  have hlen := c.min_length
  rw [offset_type, c.ntohs_memory beyond (by omega), c.frametype]

theorem ip_hl_memory : ip_hl (c.memory beyond) offset_data = ihl c.bytes := by
  have hlen := c.min_length
  rw [ip_hl, offset_data, memory, laid_getD (by omega), ihl]

theorem ip_len_memory : ip_len (c.memory beyond) offset_data = total c.bytes := by
  have hlen := c.min_length
  rw [ip_len, offset_data, c.ntohs_memory beyond (by omega), total]

theorem ip_off_memory :
    ip_off (c.memory beyond) offset_data = (shortOf (slice c.bytes 20 2)).toNat := by
  have hlen := c.min_length
  rw [ip_off, offset_data, c.ntohs_memory beyond (by omega)]

theorem ip_p_memory : ip_p (c.memory beyond) offset_data = c.protocol := by
  have hlen := c.min_length
  rw [ip_p, offset_data, memory, laid_getD (by omega), protocol]

/-- The protocol `get_packet` finds, and the bytes left for it. -/
theorem transportProtocol_eq :
    transportProtocol e (c.memory beyond) ETHERTYPE_IP (short (short c.bytes.length - offset_data)) =
      (if c.Begins then c.protocol else ETHERTYPE_IP, c.rest) := by
  have hmin := c.min_length
  have hmax := c.length_le
  have hihl := IPProtocolLayer.ihl_le c.bytes
  unfold snaplen at hmax
  have hlen : short (short c.bytes.length - offset_data) = c.bytes.length - 14 := by
    rw [short_of_mem (n := (c.bytes.length : Int)) (by omega) (by omega)]
    exact short_of_mem (by unfold offset_data; omega) (by unfold offset_data; omega)
  have hrest : short (c.bytes.length - 14 - ihl c.bytes * 4) = c.rest := by
    rw [short_of_mem (by omega) (by omega), rest]
    omega
  rw [transportProtocol, hlen, if_pos (by omega), if_pos rfl, c.ip_hl_memory, hrest,
    c.ip_off_memory, c.ip_p_memory]
  by_cases hbegins : c.Begins
  · rw [if_pos hbegins]
    exact if_pos hbegins
  · rw [if_neg hbegins]
    exact if_neg hbegins

/-- The check for a truncated packet finds the cut headers. -/
theorem truncated_iff :
    Truncated (if c.Begins then c.protocol else ETHERTYPE_IP) c.rest ↔ c.HeaderCut := by
  by_cases hbegins : c.Begins
  · rw [if_pos hbegins, HeaderCut, and_iff_right hbegins]
  · rw [if_neg hbegins, HeaderCut]
    refine iff_of_false ?_ fun h => hbegins h.1
    rintro (⟨h, -⟩ | ⟨h, -⟩ | ⟨h, -⟩) <;> cases h

/-- The transport header's length, where the header was captured. -/
theorem analyzeTransport_eq (hcut : ¬ c.HeaderCut) :
    analyzeTransport (c.memory beyond) (offset_data + ihl c.bytes * 4 : Int)
      (if c.Begins then c.protocol else ETHERTYPE_IP) = c.transportHeader := by
  unfold transportHeader analyzeTransport
  by_cases hbegins : c.Begins
  · rw [if_pos hbegins, if_pos (show c.Begins ∧ ¬ c.HeaderCut from ⟨hbegins, hcut⟩)]
    by_cases htcp : c.protocol = IPPROTO_TCP
    · rw [if_pos htcp, if_pos htcp, analyze_tcp]
      have hrest : 20 ≤ c.rest := by
        by_contra hlt
        exact hcut ⟨hbegins, .inl ⟨htcp, by unfold TCPHDRLEN; omega⟩⟩
      have hptr : (offset_data + ihl c.bytes * 4 : Int).toNat + 12 = 14 + 4 * ihl c.bytes + 12 := by
        unfold offset_data
        omega
      rw [hptr, memory, laid_getD (by unfold rest at hrest; omega)]
      push_cast
      rfl
    · rw [if_neg htcp, if_neg htcp]
      split
      · rfl
      · split <;> rfl
  · rw [if_neg hbegins, if_neg fun h : c.Begins ∧ ¬ c.HeaderCut => hbegins h.1]
    rfl

/-- Every transport header is at most fifteen words long. -/
theorem transportHeader_le : c.transportHeader ≤ 60 := by
  have hbyte := (c.bytes.getD (14 + 4 * ihl c.bytes + 12) 0).isLt
  unfold transportHeader
  split
  · split
    · omega
    · split
      · omega
      · split <;> omega
  · omega

/-- `get_packet` of an IP frame: `clen` is bounded by the capture just if the headers
were captured. -/
theorem get_packet_run :
    get_packet e c.bytes.length (c.memory beyond) =
      if c.HeaderCut then
        setPacket (c.memory beyond) TcpIpStack.ETHERTYPE_IP (14 + 4 * ihl c.bytes : Nat)
          (short (short (total c.bytes) - ihl c.bytes * 4)) 0
      else setPacket (c.memory beyond) TcpIpStack.ETHERTYPE_IP (14 + 4 * ihl c.bytes : Nat)
          (c.extent - ihl c.bytes * 4) c.transportHeader := by
  have hmin := c.min_length
  have hmax := c.length_le
  have hihl := IPProtocolLayer.ihl_le c.bytes
  have htotal : total c.bytes < 65536 := (shortOf (slice c.bytes 16 2)).isLt
  unfold snaplen at hmax
  have htype : get_network_type (c.memory beyond) = ETHERTYPE_IP := by
    rw [get_network_type, c.frametype_memory]
    rfl
  have hnetwork : analyzeNetwork e (c.memory beyond) c.bytes.length offset_data ETHERTYPE_IP =
      (short (total c.bytes), (ihl c.bytes * 4 : Int)) := by
    rw [analyzeNetwork, if_pos rfl, c.ip_len_memory, c.ip_hl_memory]
  have hptr : (offset_data + ihl c.bytes * 4 : Int) = (14 + 4 * ihl c.bytes : Nat) := by
    unfold offset_data
    omega
  simp only [get_packet, htype, c.transportProtocol_eq, c.frametype_memory,
    if_neg (show ETHERTYPE_IP ≠ UNKNOWN_PROTO by decide), hnetwork]
  by_cases hcut : c.HeaderCut
  · rw [if_pos hcut, if_pos (c.truncated_iff.mpr hcut), hptr,
      if_neg (fun h => h.2.1 rfl)]
    rfl
  · have hknown : (if c.Begins then c.protocol else ETHERTYPE_IP) ≠ UNKNOWN_PROTO := by
      have hlt := c.protocol_lt
      unfold UNKNOWN_PROTO ETHERTYPE_IP
      split <;> omega
    have hbounded : ETHERTYPE_IP ≠ UNKNOWN_PROTO ∧
        (if c.Begins then c.protocol else ETHERTYPE_IP) ≠ UNKNOWN_PROTO ∧
          u_int (c.bytes.length - offset_data) < u_int (short (total c.bytes)) ↔
        u_int (c.bytes.length - offset_data) < u_int (short (total c.bytes)) :=
      (and_iff_right (by decide)).trans (and_iff_right hknown)
    have hclen := @bounded_length c.bytes.length _ (by omega) (by omega) htotal
    rw [← show c.extent = min (total c.bytes) (c.bytes.length - 14) from rfl] at hclen
    rw [if_neg hcut, if_neg (fun h => hcut (c.truncated_iff.mp h)),
      if_congr hbounded rfl rfl, hclen, c.analyzeTransport_eq beyond hcut, short_of_mem (by unfold extent; omega) (by unfold extent; omega),
      hptr]

theorem transportHeader_cut (hcut : c.HeaderCut) : c.transportHeader = 0 :=
  if_neg fun h => h.2 hcut

theorem headerEnd_le : c.headerEnd ≤ 14 + c.extent := by
  unfold headerEnd
  omega

theorem extent_le : 14 + c.extent ≤ c.bytes.length := by
  have hmin := c.min_length
  unfold extent
  omega

/-- The end of `get_packet` on the extent of the datagram. -/
theorem setPacket_extent : setPacket (c.memory beyond) TcpIpStack.ETHERTYPE_IP
    (14 + 4 * ihl c.bytes : Nat) (c.extent - ihl c.bytes * 4) c.transportHeader = .ok c.packet := by
  have hmax := c.length_le
  have hihl := IPProtocolLayer.ihl_le c.bytes
  have htransport := c.transportHeader_le
  have hend := c.headerEnd_le
  have hextent := c.extent_le
  unfold snaplen at hmax
  have hheader : ((14 + 4 * ihl c.bytes : Nat) +
      min (c.extent - ihl c.bytes * 4 : Int) c.transportHeader).toNat = c.headerEnd := by
    unfold headerEnd
    omega
  have hdata : ((c.extent - ihl c.bytes * 4 : Int) -
      min (c.extent - ihl c.bytes * 4 : Int) c.transportHeader).toNat = 14 + c.extent - c.headerEnd := by
    unfold headerEnd
    omega
  rw [setPacket_eq (by omega) (by omega) (by omega) (by omega) (by omega), hheader, hdata, memory,
    Memory.region_laid_zero (by omega), Memory.region_laid (by omega), packet, List.drop_take]

/-- The library hands over the datagram as far as it was captured, whatever stands
behind the capture, unless a header was cut and the length says more than was captured. -/
theorem get_packet_eq (hcut : c.HeaderCut → total c.bytes + 14 ≤ c.bytes.length) :
    get_packet e c.bytes.length (c.memory beyond) = .ok c.packet := by
  have hmax := c.length_le
  have hihl := IPProtocolLayer.ihl_le c.bytes
  unfold snaplen at hmax
  rw [c.get_packet_run]
  by_cases h : c.HeaderCut
  · have hle := hcut h
    have hclen : short (short (total c.bytes) - ihl c.bytes * 4) = c.extent - ihl c.bytes * 4 := by
      unfold short extent
      omega
    have hnone : (0 : Int) = c.transportHeader := by rw [c.transportHeader_cut h]; rfl
    rw [if_pos h, hclen, hnone, setPacket_extent]
  · rw [if_neg h, setPacket_extent]

/-- The library fails just on a cut header with a length between the sign bit and the
last fourteen lengths, which reach back into the link header. -/
theorem fails_iff :
    get_packet e c.bytes.length (c.memory beyond) = .error .negativeArraySize ↔
      c.HeaderCut ∧ 32768 + 4 * ihl c.bytes ≤ total c.bytes ∧ total c.bytes < 65522 := by
  have hihl := IPProtocolLayer.ihl_le c.bytes
  have htotal : total c.bytes < 65536 := (shortOf (slice c.bytes 16 2)).isLt
  have hmem := short_mem (short (total c.bytes) - ihl c.bytes * 4)
  by_cases hcut : c.HeaderCut
  · rw [c.get_packet_run, if_pos hcut, and_iff_right hcut]
    by_cases hend : 0 ≤ ((14 + 4 * ihl c.bytes : Nat) : Int) +
        short (short (total c.bytes) - ihl c.bytes * 4)
    · rw [setPacket_eq (by omega) hmem.2 (by omega) (by omega) hend]
      refine iff_of_false nofun ?_
      unfold short at hend
      omega
    · rw [setPacket_error hmem.1 (by omega) (by omega)]
      refine iff_of_true rfl ?_
      unfold short at hend
      omega
  · rw [c.get_packet_eq e beyond fun h => absurd h hcut]
    exact iff_of_false nofun fun h => hcut h.1

/-- Of a datagram with a cut header the length field says how much is read. -/
theorem get_packet_cut (hcut : c.HeaderCut) (hlong : total c.bytes < 32768 + 4 * ihl c.bytes) :
    ∃ p, get_packet e c.bytes.length (c.memory beyond) = .ok p ∧
      p.header.length + p.data.length = 14 + total c.bytes := by
  have hihl := IPProtocolLayer.ihl_le c.bytes
  have hclen : short (short (total c.bytes) - ihl c.bytes * 4) = total c.bytes - ihl c.bytes * 4 := by
    unfold short
    omega
  rw [c.get_packet_run, if_pos hcut, hclen]
  refine ⟨_, setPacket_eq (by omega) (by omega) (by omega) (by omega) (by omega), ?_⟩
  rw [Memory.region_length, Memory.region_length]
  omega

/-- A length in the last fourteen: the packet ends inside the link header. -/
theorem get_packet_wrapped (hcut : c.HeaderCut) (hwrap : 65522 ≤ total c.bytes) :
    get_packet e c.bytes.length (c.memory beyond) =
      .ok ⟨TcpIpStack.ETHERTYPE_IP, c.bytes.take (total c.bytes - 65522), []⟩ := by
  have hmin := c.min_length
  have hihl := IPProtocolLayer.ihl_le c.bytes
  have htotal : total c.bytes < 65536 := (shortOf (slice c.bytes 16 2)).isLt
  have hclen : short (short (total c.bytes) - ihl c.bytes * 4) =
      total c.bytes - 65536 - ihl c.bytes * 4 := by
    unfold short
    omega
  have hheader : ((14 + 4 * ihl c.bytes : Nat) +
      min (total c.bytes - 65536 - ihl c.bytes * 4 : Int) 0).toNat = total c.bytes - 65522 := by
    omega
  have hdata : ((total c.bytes - 65536 - ihl c.bytes * 4 : Int) -
      min (total c.bytes - 65536 - ihl c.bytes * 4 : Int) 0).toNat = 0 := by
    omega
  rw [c.get_packet_run, if_pos hcut, hclen,
    setPacket_eq (by omega) (by omega) (by omega) (by omega) (by omega), hheader, hdata, memory,
    Memory.region_laid_zero (by omega), Memory.region_zero]

/-- The library hands over captured bytes and nothing else. -/
def Sound (c : CapturedIP) : Prop :=
  ∃ p, (∀ e beyond, get_packet e c.bytes.length (c.memory beyond) = .ok p) ∧
    p.header ++ p.data <+: c.bytes

theorem packet_bytes : c.packet.header ++ c.packet.data = c.bytes.take (14 + c.extent) := by
  have hheader : c.bytes.take c.headerEnd = (c.bytes.take (14 + c.extent)).take c.headerEnd := by
    rw [List.take_take, Nat.min_eq_left c.headerEnd_le]
  show c.bytes.take c.headerEnd ++ (c.bytes.take (14 + c.extent)).drop c.headerEnd = _
  rw [hheader, List.take_append_drop]

theorem sound_of_le (h : c.HeaderCut → total c.bytes + 14 ≤ c.bytes.length) : c.Sound :=
  ⟨c.packet, fun e beyond => c.get_packet_eq e beyond h, by
    rw [packet_bytes]
    exact List.take_prefix ..⟩

theorem sound_of_wrapped (hcut : c.HeaderCut) (hwrap : 65522 ≤ total c.bytes) : c.Sound := by
  refine ⟨_, fun e beyond => c.get_packet_wrapped e beyond hcut hwrap, ?_⟩
  dsimp only
  rw [List.append_nil]
  exact List.take_prefix ..

theorem not_sound (hcut : c.HeaderCut) (hlong : c.bytes.length < total c.bytes + 14)
    (hwrap : total c.bytes < 65522) : ¬ c.Sound := by
  rintro ⟨p, hp, hprefix⟩
  have hrun := hp .zero fun _ => 0
  by_cases hneg : total c.bytes < 32768 + 4 * ihl c.bytes
  · obtain ⟨p', hp', hcount⟩ := c.get_packet_cut .zero (fun _ => 0) hcut hneg
    obtain rfl : p = p' := Except.ok.inj (hrun.symm.trans hp')
    have hle := hprefix.length_le
    rw [List.length_append] at hle
    omega
  · have hfail := (c.fails_iff .zero fun _ => 0).mpr ⟨hcut, by omega, hwrap⟩
    cases hrun.symm.trans hfail

/-- When the library is sound: where a transport header was cut, the length field must
not say more than was captured, unless it wraps into the link header. -/
theorem sound_iff : c.Sound ↔
    (c.HeaderCut → total c.bytes + 14 ≤ c.bytes.length ∨ 65522 ≤ total c.bytes) := by
  constructor
  · intro h hcut
    by_contra hbad
    exact c.not_sound hcut (by omega) (by omega) h
  · intro h
    by_cases hcut : c.HeaderCut
    · rcases h hcut with hle | hwrap
      · exact c.sound_of_le fun _ => hle
      · exact c.sound_of_wrapped hcut hwrap
    · exact c.sound_of_le fun hcut' => absurd hcut' hcut

/-- Inside a prefix of the frame a field reads as in the frame. -/
theorem slice_take {b : Bytes} {i k n : Nat} (h : i + k ≤ n) : slice (b.take n) i k = slice b i k := by
  rw [slice, slice, List.drop_take, List.take_take, Nat.min_eq_left (by omega)]

theorem getD_take {b : Bytes} {i n : Nat} (h : i < n) : (b.take n).getD i 0 = b.getD i 0 := by
  rw [List.getD_eq_getElem?_getD, List.getD_eq_getElem?_getD, List.getElem?_take_of_lt h]

/-- A prefix with the datagram in it is taken as the frame is, and read as the frame. -/
theorem taken_take {dev : DataLinkLayer} {b : Bytes} {n : Nat} (hn : 34 ≤ n) (hlen : n ≤ b.length)
    (hall : 14 + total b ≤ b.length → 14 + total b ≤ n) :
    (IPProtocolLayer.Taken dev (b.take n) ↔ IPProtocolLayer.Taken dev b) ∧
      (IPProtocolLayer.Taken dev b → IPProtocolLayer.info (b.take n) = IPProtocolLayer.info b) := by
  have htotal : total (b.take n) = total b := by
    rw [total, slice_take (by omega), total]
  have hihl : ihl (b.take n) = ihl b := by
    rw [ihl, getD_take (by omega), ihl]
  have hlength : (b.take n).length = n := by
    rw [List.length_take]
    omega
  have hiff : IPProtocolLayer.Taken dev (b.take n) ↔ IPProtocolLayer.Taken dev b := by
    rw [IPProtocolLayer.taken_iff (by omega), IPProtocolLayer.taken_iff (by omega), htotal, hihl,
      hlength, slice_take (by omega)]
    constructor
    · rintro ⟨hdest, hmin, hmax, hsign⟩
      exact ⟨hdest, hmin, by omega, hsign⟩
    · rintro ⟨hdest, hmin, hmax, hsign⟩
      exact ⟨hdest, hmin, by omega, hsign⟩
  refine ⟨hiff, fun htaken => ?_⟩
  obtain ⟨-, hmin, hmax, hsign⟩ := (IPProtocolLayer.taken_iff (by omega)).mp htaken
  have hheader : IPProtocolLayer.headerLength (b.take n) = IPProtocolLayer.headerLength b := by
    show 4 * ihl (b.take n) = 4 * ihl b
    rw [hihl]
  have hlong : IPProtocolLayer.totalLength (b.take n) = IPProtocolLayer.totalLength b := by
    show shortOf (slice (b.take n) 16 2) = shortOf (slice b 16 2)
    rw [slice_take (by omega)]
  have hend : IPProtocolLayer.headerLength b + 14 +
      ((IPProtocolLayer.totalLength b).toInt - IPProtocolLayer.headerLength b).toNat ≤ n := by
    have hcount := IPProtocolLayer.totalLength_toInt b
    rw [if_pos hsign] at hcount
    have hhl : IPProtocolLayer.headerLength b = 4 * ihl b := rfl
    omega
  have hpayload : IPProtocolLayer.payload (b.take n) = IPProtocolLayer.payload b := by
    rw [IPProtocolLayer.payload, hheader, hlong]
    exact slice_take hend
  have hsource : slice (b.take n) IPProtocolLayer.SOURCE_IP_OFFSET 4 =
      slice b IPProtocolLayer.SOURCE_IP_OFFSET 4 := slice_take (show 30 ≤ n by omega)
  have hdest : slice (b.take n) IPProtocolLayer.DEST_IP_OFFSET 4 =
      slice b IPProtocolLayer.DEST_IP_OFFSET 4 := slice_take (show 34 ≤ n by omega)
  have hproto : (b.take n).getD IPProtocolLayer.PROTOCOL_INDICATOR_OFFSET 0 =
      b.getD IPProtocolLayer.PROTOCOL_INDICATOR_OFFSET 0 := getD_take (show 23 < n by omega)
  unfold IPProtocolLayer.info
  rw [hsource, hdest, hproto, hpayload]

/-- What the stack makes of a captured frame is what it makes of the frame itself, as
long as the datagram has room for the addresses. -/
theorem parsed_iff {dev : DataLinkLayer} {headerInfo : Info} :
    IPProtocolLayer.handlePacket dev c.packet = .ok (some headerInfo) ↔
      IPProtocolLayer.Taken dev c.bytes ∧ 20 ≤ total c.bytes ∧
        headerInfo = IPProtocolLayer.info c.bytes := by
  have hmin := c.min_length
  have hextent := c.extent_le
  rw [IPProtocolLayer.handlePacket_eq_some_iff, packet_bytes]
  by_cases hlong : 20 ≤ c.extent
  · obtain ⟨hiff, hinfo⟩ := @taken_take dev c.bytes (14 + c.extent) (by omega)
      hextent (by unfold extent; omega)
    have htotal : 20 ≤ total c.bytes := by
      unfold extent at hlong
      omega
    rw [hiff, and_iff_right htotal]
    exact and_congr_right fun htaken => by rw [hinfo htaken]
  · have hshort : total c.bytes < 20 := by
      unfold extent at hlong
      omega
    refine iff_of_false (fun h => ?_) (fun h => by omega)
    have hlen := h.1.1
    rw [List.length_take] at hlen
    omega

/-- The capture and the IP layer together, on a frame whose headers were captured: one
packet for whatever stands behind the capture, taken for the frame's own fields. -/
theorem captured_parsed (h : c.HeaderCut → total c.bytes + 14 ≤ c.bytes.length) :
    ∃ p, (∀ e beyond, get_packet e c.bytes.length (c.memory beyond) = .ok p) ∧
      p.frametype = TcpIpStack.ETHERTYPE_IP ∧
      p.header ++ p.data = c.bytes.take (14 + total c.bytes) ∧
      ∀ dev headerInfo, IPProtocolLayer.handlePacket dev p = .ok (some headerInfo) ↔
        IPProtocolLayer.Taken dev c.bytes ∧ 20 ≤ total c.bytes ∧
          headerInfo = IPProtocolLayer.info c.bytes := by
  refine ⟨c.packet, fun e beyond => c.get_packet_eq e beyond h, rfl, ?_, fun _ _ => c.parsed_iff⟩
  rw [packet_bytes, List.take_eq_take_iff]
  have hmin := c.min_length
  unfold extent
  omega

end CapturedIP

/-- The beginning of a frame: a UDP datagram of 29 bytes by its length field, and what
was captured behind the IP header. -/
def datagramBytes (captured : Bytes) : Bytes :=
  List.replicate 12 0 ++ [8, 0, 0x45, 0, 0, 29, 0, 1, 0, 0, 64, 17, 0, 0, 10, 0, 0, 1, 192, 168, 1, 118] ++
    captured

/-- The datagram with the padding of the shortest frame. -/
def paddedDatagram : CapturedIP where
  bytes := datagramBytes ([0, 53, 0, 68, 0, 9, 0, 0, 7] ++ List.replicate 17 0)
  min_length := by decide
  length_le := by decide
  frametype := by decide

theorem captured_padded :
    ∃ p, (∀ e beyond, get_packet e paddedDatagram.bytes.length (paddedDatagram.memory beyond) = .ok p) ∧
      p.frametype = TcpIpStack.ETHERTYPE_IP ∧
      p.header ++ p.data = paddedDatagram.bytes.take (14 + total paddedDatagram.bytes) ∧
      ∀ dev headerInfo, IPProtocolLayer.handlePacket dev p = .ok (some headerInfo) ↔
        IPProtocolLayer.Taken dev paddedDatagram.bytes ∧ 20 ≤ total paddedDatagram.bytes ∧
          headerInfo = IPProtocolLayer.info paddedDatagram.bytes :=
  CapturedIP.captured_parsed paddedDatagram fun _ => by decide

/-- The datagram with four bytes of its UDP header captured. -/
def cutDatagram : CapturedIP where
  bytes := datagramBytes [0, 53, 0, 68]
  min_length := by decide
  length_le := by decide
  frametype := by decide

example : ¬ cutDatagram.Sound := CapturedIP.not_sound _ (by decide) (by decide) (by decide)

end TcpIpStack.Jpcap
