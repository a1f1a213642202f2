import TcpIpStack.Protocol.IPFrame

/-!
# The layout of an IP header

`Fields` are the values of an IP header with up to forty bytes of options, an
optional field already at its default. `createHeader_fields` is the header the
encoder builds from a table of them: every field sits where RFC 791 has it, but
the total length counts the options twice, once by themselves and once in the
header length.
-/

namespace TcpIpStack.IPProtocolLayer

open TcpIpStack.Java TcpIpStack.Lib

/-- The fields of a header, each in its own range. -/
structure Fields where
  dscp : Byte
  ecn : Byte
  data_length : JInt
  identification : Short
  flag : Short
  fragment_offset : Short
  time_to_live : Byte
  protocol : Byte
  source_ip : JInt
  destination_ip : JInt
  options : Bytes
  dscp_lt : dscp.toNat < 64
  ecn_lt : ecn.toNat < 4
  flag_lt : flag.toNat < 8
  fragment_offset_lt : fragment_offset.toNat < 8192
  options_words : options.length % 4 = 0
  options_length_le : options.length ≤ 40
  data_length_nonneg : 0 ≤ data_length.toInt
  fits : 20 + options.length + data_length.toInt ≤ 65535

namespace Fields

/-- Five words and one for every four bytes of options. -/
def internet_header_length (f : Fields) : Byte := BitVec.ofNat 8 (5 + f.options.length / 4)

/-- The table has these values: an optional one may be absent where it is the
default, and options are absent when there are none. -/
structure EnteredIn (f : Fields) (dev : DataLinkLayer) (headerInfo : Info) : Prop where
  internet_header_length :
    (headerInfo .internet_header_length).getD (.byte 5) = .byte f.internet_header_length
  dscp : (headerInfo .dscp).getD (.byte 0) = .byte f.dscp
  ecn : (headerInfo .ecn).getD (.byte 0) = .byte f.ecn
  data_length : headerInfo .data_length = some (.int f.data_length)
  identification : (headerInfo .identification).getD (.short 0) = .short f.identification
  flag : (headerInfo .flag).getD (.short 0) = .short f.flag
  fragment_offset : (headerInfo .fragment_offset).getD (.short 0) = .short f.fragment_offset
  time_to_live : (headerInfo .time_to_live).getD (.byte 64) = .byte f.time_to_live
  protocol : headerInfo .protocol = some (.byte f.protocol)
  source_ip : (headerInfo .source_ip).getD (.int (intOf dev.deviceIPAddress)) = .int f.source_ip
  destination_ip : headerInfo .destination_ip = some (.int f.destination_ip)
  options : headerInfo .options = if f.options = [] then none else some (.bytes f.options)

/-- The bytes read as these fields, each at its place in the header. -/
structure ReadFrom (f : Fields) (a : Bytes) : Prop where
  length : a.length = 20 + f.options.length
  version : (a.getD 0 0).toNat / 16 = 4
  internet_header_length : (a.getD 0 0).toNat % 16 = 5 + f.options.length / 4
  dscp : (a.getD 1 0).toNat / 4 = f.dscp.toNat
  ecn : (a.getD 1 0).toNat % 4 = f.ecn.toNat
  total_length : ((shortOf (slice a 2 2)).toNat : Int) = 20 + f.options.length + f.data_length.toInt
  identification : shortOf (slice a 4 2) = f.identification
  flag : (shortOf (slice a 6 2)).toNat / 8192 = f.flag.toNat
  fragment_offset : (shortOf (slice a 6 2)).toNat % 8192 = f.fragment_offset.toNat
  time_to_live : a.getD 8 0 = f.time_to_live
  protocol : a.getD 9 0 = f.protocol
  source_ip : intOf (slice a 12 4) = f.source_ip
  destination_ip : intOf (slice a 16 4) = f.destination_ip
  options : a.drop 20 = f.options

/-! ## Packed fields -/

/-- Two values that share an `int`, the upper one shifted past the lower. -/
theorem toNat_pack {w n : Nat} {hi lo : BitVec w} (hlo : lo.toNat < 2 ^ n)
    (hhi : hi.toNat * 2 ^ n < 2 ^ w) : (hi <<< n ||| lo).toNat = hi.toNat * 2 ^ n + lo.toNat := by
  rw [BitVec.toNat_or, BitVec.toNat_shiftLeft, Nat.shiftLeft_eq, Nat.mod_eq_of_lt hhi,
    ← Nat.shiftLeft_eq, Nat.shiftLeft_add_eq_or_of_lt hlo]

theorem toNat_signExtend_byte {b : Byte} (h : b.toNat < 128) : (b.signExtend 32).toNat = b.toNat := by
  rw [BitVec.signExtend_eq_setWidth_of_msb_false (BitVec.msb_eq_false_iff_two_mul_lt.mpr (by omega)),
    BitVec.toNat_setWidth]
  omega

/-- The first byte of the header. -/
def firstByte (f : Fields) : Byte :=
  ((IP_VERSION &&& 0x0F).signExtend 32 <<< 4 ||| f.internet_header_length.signExtend 32).setWidth 8

/-- Its second: the type of service. -/
def serviceByte (f : Fields) : Byte :=
  (f.dscp.signExtend 32 <<< 2 ||| f.ecn.signExtend 32).setWidth 8

/-- The total length as the encoder computes it. -/
def totalLength (f : Fields) : Short :=
  (f.data_length + BitVec.ofNat 32 f.options.length +
    f.internet_header_length.signExtend 32 * 4).setWidth 16

def flagAndOffset (f : Fields) : Short := f.flag <<< 13 ||| f.fragment_offset

theorem internet_header_length_toNat (f : Fields) :
    f.internet_header_length.toNat = 5 + f.options.length / 4 := by
  have := f.options_length_le
  rw [internet_header_length, BitVec.toNat_ofNat]
  omega

theorem firstByte_toNat (f : Fields) : f.firstByte.toNat = 64 + (5 + f.options.length / 4) := by
  have hle := f.options_length_le
  have hihl := f.internet_header_length_toNat
  have hext := toNat_signExtend_byte (b := f.internet_header_length) (by omega)
  have hversion : ((IP_VERSION &&& 0x0F).signExtend 32).toNat = 4 := by decide
  rw [firstByte, BitVec.toNat_setWidth, toNat_pack (by omega) (by omega), hext, hihl, hversion]
  omega

theorem serviceByte_toNat (f : Fields) : f.serviceByte.toNat = f.dscp.toNat * 4 + f.ecn.toNat := by
  have hdscp := f.dscp_lt
  have hecn := f.ecn_lt
  have hd := toNat_signExtend_byte (b := f.dscp) (by omega)
  have he := toNat_signExtend_byte (b := f.ecn) (by omega)
  rw [serviceByte, BitVec.toNat_setWidth, toNat_pack (by omega) (by omega), hd, he]
  omega

theorem flagAndOffset_toNat (f : Fields) :
    f.flagAndOffset.toNat = f.flag.toNat * 8192 + f.fragment_offset.toNat := by
  have hflag := f.flag_lt
  exact toNat_pack f.fragment_offset_lt (by omega)

theorem data_length_toNat (f : Fields) : (f.data_length.toNat : Int) = f.data_length.toInt := by
  have hnonneg := f.data_length_nonneg
  rw [BitVec.toInt_eq_toNat_cond] at hnonneg ⊢
  split at hnonneg <;> omega

/-- The options are counted twice. -/
theorem totalLength_toNat (f : Fields) :
    (f.totalLength.toNat : Int) = (20 + 2 * f.options.length + f.data_length.toInt) % 65536 := by
  have hle := f.options_length_le
  have hwords := f.options_words
  have hfits := f.fits
  have hdata := f.data_length_toNat
  have hihl := f.internet_header_length_toNat
  have hext := toNat_signExtend_byte (b := f.internet_header_length) (by omega)
  have hfour : (4 : JInt).toNat = 4 := rfl
  rw [totalLength, BitVec.toNat_setWidth, BitVec.toNat_add, BitVec.toNat_add, BitVec.toNat_mul,
    BitVec.toNat_ofNat, hext, hihl, hfour]
  omega

/-! ## The header -/

/-- The header the encoder builds, but for its checksum `c`. -/
def bytes (f : Fields) (c : Short) : Bytes :=
  [f.firstByte, f.serviceByte] ++ shortBytes f.totalLength ++ shortBytes f.identification ++
    shortBytes f.flagAndOffset ++ [f.time_to_live, f.protocol] ++ shortBytes c ++
    intBytes f.source_ip ++ intBytes f.destination_ip ++ f.options

theorem bytes_length (f : Fields) (c : Short) : (f.bytes c).length = 20 + f.options.length := by
  simp [bytes]
  omega

/-- The header reads as its fields except that the total length counts the options
twice, which only a header without options gets away with. -/
theorem readFrom_bytes_iff (f : Fields) (c : Short) : f.ReadFrom (f.bytes c) ↔ f.options = [] := by
  have hle := f.options_length_le
  have hfits := f.fits
  have hnonneg := f.data_length_nonneg
  have htotal := f.totalLength_toNat
  have hread : shortOf (slice (f.bytes c) 2 2) = f.totalLength := shortOf_shortBytes _
  constructor
  · intro h
    have hgiven := h.total_length
    rw [hread, htotal] at hgiven
    exact List.eq_nil_of_length_eq_zero (by omega)
  · intro hnil
    have hfirst := f.firstByte_toNat
    have hservice := f.serviceByte_toNat
    have hecn := f.ecn_lt
    have hflags := f.flagAndOffset_toNat
    have hoff := f.fragment_offset_lt
    have hflag : shortOf (slice (f.bytes c) 6 2) = f.flagAndOffset := shortOf_shortBytes _
    have hzero : f.options.length = 0 := by rw [hnil, List.length_nil]
    exact {
      length := f.bytes_length c
      version := by show f.firstByte.toNat / 16 = 4; omega
      internet_header_length := by show f.firstByte.toNat % 16 = _; omega
      dscp := by show f.serviceByte.toNat / 4 = _; omega
      ecn := by show f.serviceByte.toNat % 4 = _; omega
      total_length := by rw [hread]; omega
      identification := shortOf_shortBytes _
      flag := by rw [hflag]; omega
      fragment_offset := by rw [hflag]; omega
      time_to_live := rfl
      protocol := rfl
      source_ip := intOf_intBytes _
      destination_ip := intOf_intBytes _
      options := rfl }

theorem EnteredIn.getBytes_options {f : Fields} {dev : DataLinkLayer} {headerInfo : Info}
    (h : f.EnteredIn dev headerInfo) :
    headerInfo.getBytes .options = .ok (if f.options = [] then none else some f.options) := by
  rw [Info.getBytes, h.options]
  by_cases hnil : f.options = []
  · rw [if_pos hnil, if_pos hnil]
  · rw [if_neg hnil, if_neg hnil]
    rfl

/-- The encoder builds the header of the fields. -/
theorem createHeader_fields {f : Fields} {dev : DataLinkLayer} {headerInfo : Info}
    (h : f.EnteredIn dev headerInfo) :
    ∃ c, createHeader dev headerInfo = .ok (some (f.bytes c)) := by
  have hoptions : (if f.options = [] then none else some f.options).getD [] = f.options := by
    split
    · rename_i hnil
      rw [Option.getD_none, hnil]
    · rfl
  have hroom : f.internet_header_length.toInt * 4 = (f.options.length + 20 : Nat) := by
    have hle := f.options_length_le
    have hwords := f.options_words
    have hihl := f.internet_header_length_toNat
    rw [BitVec.toInt_eq_toNat_of_lt (by omega), hihl]
    omega
  have hlay := layoutHeader_parts
    (Info.getOr_of_getD (fun _ => rfl) h.internet_header_length)
    (Info.getOr_of_getD (fun _ => rfl) h.dscp) (Info.getOr_of_getD (fun _ => rfl) h.ecn)
    h.data_length h.getBytes_options (Info.getOr_of_getD (fun _ => rfl) h.identification)
    (Info.getOr_of_getD (fun _ => rfl) h.flag)
    (Info.getOr_of_getD (fun _ => rfl) h.fragment_offset)
    (Info.getOr_of_getD (fun _ => rfl) h.time_to_live) h.protocol
    (Info.getOr_of_getD (fun _ => rfl) h.source_ip) h.destination_ip (by rw [hoptions, hroom])
  rw [hoptions] at hlay
  rw [createHeader, hlay, ok_bind]
  obtain ⟨c, hc⟩ := @Utility.storeChecksum_eq CHECKSUM_OFFSET (ByteBuffer.fresh
    ([f.firstByte, f.serviceByte] ++ shortBytes f.totalLength ++ shortBytes f.identification ++
      shortBytes f.flagAndOffset ++ [f.time_to_live, f.protocol] ++ [0, 0] ++
      intBytes f.source_ip ++ intBytes f.destination_ip ++ f.options) 0)
    (by simp [CHECKSUM_OFFSET]; omega)
  refine ⟨c, hc.trans ?_⟩
  rw [ByteBuffer.fresh_array, List.replicate_zero, List.append_nil]
  rfl

end Fields

/-- A header is laid out field by field as its table says if and only if it has
no options: those the total length counts twice. -/
theorem createHeader_lays_out_iff (dev : DataLinkLayer) (f : Fields) {headerInfo : Info}
    (h : f.EnteredIn dev headerInfo) :
    (∃ a, createHeader dev headerInfo = .ok (some a) ∧ f.ReadFrom a) ↔ f.options = [] := by
  obtain ⟨c, hc⟩ := Fields.createHeader_fields h
  rw [← f.readFrom_bytes_iff c]
  constructor
  · rintro ⟨a, ha, hread⟩
    cases hc.symm.trans ha
    exact hread
  · intro hread
    exact ⟨f.bytes c, hc, hread⟩

/-! ## Two headers -/

/-- A table with every entry of the fields. -/
def Fields.info (f : Fields) : Info
  | .internet_header_length => some (.byte f.internet_header_length)
  | .dscp => some (.byte f.dscp)
  | .ecn => some (.byte f.ecn)
  | .data_length => some (.int f.data_length)
  | .identification => some (.short f.identification)
  | .flag => some (.short f.flag)
  | .fragment_offset => some (.short f.fragment_offset)
  | .time_to_live => some (.byte f.time_to_live)
  | .protocol => some (.byte f.protocol)
  | .source_ip => some (.int f.source_ip)
  | .destination_ip => some (.int f.destination_ip)
  | .options => if f.options = [] then none else some (.bytes f.options)
  | _ => none

theorem Fields.info_entered (f : Fields) (dev : DataLinkLayer) : f.EnteredIn dev f.info where
  internet_header_length := rfl
  dscp := rfl
  ecn := rfl
  data_length := rfl
  identification := rfl
  flag := rfl
  fragment_offset := rfl
  time_to_live := rfl
  protocol := rfl
  source_ip := rfl
  destination_ip := rfl
  options := rfl

/-- A header of the device to `192.168.1.1`, without data. -/
def sampleFields (options : Bytes) (hwords : options.length % 4 = 0) (hle : options.length ≤ 40) :
    Fields where
  dscp := 46
  ecn := 1
  data_length := 0
  identification := 7
  flag := 2
  fragment_offset := 0
  time_to_live := 64
  protocol := 17
  source_ip := 0xC0A80176
  destination_ip := 0xC0A80101
  options := options
  dscp_lt := by decide
  ecn_lt := by decide
  flag_lt := by decide
  fragment_offset_lt := by decide
  options_words := hwords
  options_length_le := hle
  data_length_nonneg := by decide
  fits := by show (20 + options.length + 0 : Int) ≤ 65535; omega

theorem createHeader_lays_out_plain :
    let f := sampleFields [] rfl (by decide)
    ∃ a, createHeader sampleDevice f.info = .ok (some a) ∧ f.ReadFrom a :=
  (createHeader_lays_out_iff sampleDevice _ (Fields.info_entered _ sampleDevice)).mpr rfl

/-- With a router alert option the header says 28 bytes where it has 24. -/
theorem createHeader_counts_options_twice :
    let f := sampleFields [0x94, 4, 0, 0] rfl (by decide)
    f.EnteredIn sampleDevice f.info ∧
      ¬ ∃ a, createHeader sampleDevice f.info = .ok (some a) ∧ f.ReadFrom a := by
  intro f
  have hentered := f.info_entered sampleDevice
  refine ⟨hentered, ?_⟩
  rintro ⟨a, ha, hread⟩
  obtain ⟨c, hc⟩ := Fields.createHeader_fields hentered
  cases hc.symm.trans ha
  cases (f.readFrom_bytes_iff c).mp hread

end TcpIpStack.IPProtocolLayer
