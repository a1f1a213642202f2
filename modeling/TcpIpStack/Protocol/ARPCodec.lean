import TcpIpStack.Protocol.ARP

/-!
# ARP requests and their answers

The writer fills its 28 bytes from the left; the reader takes what it needs at
offsets of the whole frame. The two meet at a `Message`: `createHeader_eq` says
which message a request is, `handlePacket_frame` what the reader makes of any
message.
-/

namespace TcpIpStack

open TcpIpStack.Java TcpIpStack.Lib

/-- The address of a network card. -/
structure MacAddress where
  getAddress : Bytes
  length_eq : getAddress.length = 6

def DataLinkLayer.mac (d : DataLinkLayer) : MacAddress := ⟨d.macAddress, d.mac_length⟩

namespace ARPProtocolLayer

/-- An ARP message between Ethernet cards about IPv4 addresses. -/
structure Message where
  opcode : Short
  sender_mac : MacAddress
  sender_ip : Inet4Address
  target_mac : MacAddress
  target_ip : Inet4Address

namespace Message

/-- Hardware type 1, protocol 0x0800, the two lengths, and the fields. -/
def bytes (m : Message) : Bytes :=
  shortBytes 1 ++ shortBytes 0x0800 ++ [6, 4] ++ shortBytes m.opcode ++
    m.sender_mac.getAddress ++ m.sender_ip.getAddress ++
    m.target_mac.getAddress ++ m.target_ip.getAddress

@[simp] theorem bytes_length (m : Message) : m.bytes.length = 28 := by
  simp [bytes, m.sender_mac.length_eq, m.sender_ip.length_eq, m.target_mac.length_eq,
    m.target_ip.length_eq]

/-- What the owner of the target address answers. -/
def answer (request : Message) (mac : MacAddress) : Message where
  opcode := ARP_REPLY
  sender_mac := mac
  sender_ip := request.target_ip
  target_mac := request.sender_mac
  target_ip := request.sender_ip

/-- The table that tells the sender of a message. -/
def info (m : Message) : Info := Info.empty
  |>.put .sender_mac (.bytes m.sender_mac.getAddress)
  |>.put .sender_ip (.bytes m.sender_ip.getAddress)

end Message

/-! ## Requests -/

/-- The device asks everyone for the card behind an address. -/
def request (dev : DataLinkLayer) (ip : Inet4Address) : Message where
  opcode := ARP_REQUEST
  sender_mac := dev.mac
  sender_ip := dev.ipAddress
  target_mac := ⟨broadcast, rfl⟩
  target_ip := ip

theorem createHeader_eq (dev : DataLinkLayer) {headerInfo : Info} {ip : Inet4Address}
    (h : headerInfo .sender_ip = some (.bytes ip.getAddress)) :
    createHeader dev headerInfo = .ok (some (request dev ip).bytes) := by
  have hget : headerInfo.getBytes .sender_ip = .ok (some ip.getAddress) := Info.getBytes_ok h
  rw [createHeader, hget, ok_bind]
  dsimp only
  rw [makeARPRequestMsg_eq dev ip.length_eq, ok_bind]
  rfl

/-! ## Messages in frames -/

/-- A captured ARP frame: the link header and the message. -/
structure ARPFrame where
  frametype : Short
  link : Bytes
  link_length : link.length = 14
  message : Message
  data : Bytes

namespace ARPFrame

/-- The capture library leaves the link header in front. -/
def packet (f : ARPFrame) : Packet := ⟨f.frametype, f.link ++ f.message.bytes, f.data⟩

theorem header_length (f : ARPFrame) : f.packet.header.length = 42 := by
  show (f.link ++ f.message.bytes).length = 42
  rw [List.length_append, f.link_length, Message.bytes_length]

/-! The offsets of the reader. -/

theorem slice_message (f : ARPFrame) (i n : Nat) :
    slice f.packet.header (14 + i) n = slice f.message.bytes i n := by
  show slice (f.link ++ f.message.bytes) (14 + i) n = _
  rw [slice_append_right (by rw [f.link_length]; omega), f.link_length, Nat.add_sub_cancel_left]

theorem opcode_eq (f : ARPFrame) :
    shortOf (slice f.packet.header ARP_OPCODE_START 2) = f.message.opcode := by
  rw [show ARP_OPCODE_START = 14 + 6 from rfl, slice_message]
  exact shortOf_shortBytes _

/-- A field of the message, behind the fields before it. -/
theorem slice_field (f : ARPFrame) (before field rest : Bytes) {start n : Nat}
    (hbytes : f.message.bytes = before ++ field ++ rest) (hstart : start = 14 + before.length)
    (hfield : field.length = n) : slice f.packet.header start n = field := by
  rw [hstart, slice_message, hbytes]
  exact slice_append rfl hfield

theorem senderMac_eq (f : ARPFrame) : senderMac f.packet.header = f.message.sender_mac.getAddress := by
  refine f.slice_field (shortBytes 1 ++ shortBytes 0x0800 ++ [6, 4] ++ shortBytes f.message.opcode)
    f.message.sender_mac.getAddress (f.message.sender_ip.getAddress ++
      (f.message.target_mac.getAddress ++ f.message.target_ip.getAddress)) ?_ rfl
    f.message.sender_mac.length_eq
  simp only [Message.bytes, List.append_assoc]

theorem senderIP_eq (f : ARPFrame) : senderIP f.packet.header = f.message.sender_ip.getAddress := by
  refine f.slice_field (shortBytes 1 ++ shortBytes 0x0800 ++ [6, 4] ++ shortBytes f.message.opcode ++
    f.message.sender_mac.getAddress) f.message.sender_ip.getAddress
      (f.message.target_mac.getAddress ++ f.message.target_ip.getAddress) ?_ ?_
    f.message.sender_ip.length_eq
  · simp only [Message.bytes, List.append_assoc]
  · simp [ARP_SENDER_IP_START, f.message.sender_mac.length_eq]

theorem target_ip_eq (f : ARPFrame) :
    slice f.packet.header ARP_TARGET_IP_START 4 = f.message.target_ip.getAddress := by
  refine f.slice_field (shortBytes 1 ++ shortBytes 0x0800 ++ [6, 4] ++ shortBytes f.message.opcode ++
    f.message.sender_mac.getAddress ++ f.message.sender_ip.getAddress ++
    f.message.target_mac.getAddress) f.message.target_ip.getAddress [] ?_ ?_
    f.message.target_ip.length_eq
  · rw [Message.bytes, List.append_nil]
  · simp [ARP_TARGET_IP_START, f.message.sender_mac.length_eq, f.message.sender_ip.length_eq,
      f.message.target_mac.length_eq]

end ARPFrame

section

variable (dev : DataLinkLayer) (f : ARPFrame)

theorem isReply_frame_iff : IsReply dev f.packet.header ↔
    f.message.opcode = ARP_REPLY ∧ f.message.target_ip.getAddress = dev.deviceIPAddress := by
  rw [IsReply, f.opcode_eq, f.target_ip_eq]

/-- The reader answers every message, with its sender if it is a reply to the device
and with an empty table if it is not. -/
theorem handlePacket_frame :
    (IsReply dev f.packet.header → handlePacket dev f.packet = .ok f.message.info) ∧
      (¬ IsReply dev f.packet.header → handlePacket dev f.packet = .ok Info.empty) := by
  rcases handlePacket_eq dev f.packet with ⟨hreply, hok⟩ | ⟨hreply, hok | herror⟩
  · rw [f.senderMac_eq, f.senderIP_eq] at hok
    exact ⟨fun _ => hok, fun hno => absurd hreply hno⟩
  · exact ⟨fun hyes => absurd hyes hreply, fun _ => hok⟩
  · -- nothing of a whole message is cut off
    have hcut := (handlePacket_error_iff dev f.packet).mp herror
    rcases hcut with hshort | ⟨-, hshort, -⟩ <;>
    · rw [f.header_length] at hshort
      exact absurd hshort (by decide)

end

/-- The request asks what was asked, the answer to it tells the card, and the answer with
another opcode or for another target tells nothing. -/
theorem codecs_agree (dev : DataLinkLayer) {headerInfo : Info} {ip : Inet4Address}
    (h : headerInfo .sender_ip = some (.bytes ip.getAddress)) (mac : MacAddress) :
    ∃ req : Message, createHeader dev headerInfo = .ok (some req.bytes) ∧
      req.bytes.length = 28 ∧ req.opcode = ARP_REQUEST ∧
      req.sender_mac.getAddress = dev.deviceMacAddress ∧
      req.sender_ip.getAddress = dev.deviceIPAddress ∧ req.target_ip = ip ∧
      (∀ f : ARPFrame, f.message = req.answer mac →
        handlePacket dev f.packet = .ok (Info.empty
          |>.put .sender_mac (.bytes mac.getAddress)
          |>.put .sender_ip (.bytes ip.getAddress))) ∧
      ∀ (f : ARPFrame) (opcode : Short) (target_ip : Inet4Address),
        f.message = { req.answer mac with opcode, target_ip } →
        (opcode ≠ ARP_REPLY ∨ target_ip.getAddress ≠ dev.deviceIPAddress) →
        handlePacket dev f.packet = .ok Info.empty := by
  refine ⟨request dev ip, createHeader_eq dev h, Message.bytes_length _, rfl, rfl, rfl, rfl, ?_, ?_⟩
  · intro f hmessage
    have hreply : IsReply dev f.packet.header := by
      rw [isReply_frame_iff, hmessage]
      exact ⟨rfl, rfl⟩
    rw [(handlePacket_frame dev f).1 hreply, hmessage]
    rfl
  · intro f opcode target_ip hmessage hother
    refine (handlePacket_frame dev f).2 fun hreply => ?_
    rw [isReply_frame_iff, hmessage] at hreply
    rcases hother with hopcode | htarget
    · exact hopcode hreply.1
    · exact htarget hreply.2

/-- The shipped device asks for the router, whose card answers. -/
theorem router_answers : ∃ req : Message,
    createHeader sampleDevice (Info.empty.put .sender_ip (.bytes [192, 168, 1, 1])) =
        .ok (some req.bytes) ∧
      handlePacket sampleDevice (ARPFrame.packet ⟨ETHERTYPE_ARP, List.replicate 14 0, rfl,
        req.answer ⟨[0x10, 0x20, 0x30, 0x40, 0x50, 0x60], rfl⟩, []⟩) = .ok (Info.empty
          |>.put .sender_mac (.bytes [0x10, 0x20, 0x30, 0x40, 0x50, 0x60])
          |>.put .sender_ip (.bytes [192, 168, 1, 1])) := by
  let router : Inet4Address := ⟨[192, 168, 1, 1], rfl⟩
  let mac : MacAddress := ⟨[0x10, 0x20, 0x30, 0x40, 0x50, 0x60], rfl⟩
  have hip : (Info.empty.put .sender_ip (.bytes router.getAddress)) .sender_ip =
    some (.bytes router.getAddress) := rfl
  obtain ⟨req, hcreate, -, -, -, -, -, hanswer, -⟩ := codecs_agree sampleDevice hip mac
  exact ⟨req, hcreate, hanswer _ rfl⟩

end ARPProtocolLayer

end TcpIpStack
