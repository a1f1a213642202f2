import TcpIpStack.Protocol.IProtocol

/-!
# `protocol.ARPProtocolLayer`

`analyseARPMsg` fills its table only for a reply to this device; a frame it
rejects leaves the table empty (`handlePacket_eq`).
-/

namespace TcpIpStack.ARPProtocolLayer

open TcpIpStack.Java TcpIpStack.Lib

def ARP_OPCODE_START : Nat := 20
def ARP_SENDER_MAC_START : Nat := 22
def ARP_SENDER_IP_START : Nat := 28
def ARP_TARGET_IP_START : Nat := 38

/-- `ARPPacket.PROTOTYPE_IP`. -/
def PROTOTYPE_IP : Short := 2048
/-- `ARPPacket.ARP_REQUEST`. -/
def ARP_REQUEST : Short := 1
/-- `ARPPacket.ARP_REPLY`. -/
def ARP_REPLY : Short := 2

/-- The loop that compares the device's address with the target's, byte by byte. -/
def targetMatches : Bytes → Bytes → Except Throwable Bool
  | [], _ => .ok true
  | _ :: _, [] => .error .indexOutOfBounds
  | a :: ip, b :: data => if a ≠ b then .ok false else targetMatches ip data

/-- `analyseARPMsg`: whether the message is a reply to us, and the table. -/
def analyseARPMsg (dev : DataLinkLayer) (data : Bytes) (infoTable : Info) :
    Except Throwable (Bool × Info) := do
  let opcode ← readAt data ARP_OPCODE_START 2
  let op := shortOf opcode
  if op ≠ ARP_REPLY then return (false, infoTable)
  let ip := dev.deviceIPAddress
  if !(← targetMatches ip (data.drop ARP_TARGET_IP_START)) then return (false, infoTable)
  let senderIP ← readAt data ARP_SENDER_IP_START 4
  let senderMac ← readAt data ARP_SENDER_MAC_START 6
  return (true, infoTable
    |>.put .sender_mac (.bytes senderMac)
    |>.put .sender_ip (.bytes senderIP))

def broadcast : Bytes := List.replicate 6 0xFF

/-- `makeARPRequestMsg` for a non-null address: 28 bytes filled from the left. -/
def makeARPRequestMsg (dev : DataLinkLayer) (ip : Bytes) : Except Throwable Bytes :=
  let written : Bytes := ([0, 1] : Bytes) ++ shortBytes PROTOTYPE_IP ++ [6, 4] ++
    shortBytes ARP_REQUEST ++ dev.deviceMacAddress ++ dev.deviceIPAddress ++ broadcast ++ ip
  if written.length ≤ 28 then .ok (written ++ List.replicate (28 - written.length) 0)
  else .error .indexOutOfBounds

def createHeader (dev : DataLinkLayer) (headerInfo : Info) : Except Throwable (Option Bytes) := do
  match ← headerInfo.getBytes .sender_ip with
  | none => return none
  | some ip => return some (← makeARPRequestMsg dev ip)

def handlePacket (dev : DataLinkLayer) (packet : Packet) : Except Throwable Info := do
  let header := packet.header
  let (_, infoTable) ← analyseARPMsg dev header Info.empty
  return infoTable

/-! ## Replies -/

/-- The frame is an ARP reply whose target is this device. -/
def IsReply (dev : DataLinkLayer) (data : Bytes) : Prop :=
  shortOf (slice data ARP_OPCODE_START 2) = ARP_REPLY ∧
    slice data ARP_TARGET_IP_START 4 = dev.deviceIPAddress

instance (dev : DataLinkLayer) (data : Bytes) : Decidable (IsReply dev data) :=
  inferInstanceAs (Decidable (_ ∧ _))

/-- A reply reaches to the end of its target. -/
theorem IsReply.length_le {dev : DataLinkLayer} {data : Bytes} (h : IsReply dev data) :
    42 ≤ data.length := by
  have hlen := congrArg List.length h.2
  rw [slice, List.length_take, List.length_drop, dev.deviceIPAddress_length] at hlen
  simp only [ARP_TARGET_IP_START] at hlen
  omega

/-- The sender's addresses in a frame. -/
def senderIP (data : Bytes) : Bytes := slice data ARP_SENDER_IP_START 4

def senderMac (data : Bytes) : Bytes := slice data ARP_SENDER_MAC_START 6

theorem targetMatches_eq_true {ip data : Bytes} :
    targetMatches ip data = .ok true ↔ data.take ip.length = ip := by
  induction ip generalizing data with
  | nil => simp [targetMatches]
  | cons a ip ih =>
    cases data with
    | nil => simp [targetMatches]
    | cons b data =>
      by_cases hab : a = b
      · subst hab
        simp [targetMatches, ih]
      · simp [targetMatches, hab, Ne.symm hab]

/-- The decoder returns the sender of a reply, an empty table for any other
frame, and throws on a frame that is cut short. -/
theorem handlePacket_eq (dev : DataLinkLayer) (packet : Packet) :
    (IsReply dev packet.header ∧ handlePacket dev packet = .ok (Info.empty
        |>.put .sender_mac (.bytes (senderMac packet.header))
        |>.put .sender_ip (.bytes (senderIP packet.header)))) ∨
      (¬ IsReply dev packet.header ∧
        (handlePacket dev packet = .ok Info.empty ∨ ∃ e, handlePacket dev packet = .error e)) := by
  obtain ⟨_, data, _⟩ := packet
  have htarget : targetMatches dev.deviceIPAddress (data.drop ARP_TARGET_IP_START) = .ok true ↔
      slice data ARP_TARGET_IP_START 4 = dev.deviceIPAddress := by
    rw [targetMatches_eq_true, dev.deviceIPAddress_length]
    rfl
  simp only [handlePacket, analyseARPMsg]
  by_cases h22 : ARP_OPCODE_START + 2 ≤ data.length
  · rw [readAt, if_pos h22, ok_bind]
    by_cases hop : shortOf (slice data ARP_OPCODE_START 2) = ARP_REPLY
    · rw [if_neg (by simpa using hop)]
      cases hm : targetMatches dev.deviceIPAddress (data.drop ARP_TARGET_IP_START) with
      | error e => exact .inr ⟨fun h => by simp [htarget.mpr h.2] at hm, .inr ⟨e, rfl⟩⟩
      | ok matched =>
        cases matched with
        | false => exact .inr ⟨fun h => by simp [htarget.mpr h.2] at hm, .inl rfl⟩
        | true =>
          have hreply : IsReply dev data := ⟨hop, htarget.mp hm⟩
          have h42 := hreply.length_le
          refine .inl ⟨hreply, ?_⟩
          rw [ok_bind, if_neg (by decide), readAt, if_pos (by show 28 + 4 ≤ data.length; omega), ok_bind, readAt,
            if_pos (by show 22 + 6 ≤ data.length; omega)]
          rfl
    · rw [if_pos hop]
      exact .inr ⟨fun h => hop h.1, .inl rfl⟩
  · rw [readAt, if_neg h22]
    exact .inr ⟨fun h => h22 (by show 22 ≤ data.length; have := h.length_le; omega), .inr ⟨_, rfl⟩⟩

/-! ## Messages cut short -/

/-- The comparison runs off the end of a target that begins like the address. -/
theorem targetMatches_error {ip data : Bytes} :
    (∃ e, targetMatches ip data = .error e) ↔ data.length < ip.length ∧ data <+: ip := by
  induction ip generalizing data with
  | nil => exact iff_of_false (fun ⟨_, h⟩ => by cases h) fun h => absurd h.1 (Nat.not_lt_zero _)
  | cons a ip ih =>
    cases data with
    | nil => exact iff_of_true ⟨_, rfl⟩ ⟨Nat.succ_pos _, List.nil_prefix⟩
    | cons b data =>
      rw [List.length_cons, List.length_cons, Nat.succ_lt_succ_iff, List.cons_prefix_cons, targetMatches]
      by_cases hab : a = b
      · rw [if_neg (not_not.mpr hab), ih]
        exact ⟨fun ⟨hlt, hpre⟩ => ⟨hlt, hab.symm, hpre⟩, fun ⟨hlt, _, hpre⟩ => ⟨hlt, hpre⟩⟩
      · rw [if_pos hab]
        exact iff_of_false (fun ⟨_, h⟩ => by cases h) fun h => hab h.2.1.symm

/-- The message ends where the decoder reads on: before the opcode's end, or, in a
reply, before the target's, which so far is the device's address. -/
def CutShort (dev : DataLinkLayer) (data : Bytes) : Prop :=
  data.length < ARP_OPCODE_START + 2 ∨
    shortOf (slice data ARP_OPCODE_START 2) = ARP_REPLY ∧
      data.length < ARP_TARGET_IP_START + 4 ∧ data.drop ARP_TARGET_IP_START <+: dev.deviceIPAddress

theorem handlePacket_error_iff (dev : DataLinkLayer) (packet : Packet) :
    (∃ e, handlePacket dev packet = .error e) ↔ CutShort dev packet.header := by
  obtain ⟨_, data, _⟩ := packet
  simp only [handlePacket, analyseARPMsg, CutShort]
  by_cases h22 : ARP_OPCODE_START + 2 ≤ data.length
  · rw [readAt, if_pos h22, ok_bind]
    by_cases hop : shortOf (slice data ARP_OPCODE_START 2) = ARP_REPLY
    · rw [if_neg (not_not.mpr hop), or_iff_right (by omega), and_iff_right hop]
      have htarget := @targetMatches_error dev.deviceIPAddress (data.drop ARP_TARGET_IP_START)
      rw [List.length_drop, dev.deviceIPAddress_length] at htarget
      have hlen : data.length < ARP_TARGET_IP_START + 4 ↔ data.length - ARP_TARGET_IP_START < 4 := by
        omega
      rw [hlen, ← htarget]
      cases hm : targetMatches dev.deviceIPAddress (data.drop ARP_TARGET_IP_START) with
      | error e => exact iff_of_true ⟨e, rfl⟩ ⟨e, rfl⟩
      | ok matched =>
      refine iff_of_false ?_ ?_
      · cases matched with
        | false =>
          rintro ⟨_, h⟩
          cases h
        | true =>
          have htrue := congrArg List.length (targetMatches_eq_true.mp hm)
          rw [List.length_take, List.length_drop, dev.deviceIPAddress_length] at htrue
          have h42 : 42 ≤ data.length := by
            have h38 : ARP_TARGET_IP_START = 38 := rfl
            omega
          rw [ok_bind, if_neg (by decide), readAt, if_pos (by show 28 + 4 ≤ data.length; omega), ok_bind,
            readAt, if_pos (by show 22 + 6 ≤ data.length; omega)]
          rintro ⟨_, h⟩
          cases h
      · rintro ⟨_, h⟩
        cases h
    · rw [if_pos hop]
      refine iff_of_false ?_ fun h => h.elim (by omega) fun h => hop h.1
      rintro ⟨_, h⟩
      cases h
  · rw [readAt, if_neg h22]
    exact iff_of_true ⟨_, rfl⟩ (.inl (by omega))

/-- The request for a four-byte address fills its message exactly. -/
theorem makeARPRequestMsg_eq (dev : DataLinkLayer) {ip : Bytes} (hip : ip.length = 4) :
    makeARPRequestMsg dev ip = .ok (([0, 1] : Bytes) ++ shortBytes PROTOTYPE_IP ++ [6, 4] ++
      shortBytes ARP_REQUEST ++ dev.deviceMacAddress ++ dev.deviceIPAddress ++ broadcast ++ ip) := by
  have hlen : (([0, 1] : Bytes) ++ shortBytes PROTOTYPE_IP ++ [6, 4] ++ shortBytes ARP_REQUEST ++
      dev.deviceMacAddress ++ dev.deviceIPAddress ++ broadcast ++ ip).length = 28 := by
    simp [broadcast, hip]
  simp only [makeARPRequestMsg, hlen, Nat.le_refl, ↓reduceIte, Nat.sub_self, List.replicate_zero,
    List.append_nil]

theorem createHeader_ok (dev : DataLinkLayer) {headerInfo : Info} {ip : Bytes}
    (h : headerInfo .sender_ip = some (.bytes ip)) (hip : ip.length = 4) :
    ∃ msg, createHeader dev headerInfo = .ok (some msg) := by
  have hget : headerInfo.getBytes .sender_ip = .ok (some ip) := Info.getBytes_ok h
  rw [createHeader, hget, ok_bind]
  dsimp only
  rw [makeARPRequestMsg_eq dev hip]
  exact ⟨_, rfl⟩

end TcpIpStack.ARPProtocolLayer
