import TcpIpStack.Protocol.ICMP

/-!
# Which handler takes an ICMP message

On a message of twenty bytes every handler can read its fields, so the first one
whose guard lets the message through answers. The guard of the time-exceeded
handler asks for its type or its code, where its message has both.
-/

namespace TcpIpStack

open TcpIpStack.Java TcpIpStack.Lib

/-- The table of an echo reply. -/
def ICMPEchoHeader.info (packet : Packet) : Info := Info.empty
  |>.put .identifier (.short (shortOf (slice packet.header 4 2)))
  |>.put .sequence (.short (shortOf (slice packet.header 6 2)))
  |>.put .data (.bytes packet.data)

/-- The table of an echo reply that ends with its header. -/
def ICMPEchoHeader.bareInfo (packet : Packet) : Info := Info.empty
  |>.put .identifier (.short (shortOf (slice packet.header 4 2)))
  |>.put .sequence (.short (shortOf (slice packet.header 6 2)))

/-- The table of a timestamp reply. -/
def ICMPTimeStampHeader.info (packet : Packet) : Info := Info.empty
  |>.put .identifier (.short (shortOf (slice packet.header 4 2)))
  |>.put .sequence (.short (shortOf (slice packet.header 6 2)))
  |>.put .original_time (.int (intOf (slice packet.header 8 4)))
  |>.put .receive_time (.int (intOf (slice packet.header 12 4)))
  |>.put .transmit_time (.int (intOf (slice packet.header 16 4)))

/-- The table of a time-exceeded message. -/
def ICMPTimeExceededHeader.info (packet : Packet) : Info := Info.empty
  |>.put .type (.byte 11)
  |>.put .code (.byte 0)
  |>.put .data (.bytes (packet.header.drop 8))

namespace ICMPProtocolLayer

def typeOf (message : Bytes) : Byte := message.getD 0 0

def codeOf (message : Bytes) : Byte := message.getD 1 0

/-- The table a message should get by its own type and code. -/
def classify (packet : Packet) : Option Info :=
  if typeOf packet.header = 0 then some (ICMPEchoHeader.info packet)
  else if typeOf packet.header = 14 then some (ICMPTimeStampHeader.info packet)
  else if typeOf packet.header = 11 ∧ codeOf packet.header = 0 then
    some (ICMPTimeExceededHeader.info packet)
  else none

/-- No earlier handler's message, with the type of a time-exceeded message or its
code, but not both. -/
def Mixed (message : Bytes) : Prop :=
  typeOf message ≠ 0 ∧ typeOf message ≠ 14 ∧
    (typeOf message = 11 ∧ codeOf message ≠ 0 ∨ typeOf message ≠ 11 ∧ codeOf message = 0)

section

variable {packet : Packet}

theorem getAt_type (h : 0 < packet.header.length) :
    (ByteBuffer.wrap packet.header).getAt 0 = .ok (typeOf packet.header) :=
  ByteBuffer.getAt_ok h

/-- Data is entered only where the message has some. -/
theorem echo_bare_eq (h : 8 ≤ packet.header.length) :
    ICMPEchoHeader.handlePacket packet =
      .ok (if typeOf packet.header = 0 then some (if packet.header.length > 8 then
        ICMPEchoHeader.info packet else ICMPEchoHeader.bareInfo packet) else none) := by
  have hshort : ∀ i, i + 2 ≤ 8 → (ByteBuffer.wrap packet.header).getShortAt i =
      .ok (shortOf (slice packet.header i 2)) := fun i hi =>
    ByteBuffer.getShortAt_ok (by show i + 2 ≤ packet.header.length; omega)
  unfold ICMPEchoHeader.handlePacket ICMPEchoHeader.ICMP_ECHO_IDENTIFIER_OFFSET
    ICMPEchoHeader.ICMP_ECHO_SEQUENCE_NUM_OFFSET ICMPEchoHeader.ICMP_ECHO_REPLY_TYPE
  simp only [getAt_type (show 0 < packet.header.length by omega), hshort 4 (by decide),
    hshort 6 (by decide), ok_bind]
  by_cases hzero : typeOf packet.header = 0
  · rw [if_pos hzero, if_neg (not_not.mpr hzero)]
    rfl
  · rw [if_neg hzero, if_pos hzero]
    rfl

theorem echo_eq (h : 8 < packet.header.length) :
    ICMPEchoHeader.handlePacket packet =
      .ok (if typeOf packet.header = 0 then some (ICMPEchoHeader.info packet) else none) := by
  rw [echo_bare_eq (by omega), if_pos h]

theorem timestamp_eq (h : 20 ≤ packet.header.length) :
    ICMPTimeStampHeader.handlePacket packet =
      .ok (if typeOf packet.header = 14 then some (ICMPTimeStampHeader.info packet) else none) := by
  have hshort : ∀ i, i + 2 ≤ 20 → (ByteBuffer.wrap packet.header).getShortAt i =
      .ok (shortOf (slice packet.header i 2)) := fun i hi =>
    ByteBuffer.getShortAt_ok (by show i + 2 ≤ packet.header.length; omega)
  have hint : ∀ i, i + 4 ≤ 20 → (ByteBuffer.wrap packet.header).getIntAt i =
      .ok (intOf (slice packet.header i 4)) := fun i hi =>
    ByteBuffer.getIntAt_ok (by show i + 4 ≤ packet.header.length; omega)
  unfold ICMPTimeStampHeader.handlePacket ICMPTimeStampHeader.ICMP_TIMESTAMP_REPLY_TYPE
    ICMPTimeStampHeader.ICMP_ECHO_IDENTIFIER_OFFSET
    ICMPTimeStampHeader.ICMP_ECHO_SEQUENCE_NUM_OFFSET
    ICMPTimeStampHeader.ICMP_ORIGINAL_TIMESTAMP_OFFSET
    ICMPTimeStampHeader.ICMP_RECEIVE_TIMESTAMP_OFFSET
    ICMPTimeStampHeader.ICMP_TRANSMIT_TIMESTAMP_OFFSET
  simp only [getAt_type (show 0 < packet.header.length by omega), hshort 4 (by decide),
    hshort 6 (by decide), hint 8 (by decide), hint 12 (by decide), hint 16 (by decide), ok_bind]
  by_cases hfourteen : typeOf packet.header = 14
  · rw [if_pos hfourteen, if_neg (not_not.mpr hfourteen)]
    rfl
  · rw [if_neg hfourteen, if_pos hfourteen]
    rfl

/-- One matching field is enough. -/
theorem timeExceeded_eq (h : 8 ≤ packet.header.length) :
    ICMPTimeExceededHeader.handlePacket packet =
      .ok (if typeOf packet.header = 11 ∨ codeOf packet.header = 0 then
        some (ICMPTimeExceededHeader.info packet) else none) := by
  have hcode : (ByteBuffer.wrap packet.header).getAt 1 = .ok (codeOf packet.header) :=
    ByteBuffer.getAt_ok (by show 1 < packet.header.length; omega)
  have hnew : newArray ((packet.header.length : Int) -
      ICMPTimeExceededHeader.ICMP_TIME_EXCEEDED_DATA_OFFSET) =
        .ok (List.replicate (packet.header.length - 8) 0) := by
    have h8 : (ICMPTimeExceededHeader.ICMP_TIME_EXCEEDED_DATA_OFFSET : Int) = 8 := rfl
    rw [newArray, if_neg (by omega), h8]
    exact congrArg (fun n => Except.ok (List.replicate n 0)) (by omega)
  have hpos : (ByteBuffer.wrap packet.header).setPosition
      ICMPTimeExceededHeader.ICMP_TIME_EXCEEDED_DATA_OFFSET = .ok ⟨packet.header, 8, h⟩ :=
    ByteBuffer.setPosition_ok rfl _
  have htake : ByteBuffer.take ⟨packet.header, 8, h⟩ (packet.header.length - 8) =
      .ok (packet.header.drop 8, ⟨packet.header, 8 + (packet.header.length - 8), by omega⟩) := by
    rw [ByteBuffer.take_ok (by show 8 + _ ≤ packet.header.length; omega)]
    refine congrArg (fun bytes => Except.ok (bytes, _)) (List.take_of_length_le ?_)
    rw [List.length_drop]
  unfold ICMPTimeExceededHeader.handlePacket
  simp only [getAt_type (show 0 < packet.header.length by omega), hcode, hnew, hpos, htake, ok_bind,
    List.length_replicate]
  unfold ICMPTimeExceededHeader.ICMP_TIME_EXCEEDED_TYPE
    ICMPTimeExceededHeader.ICMP_TIME_EXCEEDED_CODE
  by_cases hexceeded : typeOf packet.header = 11
  · rw [if_neg (not_not.mpr hexceeded),
      if_pos (show typeOf packet.header = 11 ∨ codeOf packet.header = 0 from .inl hexceeded)]
    rfl
  rw [if_pos hexceeded]
  by_cases hzero : codeOf packet.header = 0
  · rw [if_neg (not_not.mpr hzero),
      if_pos (show typeOf packet.header = 11 ∨ codeOf packet.header = 0 from .inr hzero)]
    rfl
  · rw [if_pos hzero, if_neg (show ¬ (typeOf packet.header = 11 ∨ codeOf packet.header = 0) from
      fun h => h.elim hexceeded hzero)]
    rfl

/-- What the chain answers. -/
theorem handlePacket_eq (h : 20 ≤ packet.header.length) :
    handlePacket packet = .ok (
      if typeOf packet.header = 0 then some (ICMPEchoHeader.info packet)
      else if typeOf packet.header = 14 then some (ICMPTimeStampHeader.info packet)
      else if typeOf packet.header = 11 ∨ codeOf packet.header = 0 then
        some (ICMPTimeExceededHeader.info packet)
      else none) := by
  simp only [handlePacket, firstAnswer, echo_eq (show 8 < packet.header.length by omega),
    timestamp_eq h, timeExceeded_eq (show 8 ≤ packet.header.length by omega), ok_bind]
  by_cases hzero : typeOf packet.header = 0
  · rw [if_pos hzero, if_pos hzero]
    rfl
  rw [if_neg hzero, if_neg hzero]
  by_cases hfourteen : typeOf packet.header = 14
  · rw [if_pos hfourteen, if_pos hfourteen]
    rfl
  rw [if_neg hfourteen, if_neg hfourteen]
  by_cases hexceeded : typeOf packet.header = 11 ∨ codeOf packet.header = 0
  · rw [if_pos hexceeded]
    rfl
  · rw [if_neg hexceeded]

/-- A message is classified by its own type and code if and only if it is not mixed. -/
theorem handlePacket_classified_iff (h : 20 ≤ packet.header.length) :
    handlePacket packet = .ok (classify packet) ↔ ¬ Mixed packet.header := by
  rw [handlePacket_eq h]
  unfold classify Mixed
  by_cases hzero : typeOf packet.header = 0
  · rw [if_pos hzero, if_pos hzero]
    exact iff_of_true rfl fun hmixed => hmixed.1 hzero
  rw [if_neg hzero, if_neg hzero]
  by_cases hfourteen : typeOf packet.header = 14
  · rw [if_pos hfourteen, if_pos hfourteen]
    exact iff_of_true rfl fun hmixed => hmixed.2.1 hfourteen
  rw [if_neg hfourteen, if_neg hfourteen]
  by_cases hor : typeOf packet.header = 11 ∨ codeOf packet.header = 0
  · rw [if_pos hor]
    by_cases hand : typeOf packet.header = 11 ∧ codeOf packet.header = 0
    · rw [if_pos hand]
      exact iff_of_true rfl fun hmixed => hmixed.2.2.elim (·.2 hand.2) (·.1 hand.1)
    · -- exactly one of the two fields is right
      rw [if_neg hand]
      refine iff_of_false (fun h => by cases h) fun hmixed => hmixed ⟨hzero, hfourteen, ?_⟩
      rcases hor with htype | hcode
      · exact .inl ⟨htype, fun hcode => hand ⟨htype, hcode⟩⟩
      · exact .inr ⟨fun htype => hand ⟨htype, hcode⟩, hcode⟩
  · rw [if_neg hor, if_neg fun hand => hor (.inl hand.1)]
    exact iff_of_true rfl fun hmixed =>
      hmixed.2.2.elim (fun h => hor (.inl h.1)) fun h => hor (.inr h.2)

end

/-- A destination-unreachable message of code 0. -/
def sampleUnreachable : Packet := ⟨ETHERTYPE_IP, 3 :: List.replicate 27 0, []⟩

/-- A time-exceeded message. -/
def sampleExpired : Packet := ⟨ETHERTYPE_IP, 11 :: List.replicate 27 0, []⟩

theorem handlePacket_classified_expired :
    handlePacket sampleExpired = .ok (classify sampleExpired) :=
  (handlePacket_classified_iff (by decide)).mpr (by unfold Mixed; decide)

theorem handlePacket_unreachable_expired :
    ¬ ∀ packet : Packet, 20 ≤ packet.header.length →
      handlePacket packet = .ok (classify packet) := by
  intro h
  have hmixed : Mixed sampleUnreachable.header := by unfold Mixed; decide
  have hclassify : classify sampleUnreachable = none := rfl
  have hclassified := h sampleUnreachable (by decide)
  rw [handlePacket_eq (by decide), hclassify] at hclassified
  cases hclassified

end ICMPProtocolLayer

end TcpIpStack
