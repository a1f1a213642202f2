import TcpIpStack.Application.DHCPMessages

/-!
# Malformed DHCP replies

The handler assigns its fields while it parses: the offered address once it has
read it, the state at every message type. What a malformed reply leaves is told
by a walk over its options (`walk`): the message types met, and whether the walk
gets to an end.
-/

namespace TcpIpStack.DHCPApplication

open TcpIpStack.Java TcpIpStack.Lib
open UDPProtocolLayer (Received)

/-- How many bytes the `switch` reads behind a code, when `xs` follows. -/
def bodyLength (code : Byte) (xs : Bytes) : Nat :=
  if code = DHCP_MSG_TYPE then 2
  else if timeOptions.contains code then 5
  else if arrayOptions.contains code then 1 + (xs.headD 0).toInt.toNat
  else 0

structure Walk where
  types : List Byte
  ended : Bool
  deriving DecidableEq, Repr

/-- The message type among the bytes behind a code. -/
def typeOf (code : Byte) (xs : Bytes) : List Byte :=
  if code = DHCP_MSG_TYPE then [xs.getD 1 0] else []

/-- A walk over options, of at most so many rounds. -/
def walk : Nat → Bytes → Walk
  | 0, _ => ⟨[], false⟩
  | _ + 1, [] => ⟨[], false⟩
  | n + 1, code :: xs =>
    if code = OPTION_END then ⟨[], true⟩
    else if bodyLength code xs ≤ xs.length then
      let rest := walk n (xs.drop (bodyLength code xs))
      ⟨typeOf code xs ++ rest.types, rest.ended⟩
    else ⟨[], false⟩

/-- The walk over the options of a message. -/
def walked (data : Bytes) : Walk := walk ((data.drop 240).length + 1) (data.drop 240)

theorem walked_short {data : Bytes} (h : data.length ≤ 240) : walked data = ⟨[], false⟩ := by
  rw [walked, List.drop_eq_nil_of_le h]
  rfl

/-- If the handler throws, the client is as before and has sent nothing. -/
def UntouchedOnError (dev : DataLinkLayer) (headerInfo : Info) (s : Scope) : Prop :=
  ∀ e, (handleData dev headerInfo s).result = .error e →
    (handleData dev headerInfo s).state.statics.dhcp_current_state = s.statics.dhcp_current_state ∧
    (handleData dev headerInfo s).state.this.server_supply_ip = s.this.server_supply_ip ∧
    (handleData dev headerInfo s).out = []

/-! ## One option -/

theorem reading_take_eq (r xs : Bytes) (n : Nat) : (ByteBuffer.reading r xs).take n =
    if n ≤ xs.length then .ok (xs.take n, .reading (r ++ xs.take n) (xs.drop n))
    else .error .bufferUnderflow := by
  split
  · rename_i h
    have htake : (xs.take n).length = n := by rw [List.length_take]; omega
    have hread := ByteBuffer.reading_take r (xs.drop n) htake
    rwa [List.take_append_drop] at hread
  · rename_i h
    refine dif_neg ?_
    show ¬ r.length + n ≤ (r ++ xs).length
    rw [List.length_append]
    omega

theorem getEach_eq (n : Nat) (r xs : Bytes) : getEach n (.reading r xs) =
    if n ≤ xs.length then .ok (.reading (r ++ xs.take n) (xs.drop n))
    else .error .bufferUnderflow := by
  induction n generalizing r xs with
  | zero => simp [getEach]
  | succ n ih =>
    cases xs with
    | nil =>
      rw [getEach, ByteBuffer.reading_get_nil, error_bind]
      rfl
    | cons x xs =>
      rw [getEach, ByteBuffer.reading_get_cons, ok_bind]
      refine (ih (r ++ [x]) xs).trans ?_
      simp

theorem printOptionArray_eq (r xs : Bytes) : printOptionArray (.reading r xs) =
    if 1 + (xs.headD 0).toInt.toNat ≤ xs.length then
      .ok (.reading (r ++ xs.take (1 + (xs.headD 0).toInt.toNat))
        (xs.drop (1 + (xs.headD 0).toInt.toNat)))
    else .error .bufferUnderflow := by
  unfold printOptionArray
  cases xs with
  | nil =>
    rw [ByteBuffer.reading_get_nil, error_bind]
    rfl
  | cons len xs =>
    rw [ByteBuffer.reading_get_cons, ok_bind]
    refine (getEach_eq _ _ xs).trans ?_
    rw [Nat.add_comm 1, List.headD_cons, List.length_cons, List.take_succ_cons, List.drop_succ_cons]
    simp

theorem readTime_eq (r xs : Bytes) : readTime (.reading r xs) =
    if 5 ≤ xs.length then .ok (.reading (r ++ xs.take 5) (xs.drop 5))
    else .error .bufferUnderflow := by
  unfold readTime
  cases xs with
  | nil =>
    rw [ByteBuffer.reading_get_nil, error_bind]
    rfl
  | cons len xs =>
    have htake := reading_take_eq (r ++ [len]) xs 4
    rw [ByteBuffer.reading_get_cons, ok_bind]
    dsimp only
    unfold ByteBuffer.getInt
    rw [htake]
    by_cases h : 4 ≤ xs.length
    · rw [if_pos h, if_pos (show 5 ≤ (len :: xs).length from Nat.succ_le_succ h), ok_bind,
        List.append_assoc]
      rfl
    · rw [if_neg h, if_neg (show ¬ 5 ≤ (len :: xs).length from fun h' => h (Nat.le_of_succ_le_succ h')),
        error_bind]
      rfl

/-- A case of the `switch` reads its bytes or leaves the state alone. -/
theorem readOption_eq (code : Byte) (r xs : Bytes) (s : Scope) :
    readOption code (.reading r xs) s =
      if bodyLength code xs ≤ xs.length then
        ⟨.ok (.reading (r ++ xs.take (bodyLength code xs)) (xs.drop (bodyLength code xs))),
          s.assign ((typeOf code xs).foldl next s.statics.dhcp_current_state), []⟩
      else ⟨.error .bufferUnderflow, s, []⟩ := by
  unfold bodyLength typeOf
  by_cases htype : code = DHCP_MSG_TYPE
  · subst htype
    rw [if_pos rfl, if_pos rfl]
    match xs with
    | [] =>
      rw [if_neg (by simp), readOption, if_pos rfl, ByteBuffer.reading_get_nil, Prog.lift_error_bind]
      rfl
    | [len] =>
      rw [if_neg (by simp), readOption, if_pos rfl, ByteBuffer.reading_get_cons, Prog.lift_ok_bind]
      dsimp only
      rw [ByteBuffer.reading_get_nil, Prog.lift_error_bind]
      rfl
    | len :: t :: rest =>
      rw [if_pos (by simp)]
      refine (readOption_msg_type s r len t rest).trans ?_
      rw [List.append_assoc]
      rfl
  rw [if_neg htype, if_neg htype]
  simp only [List.contains_iff_mem]
  by_cases htime : code ∈ timeOptions
  · rw [if_pos htime, readOption_time htime, Prog.lift_run, readTime_eq]
    split <;> rfl
  rw [if_neg htime]
  by_cases harray : code ∈ arrayOptions
  · rw [if_pos harray, readOption_array harray, Prog.lift_run, printOptionArray_eq]
    split <;> rfl
  · rw [if_neg harray, readOption_other htype htime harray, if_pos (Nat.zero_le _)]
    simp only [List.take_zero, List.append_nil, List.drop_zero]
    rfl

/-! ## The handler -/

/-- The loop does what the walk says. -/
theorem optionLoop_eq (n : Nat) (r xs : Bytes) (s : Scope) :
    optionLoop n (.reading r xs) s =
      ⟨if (walk n xs).ended then .ok () else .error .bufferUnderflow,
        s.assign ((walk n xs).types.foldl next s.statics.dhcp_current_state), []⟩ := by
  induction n generalizing r xs s with
  | zero => rfl
  | succ n ih =>
    cases xs with
    | nil =>
      rw [optionLoop, ByteBuffer.reading_get_nil, Prog.lift_error_bind]
      rfl
    | cons code xs =>
      rw [optionLoop, ByteBuffer.reading_get_cons, Prog.lift_ok_bind]
      dsimp only
      by_cases hend : code = OPTION_END
      · rw [if_pos hend, walk, if_pos hend]
        rfl
      have hoption := readOption_eq code (r ++ [code]) xs s
      rw [if_neg hend, walk, if_neg hend]
      by_cases hlen : bodyLength code xs ≤ xs.length
      · rw [if_pos hlen] at hoption ⊢
        refine (Prog.bind_run_ok hoption (ih _ _ _)).trans ?_
        rw [Scope.assign_state, Scope.assign_assign, List.foldl_append]
        rfl
      · rw [if_neg hlen] at hoption ⊢
        exact Prog.bind_run_error hoption

section

variable (dev : DataLinkLayer)

/-- The options of a message are walked, and if the walk gets to an end the client
acts on the state it leaves. -/
theorem readOptions_eq (data : Bytes) (s : Scope) : ∃ s1 : Scope,
    s1 = s.assign ((walked data).types.foldl next s.statics.dhcp_current_state) ∧
      if (walked data).ended then readOptions dev data s = trigger_action_by_state dev s1
      else ∃ e, readOptions dev data s = ⟨.error e, s1, []⟩ := by
  refine ⟨_, rfl, ?_⟩
  by_cases hlen : 240 ≤ data.length
  · have hpos := ByteBuffer.setPosition_reading (data.take 240) (data.drop 240)
      (b := ByteBuffer.wrap data) (p := DHCP_OPTIONS_OFFSET) (List.take_append_drop ..).symm
      (by rw [List.length_take, Nat.min_eq_left hlen]; rfl)
    have hloop : optionLoop ((data.drop 240).length + 1)
        (.reading (data.take 240) (data.drop 240)) s =
          ⟨if (walked data).ended then .ok () else .error .bufferUnderflow,
            s.assign ((walked data).types.foldl next s.statics.dhcp_current_state), []⟩ :=
      optionLoop_eq ..
    generalize s.assign ((walked data).types.foldl next s.statics.dhcp_current_state) = s1 at hloop ⊢
    unfold readOptions
    rw [hpos, Prog.lift_ok_bind, ByteBuffer.reading_remaining]
    cases hended : (walked data).ended with
    | false =>
      rw [hended] at hloop
      exact ⟨_, Prog.bind_run_error hloop⟩
    | true =>
      rw [hended] at hloop
      rw [if_pos rfl, Prog.bind_run, hloop]
      dsimp only [↓reduceIte]
      rw [Prog.read_bind_run, trigger_action_by_state_eq]
      by_cases hstate : s1.statics.dhcp_current_state = .REQUESTING
      · simp only [hstate, ↓reduceIte, List.nil_append]
        rw [trigger_action_by_state_eq, if_pos hstate]
      · simp only [hstate, ↓reduceIte, List.nil_append]
        rfl
  · have hpos : (ByteBuffer.wrap data).setPosition DHCP_OPTIONS_OFFSET = .error .illegalArgument :=
      dif_neg (by show ¬ (0 ≤ (240 : Int) ∧ (240 : Int) ≤ data.length); omega)
    unfold readOptions
    rw [hpos, Prog.lift_error_bind, walked_short (by omega)]
    exact ⟨_, rfl⟩

variable {s : Scope} {headerInfo : Info} {data : Bytes}
  (hdata : headerInfo .data = some (.bytes data))

include hdata

theorem handleData_bytes : handleData dev headerInfo =
    (readFirstPart data >>= fun readSuccess => if readSuccess then readOptions dev data else pure ()) := by
  have hbytes : headerInfo.getBytes .data = (Received.info ⟨[], data⟩).getBytes .data :=
    Info.getBytes_ok hdata
  rw [handleData_congr dev hbytes, handleData_received]

/-- A reply is handled without an exception if its walk gets to an end, and else
leaves the address and the state it got to. -/
theorem handleData_walk (hs : Constructed s) (hreply : IsReply data) :
    if (walked data).ended then (handleData dev headerInfo s).result = .ok ()
    else ∃ e, handleData dev headerInfo s = ⟨.error e, (s.offered (your_addr data)).assign
      ((walked data).types.foldl next s.statics.dhcp_current_state), []⟩ := by
  have hfirst := readFirstPart_reply hreply s
  rw [handleData_bytes dev hdata]
  by_cases h24 : 24 ≤ data.length
  · rw [if_pos h24] at hfirst
    obtain ⟨s1, hs1, hoptions⟩ := readOptions_eq dev data (s.offered (your_addr data))
    have hrun : (readFirstPart data >>= fun readSuccess =>
        if readSuccess then readOptions dev data else pure ()) s =
          readOptions dev data (s.offered (your_addr data)) := Prog.bind_run_ok hfirst rfl
    rw [hrun]
    split
    · rename_i hended
      rw [if_pos hended] at hoptions
      have hready : Ready s1 := by
        subst hs1
        refine ⟨hs, fun ip hip => ?_⟩
        obtain rfl := Option.some.inj hip
        exact hreply.your_addr_length
      rw [hoptions]
      exact (trigger_action_by_state_returns dev hready).1
    · rename_i hended
      rw [if_neg hended] at hoptions
      obtain ⟨e, he⟩ := hoptions
      rw [he, hs1]
      exact ⟨e, rfl⟩
  · rw [if_neg h24] at hfirst
    rw [walked_short (by omega), if_neg (by decide), Prog.bind_run_error hfirst]
    exact ⟨_, rfl⟩

/-- What is no reply is never more than looked at. -/
theorem untouched_of_not_reply (h : ¬ IsReply data) : UntouchedOnError dev headerInfo s := by
  intro e _
  rw [handleData_bytes dev hdata]
  rcases readFirstPart_other h s with hfirst | ⟨e, hfirst⟩
  · rw [Prog.bind_run_ok hfirst rfl]
    exact ⟨rfl, rfl, rfl⟩
  · rw [Prog.bind_run_error hfirst]
    exact ⟨rfl, rfl, rfl⟩

/-- Which payloads leave the client untouched when they throw: a reply that is
walked to no end must offer the address that is remembered already and have no
message type before it stops that moves the state. -/
theorem malformed_untouched_iff (hs : Constructed s) :
    UntouchedOnError dev headerInfo s ↔
      (IsReply data → (walked data).ended = false →
        s.this.server_supply_ip = some (your_addr data) ∧
        (walked data).types.foldl next s.statics.dhcp_current_state =
          s.statics.dhcp_current_state) := by
  by_cases hreply : IsReply data
  swap
  · exact iff_of_true (untouched_of_not_reply dev hdata hreply) fun h => absurd h hreply
  have hwalk := handleData_walk dev hdata hs hreply
  rw [UntouchedOnError]
  cases hended : (walked data).ended with
  | true =>
    rw [hended, if_pos rfl] at hwalk
    rw [hwalk]
    refine iff_of_true ?_ ?_
    · rintro e ⟨⟩
    · rintro _ ⟨⟩
  | false =>
    rw [hended, if_neg (by decide)] at hwalk
    obtain ⟨e, he⟩ := hwalk
    rw [he]
    constructor
    · intro h _ _
      obtain ⟨hstate, hsupply, -⟩ := h e rfl
      exact ⟨Eq.symm hsupply, hstate⟩
    · rintro h _ -
      obtain ⟨hsupply, hstate⟩ := h hreply rfl
      exact ⟨hstate, Eq.symm hsupply, rfl⟩

end

/-- A reply that is cut off behind the offered address 0.0.0.0. -/
def cutReply : Bytes := 2 :: List.replicate 19 0

def cutReply_info : Info := Info.empty.put .data (.bytes cutReply)

theorem cutReply_info_data : cutReply_info .data = some (.bytes cutReply) := rfl

/-- The address is remembered already. -/
theorem cut_reply_untouched :
    UntouchedOnError sampleDevice cutReply_info (sampleScope.offered [0, 0, 0, 0]) := by
  have hs : Constructed (sampleScope.offered [0, 0, 0, 0]) := sampleScope_ready.1
  exact (malformed_untouched_iff sampleDevice cutReply_info_data hs).mpr (by decide)

/-- The address is remembered for nothing. -/
theorem cut_reply_touches : ¬ ∀ (dev : DataLinkLayer) (s : Scope) (headerInfo : Info) (data : Bytes),
    Constructed s → headerInfo .data = some (.bytes data) → UntouchedOnError dev headerInfo s := by
  intro h
  have huntouched := h sampleDevice sampleScope _ cutReply sampleScope_ready.1 cutReply_info_data
  have hwalk := handleData_walk sampleDevice cutReply_info_data sampleScope_ready.1 (by decide)
  rw [if_neg (by decide)] at hwalk
  obtain ⟨e, he⟩ := hwalk
  rw [UntouchedOnError, he] at huntouched
  have hsupply : some (your_addr cutReply) = sampleScope.this.server_supply_ip := (huntouched e rfl).2.1
  exact absurd hsupply (by decide)

end TcpIpStack.DHCPApplication
