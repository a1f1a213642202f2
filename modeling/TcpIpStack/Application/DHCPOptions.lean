import TcpIpStack.Application.DHCPRuns

/-!
# The options of a DHCP message

An option is a pad byte or a code, a length byte and a value. The loop of
`readOptions` stays on the options as long as its `switch` reads each one whole:
a code without a case leaves the length and the value in the buffer, and a length
of more than 127 is negative as a `byte`.
-/

namespace TcpIpStack.DHCPApplication

open TcpIpStack.Java TcpIpStack.Lib

/-- The options whose value is one `int`. -/
def timeOptions : List Byte := [DHCP_IP_ADDRESS_LEASE_TIME, DHCP_RENEWAL_TIME, DHCP_REBINDING_TIME]

/-- The options whose value is read by its length. -/
def arrayOptions : List Byte := [DHCP_SERVER_IDENTIFER, DHCP_SUBNET_MASK, DHCP_BROADCAST_ADDRESS,
  DHCP_ROUTER, DHCP_DOMAIN_NAME_SERVER, DHCP_DOMAIN_NAME]

/-- A code, a length and a value. -/
structure Tlv where
  code : Byte
  value : Bytes
  code_range : code ≠ 0 ∧ code ≠ OPTION_END
  length_le : value.length ≤ 255
  type_length : code = DHCP_MSG_TYPE → value.length = 1
  time_length : code ∈ timeOptions → value.length = 4

inductive DHCPOption where
  | pad
  | tlv (o : Tlv)

namespace DHCPOption

def bytes : DHCPOption → Bytes
  | pad => [0]
  | tlv o => o.code :: BitVec.ofNat 8 o.value.length :: o.value

/-- The message type, if this is option 53. -/
def msg_type : DHCPOption → Option Byte
  | pad => none
  | tlv o => if o.code = DHCP_MSG_TYPE then o.value.head? else none

/-- The `switch` reads the option whole. -/
def Handled : DHCPOption → Prop
  | pad => True
  | tlv o => o.code = DHCP_MSG_TYPE ∨ o.code ∈ timeOptions ∨
      o.code ∈ arrayOptions ∧ o.value.length ≤ 127

instance : DecidablePred Handled
  | pad => inferInstanceAs (Decidable True)
  | tlv o => inferInstanceAs (Decidable (o.code = DHCP_MSG_TYPE ∨ o.code ∈ timeOptions ∨
      o.code ∈ arrayOptions ∧ o.value.length ≤ 127))

end DHCPOption

def optionBytes (options : List DHCPOption) : Bytes := options.flatMap DHCPOption.bytes

def messageTypes (options : List DHCPOption) : List Byte := options.filterMap DHCPOption.msg_type

/-- One round of the loop, on an option other than the end. -/
def Round (s : Scope) (buffer : ByteBuffer) (s' : Scope) (buffer' : ByteBuffer) : Prop :=
  ∃ type after, buffer.get = .ok (type, after) ∧ type ≠ OPTION_END ∧
    readOption type after s = ⟨.ok buffer', s', []⟩

/-- Every round starts where an option starts and ends where it ends; `r` has been
read before and `rest` follows. -/
def ReadsOneByOne : List DHCPOption → Scope → Bytes → Bytes → Scope → Prop
  | [], s, _, _, s' => s' = s
  | o :: options, s, r, rest, s' => ∃ s1,
      Round s (.reading r (o.bytes ++ (optionBytes options ++ rest)))
        s1 (.reading (r ++ o.bytes) (optionBytes options ++ rest)) ∧
      ReadsOneByOne options s1 (r ++ o.bytes) rest s'

/-- The state with `dhcp_current_state` assigned. -/
def Scope.assign (s : Scope) (state : DHCPState) : Scope :=
  { s with statics := { s.statics with dhcp_current_state := state } }

@[simp] theorem Scope.assign_state (s : Scope) (state : DHCPState) :
    (s.assign state).statics.dhcp_current_state = state := rfl

@[simp] theorem Scope.assign_assign (s : Scope) (state state' : DHCPState) :
    (s.assign state).assign state' = s.assign state' := rfl

/-! ## One option -/

theorem readOption_array {type : Byte} (h : type ∈ arrayOptions) (buffer : ByteBuffer) :
    readOption type buffer = Prog.lift (printOptionArray buffer) := by
  simp only [arrayOptions, List.mem_cons, List.not_mem_nil, or_false] at h
  rcases h with rfl | rfl | rfl | rfl | rfl | rfl <;> rfl

theorem readOption_time {type : Byte} (h : type ∈ timeOptions) (buffer : ByteBuffer) :
    readOption type buffer = Prog.lift (readTime buffer) := by
  simp only [timeOptions, List.mem_cons, List.not_mem_nil, or_false] at h
  rcases h with rfl | rfl | rfl <;> rfl

/-- A code without a case. -/
theorem readOption_other {type : Byte} (htype : type ≠ DHCP_MSG_TYPE) (htime : type ∉ timeOptions)
    (harray : type ∉ arrayOptions) (buffer : ByteBuffer) : readOption type buffer = pure buffer := by
  simp only [arrayOptions, List.mem_cons, List.not_mem_nil, or_false, not_or] at harray
  have hname : type ≠ DHCP_DOMAIN_NAME := harray.2.2.2.2.2
  have hlist : type ∉ [DHCP_SERVER_IDENTIFER, DHCP_SUBNET_MASK, DHCP_BROADCAST_ADDRESS, DHCP_ROUTER,
      DHCP_DOMAIN_NAME_SERVER] := by
    simp only [List.mem_cons, List.not_mem_nil, or_false, not_or]
    exact ⟨harray.1, harray.2.1, harray.2.2.1, harray.2.2.2.1, harray.2.2.2.2.1⟩
  unfold readOption
  rw [if_neg htype, if_neg hlist]
  show (if type ∈ timeOptions then _ else _ : AppM Scope ByteBuffer) = _
  rw [if_neg htime, if_neg hname]

theorem getEach_reading (r value rest : Bytes) :
    getEach value.length (.reading r (value ++ rest)) = .ok (.reading (r ++ value) rest) := by
  induction value generalizing r with
  | nil => rw [List.append_nil]; rfl
  | cons x value ih =>
    show getEach (value.length + 1) (.reading r (x :: (value ++ rest))) = _
    rw [getEach, ByteBuffer.reading_get_cons, ok_bind]
    refine (ih (r ++ [x])).trans ?_
    rw [List.append_assoc]
    rfl

/-- A length byte counts as a signed one: -/
theorem count_toNat {n : Nat} (h : n ≤ 255) :
    (BitVec.ofNat 8 n).toInt.toNat = if n ≤ 127 then n else 0 := by
  unfold BitVec.toInt
  rw [BitVec.toNat_ofNat]
  split <;> split <;> omega

theorem printOptionArray_reading (len : Byte) (r rest : Bytes) :
    printOptionArray (.reading r (len :: rest)) =
      getEach len.toInt.toNat (.reading (r ++ [len]) rest) := by
  unfold printOptionArray
  rw [ByteBuffer.reading_get_cons, ok_bind]

/-- up to 127 it is read as it is, -/
theorem printOptionArray_short {value : Bytes} (h : value.length ≤ 127) (r rest : Bytes) :
    printOptionArray (.reading r (BitVec.ofNat 8 value.length :: (value ++ rest))) =
      .ok (.reading (r ++ [BitVec.ofNat 8 value.length] ++ value) rest) := by
  rw [printOptionArray_reading, count_toNat (by omega), if_pos h, getEach_reading]

/-- and a longer one is negative: nothing of the value is read. -/
theorem printOptionArray_long {value : Bytes} (h : 127 < value.length) (hle : value.length ≤ 255)
    (r rest : Bytes) :
    printOptionArray (.reading r (BitVec.ofNat 8 value.length :: rest)) =
      .ok (.reading (r ++ [BitVec.ofNat 8 value.length]) rest) := by
  rw [printOptionArray_reading, count_toNat hle, if_neg (by omega)]
  rfl

theorem readTime_reading {value : Bytes} (h : value.length = 4) (r rest : Bytes) (len : Byte) :
    readTime (.reading r (len :: (value ++ rest))) = .ok (.reading (r ++ [len] ++ value) rest) := by
  unfold readTime
  rw [ByteBuffer.reading_get_cons, ok_bind]
  dsimp only
  rw [ByteBuffer.reading_getInt _ h, ok_bind]
  rfl

/-- The round of an option whose cases read `body`. -/
theorem Round.of_readOption {s s' : Scope} {r body rest : Bytes} {code : Byte}
    (hcode : code ≠ OPTION_END)
    (h : readOption code (.reading (r ++ [code]) (body ++ rest)) s =
      ⟨.ok (.reading (r ++ [code] ++ body) rest), s', []⟩) :
    Round s (.reading r (code :: body ++ rest)) s' (.reading (r ++ (code :: body)) rest) := by
  refine ⟨code, .reading (r ++ [code]) (body ++ rest), ?_, hcode, ?_⟩
  · exact ByteBuffer.reading_get_cons r code (body ++ rest)
  · rw [h, List.append_assoc]
    rfl

/-- The option's effect on the state. -/
def DHCPOption.step (o : DHCPOption) (state : DHCPState) : DHCPState :=
  o.msg_type.toList.foldl next state

theorem Tlv.step_eq {o : Tlv} (h : o.code ≠ DHCP_MSG_TYPE) (state : DHCPState) :
    (DHCPOption.tlv o).step state = state := by
  rw [DHCPOption.step, DHCPOption.msg_type, if_neg h]
  rfl

/-- No option of another kind has the code of the message type. -/
theorem ne_msg_type {code : Byte} (h : code ∈ timeOptions ∨ code ∈ arrayOptions) :
    code ≠ DHCP_MSG_TYPE := by
  rintro rfl
  revert h
  decide

/-- An option that is handled takes one round, -/
theorem round_of_handled {o : DHCPOption} (h : o.Handled) (s : Scope) (r rest : Bytes) :
    Round s (.reading r (o.bytes ++ rest)) (s.assign (o.step s.statics.dhcp_current_state))
      (.reading (r ++ o.bytes) rest) := by
  cases o with
  | pad =>
    have hread : readOption 0 (.reading (r ++ [0]) ([] ++ rest)) s =
        ⟨.ok (.reading (r ++ [0] ++ []) rest), s, []⟩ := by
      rw [List.append_nil]
      rfl
    exact Round.of_readOption (by decide) hread
  | tlv o =>
    refine Round.of_readOption o.code_range.2 ?_
    rcases h with h | h | ⟨h, hshort⟩
    · obtain ⟨t, ht⟩ := List.length_eq_one_iff.mp (o.type_length h)
      have hstep : (DHCPOption.tlv o).step s.statics.dhcp_current_state =
          next s.statics.dhcp_current_state t := by
        rw [DHCPOption.step, DHCPOption.msg_type, if_pos h, ht]
        rfl
      rw [hstep, h, ht]
      refine (readOption_msg_type s _ _ t rest).trans ?_
      rw [List.append_assoc _ [_] [t]]
      rfl
    · rw [Tlv.step_eq (ne_msg_type (.inl h)), readOption_time h]
      have hread := readTime_reading (o.time_length h) (r ++ [o.code]) rest
        (BitVec.ofNat 8 o.value.length)
      rw [List.append_assoc _ [_] o.value] at hread
      exact congrArg (fun x => Outcome.mk x s []) hread
    · rw [Tlv.step_eq (ne_msg_type (.inr h)), readOption_array h]
      have hread := printOptionArray_short hshort (r ++ [o.code]) rest
      rw [List.append_assoc _ [_] o.value] at hread
      exact congrArg (fun x => Outcome.mk x s []) hread

/-- and one that is not does not end where its round ends. -/
theorem handled_of_round {o : DHCPOption} {s s' : Scope} {r rest : Bytes}
    (h : Round s (.reading r (o.bytes ++ rest)) s' (.reading (r ++ o.bytes) rest)) : o.Handled := by
  cases o with
  | pad => trivial
  | tlv o =>
    by_contra hnot
    obtain ⟨htype, hnot⟩ := not_or.mp hnot
    obtain ⟨htime, harray⟩ := not_or.mp hnot
    obtain ⟨type, after, hget, -, hread⟩ := h
    obtain ⟨rfl, rfl⟩ := Prod.mk.inj (Except.ok.inj (hget.symm.trans
      (ByteBuffer.reading_get_cons r o.code (BitVec.ofNat 8 o.value.length :: (o.value ++ rest)))))
    by_cases hmem : o.code ∈ arrayOptions
    · have hlong : 127 < o.value.length := by
        by_contra hle
        exact harray ⟨hmem, by omega⟩
      rw [readOption_array hmem, printOptionArray_long hlong o.length_le] at hread
      have hend := Except.ok.inj (congrArg Outcome.result hread)
      have hpos : (r ++ [o.code] ++ [BitVec.ofNat 8 o.value.length]).length =
          (r ++ (DHCPOption.tlv o).bytes).length := congrArg ByteBuffer.position hend
      simp only [DHCPOption.bytes, List.length_append, List.length_cons, List.length_nil] at hpos
      omega
    · rw [readOption_other htype htime hmem] at hread
      have hend := Except.ok.inj (congrArg Outcome.result hread)
      have hpos : (r ++ [o.code]).length = (r ++ (DHCPOption.tlv o).bytes).length :=
        congrArg ByteBuffer.position hend
      simp only [DHCPOption.bytes, List.length_append, List.length_cons, List.length_nil] at hpos
      omega

/-! ## The loop -/

theorem optionLoop_round {s s' : Scope} {buffer buffer' : ByteBuffer}
    (h : Round s buffer s' buffer') (n : Nat) :
    optionLoop (n + 1) buffer s = optionLoop n buffer' s' := by
  obtain ⟨type, after, hget, htype, hread⟩ := h
  rw [optionLoop, hget, Prog.lift_ok_bind]
  show (if type = OPTION_END then _ else _ : AppM Scope Unit) s = _
  rw [if_neg htype]
  exact Prog.bind_run_ok hread rfl

theorem optionLoop_end (s : Scope) (r rest : Bytes) (n : Nat) :
    optionLoop (n + 1) (.reading r (OPTION_END :: rest)) s = ⟨.ok (), s, []⟩ := by
  rw [optionLoop, ByteBuffer.reading_get_cons, Prog.lift_ok_bind]
  show (if OPTION_END = OPTION_END then _ else _ : AppM Scope Unit) s = _
  rw [if_pos rfl]
  rfl

theorem length_le_optionBytes (options : List DHCPOption) :
    options.length ≤ (optionBytes options).length := by
  induction options with
  | nil => exact Nat.zero_le _
  | cons o options ih =>
    rw [optionBytes, List.flatMap_cons, List.length_append, List.length_cons]
    have hpos : 1 ≤ o.bytes.length := by
      cases o with
      | pad => exact Nat.le_refl 1
      | tlv o => exact Nat.le_add_left 1 _
    change options.length ≤ (List.flatMap DHCPOption.bytes options).length at ih
    omega

/-- Options read one by one up to the end. -/
theorem optionLoop_options {options : List DHCPOption} {s s' : Scope} {r rest : Bytes}
    (h : ReadsOneByOne options s r (OPTION_END :: rest) s') {n : Nat} (hn : options.length < n) :
    optionLoop n (.reading r (optionBytes options ++ OPTION_END :: rest)) s =
      ⟨.ok (), s', []⟩ := by
  induction options generalizing s r n with
  | nil =>
    cases h
    obtain ⟨n, rfl⟩ := Nat.exists_eq_succ_of_ne_zero (Nat.ne_of_gt hn)
    exact optionLoop_end _ r rest n
  | cons o options ih =>
    obtain ⟨s1, hround, hrest⟩ := h
    obtain ⟨n, rfl⟩ := Nat.exists_eq_succ_of_ne_zero (Nat.ne_of_gt (Nat.zero_lt_of_lt hn))
    have hbytes : optionBytes (o :: options) ++ OPTION_END :: rest =
        o.bytes ++ (optionBytes options ++ OPTION_END :: rest) := by
      rw [optionBytes, List.flatMap_cons, List.append_assoc]
      rfl
    rw [hbytes]
    exact (optionLoop_round hround n).trans (ih hrest (by rw [List.length_cons] at hn; omega))

/-- Handled options are read one by one and assign the state in turn; -/
theorem readsOneByOne_of_handled {options : List DHCPOption} (h : ∀ o ∈ options, o.Handled)
    (s : Scope) (r rest : Bytes) :
    ReadsOneByOne options s r rest
      (s.assign ((messageTypes options).foldl next s.statics.dhcp_current_state)) := by
  induction options generalizing s r with
  | nil => rfl
  | cons o options ih =>
    refine ⟨_, round_of_handled (h o List.mem_cons_self) s r _, ?_⟩
    have hrest := ih (fun p hp => h p (List.mem_cons_of_mem _ hp))
      (s.assign (o.step s.statics.dhcp_current_state)) (r ++ o.bytes)
    rw [Scope.assign_state, Scope.assign_assign] at hrest
    have hstep : (messageTypes (o :: options)).foldl next s.statics.dhcp_current_state =
        (messageTypes options).foldl next (o.step s.statics.dhcp_current_state) := by
      unfold messageTypes DHCPOption.step
      cases htype : o.msg_type with
      | none => rw [List.filterMap_cons_none htype]; rfl
      | some t => rw [List.filterMap_cons_some htype]; rfl
    rw [hstep]
    exact hrest

/-- and only handled options are. -/
theorem handled_of_readsOneByOne {options : List DHCPOption} {s s' : Scope} {r rest : Bytes}
    (h : ReadsOneByOne options s r rest s') : ∀ o ∈ options, o.Handled := by
  induction options generalizing s r with
  | nil => exact nofun
  | cons o options ih =>
    obtain ⟨s1, hround, hrest⟩ := h
    intro p hp
    rcases List.mem_cons.mp hp with rfl | hp
    · exact handled_of_round hround
    · exact ih hrest p hp

/-! ## Whole messages -/

/-- The object can act on the state: it was constructed, and an address it
remembers is an address. -/
def Ready (s : Scope) : Prop :=
  Constructed s ∧ ∀ ip, s.this.server_supply_ip = some ip → ip.length = 4

/-- A request, or none for lack of an address, leaves the state alone. -/
theorem dhcpRequest_returns (dev : DataLinkLayer) {s : Scope} (hs : Ready s) :
    (dhcpRequest dev s).result = .ok () ∧
      (dhcpRequest dev s).state.statics.dhcp_current_state = s.statics.dhcp_current_state := by
  obtain ⟨hconstructed, hlen⟩ := hs
  cases hip : s.this.server_supply_ip with
  | none =>
    unfold dhcpRequest
    rw [Prog.read_bind_run, hip]
    exact ⟨rfl, rfl⟩
  | some ip =>
    obtain ⟨packet, options, -, -, hrun⟩ := dhcpRequest_run dev hconstructed hip (hlen ip hip)
    rw [hrun]
    exact ⟨rfl, rfl⟩

theorem trigger_action_by_state_eq (dev : DataLinkLayer) (s : Scope) :
    trigger_action_by_state dev s =
      if s.statics.dhcp_current_state = .REQUESTING then dhcpRequest dev s else ⟨.ok (), s, []⟩ := by
  unfold trigger_action_by_state
  rw [Prog.read_bind_run]
  cases s.statics.dhcp_current_state <;> rfl

theorem trigger_action_by_state_returns (dev : DataLinkLayer) {s : Scope} (hs : Ready s) :
    (trigger_action_by_state dev s).result = .ok () ∧
      (trigger_action_by_state dev s).state.statics.dhcp_current_state =
        s.statics.dhcp_current_state := by
  rw [trigger_action_by_state_eq]
  split
  · exact dhcpRequest_returns dev hs
  · exact ⟨rfl, rfl⟩

/-- What the grammar asks of `readOptions`: it reads the options one by one,
returns, and assigns the state of the message type among them, if there is one. -/
structure Parses (dev : DataLinkLayer) (s : Scope) (fixed : Bytes) (options : List DHCPOption)
    (padding : Bytes) : Prop where
  aligned : ∃ s', ReadsOneByOne options s fixed (OPTION_END :: padding) s'
  returns : (readOptions dev (fixed ++ optionBytes options ++ OPTION_END :: padding) s).result = .ok ()
  state : (readOptions dev (fixed ++ optionBytes options ++ OPTION_END :: padding)
    s).state.statics.dhcp_current_state =
      (messageTypes options).foldl next s.statics.dhcp_current_state

/-- The options of a message are parsed by the grammar if and only if each is one
the `switch` reads whole. -/
theorem readOptions_parses_iff (dev : DataLinkLayer) {s : Scope} (hs : Ready s) {fixed : Bytes}
    (hfixed : fixed.length = 240) (options : List DHCPOption) (padding : Bytes) :
    Parses dev s fixed options padding ↔ ∀ o ∈ options, o.Handled := by
  constructor
  · rintro ⟨⟨s', haligned⟩, -, -⟩
    exact handled_of_readsOneByOne haligned
  intro h
  obtain ⟨s', hs'⟩ : ∃ s' : Scope, s' =
      s.assign ((messageTypes options).foldl next s.statics.dhcp_current_state) := ⟨_, rfl⟩
  have hreads : ReadsOneByOne options s fixed (OPTION_END :: padding) s' :=
    hs' ▸ readsOneByOne_of_handled h s fixed (OPTION_END :: padding)
  have hstate : s'.statics.dhcp_current_state =
      (messageTypes options).foldl next s.statics.dhcp_current_state := by rw [hs']; rfl
  have hready : Ready s' := by rw [hs']; exact hs
  have hpos := ByteBuffer.setPosition_reading fixed (optionBytes options ++ OPTION_END :: padding)
    (b := ByteBuffer.wrap (fixed ++ optionBytes options ++ OPTION_END :: padding))
    (p := DHCP_OPTIONS_OFFSET) (List.append_assoc ..) (by rw [hfixed]; rfl)
  have hrounds : options.length < (optionBytes options ++ OPTION_END :: padding).length + 1 := by
    have := length_le_optionBytes options
    rw [List.length_append]
    omega
  have hrun : readOptions dev (fixed ++ optionBytes options ++ OPTION_END :: padding) s =
      (if s'.statics.dhcp_current_state = .REQUESTING then trigger_action_by_state dev
        else pure ()) s' := by
    unfold readOptions
    rw [hpos, Prog.lift_ok_bind, ByteBuffer.reading_remaining]
    refine Prog.bind_run_ok (optionLoop_options hreads hrounds) ?_
    rfl
  by_cases hrequesting : s'.statics.dhcp_current_state = .REQUESTING
  · rw [if_pos hrequesting] at hrun
    obtain ⟨hresult, htrigger⟩ := trigger_action_by_state_returns dev hready
    exact ⟨⟨s', hreads⟩, by rw [hrun, hresult], by rw [hrun, htrigger, hstate]⟩
  · rw [if_neg hrequesting] at hrun
    exact ⟨⟨s', hreads⟩, by rw [hrun]; rfl, by rw [hrun]; exact hstate⟩

/-- A client in the state `DISCOVER`. -/
def sampleScope : Scope :=
  ⟨⟨some (List.replicate 236 0), some [], .DISCOVER⟩, ⟨68, 7, none⟩⟩

theorem sampleScope_ready : Ready sampleScope :=
  ⟨⟨⟨_, rfl, rfl⟩, _, rfl, by decide⟩, nofun⟩

/-- Option 53 with the type `OFFER`. -/
def sampleOffer : DHCPOption := .tlv ⟨53, [2], by decide, by decide, by decide, by decide⟩

def sampleRouter : DHCPOption := .tlv ⟨3, [192, 168, 1, 1], by decide, by decide, by decide, by decide⟩

/-- Option 12, with two octets that are the code of the end. -/
def sampleHostName : DHCPOption := .tlv ⟨12, [255, 255], by decide, by decide, by decide, by decide⟩

theorem readOptions_parses_offer :
    Parses sampleDevice sampleScope (2 :: List.replicate 239 0) [sampleOffer, .pad, sampleRouter] [] :=
  (readOptions_parses_iff sampleDevice sampleScope_ready
    (by rw [List.length_cons, List.length_replicate]) _ _).mpr (by decide)

/-- The name of a host is walked as if it were options. -/
theorem readOptions_host_name : ¬ ∀ (dev : DataLinkLayer) (s : Scope), Ready s →
    ∀ fixed : Bytes, fixed.length = 240 → ∀ (options : List DHCPOption) (padding : Bytes),
      (messageTypes options).length ≤ 1 → Parses dev s fixed options padding := by
  intro h
  obtain ⟨⟨s', haligned⟩, -, -⟩ := h sampleDevice sampleScope sampleScope_ready
    (2 :: List.replicate 239 0) (by rw [List.length_cons, List.length_replicate])
    [sampleHostName, sampleOffer] [] (by decide)
  have hhandled := handled_of_readsOneByOne haligned sampleHostName List.mem_cons_self
  exact absurd hhandled (by decide)

end TcpIpStack.DHCPApplication
