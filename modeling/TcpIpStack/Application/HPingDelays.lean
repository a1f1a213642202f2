import Mathlib.Data.List.Induction
import TcpIpStack.Application.PingRuns

/-!
# The delays an `HPingApp` prints

The application keeps the time of its latest request only, and measures every reply
against that. `Step` interleaves requests and replies; after any steps `send_time` is
the latest time (`send_time_after`). A reply to another request is measured right only
where the seconds that are printed happen to be the same.
-/

namespace TcpIpStack

open TcpIpStack.Java TcpIpStack.Lib

/-- The fields `Calendar.get` returns. -/
def Clock.TimeOfDay (clock : Clock) : Prop :=
  clock.hour.toNat < 24 ∧ clock.minute.toNat < 60 ∧ clock.second.toNat < 60

namespace HPingApp

/-- What is done with the object: a request is built, or a table handed over. -/
inductive Step where
  | createICMPHeader (clock : Clock)
  | handleData (data : Info)

def step : Step → AppM HPingApp Unit
  | .createICMPHeader clock => createICMPHeader clock >>= fun _ => pure ()
  | .handleData data => handleData data

/-- The object after steps. -/
def afterSteps (steps : List Step) (this : HPingApp) : HPingApp := (Prog.runs step steps this).1

/-- The original times of the requests. -/
def requested (steps : List Step) : List JInt :=
  steps.filterMap fun
    | .createICMPHeader clock => some (timeOf clock)
    | .handleData _ => none

theorem requested_append (steps steps' : List Step) :
    requested (steps ++ steps') = requested steps ++ requested steps' := List.filterMap_append

/-- What a timestamp reply says. -/
structure Reply where
  sequence : Short
  original_time : JInt
  receive_time : JInt
  transmit_time : JInt

/-- The table of a timestamp reply. -/
structure Carries (data : Info) (r : Reply) : Prop where
  sequence : data .sequence = some (.short r.sequence)
  original_time : data .original_time = some (.int r.original_time)
  receive_time : data .receive_time = some (.int r.receive_time)
  transmit_time : data .transmit_time = some (.int r.transmit_time)

/-- The seconds from `time` to `send_time`, as they are printed. -/
def delay (send_time time : JInt) : Long := ((send_time - time).sdiv 1000).signExtend 64

/-- The two figures of a reply, measured from `send_time`. -/
def figures (r : Reply) (send_time : JInt) : List Call :=
  [.print (.reply r.sequence (delay send_time r.receive_time)),
    .print (.reply r.sequence (delay send_time r.transmit_time))]

/-! ## What the object does -/

theorem handleData_run {data : Info} {r : Reply} (h : Carries data r) (this : HPingApp) :
    handleData data this = ⟨.ok (), this, figures r this.send_time⟩ := by
  have hsequence : data.unbox .sequence Obj.asShort = .ok r.sequence :=
    Info.unbox_ok h.sequence rfl
  have hreceive : data.unbox .receive_time Obj.asInt = .ok r.receive_time :=
    Info.unbox_ok h.receive_time rfl
  have htransmit : data.unbox .transmit_time Obj.asInt = .ok r.transmit_time :=
    Info.unbox_ok h.transmit_time rfl
  unfold handleData
  rw [hsequence, Prog.lift_ok_bind, hreceive, Prog.lift_ok_bind, Prog.read_bind_run]
  refine Prog.bind_run_ok (Prog.emit_run ..) ?_
  rw [htransmit, Prog.lift_ok_bind]
  rfl

/-- No table changes the object. -/
theorem handleData_state (data : Info) (this : HPingApp) : (handleData data this).state = this := by
  have hkeeps : Prog.Obeys (.keeps id) (handleData data) :=
    .bind (.lift _) fun sequence => .bind (.lift _) fun receive_time => .bind .read fun this =>
      .bind (.emit fun _ => rfl) fun _ => .bind (.lift _) fun transmit_time => .emit fun _ => rfl
  exact hkeeps this

/-- The object remembers the time of its latest request. -/
theorem send_time_after (steps : List Step) (this : HPingApp) :
    (afterSteps steps this).send_time = (requested steps).getLastD this.send_time := by
  induction steps using List.reverseRecOn with
  | nil => rfl
  | append_singleton steps i ih =>
    rw [afterSteps, Prog.runs_concat, requested_append]
    cases i with
    | createICMPHeader clock =>
      obtain ⟨c, hrun⟩ := createICMPHeader_eq clock (Prog.runs step steps this).1
      have hstate := (Prog.bind_pure_run (createICMPHeader clock) () (Prog.runs step steps this).1).1
      rw [step, hstate, hrun]
      exact (List.getLastD_concat ..).symm
    | handleData data =>
      rw [step, handleData_state]
      exact ih.trans (congrArg (List.getLastD · _) (List.append_nil _).symm)

/-- The peer's reply to a request: another type, and its own two times filled in. -/
def replyTo (request : Bytes) (receive_time transmit_time : JInt) : Packet :=
  (ICMPProtocolLayer.Query.timestamp none none none).reply
    (ByteBuffer.storeAt request 12 (intBytes receive_time ++ intBytes transmit_time))

/-- It is decoded to a table that carries the time of the request. -/
theorem replyTo_carries (clock : Clock) (this : HPingApp) (receive_time transmit_time : JInt) :
    ∃ request info, (createICMPHeader clock this).result = .ok (some request) ∧
      ICMPProtocolLayer.handlePacket (replyTo request receive_time transmit_time) = .ok (some info) ∧
      Carries info ⟨0, timeOf clock, receive_time, transmit_time⟩ := by
  obtain ⟨c, hrun⟩ := createICMPHeader_eq clock this
  have hfilled : ByteBuffer.storeAt (ICMPProtocolLayer.message 13 c this.toPingApp.identifier 0
      (ICMPProtocolLayer.timeBytes [timeOf clock, 0, 0])) 12
        (intBytes receive_time ++ intBytes transmit_time) =
      ICMPProtocolLayer.message 13 c this.toPingApp.identifier 0
        (ICMPProtocolLayer.timeBytes [timeOf clock, receive_time, transmit_time]) := rfl
  obtain ⟨info, hinfo, -, hsequence, horiginal, hreceive, htransmit⟩ :=
    ICMPProtocolLayer.handlePacket_timestamp_reply none none none c this.toPingApp.identifier 0
      [timeOf clock, receive_time, transmit_time]
  refine ⟨_, info, by rw [hrun], ?_, hsequence, horiginal, hreceive, htransmit⟩
  rw [replyTo, hfilled, hinfo]

/-! ## Seconds -/

/-- A time of day: a whole number of seconds, in milliseconds. -/
def OnSecond (t : JInt) : Prop := ∃ n : Nat, n < 86400 ∧ t.toInt = 1000 * n

theorem onSecond_timeOf {clock : Clock} (h : clock.TimeOfDay) : OnSecond (timeOf clock) := by
  obtain ⟨hhour, hminute, hsecond⟩ := h
  refine ⟨clock.hour.toNat * 3600 + clock.minute.toNat * 60 + clock.second.toNat, by omega, ?_⟩
  have hnat : (timeOf clock).toNat =
      (clock.hour.toNat * 3600 + clock.minute.toNat * 60 + clock.second.toNat) * 1000 := by
    unfold timeOf
    bv_omega
  rw [BitVec.toInt_eq_toNat_of_lt (by omega), hnat]
  omega

/-- The two are less than a second apart. -/
def Near (t x : JInt) : Prop := (t.toInt - x.toInt).natAbs < 1000

theorem delay_toInt (t x : JInt) :
    (delay t x).toInt = ((t.toInt - x.toInt).bmod (2 ^ 32)).tdiv 1000 := by
  have hne : (1000 : JInt) ≠ -1#32 := by decide
  rw [delay, BitVec.toInt_signExtend_of_le (by decide), BitVec.toInt_sdiv_of_ne_or_ne _ _ (.inr hne),
    BitVec.toInt_sub]
  rfl

/-- Numbers a second apart or more have the same seconds just if they have none. -/
theorem tdiv_eq_iff {a b : Int} (h : 1000 ≤ (a - b).natAbs) :
    a.tdiv 1000 = b.tdiv 1000 ↔ a.natAbs < 1000 ∧ b.natAbs < 1000 := by
  have hsign : Int.sign 1000 = 1 := rfl
  rw [Int.tdiv_eq_ediv, Int.tdiv_eq_ediv, hsign]
  split <;> split <;> omega

/-- A difference of two `int`s, one of them not negative, wraps around at most once. -/
theorem bmod_eq {d : Int} (hlow : -2 ^ 31 < d) (hhigh : d < 2 ^ 32) :
    d.bmod (2 ^ 32) = if d < 2 ^ 31 then d else d - 2 ^ 32 := by
  rw [Int.bmod_def]
  split <;> split <;> omega

/-- From two times of day the same seconds are printed just if the two are the same, or the
reply's time is less than a second from both, so that none is printed. -/
theorem delay_eq_iff {t u x : JInt} (ht : OnSecond t) (hu : OnSecond u) :
    delay u x = delay t x ↔ u = t ∨ Near t x ∧ Near u x := by
  by_cases hsame : u = t
  · rw [hsame]
    exact iff_of_true rfl (.inl rfl)
  rw [or_iff_right hsame, ← BitVec.toInt_inj, delay_toInt, delay_toInt]
  obtain ⟨m, hm, hm'⟩ := ht
  obtain ⟨n, hn, hn'⟩ := hu
  have hne : n ≠ m := fun h => hsame (BitVec.eq_of_toInt_eq (by rw [hm', hn', h]))
  have hlow := BitVec.le_toInt x
  have hhigh := BitVec.toInt_lt (x := x)
  rw [bmod_eq (by omega) (by omega), bmod_eq (by omega) (by omega), tdiv_eq_iff]
  · unfold Near
    split <;> split <;> omega
  · split <;> split <;> omega

/-! ## Whole runs -/

/-- Every table handed over carries a reply to a request that was built before. -/
def Echoing (steps : List Step) : Prop :=
  ∀ before data after, steps = before ++ .handleData data :: after →
    ∃ r, Carries data r ∧ r.original_time ∈ requested before

/-- Every reply is reported with the delays of its own request. -/
def ReportsOwn (this : HPingApp) (steps : List Step) : Prop :=
  ∀ before data after r, steps = before ++ .handleData data :: after → Carries data r →
    (handleData data (afterSteps before this)).out = figures r r.original_time

/-- When a reply comes, the latest request was sent in the same second as its own, or the
peer's two times are less than a second from both. -/
def Timely (steps : List Step) : Prop :=
  ∀ before data after r, steps = before ++ .handleData data :: after → Carries data r →
    ∀ last ∈ (requested before).getLast?, last = r.original_time ∨
      (Near r.original_time r.receive_time ∧ Near last r.receive_time) ∧
        Near r.original_time r.transmit_time ∧ Near last r.transmit_time

theorem Carries.eq {data : Info} {r r' : Reply} (h : Carries data r) (h' : Carries data r') :
    r = r' := by
  have hsequence := h.sequence.symm.trans h'.sequence
  have horiginal := h.original_time.symm.trans h'.original_time
  have hreceive := h.receive_time.symm.trans h'.receive_time
  have htransmit := h.transmit_time.symm.trans h'.transmit_time
  cases r
  cases r'
  cases hsequence
  cases horiginal
  cases hreceive
  cases htransmit
  rfl

theorem onSecond_of_mem {steps : List Step}
    (hclock : ∀ clock, .createICMPHeader clock ∈ steps → clock.TimeOfDay) {t : JInt}
    (ht : t ∈ requested steps) : OnSecond t := by
  obtain ⟨i, hi, htime⟩ := List.mem_filterMap.mp ht
  cases i with
  | createICMPHeader clock =>
    cases htime
    exact onSecond_timeOf (hclock clock hi)
  | handleData data => cases htime

/-- The figures are those of one of two times of day just if each figure is. -/
theorem figures_eq_iff (r : Reply) {t u : JInt} (ht : OnSecond t) (hu : OnSecond u) :
    figures r u = figures r t ↔ u = t ∨
      (Near t r.receive_time ∧ Near u r.receive_time) ∧
        Near t r.transmit_time ∧ Near u r.transmit_time := by
  have hfigures : figures r u = figures r t ↔ delay u r.receive_time = delay t r.receive_time ∧
      delay u r.transmit_time = delay t r.transmit_time := by
    simp [figures]
  rw [hfigures, delay_eq_iff ht hu, delay_eq_iff ht hu]
  exact or_and_left.symm

/-- One reply, after any steps. -/
theorem reply_reported_iff (this : HPingApp) {steps : List Step}
    (hclock : ∀ clock, .createICMPHeader clock ∈ steps → clock.TimeOfDay) {data : Info} {r : Reply}
    (hdata : Carries data r) (hr : r.original_time ∈ requested steps) :
    (handleData data (afterSteps steps this)).out = figures r r.original_time ↔
      ∀ last ∈ (requested steps).getLast?, last = r.original_time ∨
        (Near r.original_time r.receive_time ∧ Near last r.receive_time) ∧
          Near r.original_time r.transmit_time ∧ Near last r.transmit_time := by
  have hlast := List.getLast?_eq_some_getLast (List.ne_nil_of_mem hr)
  generalize (requested steps).getLast (List.ne_nil_of_mem hr) = last at hlast
  have hsend : (afterSteps steps this).send_time = last := by
    rw [send_time_after, List.getLastD_eq_getLast?, hlast]
    rfl
  rw [handleData_run hdata, hsend, hlast, figures_eq_iff r (onSecond_of_mem hclock hr)
    (onSecond_of_mem hclock (List.mem_of_getLast? hlast))]
  simp

/-- In a run, every reply is reported with the delays of its own request if and only if every
reply comes in time. -/
theorem reports_own_iff (this : HPingApp) {steps : List Step} (hechoing : Echoing steps)
    (hclock : ∀ clock, .createICMPHeader clock ∈ steps → clock.TimeOfDay) :
    ReportsOwn this steps ↔ Timely steps := by
  refine forall_congr' fun before => forall_congr' fun data => forall_congr' fun after =>
    forall_congr' fun r => forall_congr' fun hsplit => forall_congr' fun hdata => ?_
  obtain ⟨r', hdata', hr'⟩ := hechoing before data after hsplit
  obtain rfl := hdata.eq hdata'
  refine reply_reported_iff this (fun clock hmem => hclock clock ?_) hdata hr'
  rw [hsplit]
  exact List.mem_append_left _ hmem

/-! ## Requests and one reply -/

/-- The application of `new HPingApp(2, null)`. -/
def sampleHPing : HPingApp := ⟨⟨7, 2, 7, 0, none⟩, 0⟩

/-- The first request is sent at 0:00:01 and answered at once. -/
def promptReply (others : List Clock) : List Step :=
  (⟨0, 0, 0, 1⟩ :: others).map .createICMPHeader ++ [.handleData (Info.empty
    |>.put .sequence (.short 0)
    |>.put .original_time (.int 1000)
    |>.put .receive_time (.int 1000)
    |>.put .transmit_time (.int 1000))]

theorem promptReply_split {others : List Clock} {before after : List Step} {data : Info}
    (h : promptReply others = before ++ .handleData data :: after) :
    before = (⟨0, 0, 0, 1⟩ :: others).map .createICMPHeader ∧ Carries data ⟨0, 1000, 1000, 1000⟩ := by
  rcases List.append_eq_append_iff.mp h with ⟨rest, hbefore, hlast⟩ | ⟨rest, hrequests, hlast⟩
  · cases rest with
    | nil =>
      cases hlast
      exact ⟨by rw [hbefore, List.append_nil], rfl, rfl, rfl, rfl⟩
    | cons i rest =>
      have hlen := congrArg List.length hlast
      simp at hlen
  · cases rest with
    | nil =>
      cases hlast
      exact ⟨by rw [hrequests, List.append_nil], rfl, rfl, rfl, rfl⟩
    | cons i rest =>
      cases hlast
      have hmem : Step.handleData data ∈ (⟨0, 0, 0, 1⟩ :: others).map Step.createICMPHeader := by
        rw [hrequests]
        exact List.mem_append_right _ List.mem_cons_self
      obtain ⟨clock, -, hclock⟩ := List.mem_map.mp hmem
      cases hclock

theorem promptReply_echoing (others : List Clock) : Echoing (promptReply others) := by
  intro before data after h
  obtain ⟨rfl, hdata⟩ := promptReply_split h
  exact ⟨_, hdata, List.mem_cons_self⟩

theorem requests_timeOfDay {others : List Clock} (h : ∀ clock ∈ others, clock.TimeOfDay)
    (clock : Clock)
    (hmem : .createICMPHeader clock ∈ (⟨0, 0, 0, 1⟩ :: others).map Step.createICMPHeader) :
    clock.TimeOfDay := by
  rcases List.mem_cons.mp hmem with hfirst | hothers
  · cases hfirst
    exact ⟨by decide, by decide, by decide⟩
  · obtain ⟨clock', hclock', heq⟩ := List.mem_map.mp hothers
    cases heq
    exact h clock hclock'

theorem promptReply_timeOfDay {others : List Clock} (h : ∀ clock ∈ others, clock.TimeOfDay)
    (clock : Clock) (hmem : .createICMPHeader clock ∈ promptReply others) : clock.TimeOfDay := by
  rcases List.mem_append.mp hmem with hrequest | hreply
  · exact requests_timeOfDay h clock hrequest
  · cases List.mem_singleton.mp hreply

/-- Alone, the request is still the latest when its reply comes. -/
theorem prompt_reply_own : ReportsOwn sampleHPing (promptReply []) := by
  refine (reports_own_iff sampleHPing (promptReply_echoing [])
    (promptReply_timeOfDay (by simp))).mpr ?_
  intro before data after r h hdata last hlast
  obtain ⟨rfl, hdata'⟩ := promptReply_split h
  obtain rfl := hdata.eq hdata'
  cases hlast
  exact .inl rfl

/-- Behind a request at 0:00:03 it is reported with two seconds. -/
theorem late_reply_not_own : ¬ ∀ (this : HPingApp) (steps : List Step), Echoing steps →
    (∀ clock, .createICMPHeader clock ∈ steps → clock.TimeOfDay) → ReportsOwn this steps := by
  intro h
  have hothers : ∀ clock ∈ [(⟨0, 0, 0, 3⟩ : Clock)], clock.TimeOfDay := by
    intro clock hmem
    cases List.mem_singleton.mp hmem
    exact ⟨by decide, by decide, by decide⟩
  have hown := h sampleHPing _ (promptReply_echoing _) (promptReply_timeOfDay hothers) _ _ _
    ⟨0, 1000, 1000, 1000⟩ rfl ⟨rfl, rfl, rfl, rfl⟩
  have htimely := (reply_reported_iff sampleHPing (requests_timeOfDay hothers)
    ⟨rfl, rfl, rfl, rfl⟩ List.mem_cons_self).mp hown 3000 rfl
  revert htimely
  unfold Near
  decide

end HPingApp

end TcpIpStack
