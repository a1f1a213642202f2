import TcpIpStack.Protocol.AppCalls

/-!
# One application among the receivers

A received message is handed to one receiver after the other, and the log shows
whose turn it is: what stands between a delivery and the next was done by the
application delivered to. A receiver that throws ends the round, so an
application may get no turn.
-/

namespace TcpIpStack.ProtocolManager

open TcpIpStack.Java TcpIpStack.Lib

/-- The events of the turns of `i`; `mine` says whether the log starts in one. -/
def ownFrom (i : Nat) : Bool → List Event → List Event
  | _, [] => []
  | _, .delivered j _ :: log => ownFrom i (j == i) log
  | true, e :: log => e :: ownFrom i true log
  | false, _ :: log => ownFrom i false log

/-- What the application `i` itself did in a log. -/
def own (i : Nat) (log : List Event) : List Event := ownFrom i false log

theorem ownFrom_append {log : List Event} (h : deliveries log = []) (i : Nat) (mine : Bool)
    (rest : List Event) :
    ownFrom i mine (log ++ rest) = (if mine then log else []) ++ ownFrom i mine rest := by
  induction log with
  | nil => cases mine <;> rfl
  | cons e log ih =>
    cases e with
    | delivered j info => cases h
    | handed data ip => cases mine <;> simp [ownFrom, ih h]
    | transmit sender frame => cases mine <;> simp [ownFrom, ih h]
    | print report => cases mine <;> simp [ownFrom, ih h]

/-- Where a log ends decides whose turn the next one starts in. -/
theorem exists_ownFrom_append (i : Nat) (mine : Bool) (log : List Event) :
    ∃ mine', ∀ rest, ownFrom i mine (log ++ rest) = ownFrom i mine log ++ ownFrom i mine' rest := by
  induction log generalizing mine with
  | nil => exact ⟨mine, fun _ => rfl⟩
  | cons e log ih =>
    cases e with
    | delivered j info => exact ih (j == i)
    | handed data ip =>
      obtain ⟨mine', h⟩ := ih mine
      cases mine <;> exact ⟨mine', by simp [ownFrom, h]⟩
    | transmit sender frame =>
      obtain ⟨mine', h⟩ := ih mine
      cases mine <;> exact ⟨mine', by simp [ownFrom, h]⟩
    | print report =>
      obtain ⟨mine', h⟩ := ih mine
      cases mine <;> exact ⟨mine', by simp [ownFrom, h]⟩

/-- The tables delivered to `i`. -/
def deliveredTo (i : Nat) (log : List Event) : List Info :=
  (deliveries log).filterMap fun (j, info) => if j = i then some info else none

theorem deliveredTo_append (i : Nat) (log log' : List Event) :
    deliveredTo i (log ++ log') = deliveredTo i log ++ deliveredTo i log' := by
  simp only [deliveredTo, deliveries_append, List.filterMap_append]

section

variable {σ β : Type} (net : Network) (apps : AppLayer σ) (object : σ → β) (i : Nat)

/-- The application `i` got no turn. -/
structure Idle (s : ProtocolManager σ) (log : List Event) (s' : ProtocolManager σ) : Prop where
  object_eq : object s'.apps = object s.apps
  own_eq : log = []

/-- The application `i` got one turn, from where its object stood. -/
structure Turn (info : Info) (s : ProtocolManager σ) (log : List Event) (s' : ProtocolManager σ) :
    Prop where
  exists_run : ∃ m, object m = object s.apps ∧
    object s'.apps = object (apps.handleData i info m).state ∧
    handed log = handedBy (apps.handleData i info m).out ∧
    reports log = reportedBy (apps.handleData i info m).out

/-- No application touches the object of `i` but itself. -/
def Separate : Prop :=
  ∀ j, j ≠ i → ∀ info m, object (apps.handleData j info m).state = object m

variable {apps object i}

section

variable {info : Info} {s s' s'' : ProtocolManager σ} {log log' : List Event}

theorem Idle.trans (h : Idle object s log s') (h' : Idle object s' log' s'') :
    Idle object s (log ++ log') s'' :=
  ⟨h'.object_eq.trans h.object_eq, by rw [h.own_eq, h'.own_eq, List.append_nil]⟩

theorem Idle.turn (h : Idle object s log s') (h' : Turn apps object i info s' log' s'') :
    Turn apps object i info s (log ++ log') s'' := by
  obtain ⟨m, hm, hrest⟩ := h'.exists_run
  rw [h.own_eq]
  exact ⟨m, hm.trans h.object_eq, hrest⟩

theorem Turn.idle (h : Turn apps object i info s log s') (h' : Idle object s' log' s'') :
    Turn apps object i info s (log ++ log') s'' := by
  obtain ⟨m, hm, hstate, hhanded, hreports⟩ := h.exists_run
  rw [h'.own_eq, List.append_nil]
  exact ⟨m, hm, h'.object_eq.trans hstate, hhanded, hreports⟩

end

/-- One round over the receivers: `i` gets no turn or one, and none unless it is
among them. -/
theorem forM_deliver_turn (hsep : Separate apps object i) (info : Info) {receivers : List Nat}
    (hnodup : receivers.Nodup) (s : ProtocolManager σ) (mine : Bool) :
    Idle object s (ownFrom i mine (receivers.forM (deliver net apps · info) s).out)
        (receivers.forM (deliver net apps · info) s).state ∨
      i ∈ receivers ∧ Turn apps object i info s
        (ownFrom i mine (receivers.forM (deliver net apps · info) s).out)
        (receivers.forM (deliver net apps · info) s).state := by
  induction receivers generalizing s mine with
  | nil => exact .inl ⟨rfl, rfl⟩
  | cons j receivers ih =>
    obtain ⟨hj, hnodup⟩ := List.nodup_cons.mp hnodup
    obtain ⟨s', log, hrun, hperformed⟩ := deliver_run net apps j info s
    have hlog : ∀ rest, ownFrom i mine ((.delivered j info :: log) ++ rest) =
        (if j = i then log else []) ++ ownFrom i (j == i) rest := by
      intro rest
      show ownFrom i (j == i) (log ++ rest) = _
      rw [ownFrom_append hperformed.deliveries_eq]
      simp
    -- the rest of the round, which there is none of if `j` threw
    obtain ⟨rest, _, hround, rfl, hrest⟩ : ∃ rest s'',
        ((j :: receivers).forM (deliver net apps · info) s).out = (.delivered j info :: log) ++ rest ∧
          ((j :: receivers).forM (deliver net apps · info) s).state = s'' ∧
          (Idle object s' (ownFrom i (j == i) rest) s'' ∨
            i ∈ receivers ∧ Turn apps object i info s' (ownFrom i (j == i) rest) s'') := by
      rcases Prog.forM_cons_cases (deliver net apps · info) j receivers s with ⟨e, -, h⟩ | ⟨-, h⟩
      · rw [h, hrun]
        exact ⟨[], s', (List.append_nil _).symm, rfl, .inl ⟨rfl, rfl⟩⟩
      · rw [h, hrun]
        exact ⟨_, _, rfl, rfl, ih hnodup s' (j == i)⟩
    rw [hround, hlog]
    by_cases hji : j = i
    · -- its own turn; no later receiver is it
      subst hji
      have hturn : Turn apps object j info s log s' :=
        ⟨s.apps, rfl, by rw [hperformed.apps_eq], hperformed.handed_eq, hperformed.reports_eq⟩
      refine .inr ⟨List.mem_cons_self, ?_⟩
      rw [if_pos rfl]
      rcases hrest with hidle | ⟨hmem, -⟩
      · exact hturn.idle hidle
      · exact absurd hmem hj
    · have hother : Idle object s [] s' := by
        refine ⟨?_, rfl⟩
        rw [hperformed.apps_eq]
        exact hsep j hji info s.apps
      rw [if_neg hji]
      rcases hrest with hidle | ⟨hmem, hturn⟩
      · exact .inl (hother.trans hidle)
      · exact .inr ⟨List.mem_cons_of_mem _ hmem, hother.turn hturn⟩

/-- The only receiver always gets its turn. -/
theorem forM_deliver_only (info : Info) (s : ProtocolManager σ) (mine : Bool) :
    Turn apps object i info s (ownFrom i mine ([i].forM (deliver net apps · info) s).out)
      ([i].forM (deliver net apps · info) s).state := by
  obtain ⟨s', log, hrun, hperformed⟩ := deliver_run net apps i info s
  obtain ⟨hstate, hout⟩ := Prog.bind_pure_run (deliver net apps i info) () s
  rw [show [i].forM (deliver net apps · info) =
    (deliver net apps i info >>= fun _ => (pure () : StackM σ Unit)) from rfl, hstate, hout, hrun]
  have hown : ownFrom i mine (.delivered i info :: log) = log := by
    show ownFrom i (i == i) log = log
    have happend := ownFrom_append hperformed.deliveries_eq i (i == i) []
    simpa [ownFrom] using happend
  rw [hown]
  exact ⟨s.apps, rfl, by rw [hperformed.apps_eq], hperformed.handed_eq, hperformed.reports_eq⟩

end

end TcpIpStack.ProtocolManager
