import TcpIpStack.Lib.Prog

/-!
# Components

A component of a system takes some of the system's inputs and leaves the others
alone. If each step looks so from the component, then so does each run: it ends
where the component's own run over its inputs ends, and what the system emits at
these inputs is what the component emits by itself.
-/

namespace TcpIpStack.Lib

variable {τ σ β ε ω ι κ : Type}

/-! ## Renamed outputs -/

/-- The one program does what the other does and calls its outputs otherwise. -/
def Prog.Renames {α : Type} (rename : ε → ω) (m : Prog τ σ ε α) (m' : Prog τ σ ω α) : Prop :=
  ∀ s, (m s).result = (m' s).result ∧ (m s).state = (m' s).state ∧ (m s).out.map rename = (m' s).out

namespace Prog.Renames

variable {α α' : Type} {rename : ε → ω}

theorem pure (a : α) : Renames rename (pure a : Prog τ σ ε α) (pure a) := fun _ => ⟨rfl, rfl, rfl⟩

theorem lift (x : Except τ α) : Renames rename (lift x : Prog τ σ ε α) (lift x) :=
  fun _ => ⟨rfl, rfl, rfl⟩

theorem read : Renames rename (read : Prog τ σ ε σ) read := fun _ => ⟨rfl, rfl, rfl⟩

theorem modify (f : σ → σ) : Renames rename (modify f : Prog τ σ ε Unit) (modify f) :=
  fun _ => ⟨rfl, rfl, rfl⟩

theorem emit {e : ε} {e' : ω} (h : rename e = e') :
    Renames rename (emit e : Prog τ σ ε Unit) (emit e') :=
  fun _ => ⟨rfl, rfl, congrArg (· :: []) h⟩

theorem bind {m : Prog τ σ ε α} {m' : Prog τ σ ω α} {f : α → Prog τ σ ε α'} {f' : α → Prog τ σ ω α'}
    (hm : Renames rename m m') (hf : ∀ a, Renames rename (f a) (f' a)) :
    Renames rename (m >>= f) (m' >>= f') := by
  intro s
  obtain ⟨hresult, hstate, hout⟩ := hm s
  rw [bind_run, bind_run, hresult, ← hstate]
  cases (m' s).result with
  | ok a =>
    obtain ⟨hresult', hstate', hout'⟩ := hf a (m s).state
    exact ⟨hresult', hstate', by rw [List.map_append, hout, hout']⟩
  | error e => exact ⟨rfl, rfl, hout⟩

theorem catching {m : Prog τ σ ε Unit} {m' : Prog τ σ ω Unit} (p : τ → Bool)
    (hm : Renames rename m m') : Renames rename (catching p m) (catching p m') := by
  intro s
  obtain ⟨hresult, hstate, hout⟩ := hm s
  refine ⟨?_, by rw [catching_state, catching_state, hstate], by rw [catching_out, catching_out, hout]⟩
  simp only [Prog.catching, hresult]
  cases hm' : (m' s).result with
  | ok u => rw [hresult, hm']
  | error e =>
    dsimp only
    split
    · rfl
    · rw [hresult, hm']

/-- What a program may emit at all keeps its name. -/
theorem of_within {rename : ε → ε} {P : ε → Prop} {Q : τ → Prop} {m : Prog τ σ ε α}
    (hm : Within P Q m) (h : ∀ e, P e → rename e = e) : Renames rename m m := by
  intro s
  have hid : (m s).out.map rename = (m s).out.map id :=
    List.map_congr_left fun e he => h e ((hm s).1 e he)
  exact ⟨rfl, rfl, hid.trans (List.map_id _)⟩

end Prog.Renames

/-! ## Components -/

/-- A component with the steps `own`, in a system with the steps `step`. -/
structure Component (step : ι → Prog τ σ ε Unit) (own : κ → Prog τ β ω Unit) where
  /-- How its state stands in the system's. -/
  rel : σ → β → Prop
  /-- Its part of an input. -/
  select : ι → Option κ
  /-- An output, as the component knows it. -/
  rename : ε → ω
  /-- The inputs that respect it. -/
  Allowed : ι → Prop
  idle : ∀ {i s b}, Allowed i → select i = none → rel s b → rel (step i s).state b
  turn : ∀ {i k s b}, Allowed i → select i = some k → rel s b →
    rel (step i s).state (own k b).state ∧ (step i s).out.map rename = (own k b).out

namespace Component

variable {step : ι → Prog τ σ ε Unit} {own : κ → Prog τ β ω Unit} (c : Component step own)

/-- What the system emits at the inputs the component takes. -/
def outputs : List ι → σ → List ω
  | [], _ => []
  | i :: is, s =>
    (if (c.select i).isSome then (step i s).out.map c.rename else []) ++ outputs is (step i s).state

/-- The component runs as if it were alone. -/
theorem run {is : List ι} (h : ∀ i ∈ is, c.Allowed i) {s : σ} {b : β} (hs : c.rel s b) :
    c.rel (Prog.runs step is s).1 (Prog.runs own (is.filterMap c.select) b).1 ∧
      c.outputs is s = (Prog.runs own (is.filterMap c.select) b).2 := by
  induction is generalizing s b with
  | nil => exact ⟨hs, rfl⟩
  | cons i is ih =>
    have hi := h i List.mem_cons_self
    have hrest := fun j hj => h j (List.mem_cons_of_mem i hj)
    rw [Prog.runs_cons, outputs]
    cases hselect : c.select i with
    | none =>
      rw [List.filterMap_cons_none hselect]
      exact ih hrest (c.idle hi hselect hs)
    | some k =>
      obtain ⟨hrel, hout⟩ := c.turn hi hselect hs
      obtain ⟨hstate, houts⟩ := ih hrest hrel
      rw [List.filterMap_cons_some hselect, Prog.runs_cons]
      exact ⟨hstate, congrArg₂ (· ++ ·) hout houts⟩

/-- A component that takes every input emits what the system does. -/
theorem outputs_eq (is : List ι) (h : ∀ i ∈ is, (c.select i).isSome) (s : σ) :
    c.outputs is s = (Prog.runs step is s).2.map c.rename := by
  induction is generalizing s with
  | nil => rfl
  | cons i is ih =>
    rw [outputs, if_pos (h i List.mem_cons_self), Prog.runs_cons,
      ih (fun j hj => h j (List.mem_cons_of_mem i hj)), List.map_append]

/-- A component that takes every input as it is, and every output. -/
theorem run_all {step : ι → Prog τ σ ε Unit} {own : ι → Prog τ β ε Unit} (c : Component step own)
    (hselect : c.select = some) (hrename : c.rename = id) {is : List ι} (h : ∀ i ∈ is, c.Allowed i)
    {s : σ} {b : β} (hs : c.rel s b) :
    c.rel (Prog.runs step is s).1 (Prog.runs own is b).1 ∧
      (Prog.runs step is s).2 = (Prog.runs own is b).2 := by
  obtain ⟨hrel, hout⟩ := c.run h hs
  have houtputs := c.outputs_eq is (fun _ _ => by rw [hselect]; rfl) s
  rw [hselect, List.filterMap_some] at hrel hout
  rw [hrename, List.map_id] at houtputs
  exact ⟨hrel, houtputs.symm.trans hout⟩

end Component

end TcpIpStack.Lib
