import TcpIpStack.Lib.Prog

/-!
# Programs that keep an invariant

`Keeps I P R m`: where `I` holds before `m` it holds after, whether `m` returns or
throws; everything `m` emits satisfies `P`, and what it returns satisfies `R`.
Unlike a `Trace`, such a statement may use what was read before.
-/

namespace TcpIpStack.Lib.Prog

variable {τ σ ρ ε α β ι : Type}

def Keeps (I : σ → Prop) (P : ε → Prop) (R : α → Prop) (m : Prog τ σ ε α) : Prop :=
  ∀ s, I s → I (m s).state ∧ (∀ e ∈ (m s).out, P e) ∧ Returns (m s).result R

namespace Keeps

variable {I : σ → Prop} {P : ε → Prop} {R : α → Prop}

theorem pure {a : α} (h : R a) : Keeps I P R (pure a : Prog τ σ ε α) :=
  fun _ hs => ⟨hs, nofun, .ok h⟩

theorem lift {x : Except τ α} (h : Returns x R) : Keeps I P R (lift x : Prog τ σ ε α) :=
  fun _ hs => ⟨hs, nofun, h⟩

theorem throw (e : τ) : Keeps I P R (throw e : Prog τ σ ε α) := lift .error

theorem read : Keeps I P I (read : Prog τ σ ε σ) := fun _ hs => ⟨hs, nofun, .ok hs⟩

theorem modify {f : σ → σ} (h : ∀ s, I s → I (f s)) :
    Keeps I P (fun _ => True) (modify f : Prog τ σ ε Unit) :=
  fun s hs => ⟨h s hs, nofun, .ok trivial⟩

theorem emit {e : ε} (h : P e) : Keeps I P (fun _ => True) (emit e : Prog τ σ ε Unit) :=
  fun _ hs => ⟨hs, fun _ he => (List.mem_singleton.mp he) ▸ h, .ok trivial⟩

theorem bind {S : β → Prop} {m : Prog τ σ ε α} {f : α → Prog τ σ ε β} (hm : Keeps I P R m)
    (hf : ∀ a, R a → Keeps I P S (f a)) : Keeps I P S (m >>= f) := by
  intro s hs
  obtain ⟨hstate, hout, hresult⟩ := hm s hs
  rw [bind_run]
  cases h : (m s).result with
  | ok a =>
    obtain ⟨hstate', hout', hresult'⟩ := hf a (hresult a h) (m s).state hstate
    exact ⟨hstate', fun e he => (List.mem_append.mp he).elim (hout e) (hout' e), hresult'⟩
  | error e => exact ⟨hstate, hout, .error⟩

/-- What a pure step returns is of no interest. -/
theorem bind_any {S : β → Prop} {x : Except τ α} {f : α → Prog τ σ ε β}
    (hf : ∀ a, Keeps I P S (f a)) : Keeps I P S (Prog.lift x >>= f) :=
  .bind (R := fun _ => True) (.lift fun _ _ => trivial) fun a _ => hf a

theorem catching {p : τ → Bool} {m : Prog τ σ ε Unit} (h : Keeps I P (fun _ => True) m) :
    Keeps I P (fun _ => True) (catching p m) := by
  intro s hs
  obtain ⟨hstate, hout, -⟩ := h s hs
  exact ⟨by rwa [catching_state], by rwa [catching_out], fun _ _ => trivial⟩

theorem forM {f : ι → Prog τ σ ε Unit} {is : List ι}
    (h : ∀ i ∈ is, Keeps I P (fun _ => True) (f i)) : Keeps I P (fun _ => True) (is.forM f) := by
  induction is with
  | nil => exact .pure trivial
  | cons i is ih =>
    exact .bind (h i List.mem_cons_self) fun _ _ => ih fun j hj => h j (List.mem_cons_of_mem _ hj)

/-- A run that leaves the key alone keeps what depends on the key only. -/
theorem of_obeys {κ : Type} {key : σ → κ} {m : Prog τ σ ε α}
    (h : Obeys (.emits key fun _ => P) m) (hkey : ∀ s s', key s' = key s → I s → I s') :
    Keeps I P (fun _ => True) m :=
  fun s hs => ⟨hkey _ _ (h s).1 hs, (h s).2, fun _ _ => trivial⟩

/-- The method of an object, seen from the state around it. -/
theorem zoom {J : ρ → Prop} {get : σ → ρ} {set : ρ → σ → σ} {m : Prog τ ρ ε α} {s : σ}
    (h : Keeps J P R m) (hget : J (get s)) (hset : ∀ r, J r → I (set r s)) :
    I (zoom get set m s).state ∧ ∀ e ∈ (zoom get set m s).out, P e :=
  ⟨hset _ (h _ hget).1, (h _ hget).2.1⟩

/-- Steps that keep the invariant make runs that keep it. -/
theorem runs {step : ι → Prog τ σ ε Unit} {is : List ι}
    (h : ∀ i ∈ is, Keeps I P (fun _ => True) (step i)) {s : σ} (hs : I s) :
    I (runs step is s).1 ∧ ∀ e ∈ (runs step is s).2, P e := by
  induction is generalizing s with
  | nil => exact ⟨hs, nofun⟩
  | cons i is ih =>
    obtain ⟨hstate, hout, -⟩ := h i List.mem_cons_self s hs
    obtain ⟨hrest, houts⟩ := ih (fun j hj => h j (List.mem_cons_of_mem _ hj)) hstate
    rw [runs_cons]
    exact ⟨hrest, fun e he => (List.mem_append.mp he).elim (hout e) (houts e)⟩

end Keeps

/-- Where each step shows on a view of the state as `next`, so does a run. -/
theorem runs_foldl {I : σ → Prop} {view : σ → β} {next : β → ι → β}
    {step : ι → Prog τ σ ε Unit} {is : List ι}
    (h : ∀ i ∈ is, ∀ s, I s → I (step i s).state ∧ view (step i s).state = next (view s) i)
    {s : σ} (hs : I s) : view (runs step is s).1 = is.foldl next (view s) := by
  induction is generalizing s with
  | nil => rfl
  | cons i is ih =>
    obtain ⟨hstate, hview⟩ := h i List.mem_cons_self s hs
    rw [runs_cons, List.foldl_cons, ← hview]
    exact ih (fun j hj => h j (List.mem_cons_of_mem _ hj)) hstate

end TcpIpStack.Lib.Prog
