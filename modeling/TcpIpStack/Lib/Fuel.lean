import TcpIpStack.Lib.Prog

/-!
# Programs under a bound

A family `m` of programs runs under a growing bound, such as the depth of the
stack, and throws `e` when the bound is used up. It `Settles` when the bound is
large enough for the run not to feel it, and `RunsOut` when no bound is large
enough. Runs that settle compose along `bind`.
-/

namespace TcpIpStack.Lib.Prog

variable {τ σ ε α β : Type}

/-- From some bound on the run is `o`, and below it either is `o` or exhausts the
bound. -/
structure Settles (e : τ) (m : Nat → Prog τ σ ε α) (s : σ) (o : Outcome τ σ ε α) : Prop where
  eventually : ∃ n, ∀ d, n ≤ d → m d s = o
  otherwise : ∀ d, (m d s).result ≠ .error e → m d s = o

/-- No bound suffices. -/
def RunsOut (e : τ) (m : Nat → Prog τ σ ε α) (s : σ) : Prop := ∀ d, (m d s).result = .error e

variable {e : τ} {m : Nat → Prog τ σ ε α} {f : Nat → α → Prog τ σ ε β} {s s' : σ} {a : α}
  {out : List ε}

/-- A program that does not use the bound. -/
theorem Settles.const (m : Prog τ σ ε α) (s : σ) : Settles e (fun _ => m) s (m s) :=
  ⟨⟨0, fun _ _ => rfl⟩, fun _ _ => rfl⟩

theorem Settles.bind_ok {o : Outcome τ σ ε β} (h : Settles e m s ⟨.ok a, s', out⟩)
    (h' : Settles e (fun d => f d a) s' o) :
    Settles e (fun d => m d >>= f d) s ⟨o.result, o.state, out ++ o.out⟩ := by
  constructor
  · obtain ⟨n, hn⟩ := h.eventually
    obtain ⟨n', hn'⟩ := h'.eventually
    refine ⟨max n n', fun d hd => ?_⟩
    exact bind_run_ok (hn d (by omega)) (hn' d (by omega))
  · intro d hd
    by_cases hm : (m d s).result = .error e
    · exact absurd (by rw [bind_run, hm]) hd
    · have hmd := h.otherwise d hm
      refine bind_run_ok hmd (h'.otherwise d ?_)
      rwa [bind_run, hmd] at hd

theorem Settles.bind_error {e' : τ} (h : Settles e m s ⟨.error e', s', out⟩) :
    Settles e (fun d => m d >>= f d) s ⟨.error e', s', out⟩ := by
  constructor
  · obtain ⟨n, hn⟩ := h.eventually
    exact ⟨n, fun d hd => bind_run_error (hn d hd)⟩
  · intro d hd
    by_cases hm : (m d s).result = .error e
    · exact absurd (by rw [bind_run, hm]) hd
    · exact bind_run_error (h.otherwise d hm)

theorem Settles.congr {m' : Nat → Prog τ σ ε α} {o : Outcome τ σ ε α} (h : Settles e m s o)
    (heq : ∀ d, m' d s = m d s) : Settles e m' s o := by
  obtain ⟨n, hn⟩ := h.eventually
  refine ⟨⟨n, fun d hd => (heq d).trans (hn d hd)⟩, fun d hd => ?_⟩
  rw [heq] at hd ⊢
  exact h.otherwise d hd

/-- A recursion that is out of bound at 0. -/
theorem Settles.succ {o : Outcome τ σ ε α} (h0 : (m 0 s).result = .error e)
    (h : Settles e (fun d => m (d + 1)) s o) : Settles e m s o := by
  constructor
  · obtain ⟨n, hn⟩ := h.eventually
    refine ⟨n + 1, fun d hd => ?_⟩
    obtain ⟨d, rfl⟩ : ∃ d', d = d' + 1 := ⟨d - 1, by omega⟩
    exact hn d (by omega)
  · intro d hd
    cases d with
    | zero => exact absurd h0 hd
    | succ d => exact h.otherwise d hd

end TcpIpStack.Lib.Prog
