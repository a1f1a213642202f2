import Mathlib.Data.List.Defs

/-!
# Programs with state, output and exceptions

`Prog τ σ ε α` runs from a state `σ`, emits outputs `ε` and returns an `α` or
throws a `τ`. A throw keeps what was changed and emitted before it, as in a
language whose exceptions do not roll back.

A `Trace` relates the two states of a run and its outputs and composes along
runs; `Obeys` is closed under every constructor, so that a property of all
runs of a program (an invariant, a frame condition, a log that mirrors a
component) is proved once for each primitive and then by the program's shape.

`runs` iterates a program over a list of inputs; a throw ends only the step it
happens in.
-/

namespace TcpIpStack.Lib

section Except

variable {τ α β : Type}

@[simp] theorem ok_bind (a : α) (f : α → Except τ β) : (Except.ok a >>= f) = f a := rfl

@[simp] theorem error_bind (e : τ) (f : α → Except τ β) : (Except.error e >>= f) = .error e := rfl

theorem bind_eq_ok_iff {x : Except τ α} {f : α → Except τ β} {b : β} :
    (x >>= f) = .ok b ↔ ∃ a, x = .ok a ∧ f a = .ok b := by
  cases x <;> simp

@[simp] theorem pure_eq_ok (a : α) : (pure a : Except τ α) = .ok a := rfl

/-- Partial correctness: a value that `x` returns satisfies `P`. -/
def Returns (x : Except τ α) (P : α → Prop) : Prop := ∀ a, x = .ok a → P a

theorem Returns.ok {a : α} {P : α → Prop} (h : P a) : Returns (.ok a : Except τ α) P := by
  rintro _ ⟨⟩; exact h

theorem Returns.error {e : τ} {P : α → Prop} : Returns (.error e : Except τ α) P := by
  rintro _ ⟨⟩

theorem Returns.bind {x : Except τ α} {f : α → Except τ β} {P : α → Prop} {Q : β → Prop}
    (hx : Returns x P) (hf : ∀ a, P a → Returns (f a) Q) : Returns (x >>= f) Q := by
  intro b hb
  obtain ⟨a, ha, hfa⟩ := bind_eq_ok_iff.mp hb
  exact hf a (hx a ha) b hfa

/-- Nothing need be known of the first value. -/
theorem Returns.bind_any {x : Except τ α} {f : α → Except τ β} {Q : β → Prop}
    (hf : ∀ a, Returns (f a) Q) : Returns (x >>= f) Q :=
  Returns.bind (P := fun _ => True) (fun _ _ => trivial) fun a _ => hf a

/-- What `x` throws satisfies `Q`. -/
structure Throws (x : Except τ α) (Q : τ → Prop) : Prop where
  of_eq : ∀ {e}, x = .error e → Q e

theorem Throws.ok {a : α} {Q : τ → Prop} : Throws (.ok a : Except τ α) Q := ⟨nofun⟩

theorem Throws.error {e : τ} {Q : τ → Prop} (h : Q e) : Throws (.error e : Except τ α) Q :=
  ⟨by rintro _ ⟨⟩; exact h⟩

theorem Throws.bind {x : Except τ α} {f : α → Except τ β} {Q : τ → Prop} (hx : Throws x Q)
    (hf : ∀ a, Throws (f a) Q) : Throws (x >>= f) Q := by
  cases x with
  | ok a => exact hf a
  | error e => exact .error (hx.of_eq rfl)

theorem Throws.any {x : Except τ α} : Throws x fun _ => True := ⟨fun _ => trivial⟩

theorem Throws.map {x : Except τ α} {f : α → β} {Q : τ → Prop} (hx : Throws x Q) :
    Throws (f <$> x) Q := by
  cases x with
  | ok a => exact .ok
  | error e => exact .error (hx.of_eq rfl)

end Except

/-- What a run leaves: its value or throw, the state and the outputs. -/
structure Outcome (τ σ ε α : Type) where
  result : Except τ α
  state : σ
  out : List ε

def Prog (τ σ ε α : Type) : Type := σ → Outcome τ σ ε α

namespace Prog

variable {τ σ ρ ε α β ι : Type}

protected def pure (a : α) : Prog τ σ ε α := fun s => ⟨.ok a, s, []⟩

protected def bind (m : Prog τ σ ε α) (f : α → Prog τ σ ε β) : Prog τ σ ε β := fun s =>
  match (m s).result with
  | .ok a =>
    let r := f a (m s).state
    ⟨r.result, r.state, (m s).out ++ r.out⟩
  | .error e => ⟨.error e, (m s).state, (m s).out⟩

instance : Monad (Prog τ σ ε) where
  pure := Prog.pure
  bind := Prog.bind

/-- The current state. -/
def read : Prog τ σ ε σ := fun s => ⟨.ok s, s, []⟩

def modify (f : σ → σ) : Prog τ σ ε Unit := fun s => ⟨.ok (), f s, []⟩

def emit (e : ε) : Prog τ σ ε Unit := fun s => ⟨.ok (), s, [e]⟩

def emitAll (es : List ε) : Prog τ σ ε Unit := fun s => ⟨.ok (), s, es⟩

/-- A computation that touches no state. -/
def lift (x : Except τ α) : Prog τ σ ε α := fun s => ⟨x, s, []⟩

def throw (e : τ) : Prog τ σ ε α := lift (.error e)

/-- Run `m`; a throw that `p` accepts is swallowed. -/
def catching (p : τ → Bool) (m : Prog τ σ ε Unit) : Prog τ σ ε Unit := fun s =>
  let r := m s
  match r.result with
  | .ok () => r
  | .error e => if p e then ⟨.ok (), r.state, r.out⟩ else r

/-- Run `m` on a component of the state. -/
def zoom (get : σ → ρ) (set : ρ → σ → σ) (m : Prog τ ρ ε α) : Prog τ σ ε α := fun s =>
  let r := m (get s)
  ⟨r.result, set r.state s, r.out⟩

/-- Run `m` on a component of the state, then carry its outputs out in order. -/
def interpret {ε' : Type} (get : σ → ρ) (set : ρ → σ → σ) (handler : ε' → Prog τ σ ε Unit)
    (m : Prog τ ρ ε' α) : Prog τ σ ε α := fun s =>
  let r := m (get s)
  (r.out.forM handler >>= fun _ => lift r.result) (set r.state s)

/-- Run `m` and forget what it emitted. -/
def mute (m : Prog τ σ ε α) : Prog τ σ ε α := fun s => ⟨(m s).result, (m s).state, []⟩

/-- Run `m` and put what it returned at the end of a log beside the state. -/
def recording (m : Prog τ σ ε α) : Prog τ (σ × List (Except τ α)) ε α := fun s =>
  let r := m s.1
  ⟨r.result, (r.state, s.2 ++ [r.result]), r.out⟩

/-! ## Running -/

@[simp] theorem pure_run (a : α) (s : σ) : (pure a : Prog τ σ ε α) s = ⟨.ok a, s, []⟩ := rfl

theorem bind_run (m : Prog τ σ ε α) (f : α → Prog τ σ ε β) (s : σ) :
    (m >>= f) s = match (m s).result with
      | .ok a => ⟨(f a (m s).state).result, (f a (m s).state).state,
          (m s).out ++ (f a (m s).state).out⟩
      | .error e => ⟨.error e, (m s).state, (m s).out⟩ := rfl

theorem bind_run_ok {m : Prog τ σ ε α} {f : α → Prog τ σ ε β} {s s' s'' : σ} {a : α}
    {r : Except τ β} {o o' : List ε} (h : m s = ⟨.ok a, s', o⟩) (h' : f a s' = ⟨r, s'', o'⟩) :
    (m >>= f) s = ⟨r, s'', o ++ o'⟩ := by
  rw [bind_run, h]
  show Outcome.mk (f a s').result (f a s').state (o ++ (f a s').out) = _
  rw [h']

theorem bind_run_error {m : Prog τ σ ε α} {f : α → Prog τ σ ε β} {s s' : σ} {e : τ} {o : List ε}
    (h : m s = ⟨.error e, s', o⟩) : (m >>= f) s = ⟨.error e, s', o⟩ := by
  rw [bind_run, h]

/-- After a silent program the rest runs from where it stopped, if it did not throw. -/
theorem bind_run_silent {m : Prog τ σ ε α} {s : σ} (hout : (m s).out = [])
    (f : α → Prog τ σ ε β) :
    (∃ e, (m >>= f) s = ⟨.error e, (m s).state, []⟩) ∨
      ∃ a, (m s).result = .ok a ∧ (m >>= f) s = f a (m s).state := by
  rw [bind_run, hout]
  cases (m s).result with
  | ok a => exact .inr ⟨a, rfl, rfl⟩
  | error e => exact .inl ⟨e, rfl⟩

@[simp] theorem read_run (s : σ) : (read : Prog τ σ ε σ) s = ⟨.ok s, s, []⟩ := rfl

@[simp] theorem modify_run (f : σ → σ) (s : σ) :
    (modify f : Prog τ σ ε Unit) s = ⟨.ok (), f s, []⟩ := rfl

@[simp] theorem emit_run (e : ε) (s : σ) : (emit e : Prog τ σ ε Unit) s = ⟨.ok (), s, [e]⟩ := rfl

@[simp] theorem emitAll_run (es : List ε) (s : σ) :
    (emitAll es : Prog τ σ ε Unit) s = ⟨.ok (), s, es⟩ := rfl

@[simp] theorem lift_run (x : Except τ α) (s : σ) : (lift x : Prog τ σ ε α) s = ⟨x, s, []⟩ := rfl

@[simp] theorem lift_ok_bind (a : α) (f : α → Prog τ σ ε β) : (lift (.ok a) >>= f) = f a := by
  funext s; simp [bind_run]

@[simp] theorem lift_error_bind (e : τ) (f : α → Prog τ σ ε β) :
    (lift (.error e) >>= f) = throw e := by
  funext s; simp [bind_run, throw]

@[simp] theorem throw_run (e : τ) (s : σ) : (throw e : Prog τ σ ε α) s = ⟨.error e, s, []⟩ := rfl

@[simp] theorem read_bind_run (f : σ → Prog τ σ ε β) (s : σ) : (read >>= f) s = f s s := by
  simp [bind_run]

@[simp] theorem modify_bind_run (g : σ → σ) (f : Unit → Prog τ σ ε β) (s : σ) :
    (modify g >>= f) s = f () (g s) := by
  simp [bind_run]

theorem catching_run_ok {p : τ → Bool} {m : Prog τ σ ε Unit} {s s' : σ} {o : List ε}
    (h : m s = ⟨.ok (), s', o⟩) : catching p m s = ⟨.ok (), s', o⟩ := by
  simp only [catching, h]

/-! Swallowing a throw undoes nothing. -/

theorem catching_state (p : τ → Bool) (m : Prog τ σ ε Unit) (s : σ) :
    (catching p m s).state = (m s).state := by
  simp only [catching]
  split
  · rfl
  · split <;> rfl

theorem catching_out (p : τ → Bool) (m : Prog τ σ ε Unit) (s : σ) :
    (catching p m s).out = (m s).out := by
  simp only [catching]
  split
  · rfl
  · split <;> rfl

theorem catching_error_iff {p : τ → Bool} {m : Prog τ σ ε Unit} {s : σ} {e : τ} :
    (catching p m s).result = .error e ↔ (m s).result = .error e ∧ p e = false := by
  simp only [catching]
  cases h : (m s).result with
  | ok u => simp [h]
  | error e' =>
    dsimp only
    split
    · rename_i hp
      refine iff_of_false nofun fun ⟨heq, hfalse⟩ => ?_
      rw [Except.error.inj heq, hfalse] at hp
      cases hp
    · rename_i hp
      rw [h]
      refine (and_iff_left_of_imp fun heq => ?_).symm
      rw [← Except.error.inj heq]
      exact Bool.eq_false_iff.mpr hp

/-- Nothing follows. -/
theorem bind_pure_run (m : Prog τ σ ε α) (b : β) (s : σ) :
    ((m >>= fun _ => (pure b : Prog τ σ ε β)) s).state = (m s).state ∧
      ((m >>= fun _ => (pure b : Prog τ σ ε β)) s).out = (m s).out := by
  rw [bind_run]
  cases (m s).result with
  | ok a => exact ⟨rfl, List.append_nil _⟩
  | error e => exact ⟨rfl, rfl⟩

/-- Returning what was returned. -/
theorem bind_pure_self (m : Prog τ σ ε α) (s : σ) : (m >>= fun a => (pure a : Prog τ σ ε α)) s = m s := by
  rw [bind_run]
  rcases m s with ⟨a | e, s', out⟩
  · rfl
  · simp

theorem forM_emitAll_run (f : ι → List ε) (is : List ι) (s : σ) :
    (is.forM fun i => (emitAll (f i) : Prog τ σ ε Unit)) s = ⟨.ok (), s, is.flatMap f⟩ := by
  induction is with
  | nil => rfl
  | cons i is ih => exact bind_run_ok (emitAll_run ..) ih

/-- A loop ends where its first round throws, and else goes on from there. -/
theorem forM_cons_cases (f : ι → Prog τ σ ε Unit) (i : ι) (is : List ι) (s : σ) :
    (∃ e, (f i s).result = .error e ∧ (i :: is).forM f s = ⟨.error e, (f i s).state, (f i s).out⟩) ∨
      (f i s).result = .ok () ∧ (i :: is).forM f s =
        ⟨(is.forM f (f i s).state).result, (is.forM f (f i s).state).state,
          (f i s).out ++ (is.forM f (f i s).state).out⟩ := by
  have hloop : (i :: is).forM f = (f i >>= fun _ => is.forM f) := rfl
  rw [hloop]
  rcases hrun : f i s with ⟨result, s', o⟩
  cases result with
  | error e => exact .inl ⟨e, rfl, bind_run_error hrun⟩
  | ok u => exact .inr ⟨rfl, bind_run_ok hrun rfl⟩

/-- A relation between the ends of a run and its outputs that composes. -/
structure Trace (σ ε : Type) where
  rel : σ → List ε → σ → Prop
  refl : ∀ s, rel s [] s
  trans : ∀ {s s' s'' o o'}, rel s o s' → rel s' o' s'' → rel s (o ++ o') s''

/-- The runs that leave `f` of the state as it was. -/
def Trace.keeps {β : Type} (f : σ → β) : Trace σ ε where
  rel s _ s' := f s' = f s
  refl _ := rfl
  trans h h' := h'.trans h

/-- The runs that leave `key` of the state as it was and emit what `P` allows there. -/
def Trace.emits {κ : Type} (key : σ → κ) (P : κ → ε → Prop) : Trace σ ε where
  rel s o s' := key s' = key s ∧ ∀ e ∈ o, P (key s) e
  refl _ := ⟨rfl, nofun⟩
  trans h h' := ⟨h'.1.trans h.1, fun e he =>
    (List.mem_append.mp he).elim (h.2 e) fun he => h.1 ▸ h'.2 e he⟩

/-- Every run of the program, also one that throws, is in the relation. -/
def Obeys (T : Trace σ ε) (m : Prog τ σ ε α) : Prop := ∀ s, T.rel s (m s).out (m s).state

namespace Obeys

variable {T : Trace σ ε}

theorem pure (a : α) : Obeys T (pure a : Prog τ σ ε α) := fun s => T.refl s

theorem bind {m : Prog τ σ ε α} {f : α → Prog τ σ ε β} (hm : Obeys T m)
    (hf : ∀ a, Obeys T (f a)) : Obeys T (m >>= f) := by
  intro s
  rw [bind_run]
  cases h : (m s).result with
  | ok a => exact T.trans (hm s) (hf a _)
  | error e => exact hm s

theorem lift (x : Except τ α) : Obeys T (lift x : Prog τ σ ε α) := fun s => T.refl s

/-- What follows a value need only obey for that value. -/
theorem bind_lift {x : Except τ α} {f : α → Prog τ σ ε β} (h : ∀ a, x = .ok a → Obeys T (f a)) :
    Obeys T (Prog.lift x >>= f) := by
  cases x with
  | ok a => rw [lift_ok_bind]; exact h a rfl
  | error e => rw [lift_error_bind]; exact fun s => T.refl s

theorem throw (e : τ) : Obeys T (throw e : Prog τ σ ε α) := fun s => T.refl s

theorem read : Obeys T (read : Prog τ σ ε σ) := fun s => T.refl s

theorem modify {f : σ → σ} (h : ∀ s, T.rel s [] (f s)) : Obeys T (modify f : Prog τ σ ε Unit) := h

theorem emit {e : ε} (h : ∀ s, T.rel s [e] s) : Obeys T (emit e : Prog τ σ ε Unit) := h

theorem catching {m : Prog τ σ ε Unit} (p : τ → Bool) (h : Obeys T m) :
    Obeys T (catching p m) := by
  intro s
  rw [catching_state, catching_out]
  exact h s

theorem forM {f : ι → Prog τ σ ε Unit} {is : List ι} (h : ∀ i ∈ is, Obeys T (f i)) :
    Obeys T (is.forM f) := by
  induction is with
  | nil => exact .pure ()
  | cons i is ih =>
    exact .bind (h i List.mem_cons_self) fun _ => ih fun j hj => h j (List.mem_cons_of_mem _ hj)

theorem interpret {ε' : Type} {get : σ → ρ} {set : ρ → σ → σ} {handler : ε' → Prog τ σ ε Unit}
    {m : Prog τ ρ ε' α} (hset : ∀ s r, T.rel s [] (set r s)) (h : ∀ e, Obeys T (handler e)) :
    Obeys T (interpret get set handler m) := by
  intro s
  have hs := T.trans (hset s (m (get s)).state)
    (Obeys.bind (Obeys.forM fun e (_ : e ∈ (m (get s)).out) => h e)
      (fun _ => Obeys.lift (m (get s)).result) _)
  exact hs

end Obeys

/-- Every run emits only what `P` allows and throws only what `Q` allows. -/
def Within (P : ε → Prop) (Q : τ → Prop) (m : Prog τ σ ε α) : Prop :=
  ∀ s, (∀ e ∈ (m s).out, P e) ∧ Throws (m s).result Q

namespace Within

variable {P : ε → Prop} {Q : τ → Prop}

theorem pure (a : α) : Within P Q (pure a : Prog τ σ ε α) := fun _ => ⟨nofun, .ok⟩

theorem lift {x : Except τ α} (h : Throws x Q) : Within P Q (lift x : Prog τ σ ε α) :=
  fun _ => ⟨nofun, h⟩

theorem throw {e : τ} (h : Q e) : Within P Q (throw e : Prog τ σ ε α) := lift (.error h)

theorem read : Within P Q (read : Prog τ σ ε σ) := fun _ => ⟨nofun, .ok⟩

theorem modify (f : σ → σ) : Within P Q (modify f : Prog τ σ ε Unit) := fun _ => ⟨nofun, .ok⟩

theorem emitAll {es : List ε} (h : ∀ e ∈ es, P e) : Within P Q (emitAll es : Prog τ σ ε Unit) :=
  fun _ => ⟨h, .ok⟩

theorem emit {e : ε} (h : P e) : Within P Q (emit e : Prog τ σ ε Unit) :=
  emitAll fun _ he' => (List.mem_singleton.mp he') ▸ h

theorem bind {m : Prog τ σ ε α} {f : α → Prog τ σ ε β} (hm : Within P Q m)
    (hf : ∀ a, Within P Q (f a)) : Within P Q (m >>= f) := by
  intro s
  obtain ⟨hout, hresult⟩ := hm s
  rw [bind_run]
  cases h : (m s).result with
  | ok a =>
    obtain ⟨hout', hresult'⟩ := hf a (m s).state
    exact ⟨fun e he => (List.mem_append.mp he).elim (hout e) (hout' e), hresult'⟩
  | error e => exact ⟨hout, .error (hresult.of_eq h)⟩

/-- What is thrown on is what `p` rejects. -/
theorem catching {Q' : τ → Prop} {p : τ → Bool} {m : Prog τ σ ε Unit} (hm : Within P Q m)
    (hp : ∀ e, Q e → p e = false → Q' e) : Within P Q' (catching p m) := by
  intro s
  obtain ⟨hout, hresult⟩ := hm s
  refine ⟨by rwa [catching_out], ⟨fun he => ?_⟩⟩
  obtain ⟨herror, hfalse⟩ := catching_error_iff.mp he
  exact hp _ (hresult.of_eq herror) hfalse

end Within

/-! ## Programs beside a larger state -/

/-- Seen through `f`, the one program does what the other does. -/
def Mirrors (f : ρ → σ) (m' : Prog τ ρ ε α) (m : Prog τ σ ε α) : Prop :=
  ∀ r, (m' r).result = (m (f r)).result ∧ f (m' r).state = (m (f r)).state ∧
    (m' r).out = (m (f r)).out

namespace Mirrors

variable {f : ρ → σ}

theorem pure (a : α) : Mirrors f (pure a : Prog τ ρ ε α) (pure a) := fun _ => ⟨rfl, rfl, rfl⟩

theorem lift (x : Except τ α) : Mirrors f (lift x : Prog τ ρ ε α) (lift x) :=
  fun _ => ⟨rfl, rfl, rfl⟩

theorem throw (e : τ) : Mirrors f (throw e : Prog τ ρ ε α) (throw e) := lift _

theorem emit (e : ε) : Mirrors f (emit e : Prog τ ρ ε Unit) (emit e) := fun _ => ⟨rfl, rfl, rfl⟩

theorem recording (m : Prog τ σ ε α) : Mirrors Prod.fst (recording m) m := fun _ => ⟨rfl, rfl, rfl⟩

theorem bind {m' : Prog τ ρ ε α} {m : Prog τ σ ε α} {g' : α → Prog τ ρ ε β} {g : α → Prog τ σ ε β}
    (hm : Mirrors f m' m) (hg : ∀ a, Mirrors f (g' a) (g a)) : Mirrors f (m' >>= g') (m >>= g) := by
  intro r
  obtain ⟨hresult, hstate, hout⟩ := hm r
  rw [bind_run, bind_run, hresult]
  cases (m (f r)).result with
  | ok a =>
    obtain ⟨hresult', hstate', hout'⟩ := hg a (m' r).state
    rw [hstate] at hresult' hstate' hout'
    exact ⟨hresult', hstate', congrArg₂ (· ++ ·) hout hout'⟩
  | error e => exact ⟨rfl, hstate, hout⟩

/-- What is read of the one state is read of the other. -/
theorem bind_read {g' : ρ → Prog τ ρ ε β} {g : σ → Prog τ σ ε β}
    (hg : ∀ r, Mirrors f (g' r) (g (f r))) : Mirrors f (read >>= g') (read >>= g) := by
  intro r
  rw [read_bind_run, read_bind_run]
  exact hg r r

theorem catching {m' : Prog τ ρ ε Unit} {m : Prog τ σ ε Unit} (p : τ → Bool)
    (hm : Mirrors f m' m) : Mirrors f (catching p m') (catching p m) := by
  intro r
  obtain ⟨hresult, hstate, hout⟩ := hm r
  refine ⟨?_, by rw [catching_state, catching_state, hstate], by rw [catching_out, catching_out, hout]⟩
  simp only [Prog.catching, hresult]
  cases (m (f r)).result with
  | ok u => exact hresult
  | error e =>
    dsimp only
    split
    · rfl
    · exact hresult

end Mirrors

/-! ## Runs over a list of inputs -/

/-- The state and the outputs after the inputs, one after the other. -/
def runs (step : ι → Prog τ σ ε Unit) : List ι → σ → σ × List ε
  | [], s => (s, [])
  | i :: is, s =>
    let rest := runs step is (step i s).state
    (rest.1, (step i s).out ++ rest.2)

@[simp] theorem runs_nil (step : ι → Prog τ σ ε Unit) (s : σ) : runs step [] s = (s, []) := rfl

theorem runs_cons (step : ι → Prog τ σ ε Unit) (i : ι) (is : List ι) (s : σ) :
    runs step (i :: is) s = ((runs step is (step i s).state).1,
      (step i s).out ++ (runs step is (step i s).state).2) := rfl

theorem runs_map (step : ι → Prog τ σ ε Unit) (f : α → ι) (as : List α) (s : σ) :
    runs step (as.map f) s = runs (fun a => step (f a)) as s := by
  induction as generalizing s with
  | nil => rfl
  | cons a as ih => rw [List.map_cons, runs_cons, runs_cons, ih]

theorem runs_append (step : ι → Prog τ σ ε Unit) (is js : List ι) (s : σ) :
    runs step (is ++ js) s = ((runs step js (runs step is s).1).1,
      (runs step is s).2 ++ (runs step js (runs step is s).1).2) := by
  induction is generalizing s with
  | nil => simp
  | cons i is ih => simp only [List.cons_append, runs_cons, ih, List.append_assoc]

/-- The last input. -/
theorem runs_concat (step : ι → Prog τ σ ε Unit) (is : List ι) (i : ι) (s : σ) :
    (runs step (is ++ [i]) s).1 = (step i (runs step is s).1).state := by
  rw [runs_append]
  rfl

/-- Steps that obey a trace make runs that obey it. -/
theorem runs_obeys {T : Trace σ ε} {step : ι → Prog τ σ ε Unit} {is : List ι}
    (h : ∀ i ∈ is, Obeys T (step i)) (s : σ) : T.rel s (runs step is s).2 (runs step is s).1 := by
  induction is generalizing s with
  | nil => exact T.refl s
  | cons i is ih =>
    rw [runs_cons]
    exact T.trans (h i List.mem_cons_self s) (ih (fun j hj => h j (List.mem_cons_of_mem _ hj)) _)

/-- What holds at the start and is kept by every step holds after a run. -/
theorem runs_invariant {P : σ → Prop} {step : ι → Prog τ σ ε Unit} {is : List ι}
    (h : ∀ i ∈ is, ∀ s, P s → P (step i s).state) {s : σ} (hs : P s) : P (runs step is s).1 := by
  induction is generalizing s with
  | nil => exact hs
  | cons i is ih =>
    rw [runs_cons]
    exact ih (fun j hj => h j (List.mem_cons_of_mem _ hj)) (h i List.mem_cons_self s hs)

/-- Inputs whose steps are silent and keep the state in the relation make no
difference to what a run does at the others. -/
theorem runs_filter {R : σ → σ → Prop} {step : ι → Prog τ σ ε Unit} {keep : ι → Bool}
    (hskip : ∀ i s s', keep i = false → R s s' → R (step i s).state s' ∧ (step i s).out = [])
    (hkeep : ∀ i s s', keep i = true → R s s' →
      R (step i s).state (step i s').state ∧ (step i s).out = (step i s').out)
    (is : List ι) {s s' : σ} (h : R s s') :
    R (runs step is s).1 (runs step (is.filter keep) s').1 ∧
      (runs step is s).2 = (runs step (is.filter keep) s').2 := by
  induction is generalizing s s' with
  | nil => exact ⟨h, rfl⟩
  | cons i is ih =>
    cases hi : keep i with
    | false =>
      obtain ⟨hrel, hout⟩ := hskip i s s' hi h
      rw [runs_cons, hout, List.nil_append, List.filter_cons_of_neg (by rw [hi]; decide)]
      exact ih hrel
    | true =>
      obtain ⟨hrel, hout⟩ := hkeep i s s' hi h
      obtain ⟨hrest, houts⟩ := ih hrel
      rw [List.filter_cons_of_pos hi, runs_cons, runs_cons]
      exact ⟨hrest, by rw [hout, houts]⟩

end Prog

end TcpIpStack.Lib
