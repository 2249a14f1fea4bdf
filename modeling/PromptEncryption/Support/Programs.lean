import Mathlib.Logic.Function.Basic

/-!
# Support — programs over files

Programs that read and replace files, ask questions of the outside (a library that draws
randomness, a service) and guard themselves with a lock, written once and run in two ways: by
themselves (`eval`, here), and step by step beside others that share the files and the lock
(`Threads.lean`).

A program is what it does next and how it goes on with the answer (`Prog`).  A step can fail:
the answer it goes on with is then the exception.  A body (`Body`) is a program that returns a
value or raises; bodies are put together in `do` blocks, an exception ending them.

* `eval_bind_ok`, `eval_bind_error`: what a `do` block returns or raises is read back step by step.
* `eval_withLock`: alone, a body under the lock is the body.
-/

namespace Programs

/-- The files, each with its content if it exists. -/
abbrev Files (F V : Type) := F → Option V

/-- A program over files `F` with contents `V`, exceptions `E` and questions `Q`. -/
inductive Prog (F V E Q : Type) (A : Q → Type) (ρ : Type) where
  | ret (r : ρ)
  | acquire (p : Prog F V E Q A ρ)
  | release (p : Prog F V E Q A ρ)
  | read (f : F) (k : Except E (Option V) → Prog F V E Q A ρ)
  | write (f : F) (v : V) (k : Except E Unit → Prog F V E Q A ρ)
  | ask (q : Q) (k : Except E (A q) → Prog F V E Q A ρ)

section
variable {F V E Q : Type} {A : Q → Type} {ρ σ α β : Type}

namespace Prog

/-- `p`, then `k` at what it returned. -/
def bind : Prog F V E Q A ρ → (ρ → Prog F V E Q A σ) → Prog F V E Q A σ
  | .ret r, k => k r
  | .acquire p, k => .acquire (p.bind k)
  | .release p, k => .release (p.bind k)
  | .read f h, k => .read f fun a => (h a).bind k
  | .write f v h, k => .write f v fun a => (h a).bind k
  | .ask q h, k => .ask q fun a => (h a).bind k

/-- `p`, its result handed through `g`. -/
def map (g : ρ → σ) (p : Prog F V E Q A ρ) : Prog F V E Q A σ := p.bind fun r => .ret (g r)

end Prog

/-! ### Bodies -/

/-- A program that returns a value or raises. -/
def Body (F V E Q : Type) (A : Q → Type) (α : Type) : Type := Prog F V E Q A (Except E α)

/-- What a body goes on with: `f` at a value, the exception itself otherwise. -/
def orRaise (f : α → Body F V E Q A β) : Except E α → Prog F V E Q A (Except E β)
  | .ok a => f a
  | .error e => .ret (.error e)

instance : Monad (Body F V E Q A) where
  pure a := Prog.ret (.ok a)
  bind x f := Prog.bind x (orRaise f)

/-- What raises or returns without touching anything. -/
def lift (x : Except E α) : Body F V E Q A α := Prog.ret x

/-- The content of a file, `none` where there is no such file. -/
def readRaw (f : F) : Body F V E Q A (Option V) := Prog.read f .ret

/-- Replaces a file. -/
def replace (f : F) (v : V) : Body F V E Q A Unit := Prog.write f v .ret

def ask (q : Q) : Body F V E Q A (A q) := Prog.ask q .ret

/-- `try: x  except …`: `h` handles what `x` raises. -/
def tryCatch (x : Body F V E Q A α) (h : E → Body F V E Q A α) : Body F V E Q A α :=
  Prog.bind x fun
    | .ok a => Prog.ret (.ok a)
    | .error e => h e

/-- `with lock: x`. -/
def withLock (x : Body F V E Q A α) : Body F V E Q A α :=
  Prog.acquire (Prog.bind x fun r => .release (.ret r))

/-! ### A program by itself -/

/-- What the outside does with a program: how it answers, and which steps it makes fail. -/
structure Env (F E Q : Type) (A : Q → Type) where
  answer : (q : Q) → Except E (A q)
  readFault : F → Option E
  writeFault : F → Option E

variable [DecidableEq F]

/-- The answer to a read. -/
def Env.readAnswer (env : Env F E Q A) (s : Files F V) (f : F) : Except E (Option V) :=
  match env.readFault f with
  | none => .ok (s f)
  | some e => .error e

/-- The run of a program that has the files and the lock to itself. -/
def eval (env : Env F E Q A) : Prog F V E Q A ρ → Files F V → ρ × Files F V
  | .ret r, s => (r, s)
  | .acquire p, s => eval env p s
  | .release p, s => eval env p s
  | .read f k, s => eval env (k (env.readAnswer s f)) s
  | .write f v k, s =>
      match env.writeFault f with
      | none => eval env (k (.ok ())) (Function.update s f (some v))
      | some e => eval env (k (.error e)) s
  | .ask q k, s => eval env (k (env.answer q)) s

/-- The run of a body. -/
def evalBody (env : Env F E Q A) (x : Body F V E Q A α) (s : Files F V) :
    Except E α × Files F V := eval env x s

variable {env : Env F E Q A} {s s' : Files F V}

theorem eval_bind (p : Prog F V E Q A ρ) (k : ρ → Prog F V E Q A σ) (s : Files F V) :
    eval env (p.bind k) s = eval env (k (eval env p s).1) (eval env p s).2 := by
  induction p generalizing s with
  | ret r => rfl
  | acquire p ih => exact ih s
  | release p ih => exact ih s
  | read f h ih => exact ih _ s
  | write f v h ih =>
      simp only [Prog.bind, eval]
      cases env.writeFault f with
      | none => exact ih _ _
      | some e => exact ih _ _
  | ask q h ih => exact ih _ s

@[simp] theorem evalBody_pure (a : α) :
    evalBody env (pure a : Body F V E Q A α) s = (.ok a, s) := rfl

@[simp] theorem evalBody_lift (x : Except E α) :
    evalBody env (lift x : Body F V E Q A α) s = (x, s) := rfl

@[simp] theorem evalBody_readRaw (f : F) :
    evalBody env (readRaw f : Body F V E Q A (Option V)) s = (env.readAnswer s f, s) := rfl

@[simp] theorem evalBody_ask (q : Q) :
    evalBody env (ask q : Body F V E Q A (A q)) s = (env.answer q, s) := rfl

@[simp] theorem evalBody_replace (f : F) (v : V) :
    evalBody env (replace f v : Body F V E Q A Unit) s =
      match env.writeFault f with
      | none => (.ok (), Function.update s f (some v))
      | some e => (.error e, s) := by
  simp only [evalBody, replace, eval]

/-- **Alone, a body under the lock is the body.** -/
@[simp] theorem evalBody_withLock (x : Body F V E Q A α) :
    evalBody env (withLock x) s = evalBody env x s :=
  eval_bind x (fun r => .release (.ret r)) s

theorem evalBody_bind (x : Body F V E Q A α) (f : α → Body F V E Q A β) :
    evalBody env (x >>= f) s =
      match evalBody env x s with
      | (.ok a, s₁) => evalBody env (f a) s₁
      | (.error e, s₁) => (.error e, s₁) := by
  refine (eval_bind x (orRaise f) s).trans ?_
  rw [evalBody]
  rcases eval env x s with ⟨a | e, s₁⟩ <;> rfl

/-- A block returns where its first statement does and the rest returns on what it left. -/
theorem evalBody_bind_ok {x : Body F V E Q A α} {f : α → Body F V E Q A β} {b : β} :
    evalBody env (x >>= f) s = (.ok b, s') ↔
      ∃ a s₁, evalBody env x s = (.ok a, s₁) ∧ evalBody env (f a) s₁ = (.ok b, s') := by
  rw [evalBody_bind]
  rcases evalBody env x s with ⟨e | a, s₁⟩
  · exact ⟨fun h => (by cases h), fun ⟨_, _, h, _⟩ => (by cases h)⟩
  · refine ⟨fun h => ⟨a, s₁, rfl, h⟩, ?_⟩
    rintro ⟨a', s₁', h, h'⟩
    cases h
    exact h'

/-- A block raises where its first statement does, or the rest does on what it left. -/
theorem evalBody_bind_error {x : Body F V E Q A α} {f : α → Body F V E Q A β} {e : E} :
    (evalBody env (x >>= f) s).1 = .error e ↔ (evalBody env x s).1 = .error e ∨
      ∃ a s₁, evalBody env x s = (.ok a, s₁) ∧ (evalBody env (f a) s₁).1 = .error e := by
  rw [evalBody_bind]
  rcases evalBody env x s with ⟨e' | a, s₁⟩
  · refine ⟨fun h => .inl (congrArg _ (Except.error.inj h)), ?_⟩
    rintro (h | ⟨_, _, h, -⟩)
    · exact congrArg _ (Except.error.inj h)
    · cases h
  · refine ⟨fun h => .inr ⟨a, s₁, rfl, h⟩, ?_⟩
    rintro (h | ⟨a', s₁', h, h'⟩)
    · cases h
    · cases h
      exact h'

theorem evalBody_tryCatch (x : Body F V E Q A α) (h : E → Body F V E Q A α) :
    evalBody env (tryCatch x h) s =
      match evalBody env x s with
      | (.ok a, s₁) => (.ok a, s₁)
      | (.error e, s₁) => evalBody env (h e) s₁ := by
  refine (eval_bind x _ s).trans ?_
  rw [evalBody]
  rcases eval env x s with ⟨a | e, s₁⟩ <;> rfl

/-! ### What a program asks -/

/-- The questions a program asks in the run that has the files to itself, in order. -/
def asked (env : Env F E Q A) : Prog F V E Q A ρ → Files F V → List Q
  | .ret _, _ => []
  | .acquire p, s => asked env p s
  | .release p, s => asked env p s
  | .read f k, s => asked env (k (env.readAnswer s f)) s
  | .write f v k, s =>
      match env.writeFault f with
      | none => asked env (k (.ok ())) (Function.update s f (some v))
      | some e => asked env (k (.error e)) s
  | .ask q k, s => q :: asked env (k (env.answer q)) s

/-- The questions a body asks. -/
def askedBody (env : Env F E Q A) (x : Body F V E Q A α) (s : Files F V) : List Q := asked env x s

@[simp] theorem askedBody_lift (x : Except E α) :
    askedBody env (lift x : Body F V E Q A α) s = [] := rfl

@[simp] theorem askedBody_pure (a : α) :
    askedBody env (pure a : Body F V E Q A α) s = [] := rfl

@[simp] theorem askedBody_ask (q : Q) :
    askedBody env (ask q : Body F V E Q A (A q)) s = [q] := rfl

theorem asked_bind (p : Prog F V E Q A ρ) (k : ρ → Prog F V E Q A σ) (s : Files F V) :
    asked env (p.bind k) s = asked env p s ++ asked env (k (eval env p s).1) (eval env p s).2 := by
  induction p generalizing s with
  | ret r => rfl
  | acquire p ih => exact ih s
  | release p ih => exact ih s
  | read f h ih => exact ih _ s
  | write f v h ih =>
      simp only [Prog.bind, asked, eval]
      cases env.writeFault f with
      | none => exact ih _ _
      | some e => exact ih _ _
  | ask q h ih => exact congrArg (q :: ·) (ih _ s)

theorem askedBody_withLock (x : Body F V E Q A α) :
    askedBody env (withLock x) s = askedBody env x s :=
  (asked_bind x (fun r => .release (.ret r)) s).trans (List.append_nil _)

/-- A block asks what its first statement asks, and then what the rest asks of what it left. -/
theorem mem_askedBody_bind {x : Body F V E Q A α} {f : α → Body F V E Q A β} {q : Q} :
    q ∈ askedBody env (x >>= f) s ↔ q ∈ askedBody env x s ∨
      ∃ a s₁, evalBody env x s = (.ok a, s₁) ∧ q ∈ askedBody env (f a) s₁ := by
  have h : askedBody env (x >>= f) s =
      askedBody env x s ++ asked env (orRaise f (eval env x s).1) (eval env x s).2 :=
    asked_bind x (orRaise f) s
  rw [h, List.mem_append]
  refine or_congr_right ?_
  rw [evalBody]
  rcases eval env x s with ⟨e | a, s₁⟩
  · exact ⟨fun hq => absurd hq List.not_mem_nil, fun ⟨_, _, h, _⟩ => by cases h⟩
  · refine ⟨fun hq => ⟨a, s₁, rfl, hq⟩, ?_⟩
    rintro ⟨a', s₁', h, hq⟩
    cases h
    exact hq

/-! ### Programs that only read -/

/-- The program replaces no file. -/
def ReadOnly : Prog F V E Q A ρ → Prop
  | .ret _ => True
  | .acquire p => ReadOnly p
  | .release p => ReadOnly p
  | .read _ k => ∀ a, ReadOnly (k a)
  | .write _ _ _ => False
  | .ask _ k => ∀ a, ReadOnly (k a)

omit [DecidableEq F] in
theorem ReadOnly.bind {p : Prog F V E Q A ρ} {k : ρ → Prog F V E Q A σ} (hp : ReadOnly p)
    (hk : ∀ r, ReadOnly (k r)) : ReadOnly (p.bind k) := by
  induction p with
  | ret r => exact hk r
  | acquire p ih => exact ih hp
  | release p ih => exact ih hp
  | read f h ih => exact fun a => ih a (hp a)
  | write f v h => exact hp.elim
  | ask q h ih => exact fun a => ih a (hp a)

/-- **A program that only reads leaves the files as they are.** -/
theorem ReadOnly.eval {p : Prog F V E Q A ρ} (h : ReadOnly p) : (eval env p s).2 = s := by
  induction p with
  | ret r => rfl
  | acquire p ih => exact ih h
  | release p ih => exact ih h
  | read f k ih => exact ih _ (h _)
  | write f v k => exact h.elim
  | ask q k ih => exact ih _ (h _)

/-- A body that replaces no file. -/
def ReadOnlyBody (x : Body F V E Q A α) : Prop := ReadOnly x

namespace ReadOnlyBody
omit [DecidableEq F]

theorem bind {x : Body F V E Q A α} {f : α → Body F V E Q A β} (hx : ReadOnlyBody x)
    (hf : ∀ a, ReadOnlyBody (f a)) : ReadOnlyBody (x >>= f) :=
  ReadOnly.bind hx fun r => by
    cases r with
    | ok a => exact hf a
    | error e => exact trivial

theorem lift (r : Except E α) : ReadOnlyBody (lift r : Body F V E Q A α) := trivial

theorem ask (q : Q) : ReadOnlyBody (ask q : Body F V E Q A (A q)) := fun _ => trivial

theorem readRaw (f : F) : ReadOnlyBody (readRaw f : Body F V E Q A (Option V)) := fun _ => trivial

theorem tryCatch {x : Body F V E Q A α} {h : E → Body F V E Q A α} (hx : ReadOnlyBody x)
    (hh : ∀ e, ReadOnlyBody (h e)) : ReadOnlyBody (tryCatch x h) :=
  ReadOnly.bind hx fun r => by
    cases r with
    | ok a => exact trivial
    | error e => exact hh e

theorem withLock {x : Body F V E Q A α} (hx : ReadOnlyBody x) : ReadOnlyBody (withLock x) :=
  ReadOnly.bind (p := x) hx fun _ => trivial

end ReadOnlyBody

theorem evalBody_readOnly {x : Body F V E Q A α} (hx : ReadOnlyBody x) :
    (evalBody env x s).2 = s := ReadOnly.eval hx

end

end Programs
