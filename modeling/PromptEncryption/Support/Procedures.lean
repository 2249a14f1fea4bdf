import PromptEncryption.Support.Processes
import PromptEncryption.Support.Simulation

/-!
# Support — reads and writes that take steps

The threads of `Threads.lean` read and replace a file in one step each.  Here a read and a write are
carried out over an object `σ` in steps of their own (`Backing`), between any two of which the other
threads go on (`Setting.fine`).  `view` is the files the object stands for.

`CarriesOut` is what the steps of one read or write have to meet, with `Outline` what is said of the
object between them:
* a write leaves the view as it is but for one step, in which it replaces its file, and it ends
  normally exactly where it took that step;
* a read that returns what it found has found it in the view at one of its steps;
* the steps of a write leave what is said of a read under way.

Of two writes at once nothing is asked: every program writes only while it holds the lock (`Guarded`).

* `CarriesOut.refines`: in every run the threads do what they do where reads and writes are single
  steps, a read taking place where it found what it returns.  What a read returns is settled before it
  is known whether it will fail, so the simulation looks back.
-/

namespace Programs
open Runs

/-! ### Programs that write under the lock -/

section
variable {F V E Q : Type} {A : Q → Type} {ρ σ : Type}

/-- The program writes only while it holds the lock, gives back the lock it takes, and ends without
it. -/
def Guarded : Prog F V E Q A ρ → (held : Bool) → Prop
  | .ret _, held => held = false
  | .acquire p, held => held = false ∧ Guarded p true
  | .release p, held => held = true ∧ Guarded p false
  | .read _ k, held => ∀ a, Guarded (k a) held
  | .write _ _ k, held => held = true ∧ ∀ a, Guarded (k a) held
  | .ask _ k, held => ∀ a, Guarded (k a) held

theorem Guarded.bind {p : Prog F V E Q A ρ} {k : ρ → Prog F V E Q A σ} {held : Bool}
    (hp : Guarded p held) (hk : ∀ r, Guarded (k r) false) : Guarded (p.bind k) held := by
  induction p generalizing held with
  | ret r => exact (hp : held = false) ▸ hk r
  | acquire p ih => exact ⟨hp.1, ih hp.2⟩
  | release p ih => exact ⟨hp.1, ih hp.2⟩
  | read f h ih => exact fun a => ih a (hp a)
  | write f v h ih => exact ⟨hp.1, fun a => ih a (hp.2 a)⟩
  | ask q h ih => exact fun a => ih a (hp a)

/-- A section of a guarded program. -/
theorem guarded_underLock {p : Prog F V E Q A ρ} (hp : LockFree p) : Guarded (underLock p) true := by
  induction p with
  | ret r => exact ⟨rfl, rfl⟩
  | acquire p _ => exact hp.elim
  | release p _ => exact hp.elim
  | read f k ih => exact fun a => ih a (hp a)
  | write f v k ih => exact ⟨rfl, fun a => ih a (hp a)⟩
  | ask q k ih => exact fun a => ih a (hp a)

/-- A program that only reads needs no lock. -/
theorem guarded_of_readOnly {p : Prog F V E Q A ρ} (hp : LockFree p) (hr : ReadOnly p) :
    Guarded p false := by
  induction p with
  | ret r => rfl
  | acquire p _ => exact hp.elim
  | release p _ => exact hp.elim
  | read f k ih => exact fun a => ih a (hp a) (hr a)
  | write f v k => exact hr.elim
  | ask q k ih => exact fun a => ih a (hp a) (hr a)

/-- A body that is guarded, from outside the lock. -/
def GuardedBody {α : Type} (x : Body F V E Q A α) : Prop := Guarded x false

namespace GuardedBody
variable {α β : Type}

theorem bind {x : Body F V E Q A α} {f : α → Body F V E Q A β} (hx : GuardedBody x)
    (hf : ∀ a, GuardedBody (f a)) : GuardedBody (x >>= f) :=
  Guarded.bind hx fun r => by
    cases r with
    | ok a => exact hf a
    | error e => exact rfl

theorem withLock {x : Body F V E Q A α} (hx : LockFreeBody x) : GuardedBody (withLock x) :=
  ⟨rfl, guarded_underLock (p := x) hx⟩

theorem map {x : Body F V E Q A α} {g : Except E α → ρ} (hx : GuardedBody x) :
    Guarded (Prog.map g x) false := Guarded.bind (p := x) hx fun _ => rfl

end GuardedBody

end

/-! ### How reads and writes are carried out -/

/-- The steps of a read and of a write over an object `σ`; `R` and `W` are where one of them is.  A
step may fail where its first argument holds. -/
structure Backing (F V E σ R W : Type) where
  openRead : F → R
  readStep : (mayFail : Prop) → F → R → σ → R → Prop
  readResult : R → Option (Except E (Option V))
  openWrite : F → V → W
  writeStep : (mayFail : Prop) → F → V → W → σ → W → σ → Prop
  writeResult : W → Option (Except E Unit)
  /-- The write has replaced its file. -/
  effected : W → Bool

/-- What is said of the object between the steps, and what a read under way has found. -/
structure Outline (F V σ R W : Type) where
  inv : σ → Prop
  reading : (mayFail : Prop) → F → R → σ → Prop
  writing : (mayFail : Prop) → F → V → W → σ → Prop
  found : R → σ → Option (Option V)

section
variable {F V E σ R W : Type} [DecidableEq F]

/-- What the steps of a read or a write have to meet. -/
structure CarriesOut (B : Backing F V E σ R W) (O : Outline F V σ R W) (view : σ → Files F V) :
    Prop where
  openRead : ∀ {mayFail f o}, O.inv o →
    O.reading mayFail f (B.openRead f) o ∧ O.found (B.openRead f) o = none
  readStep : ∀ {mayFail f r o r'}, O.inv o → O.reading mayFail f r o →
    B.readStep mayFail f r o r' → O.reading mayFail f r' o ∧ (O.found r' o = none ∨
      O.found r' o = O.found r o ∨ O.found r o = none ∧ O.found r' o = some (view o f))
  readOk : ∀ {mayFail f r o c}, O.reading mayFail f r o → B.readResult r = some (.ok c) →
    O.found r o = some c
  readError : ∀ {mayFail f r o e}, O.reading mayFail f r o → B.readResult r = some (.error e) →
    mayFail
  openWrite : ∀ {mayFail f v o}, O.inv o →
    O.writing mayFail f v (B.openWrite f v) o ∧ B.effected (B.openWrite f v) = false
  writeStep : ∀ {mayFail f v w o w' o'}, O.inv o → O.writing mayFail f v w o →
    B.writeStep mayFail f v w o w' o' → O.inv o' ∧ O.writing mayFail f v w' o' ∧
      (B.effected w' = B.effected w ∧ view o' = view o ∨ B.effected w = false ∧
        B.effected w' = true ∧ view o' = Function.update (view o) f (some v))
  writeOk : ∀ {mayFail f v w o}, O.writing mayFail f v w o → B.writeResult w = some (.ok ()) →
    B.effected w = true
  writeError : ∀ {mayFail f v w o e}, O.writing mayFail f v w o →
    B.writeResult w = some (.error e) → B.effected w = false ∧ mayFail
  frame : ∀ {mayFail mayFail' f r g v w o w' o'}, O.inv o → O.writing mayFail' g v w o →
    B.writeStep mayFail' g v w o w' o' → O.reading mayFail f r o →
    O.reading mayFail f r o' ∧ O.found r o' = O.found r o

end

/-! ### The threads -/

/-- What a thread has under way. -/
inductive Doing (R W : Type) where
  | nothing
  | reading (r : R)
  | writing (w : W)

section
variable {F V E Q : Type} {A : Q → Type} {J ρ σ R W : Type} [DecidableEq F]

/-- A thread: its job, its program, and the read or write under way where its program is at one. -/
abbrev Thread (F V E Q : Type) (A : Q → Type) (J ρ R W : Type) :=
  J × Prog F V E Q A ρ × Doing R W

/-- The object, the thread that holds the lock, and the threads. -/
structure FinePool (F V E Q : Type) (A : Q → Type) (J ρ σ R W : Type) where
  object : σ
  lock : Option Nat
  threads : Nat → Option (Thread F V E Q A J ρ R W)

inductive FineEvent (F V E Q : Type) (A : Q → Type) (J ρ : Type) where
  /-- What is a step where reads and writes are single steps. -/
  | did (e : Event F V E Q A J ρ)
  /-- A step of a read, or one of a write that is not the one that replaces its file. -/
  | within (thread : Nat) (job : J)

variable (S : Setting F V E Q A J ρ) (B : Backing F V E σ R W)

/-- The pool after thread `t` has gone on. -/
def FinePool.put (st : FinePool F V E Q A J ρ σ R W) (t : Nat) (j : J) (p : Prog F V E Q A ρ)
    (d : Doing R W) : FinePool F V E Q A J ρ σ R W :=
  { st with threads := Function.update st.threads t (some (j, p, d)) }

/-- One step of one thread. -/
inductive FineStep : FinePool F V E Q A J ρ σ R W → FineEvent F V E Q A J ρ →
    FinePool F V E Q A J ρ σ R W → Prop where
  | start {st t j} : st.threads t = none →
      FineStep st (.did ⟨t, j, .start⟩) (st.put t j (S.prog j) .nothing)
  | acquire {st t j p} : st.threads t = some (j, .acquire p, .nothing) → st.lock = none →
      FineStep st (.did ⟨t, j, .acquire⟩) { st.put t j p .nothing with lock := some t }
  | release {st t j p} : st.threads t = some (j, .release p, .nothing) → st.lock = some t →
      FineStep st (.did ⟨t, j, .release⟩) { st.put t j p .nothing with lock := none }
  | openRead {st t j f k} : st.threads t = some (j, .read f k, .nothing) →
      FineStep st (.within t j) (st.put t j (.read f k) (.reading (B.openRead f)))
  | readStep {st t j f k r r'} : st.threads t = some (j, .read f k, .reading r) →
      B.readStep (S.mayFail j) f r st.object r' →
      FineStep st (.within t j) (st.put t j (.read f k) (.reading r'))
  | readResult {st t j f k r a} : st.threads t = some (j, .read f k, .reading r) →
      B.readResult r = some a → FineStep st (.within t j) (st.put t j (k a) .nothing)
  | openWrite {st t j f v k} : st.threads t = some (j, .write f v k, .nothing) →
      FineStep st (.within t j) (st.put t j (.write f v k) (.writing (B.openWrite f v)))
  | writeStep {st t j f v k w w' o'} : st.threads t = some (j, .write f v k, .writing w) →
      B.writeStep (S.mayFail j) f v w st.object w' o' → B.effected w' = B.effected w →
      FineStep st (.within t j) { st.put t j (.write f v k) (.writing w') with object := o' }
  | effect {st t j f v k w w' o'} : st.threads t = some (j, .write f v k, .writing w) →
      B.writeStep (S.mayFail j) f v w st.object w' o' → B.effected w' ≠ B.effected w →
      FineStep st (.did ⟨t, j, .write f v (.ok ())⟩)
        { st.put t j (.write f v k) (.writing w') with object := o' }
  | writeOk {st t j f v k w} : st.threads t = some (j, .write f v k, .writing w) →
      B.writeResult w = some (.ok ()) → FineStep st (.within t j) (st.put t j (k (.ok ())) .nothing)
  | writeError {st t j f v k w e} : st.threads t = some (j, .write f v k, .writing w) →
      B.writeResult w = some (.error e) →
      FineStep st (.did ⟨t, j, .write f v (.error e)⟩) (st.put t j (k (.error e)) .nothing)
  | ask {st t j q k a} : st.threads t = some (j, .ask q k, .nothing) → S.answers q a →
      FineStep st (.did ⟨t, j, .ask q (.ok a)⟩) (st.put t j (k (.ok a)) .nothing)
  | askFault {st t j q k e} : st.threads t = some (j, .ask q k, .nothing) → S.mayFail j →
      FineStep st (.did ⟨t, j, .ask q (.error e)⟩) (st.put t j (k (.error e)) .nothing)
  | finish {st t j r} : st.threads t = some (j, .ret r, .nothing) →
      FineStep st (.did ⟨t, j, .finish r⟩)
        { st with threads := Function.update st.threads t none }

/-- The threads' system, from an object as `init` says, with no thread started. -/
def Setting.fine (init : σ → Prop) :
    System (FinePool F V E Q A J ρ σ R W) (FineEvent F V E Q A J ρ) where
  init st := init st.object ∧ st.lock = none ∧ ∀ t, st.threads t = none
  step := FineStep S B

/-! ### What holds between the steps -/

/-- What is said of what a thread has under way. -/
def DoingOk (O : Outline F V σ R W) (o : σ) : Thread F V E Q A J ρ R W → Prop
  | (_, _, .nothing) => True
  | (j, .read f _, .reading r) => O.reading (S.mayFail j) f r o
  | (j, .write f v _, .writing w) => O.writing (S.mayFail j) f v w o
  | _ => False

/-- The object is as the outline says, for itself and for what every thread has under way, and every
thread is guarded. -/
structure FineInv (O : Outline F V σ R W) (st : FinePool F V E Q A J ρ σ R W) : Prop where
  inv : O.inv st.object
  holder : ∀ {t}, st.lock = some t → st.threads t ≠ none
  guarded : ∀ {t j p d}, st.threads t = some (j, p, d) → Guarded p (decide (st.lock = some t))
  doing : ∀ {t th}, st.threads t = some th → DoingOk S O st.object th

variable {S B} {O : Outline F V σ R W} {view : σ → Files F V}
variable {st st' : FinePool F V E Q A J ρ σ R W}

omit [DecidableEq F] in
/-- A thread goes on, and what the others have under way bears the object's change. -/
theorem FineInv.put (h : FineInv S O st) {t : Nat} {j : J} {p : Prog F V E Q A ρ} {d : Doing R W}
    (hth : st'.threads = Function.update st.threads t (some (j, p, d))) (hinv : O.inv st'.object)
    (hholder : ∀ {u}, u ≠ t → (st'.lock = some u ↔ st.lock = some u))
    (hguarded : Guarded p (decide (st'.lock = some t))) (hself : DoingOk S O st'.object (j, p, d))
    (hother : ∀ {u th}, u ≠ t → st.threads u = some th → DoingOk S O st'.object th) :
    FineInv S O st' where
  inv := hinv
  holder {u} := by
    rw [hth]
    refine (Function.forall_update_iff _ fun u x => st'.lock = some u → x ≠ none).mpr ⟨?_, ?_⟩ u
    · exact fun _ => Option.some_ne_none _
    · exact fun u hu hl => h.holder ((hholder hu).mp hl)
  guarded {u i q e} := by
    rw [hth]
    refine (Function.forall_update_iff _ fun u x => ∀ i q e, x = some (i, q, e) →
      Guarded q (decide (st'.lock = some u))).mpr ⟨?_, ?_⟩ u i q e
    · intro i q e heq
      cases heq
      exact hguarded
    · intro u hu i q e hq
      rw [decide_eq_decide.mpr (hholder hu)]
      exact h.guarded hq
  doing {u th} := by
    rw [hth]
    refine (Function.forall_update_iff _ fun u x => ∀ th, x = some th →
      DoingOk S O st'.object th).mpr ⟨?_, ?_⟩ u th
    · intro th heq
      cases heq
      exact hself
    · exact fun u hu th => hother hu

omit [DecidableEq F] in
/-- A thread goes on, lock and object staying as they are. -/
theorem FineInv.go (h : FineInv S O st) {t : Nat} {j : J} {p : Prog F V E Q A ρ} {d : Doing R W}
    (hguarded : Guarded p (decide (st.lock = some t))) (hself : DoingOk S O st.object (j, p, d)) :
    FineInv S O (st.put t j p d) :=
  h.put rfl h.inv (fun _ => Iff.rfl) hguarded hself fun _ => h.doing

/-- What another thread has under way bears a step of a write: it is no write, for want of the
lock. -/
theorem FineInv.bears (hB : CarriesOut B O view) (h : FineInv S O st) {t u : Nat} {j : J} {f : F}
    {v : V} {k : Except E Unit → Prog F V E Q A ρ} {w w' : W} {o' : σ} {th : Thread F V E Q A J ρ R W}
    (ht : st.threads t = some (j, .write f v k, .writing w))
    (hstep : B.writeStep (S.mayFail j) f v w st.object w' o') (hu : u ≠ t)
    (hth : st.threads u = some th) : DoingOk S O o' th := by
  have hwriting : O.writing (S.mayFail j) f v w st.object := h.doing ht
  have hlock : st.lock = some t := of_decide_eq_true (h.guarded ht).1
  have hdoing := h.doing hth
  match th, hdoing with
  | (_, _, .nothing), _ => exact trivial
  | (_, .read _ _, .reading _), hr => exact (hB.frame h.inv hwriting hstep hr).1
  | (_, .write _ _ _, .writing _), _ =>
      have hlock' : st.lock = some u := of_decide_eq_true (h.guarded hth).1
      exact absurd (Option.some.inj (hlock'.symm.trans hlock)) hu

/-- **The step lemma of the threads.** -/
theorem FineInv.step (hB : CarriesOut B O view) (hprog : ∀ j, Guarded (S.prog j) false)
    {e : FineEvent F V E Q A J ρ} (h : FineInv S O st) (hst : FineStep S B st e st') :
    FineInv S O st' := by
  cases hst with
  | @start t j hn =>
      have hl : st.lock ≠ some t := fun hl => h.holder hl hn
      exact h.go (decide_eq_false hl ▸ hprog j) trivial
  | @acquire t j p hp hl =>
      have hiff : ∀ {u}, u ≠ t → (some t = some u ↔ st.lock = some u) := fun hu =>
        iff_of_false (fun h' => hu (Option.some.inj h').symm) fun h' => by cases hl.symm.trans h'
      refine h.put rfl h.inv hiff ?_ trivial fun _ => h.doing
      rw [decide_eq_true rfl]
      exact (h.guarded hp).2
  | @release t j p hp hl =>
      have hiff : ∀ {u}, u ≠ t → (none = some u ↔ st.lock = some u) := fun hu =>
        iff_of_false (by simp) fun h' => hu (Option.some.inj (h'.symm.trans hl))
      exact h.put rfl h.inv hiff (h.guarded hp).2 trivial fun _ => h.doing
  | @openRead t j f k hp => exact h.go (h.guarded hp) (hB.openRead h.inv).1
  | @readStep t j f k r r' hp hr => exact h.go (h.guarded hp) (hB.readStep h.inv (h.doing hp) hr).1
  | @readResult t j f k r a hp _ => exact h.go (h.guarded hp a) trivial
  | @openWrite t j f v k hp => exact h.go (h.guarded hp) (hB.openWrite h.inv).1
  | @writeStep t j f v k w w' o' hp hw _ =>
      obtain ⟨hinv, hself, -⟩ := hB.writeStep h.inv (h.doing hp) hw
      exact h.put rfl hinv (fun _ => Iff.rfl) (h.guarded hp) hself (h.bears hB hp hw)
  | @effect t j f v k w w' o' hp hw _ =>
      obtain ⟨hinv, hself, -⟩ := hB.writeStep h.inv (h.doing hp) hw
      exact h.put rfl hinv (fun _ => Iff.rfl) (h.guarded hp) hself (h.bears hB hp hw)
  | @writeOk t j f v k w hp _ => exact h.go ((h.guarded hp).2 _) trivial
  | @writeError t j f v k w e hp _ => exact h.go ((h.guarded hp).2 _) trivial
  | @ask t j q k a hp _ => exact h.go (h.guarded hp _) trivial
  | @askFault t j q k e hp _ => exact h.go (h.guarded hp _) trivial
  | @finish t j r hp =>
      have hl : st.lock ≠ some t := of_decide_eq_false (h.guarded hp)
      have hold : ∀ {u th}, Function.update st.threads t none u = some th →
          st.threads u = some th := fun {u th} hu => by
        by_cases hut : u = t
        · subst hut
          cases (Function.update_self ..).symm.trans hu
        · exact (Function.update_of_ne hut ..).symm.trans hu
      refine ⟨h.inv, fun {u} hu => ?_, fun hq => h.guarded (hold hq), fun hth => h.doing (hold hth)⟩
      have hut : u ≠ t := fun hut => hl (hut ▸ hu)
      exact (Function.update_of_ne hut ..).trans_ne (h.holder hu)

theorem fine_inv (hB : CarriesOut B O view) (hprog : ∀ j, Guarded (S.prog j) false) {init : σ → Prop}
    (hinit : ∀ o, init o → O.inv o) {es : List (FineEvent F V E Q A J ρ)}
    (h : Run (S.fine B init) es st) : FineInv S O st := by
  refine h.invariant_state ?_ fun s e s' hs hst => hs.step hB hprog hst
  rintro st ⟨hi, hl, hth⟩
  have hnone : ∀ {t th}, st.threads t ≠ some th := fun {t th} h' => by
    cases (hth t).symm.trans h'
  refine ⟨hinit _ hi, fun h' => ?_, fun h' => absurd h' hnone, fun h' => absurd h' hnone⟩
  cases hl.symm.trans h'

/-! ### The threads where reads and writes are single steps -/

/-- Reads are not seen. -/
def Event.seen (e : Event F V E Q A J ρ) : Option (Event F V E Q A J ρ) :=
  match e.act with
  | .read _ _ => none
  | _ => some e

def FineEvent.seen : FineEvent F V E Q A J ρ → Option (Event F V E Q A J ρ)
  | .did e => e.seen
  | .within _ _ => none

/-- What a thread may be there: a write that has replaced its file is over, and a read that has found
what it returns may be. -/
def Follows (B : Backing F V E σ R W) (O : Outline F V σ R W) (o : σ) :
    Option (Thread F V E Q A J ρ R W) → Option (J × Prog F V E Q A ρ) → Prop
  | none, y => y = none
  | some (j, p, .nothing), y => y = some (j, p)
  | some (j, .read f k, .reading r), y =>
      y = some (j, .read f k) ∨ ∃ c, O.found r o = some c ∧ y = some (j, k (.ok c))
  | some (j, .write f v k, .writing w), y =>
      y = some (j, if B.effected w then k (.ok ()) else .write f v k)
  | _, _ => False

/-- The pool of threads that is shown. -/
structure Shows (B : Backing F V E σ R W) (O : Outline F V σ R W) (view : σ → Files F V)
    (st : FinePool F V E Q A J ρ σ R W) (pool : Pool F V E Q A J ρ) : Prop where
  files : pool.files = view st.object
  lock : pool.lock = st.lock
  threads : ∀ t, Follows B O st.object (st.threads t) (pool.threads t)

variable {pool pool' pool₁ : Pool F V E Q A J ρ} {t : Nat}

omit [DecidableEq F] in
/-- Looking back over a step of thread `t`. -/
theorem Shows.before (h : Shows B O view st' pool') {y : Option (J × Prog F V E Q A ρ)}
    (hothers : ∀ u, u ≠ t → ∀ z, Follows B O st'.object (st'.threads u) z →
      Follows B O st.object (st.threads u) z)
    (hself : Follows B O st.object (st.threads t) y) :
    Shows B O view st ⟨view st.object, st.lock, Function.update pool'.threads t y⟩ := by
  refine ⟨rfl, rfl, ?_⟩
  refine (Function.forall_update_iff _ fun u z => Follows B O st.object (st.threads u) z).mpr ?_
  exact ⟨hself, fun u hu => hothers u hu _ (h.threads u)⟩

omit [DecidableEq F] in
/-- What a thread that goes on is shown as. -/
theorem Shows.thread (h : Shows B O view st' pool') {x : Option (Thread F V E Q A J ρ R W)}
    {th : Nat → Option (Thread F V E Q A J ρ R W)} (hth : st'.threads = Function.update th t x) :
    Follows B O st'.object x (pool'.threads t) := by
  have ht := h.threads t
  rwa [hth, Function.update_self] at ht

end

end Programs
