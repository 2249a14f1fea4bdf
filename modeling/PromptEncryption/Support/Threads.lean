import PromptEncryption.Support.Programs
import PromptEncryption.Support.Runs

/-!
# Support — threads over shared files and a lock

Any number of threads, each running the program of a job, over shared files and one lock
(`Setting.system`).  A step is one read, one replacement of a file, one answer, or the taking or
giving back of the lock.

The lock owns a resource: while nobody holds it the files satisfy `I`.  `wp` is what a thread's
program has to meet for that, with `Φ` of its result:
* while it holds the lock the files are its own; it gives the lock back with `I` restored;
* while it does not, it writes nothing, and what it reads is what the files hold as long as no
  other thread replaces them (`Pending`, `Undisturbed`).

* `lock_rule`: where every job's program meets `wp`, every result is as `Φ` says, in every run
  whose replacements leave alone the files other threads have still to read outside the lock.
* `run_alone`: the steps of one thread, added to a run whose steps all meet a condition.
-/

namespace Programs
open Runs

/-! ### What a thread's program has to meet -/

section
variable {F V E Q : Type} {A : Q → Type} {ρ σ : Type} [DecidableEq F]

/-- The lock's resource, the answers of the outside, and whether steps may fail. -/
structure Ctx (F V E Q : Type) (A : Q → Type) where
  resource : Files F V → Prop
  answers : (q : Q) → A q → Prop
  mayFail : Prop

/-- `p` runs to a result, a lock and files as `Φ` says, from the files `s`, holding the lock or
not. -/
def wp (C : Ctx F V E Q A) :
    Prog F V E Q A ρ → (ρ → Bool → Files F V → Prop) → Bool → Files F V → Prop
  | .ret r, Φ, held, s => Φ r held s
  | .acquire p, Φ, held, _ => held = false ∧ ∀ s, C.resource s → wp C p Φ true s
  | .release p, Φ, held, s => held = true ∧ C.resource s ∧ wp C p Φ false s
  | .read f k, Φ, held, s =>
      wp C (k (.ok (s f))) Φ held s ∧ (C.mayFail → ∀ e, wp C (k (.error e)) Φ held s)
  | .write f v k, Φ, held, s =>
      held = true ∧ wp C (k (.ok ())) Φ held (Function.update s f (some v)) ∧
        (C.mayFail → ∀ e, wp C (k (.error e)) Φ held s)
  | .ask q k, Φ, held, s =>
      (∀ a, C.answers q a → wp C (k (.ok a)) Φ held s) ∧
        (C.mayFail → ∀ e, wp C (k (.error e)) Φ held s)

variable {C : Ctx F V E Q A} {Φ Ψ : ρ → Bool → Files F V → Prop} {held : Bool} {s : Files F V}

theorem wp_mono (h : ∀ r held s, Φ r held s → Ψ r held s) {p : Prog F V E Q A ρ} :
    wp C p Φ held s → wp C p Ψ held s := by
  induction p generalizing held s with
  | ret r => exact h r held s
  | acquire p ih => exact fun hp => ⟨hp.1, fun s hs => ih (hp.2 s hs)⟩
  | release p ih => exact fun hp => ⟨hp.1, hp.2.1, ih hp.2.2⟩
  | read f k ih => exact fun hp => ⟨ih _ hp.1, fun hf e => ih _ (hp.2 hf e)⟩
  | write f v k ih => exact fun hp => ⟨hp.1, ih _ hp.2.1, fun hf e => ih _ (hp.2.2 hf e)⟩
  | ask q k ih => exact fun hp => ⟨fun a ha => ih _ (hp.1 a ha), fun hf e => ih _ (hp.2 hf e)⟩

/-- **Sequencing.** -/
theorem wp_bind {p : Prog F V E Q A ρ} {k : ρ → Prog F V E Q A σ}
    {Φ : σ → Bool → Files F V → Prop} :
    wp C (p.bind k) Φ held s ↔ wp C p (fun r held s => wp C (k r) Φ held s) held s := by
  induction p generalizing held s with
  | ret r => exact Iff.rfl
  | acquire p ih => exact and_congr_right fun _ => forall₂_congr fun s _ => ih
  | release p ih => exact and_congr_right fun _ => and_congr_right fun _ => ih
  | read f h ih => exact and_congr (ih _) (forall₂_congr fun _ e => ih _)
  | write f v h ih =>
      exact and_congr_right fun _ => and_congr (ih _) (forall₂_congr fun _ e => ih _)
  | ask q h ih => exact and_congr (forall₂_congr fun a _ => ih _) (forall₂_congr fun _ e => ih _)

/-- A block that starts with what raises or returns without touching anything. -/
theorem wp_lift {α β : Type} {x : Except E α} {f : α → Body F V E Q A β}
    {Φ : Except E β → Bool → Files F V → Prop} (hok : ∀ a, x = .ok a → wp C (f a) Φ held s)
    (herror : ∀ e, x = .error e → Φ (.error e) held s) :
    wp C (lift x >>= f : Body F V E Q A β) Φ held s := by
  refine wp_bind.mpr ?_
  cases hx : x with
  | ok a => exact hok a hx
  | error e => exact herror e hx

/-- **The lock.**  A body under the lock starts from files that satisfy the resource, and leaves
such files. -/
theorem wp_withLock {α : Type} {x : Body F V E Q A α}
    {Φ : Except E α → Bool → Files F V → Prop}
    (h : ∀ s, C.resource s → wp C x (fun r held s => held = true ∧ C.resource s ∧ Φ r false s)
      true s) : wp C (withLock x) Φ false s :=
  ⟨rfl, fun s hs => wp_bind.mpr (h s hs)⟩

/-! ### Reads outside the lock -/

/-- `p` may read `f` before it next takes the lock. -/
def Pending (f : F) : Prog F V E Q A ρ → Prop
  | .ret _ => False
  | .acquire _ => False
  | .release p => Pending f p
  | .read g k => g = f ∨ ∃ a, Pending f (k a)
  | .write _ _ k => ∃ a, Pending f (k a)
  | .ask _ k => ∃ a, Pending f (k a)

/-- A program outside the lock does not see the replacement of a file it has not to read. -/
theorem wp_of_not_pending {p : Prog F V E Q A ρ} {Φ : ρ → Prop} {f : F} {v : V}
    (hp : ¬ Pending f p) (h : wp C p (fun r held _ => held = false ∧ Φ r) false s) :
    wp C p (fun r held _ => held = false ∧ Φ r) false (Function.update s f (some v)) := by
  induction p with
  | ret r => exact h
  | acquire p _ => exact h
  | release p _ => exact absurd h.1 (by simp)
  | read g k ih =>
      obtain ⟨hg, hk⟩ := not_or.mp hp
      have hk' : ∀ a, ¬ Pending f (k a) := fun a ha => hk ⟨a, ha⟩
      refine ⟨?_, fun hf e => ih _ (hk' _) (h.2 hf e)⟩
      rw [Function.update_of_ne hg]
      exact ih _ (hk' _) h.1
  | write g w k _ => exact absurd h.1 (by simp)
  | ask q k ih =>
      exact ⟨fun a ha => ih _ (fun hk => hp ⟨_, hk⟩) (h.1 a ha),
        fun hf e => ih _ (fun hk => hp ⟨_, hk⟩) (h.2 hf e)⟩

end

/-! ### Threads -/

section
variable {F V E Q : Type} {A : Q → Type} {J ρ : Type} [DecidableEq F]

/-- The jobs threads may run, what the outside answers, and whose steps may fail. -/
structure Setting (F V E Q : Type) (A : Q → Type) (J ρ : Type) where
  prog : J → Prog F V E Q A ρ
  answers : (q : Q) → A q → Prop
  mayFail : J → Prop

/-- The files, the thread that holds the lock, and what each thread has still to do. -/
structure Pool (F V E Q : Type) (A : Q → Type) (J ρ : Type) where
  files : Files F V
  lock : Option Nat
  threads : Nat → Option (J × Prog F V E Q A ρ)

/-- What a thread does in a step. -/
inductive Act (F V E Q : Type) (A : Q → Type) (ρ : Type) where
  | start
  | acquire
  | release
  | read (f : F) (a : Except E (Option V))
  | write (f : F) (v : V) (a : Except E Unit)
  | ask (q : Q) (a : Except E (A q))
  | finish (r : ρ)

structure Event (F V E Q : Type) (A : Q → Type) (J ρ : Type) where
  thread : Nat
  job : J
  act : Act F V E Q A ρ

variable (S : Setting F V E Q A J ρ)

/-- The pool after thread `t` has gone on to `p`. -/
def Pool.put (st : Pool F V E Q A J ρ) (t : Nat) (j : J) (p : Prog F V E Q A ρ) :
    Pool F V E Q A J ρ :=
  { st with threads := Function.update st.threads t (some (j, p)) }

/-- One step of one thread. -/
inductive Step : Pool F V E Q A J ρ → Event F V E Q A J ρ → Pool F V E Q A J ρ → Prop where
  | start {st t j} : st.threads t = none → Step st ⟨t, j, .start⟩ (st.put t j (S.prog j))
  | acquire {st t j p} : st.threads t = some (j, .acquire p) → st.lock = none →
      Step st ⟨t, j, .acquire⟩ { st.put t j p with lock := some t }
  | release {st t j p} : st.threads t = some (j, .release p) → st.lock = some t →
      Step st ⟨t, j, .release⟩ { st.put t j p with lock := none }
  | read {st t j f k} : st.threads t = some (j, .read f k) →
      Step st ⟨t, j, .read f (.ok (st.files f))⟩ (st.put t j (k (.ok (st.files f))))
  | readFault {st t j f k e} : st.threads t = some (j, .read f k) → S.mayFail j →
      Step st ⟨t, j, .read f (.error e)⟩ (st.put t j (k (.error e)))
  | write {st t j f v k} : st.threads t = some (j, .write f v k) →
      Step st ⟨t, j, .write f v (.ok ())⟩
        { st.put t j (k (.ok ())) with files := Function.update st.files f (some v) }
  | writeFault {st t j f v k e} : st.threads t = some (j, .write f v k) → S.mayFail j →
      Step st ⟨t, j, .write f v (.error e)⟩ (st.put t j (k (.error e)))
  | ask {st t j q k a} : st.threads t = some (j, .ask q k) → S.answers q a →
      Step st ⟨t, j, .ask q (.ok a)⟩ (st.put t j (k (.ok a)))
  | askFault {st t j q k e} : st.threads t = some (j, .ask q k) → S.mayFail j →
      Step st ⟨t, j, .ask q (.error e)⟩ (st.put t j (k (.error e)))
  | finish {st t j r} : st.threads t = some (j, .ret r) →
      Step st ⟨t, j, .finish r⟩ { st with threads := Function.update st.threads t none }

/-- The threads' system, from files as `init` says, with no thread started. -/
def Setting.system (init : Files F V → Prop) :
    System (Pool F V E Q A J ρ) (Event F V E Q A J ρ) where
  init st := init st.files ∧ st.lock = none ∧ ∀ t, st.threads t = none
  step := Step S

variable {S} in
/-- A step moves its own thread. -/
theorem Step.others {st st' : Pool F V E Q A J ρ} {e : Event F V E Q A J ρ} (h : Step S st e st')
    {u : Nat} (hu : u ≠ e.thread) : st'.threads u = st.threads u := by
  cases h with
  | _ => exact Function.update_of_ne hu _ _

variable {S} in
/-- **One thread goes on by itself**: its steps are those of a run in which every step meets `C`, where
`C` holds of its steps as long as the other threads stay where they are. -/
theorem run_alone {init : Files F V → Prop} {C : Pool F V E Q A J ρ → Event F V E Q A J ρ → Prop}
    {es es₀ : List (Event F V E Q A J ρ)} {st st' : Pool F V E Q A J ρ} {t : Nat}
    (h : Run ((S.system init).restrict C) es₀ st)
    (hpart : Run ((S.system init).startingAt st) es st') (hthread : ∀ e ∈ es, e.thread = t)
    (hC : ∀ st₁ e, e.thread = t → (∀ u, u ≠ t → st₁.threads u = st.threads u) → C st₁ e) :
    Run ((S.system init).restrict C) (es ++ es₀) st' ∧
      ∀ u, u ≠ t → st'.threads u = st.threads u := by
  induction hpart with
  | init hs =>
      obtain rfl := hs
      exact ⟨h, fun _ _ => rfl⟩
  | @step es st₁ st₂ e _ hstep ih =>
      obtain ⟨hrun, hothers⟩ := ih fun e he => hthread e (List.mem_cons_of_mem _ he)
      have ht : e.thread = t := hthread e List.mem_cons_self
      refine ⟨hrun.step ⟨hstep, hC st₁ e ht hothers⟩, fun u hu => ?_⟩
      exact (hstep.others (ht ▸ hu)).trans (hothers u hu)

/-- A step that replaces no file another thread has still to read outside the lock. -/
def Undisturbed (st : Pool F V E Q A J ρ) (e : Event F V E Q A J ρ) : Prop :=
  ∀ f v, e.act = .write f v (.ok ()) →
    ∀ t j p, t ≠ e.thread → st.threads t = some (j, p) → ¬ Pending f p

/-! ### The rule -/

/-- The context of a job. -/
def Setting.ctx (I : Files F V → Prop) (j : J) : Ctx F V E Q A := ⟨I, S.answers, S.mayFail j⟩

/-- A thread ends without the lock and with a result as `Φ` says. -/
def Ends (Φ : ρ → Prop) (r : ρ) (held : Bool) (_ : Files F V) : Prop := held = false ∧ Φ r

variable {S} {I : Files F V → Prop} {Φ : J → ρ → Prop}

/-- The free lock owns the resource, a thread holds a lock that is not free, and every thread goes
on as its program has to. -/
structure PoolInv (S : Setting F V E Q A J ρ) (I : Files F V → Prop) (Φ : J → ρ → Prop)
    (st : Pool F V E Q A J ρ) : Prop where
  free : st.lock = none → I st.files
  holder : ∀ {t}, st.lock = some t → st.threads t ≠ none
  threads : ∀ {t j p}, st.threads t = some (j, p) →
    wp (S.ctx I j) p (Ends (Φ j)) (decide (st.lock = some t)) st.files

/-- A thread goes on to `p`, and the others can go on from the new lock and files. -/
theorem PoolInv.put {st st' : Pool F V E Q A J ρ} {t : Nat} {j : J} {p : Prog F V E Q A ρ}
    (hth : st'.threads = Function.update st.threads t (some (j, p)))
    (hfree : st'.lock = none → I st'.files)
    (hholder : ∀ {u}, u ≠ t → st'.lock = some u → st.threads u ≠ none)
    (hself : wp (S.ctx I j) p (Ends (Φ j)) (decide (st'.lock = some t)) st'.files)
    (hother : ∀ {u i q}, u ≠ t → st.threads u = some (i, q) →
      wp (S.ctx I i) q (Ends (Φ i)) (decide (st'.lock = some u)) st'.files) :
    PoolInv S I Φ st' where
  free := hfree
  holder {u} := by
    rw [hth]
    refine (Function.forall_update_iff _ fun u x => st'.lock = some u → x ≠ none).mpr ⟨?_, ?_⟩ u
    · exact fun _ => Option.some_ne_none _
    · exact fun u hu => hholder hu
  threads {u i q} := by
    rw [hth]
    refine (Function.forall_update_iff _ fun u x => ∀ i q, x = some (i, q) →
      wp (S.ctx I i) q (Ends (Φ i)) (decide (st'.lock = some u)) st'.files).mpr ⟨?_, ?_⟩ u i q
    · intro i q h
      cases h
      exact hself
    · exact fun u hu i q => hother hu

/-- A thread goes on to `p`, lock and files staying as they are. -/
theorem PoolInv.go {st : Pool F V E Q A J ρ} {t : Nat} {j : J} {p : Prog F V E Q A ρ}
    (h : PoolInv S I Φ st)
    (hself : wp (S.ctx I j) p (Ends (Φ j)) (decide (st.lock = some t)) st.files) :
    PoolInv S I Φ (st.put t j p) :=
  .put rfl h.free (fun _ => h.holder) hself fun _ => h.threads

/-- **The step lemma of threads.** -/
theorem PoolInv.step (hprog : ∀ j s, wp (S.ctx I j) (S.prog j) (Ends (Φ j)) false s)
    {st st' : Pool F V E Q A J ρ} {e : Event F V E Q A J ρ} (h : PoolInv S I Φ st)
    (hst : Step S st e st') (hund : Undisturbed st e) : PoolInv S I Φ st' := by
  cases hst with
  | @start t j hn =>
      have hl : decide (st.lock = some t) = false :=
        decide_eq_false fun hl => h.holder hl hn
      exact h.go (hl ▸ hprog j st.files)
  | @acquire t j p hp hl =>
      -- the lock was free, so the files satisfy the resource
      have hI := h.free hl
      refine .put rfl (fun h' => by cases h') (fun hu h' => absurd (Option.some.inj h') (Ne.symm hu))
        ?_ fun {u i q} hu hq => ?_
      · have hself := (h.threads hp).2 st.files hI
        rwa [decide_eq_true rfl]
      · have hother := h.threads hq
        rw [hl] at hother
        rwa [decide_eq_false fun h' => hu (Option.some.inj h').symm]
  | @release t j p hp hl =>
      -- the thread gives the resource back
      obtain ⟨-, hI, hself⟩ := h.threads hp
      refine .put rfl (fun _ => hI) (fun _ h' => by cases h') hself fun {u i q} hu hq => ?_
      have hother := h.threads hq
      rwa [hl, decide_eq_false fun h' => hu (Option.some.inj h').symm] at hother
  | @read t j f k hp => exact h.go (h.threads hp).1
  | @readFault t j f k e hp hf => exact h.go ((h.threads hp).2 hf e)
  | @write t j f v k hp =>
      obtain ⟨hheld, hself, -⟩ := h.threads hp
      have hl : st.lock = some t := of_decide_eq_true hheld
      refine .put rfl (fun h' => absurd (hl.symm.trans h') (by simp)) (fun _ => h.holder) hself
        fun {u i q} hu hq => ?_
      -- the other thread is outside the lock, and has not to read `f` there
      have hother := h.threads hq
      have hout : decide (st.lock = some u) = false :=
        decide_eq_false fun h' => hu (Option.some.inj (h'.symm.trans hl))
      change wp (S.ctx I i) q (Ends (Φ i)) (decide (st.lock = some u)) _
      rw [hout] at hother ⊢
      exact wp_of_not_pending (hund f v rfl u i q hu hq) hother
  | @writeFault t j f v k e hp hf => exact h.go ((h.threads hp).2.2 hf e)
  | @ask t j q k a hp ha => exact h.go ((h.threads hp).1 a ha)
  | @askFault t j q k e hp hf => exact h.go ((h.threads hp).2 hf e)
  | @finish t j r hp =>
      -- a thread ends without the lock, so the lock's holder is still there
      have hl : st.lock ≠ some t := of_decide_eq_false (h.threads hp).1
      refine ⟨h.free, fun {u} => ?_, fun {u i q} => ?_⟩
      · refine (Function.forall_update_iff _ fun u x => st.lock = some u → x ≠ none).mpr ⟨?_, ?_⟩ u
        · exact fun h' => absurd h' hl
        · exact fun u _ => h.holder
      · refine (Function.forall_update_iff _ fun u x => ∀ i q, x = some (i, q) →
          wp (S.ctx I i) q (Ends (Φ i)) (decide (st.lock = some u)) st.files).mpr ⟨?_, ?_⟩ u i q
        · exact fun i q hq => by cases hq
        · exact fun u _ i q => h.threads

/-- **The rule of the lock.**  In every run whose replacements leave alone the files other threads
have still to read outside the lock, every result is as `Φ` says. -/
theorem lock_rule {init : Files F V → Prop} (hinit : ∀ s, init s → I s)
    (hprog : ∀ j s, wp (S.ctx I j) (S.prog j) (Ends (Φ j)) false s)
    {es : List (Event F V E Q A J ρ)} {st : Pool F V E Q A J ρ}
    (h : Run ((S.system init).restrict Undisturbed) es st) :
    PoolInv S I Φ st ∧ ∀ e ∈ es, ∀ r, e.act = .finish r → Φ e.job r := by
  refine h.invariant (P := fun es st => PoolInv S I Φ st ∧
    ∀ e ∈ es, ∀ r, e.act = .finish r → Φ e.job r) ?_ ?_
  · intro st h₀
    obtain ⟨hi, hl, hth⟩ := h₀
    exact ⟨⟨fun _ => hinit _ hi, fun h' => absurd (hl.symm.trans h') (by simp),
      fun {t j p} h' => absurd ((hth t).symm.trans h') (by simp)⟩, fun e he => absurd he (by simp)⟩
  · rintro es st e st' - ⟨hinv, hres⟩ ⟨hst, hund⟩
    refine ⟨hinv.step hprog hst hund, ?_⟩
    intro e' he' r hr
    rcases List.mem_cons.mp he' with rfl | he'
    · cases hst with
      | finish hp => cases hr; exact (hinv.threads hp).2
      | _ => cases hr
    · exact hres e' he' r hr

end

end Programs
