import PromptEncryption.Support.Ledgers

/-!
# Support — processes that fork

A process has a lock of its own and the threads that use it (`Process`); the files are shared by all
processes (`Fleet`).  Process 0 forks the others: the new process has a copy of the lock, taken or
not, and none of the threads (`FleetStep`).

A lock that was taken at the fork is taken in the new process by nobody, and stays so.

* `orphaned_iff`: the processes whose lock is held by none of their threads are those forked while
  the lock was taken.
* `exists_acquires`: in every other process a thread that asks for the lock can get it.
-/

namespace Programs
open Runs

section
variable {F V E Q : Type} {A : Q → Type} {J ρ : Type} [DecidableEq F]

/-! ### Programs that give back the lock -/

/-- The program gives back the lock it takes, and ends without it. -/
def Disciplined : Prog F V E Q A ρ → (held : Bool) → Prop
  | .ret _, held => held = false
  | .acquire p, held => held = false ∧ Disciplined p true
  | .release p, held => held = true ∧ Disciplined p false
  | .read _ k, held => ∀ a, Disciplined (k a) held
  | .write _ _ k, held => ∀ a, Disciplined (k a) held
  | .ask _ k, held => ∀ a, Disciplined (k a) held

/-- The program leaves the lock alone. -/
def LockFree : Prog F V E Q A ρ → Prop
  | .ret _ => True
  | .acquire _ => False
  | .release _ => False
  | .read _ k => ∀ a, LockFree (k a)
  | .write _ _ k => ∀ a, LockFree (k a)
  | .ask _ k => ∀ a, LockFree (k a)

omit [DecidableEq F] in
theorem LockFree.bind {σ : Type} {p : Prog F V E Q A ρ} {k : ρ → Prog F V E Q A σ}
    (hp : LockFree p) (hk : ∀ r, LockFree (k r)) : LockFree (p.bind k) := by
  induction p with
  | ret r => exact hk r
  | acquire p _ => exact hp.elim
  | release p _ => exact hp.elim
  | read f h ih => exact fun a => ih a (hp a)
  | write f v h ih => exact fun a => ih a (hp a)
  | ask q h ih => exact fun a => ih a (hp a)

omit [DecidableEq F] in
theorem disciplined_underLock {p : Prog F V E Q A ρ} (hp : LockFree p) :
    Disciplined (underLock p) true := by
  induction p with
  | ret r => exact ⟨rfl, rfl⟩
  | acquire p _ => exact hp.elim
  | release p _ => exact hp.elim
  | read f h ih => exact fun a => ih a (hp a)
  | write f v h ih => exact fun a => ih a (hp a)
  | ask q h ih => exact fun a => ih a (hp a)

/-- A body that leaves the lock alone. -/
def LockFreeBody {α : Type} (x : Body F V E Q A α) : Prop := LockFree x

namespace LockFreeBody
omit [DecidableEq F]
variable {α β : Type}

theorem bind {x : Body F V E Q A α} {f : α → Body F V E Q A β} (hx : LockFreeBody x)
    (hf : ∀ a, LockFreeBody (f a)) : LockFreeBody (x >>= f) :=
  LockFree.bind hx fun r => by
    cases r with
    | ok a => exact hf a
    | error e => exact trivial

theorem lift (r : Except E α) : LockFreeBody (lift r : Body F V E Q A α) := trivial

theorem ask (q : Q) : LockFreeBody (ask q : Body F V E Q A (A q)) := fun _ => trivial

theorem readRaw (f : F) : LockFreeBody (readRaw f : Body F V E Q A (Option V)) := fun _ => trivial

theorem replace (f : F) (v : V) : LockFreeBody (replace f v : Body F V E Q A Unit) :=
  fun _ => trivial

theorem tryCatch {x : Body F V E Q A α} {h : E → Body F V E Q A α} (hx : LockFreeBody x)
    (hh : ∀ e, LockFreeBody (h e)) : LockFreeBody (tryCatch x h) :=
  LockFree.bind hx fun r => by
    cases r with
    | ok a => exact trivial
    | error e => exact hh e

/-- A body under the lock, its result handed on, is disciplined. -/
theorem disciplined {g : Except E α → ρ} {x : Body F V E Q A α} (hx : LockFreeBody x) :
    Disciplined (Prog.map g (withLock x)) false := by
  rw [map_withLock]
  exact ⟨rfl, disciplined_underLock (LockFree.bind (p := x) hx fun _ => trivial)⟩

end LockFreeBody

/-! ### Processes -/

/-- A process: the thread that holds its lock, and what its threads have still to do. -/
structure Process (F V E Q : Type) (A : Q → Type) (J ρ : Type) where
  lock : Option Nat
  threads : Nat → Option (J × Prog F V E Q A ρ)

/-- The processes, and the files they share. -/
structure Fleet (F V E Q : Type) (A : Q → Type) (J ρ : Type) where
  files : Files F V
  processes : Nat → Option (Process F V E Q A J ρ)

/-- A process and the shared files, as a pool of threads. -/
def Process.pool (pr : Process F V E Q A J ρ) (files : Files F V) : Pool F V E Q A J ρ :=
  ⟨files, pr.lock, pr.threads⟩

def Pool.process (st : Pool F V E Q A J ρ) : Process F V E Q A J ρ := ⟨st.lock, st.threads⟩

inductive FleetEvent (F V E Q : Type) (A : Q → Type) (J ρ : Type) where
  /-- A thread of process `p` takes a step. -/
  | run (p : Nat) (e : Event F V E Q A J ρ)
  /-- Process 0 forks process `child`, which starts with the lock as it is. -/
  | fork (child : Nat) (lock : Option Nat)

/-- What the threads of the processes may run. -/
abbrev Roles (J : Type) := (p thread : Nat) → J → Prop

variable (S : Setting F V E Q A J ρ) (R : Roles J)

inductive FleetStep :
    Fleet F V E Q A J ρ → FleetEvent F V E Q A J ρ → Fleet F V E Q A J ρ → Prop where
  | run {st p pr e pool} : st.processes p = some pr → (e.act = .start → R p e.thread e.job) →
      Step S (pr.pool st.files) e pool →
      FleetStep st (.run p e) ⟨pool.files, Function.update st.processes p (some pool.process)⟩
  | fork {st c pr} : st.processes 0 = some pr → st.processes c = none →
      FleetStep st (.fork c pr.lock)
        { st with processes := Function.update st.processes c (some ⟨pr.lock, fun _ => none⟩) }

/-- The processes' system: process 0, with no thread, over files as `init` says. -/
def Setting.fleet (init : Files F V → Prop) :
    System (Fleet F V E Q A J ρ) (FleetEvent F V E Q A J ρ) where
  init st := init st.files ∧ st.processes 0 = some ⟨none, fun _ => none⟩ ∧
    ∀ p, p ≠ 0 → st.processes p = none
  step := FleetStep S R

/-- The lock of process `p` is held, and by none of its threads. -/
def Orphaned (st : Fleet F V E Q A J ρ) (p : Nat) : Prop :=
  ∃ pr t, st.processes p = some pr ∧ pr.lock = some t ∧ pr.threads t = none

/-! ### What a step does -/

variable {S R} {st st' : Pool F V E Q A J ρ} {e : Event F V E Q A J ρ}

/-- The lock is taken where it is free, and given back by its holder. -/
theorem Step.lock_cases (h : Step S st e st') :
    (st.lock = none ∧ st'.lock = some e.thread ∧ st'.threads e.thread ≠ none) ∨
      (st.lock = some e.thread ∧ st.threads e.thread ≠ none ∧ st'.lock = none) ∨
      st'.lock = st.lock := by
  cases h with
  | acquire hp hl => exact .inl ⟨hl, rfl, by simp [Pool.put]⟩
  | release hp hl => exact .inr (.inl ⟨hl, by rw [hp]; simp, rfl⟩)
  | _ => exact .inr (.inr rfl)

/-- Only a thread that is there takes a step other than its start. -/
theorem Step.active (h : Step S st e st') (he : e.act ≠ .start) : st.threads e.thread ≠ none := by
  cases h with
  | start _ => exact absurd rfl he
  | acquire hp _ => rw [hp]; simp
  | release hp _ => rw [hp]; simp
  | read hp => rw [hp]; simp
  | readFault hp _ => rw [hp]; simp
  | write hp => rw [hp]; simp
  | writeFault hp _ => rw [hp]; simp
  | ask hp _ => rw [hp]; simp
  | askFault hp _ => rw [hp]; simp
  | finish hp => rw [hp]; simp

/-- What is asked of the thread that takes a step: its job may run, and its program is
disciplined. -/
def Sane (R : Roles J) (p : Nat) (st : Pool F V E Q A J ρ) (t : Nat) : Prop :=
  ∀ j q, st.threads t = some (j, q) → R p t j ∧ Disciplined q (decide (st.lock = some t))

omit [DecidableEq F] in
/-- A thread that goes on is where its program took it. -/
theorem sane_put {p t : Nat} {j : J} {q : Prog F V E Q A ρ} (hR : R p t j)
    (hth : st.threads t = some (j, q)) (hq : Disciplined q (decide (st.lock = some t))) :
    Sane R p st t := by
  intro i q' h
  cases hth.symm.trans h
  exact ⟨hR, hq⟩

/-- **A step keeps threads disciplined.** -/
theorem Step.sane (hprog : ∀ j, Disciplined (S.prog j) false) (h : Step S st e st') {p : Nat}
    (hstart : e.act = .start → R p e.thread e.job ∧ st.lock ≠ some e.thread)
    (hsane : ∀ t, Sane R p st t) (t : Nat) : Sane R p st' t := by
  by_cases ht : t = e.thread
  · subst ht
    cases h with
    | start _ =>
        obtain ⟨hR, hl⟩ := hstart rfl
        refine sane_put hR (Function.update_self ..) ?_
        rw [Pool.put, decide_eq_false hl]
        exact hprog _
    | acquire hp _ =>
        obtain ⟨hR, -, hq⟩ := hsane _ _ _ hp
        exact sane_put hR (Function.update_self ..) (by rwa [decide_eq_true rfl])
    | release hp _ =>
        obtain ⟨hR, -, hq⟩ := hsane _ _ _ hp
        exact sane_put hR (Function.update_self ..) hq
    | read hp => exact sane_put (hsane _ _ _ hp).1 (Function.update_self ..) ((hsane _ _ _ hp).2 _)
    | readFault hp _ =>
        exact sane_put (hsane _ _ _ hp).1 (Function.update_self ..) ((hsane _ _ _ hp).2 _)
    | write hp => exact sane_put (hsane _ _ _ hp).1 (Function.update_self ..) ((hsane _ _ _ hp).2 _)
    | writeFault hp _ =>
        exact sane_put (hsane _ _ _ hp).1 (Function.update_self ..) ((hsane _ _ _ hp).2 _)
    | ask hp _ => exact sane_put (hsane _ _ _ hp).1 (Function.update_self ..) ((hsane _ _ _ hp).2 _)
    | askFault hp _ =>
        exact sane_put (hsane _ _ _ hp).1 (Function.update_self ..) ((hsane _ _ _ hp).2 _)
    | finish _ =>
        intro j q hq
        cases (Function.update_self ..).symm.trans hq
  · -- the lock is not handed to or taken from another thread
    intro j q hq
    rw [h.others ht] at hq
    have hlock : (st'.lock = some t) ↔ st.lock = some t := by
      have hne : some e.thread ≠ some t := fun h' => ht (Option.some.inj h').symm
      rcases h.lock_cases with ⟨hl, hl', -⟩ | ⟨hl, -, hl'⟩ | hl'
      · rw [hl, hl']
        exact ⟨fun h' => absurd h' hne, fun h' => (by cases h')⟩
      · rw [hl, hl']
        exact ⟨fun h' => (by cases h'), fun h' => absurd h' hne⟩
      · rw [hl']
    rw [decide_eq_decide.mpr hlock]
    exact hsane t j q hq

/-! ### Processes whose lock nobody holds -/

/-- The threads of process `p` are disciplined, and a lock none of them holds was held at the
fork. -/
structure Sound (R : Roles J) (es : List (FleetEvent F V E Q A J ρ)) (p : Nat)
    (st : Pool F V E Q A J ρ) : Prop where
  sane : ∀ t, Sane R p st t
  held : ∀ {t}, st.lock = some t → st.threads t ≠ none ∨ .fork p (some t) ∈ es
  forked : ∀ {t}, .fork p (some t) ∈ es →
    st.lock = some t ∧ st.threads t = none ∧ p ≠ 0 ∧ ∃ j, R 0 t j

omit [DecidableEq F] in
theorem Sound.mono {es : List (FleetEvent F V E Q A J ρ)} {p : Nat} (h : Sound R es p st)
    {e : FleetEvent F V E Q A J ρ} (he : ∀ t, e ≠ .fork p (some t)) : Sound R (e :: es) p st where
  sane := h.sane
  held hl := (h.held hl).imp_right (List.mem_cons_of_mem _)
  forked hf := by
    rcases List.mem_cons.mp hf with hf | hf
    · exact absurd hf.symm (he _)
    · exact h.forked hf

/-- A step of a thread of the process. -/
theorem Sound.step (hprog : ∀ j, Disciplined (S.prog j) false)
    (hroles : ∀ p t j i, p ≠ 0 → R p t j → ¬ R 0 t i) {es : List (FleetEvent F V E Q A J ρ)}
    {p : Nat} (h : Sound R es p st) (hR : e.act = .start → R p e.thread e.job)
    (hst : Step S st e st') : Sound R (.run p e :: es) p st' := by
  have hstart : e.act = .start → R p e.thread e.job ∧ st.lock ≠ some e.thread := by
    intro he
    refine ⟨hR he, fun hl => ?_⟩
    rcases h.held hl with hth | hf
    · cases hst with
      | start hn => exact hth hn
      | _ => cases he
    · obtain ⟨-, -, hp, i, hi⟩ := h.forked hf
      exact hroles p _ _ i hp (hR he) hi
  have hsane := hst.sane hprog hstart h.sane
  refine Sound.mono ⟨hsane, fun {t} hl => ?_, fun {t} hf => ?_⟩ (by simp)
  · rcases hst.lock_cases with ⟨-, hl', hth⟩ | ⟨-, -, hl'⟩ | hl'
    · cases hl'.symm.trans hl
      exact .inl hth
    · cases hl'.symm.trans hl
    · rcases h.held (hl'.symm.trans hl) with hth | hf
      · by_cases ht : t = e.thread
        · -- a thread that holds the lock does not end
          subst ht
          refine .inl fun hn => ?_
          cases hst with
          | finish hp =>
              have hfree : decide (st.lock = some _) = false := (h.sane _ _ _ hp).2
              exact of_decide_eq_false hfree (hl'.symm.trans hl)
          | _ => exact absurd ((Function.update_self ..).symm.trans hn) (by simp)
        · rw [hst.others ht]
          exact .inl hth
      · exact .inr hf
  · -- the thread that held the lock at the fork is not there, and never starts
    obtain ⟨hl, hn, hp, hj⟩ := h.forked hf
    have ht : t ≠ e.thread := by
      rintro rfl
      by_cases he : e.act = .start
      · exact (hstart he).2 hl
      · exact hst.active he hn
    refine ⟨?_, (hst.others ht).trans hn, hp, hj⟩
    rcases hst.lock_cases with ⟨hl', -, -⟩ | ⟨hl', -, -⟩ | hl'
    · cases hl.symm.trans hl'
    · exact absurd (Option.some.inj (hl.symm.trans hl')) ht
    · exact hl'.trans hl

/-- Every process is sound, and a process that was forked is there. -/
structure FleetSound (R : Roles J) (es : List (FleetEvent F V E Q A J ρ))
    (fl : Fleet F V E Q A J ρ) : Prop where
  sound : ∀ {p pr}, fl.processes p = some pr → Sound R es p (pr.pool fl.files)
  master : fl.processes 0 ≠ none
  forked : ∀ {c l}, .fork c l ∈ es → fl.processes c ≠ none

omit [DecidableEq F] in
/-- What a process is like does not depend on the files. -/
theorem Sound.files {es : List (FleetEvent F V E Q A J ρ)} {p : Nat} {pr : Process F V E Q A J ρ}
    {files files' : Files F V} (h : Sound R es p (pr.pool files)) :
    Sound R es p (pr.pool files') := ⟨h.sane, h.held, h.forked⟩

variable {fl fl' : Fleet F V E Q A J ρ} {fe : FleetEvent F V E Q A J ρ}
  {es : List (FleetEvent F V E Q A J ρ)}

theorem FleetSound.step (hprog : ∀ j, Disciplined (S.prog j) false)
    (hroles : ∀ p t j i, p ≠ 0 → R p t j → ¬ R 0 t i) (h : FleetSound R es fl)
    (hst : FleetStep S R fl fe fl') : FleetSound R (fe :: es) fl' := by
  cases hst with
  | @run p pr e pool hpr hR hstep =>
      refine ⟨fun {q pr'} hq => ?_, ?_, fun {c l} hc => ?_⟩
      · by_cases hqp : q = p
        · subst hqp
          cases (Function.update_self ..).symm.trans hq
          exact (h.sound hpr).step hprog hroles hR hstep
        · exact ((h.sound ((Function.update_of_ne hqp ..).symm.trans hq)).mono (by simp)).files
      · by_cases h0 : 0 = p
        · subst h0; simp
        · simp [Function.update_of_ne h0, h.master]
      · have hc' : fl.processes c ≠ none := h.forked ((List.mem_cons.mp hc).resolve_left (by simp))
        by_cases hcp : c = p
        · subst hcp; simp
        · simp [Function.update_of_ne hcp, hc']
  | @fork c pr hpr hc =>
      have hne : c ≠ 0 := fun h0 => by rw [h0, hpr] at hc; cases hc
      refine ⟨fun {q pr'} hq => ?_, ?_, fun {c' l} hc' => ?_⟩
      · by_cases hqc : q = c
        · subst hqc
          cases (Function.update_self ..).symm.trans hq
          refine ⟨fun t j q h' => (by cases h'), fun hl => ?_, fun {t} hf => ?_⟩
          · exact .inr (List.mem_cons.mpr (.inl (congrArg _ hl.symm)))
          · rcases List.mem_cons.mp hf with hf | hf
            · -- the holder is a thread of process 0
              have hl : pr.lock = some t := (FleetEvent.fork.inj hf).2.symm
              refine ⟨hl, rfl, hne, ?_⟩
              rcases (h.sound hpr).held hl with hth | h0
              · obtain ⟨⟨j, p⟩, hjp⟩ := Option.ne_none_iff_exists'.mp hth
                exact ⟨j, ((h.sound hpr).sane t j p hjp).1⟩
              · exact absurd rfl ((h.sound hpr).forked h0).2.2.1
            · exact absurd hc (h.forked hf)
        · refine (h.sound ((Function.update_of_ne hqc ..).symm.trans hq)).mono ?_
          exact fun t h' => hqc (FleetEvent.fork.inj h').1.symm
      · simp [Function.update_of_ne hne.symm, h.master]
      · by_cases hcc : c' = c
        · subst hcc; simp
        · have hmem := (List.mem_cons.mp hc').resolve_left (by simp [hcc])
          simp [Function.update_of_ne hcc, h.forked hmem]

theorem fleet_sound (hprog : ∀ j, Disciplined (S.prog j) false)
    (hroles : ∀ p t j i, p ≠ 0 → R p t j → ¬ R 0 t i) {init : Files F V → Prop}
    (h : Run (S.fleet R init) es fl) : FleetSound R es fl := by
  refine h.invariant (P := FleetSound R) ?_ fun es s e s' _ hs hst => hs.step hprog hroles hst
  rintro fl ⟨-, h0, hnone⟩
  refine ⟨fun {p pr} hp => ?_, by rw [h0]; simp, fun hc => absurd hc List.not_mem_nil⟩
  by_cases hp0 : p = 0
  · subst hp0
    cases h0.symm.trans hp
    exact ⟨fun t j q h' => (by cases h'), fun hl => (by cases hl),
      fun hf => absurd hf List.not_mem_nil⟩
  · cases (hnone p hp0).symm.trans hp

/-- **Orphaned locks.**  In every run, the processes whose lock is held by none of their threads are
those forked while process 0 held its own. -/
theorem orphaned_iff (hprog : ∀ j, Disciplined (S.prog j) false)
    (hroles : ∀ p t j i, p ≠ 0 → R p t j → ¬ R 0 t i) {init : Files F V → Prop}
    (h : Run (S.fleet R init) es fl) (p : Nat) :
    Orphaned fl p ↔ ∃ t, .fork p (some t) ∈ es := by
  have hsound := fleet_sound hprog hroles h
  constructor
  · rintro ⟨pr, t, hpr, hl, hn⟩
    exact ⟨t, ((hsound.sound hpr).held hl).resolve_left fun hth => hth hn⟩
  · rintro ⟨t, hf⟩
    obtain ⟨pr, hpr⟩ := Option.ne_none_iff_exists'.mp (hsound.forked hf)
    obtain ⟨hl, hn, -⟩ := (hsound.sound hpr).forked hf
    exact ⟨pr, t, hpr, hl, hn⟩

/-! ### Processes whose lock can be had -/

/-- From the run, by steps of process `p` alone, its lock is free with thread `u` where it was. -/
def CanAcquire (S : Setting F V E Q A J ρ) (R : Roles J) (init : Files F V → Prop)
    (es : List (FleetEvent F V E Q A J ρ)) (p u : Nat) (waiting : J × Prog F V E Q A ρ) : Prop :=
  ∃ es' fl' pr', Run (S.fleet R init) (es' ++ es) fl' ∧ (∀ e ∈ es', ∃ a, e = .run p a) ∧
    fl'.processes p = some pr' ∧ pr'.lock = none ∧ pr'.threads u = some waiting

theorem CanAcquire.of_step {init : Files F V → Prop} {p u : Nat} {w : J × Prog F V E Q A ρ}
    (h : CanAcquire S R init (.run p e :: es) p u w) : CanAcquire S R init es p u w := by
  obtain ⟨es', fl', pr', hrun, hes', hpr', hl, hw⟩ := h
  refine ⟨es' ++ [.run p e], fl', pr', by rwa [List.append_assoc], ?_, hpr', hl, hw⟩
  exact List.forall_mem_append.mpr ⟨hes', List.forall_mem_singleton.mpr ⟨e, rfl⟩⟩

/-- A thread that holds the lock can go on until it has given it back. -/
theorem canAcquire_of_holder [Nonempty E] (hlive : ∀ j q, S.mayFail j ∨ ∃ a, S.answers q a)
    {init : Files F V → Prop} {p t u : Nat} {j : J} {w : J × Prog F V E Q A ρ} (hu : u ≠ t)
    {q : Prog F V E Q A ρ} {pr : Process F V E Q A J ρ} (h : Run (S.fleet R init) es fl)
    (hpr : fl.processes p = some pr) (hl : pr.lock = some t) (ht : pr.threads t = some (j, q))
    (hw : pr.threads u = some w) (hq : Disciplined q true) : CanAcquire S R init es p u w := by
  -- induction on what the holder has still to do
  induction q generalizing fl es pr with
  | ret r => cases hq
  | acquire q _ => cases hq.1
  | release q _ =>
      have hstep := FleetStep.run (S := S) (R := R) hpr (by simp) (.release (t := t) (j := j) ht hl)
      exact ⟨[.run p _], _, _, h.step hstep, List.forall_mem_singleton.mpr ⟨_, rfl⟩,
        Function.update_self .., rfl, (Function.update_of_ne hu ..).trans hw⟩
  | read f k ih =>
      have hstep := FleetStep.run (S := S) (R := R) hpr (by simp) (.read (t := t) (j := j) ht)
      exact (ih _ (h.step hstep) (Function.update_self ..) hl (Function.update_self ..)
        ((Function.update_of_ne hu ..).trans hw) (hq _)).of_step
  | write f v k ih =>
      have hstep := FleetStep.run (S := S) (R := R) hpr (by simp) (.write (t := t) (j := j) ht)
      exact (ih _ (h.step hstep) (Function.update_self ..) hl (Function.update_self ..)
        ((Function.update_of_ne hu ..).trans hw) (hq _)).of_step
  | ask x k ih =>
      rcases hlive j x with hf | ⟨a, ha⟩
      · have hstep := FleetStep.run (S := S) (R := R) hpr (by simp)
          (.askFault (t := t) (j := j) (e := Classical.arbitrary E) ht hf)
        exact (ih _ (h.step hstep) (Function.update_self ..) hl (Function.update_self ..)
          ((Function.update_of_ne hu ..).trans hw) (hq _)).of_step
      · have hstep := FleetStep.run (S := S) (R := R) hpr (by simp) (.ask (t := t) (j := j) ht ha)
        exact (ih _ (h.step hstep) (Function.update_self ..) hl (Function.update_self ..)
          ((Function.update_of_ne hu ..).trans hw) (hq _)).of_step

/-- **The lock can be had.**  In every run, a thread that asks for a lock that is not orphaned can get
it: its process can go on until the lock is free. -/
theorem exists_acquires [Nonempty E] (hprog : ∀ j, Disciplined (S.prog j) false)
    (hroles : ∀ p t j i, p ≠ 0 → R p t j → ¬ R 0 t i)
    (hlive : ∀ j q, S.mayFail j ∨ ∃ a, S.answers q a) {init : Files F V → Prop}
    (h : Run (S.fleet R init) es fl) {p u : Nat} (hp : ¬ Orphaned fl p)
    {pr : Process F V E Q A J ρ} (hpr : fl.processes p = some pr) {j : J} {q : Prog F V E Q A ρ}
    (hu : pr.threads u = some (j, .acquire q)) :
    CanAcquire S R init es p u (j, .acquire q) := by
  have hsound := (fleet_sound hprog hroles h).sound hpr
  cases hl : pr.lock with
  | none => exact ⟨[], fl, pr, h, fun e he => absurd he List.not_mem_nil, hpr, hl, hu⟩
  | some t =>
      cases ht : pr.threads t with
      | none => exact absurd ⟨pr, t, hpr, hl, ht⟩ hp
      | some iq =>
          obtain ⟨i, q'⟩ := iq
          have hq' : Disciplined q' (decide (pr.lock = some t)) := (hsound.sane t i q' ht).2
          rw [decide_eq_true hl] at hq'
          refine canAcquire_of_holder hlive ?_ h hpr hl ht hu hq'
          -- the thread that asks does not hold the lock
          rintro rfl
          cases ht.symm.trans hu
          cases hq'.1

end

end Programs
