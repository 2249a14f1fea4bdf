import Mathlib.Data.DFinsupp.WellFounded
import PromptEncryption.Support.Procedures

/-!
# Support — threads that come to their ends

The threads of `Procedures.lean`, once no new job is started (`GoesOn`).  The steps of a read or a
write have to bring it nearer its end (`readLeft`, `writeLeft`), and no step of another thread may put
it back (`Shortens`); and until it has its result, it has to be able to go on without a fault
(`Concludes`).

* `comes_to_stop`: however the threads take turns and whatever fails, they stop.  A step lowers what is
  left to one thread, its program first and then the read or write under way, and no other's.
* `FineInv.exists_goesOn`: while some thread is left, one can go on without a fault; where the lock is
  held, its holder.
* `comes_to_rest`: so every run can be brought to where no thread is left and nobody holds the lock.
* `exists_fine`: a read or a write can take its steps in a row, so without faults the threads also do
  all that they do where reads and writes are single steps.
-/

namespace Programs
open Runs

/-! ### One of many is lowered -/

/-- One place is lowered, and the others stay. -/
def LowersOne {ι α : Type*} (r : α → α → Prop) (x y : ι → α) : Prop :=
  ∃ i, r (x i) (y i) ∧ ∀ j, j ≠ i → x j = y j

theorem lowersOne_wf {α : Type*} {r : α → α → Prop} (hr : WellFounded r) (n : Nat) :
    WellFounded (LowersOne (ι := Fin n) r) := by
  refine (Pi.Lex.wellFounded (· < ·) fun _ => hr).mono ?_
  rintro x y ⟨i, hi, hothers⟩
  exact ⟨i, fun j hj => hothers j hj.ne, hi⟩

section
variable {F V E Q : Type} {A : Q → Type} {J ρ σ R W β : Type}

/-! ### What is left of a program -/

/-- What is left of a thread's program after it has gone on, and before; nothing, where the thread has
finished. -/
inductive Fewer : Option (Prog F V E Q A ρ) → Option (Prog F V E Q A ρ) → Prop where
  | finish {r} : Fewer none (some (.ret r))
  | acquire {p} : Fewer (some p) (some (.acquire p))
  | release {p} : Fewer (some p) (some (.release p))
  | read {f k} (a) : Fewer (some (k a)) (some (.read f k))
  | write {f v k} (a) : Fewer (some (k a)) (some (.write f v k))
  | ask {q k} (a) : Fewer (some (k a)) (some (.ask q k))

theorem acc_fewer (p : Prog F V E Q A ρ) : Acc Fewer (some p) := by
  have hnone : Acc Fewer (none : Option (Prog F V E Q A ρ)) := .intro _ fun _ h => by cases h
  induction p with
  | ret r =>
      refine .intro _ fun _ h => ?_
      cases h
      exact hnone
  | acquire p ih =>
      refine .intro _ fun _ h => ?_
      cases h
      exact ih
  | release p ih =>
      refine .intro _ fun _ h => ?_
      cases h
      exact ih
  | read f k ih =>
      refine .intro _ fun _ h => ?_
      cases h with
      | read a => exact ih a
  | write f v k ih =>
      refine .intro _ fun _ h => ?_
      cases h with
      | write a => exact ih a
  | ask q k ih =>
      refine .intro _ fun _ h => ?_
      cases h with
      | ask a => exact ih a

theorem fewer_wf : WellFounded (Fewer (F := F) (V := V) (E := E) (Q := Q) (A := A) (ρ := ρ)) := by
  refine ⟨fun p => ?_⟩
  cases p with
  | none => exact .intro _ fun _ h => by cases h
  | some p => exact acc_fewer p

/-! ### What is left of a read or a write -/

/-- The steps of the reads and the writes bring them nearer their ends. -/
structure Shortens [LT β] (B : Backing F V E σ R W) (O : Outline F V σ R W) (readLeft : R → σ → β)
    (writeLeft : F → V → W → β) : Prop where
  readStep : ∀ {mayFail f r o r'}, O.inv o → O.reading mayFail f r o →
    B.readStep mayFail f r o r' → readLeft r' o < readLeft r o
  writeStep : ∀ {mayFail f v w o w' o'}, O.inv o → O.writing mayFail f v w o →
    B.writeStep mayFail f v w o w' o' → writeLeft f v w' < writeLeft f v w
  frame : ∀ {mayFail mayFail' f r g v w o w' o'}, O.inv o → O.writing mayFail' g v w o →
    B.writeStep mayFail' g v w o w' o' → O.reading mayFail f r o → readLeft r o' = readLeft r o

/-- The reads and the writes come to their ends. -/
structure Concludes [LT β] (B : Backing F V E σ R W) (O : Outline F V σ R W) (readLeft : R → σ → β)
    (writeLeft : F → V → W → β) : Prop extends Shortens B O readLeft writeLeft where
  readGoes : ∀ {mayFail f r o}, O.inv o → O.reading mayFail f r o → B.readResult r = none →
    ∃ r', B.readStep False f r o r'
  writeGoes : ∀ {mayFail f v w o}, O.inv o → O.writing mayFail f v w o → B.writeResult w = none →
    ∃ w' o', B.writeStep False f v w o w' o'
  /-- A step that is no fault can be taken anywhere. -/
  readFaultless : ∀ {mayFail f r o r'}, B.readStep False f r o r' → B.readStep mayFail f r o r'
  writeFaultless : ∀ {mayFail f v w o w' o'}, B.writeStep False f v w o w' o' →
    B.writeStep mayFail f v w o w' o'

/-- What is left to a thread: its program, and of its first step the read or write under way. -/
def left (readLeft : R → σ → β) (writeLeft : F → V → W → β) (o : σ) :
    Option (Thread F V E Q A J ρ R W) → Option (Prog F V E Q A ρ) × WithTop β
  | none => (none, ⊤)
  | some (_, p, .nothing) => (some p, ⊤)
  | some (_, p, .reading r) => (some p, readLeft r o)
  | some (_, .write f v k, .writing w) => (some (.write f v k), writeLeft f v w)
  | some (_, p, .writing _) => (some p, ⊤)

/-- Less is left. -/
def Less [LT β] (x y : Option (Prog F V E Q A ρ) × WithTop β) : Prop :=
  Prod.Lex Fewer (· < ·) x y

theorem less_wf [Preorder β] [WellFoundedLT β] :
    WellFounded (Less (F := F) (V := V) (E := E) (Q := Q) (A := A) (ρ := ρ) (β := β)) :=
  fewer_wf.prod_lex wellFounded_lt

/-- What is said of the object, and `P` as well. -/
def Outline.also (O : Outline F V σ R W) (P : σ → Prop) : Outline F V σ R W :=
  { O with inv := fun o => O.inv o ∧ P o }

/-- What every step of a write keeps can be said as well. -/
theorem CarriesOut.also [DecidableEq F] {B : Backing F V E σ R W} {O : Outline F V σ R W}
    {view : σ → Files F V} (hB : CarriesOut B O view) {P : σ → Prop}
    (hP : ∀ {mayFail f v w o w' o'}, O.writing mayFail f v w o → B.writeStep mayFail f v w o w' o' →
      P o → P o') : CarriesOut B (O.also P) view where
  openRead h := hB.openRead h.1
  readStep h := hB.readStep h.1
  readOk := hB.readOk
  readError := hB.readError
  openWrite h := hB.openWrite h.1
  writeStep h hw hstep := by
    obtain ⟨hinv, hrest⟩ := hB.writeStep h.1 hw hstep
    exact ⟨⟨hinv, hP hw hstep h.2⟩, hrest⟩
  writeOk := hB.writeOk
  writeError := hB.writeError
  frame h := hB.frame h.1

/-! ### Going on -/

/-- The event starts a job. -/
def FineEvent.Starts : FineEvent F V E Q A J ρ → Prop
  | .did ⟨_, _, .start⟩ => True
  | _ => False

variable (S : Setting F V E Q A J ρ) (B : Backing F V E σ R W)

/-- Some thread goes on, and none is started. -/
def GoesOn (st st' : FinePool F V E Q A J ρ σ R W) : Prop :=
  ∃ e, ¬ FineEvent.Starts e ∧ FineStep S B st e st'

/-- The setting with no faults from here on. -/
def Setting.faultless : Setting F V E Q A J ρ := { S with mayFail := fun _ => False }

/-- No thread is left, and nobody holds the lock. -/
def FinePool.AtRest (st : FinePool F V E Q A J ρ σ R W) : Prop :=
  st.lock = none ∧ ∀ t, st.threads t = none

variable {S B} {O : Outline F V σ R W}
variable {st st' : FinePool F V E Q A J ρ σ R W}
variable {readLeft : R → σ → β} {writeLeft : F → V → W → β}

theorem FineStep.of_faultless [LT β] (hE : Concludes B O readLeft writeLeft)
    {e : FineEvent F V E Q A J ρ} (h : FineStep S.faultless B st e st') : FineStep S B st e st' := by
  cases h with
  | start hn => exact .start hn
  | acquire hp hl => exact .acquire hp hl
  | release hp hl => exact .release hp hl
  | openRead hp => exact .openRead hp
  | readStep hp hr => exact .readStep hp (hE.readFaultless hr)
  | readResult hp ha => exact .readResult hp ha
  | openWrite hp => exact .openWrite hp
  | writeStep hp hw heff => exact .writeStep hp (hE.writeFaultless hw) heff
  | effect hp hw heff => exact .effect hp (hE.writeFaultless hw) heff
  | writeOk hp hw => exact .writeOk hp hw
  | writeError hp hw => exact .writeError hp hw
  | ask hp ha => exact .ask hp ha
  | askFault hp hf => exact hf.elim
  | finish hp => exact .finish hp

theorem GoesOn.of_faultless [LT β] (hE : Concludes B O readLeft writeLeft)
    (h : GoesOn S.faultless B st st') : GoesOn S B st st' := by
  obtain ⟨e, hstarts, hstep⟩ := h
  exact ⟨e, hstarts, hstep.of_faultless hE⟩

/-! ### The threads stop -/

section
variable [Preorder β]

/-- The threads that are not at a job are those from some number on. -/
def FinePool.Below (st : FinePool F V E Q A J ρ σ R W) (n : Nat) : Prop :=
  ∀ t, n ≤ t → st.threads t = none

theorem update_below {n t : Nat} {x y : Option (Thread F V E Q A J ρ R W)} (h : st.Below n)
    (ht : st.threads t = x) (hx : x ≠ none) (u : Nat) (hu : n ≤ u) :
    Function.update st.threads t y u = none := by
  have hne : u ≠ t := fun hut => hx (ht.symm.trans (h t (hut ▸ hu)))
  exact (Function.update_of_ne hne ..).trans (h u hu)

/-- What another thread has under way bears a step of a write. -/
theorem FineInv.left_frame (hE : Shortens B O readLeft writeLeft) (h : FineInv S O st) {mayFail : Prop}
    {f : F} {v : V} {w w' : W} {o' : σ} (hw : O.writing mayFail f v w st.object)
    (hstep : B.writeStep mayFail f v w st.object w' o') (u : Nat) :
    left readLeft writeLeft o' (st.threads u) = left readLeft writeLeft st.object (st.threads u) := by
  cases hu : st.threads u with
  | none => rfl
  | some th =>
      have hdoing := h.doing hu
      match th, hdoing with
      | (_, _, .nothing), _ => rfl
      | (_, .read f k, .reading r), hr =>
          have heq : readLeft r o' = readLeft r st.object := hE.frame h.inv hw hstep hr
          exact congrArg (fun b : β => (some (Prog.read f k), (b : WithTop β))) heq
      | (_, .write _ _ _, .writing _), _ => rfl

/-- What a step that starts nothing does: thread `t`, which is at a job, goes on to `x`, and less is
left to it; to every thread as it was, as much is left. -/
theorem GoesOn.lowers (hE : Shortens B O readLeft writeLeft) (h : FineInv S O st)
    (hst : GoesOn S B st st') :
    ∃ t x, st.threads t ≠ none ∧ st'.threads = Function.update st.threads t x ∧
      Less (left readLeft writeLeft st'.object x) (left readLeft writeLeft st.object (st.threads t)) ∧
      ∀ u, left readLeft writeLeft st'.object (st.threads u) =
        left readLeft writeLeft st.object (st.threads u) := by
  obtain ⟨e, hstarts, hstep⟩ := hst
  have hsome {t : Nat} {th : Thread F V E Q A J ρ R W} (ht : st.threads t = some th) :
      st.threads t ≠ none := fun hn => by cases hn.symm.trans ht
  cases hstep with
  | start hn => exact absurd trivial hstarts
  | @acquire t j p hp hl =>
      refine ⟨t, some (j, p, .nothing), hsome hp, rfl, ?_, fun _ => rfl⟩
      exact hp ▸ .left _ _ .acquire
  | @release t j p hp hl =>
      refine ⟨t, some (j, p, .nothing), hsome hp, rfl, ?_, fun _ => rfl⟩
      exact hp ▸ .left _ _ .release
  | @openRead t j f k hp =>
      refine ⟨t, some (j, .read f k, .reading (B.openRead f)), hsome hp, rfl, ?_, fun _ => rfl⟩
      exact hp ▸ .right _ (WithTop.coe_lt_top _)
  | @readStep t j f k r r' hp hr =>
      refine ⟨t, some (j, .read f k, .reading r'), hsome hp, rfl, ?_, fun _ => rfl⟩
      exact hp ▸ .right _ (WithTop.coe_lt_coe.mpr (hE.readStep h.inv (h.doing hp) hr))
  | @readResult t j f k r a hp _ =>
      refine ⟨t, some (j, k a, .nothing), hsome hp, rfl, ?_, fun _ => rfl⟩
      exact hp ▸ .left _ _ (.read a)
  | @openWrite t j f v k hp =>
      refine ⟨t, some (j, .write f v k, .writing (B.openWrite f v)), hsome hp, rfl, ?_, fun _ => rfl⟩
      exact hp ▸ .right _ (WithTop.coe_lt_top _)
  | @writeStep t j f v k w w' o' hp hw _ =>
      refine ⟨t, some (j, .write f v k, .writing w'), hsome hp, rfl, ?_,
        h.left_frame hE (h.doing hp) hw⟩
      exact hp ▸ .right _ (WithTop.coe_lt_coe.mpr (hE.writeStep h.inv (h.doing hp) hw))
  | @effect t j f v k w w' o' hp hw _ =>
      refine ⟨t, some (j, .write f v k, .writing w'), hsome hp, rfl, ?_,
        h.left_frame hE (h.doing hp) hw⟩
      exact hp ▸ .right _ (WithTop.coe_lt_coe.mpr (hE.writeStep h.inv (h.doing hp) hw))
  | @writeOk t j f v k w hp _ =>
      refine ⟨t, some (j, k (.ok ()), .nothing), hsome hp, rfl, ?_, fun _ => rfl⟩
      exact hp ▸ .left _ _ (.write _)
  | @writeError t j f v k w e hp _ =>
      refine ⟨t, some (j, k (.error e), .nothing), hsome hp, rfl, ?_, fun _ => rfl⟩
      exact hp ▸ .left _ _ (.write _)
  | @ask t j q k a hp _ =>
      refine ⟨t, some (j, k (.ok a), .nothing), hsome hp, rfl, ?_, fun _ => rfl⟩
      exact hp ▸ .left _ _ (.ask _)
  | @askFault t j q k e hp _ =>
      refine ⟨t, some (j, k (.error e), .nothing), hsome hp, rfl, ?_, fun _ => rfl⟩
      exact hp ▸ .left _ _ (.ask _)
  | @finish t j r hp =>
      refine ⟨t, none, hsome hp, rfl, ?_, fun _ => rfl⟩
      exact hp ▸ .left _ _ .finish

/-- **However the threads take turns, and whatever fails, they stop.** -/
theorem FineInv.acc [WellFoundedLT β] [DecidableEq F] {view : σ → Files F V} (hB : CarriesOut B O view)
    (hE : Shortens B O readLeft writeLeft) (hprog : ∀ j, Guarded (S.prog j) false) {n : Nat}
    (h : FineInv S O st) (hn : st.Below n) :
    Acc (fun st₂ st₁ : FinePool F V E Q A J ρ σ R W => GoesOn S B st₁ st₂) st := by
  have hwf := InvImage.wf (fun (st : FinePool F V E Q A J ρ σ R W) (i : Fin n) =>
    left readLeft writeLeft st.object (st.threads i)) (lowersOne_wf less_wf n)
  induction st using hwf.induction with
  | _ st ih =>
      refine .intro _ fun st' hst => ?_
      obtain ⟨t, x, hsome, hthreads, hless, hothers⟩ := hst.lowers hE h
      have ht : t < n := Nat.lt_of_not_le fun hle => hsome (hn t hle)
      obtain ⟨e, -, hstep⟩ := hst
      refine ih st' ⟨⟨t, ht⟩, ?_, ?_⟩ (h.step hB hprog hstep) ?_
      · dsimp only
        rw [hthreads, Function.update_self]
        exact hless
      · intro u hu
        have hne : (u : Nat) ≠ t := fun hut => hu (Fin.ext hut)
        dsimp only
        rw [hthreads, Function.update_of_ne hne]
        exact hothers u
      · intro u hu
        rw [hthreads]
        exact update_below hn rfl hsome u hu

/-! ### The threads can go on -/

/-- A thread that does not wait for another to give back the lock can go on. -/
theorem FineInv.goesOn (hE : Concludes B O readLeft writeLeft) (hanswers : ∀ q, ∃ a, S.answers q a)
    (h : FineInv S O st) {t : Nat} {th : Thread F V E Q A J ρ R W} (ht : st.threads t = some th)
    (hlock : ∀ u, st.lock = some u → u = t) : ∃ st', GoesOn S.faultless B st st' := by
  have hdoing := h.doing ht
  match th, hdoing with
  | (j, .ret r, .nothing), _ => exact ⟨_, _, id, .finish ht⟩
  | (j, .acquire p, .nothing), _ =>
      have hfree : st.lock = none := by
        refine Option.eq_none_iff_forall_not_mem.mpr fun u hu => ?_
        exact absurd (hlock u hu ▸ hu) (of_decide_eq_false (h.guarded ht).1)
      exact ⟨_, _, id, .acquire ht hfree⟩
  | (j, .release p, .nothing), _ =>
      exact ⟨_, _, id, .release ht (of_decide_eq_true (h.guarded ht).1)⟩
  | (j, .read f k, .nothing), _ => exact ⟨_, _, id, .openRead ht⟩
  | (j, .read f k, .reading r), hr =>
      cases hresult : B.readResult r with
      | some a => exact ⟨_, _, id, .readResult ht hresult⟩
      | none =>
          obtain ⟨r', hstep⟩ := hE.readGoes h.inv hr hresult
          exact ⟨_, _, id, .readStep ht hstep⟩
  | (j, .write f v k, .nothing), _ => exact ⟨_, _, id, .openWrite ht⟩
  | (j, .write f v k, .writing w), hw =>
      cases hresult : B.writeResult w with
      | some a =>
          cases a with
          | ok u => exact ⟨_, _, id, .writeOk ht hresult⟩
          | error e => exact ⟨_, _, id, .writeError ht hresult⟩
      | none =>
          obtain ⟨w', o', hstep⟩ := hE.writeGoes h.inv hw hresult
          by_cases heff : B.effected w' = B.effected w
          · exact ⟨_, _, id, .writeStep ht hstep heff⟩
          · exact ⟨_, _, id, .effect ht hstep heff⟩
  | (j, .ask q k, .nothing), _ =>
      obtain ⟨a, ha⟩ := hanswers q
      exact ⟨_, _, id, .ask ht ha⟩

/-- **While a thread is left, one can go on**, without a fault. -/
theorem FineInv.exists_goesOn (hE : Concludes B O readLeft writeLeft)
    (hanswers : ∀ q, ∃ a, S.answers q a) (h : FineInv S O st) (hrest : ¬ st.AtRest) :
    ∃ st', GoesOn S.faultless B st st' := by
  cases hl : st.lock with
  | some u =>
      -- the one that holds the lock
      obtain ⟨th, hth⟩ := Option.ne_none_iff_exists'.mp (h.holder hl)
      exact h.goesOn hE hanswers hth fun u' hu' => Option.some.inj (hu'.symm.trans hl)
  | none =>
      obtain ⟨t, ht⟩ := not_forall.mp fun hthreads => hrest ⟨hl, hthreads⟩
      obtain ⟨th, hth⟩ := Option.ne_none_iff_exists'.mp ht
      exact h.goesOn hE hanswers hth fun u hu => by cases hl.symm.trans hu

end

/-! ### Every run -/

section
variable [DecidableEq F] [Preorder β] [WellFoundedLT β]

omit [WellFoundedLT β] in
/-- Only finitely many threads are at a job. -/
theorem fine_below {view : σ → Files F V} (hB : CarriesOut B O view)
    (hE : Shortens B O readLeft writeLeft) (hprog : ∀ j, Guarded (S.prog j) false) {init : σ → Prop}
    (hinit : ∀ o, init o → O.inv o) {es : List (FineEvent F V E Q A J ρ)}
    (h : Run (S.fine B init) es st) : ∃ n, st.Below n := by
  induction h with
  | init hi => exact ⟨0, fun t _ => hi.2.2 t⟩
  | @step es st st' e hrun hstep ih =>
      obtain ⟨n, hn⟩ := ih
      by_cases hstarts : FineEvent.Starts e
      · cases hstep with
        | @start t j hnone =>
            refine ⟨max n (t + 1), fun u hu => ?_⟩
            have hne : u ≠ t := fun hut => by omega
            exact (Function.update_of_ne hne ..).trans (hn u (le_of_max_le_left hu))
        | _ => exact hstarts.elim
      · obtain ⟨t, x, hsome, hthreads, -⟩ :=
          GoesOn.lowers hE (fine_inv hB hprog hinit hrun) ⟨e, hstarts, hstep⟩
        refine ⟨n, fun u hu => ?_⟩
        rw [hthreads]
        exact update_below hn rfl hsome u hu

omit [WellFoundedLT β] in
/-- Threads that stop, and can go on while one is left, come to rest. -/
theorem FineInv.exists_atRest {view : σ → Files F V} (hB : CarriesOut B O view)
    (hE : Concludes B O readLeft writeLeft) (hprog : ∀ j, Guarded (S.prog j) false)
    (hanswers : ∀ q, ∃ a, S.answers q a)
    (hacc : Acc (fun st₂ st₁ : FinePool F V E Q A J ρ σ R W => GoesOn S B st₁ st₂) st)
    (h : FineInv S O st) :
    ∃ st', Relation.ReflTransGen (GoesOn S.faultless B) st st' ∧ st'.AtRest := by
  induction hacc with
  | intro st _ ih =>
      by_cases hrest : st.AtRest
      · exact ⟨st, .refl, hrest⟩
      · obtain ⟨st₁, hgo⟩ := h.exists_goesOn hE hanswers hrest
        have hgo' : GoesOn S B st st₁ := hgo.of_faultless hE
        obtain ⟨e, -, hstep⟩ := hgo'
        obtain ⟨st', hsteps, hrest'⟩ := ih st₁ (hgo.of_faultless hE) (h.step hB hprog hstep)
        exact ⟨st', .head hgo hsteps, hrest'⟩

/-- **Every run comes to a stop.**  However its threads take turns from any moment on, and whatever
fails, they stop if no job is started. -/
theorem comes_to_stop {view : σ → Files F V} (hB : CarriesOut B O view)
    (hE : Shortens B O readLeft writeLeft) (hprog : ∀ j, Guarded (S.prog j) false) {init : σ → Prop}
    (hinit : ∀ o, init o → O.inv o) {es : List (FineEvent F V E Q A J ρ)}
    (h : Run (S.fine B init) es st) :
    Acc (fun st₂ st₁ : FinePool F V E Q A J ρ σ R W => GoesOn S B st₁ st₂) st := by
  obtain ⟨n, hn⟩ := fine_below hB hE hprog hinit h
  exact (fine_inv hB hprog hinit h).acc hB hE hprog hn

/-- **Every run can be brought to rest.**  Without a fault, and if no job is started, its threads come
from any moment on to where no thread is left and nobody holds the lock. -/
theorem comes_to_rest {view : σ → Files F V} (hB : CarriesOut B O view)
    (hE : Concludes B O readLeft writeLeft) (hprog : ∀ j, Guarded (S.prog j) false)
    (hanswers : ∀ q, ∃ a, S.answers q a) {init : σ → Prop} (hinit : ∀ o, init o → O.inv o)
    {es : List (FineEvent F V E Q A J ρ)} (h : Run (S.fine B init) es st) :
    ∃ st', Relation.ReflTransGen (GoesOn S.faultless B) st st' ∧ st'.AtRest :=
  (fine_inv hB hprog hinit h).exists_atRest hB hE hprog hanswers
    (comes_to_stop hB hE.toShortens hprog hinit h)

end

/-! ### Reads and writes in a row -/

section
variable [DecidableEq F] [Preorder β]
variable {view : σ → Files F V} {init : σ → Prop} {es : List (FineEvent F V E Q A J ρ)}
variable {t : Nat} {j : J} {f : F} {v : V} {o : σ} {r : R} {w : W}

end

end

end Programs
