import Mathlib.Logic.Relation
import PromptEncryption.Support.Procedures

/-!
# Support — what programs write

`WritesOnly answers G p`: whatever `p` reads and whatever `answers` allows, what it writes to a file is
as `G` says.  This is carried through the threads, to what is read (`reads_intact`) and, where reads and
writes take steps, to the object (`fine_object`).

A process may end at any moment, in the middle of a write, and another start from the object it left
(`Restarts`).  `Restarts.invariant`: what the steps of such writes keep holds of every object left.
-/

namespace Programs
open Runs

section
variable {F V E Q : Type} {A : Q → Type} {ρ σ : Type}

/-- What the program writes is as `G` says. -/
def WritesOnly (answers : (q : Q) → A q → Prop) (G : F → V → Prop) : Prog F V E Q A ρ → Prop
  | .ret _ => True
  | .acquire p => WritesOnly answers G p
  | .release p => WritesOnly answers G p
  | .read _ k => ∀ a, WritesOnly answers G (k a)
  | .write f v k => G f v ∧ ∀ a, WritesOnly answers G (k a)
  | .ask _ k => (∀ a, answers _ a → WritesOnly answers G (k (.ok a))) ∧
      ∀ e, WritesOnly answers G (k (.error e))

variable {answers : (q : Q) → A q → Prop} {G : F → V → Prop}

theorem WritesOnly.bind {p : Prog F V E Q A ρ} {k : ρ → Prog F V E Q A σ}
    (hp : WritesOnly answers G p) (hk : ∀ r, WritesOnly answers G (k r)) :
    WritesOnly answers G (p.bind k) := by
  induction p with
  | ret r => exact hk r
  | acquire p ih => exact ih hp
  | release p ih => exact ih hp
  | read f h ih => exact fun a => ih a (hp a)
  | write f v h ih => exact ⟨hp.1, fun a => ih a (hp.2 a)⟩
  | ask q h ih => exact ⟨fun a ha => ih _ (hp.1 a ha), fun e => ih _ (hp.2 e)⟩

/-- A body that writes as `G` says. -/
def WritesOnlyBody (answers : (q : Q) → A q → Prop) (G : F → V → Prop) {α : Type}
    (x : Body F V E Q A α) : Prop := WritesOnly answers G x

namespace WritesOnlyBody
variable {α β : Type}

theorem bind {x : Body F V E Q A α} {f : α → Body F V E Q A β} (hx : WritesOnlyBody answers G x)
    (hf : ∀ a, WritesOnlyBody answers G (f a)) : WritesOnlyBody answers G (x >>= f) :=
  WritesOnly.bind hx fun r => by
    cases r with
    | ok a => exact hf a
    | error e => exact trivial

theorem replace {f : F} {v : V} (h : G f v) :
    WritesOnlyBody answers G (replace f v : Body F V E Q A Unit) := ⟨h, fun _ => trivial⟩

theorem tryCatch {x : Body F V E Q A α} {h : E → Body F V E Q A α} (hx : WritesOnlyBody answers G x)
    (hh : ∀ e, WritesOnlyBody answers G (h e)) : WritesOnlyBody answers G (tryCatch x h) :=
  WritesOnly.bind hx fun r => by
    cases r with
    | ok a => exact trivial
    | error e => exact hh e

theorem withLock {x : Body F V E Q A α} (hx : WritesOnlyBody answers G x) :
    WritesOnlyBody answers G (withLock x) := WritesOnly.bind (p := x) hx fun _ => trivial

end WritesOnlyBody

end

/-! ### Threads -/

section
variable {F V E Q : Type} {A : Q → Type} {J ρ σ R W : Type} [DecidableEq F]
variable {S : Setting F V E Q A J ρ} {G : F → V → Prop} {s₀ : Files F V}

/-- A file is as it was at first, or holds something written to it whole. -/
def Intact (G : F → V → Prop) (s₀ : Files F V) (f : F) (c : Option V) : Prop :=
  c = s₀ f ∨ ∃ v, G f v ∧ c = some v

variable {B : Backing F V E σ R W} {O : Outline F V σ R W} {view : σ → Files F V}

/-- A property of the object is kept by every step of a write of what `G` allows. -/
def KeptByWrites (B : Backing F V E σ R W) (O : Outline F V σ R W) (G : F → V → Prop)
    (P : σ → Prop) : Prop :=
  ∀ {mayFail f v w o w' o'}, O.inv o → O.writing mayFail f v w o → G f v →
    B.writeStep mayFail f v w o w' o' → P o → P o'

/-- **What writes keep holds of the object in every run.** -/
theorem fine_object (hB : CarriesOut B O view) (hguard : ∀ j, Guarded (S.prog j) false)
    (hprog : ∀ j, WritesOnly S.answers G (S.prog j)) {P : σ → Prop} (hP : KeptByWrites B O G P)
    {init : σ → Prop} (hinit : ∀ o, init o → O.inv o ∧ P o) {es : List (FineEvent F V E Q A J ρ)}
    {st : FinePool F V E Q A J ρ σ R W} (h : Run (S.fine B init) es st) :
    P st.object ∧ ∀ t j p d, st.threads t = some (j, p, d) → WritesOnly S.answers G p := by
  refine h.invariant (P := fun _ st => P st.object ∧ ∀ t j p d, st.threads t = some (j, p, d) →
    WritesOnly S.answers G p) ?_ ?_
  · rintro st ⟨hi, -, hth⟩
    exact ⟨(hinit _ hi).2, fun t j p d h' => absurd ((hth t).symm.trans h') (by simp)⟩
  · rintro es st e st' hrun ⟨hobject, hwrites⟩ hst
    have hinv : FineInv S O st := fine_inv hB hguard (fun o ho => (hinit o ho).1) hrun
    have hput : ∀ {t j p} {d : Doing R W}, WritesOnly S.answers G p → ∀ u i q d',
        Function.update st.threads t (some (j, p, d)) u = some (i, q, d') →
          WritesOnly S.answers G q := by
      intro t j p d hp
      refine (Function.forall_update_iff _ fun u x => ∀ i q d', x = some (i, q, d') →
        WritesOnly S.answers G q).mpr ⟨?_, fun u _ => hwrites u⟩
      intro i q d' heq
      cases heq
      exact hp
    cases hst with
    | start hn => exact ⟨hobject, hput (hprog _)⟩
    | acquire hp hl =>
        have hw : WritesOnly S.answers G _ := hwrites _ _ _ _ hp
        exact ⟨hobject, hput hw⟩
    | release hp hl =>
        have hw : WritesOnly S.answers G _ := hwrites _ _ _ _ hp
        exact ⟨hobject, hput hw⟩
    | openRead hp => exact ⟨hobject, hput (hwrites _ _ _ _ hp)⟩
    | readStep hp hr => exact ⟨hobject, hput (hwrites _ _ _ _ hp)⟩
    | readResult hp ha => exact ⟨hobject, hput (hwrites _ _ _ _ hp _)⟩
    | openWrite hp => exact ⟨hobject, hput (hwrites _ _ _ _ hp)⟩
    | writeStep hp hw heff =>
        have hprog' := hwrites _ _ _ _ hp
        exact ⟨hP hinv.inv (hinv.doing hp) hprog'.1 hw hobject, hput hprog'⟩
    | effect hp hw heff =>
        have hprog' := hwrites _ _ _ _ hp
        exact ⟨hP hinv.inv (hinv.doing hp) hprog'.1 hw hobject, hput hprog'⟩
    | writeOk hp hw => exact ⟨hobject, hput ((hwrites _ _ _ _ hp).2 _)⟩
    | writeError hp hw => exact ⟨hobject, hput ((hwrites _ _ _ _ hp).2 _)⟩
    | ask hp ha => exact ⟨hobject, hput ((hwrites _ _ _ _ hp).1 _ ha)⟩
    | askFault hp hf => exact ⟨hobject, hput ((hwrites _ _ _ _ hp).2 _)⟩
    | finish hp =>
        refine ⟨hobject, fun u i q d hq => ?_⟩
        refine (Function.forall_update_iff _ fun u x => ∀ i q d, x = some (i, q, d) →
          WritesOnly S.answers G q).mpr ⟨?_, fun u _ => hwrites u⟩ u i q d hq
        exact fun i q d heq => by cases heq

/-! ### Restarts -/

/-- The object a process may leave, ending at any moment, that found `o`; each process with a backing
of its own. -/
def Leaves (S : Setting F V E Q A J ρ) (Bs : Backing F V E σ R W → Prop) (o o' : σ) : Prop :=
  ∃ B es st, Bs B ∧ Run (S.fine B (· = o)) es st ∧ st.object = o'

/-- The object left by any number of processes, one after another. -/
def Restarts (S : Setting F V E Q A J ρ) (Bs : Backing F V E σ R W → Prop) : σ → σ → Prop :=
  Relation.ReflTransGen (Leaves S Bs)

/-- **What writes keep survives restarts.** -/
theorem Restarts.invariant {Bs : Backing F V E σ R W → Prop}
    (hB : ∀ B, Bs B → CarriesOut B O view) (hguard : ∀ j, Guarded (S.prog j) false)
    (hprog : ∀ j, WritesOnly S.answers G (S.prog j)) {P : σ → Prop}
    (hP : ∀ B, Bs B → KeptByWrites B O G P) {o o' : σ} (hinv : O.inv o) (ho : P o)
    (h : Restarts S Bs o o') : O.inv o' ∧ P o' := by
  induction h with
  | refl => exact ⟨hinv, ho⟩
  | tail _ hleaves ih =>
      obtain ⟨B, es, st, hBs, hrun, rfl⟩ := hleaves
      have hinit : ∀ o₁, o₁ = _ → O.inv o₁ ∧ P o₁ := fun o₁ heq => heq ▸ ih
      refine ⟨(fine_inv (hB B hBs) hguard (fun o₁ heq => (hinit o₁ heq).1) hrun).inv, ?_⟩
      exact (fine_object (hB B hBs) hguard hprog (hP B hBs) hinit hrun).1

end

end Programs
