import Mathlib.Order.Basic

/-!
# Support — runs of labelled transition systems

A system moves from state to state by labelled events (`System`); a run carries its whole
history, the newest event first (`Run`).  Three rules are used throughout:

* `Run.invariant`: what holds initially and is kept by every step holds along every run, with
  the history at hand;
* `Run.granted_iff`: an authorisation that only ever grows is held exactly by those some event
  of the history granted it to;
* `Always Q`: every event of a history satisfies `Q` at the history before it
  (`always_iff`, `Run.always`); `Once Q`: some event does.
* `Run.split`, `Run.ranked`: what comes after a moment of a run is a run from the state there, and holds
  no more events of a kind than a rank that each of them lowers.

`System.restrict` keeps the steps that meet a condition on the event and the state before it, so
that "every step of the run meets `C`" is a run of the restricted system.
-/

namespace Runs

/-- A labelled transition system. -/
structure System (σ ε : Type*) where
  init : σ → Prop
  step : σ → ε → σ → Prop

/-- The steps of `S` that meet `C`. -/
def System.restrict {σ ε : Type*} (S : System σ ε) (C : σ → ε → Prop) : System σ ε where
  init := S.init
  step s e s' := S.step s e s' ∧ C s e

/-- The system from one of its states. -/
def System.startingAt {σ ε : Type*} (S : System σ ε) (s₀ : σ) : System σ ε where
  init s := s = s₀
  step := S.step

/-- The system of a deterministic machine. -/
def System.ofFunction {σ ε : Type*} (init : σ) (next : σ → ε → σ) : System σ ε where
  init s := s = init
  step s e s' := s' = next s e

/-- A run to a state, with its history. -/
inductive Run {σ ε : Type*} (S : System σ ε) : List ε → σ → Prop where
  | init {s : σ} : S.init s → Run S [] s
  | step {es : List ε} {s s' : σ} {e : ε} : Run S es s → S.step s e s' → Run S (e :: es) s'

/-- Every event of the history satisfies `Q` at the history before it. -/
def Always {ε : Type*} (Q : ε → List ε → Prop) : List ε → Prop
  | [] => True
  | e :: es => Q e es ∧ Always Q es

/-- Some event of the history satisfies `Q` at the history before it. -/
def Once {ε : Type*} (Q : ε → List ε → Prop) : List ε → Prop
  | [] => False
  | e :: es => Q e es ∨ Once Q es

section
variable {σ ε α : Type*} {S : System σ ε} {es : List ε} {s : σ}

@[simp] theorem always_nil {Q : ε → List ε → Prop} : Always Q [] := trivial

@[simp] theorem always_cons {Q : ε → List ε → Prop} {e : ε} :
    Always Q (e :: es) ↔ Q e es ∧ Always Q es := Iff.rfl

theorem always_iff {Q : ε → List ε → Prop} :
    Always Q es ↔ ∀ later e earlier, es = later ++ e :: earlier → Q e earlier := by
  induction es with
  | nil => simp
  | cons a es ih =>
      rw [always_cons, ih]
      constructor
      · rintro ⟨ha, h⟩ later e earlier he
        cases later with
        | nil => obtain ⟨rfl, rfl⟩ := List.cons.inj he; exact ha
        | cons b later => exact h later e earlier (List.cons.inj he).2
      · exact fun h => ⟨h [] a es rfl, fun later e earlier he =>
          h (a :: later) e earlier (by rw [he]; rfl)⟩

@[simp] theorem not_once_nil {Q : ε → List ε → Prop} : ¬ Once Q [] := id

theorem once_cons {Q : ε → List ε → Prop} {e : ε} : Once Q (e :: es) ↔ Q e es ∨ Once Q es := Iff.rfl

/-- An event that does not satisfy `Q` changes nothing. -/
theorem once_cons_of_not {Q : ε → List ε → Prop} {e : ε} (h : ¬ Q e es) :
    Once Q (e :: es) ↔ Once Q es := or_iff_right h

theorem Always.congr {Q R : ε → List ε → Prop} (h : Always (fun e es => Q e es ↔ R e es) es) :
    Always Q es ↔ Always R es := by
  induction es with
  | nil => exact Iff.rfl
  | cons e es ih => exact and_congr h.1 (ih h.2)

theorem Run.of_restrict {C : σ → ε → Prop} (h : Run (S.restrict C) es s) : Run S es s := by
  induction h with
  | init h => exact .init h
  | step _ hs ih => exact .step ih hs.1

/-- **The invariant rule.** -/
theorem Run.invariant {P : List ε → σ → Prop} (h₀ : ∀ s, S.init s → P [] s)
    (hs : ∀ es s e s', Run S es s → P es s → S.step s e s' → P (e :: es) s')
    (h : Run S es s) : P es s := by
  induction h with
  | init h => exact h₀ _ h
  | step hr hstep ih => exact hs _ _ _ _ hr ih hstep

/-- The invariant rule, for what is said of the state alone. -/
theorem Run.invariant_state {P : σ → Prop} (h₀ : ∀ s, S.init s → P s)
    (hs : ∀ s e s', P s → S.step s e s' → P s') (h : Run S es s) : P s :=
  h.invariant (P := fun _ => P) h₀ fun _ _ _ _ _ hp hst => hs _ _ _ hp hst

/-- The last step of a run. -/
theorem Run.last {e : ε} {s' : σ} (h : Run S (e :: es) s') : ∃ s, Run S es s ∧ S.step s e s' := by
  cases h with
  | step h hs => exact ⟨_, h, hs⟩

/-- What every step keeps of the event it takes holds of every event of a run. -/
theorem Run.always {Q : ε → List ε → Prop}
    (hs : ∀ es s e s', Run S es s → S.step s e s' → Q e es) (h : Run S es s) : Always Q es :=
  h.invariant (P := fun es _ => Always Q es) (fun _ _ => trivial)
    fun _ _ _ _ hr ih hst => ⟨hs _ _ _ _ hr hst, ih⟩

/-- **A growing authorisation.**  If nobody holds it initially and a step adds exactly those its
event grants it to, it is held by those some event of the history granted it to. -/
theorem Run.granted_iff (granted : σ → α → Prop) (grants : ε → α → Prop)
    (h₀ : ∀ s a, S.init s → ¬ granted s a)
    (hs : ∀ s e s' a, S.step s e s' → (granted s' a ↔ grants e a ∨ granted s a))
    (h : Run S es s) (a : α) : granted s a ↔ ∃ e ∈ es, grants e a := by
  induction h with
  | init h => simp [h₀ _ a h]
  | step _ hst ih => rw [hs _ _ _ a hst, ih]; simp

/-- **What comes after a moment** of a run. -/
theorem Run.split {later earlier : List ε} (h : Run S (later ++ earlier) s) :
    ∃ s₀, Run S earlier s₀ ∧ Run (S.startingAt s₀) later s := by
  induction later generalizing s with
  | nil => exact ⟨s, h, .init rfl⟩
  | cons e later ih =>
      obtain ⟨s', hs', hstep⟩ := Run.last h
      obtain ⟨s₀, hearlier, hlater⟩ := ih hs'
      exact ⟨s₀, hearlier, hlater.step hstep⟩

/-- What no step raises and events of a kind lower bounds how many of them there are. -/
theorem Run.ranked {I : σ → Prop} (rank : σ → Nat) (kind : ε → Bool) {s₀ : σ} (h₀ : I s₀)
    (hs : ∀ s e s', I s → S.step s e s' → I s' ∧ rank s' + (if kind e then 1 else 0) ≤ rank s)
    (h : Run (S.startingAt s₀) es s) : I s ∧ rank s + es.countP kind ≤ rank s₀ := by
  refine h.invariant (P := fun es s => I s ∧ rank s + es.countP kind ≤ rank s₀) ?_ ?_
  · rintro s rfl
    exact ⟨h₀, Nat.le_refl _⟩
  · rintro es s e s' - ⟨hI, hle⟩ hstep
    obtain ⟨hI', hrank⟩ := hs s e s' hI hstep
    refine ⟨hI', ?_⟩
    rw [List.countP_cons]
    omega

end

end Runs
