import Mathlib.Logic.Function.Basic

/-!
# Support — scripts over an object

The methods of an object, as programs that read and set its state and ask the outside: what a
library returns, what the clock says, whether an exception strikes here.

A script is what it does next and how it goes on with the answer (`Script`).  A block (`Block`) is a
script that returns a value or raises; blocks are put together in `do` blocks, an exception ending
them.  A call is played from the state of the object and the answers it is given, in order
(`play`).

`Meets C x Φ Ψ s`: from the state `s`, whatever answers `C` allows, `x` returns as `Φ` says or
raises as `Ψ` says.

* `meets_bind`, `meets_tryExcept`: a block meets what its statements do, one after the other.
* `Meets.play`, `Meets.play_ends`: what a block meets holds of every call that is played.
* `exists_play`: what a script does not meet fails of some call that is played.
* `Meets.run`: what a block meets holds of the call that is answered by a function (`Script.run`).

`CanRaise C x s`: from the state `s`, answers that `C` allows make `x` raise.
-/

namespace Scripts

/-- A program over an object with states `σ`, that asks `Q`. -/
inductive Script (σ Q : Type) (A : Q → Type) (ρ : Type) where
  | ret (r : ρ)
  | get (k : σ → Script σ Q A ρ)
  | set (s : σ) (k : Script σ Q A ρ)
  | ask (q : Q) (k : A q → Script σ Q A ρ)

section
variable {σ Q E ρ τ α β : Type} {A : Q → Type}

/-- `p`, then `k` at what it returned. -/
def Script.bind : Script σ Q A ρ → (ρ → Script σ Q A τ) → Script σ Q A τ
  | .ret r, k => k r
  | .get h, k => .get fun s => (h s).bind k
  | .set s h, k => .set s (h.bind k)
  | .ask q h, k => .ask q fun a => (h a).bind k

theorem Script.bind_ret (p : Script σ Q A ρ) : p.bind .ret = p := by
  induction p with
  | ret r => rfl
  | get k ih => exact congrArg Script.get (funext ih)
  | set s k ih => exact congrArg (Script.set s) ih
  | ask q k ih => exact congrArg (Script.ask q) (funext ih)

theorem Script.bind_assoc {υ : Type} (p : Script σ Q A ρ) (k : ρ → Script σ Q A τ)
    (l : τ → Script σ Q A υ) : (p.bind k).bind l = p.bind fun r => (k r).bind l := by
  induction p with
  | ret r => rfl
  | get h ih => exact congrArg Script.get (funext ih)
  | set s h ih => exact congrArg (Script.set s) ih
  | ask q h ih => exact congrArg (Script.ask q) (funext ih)

/-! ### Blocks -/

/-- A script that returns a value or raises. -/
def Block (σ Q : Type) (A : Q → Type) (E α : Type) : Type := Script σ Q A (Except E α)

/-- What a block goes on with: `f` at a value, the exception itself otherwise. -/
def orRaise (f : α → Block σ Q A E β) : Except E α → Script σ Q A (Except E β)
  | .ok a => f a
  | .error e => .ret (.error e)

instance : Monad (Block σ Q A E) where
  pure a := Script.ret (.ok a)
  bind x f := Script.bind x (orRaise f)

/-- What raises or returns without touching anything. -/
def lift (x : Except E α) : Block σ Q A E α := Script.ret x

def getState : Block σ Q A E σ := Script.get fun s => .ret (.ok s)

def modify (f : σ → σ) : Block σ Q A E Unit := Script.get fun s => .set (f s) (.ret (.ok ()))

def ask (q : Q) : Block σ Q A E (A q) := Script.ask q fun a => .ret (.ok a)

/-- `try: x  except …`: `h` handles what `x` raises, where the clause `catches` it. -/
def tryExcept (x : Block σ Q A E α) (catches : E → Bool) (h : E → Block σ Q A E α) :
    Block σ Q A E α :=
  Script.bind x fun
    | .ok a => Script.ret (.ok a)
    | .error e => if catches e then h e else Script.ret (.error e)

/-! ### Playing a call -/

/-- The call, from a state and with the answers it is given; `none` where they are not the answers
to what it asks. -/
def play [DecidableEq Q] : Script σ Q A ρ → σ → List (Sigma A) → Option (ρ × σ)
  | .ret r, s, [] => some (r, s)
  | .ret _, _, _ :: _ => none
  | .get k, s, as => play (k s) s as
  | .set s k, _, as => play k s as
  | .ask _ _, _, [] => none
  | .ask q k, s, ⟨q', a⟩ :: as => if h : q' = q then play (k (h ▸ a)) s as else none

section
variable [DecidableEq Q] {s s₁ : σ} {as bs : List (Sigma A)}

/-- A call goes on where its first part ended, with the answers left. -/
theorem play_append {p : Script σ Q A ρ} {k : ρ → Script σ Q A τ} {r : ρ}
    (h : play p s as = some (r, s₁)) : play (p.bind k) s (as ++ bs) = play (k r) s₁ bs := by
  induction p generalizing s as with
  | ret r₀ =>
      cases as with
      | nil => cases h; rfl
      | cons a as => cases h
  | get h' ih => exact ih s h
  | set s h' ih => exact ih h
  | ask q h' ih =>
      cases as with
      | nil => cases h
      | cons a as =>
          obtain ⟨q', a⟩ := a
          by_cases hq : q' = q
          · subst hq
            simp only [play, dif_pos] at h
            simpa only [Script.bind, List.cons_append, play, dif_pos] using ih a h
          · rw [play, dif_neg hq] at h
            cases h

variable {x : Block σ Q A E α} {f : α → Block σ Q A E β} {a : α}

theorem play_bind (h : play x s as = some (.ok a, s₁)) :
    play (x >>= f : Block σ Q A E β) s (as ++ bs) = play (f a) s₁ bs := play_append h

theorem play_tryExcept {catches : E → Bool} {h : E → Block σ Q A E α}
    (hx : play x s as = some (.ok a, s₁)) :
    play (tryExcept x catches h) s as = some (.ok a, s₁) := by
  rw [← List.append_nil as]
  exact play_append hx

theorem play_raised {e : E} (h : play x s as = some (.error e, s₁)) :
    play (x >>= f : Block σ Q A E β) s as = some (.error e, s₁) := by
  rw [← List.append_nil as]
  exact play_append h

/-- A call of `x >>= f` and what follows it goes on where `x` ended. -/
theorem play_bind_bind {k : Except E β → Script σ Q A ρ} (h : play x s as = some (.ok a, s₁)) :
    play (Script.bind (x >>= f : Block σ Q A E β) k) s (as ++ bs) =
      play (Script.bind (f a) k) s₁ bs :=
  (congrArg (play · s (as ++ bs)) (Script.bind_assoc _ _ k)).trans (play_append h)

/-- What a `try` catches goes to its handler, and from there to what follows the `try`. -/
theorem play_caught {catches : E → Bool} {h : E → Block σ Q A E α} {e : E}
    {k : Except E α → Script σ Q A ρ} (hx : play x s as = some (.error e, s₁))
    (hc : catches e = true) :
    play ((tryExcept x catches h).bind k) s (as ++ bs) = play ((h e).bind k) s₁ bs := by
  refine (congrArg (play · s (as ++ bs)) (Script.bind_assoc _ _ k)).trans ((play_append hx).trans ?_)
  exact congrArg (fun p => play (Script.bind p k) s₁ bs) (if_pos hc)

/-- What a call asks first is answered first. -/
theorem play_ask_mem {q : Q} {k : A q → Script σ Q A ρ} {r : ρ}
    (h : play (.ask q k) s as = some (r, s₁)) : ∃ b, ⟨q, b⟩ ∈ as := by
  cases as with
  | nil => cases h
  | cons c as =>
      obtain ⟨q', b⟩ := c
      by_cases hq : q' = q
      · subst hq
        exact ⟨b, List.mem_cons_self⟩
      · rw [play, dif_neg hq] at h
        cases h

@[simp] theorem play_pure : play (pure a : Block σ Q A E α) s [] = some (.ok a, s) := rfl

@[simp] theorem play_lift_bind :
    play (lift (.ok a) >>= f : Block σ Q A E β) s as = play (f a) s as := rfl

@[simp] theorem play_getState_bind {f : σ → Block σ Q A E β} :
    play (getState >>= f : Block σ Q A E β) s as = play (f s) s as := rfl

@[simp] theorem play_modify {g : σ → σ} :
    play (modify g : Block σ Q A E Unit) s [] = some (.ok (), g s) := rfl

@[simp] theorem play_modify_bind {g : σ → σ} {f : Unit → Block σ Q A E β} :
    play (modify g >>= f : Block σ Q A E β) s as = play (f ()) (g s) as := rfl

@[simp] theorem play_ask_bind {q : Q} {b : A q} {f : A q → Block σ Q A E β} :
    play (ask q >>= f : Block σ Q A E β) s (⟨q, b⟩ :: as) = play (f b) s as := dif_pos rfl

end

/-! ### What a script meets -/

/-- `p` ends as `Φ` says, whatever answers `C` allows. -/
def wp (C : (q : Q) → A q → Prop) : Script σ Q A ρ → (ρ → σ → Prop) → σ → Prop
  | .ret r, Φ, s => Φ r s
  | .get k, Φ, s => wp C (k s) Φ s
  | .set s k, Φ, _ => wp C k Φ s
  | .ask q k, Φ, s => ∀ a, C q a → wp C (k a) Φ s

variable {C : (q : Q) → A q → Prop} {s s' : σ}

theorem wp_mono {Φ Φ' : ρ → σ → Prop} (h : ∀ r s, Φ r s → Φ' r s) {p : Script σ Q A ρ} :
    wp C p Φ s → wp C p Φ' s := by
  induction p generalizing s with
  | ret r => exact h r s
  | get k ih => exact ih s
  | set s k ih => exact ih
  | ask q k ih => exact fun hp a ha => ih a (hp a ha)

theorem wp_bind {p : Script σ Q A ρ} {k : ρ → Script σ Q A τ} {Φ : τ → σ → Prop} :
    wp C (p.bind k) Φ s ↔ wp C p (fun r s => wp C (k r) Φ s) s := by
  induction p generalizing s with
  | ret r => exact Iff.rfl
  | get h ih => exact ih s
  | set s h ih => exact ih
  | ask q h ih => exact forall₂_congr fun a _ => ih a

theorem wp_play [DecidableEq Q] {p : Script σ Q A ρ} {Φ : ρ → σ → Prop} {as : List (Sigma A)}
    {r : ρ} (hp : wp C p Φ s) (has : ∀ a ∈ as, C a.1 a.2) (h : play p s as = some (r, s')) :
    Φ r s' := by
  induction p generalizing s as with
  | ret r₀ =>
      cases as with
      | nil => cases h; exact hp
      | cons a as => cases h
  | get k ih => exact ih s hp has h
  | set s k ih => exact ih hp has h
  | ask q k ih =>
      cases as with
      | nil => cases h
      | cons a as =>
          obtain ⟨q', a⟩ := a
          obtain ⟨ha, hrest⟩ := List.forall_mem_cons.mp has
          by_cases hq : q' = q
          · subst hq
            simp only [play, dif_pos] at h
            exact ih a (hp a ha) hrest h
          · rw [play, dif_neg hq] at h
            cases h

/-- What `p` does not meet fails of a call. -/
theorem exists_play [DecidableEq Q] {p : Script σ Q A ρ} {Φ : ρ → σ → Prop} (h : ¬ wp C p Φ s) :
    ∃ as r s', (∀ a ∈ as, C a.1 a.2) ∧ play p s as = some (r, s') ∧ ¬ Φ r s' := by
  induction p generalizing s with
  | ret r => exact ⟨[], r, s, fun a ha => absurd ha List.not_mem_nil, rfl, h⟩
  | get k ih => exact ih s h
  | set s k ih => exact ih h
  | ask q k ih =>
      simp only [wp, not_forall] at h
      obtain ⟨a, ha, hrest⟩ := h
      obtain ⟨as, r, s', has, hplay, hr⟩ := ih a hrest
      exact ⟨⟨q, a⟩ :: as, r, s', List.forall_mem_cons.mpr ⟨ha, has⟩, (dif_pos rfl).trans hplay, hr⟩

/-- A value as `Φ` says, or an exception as `Ψ` says. -/
def post (Φ : α → σ → Prop) (Ψ : E → σ → Prop) : Except E α → σ → Prop
  | .ok a => Φ a
  | .error e => Ψ e

/-- A block returns as `Φ` says or raises as `Ψ` says. -/
def Meets (C : (q : Q) → A q → Prop) (x : Block σ Q A E α) (Φ : α → σ → Prop) (Ψ : E → σ → Prop)
    (s : σ) : Prop :=
  wp C x (post Φ Ψ) s

variable {x : Block σ Q A E α} {Φ Φ' : α → σ → Prop} {Ψ Ψ' : E → σ → Prop}

theorem post_iff {r : Except E α} :
    post Φ Ψ r s ↔ (∀ a, r = .ok a → Φ a s) ∧ (∀ e, r = .error e → Ψ e s) := by
  cases r <;> simp [post]

theorem Meets.mono (h : Meets C x Φ Ψ s) (hΦ : ∀ a s, Φ a s → Φ' a s)
    (hΨ : ∀ e s, Ψ e s → Ψ' e s) : Meets C x Φ' Ψ' s := by
  refine wp_mono ?_ h
  rintro (e | a) s h
  · exact hΨ e s h
  · exact hΦ a s h

@[simp] theorem meets_pure {a : α} :
    Meets C (pure a : Block σ Q A E α) Φ Ψ s ↔ Φ a s := Iff.rfl

@[simp] theorem meets_lift {a : Except E α} : Meets C (lift a : Block σ Q A E α) Φ Ψ s ↔
    (∀ b, a = .ok b → Φ b s) ∧ (∀ e, a = .error e → Ψ e s) := post_iff

theorem meets_error {e : E} :
    Meets C (lift (.error e) : Block σ Q A E α) Φ Ψ s ↔ Ψ e s := Iff.rfl

@[simp] theorem meets_getState {Φ : σ → σ → Prop} :
    Meets C (getState : Block σ Q A E σ) Φ Ψ s ↔ Φ s s := Iff.rfl

@[simp] theorem meets_modify {f : σ → σ} {Φ : Unit → σ → Prop} :
    Meets C (modify f : Block σ Q A E Unit) Φ Ψ s ↔ Φ () (f s) := Iff.rfl

@[simp] theorem meets_ask {q : Q} {Φ : A q → σ → Prop} :
    Meets C (ask q : Block σ Q A E (A q)) Φ Ψ s ↔ ∀ a, C q a → Φ a s := Iff.rfl

/-- **Sequencing.** -/
theorem meets_bind {f : α → Block σ Q A E β} {Φ : β → σ → Prop} :
    Meets C (x >>= f) Φ Ψ s ↔ Meets C x (fun a s => Meets C (f a) Φ Ψ s) Ψ s := by
  have hrest : (fun r s => wp C (orRaise f r) (post Φ Ψ) s) =
      post (fun a s => Meets C (f a) Φ Ψ s) Ψ := by
    funext r s
    cases r <;> rfl
  exact wp_bind.trans (by rw [hrest]; rfl)

/-- **`try`.** -/
theorem meets_tryExcept {catches : E → Bool} {h : E → Block σ Q A E α} :
    Meets C (tryExcept x catches h) Φ Ψ s ↔
      Meets C x Φ (fun e s => if catches e then Meets C (h e) Φ Ψ s else Ψ e s) s := by
  refine wp_bind.trans (iff_of_eq (congrArg (fun Θ => wp C x Θ s) ?_))
  funext r s
  cases r with
  | ok a => rfl
  | error e => by_cases hc : catches e = true <;> simp [post, hc, Meets, wp]

/-- **What a block meets holds of every call.** -/
theorem Meets.play [DecidableEq Q] {as : List (Sigma A)} {r : Except E α} (hx : Meets C x Φ Ψ s)
    (has : ∀ a ∈ as, C a.1 a.2) (h : play x s as = some (r, s')) :
    (∀ a, r = .ok a → Φ a s') ∧ (∀ e, r = .error e → Ψ e s') :=
  post_iff.mp (wp_play hx has h)

/-- What a block meets however it ends holds after every call. -/
theorem Meets.play_ends [DecidableEq Q] {as : List (Sigma A)} {r : Except E α}
    {Φ : Except E α → σ → Prop} (hx : Meets C x (fun a => Φ (.ok a)) (fun e => Φ (.error e)) s)
    (has : ∀ a ∈ as, C a.1 a.2) (h : Scripts.play x s as = some (r, s')) : Φ r s' := by
  obtain ⟨hok, herror⟩ := hx.play has h
  cases r with
  | ok a => exact hok a rfl
  | error e => exact herror e rfl

/-! ### Calls answered by a function -/

/-- The call, where every question is answered by `answer`. -/
def Script.run (answer : (q : Q) → A q) : Script σ Q A ρ → σ → ρ × σ
  | .ret r, s => (r, s)
  | .get k, s => (k s).run answer s
  | .set s k, _ => k.run answer s
  | .ask q k, s => (k (answer q)).run answer s

theorem wp_run {answer : (q : Q) → A q} {p : Script σ Q A ρ} {Φ : ρ → σ → Prop} (hp : wp C p Φ s)
    (hanswer : ∀ q, C q (answer q)) : Φ (p.run answer s).1 (p.run answer s).2 := by
  induction p generalizing s with
  | ret r => exact hp
  | get k ih => exact ih s hp
  | set s k ih => exact ih hp
  | ask q k ih => exact ih _ (hp _ (hanswer q))

/-- **What a block meets holds where a function answers.** -/
theorem Meets.run {answer : (q : Q) → A q} (hx : Meets C x Φ Ψ s)
    (hanswer : ∀ q, C q (answer q)) :
    (∀ a, (Script.run answer x s).1 = .ok a → Φ a (Script.run answer x s).2) ∧
      ∀ e, (Script.run answer x s).1 = .error e → Ψ e (Script.run answer x s).2 :=
  post_iff.mp (wp_run hx hanswer)

/-! ### What a block can raise -/

/-- Answers that `C` allows make the block raise. -/
def CanRaise (C : (q : Q) → A q → Prop) (x : Block σ Q A E α) (s : σ) : Prop :=
  ¬ Meets C x (fun _ _ => True) (fun _ _ => False) s

theorem canRaise_lift {e : E} : CanRaise C (lift (.error e) : Block σ Q A E α) s := id

theorem CanRaise.bind {f : α → Block σ Q A E β} (h : CanRaise C x s) : CanRaise C (x >>= f) s :=
  fun hbind => h ((meets_bind.mp hbind).mono (fun _ _ _ => trivial) fun _ _ => id)

/-- A block can raise where the rest can, after what the first statement does. -/
theorem CanRaise.rest {f : α → Block σ Q A E β}
    (h : ∀ Φ, Meets C x Φ (fun _ _ => False) s → ∃ a s₁, Φ a s₁ ∧ CanRaise C (f a) s₁) :
    CanRaise C (x >>= f) s := by
  intro hbind
  obtain ⟨a, s₁, hmeets, hraise⟩ := h _ (meets_bind.mp hbind)
  exact hraise hmeets

/-- A `try` can raise where its body can and its handler always can. -/
theorem CanRaise.tryExcept {catches : E → Bool} {h : E → Block σ Q A E α} (hx : CanRaise C x s)
    (hh : ∀ e s, CanRaise C (h e) s) : CanRaise C (tryExcept x catches h) s := by
  intro htry
  refine hx ((meets_tryExcept.mp htry).mono (fun _ _ _ => trivial) ?_)
  intro e s₁ he
  split at he
  · exact hh e s₁ he
  · exact he

/-- **What can raise does in some call.** -/
theorem CanRaise.play [DecidableEq Q] (h : CanRaise C x s) :
    ∃ as e s', (∀ a ∈ as, C a.1 a.2) ∧ Scripts.play x s as = some (.error e, s') := by
  obtain ⟨as, r, s', has, hplay, hr⟩ := exists_play h
  cases r with
  | ok a => exact absurd trivial hr
  | error e => exact ⟨as, e, s', has, hplay⟩

end

end Scripts
