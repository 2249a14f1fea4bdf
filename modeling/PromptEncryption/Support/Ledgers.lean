import PromptEncryption.Support.Threads

/-!
# Support — calls that are one section under the lock

Threads (`Threads.lean`) whose every program takes the lock first and gives it back last
(`Sections`): whatever the interleaving, the calls take place one after another, each at the files
it found when it took the lock.

What is said of the files while the lock is free, and of a call's result, may depend on the history.
It does so through a ledger (`Ledger`): what is kept of the history, event by event.  `Inside` is
what a section has to meet, from the files and the ledger it finds.

* `section_rule`: where every section meets `Inside`, every result is as `Φ` says of the ledger at
  the moment the call took the lock (`AcquiredAt`).
-/

namespace Programs
open Runs

section
variable {F V E Q : Type} {A : Q → Type} {ρ σ τ : Type}

theorem Prog.bind_assoc {p : Prog F V E Q A ρ} {k : ρ → Prog F V E Q A σ}
    {h : σ → Prog F V E Q A τ} : (p.bind k).bind h = p.bind fun r => (k r).bind h := by
  induction p with
  | ret r => rfl
  | acquire p ih => exact congrArg Prog.acquire ih
  | release p ih => exact congrArg Prog.release ih
  | read f g ih => exact congrArg (Prog.read f) (funext ih)
  | write f v g ih => exact congrArg (Prog.write f v) (funext ih)
  | ask q g ih => exact congrArg (Prog.ask q) (funext ih)

/-- The section `p`, and the lock given back. -/
def underLock (p : Prog F V E Q A ρ) : Prog F V E Q A ρ := p.bind fun r => .release (.ret r)

theorem bind_underLock {p : Prog F V E Q A σ} {g : σ → ρ} :
    ((p.bind fun r => .release (.ret r)).bind fun r => .ret (g r)) =
      underLock (p.bind fun r => .ret (g r)) := by
  rw [underLock, Prog.bind_assoc, Prog.bind_assoc]
  rfl

/-- A body under the lock, its result handed on, is one section. -/
theorem map_withLock {α : Type} {g : Except E α → ρ} {x : Body F V E Q A α} :
    Prog.map g (withLock x) = .acquire (underLock (Prog.map g x)) :=
  congrArg Prog.acquire (bind_underLock (p := x))

theorem underLock_ne_ret (q : Prog F V E Q A ρ) {r : ρ} : underLock q ≠ .ret r := by
  cases q with
  | _ => exact fun h => by cases h

theorem read_inv {q : Prog F V E Q A ρ} {f : F}
    {k : Except E (Option V) → Prog F V E Q A ρ}
    (h : underLock q = .read f k) : ∃ k', q = .read f k' ∧ k = fun a => underLock (k' a) := by
  cases q with
  | read f k' => cases h; exact ⟨k', rfl, rfl⟩
  | _ => cases h

theorem write_inv {q : Prog F V E Q A ρ} {f : F} {v : V}
    {k : Except E Unit → Prog F V E Q A ρ}
    (h : underLock q = .write f v k) :
    ∃ k', q = .write f v k' ∧ k = fun a => underLock (k' a) := by
  cases q with
  | write f v k' => cases h; exact ⟨k', rfl, rfl⟩
  | _ => cases h

theorem ask_inv {q : Prog F V E Q A ρ} {x : Q}
    {k : Except E (A x) → Prog F V E Q A ρ} (h : underLock q = .ask x k) :
    ∃ k', q = .ask x k' ∧ k = fun a => underLock (k' a) := by
  cases q with
  | ask x k' => cases h; exact ⟨k', rfl, rfl⟩
  | _ => cases h

end

section
variable {F V E Q : Type} {A : Q → Type} {J ρ σ τ γ : Type} [DecidableEq F]

/-- What is kept of a history, event by event; that a thread starts or ends leaves no trace. -/
structure Ledger (F V E Q : Type) (A : Q → Type) (J ρ γ : Type) where
  empty : γ
  record : Event F V E Q A J ρ → γ → γ
  start : ∀ t j g, record ⟨t, j, .start⟩ g = g
  finish : ∀ t j r g, record ⟨t, j, .finish r⟩ g = g

/-- The ledger of a history. -/
def Ledger.of (L : Ledger F V E Q A J ρ γ) (es : List (Event F V E Q A J ρ)) : γ :=
  es.foldr L.record L.empty

variable (L : Ledger F V E Q A J ρ γ) (S : Setting F V E Q A J ρ)

/-- Thread `t`, which holds the lock, runs the section `p` to its end as `Φ` says, from the files
and the ledger. -/
def Inside (t : Nat) (j : J) (Φ : σ → Files F V → γ → Prop) :
    Prog F V E Q A σ → Files F V → γ → Prop
  | .ret r, s, g => Φ r s g
  | .acquire _, _, _ => False
  | .release _, _, _ => False
  | .read f k, s, g =>
      Inside t j Φ (k (.ok (s f))) s (L.record ⟨t, j, .read f (.ok (s f))⟩ g) ∧
        (S.mayFail j → ∀ e, Inside t j Φ (k (.error e)) s (L.record ⟨t, j, .read f (.error e)⟩ g))
  | .write f v k, s, g =>
      Inside t j Φ (k (.ok ())) (Function.update s f (some v))
          (L.record ⟨t, j, .write f v (.ok ())⟩ g) ∧
        (S.mayFail j → ∀ e,
          Inside t j Φ (k (.error e)) s (L.record ⟨t, j, .write f v (.error e)⟩ g))
  | .ask q k, s, g =>
      (∀ a, S.answers q a → Inside t j Φ (k (.ok a)) s (L.record ⟨t, j, .ask q (.ok a)⟩ g)) ∧
        (S.mayFail j → ∀ e, Inside t j Φ (k (.error e)) s (L.record ⟨t, j, .ask q (.error e)⟩ g))

/-- The thread last took the lock after the history `before`. -/
def AcquiredAt (t : Nat) (j : J) (es before : List (Event F V E Q A J ρ)) : Prop :=
  ∃ mid, es = mid ++ ⟨t, j, .acquire⟩ :: before ∧ ∀ e ∈ mid, e.thread = t → e.act ≠ .acquire

/-- Every job is one section under the lock, and the section meets what the lock's resource `I` and
the results `Φ` ask. -/
def Sections (I : γ → Files F V → Prop) (Φ : J → γ → ρ → Prop) : Prop :=
  ∀ j, ∃ q, S.prog j = .acquire (underLock q) ∧ ∀ t g s, I g s →
    Inside L S t j (fun r s' g' => I (L.record ⟨t, j, .release⟩ g') s' ∧ Φ j g r) q s
      (L.record ⟨t, j, .acquire⟩ g)

variable {L S} {t : Nat} {j : J} {s : Files F V} {g : γ}

/-- **Sequencing.** -/
theorem inside_bind {Φ : τ → Files F V → γ → Prop} {p : Prog F V E Q A σ}
    {k : σ → Prog F V E Q A τ} :
    Inside L S t j Φ (p.bind k) s g ↔
      Inside L S t j (fun r s g => Inside L S t j Φ (k r) s g) p s g := by
  induction p generalizing s g with
  | ret r => exact Iff.rfl
  | acquire p _ => exact Iff.rfl
  | release p _ => exact Iff.rfl
  | read f h ih => exact and_congr (ih _) (forall₂_congr fun _ e => ih _)
  | write f v h ih => exact and_congr (ih _) (forall₂_congr fun _ e => ih _)
  | ask q h ih => exact and_congr (forall₂_congr fun a _ => ih _) (forall₂_congr fun _ e => ih _)

omit [DecidableEq F] in
theorem AcquiredAt.cons {es before : List (Event F V E Q A J ρ)} {e : Event F V E Q A J ρ}
    (h : AcquiredAt t j es before) (he : e.thread = t → e.act ≠ .acquire) :
    AcquiredAt t j (e :: es) before := by
  obtain ⟨mid, rfl, hmid⟩ := h
  exact ⟨e :: mid, rfl, List.forall_mem_cons.mpr ⟨he, hmid⟩⟩

/-! ### Where a thread is -/

variable {I : γ → Files F V → Prop} {Φ : J → γ → ρ → Prop}

/-- How far a thread has come: it has not taken the lock, it is inside its section, or it has its
result. -/
inductive Progress (L : Ledger F V E Q A J ρ γ) (S : Setting F V E Q A J ρ)
    (I : γ → Files F V → Prop) (Φ : J → γ → ρ → Prop) (es : List (Event F V E Q A J ρ))
    (st : Pool F V E Q A J ρ) (t : Nat) (j : J) (p : Prog F V E Q A ρ) : Prop where
  | waiting : st.lock ≠ some t → p = S.prog j → Progress L S I Φ es st t j p
  | inside {before : List (Event F V E Q A J ρ)} {q : Prog F V E Q A ρ} : st.lock = some t →
      AcquiredAt t j es before → p = underLock q →
      Inside L S t j (fun r s g => I (L.record ⟨t, j, .release⟩ g) s ∧ Φ j (L.of before) r)
        q st.files (L.of es) → Progress L S I Φ es st t j p
  | done {before : List (Event F V E Q A J ρ)} {r : ρ} : st.lock ≠ some t →
      AcquiredAt t j es before → Φ j (L.of before) r → p = .ret r → Progress L S I Φ es st t j p

/-- The free lock owns the resource, a lock that is not free has a holder, and every thread is
somewhere on its way. -/
structure Serial (L : Ledger F V E Q A J ρ γ) (S : Setting F V E Q A J ρ)
    (I : γ → Files F V → Prop) (Φ : J → γ → ρ → Prop) (es : List (Event F V E Q A J ρ))
    (st : Pool F V E Q A J ρ) : Prop where
  free : st.lock = none → I (L.of es) st.files
  holder : ∀ {t}, st.lock = some t → st.threads t ≠ none
  threads : ∀ {t j p}, st.threads t = some (j, p) → Progress L S I Φ es st t j p

section
variable {es : List (Event F V E Q A J ρ)} {st st' : Pool F V E Q A J ρ}
  {e : Event F V E Q A J ρ} {p q : Prog F V E Q A ρ}

/-- What another thread does leaves a thread where it is. -/
theorem Progress.other (h : Progress L S I Φ es st t j p) (he : e.thread ≠ t)
    (hlock : st'.lock = some t ↔ st.lock = some t)
    (hheld : st.lock = some t → st'.files = st.files ∧ L.of (e :: es) = L.of es) :
    Progress L S I Φ (e :: es) st' t j p := by
  have hne : e.thread = t → e.act ≠ .acquire := fun h => absurd h he
  cases h with
  | waiting hl hp => exact .waiting (hl ∘ hlock.mp) hp
  | inside hl hacq hp hq =>
      obtain ⟨hfiles, hledger⟩ := hheld hl
      exact .inside (hlock.mpr hl) (hacq.cons hne) hp (by rw [hfiles, hledger]; exact hq)
  | done hl hacq hr hp => exact .done (hl ∘ hlock.mp) (hacq.cons hne) hr hp

theorem Progress.holding (h : Progress L S I Φ es st t j p) (hl : st.lock = some t) :
    ∃ before q, AcquiredAt t j es before ∧ p = underLock q ∧
      Inside L S t j (fun r s g => I (L.record ⟨t, j, .release⟩ g) s ∧ Φ j (L.of before) r)
        q st.files (L.of es) := by
  cases h with
  | waiting hl' => exact absurd hl hl'
  | inside _ hacq hp hq => exact ⟨_, _, hacq, hp, hq⟩
  | done hl' => exact absurd hl hl'

/-- A section gives the lock back where it has a result. -/
theorem release_inv {Θ : ρ → Files F V → γ → Prop} (hp : underLock q = .release p)
    (hq : Inside L S t j Θ q s g) : ∃ r, q = .ret r ∧ p = .ret r := by
  cases q with
  | ret r => exact ⟨r, rfl, (Prog.release.inj hp).symm⟩
  | release q => exact hq.elim
  | _ => cases hp

/-- A thread that neither takes the lock nor ends is inside its section. -/
theorem Progress.underway (h : Progress L S I Φ es st t j p) (hS : Sections L S I Φ)
    (hacquire : ∀ p', p ≠ .acquire p') (hret : ∀ r, p ≠ .ret r) :
    st.lock = some t ∧ ∃ before q, AcquiredAt t j es before ∧ p = underLock q ∧
      Inside L S t j (fun r s g => I (L.record ⟨t, j, .release⟩ g) s ∧ Φ j (L.of before) r)
        q st.files (L.of es) := by
  cases h with
  | waiting _ hp =>
      obtain ⟨q, hprog, -⟩ := hS j
      exact absurd (hp.trans hprog) (hacquire _)
  | inside hl hacq hp hq => exact ⟨hl, _, _, hacq, hp, hq⟩
  | done _ _ _ hp => exact absurd hp (hret _)

/-- A thread goes on, and the others stay where they are. -/
theorem Serial.put (hth : st'.threads = Function.update st.threads t (some (j, p)))
    (hfree : st'.lock = none → I (L.of es) st'.files)
    (hholder : ∀ {u}, u ≠ t → st'.lock = some u → st.threads u ≠ none)
    (hself : Progress L S I Φ es st' t j p)
    (hother : ∀ {u i q}, u ≠ t → st.threads u = some (i, q) → Progress L S I Φ es st' u i q) :
    Serial L S I Φ es st' where
  free := hfree
  holder {u} := by
    rw [hth]
    refine (Function.forall_update_iff _ fun u x => st'.lock = some u → x ≠ none).mpr ⟨?_, ?_⟩ u
    · exact fun _ => Option.some_ne_none _
    · exact fun u hu => hholder hu
  threads {u i q} := by
    rw [hth]
    refine (Function.forall_update_iff _ fun u x => ∀ i q, x = some (i, q) →
      Progress L S I Φ es st' u i q).mpr ⟨?_, ?_⟩ u i q
    · intro i q h
      cases h
      exact hself
    · exact fun u hu i q => hother hu

/-- A thread inside its section takes a step of it; `q'` is the section after the step. -/
theorem Serial.go {q' : Prog F V E Q A ρ} {before : List (Event F V E Q A J ρ)}
    (h : Serial L S I Φ es st) (he : e.thread = t) (hact : e.act ≠ .acquire)
    (hth : st'.threads = Function.update st.threads t (some (j, underLock q')))
    (hl : st.lock = some t) (hl' : st'.lock = st.lock) (hacq : AcquiredAt t j es before)
    (hq : Inside L S t j (fun r s g => I (L.record ⟨t, j, .release⟩ g) s ∧ Φ j (L.of before) r)
      q' st'.files (L.of (e :: es))) : Serial L S I Φ (e :: es) st' := by
  refine .put hth (fun h' => absurd (hl.symm.trans (hl'.symm.trans h')) (by simp))
    (fun _ h' => h.holder (hl'.symm.trans h')) ?_ fun {u i q} hu hthread => ?_
  · exact .inside (hl'.trans hl) (hacq.cons fun _ => hact) rfl hq
  · refine (h.threads hthread).other (fun h' => hu (h'.symm.trans he)) (by rw [hl']) fun h' => ?_
    exact absurd (Option.some.inj (h'.symm.trans hl)) hu

/-- **The step lemma.** -/
theorem Serial.step (hS : Sections L S I Φ) (h : Serial L S I Φ es st) (hst : Step S st e st') :
    Serial L S I Φ (e :: es) st' := by
  cases hst with
  | @start t j hn =>
      have hL : L.of (⟨t, j, .start⟩ :: es) = L.of es := L.start t j _
      have hl : st.lock ≠ some t := fun hl => h.holder hl hn
      refine .put rfl (fun h' => by rw [hL]; exact h.free h') (fun _ => h.holder)
        (.waiting hl rfl) fun {u i q} hu hq => ?_
      exact (h.threads hq).other (fun h' => hu h'.symm) Iff.rfl fun _ => ⟨rfl, hL⟩
  | @acquire t j p hp hl =>
      -- the lock was free, so the thread had not started its section
      have hI := h.free hl
      refine .put rfl (fun h' => by cases h') (fun hu h' => absurd (Option.some.inj h').symm hu)
        ?_ fun {u i q} hu hq => ?_
      · obtain ⟨q, hprog, hq⟩ := hS j
        have hsection : p = underLock q := by
          cases h.threads hp with
          | waiting _ hp' => exact Prog.acquire.inj (hp'.trans hprog)
          | inside hl' => cases hl.symm.trans hl'
          | done _ _ _ hret => cases hret
        exact .inside rfl ⟨[], rfl, fun _ he => absurd he List.not_mem_nil⟩ hsection
          (hq t _ _ hI)
      · have hne : t ≠ u := fun h' => hu h'.symm
        refine (h.threads hq).other hne ?_ fun h' => by cases hl.symm.trans h'
        rw [hl]
        exact ⟨fun h' => absurd (Option.some.inj h') hne, fun h' => (by cases h')⟩
  | @release t j p hp hl =>
      refine .put rfl (fun _ => ?_) (fun _ h' => by cases h') ?_ fun {u i q} hu hq => ?_
      · obtain ⟨before, q, -, hq, hin⟩ := (h.threads hp).holding hl
        obtain ⟨r, rfl, -⟩ := release_inv hq.symm hin
        exact hin.1
      · obtain ⟨before, q, hacq, hq, hin⟩ := (h.threads hp).holding hl
        obtain ⟨r, rfl, rfl⟩ := release_inv hq.symm hin
        exact .done (fun h' => by cases h') (hacq.cons fun _ h' => by cases h') hin.2 rfl
      · refine (h.threads hq).other (fun h' => hu h'.symm) ?_ fun h' => ?_
        · rw [hl]
          exact ⟨fun h' => (by cases h'), fun h' => absurd (Option.some.inj h').symm hu⟩
        · exact absurd (Option.some.inj (hl.symm.trans h')).symm hu
  | @read t j f k hp =>
      obtain ⟨hl, before, q, hacq, hq, hin⟩ := (h.threads hp).underway hS (by simp) (by simp)
      obtain ⟨k', rfl, rfl⟩ := read_inv hq.symm
      exact h.go rfl (by simp) rfl hl rfl hacq hin.1
  | @readFault t j f k e hp hf =>
      obtain ⟨hl, before, q, hacq, hq, hin⟩ := (h.threads hp).underway hS (by simp) (by simp)
      obtain ⟨k', rfl, rfl⟩ := read_inv hq.symm
      exact h.go rfl (by simp) rfl hl rfl hacq (hin.2 hf e)
  | @write t j f v k hp =>
      obtain ⟨hl, before, q, hacq, hq, hin⟩ := (h.threads hp).underway hS (by simp) (by simp)
      obtain ⟨k', rfl, rfl⟩ := write_inv hq.symm
      exact h.go rfl (by simp) rfl hl rfl hacq hin.1
  | @writeFault t j f v k e hp hf =>
      obtain ⟨hl, before, q, hacq, hq, hin⟩ := (h.threads hp).underway hS (by simp) (by simp)
      obtain ⟨k', rfl, rfl⟩ := write_inv hq.symm
      exact h.go rfl (by simp) rfl hl rfl hacq (hin.2 hf e)
  | @ask t j q k a hp ha =>
      obtain ⟨hl, before, q', hacq, hq, hin⟩ := (h.threads hp).underway hS (by simp) (by simp)
      obtain ⟨k', rfl, rfl⟩ := ask_inv hq.symm
      exact h.go rfl (by simp) rfl hl rfl hacq (hin.1 a ha)
  | @askFault t j q k e hp hf =>
      obtain ⟨hl, before, q', hacq, hq, hin⟩ := (h.threads hp).underway hS (by simp) (by simp)
      obtain ⟨k', rfl, rfl⟩ := ask_inv hq.symm
      exact h.go rfl (by simp) rfl hl rfl hacq (hin.2 hf e)
  | @finish t j r hp =>
      have hL : L.of (⟨t, j, .finish r⟩ :: es) = L.of es := L.finish t j r _
      have hl : st.lock ≠ some t := fun hl => by
        obtain ⟨before, q, -, hq, hin⟩ := (h.threads hp).holding hl
        exact absurd hq.symm (underLock_ne_ret q)
      refine ⟨fun h' => by rw [hL]; exact h.free h', fun {u} => ?_, fun {u i q} => ?_⟩
      · refine (Function.forall_update_iff _ fun u x => st.lock = some u → x ≠ none).mpr ⟨?_, ?_⟩ u
        · exact fun h' => absurd h' hl
        · exact fun u _ => h.holder
      · refine (Function.forall_update_iff _ fun u x => ∀ i q, x = some (i, q) →
          Progress L S I Φ _ _ u i q).mpr ⟨?_, ?_⟩ u i q
        · exact fun i q hq => by cases hq
        · exact fun u hu i q hq => (h.threads hq).other hu.symm Iff.rfl fun _ => ⟨rfl, hL⟩

/-- **The rule of sections.**  In every run, a call's result is as `Φ` says of the ledger at the
moment the call took the lock. -/
theorem section_rule (hS : Sections L S I Φ) {init : Files F V → Prop}
    (hinit : ∀ s, init s → I L.empty s) (h : Run (S.system init) es st) :
    Serial L S I Φ es st ∧ Always (fun e earlier => ∀ r, e.act = .finish r →
      ∃ before, AcquiredAt e.thread e.job earlier before ∧ Φ e.job (L.of before) r) es := by
  refine h.invariant (P := fun es st => Serial L S I Φ es st ∧ Always (fun e earlier => ∀ r,
    e.act = .finish r → ∃ before, AcquiredAt e.thread e.job earlier before ∧
      Φ e.job (L.of before) r) es) ?_ ?_
  · intro st h₀
    obtain ⟨hi, hl, hth⟩ := h₀
    exact ⟨⟨fun _ => hinit _ hi, fun h' => absurd (hl.symm.trans h') (by simp),
      fun {t j p} h' => absurd ((hth t).symm.trans h') (by simp)⟩, trivial⟩
  · rintro es st e st' - ⟨hserial, hres⟩ hst
    refine ⟨hserial.step hS hst, ?_, hres⟩
    intro r hr
    cases hst with
    | finish hp =>
        cases hr
        cases hserial.threads hp with
        | waiting _ hp' =>
            obtain ⟨q, hprog, -⟩ := hS _
            cases hp'.trans hprog
        | @inside before q _ _ hq => exact absurd hq.symm (underLock_ne_ret q)
        | done _ hacq hΦ hret => cases hret; exact ⟨_, hacq, hΦ⟩
    | _ => cases hr

end

end

end Programs
