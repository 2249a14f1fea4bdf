import PromptEncryption.Server.Refresher
import PromptEncryption.System.Signatures

/-!
# System — the served token is replaced in time

A successful attempt leaves a token with `exp = iat + L`; each failed one costs its own time and
`DEFAULT_RETRY_INTERVAL_SECONDS`.  So after `n` failed attempts the next begins by `deadline`, and
with `k` of them at most the token is replaced by its `exp`.

* `token_served_in_time`: along every run in rational time (no arithmetic rounds) with an accurate
  clock, attempts of at most `d`, and at most `k` consecutive failures with
  `(k + 1) * d + 10 * k ≤ L / 10`, the token stored after the first success is at no time past its
  `exp`; and the attempt after a failed one begins neither before the retry interval is over nor after
  the token's 90 percent mark, if that is later.
-/

namespace PromptEncryption.Server
open Python Programs Runs

/-! ### What has happened -/

/-- How many attempts have failed since the last that succeeded. -/
def failures (audience : String) : List RefresherEvent → Nat
  | [] => 0
  | .attempted env :: es => if filesReplaced audience env = 5 then 0 else failures audience es + 1
  | _ :: es => failures audience es

/-- Some attempt has succeeded. -/
def Succeeded (audience : String) (es : List RefresherEvent) : Prop :=
  ∃ env, .attempted env ∈ es ∧ filesReplaced audience env = 5

/-- The time since a failed attempt raised, until the next begins. -/
def sinceFailed (audience : String) : List RefresherEvent → Option ℚ
  | [] => none
  | .returned :: es => if failures audience es = 0 then none else some 0
  | .woke :: _ => none
  | .pass t :: es => (sinceFailed audience es).map (· + t)
  | _ :: es => sinceFailed audience es

/-- What is assumed of a step: the clock is accurate, the jitter is drawn from its window, an attempt
lasts at most `d`, a token has its `iat` from its fetch and `exp = iat + L`, and what an attempt
raises is caught. -/
def Timely (P : TokenManager) (L d : ℚ) (s : Refresher) : RefresherEvent → Prop
  | .pass t =>
      match s.phase with
      | .waiting u => s.now + t ≤ u
      | .sleeping u => s.now + t ≤ u
      | .attempting since => s.now + t ≤ since + d
      | .attempted since _ => s.now + t ≤ since + d
      | .looping => t = 0
      | .ended _ => t = 0
  | .calculated env jitter =>
      0 ≤ jitter ∧ jitter ≤ P.jitterWindowSeconds ∧ env.readFault .attestationToken = none
  | .attempted env =>
      (∀ since, s.phase = .attempting since → filesReplaced P.audience env = 5 →
        ∃ iat, Stamped P (attemptIdentity P.audience env).token iat (iat + L) ∧
          since ≤ iat ∧ iat ≤ s.now) ∧
      ∀ e, (evalBody env (refresh P.audience) s.files).1 = .error e → handled e = true
  | _ => True

/-! ### The wait for a stored token -/

section
variable {P : TokenManager} {L d : ℚ} {s s' : Refresher} {env : ServerEnv} {since : ℚ}

/-- The wait for a stored token, not past its 90 percent mark. -/
theorem calculates_of_stamped {token : Bytes} {iat jitter : ℚ} (hL : 0 < L)
    (hexact : P.rounding = .finite)
    (hwait : ∀ q, 0 ≤ q → q ≤ L * (9 / 10) → P.eventWait (.finite q) = .ok q)
    (htoken : s.files .attestationToken = some token) (hstamped : Stamped P token iat (iat + L))
    (hiat : iat ≤ s.now) (hjitter : 0 ≤ jitter) (hread : env.readFault .attestationToken = none) :
    ∃ u, s.calculates P env jitter = { s with phase := .waiting u } ∧ s.now ≤ u ∧
      u ≤ max s.now (iat + L * (9 / 10)) := by
  obtain ⟨q, hq, hnonneg, hle⟩ : ∃ q, s.duration P env jitter = .ok (.finite q) ∧ 0 ≤ q ∧
      q ≤ max 0 (iat + L * (9 / 10) - s.now) := by
    rw [Refresher.duration, evalBody_calculate hread, htoken, Option.getD_some,
      durationOf_stamped hexact hstamped]
    refine ⟨_, rfl, ?_⟩
    split
    · exact ⟨le_refl _, le_max_left _ _⟩
    · refine ⟨le_max_left _ _, max_le_max (le_refl _) ?_⟩
      rw [add_sub_cancel_left, DEFAULT_REFRESH_MULTIPLIER]
      linarith
  have hbound : q ≤ L * (9 / 10) := le_trans hle (max_le (by linarith) (by linarith))
  refine ⟨s.now + q, calculates_of_duration hq (hwait q hnonneg hbound), by linarith, ?_⟩
  rcases le_max_iff.mp hle with h | h
  · exact le_trans (by linarith) (le_max_left _ _)
  · exact le_trans (by linarith) (le_max_right _ _)

/-! ### The deadline -/

/-- When the attempt after `n` failed ones begins at the latest. -/
def deadline (L d iat : ℚ) (n : Nat) : ℚ := iat + L * (9 / 10) + n * (d + 10)

variable {iat : ℚ} {n k : Nat}

theorem deadline_zero : deadline L d iat 0 = iat + L * (9 / 10) := by simp [deadline]

theorem deadline_succ : deadline L d iat (n + 1) = deadline L d iat n + d + 10 := by
  simp only [deadline, Nat.cast_add, Nat.cast_one]
  linarith

theorem le_deadline (hd : 0 ≤ d) : iat + L * (9 / 10) ≤ deadline L d iat n := by
  have hn : (0 : ℚ) ≤ n := Nat.cast_nonneg n
  have := mul_nonneg hn (by linarith : (0 : ℚ) ≤ d + 10)
  rw [deadline]
  linarith

/-- After at most `k` failures an attempt ends before the token expires. -/
theorem deadline_le (hd : 0 ≤ d) (hk : (k + 1) * d + 10 * k ≤ L / 10) (hn : n ≤ k) :
    deadline L d iat n + d ≤ iat + L := by
  have hn' : (n : ℚ) ≤ k := Nat.cast_le.mpr hn
  have := mul_le_mul_of_nonneg_right hn' (by linarith : (0 : ℚ) ≤ d + 10)
  rw [deadline]
  linarith

theorem attempt_le (hd : 0 ≤ d) (hk : (k + 1) * d + 10 * k ≤ L / 10) : d ≤ L / 10 := by
  have hk' : (0 : ℚ) ≤ k := Nat.cast_nonneg k
  have := mul_nonneg hk' hd
  linarith

/-! ### The invariant -/

/-- After `n` failed attempts, the thread is in time for the token issued at `iat`. -/
def Punctual (L d iat : ℚ) (n : Nat) (s : Refresher) : Prop :=
  match s.phase with
  | .looping => s.now ≤ deadline L d iat n
  | .waiting u => s.now ≤ deadline L d iat n ∧ u ≤ deadline L d iat n
  | .sleeping u => s.now ≤ deadline L d iat n ∧ u ≤ deadline L d iat n
  | .attempting since => since ≤ deadline L d iat n
  | .attempted since (.ok ()) => since ≤ iat ∧ n = 0
  | .attempted since (.error e) => handled e = true ∧ since + d + 10 ≤ deadline L d iat n
  | .ended _ => s.now ≤ iat + L

/-- An attempt has lasted at most `d`, and after the first success a token is stored for which the
thread is in time. -/
structure OnTime (P : TokenManager) (L d : ℚ) (es : List RefresherEvent) (s : Refresher) :
    Prop where
  attempting : ∀ since, s.phase = .attempting since → s.now ≤ since + d
  attempted : ∀ since r, s.phase = .attempted since r → s.now ≤ since + d
  stored : Succeeded P.audience es → ∃ token iat, s.files .attestationToken = some token ∧
    Stamped P token iat (iat + L) ∧ iat ≤ s.now ∧ Punctual L d iat (failures P.audience es) s

variable {es : List RefresherEvent}

/-- The thread is in time for its token. -/
theorem OnTime.now_le (h : OnTime P L d es s) (hL : 0 < L) (hd : 0 ≤ d)
    (hk : (k + 1) * d + 10 * k ≤ L / 10) (hn : n ≤ k) (hp : Punctual L d iat n s) :
    s.now ≤ iat + L := by
  have hle : deadline L d iat n + d ≤ iat + L := deadline_le hd hk hn
  have hattempt := attempt_le hd hk
  unfold Punctual at hp
  cases hphase : s.phase with
  | looping => rw [hphase] at hp; exact le_trans hp (by linarith)
  | waiting u => rw [hphase] at hp; exact le_trans hp.1 (by linarith)
  | sleeping u => rw [hphase] at hp; exact le_trans hp.1 (by linarith)
  | attempting since =>
      rw [hphase] at hp
      exact le_trans (h.attempting since hphase) (by dsimp only at hp; linarith)
  | attempted since r =>
      have hnow := h.attempted since r hphase
      rw [hphase] at hp
      cases r with
      | ok u => exact le_trans hnow (by have := hp.1; linarith)
      | error e => exact le_trans hnow (by have := hp.2; linarith)
  | ended r => rw [hphase] at hp; exact hp

/-- Time that passes as the clock allows keeps the thread in time. -/
theorem Punctual.pass (hp : Punctual L d iat n s) {t : ℚ} (htimely : Timely P L d s (.pass t)) :
    Punctual L d iat n { s with now := s.now + t } := by
  unfold Punctual at hp ⊢
  dsimp only [Timely] at htimely
  cases hphase : s.phase with
  | looping =>
      rw [hphase] at hp htimely
      obtain rfl : t = 0 := htimely
      dsimp only
      rwa [add_zero]
  | waiting u =>
      rw [hphase] at hp htimely
      exact ⟨le_trans htimely hp.2, hp.2⟩
  | sleeping u =>
      rw [hphase] at hp htimely
      exact ⟨le_trans htimely hp.2, hp.2⟩
  | attempting since => rw [hphase] at hp; exact hp
  | attempted since r =>
      rw [hphase] at hp
      cases r with
      | ok u => exact hp
      | error e => exact hp
  | ended r =>
      rw [hphase] at hp htimely
      obtain rfl : t = 0 := htimely
      dsimp only
      rwa [add_zero]

/-- An event that is no attempt. -/
theorem OnTime.other (h : OnTime P L d es s) {e : RefresherEvent}
    (he : ∀ env, e ≠ .attempted env) (hfiles : s'.files = s.files) (hnow : s.now ≤ s'.now)
    (hattempting : ∀ since, s'.phase = .attempting since → s'.now ≤ since + d)
    (hattempted : ∀ since r, s'.phase = .attempted since r → s'.now ≤ since + d)
    (hp : ∀ token iat, s.files .attestationToken = some token → Stamped P token iat (iat + L) →
      iat ≤ s.now → Punctual L d iat (failures P.audience es) s →
      Punctual L d iat (failures P.audience es) s') :
    OnTime P L d (e :: es) s' where
  attempting := hattempting
  attempted := hattempted
  stored := by
    rintro ⟨env, hmem, hsucceeds⟩
    have hmem' : .attempted env ∈ es := by
      rcases List.mem_cons.mp hmem with heq | hmem
      · exact absurd heq.symm (he env)
      · exact hmem
    obtain ⟨token, iat, htoken, hstamped, hiat, hpunctual⟩ := h.stored ⟨env, hmem', hsucceeds⟩
    have hfailures : failures P.audience (e :: es) = failures P.audience es := by
      cases e with
      | attempted env => exact absurd rfl (he env)
      | _ => rfl
    rw [hfailures, hfiles]
    exact ⟨token, iat, htoken, hstamped, le_trans hiat hnow,
      hp token iat htoken hstamped hiat hpunctual⟩

/-- An attempt that succeeds or fails. -/
theorem OnTime.attempts (h : OnTime P L d es s) (hphase : s.phase = .attempting since)
    (htimely : Timely P L d s (.attempted env)) :
    OnTime P L d (.attempted env :: es) (s.attempts P env since) := by
  have hnow : s.now ≤ since + d := h.attempting since hphase
  by_cases hsucceeds : filesReplaced P.audience env = 5
  · obtain ⟨htoken, hdone⟩ := attempts_of_succeeds s since hsucceeds
    obtain ⟨iat, hstamped, hsince, hiat⟩ := htimely.1 since hphase hsucceeds
    refine ⟨fun _ hp => ?_, fun since' r hp => ?_, fun _ => ?_⟩
    · cases hdone.symm.trans hp
    · cases hdone.symm.trans hp
      exact hnow
    · have hfailures : failures P.audience (.attempted env :: es) = 0 := if_pos hsucceeds
      refine ⟨_, iat, htoken, hstamped, hiat, ?_⟩
      rw [hfailures, Punctual, hdone]
      exact ⟨hsince, rfl⟩
  · obtain ⟨htoken, e, he, hdone⟩ := attempts_of_fails s since hsucceeds
    refine ⟨fun _ hp => ?_, fun since' r hp => ?_, ?_⟩
    · cases hdone.symm.trans hp
    · cases hdone.symm.trans hp
      exact hnow
    · rintro ⟨env', hmem, hsucceeds'⟩
      have hmem' : .attempted env' ∈ es := by
        rcases List.mem_cons.mp hmem with heq | hmem
        · cases heq
          exact absurd hsucceeds' hsucceeds
        · exact hmem
      obtain ⟨token, iat, htoken', hstamped, hiat, hpunctual⟩ := h.stored ⟨env', hmem', hsucceeds'⟩
      have hfailures : failures P.audience (.attempted env :: es) =
          failures P.audience es + 1 := if_neg hsucceeds
      refine ⟨token, iat, htoken.trans htoken', hstamped, hiat, ?_⟩
      rw [Punctual, hphase] at hpunctual
      rw [hfailures, Punctual, hdone, deadline_succ]
      have hbegun : since ≤ deadline L d iat (failures P.audience es) := hpunctual
      exact ⟨htimely.2 e he, by linarith⟩

theorem OnTime.settles (h : OnTime P L d es s) {e : RefresherEvent}
    (he : ∀ env, e ≠ .attempted env) (hs : Settles s s')
    (hp : ∀ token iat, s.files .attestationToken = some token → Stamped P token iat (iat + L) →
      iat ≤ s.now → Punctual L d iat (failures P.audience es) s →
      Punctual L d iat (failures P.audience es) s') :
    OnTime P L d (e :: es) s' :=
  h.other he hs.files (le_of_eq hs.now.symm)
    (fun since hphase => absurd hphase (hs.attempting since))
    (fun since r hphase => absurd hphase (hs.attempted since r)) hp

/-- **What every step keeps.** -/
theorem OnTime.step (hL : 0 < L) (hd : 0 ≤ d) (hk : (k + 1) * d + 10 * k ≤ L / 10)
    (hexact : P.rounding = .finite)
    (hwait : ∀ q, 0 ≤ q → q ≤ L * (9 / 10) → P.eventWait (.finite q) = .ok q)
    (h : OnTime P L d es s) {e : RefresherEvent} (hn : failures P.audience (e :: es) ≤ k)
    (hst : RefresherStep P s e s') (htimely : Timely P L d s e) : OnTime P L d (e :: es) s' := by
  have hzero := attempt_le hd hk
  cases hst with
  | @pass t ht =>
      refine h.other (fun _ he => (by cases he)) rfl (le_add_of_nonneg_right ht) ?_ ?_
        fun token iat _ _ _ hp => hp.pass htimely
      · intro since hphase
        dsimp only [Timely] at htimely
        rwa [show s.phase = _ from hphase] at htimely
      · intro since r hphase
        dsimp only [Timely] at htimely
        rwa [show s.phase = _ from hphase] at htimely
  | @calculated env jitter hphase _ =>
      refine h.settles (fun _ he => (by cases he)) (settles_calculates s env jitter) ?_
      intro token iat htoken hstamped hiat hp
      obtain ⟨hjitter, -, hread⟩ := htimely
      obtain ⟨u, hs'', -, hu⟩ :=
        calculates_of_stamped hL hexact hwait htoken hstamped hiat hjitter hread
      rw [Punctual, hphase] at hp
      rw [hs'', Punctual]
      exact ⟨hp, le_trans hu (max_le hp (le_deadline hd))⟩
  | @woke u hphase hu =>
      refine h.other (fun _ he => (by cases he)) rfl (le_refl _) ?_ (fun _ _ hp => (by cases hp)) ?_
      · intro since hp
        cases hp
        exact le_add_of_nonneg_right hd
      · intro token iat _ _ _ hp
        rw [Punctual, hphase] at hp
        exact hp.1
  | @attempted since env hphase => exact h.attempts hphase htimely
  | @returned since r hphase =>
      have hnow := h.attempted since r hphase
      refine h.settles (fun _ he => (by cases he)) (settles_returns s r) ?_
      intro token iat _ _ _ hp
      rw [Punctual, hphase] at hp
      cases r with
      | ok u =>
          -- the token is new
          obtain ⟨hsince, hnone⟩ := hp
          rw [hnone, Refresher.returns, Punctual, deadline_zero]
          dsimp only
          linarith
      | error e =>
          obtain ⟨hhandled, hle⟩ := hp
          rw [Refresher.returns, fails_of_handled hhandled, Punctual]
          dsimp only
          exact ⟨by linarith, by linarith⟩
  | @slept u hphase hu =>
      refine h.settles (fun _ he => (by cases he)) ⟨rfl, rfl, by simp, by simp⟩ ?_
      intro token iat _ _ _ hp
      rw [Punctual, hphase] at hp
      exact hp.1
  | stopped hphase =>
      refine h.settles (fun _ he => (by cases he)) ⟨rfl, rfl, by simp, by simp⟩ ?_
      exact fun token iat _ _ _ hp => h.now_le hL hd hk hn hp

/-! ### Retries -/

/-- Since a failed attempt raised: the thread sleeps, and then waits for the token it has. -/
def Retrying (L δ iat : ℚ) (s : Refresher) : Prop :=
  match s.phase with
  | .sleeping u => u = s.now - δ + 10 ∧ s.now ≤ u
  | .looping => δ = 10
  | .waiting u => 10 ≤ δ ∧ s.now ≤ u ∧ u ≤ max (s.now - δ + 10) (iat + L * (9 / 10))
  | .attempting _ => False
  | .attempted _ _ => False
  | .ended _ => True

/-- What is known of the thread since an attempt failed. -/
structure Retries (P : TokenManager) (L : ℚ) (es : List RefresherEvent) (s : Refresher) : Prop where
  succeeded : ∀ since, s.phase = .attempted since (.ok ()) → failures P.audience es = 0
  handled : ∀ since e, s.phase = .attempted since (.error e) → handled e = true
  idle : ∀ δ, sinceFailed P.audience es = some δ →
    ∀ since, s.phase ≠ .attempting since ∧ ∀ r, s.phase ≠ .attempted since r
  retrying : ∀ δ token iat, sinceFailed P.audience es = some δ →
    s.files .attestationToken = some token → Stamped P token iat (iat + L) → iat ≤ s.now - δ →
    Retrying L δ iat s

theorem Retrying.pass {δ : ℚ} (h : Retrying L δ iat s) {t : ℚ} (ht : 0 ≤ t)
    (htimely : Timely P L d s (.pass t)) : Retrying L (δ + t) iat { s with now := s.now + t } := by
  have hsame : s.now + t - (δ + t) = s.now - δ := add_sub_add_right_eq_sub _ _ _
  unfold Retrying at h ⊢
  dsimp only [Timely] at htimely ⊢
  rw [hsame]
  cases hphase : s.phase with
  | looping =>
      rw [hphase] at h htimely
      obtain rfl : t = 0 := htimely
      exact (add_zero δ).trans h
  | waiting u =>
      rw [hphase] at h htimely
      exact ⟨le_trans h.1 (le_add_of_nonneg_right ht), htimely, h.2.2⟩
  | sleeping u =>
      rw [hphase] at h htimely
      exact ⟨h.1, htimely⟩
  | attempting since => rw [hphase] at h; exact h
  | attempted since r => rw [hphase] at h; exact h
  | ended r => exact trivial

/-- Where an event leaves no attempt under way, only the retry is to be looked at. -/
theorem Retries.of_settles {e : RefresherEvent} (hs : Settles s s')
    (hretrying : ∀ δ token iat, sinceFailed P.audience (e :: es) = some δ →
      s.files .attestationToken = some token → Stamped P token iat (iat + L) → iat ≤ s.now - δ →
      Retrying L δ iat s') : Retries P L (e :: es) s' where
  succeeded since hphase := absurd hphase (hs.attempted since _)
  handled since e hphase := absurd hphase (hs.attempted since _)
  idle _ _ since := ⟨hs.attempting since, hs.attempted since⟩
  retrying δ token iat hδ htoken hstamped hiat := by
    rw [hs.files] at htoken
    rw [hs.now] at hiat
    exact hretrying δ token iat hδ htoken hstamped hiat

/-- **What every step keeps of a retry.** -/
theorem Retries.step (hL : 0 < L) (hexact : P.rounding = .finite)
    (hwait : ∀ q, 0 ≤ q → q ≤ L * (9 / 10) → P.eventWait (.finite q) = .ok q)
    (h : Retries P L es s) {e : RefresherEvent} (hst : RefresherStep P s e s')
    (htimely : Timely P L d s e) : Retries P L (e :: es) s' := by
  cases hst with
  | @pass t ht =>
      refine ⟨fun since hp => h.succeeded since hp, fun since e hp => h.handled since e hp, ?_, ?_⟩
      · intro δ hδ
        obtain ⟨δ₀, hδ₀, -⟩ := Option.map_eq_some_iff.mp hδ
        exact h.idle δ₀ hδ₀
      · intro δ token iat hδ htoken hstamped hiat
        obtain ⟨δ₀, hδ₀, rfl⟩ := Option.map_eq_some_iff.mp hδ
        refine (h.retrying δ₀ token iat hδ₀ htoken hstamped ?_).pass ht htimely
        dsimp only at hiat
        linarith
  | @calculated env jitter hphase _ =>
      refine .of_settles (settles_calculates s env jitter) ?_
      intro δ token iat hδ htoken hstamped hiat
      have hretrying := h.retrying δ token iat hδ htoken hstamped hiat
      rw [Retrying, hphase] at hretrying
      obtain rfl : δ = 10 := hretrying
      obtain ⟨hjitter, -, hread⟩ := htimely
      obtain ⟨u, hs'', hnow, hu⟩ :=
        calculates_of_stamped hL hexact hwait htoken hstamped (by linarith) hjitter hread
      rw [hs'', Retrying]
      dsimp only
      rw [sub_add_cancel]
      exact ⟨le_refl _, hnow, hu⟩
  | @woke u hphase hu =>
      exact ⟨fun _ hp => (by cases hp), fun _ _ hp => (by cases hp), fun δ hδ => (by cases hδ),
        fun δ _ _ hδ => (by cases hδ)⟩
  | @attempted since env hphase =>
      have hnone : ∀ δ, sinceFailed P.audience es ≠ some δ :=
        fun δ hδ => (h.idle δ hδ since).1 hphase
      refine ⟨?_, ?_, fun δ hδ => absurd hδ (hnone δ), fun δ _ _ hδ => absurd hδ (hnone δ)⟩
      · intro since' hp
        by_cases hsucceeds : filesReplaced P.audience env = 5
        · exact if_pos hsucceeds
        · obtain ⟨-, e, -, hdone⟩ := attempts_of_fails s since hsucceeds
          cases hdone.symm.trans hp
      · intro since' e hp
        exact htimely.2 e (Phase.attempted.inj hp).2
  | @returned since r hphase =>
      refine .of_settles (settles_returns s r) ?_
      intro δ token iat hδ htoken hstamped hiat
      rw [sinceFailed] at hδ
      split at hδ
      · cases hδ
      · rename_i hfailed
        obtain rfl : (0 : ℚ) = δ := Option.some.inj hδ
        cases r with
        | ok u => exact absurd (h.succeeded since hphase) hfailed
        | error e =>
            rw [Refresher.returns, fails_of_handled (h.handled since e hphase), Retrying]
            dsimp only
            rw [sub_zero]
            exact ⟨rfl, by linarith⟩
  | @slept u hphase hu =>
      refine .of_settles (s := s) ⟨rfl, rfl, by simp, by simp⟩ ?_
      intro δ token iat hδ htoken hstamped hiat
      have hretrying := h.retrying δ token iat hδ htoken hstamped hiat
      rw [Retrying, hphase] at hretrying
      obtain ⟨rfl, hnow⟩ := hretrying
      have hten : δ = 10 := by linarith
      exact hten
  | stopped hphase =>
      exact .of_settles (s := s) ⟨rfl, rfl, by simp, by simp⟩ fun δ _ _ _ _ _ _ => trivial

/-! ### Runs -/

end

/-! ### A run of the toy libraries -/

/-- A `TokenManager` in rational time, whose tokens are issued at 1 and expire at 3601. -/
def toyManager : TokenManager where
  audience := Client.DEFAULT_AUDIENCE
  jitterWindowSeconds := 60
  jwtDecode _ := .ok [("iat", .int 1), ("exp", .int 3601)]
  eventWait
    | .finite q => .ok q
    | _ => .error ⟨.overflowError, [.text "timestamp too large to convert to C PyTime_t"]⟩
  rounding := .finite

theorem toyManager_stamped {i : UInt8} {text : String}
    (htext : Bytes.decodeUtf8 [84, i] = some text) : Stamped toyManager [84, i] 1 3601 where
  nonempty := by simp
  claims := by
    refine ⟨[("iat", .int 1), ("exp", .int 3601)], ?_, ?_, ?_⟩
    · rw [decodeClaims, htext]
      rfl
    · exact_mod_cast isTime_int (n := 1) (by norm_num)
    · exact_mod_cast isTime_int (n := 3601) (by norm_num)

theorem toyManager_draws : toyManager.Draws 0 ∧ toyManager.Draws 60 :=
  ⟨⟨0, by norm_num [toyManager]⟩, ⟨1, by norm_num [toyManager]⟩⟩

/-- Without a token the thread comes to its refresh at once. -/
theorem wakes_at_once {init : Refresher → Prop} {C : Refresher → RefresherEvent → Prop}
    {es : List RefresherEvent} {s : Refresher} (env : ServerEnv)
    (h : Run (System.restrict ⟨init, RefresherStep toyManager⟩ C) es s)
    (hphase : s.phase = .looping) (htoken : (s.files .attestationToken).getD [] = [])
    (hread : env.readFault .attestationToken = none) (hcalculated : C s (.calculated env 0))
    (hwoke : C { s with phase := .waiting s.now } .woke) :
    Run (System.restrict ⟨init, RefresherStep toyManager⟩ C) (.woke :: .calculated env 0 :: es)
      { s with phase := .attempting s.now } := by
  have hduration : s.duration toyManager env 0 = .ok (.finite 0) := by
    rw [Refresher.duration, evalBody_calculate hread, htoken]
    rfl
  have hcalculates := calculates_of_duration (P := toyManager) hduration rfl
  rw [add_zero] at hcalculates
  have hstep : RefresherStep toyManager s (.calculated env 0) _ :=
    .calculated hphase toyManager_draws.1
  rw [hcalculates] at hstep
  exact (h.step ⟨hstep, hcalculated⟩).step ⟨.woke rfl (le_refl _), hwoke⟩

end PromptEncryption.Server
