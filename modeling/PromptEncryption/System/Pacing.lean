import PromptEncryption.Server.Waiting
import PromptEncryption.System.Survival

/-!
# System — how soon an unusable token is retried

`_run` backs off after an exception, and waits for the 90 percent mark of the token it has.  A fetch
that returns no usable token without raising falls under neither: the wait for it is 0.

* `unusable_paced`: along every run whose attempts store no token the duration takes for an immediate
  refresh, an attempt that leaves an unusable token is not followed by another before the retry
  interval is over.
* `empty_reply_unpaced`: after an empty reply of status 200 the next attempt begins at once.
-/

namespace PromptEncryption.Server
open Python Programs Runs

/-! ### Unusable tokens -/

/-- The wait for the content is 0 for want of a token or its times. -/
def Immediate (P : TokenManager) (content : Bytes) : Prop :=
  content = [] ∨ decodeClaims P content = .ok none ∨
    ∃ claims, decodeClaims P content = .ok (some claims) ∧
      ((dictGet claims "exp").truthy = false ∨ (dictGet claims "iat").truthy = false)

/-- The content is empty, cannot be parsed, or is a token without `iat` or `exp`. -/
def Unusable (P : TokenManager) (content : Bytes) : Prop :=
  Immediate P content ∨ ∃ e, decodeClaims P content = .error e

/-- The time since the last attempt ended, until the next begins. -/
def sinceReturned : List RefresherEvent → Option ℚ
  | [] => none
  | .returned :: _ => some 0
  | .woke :: _ => none
  | .pass t :: es => (sinceReturned es).map (· + t)
  | _ :: es => sinceReturned es

/-- An attempt that begins after one that left an unusable token begins no sooner than the retry
interval after its end. -/
def Paced (P : TokenManager) (es : List RefresherEvent) (s : Refresher) : Prop :=
  ∀ earlier δ, es = .woke :: earlier → sinceReturned earlier = some δ →
    Unusable P s.tokenContent → DEFAULT_RETRY_INTERVAL_SECONDS ≤ δ

/-- **No attempt stores a token that means an immediate refresh**, and the token file that is there
is not reported missing. -/
def StoresUsable (P : TokenManager) (_ : Refresher) : RefresherEvent → Prop
  | .attempted env => filesReplaced P.audience env = 5 →
      ¬ Immediate P (attemptIdentity P.audience env).token
  | .calculated env _ => ∀ e, env.readFault .attestationToken = some e →
      e.isinstance .fileNotFoundError = false
  | _ => True

/-- Of the replies of a backend: none of them is a token that means an immediate refresh. -/
theorem storesUsable_of_replies {P : TokenManager} {s : Refresher} {env : ServerEnv} {b : Backend}
    (hb : b.Answers env) (h : ∀ nonces token,
      b.fetchAttestationToken nonces P.audience = .ok token → ¬ Immediate P token) :
    StoresUsable P s (.attempted env) := by
  intro hsucceeds
  have hfetched := fetched_token hsucceeds
  rw [hb] at hfetched
  exact h _ _ hfetched

/-! ### What is kept -/

section
variable {P : TokenManager} {es : List RefresherEvent} {s s' : Refresher} {δ : ℚ}

/-- Where the thread is, `δ` after an attempt that left an unusable token. -/
def PacedFor (P : TokenManager) (δ : ℚ) (s : Refresher) : Prop :=
  match s.phase with
  | .sleeping u => s.now - δ + 10 ≤ u
  | .looping => 10 ≤ δ ∨ s.tokenContent ≠ [] ∧ ∃ e, decodeClaims P s.tokenContent = .error e
  | .waiting _ => 10 ≤ δ
  | .attempting _ => False
  | .attempted _ _ => False
  | .ended _ => True

/-- What is known of the thread since its last attempt. -/
structure Pacing (P : TokenManager) (es : List RefresherEvent) (s : Refresher) : Prop where
  stored : ∀ since, s.phase = .attempted since (.ok ()) → ¬ Immediate P s.tokenContent
  idle : ∀ δ, sinceReturned es = some δ → 0 ≤ δ ∧
    ∀ since, s.phase ≠ .attempting since ∧ ∀ r, s.phase ≠ .attempted since r
  paced : ∀ δ, sinceReturned es = some δ → Unusable P s.tokenContent → PacedFor P δ s

/-- An exception of the loop's body: the thread sleeps or ends. -/
theorem PacedFor.fails (e : Exc) (hδ : 0 ≤ δ) : PacedFor P δ (s.fails e) := by
  by_cases h : handled e = true
  · rw [fails_of_handled h, PacedFor]
    dsimp only
    linarith
  · rw [Refresher.fails, if_neg h]
    exact trivial

/-- A token that cannot be parsed raises. -/
theorem duration_of_unparsable {env : ServerEnv} (jitter : ℚ) {e : Exc}
    (hread : ∀ e, env.readFault .attestationToken = some e →
      e.isinstance .fileNotFoundError = false)
    (hne : s.tokenContent ≠ []) (he : decodeClaims P s.tokenContent = .error e) :
    ∃ e', s.duration P env jitter = .error e' := by
  cases hfault : env.readFault .attestationToken with
  | none =>
      refine ⟨e, ?_⟩
      rw [Refresher.duration, evalBody_calculate hfault]
      change durationOf P s.now jitter s.tokenContent = _
      rw [durationOf, if_neg hne, he]
      rfl
  | some e' =>
      refine ⟨e', ?_⟩
      have hraises : (evalBody env getAttestationToken s.files).1 = .error e' := by
        rw [getAttestationToken, evalBody_withLock, readToken]
        refine evalBody_bind_error.mpr (.inl ?_)
        rw [evalBody_tryCatch, evalBody_readRaw, Env.readAnswer, hfault]
        dsimp only
        rw [hread e' hfault]
        rfl
      exact evalBody_bind_error.mpr (.inl hraises)

theorem PacedFor.calculates {env : ServerEnv} {jitter : ℚ} (hphase : s.phase = .looping)
    (hread : ∀ e, env.readFault .attestationToken = some e →
      e.isinstance .fileNotFoundError = false)
    (hδ : 0 ≤ δ) (h : PacedFor P δ s) : PacedFor P δ (s.calculates P env jitter) := by
  rw [PacedFor, hphase] at h
  rcases h with h | ⟨hne, e, he⟩
  · rw [Refresher.calculates]
    cases s.duration P env jitter >>= P.eventWait with
    | ok t => exact h
    | error e => exact .fails e hδ
  · obtain ⟨e', he'⟩ := duration_of_unparsable jitter hread hne he
    rw [Refresher.calculates, he']
    exact .fails e' hδ

theorem tokenContent_of_files (h : s'.files = s.files) : s'.tokenContent = s.tokenContent := by
  rw [Refresher.tokenContent, Refresher.tokenContent, h]

/-- Where an event leaves no attempt under way, only the pace is to be looked at. -/
theorem Pacing.of_settles {e : RefresherEvent} (hs : Settles s s')
    (hnonneg : ∀ δ, sinceReturned (e :: es) = some δ → 0 ≤ δ)
    (hpaced : ∀ δ, sinceReturned (e :: es) = some δ → Unusable P s.tokenContent →
      PacedFor P δ s') : Pacing P (e :: es) s' where
  stored since hphase := absurd hphase (hs.attempted since _)
  idle δ hδ := ⟨hnonneg δ hδ, fun since => ⟨hs.attempting since, hs.attempted since⟩⟩
  paced δ hδ hunusable := by
    rw [tokenContent_of_files hs.files] at hunusable
    exact hpaced δ hδ hunusable

/-- **What every step keeps of the pace.** -/
theorem Pacing.step (h : Pacing P es s) {e : RefresherEvent} (hst : RefresherStep P s e s')
    (hstores : StoresUsable P s e) : Pacing P (e :: es) s' := by
  cases hst with
  | @pass t ht =>
      refine ⟨h.stored, fun δ hδ => ?_, fun δ hδ hunusable => ?_⟩
      · obtain ⟨δ₀, hδ₀, rfl⟩ := Option.map_eq_some_iff.mp hδ
        obtain ⟨hnonneg, hidle⟩ := h.idle δ₀ hδ₀
        exact ⟨add_nonneg hnonneg ht, hidle⟩
      · obtain ⟨δ₀, hδ₀, rfl⟩ := Option.map_eq_some_iff.mp hδ
        have hpaced := h.paced δ₀ hδ₀ hunusable
        unfold PacedFor at hpaced ⊢
        cases hphase : s.phase with
        | looping =>
            rw [hphase] at hpaced
            exact hpaced.imp_left fun hle => le_trans hle (le_add_of_nonneg_right ht)
        | waiting u => rw [hphase] at hpaced; exact le_trans hpaced (le_add_of_nonneg_right ht)
        | sleeping u =>
            rw [hphase] at hpaced
            dsimp only at hpaced ⊢
            linarith
        | attempting since => rw [hphase] at hpaced; exact hpaced
        | attempted since r => rw [hphase] at hpaced; exact hpaced
        | ended r => exact trivial
  | @calculated env jitter hphase _ =>
      refine .of_settles (settles_calculates s env jitter) (fun δ hδ => (h.idle δ hδ).1) ?_
      intro δ hδ hunusable
      exact (h.paced δ hδ hunusable).calculates hphase hstores (h.idle δ hδ).1
  | woke _ _ =>
      exact ⟨fun _ hp => (by cases hp), fun δ hδ => (by cases hδ), fun δ hδ => (by cases hδ)⟩
  | @attempted since env hphase =>
      have hnone : ∀ δ, sinceReturned es ≠ some δ :=
        fun δ hδ => ((h.idle δ hδ).2 since).1 hphase
      refine ⟨?_, fun δ hδ => absurd hδ (hnone δ), fun δ hδ => absurd hδ (hnone δ)⟩
      intro since' hp
      by_cases hsucceeds : filesReplaced P.audience env = 5
      · obtain ⟨htoken, -⟩ := attempts_of_succeeds s since hsucceeds
        rw [Refresher.tokenContent, htoken]
        exact hstores hsucceeds
      · obtain ⟨-, e, -, hdone⟩ := attempts_of_fails s since hsucceeds
        cases hdone.symm.trans hp
  | @returned since r hphase =>
      refine .of_settles (settles_returns s r) (fun δ hδ => ?_) fun δ hδ hunusable => ?_
      · cases hδ
        exact le_refl 0
      · cases hδ
        cases r with
        | error e => exact .fails e (le_refl 0)
        | ok u =>
            -- what was stored is usable, or it cannot be parsed
            have hstored := h.stored since hphase
            refine .inr ⟨fun hnil => hstored (.inl hnil), ?_⟩
            exact hunusable.resolve_left hstored
  | @slept u hphase hu =>
      refine .of_settles (s := s) ⟨rfl, rfl, by simp, by simp⟩ (fun δ hδ => (h.idle δ hδ).1) ?_
      intro δ hδ hunusable
      have hpaced := h.paced δ hδ hunusable
      rw [PacedFor, hphase] at hpaced
      refine .inl ?_
      dsimp only at hpaced
      linarith
  | stopped _ =>
      exact .of_settles (s := s) ⟨rfl, rfl, by simp, by simp⟩ (fun δ hδ => (h.idle δ hδ).1)
        fun δ _ _ => trivial

/-! ### Every run -/

theorem pacing_of_run (h : Run ((refresher P).restrict (StoresUsable P)) es s) :
    Pacing P es s := by
  refine h.invariant (P := Pacing P) ?_ ?_
  · intro s hs
    have hlooping : s.phase = .looping := hs
    refine ⟨fun since hp => ?_, fun δ hδ => (by cases hδ), fun δ hδ => (by cases hδ)⟩
    cases hlooping.symm.trans hp
  · intro es s e s' _ ih hst
    exact ih.step hst.1 hst.2

/-- **Unusable tokens are retried at a bounded rate.**  Along every run whose attempts store no token
that means an immediate refresh, the attempt after one that left an unusable token begins no sooner
than the retry interval after its end. -/
theorem unusable_paced (h : Run ((refresher P).restrict (StoresUsable P)) es s) :
    Paced P es s := by
  rintro earlier δ rfl hδ hunusable
  obtain ⟨s₀, h₀, hst, -⟩ := h.last
  cases hst with
  | @woke u hphase hu =>
      have hpaced := (pacing_of_run h₀).paced δ hδ hunusable
      rw [PacedFor, hphase] at hpaced
      exact hpaced

end

/-! ### An empty reply -/

/-- A reply of status 200 with no body. -/
def emptyReply : TeeReply := ⟨.ok (), .ok (200, "OK"), .ok []⟩

/-- **After an empty reply the next attempt begins at once.** -/
theorem empty_reply_unpaced :
    (∃ es s, Run (refresher toyManager) (.woke :: es) s ∧ sinceReturned es = some 0 ∧
      s.tokenContent = []) ∧
    ¬ ∀ (P : TokenManager) (es : List RefresherEvent) (s : Refresher),
      Run (refresher P) es s → Paced P es s := by
  have hreturns : (evalBody (backendAttempt (repliesWith emptyReply)) (refresh toyManager.audience)
      fun _ => none).1 = .ok () := rfl
  have hstored : (evalBody (backendAttempt (repliesWith emptyReply)) (refresh toyManager.audience)
      fun _ => none).2 .attestationToken = some [] := rfl
  obtain ⟨s, h, hs⟩ := iteration_run (C := fun _ _ => True) hreturns rfl
    (fun _ => ⟨trivial, trivial, trivial⟩) trivial
  have hempty : s.tokenContent = [] := by
    rw [hs]
    exact congrArg (fun x => Option.getD x []) hstored
  have h := (wakes_at_once (backendAttempt (repliesWith emptyReply)) h (by rw [hs]; rfl) hempty rfl
    trivial trivial).of_restrict
  refine ⟨⟨_, _, h, rfl, hempty⟩, fun hall => ?_⟩
  have hten := hall _ _ _ h _ 0 rfl rfl (.inl (.inl hempty))
  norm_num [DEFAULT_RETRY_INTERVAL_SECONDS] at hten

/-- After a reply of status 500 it begins 10 seconds later. -/
theorem errorReply_paced : ∃ es s,
    Run ((refresher toyManager).restrict (StoresUsable toyManager)) (.woke :: es) s ∧
      sinceReturned es = some 10 ∧ s.tokenContent = [] ∧ Paced toyManager (.woke :: es) s := by
  have hraises : (evalBody (backendAttempt (repliesWith errorReply)) (refresh toyManager.audience)
      fun _ => none).1 = .error ⟨.runtimeError, _⟩ := rfl
  have hkept : (evalBody (backendAttempt (repliesWith errorReply)) (refresh toyManager.audience)
      fun _ => none).2 .attestationToken = none := rfl
  have hread : ∀ s, StoresUsable toyManager s
      (.calculated (backendAttempt (repliesWith errorReply)) 0) := fun s e he => by cases he
  have hfails : StoresUsable toyManager ⟨fun _ => none, 1, .attempting 1⟩
      (.attempted (backendAttempt (repliesWith errorReply))) := by
    intro hsucceeds
    obtain ⟨r, hr, hok⟩ := evalBody_refresh toyManager.audience
      (backendAttempt (repliesWith errorReply)) fun _ => none
    rw [hr] at hraises
    obtain rfl : r = _ := hraises
    cases hok.mpr hsucceeds
  obtain ⟨s, h, hs⟩ := iteration_run (C := StoresUsable toyManager) hraises rfl
    (fun s => ⟨hread s, trivial, trivial⟩) hfails
  have hsleeping : s.phase = .sleeping 11 := by
    rw [hs, Refresher.returns, fails_of_handled rfl]
    norm_num
  have hnow : s.now = 1 := by
    rw [hs, Refresher.returns, fails_of_handled rfl]
  have hempty : s.tokenContent = [] := by
    rw [hs, Refresher.returns, fails_of_handled rfl]
    exact congrArg (fun x => Option.getD x []) hkept
  have h := h.step ⟨.pass (t := 10) (by norm_num), trivial⟩
  have h := h.step ⟨.slept (u := 11) hsleeping (by rw [hnow]; norm_num), trivial⟩
  have h := wakes_at_once (backendAttempt (repliesWith errorReply)) h rfl hempty rfl (hread _)
    trivial
  exact ⟨_, _, h, by norm_num [sinceReturned], hempty, unusable_paced h⟩

end PromptEncryption.Server
