import PromptEncryption.System.Schedule

/-!
# System — what the refresher waits on

`_calculate_refresh_duration` looks at the stored token's times alone, while the identity is five
files.  So the thread waits on whatever a token with times was left beside: the files of an earlier
process, or the keys of an attempt whose fetch failed.

* `waits_on_usable`: along every run from files that are usable, or that ask for no wait, in which
  every attempt replaces all five files or none, unless no wait is asked for, the duration is positive
  only on a usable identity, and 0.0 otherwise.
* `waits_on_unusable`: a run in which a fetch fails after the keys are replaced, and the thread then
  waits.
-/

namespace PromptEncryption.Server
open Python Programs Runs

section
variable (P : TokenManager) (answers : Answers) (libs : Client.Libraries)
  (nonces : Bytes → List String)

/-- All five files exist, the public keys match the private ones, and the token lists the
fingerprints of both public keys. -/
def Usable (s : Store) : Prop :=
  ∃ i : Identity, (∀ f, s f = some (i.content f)) ∧ EcdsaMatches answers libs i.ecdsa ∧
    MldsaMatches answers libs i.pqc ∧ calculateFingerprint i.ecdsa.pub ∈ nonces i.token ∧
    calculateFingerprint i.pqc.pub ∈ nonces i.token

/-- From now on the stored token asks for no wait: there is none, it has no times, or it is past its
90 percent mark. -/
def Due (now : ℚ) (s : Store) : Prop :=
  ∀ later jitter, now ≤ later → P.Draws jitter →
    durationOf P later jitter ((s .attestationToken).getD []) = .ok (.finite 0)

/-- Every duration for the token is a number. -/
def Readable (token : Bytes) : Prop := ∀ now jitter, ∃ x, durationOf P now jitter token = .ok x

/-- The files are usable, or ask for no wait. -/
def Ready (s : Refresher) : Prop :=
  Due P s.now s.files ∨
    Usable answers libs nonces s.files ∧ Readable P ((s.files .attestationToken).getD [])

/-- The token file can be read, or is reported missing. -/
def ReadsToken (env : ServerEnv) : Prop :=
  ∀ e, env.readFault .attestationToken = some e → e.isinstance .fileNotFoundError = true

/-- The token file is read, and an attempt, answered as `answers` says, replaces all of the files or
none, unless the stored token asks for no wait. -/
def Wholly (s : Refresher) : RefresherEvent → Prop
  | .calculated env _ => ReadsToken env
  | .attempted env => (∀ q a, env.answer q = .ok a → answers q a) ∧
      (filesReplaced P.audience env = 0 ∨ filesReplaced P.audience env = 5 ∨ Due P s.now s.files)
  | _ => True

/-- `_run`, from files that are ready. -/
def readyRefresher : System Refresher RefresherEvent where
  init s := s.phase = .looping ∧ Ready P answers libs nonces s
  step := RefresherStep P

end

section
variable {P : TokenManager} {answers : Answers} {libs : Client.Libraries}
  {nonces : Bytes → List String} {s s' : Refresher} {env : ServerEnv} {since now : ℚ}

theorem Due.later {files : Store} {later : ℚ} (h : Due P now files) (hle : now ≤ later) :
    Due P later files :=
  fun _ jitter hlater hdraw => h _ jitter (le_trans hle hlater) hdraw

/-- What has the token the files had asks for what they asked. -/
theorem Due.of_token {files files' : Store} (h : Due P now files)
    (htoken : files' .attestationToken = files .attestationToken) : Due P now files' := by
  intro later jitter hlater hdraw
  rw [htoken]
  exact h later jitter hlater hdraw

theorem Ready.of_eq (h : Ready P answers libs nonces s) (hfiles : s'.files = s.files)
    (hnow : s.now ≤ s'.now) : Ready P answers libs nonces s' := by
  unfold Ready
  rw [hfiles]
  exact h.imp_left fun hdue => hdue.later hnow

/-- The identity of an attempt that replaced every file is usable. -/
theorem usable_of_attempt (hsig : Signatures answers libs) (htok : Tokens answers nonces)
    (henv : ∀ q a, env.answer q = .ok a → answers q a) (hn : filesReplaced P.audience env = 5)
    (s : Store) : Usable answers libs nonces (s.overwrite 5 (attemptIdentity P.audience env)) := by
  have hlists := htok.nonces_eq (henv _ _ (fetched_token hn))
  refine ⟨attemptIdentity P.audience env, fun f => if_pos ?_,
    hsig.ecdsa (henv _ _ (generated_ecdsa (by omega))),
    hsig.mldsa (henv _ _ (generated_pqc (by omega))), ?_, ?_⟩
  · cases f <;> simp [File.index]
  · rw [hlists]
    exact List.mem_cons_self
  · rw [hlists]
    exact List.mem_cons_of_mem _ List.mem_cons_self

/-- **An attempt that replaces all of the files or none** leaves them ready. -/
theorem Ready.attempts (hsig : Signatures answers libs) (htok : Tokens answers nonces)
    (hread : ∀ ns audience token, answers (.fetchToken ns audience) token → Readable P token)
    (h : Ready P answers libs nonces s) (hwholly : Wholly P answers s (.attempted env)) :
    Ready P answers libs nonces (s.attempts P env since) := by
  obtain ⟨henv, hn⟩ := hwholly
  obtain ⟨r, hr, -⟩ := evalBody_refresh P.audience env s.files
  have hfiles : (s.attempts P env since).files =
      s.files.overwrite (filesReplaced P.audience env) (attemptIdentity P.audience env) :=
    congrArg Prod.snd hr
  by_cases hfive : filesReplaced P.audience env = 5
  · refine .inr ⟨?_, ?_⟩
    · rw [hfiles, hfive]
      exact usable_of_attempt hsig htok henv hfive s.files
    · rw [hfiles, hfive]
      exact hread _ _ _ (henv _ _ (fetched_token hfive))
  · rcases hn with hzero | hfive' | hdue
    · rw [hzero, Store.overwrite_zero] at hfiles
      exact h.of_eq hfiles (le_refl _)
    · exact absurd hfive' hfive
    · exact .inl (hdue.of_token (attempts_of_fails _ _ hfive).1)

theorem Ready.step (hsig : Signatures answers libs) (htok : Tokens answers nonces)
    (hread : ∀ ns audience token, answers (.fetchToken ns audience) token → Readable P token)
    (h : Ready P answers libs nonces s) {e : RefresherEvent} (hst : RefresherStep P s e s')
    (hwholly : Wholly P answers s e) : Ready P answers libs nonces s' := by
  cases hst with
  | pass ht => exact h.of_eq rfl (le_add_of_nonneg_right ht)
  | @calculated env jitter _ _ =>
      have hs := settles_calculates (P := P) s env jitter
      exact h.of_eq hs.files (le_of_eq hs.now.symm)
  | woke _ _ => exact h.of_eq rfl (le_refl _)
  | attempted _ => exact h.attempts hsig htok hread hwholly
  | @returned since r _ =>
      have hs := settles_returns s r
      exact h.of_eq hs.files (le_of_eq hs.now.symm)
  | slept _ _ => exact h.of_eq rfl (le_refl _)
  | stopped _ => exact h.of_eq rfl (le_refl _)

/-- The duration is for the stored token, or for none. -/
theorem duration_eq (henv : ReadsToken env) (jitter : ℚ) :
    s.duration P env jitter = durationOf P s.now jitter ((s.files .attestationToken).getD []) ∨
      s.duration P env jitter = .ok (.finite 0) := by
  rcases Option.eq_none_or_eq_some (env.readFault .attestationToken) with hnone | ⟨e, he⟩
  · left
    rw [Refresher.duration, evalBody_calculate hnone]
  · right
    have hread : evalBody env getAttestationToken s.files = (.ok [], s.files) := by
      rw [getAttestationToken, evalBody_withLock, readToken, evalBody_bind, evalBody_tryCatch,
        evalBody_readRaw, Env.readAnswer, he]
      dsimp only
      rw [if_pos (henv e he)]
      rfl
    rw [Refresher.duration, calculateRefreshDuration, evalBody_bind, hread]
    rfl

/-- **The thread waits on a usable identity.**  In every state of every run from ready files whose
attempts replace all five files or none, unless no wait is asked for: a duration is positive only
where the identity is usable, and otherwise 0.0 is returned. -/
theorem waits_on_usable (hsig : Signatures answers libs) (htok : Tokens answers nonces)
    (hread : ∀ ns audience token, answers (.fetchToken ns audience) token → Readable P token)
    {es : List RefresherEvent}
    (h : Run ((readyRefresher P answers libs nonces).restrict (Wholly P answers)) es s)
    {jitter : ℚ} (hdraw : P.Draws jitter) (henv : ReadsToken env) :
    ∃ x, s.duration P env jitter = .ok x ∧
      (x.IsPos ∧ Usable answers libs nonces s.files ∨ x = .finite 0) := by
  have hready : Ready P answers libs nonces s := by
    refine h.invariant_state (P := Ready P answers libs nonces) ?_ ?_
    · intro s hs
      exact hs.2
    · intro s e s' ih hst
      exact ih.step hsig htok hread hst.1 hst.2
  rcases duration_eq (s := s) (P := P) henv jitter with hduration | hduration
  · rcases hready with hdue | ⟨husable, hreadable⟩
    · exact ⟨_, hduration.trans (hdue _ jitter (le_refl _) hdraw), .inr rfl⟩
    · obtain ⟨x, hx⟩ := hreadable s.now jitter
      by_cases hpos : x.IsPos
      · exact ⟨x, hduration.trans hx, .inl ⟨hpos, husable⟩⟩
      · exact ⟨x, hduration.trans hx, .inr (durationOf_not_pos hx hpos)⟩
  · exact ⟨_, hduration, .inr rfl⟩

end

/-! ### Runs of the toy libraries -/

theorem toyManager_readable {ns : List String} {audience : String} {token : Bytes}
    (h : toyAnswers (.fetchToken ns audience) token) : Readable toyManager token := by
  intro now jitter
  rcases h with ⟨-, rfl⟩ | ⟨-, rfl⟩
  · exact ⟨_, durationOf_stamped rfl (toyManager_stamped (Bytes.utf8_decode_encode "T0"))⟩
  · exact ⟨_, durationOf_stamped rfl (toyManager_stamped (Bytes.utf8_decode_encode "T1"))⟩

theorem toyStore_usable : Usable toyAnswers toyLibs toyTokenNonces toyStore :=
  ⟨⟨toyEcdsa 48, toyMldsa 48, [84, 48]⟩, fun _ => rfl, toy_signatures.ecdsa (.inl rfl),
    toy_signatures.mldsa (.inl rfl), List.mem_cons_self, List.mem_cons_of_mem _ List.mem_cons_self⟩

/-- The thread finds a token without a wait, and makes one. -/
theorem waits_after_first_attempt : ∃ es s x,
    Run ((readyRefresher toyManager toyAnswers toyLibs toyTokenNonces).restrict
      (Wholly toyManager toyAnswers)) es s ∧
    s.duration toyManager (toyAttempt 48 true) 60 = .ok x ∧
    (x.IsPos ∧ Usable toyAnswers toyLibs toyTokenNonces s.files ∨ x = .finite 0) := by
  have hdue : Due toyManager 1 fun _ => none := fun _ _ _ _ => rfl
  have h := Run.init (S := (readyRefresher toyManager toyAnswers toyLibs toyTokenNonces).restrict
    (Wholly toyManager toyAnswers)) (s := ⟨fun _ => none, 1, .looping⟩) ⟨rfl, .inl hdue⟩
  have h := wakes_at_once (toyAttempt 48 true) h rfl rfl rfl (fun e he => (by cases he)) trivial
  have h := h.step ⟨.attempted rfl, fun q a => (toyAttempt_obeys (.inl rfl) true).answer,
    .inr (.inl (toyAttempt_filesReplaced 48 true))⟩
  have henv : ReadsToken (toyAttempt 48 true) := fun e he => (by cases he)
  obtain ⟨x, hx, hwait⟩ := waits_on_usable toy_signatures toy_tokens
    (fun _ _ _ => toyManager_readable) h toyManager_draws.2 henv
  exact ⟨_, _, x, h, hx, hwait⟩

/-- The thread wakes up 60 seconds early and makes new keys, but no token is fetched. -/
theorem failedFetch_run : ∃ es s, Run (refresher toyManager) es s ∧ s.phase = .looping ∧
    s.now = 3191 ∧ s.files = (evalBody (toyAttempt 49 false) (refresh toyManager.audience)
      toyStore).2 := by
  have hstamped := toyManager_stamped (Bytes.utf8_decode_encode "T0")
  have h := Run.init (S := refresher toyManager) (s := ⟨toyStore, 1, .looping⟩) rfl
  have hduration : (⟨toyStore, 1, .looping⟩ : Refresher).duration toyManager
      (toyAttempt 49 false) 60 = .ok (.finite 3180) := by
    rw [Refresher.duration, evalBody_calculate rfl]
    refine (durationOf_stamped rfl hstamped).trans ?_
    norm_num [DEFAULT_REFRESH_MULTIPLIER]
  have hcalculates := calculates_of_duration (P := toyManager) hduration rfl
  have hstep : RefresherStep toyManager ⟨toyStore, 1, .looping⟩
      (.calculated (toyAttempt 49 false) 60) _ := .calculated rfl toyManager_draws.2
  have h := h.step hstep
  rw [hcalculates] at h
  have h := h.step (.pass (t := 3180) (by norm_num))
  have h := h.step (.woke rfl (le_refl _))
  have h := h.step (@RefresherStep.attempted toyManager _ _ (toyAttempt 49 false) rfl)
  have h := h.step (.returned (r := .error ⟨.runtimeError, []⟩) rfl)
  have h := h.step (.pass (t := 10) (by norm_num))
  have h := h.step (.slept rfl (le_refl _))
  have hnow : (1 : ℚ) + 3180 + 10 = 3191 := by norm_num
  exact ⟨_, _, h, rfl, hnow, rfl⟩

/-- The identity is usable at first; then the thread waits on one that is not. -/
theorem waits_on_unusable : ∃ es s x,
    Usable toyAnswers toyLibs toyTokenNonces toyStore ∧ Run (refresher toyManager) es s ∧
    s.phase = .looping ∧ s.duration toyManager (toyAttempt 49 false) 0 = .ok x ∧ x.IsPos ∧
    ¬ Usable toyAnswers toyLibs toyTokenNonces s.files := by
  have hstamped := toyManager_stamped (Bytes.utf8_decode_encode "T0")
  obtain ⟨es, s, h, hphase, hnow, hfiles⟩ := failedFetch_run
  have htoken : s.files .attestationToken = some [84, 48] := by rw [hfiles]; rfl
  have hpub : s.files .publicKey = some [2, 49] := by rw [hfiles]; rfl
  refine ⟨es, s, .finite 50, toyStore_usable, h, hphase, ?_, by norm_num, ?_⟩
  · rw [Refresher.duration, evalBody_calculate rfl, htoken, hnow]
    refine (durationOf_stamped rfl hstamped).trans ?_
    norm_num [DEFAULT_REFRESH_MULTIPLIER]
  · rintro ⟨i, hi, -, -, hlisted, -⟩
    have hi₁ : i.ecdsa.pub = [2, 49] := Option.some.inj ((hi .publicKey).symm.trans hpub)
    have hi₂ : i.token = [84, 48] := Option.some.inj ((hi .attestationToken).symm.trans htoken)
    rw [hi₁, hi₂] at hlisted
    exact toy_fresh hlisted

end PromptEncryption.Server
