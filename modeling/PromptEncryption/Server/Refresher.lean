import PromptEncryption.Client.Validator
import PromptEncryption.Server.Store
import PromptEncryption.Support.Numbers
import PromptEncryption.Support.Runs

/-!
# Server — the refresher thread

`TokenManager._calculate_refresh_duration` and `TokenManager._run` (`server/token.py`), the thread
over the five files and one clock.  Time passes between its steps (`RefresherEvent.pass`) and while
it waits, sleeps or refreshes; a wait and a sleep last at least as long as asked.

What a token says of its times is read by PyJWT (`jwtDecode`), and `threading.Event.wait` takes the
duration or raises (`eventWait`).  How the arithmetic of the duration is rounded is a parameter
(`rounding`): as CPython does it (`binary64`), or not at all, in rational time.

* `durationOf_stamped`: for a token with times `iat` and `exp`, and in rational time, the wait to the
  90 percent mark less the jitter, at least 0.
* `evalBody_calculate`: the duration reads the token file and nothing else.
* `attempts_of_succeeds`, `attempts_of_fails`, `Settles`: what an attempt leaves, and what the other
  steps leave alone.
-/

namespace PromptEncryption.Server
open Python Programs Runs

/-! ### PyJWT -/

abbrev invalidTokenError : ExcClass :=
  .derived "InvalidTokenError" (.derived "PyJWTError" .exception)

abbrev decodeError : ExcClass := .derived "DecodeError" invalidTokenError

abbrev invalidSignatureError : ExcClass := .derived "InvalidSignatureError" decodeError

abbrev invalidAlgorithmError : ExcClass := .derived "InvalidAlgorithmError" invalidTokenError

/-! ### How long to wait -/

def DEFAULT_REFRESH_MULTIPLIER : ℚ := 9 / 10

def DEFAULT_RETRY_INTERVAL_SECONDS : ℚ := 10

/-- What a `TokenManager` is made with, and its libraries. -/
structure TokenManager where
  audience : String
  jitterWindowSeconds : ℚ
  /-- `jwt.decode(text, options={"verify_signature": False})`. -/
  jwtDecode : String → Except Exc Dict
  /-- How long `self._stop_event.wait(timeout=duration)` waits while the event is not set. -/
  eventWait : Python.Float → Except Exc ℚ
  /-- How the results of operations on `float`s, the clock's readings and the draws are rounded. -/
  rounding : Rounding

section
variable (P : TokenManager)

/-- What `self.rng.uniform(0, self.jitter_window_seconds)` may return. -/
def TokenManager.Draws (jitter : ℚ) : Prop :=
  ∃ r : ℚ, 0 ≤ r ∧ r ≤ 1 ∧ jitter = r * P.jitterWindowSeconds

/-- The claims of a token, `none` where PyJWT rejects it. -/
def decodeClaims (tokenBytes : Bytes) : Except Exc (Option Dict) :=
  match Bytes.decodeUtf8 tokenBytes with
  | none => .error ⟨.unicodeDecodeError, []⟩
  | some text =>
      match P.jwtDecode text with
      | .ok claims => .ok (some claims)
      | .error e =>
          if e.isinstance decodeError || e.isinstance invalidTokenError ||
            e.isinstance invalidSignatureError || e.isinstance invalidAlgorithmError then .ok none
          else .error e

/-- `target_time`. -/
def targetTime (exp iat : Json) : Except Exc Python.Float := do
  let lifespan ← exp.sub P.rounding iat
  let scaled ← lifespan.mulFloat P.rounding (P.rounding DEFAULT_REFRESH_MULTIPLIER)
  iat.addFloat P.rounding scaled

/-- The duration for the claims `exp` and `iat`, at the clock's `now` and a draw of the jitter. -/
def durationTo (now jitter : ℚ) (exp iat : Json) : Except Exc Python.Float :=
  if !exp.truthy || !iat.truthy then .ok (.finite 0)
  else do
    let target ← targetTime P exp iat
    let waitSeconds := target.sub P.rounding (P.rounding now)
    return (waitSeconds.sub P.rounding (P.rounding jitter)).maxZero

/-- The duration for the bytes of a token. -/
def durationOf (now jitter : ℚ) (tokenBytes : Bytes) : Except Exc Python.Float :=
  if tokenBytes = [] then .ok (.finite 0)
  else do
    match ← decodeClaims P tokenBytes with
    | none => return .finite 0
    | some claims => durationTo P now jitter (dictGet claims "exp") (dictGet claims "iat")

/-- `_calculate_refresh_duration`. -/
def calculateRefreshDuration (now jitter : ℚ) : Action Python.Float := do
  let tokenBytes ← getAttestationToken
  lift (durationOf P now jitter tokenBytes)

end

/-! ### The thread -/

/-- Where the thread is in `_run`. -/
inductive Phase where
  /-- At the head of the loop. -/
  | looping
  /-- In `self._stop_event.wait`, until a time. -/
  | waiting (until_ : ℚ)
  /-- In `self.refresh()`, which began at a time and has done nothing yet. -/
  | attempting (since : ℚ)
  /-- In `self.refresh()`, with its work done. -/
  | attempted (since : ℚ) (result : Except Exc Unit)
  /-- In `time.sleep`, until a time. -/
  | sleeping (until_ : ℚ)
  /-- The thread has ended: stopped, or with an exception. -/
  | ended (raised : Option Exc)

structure Refresher where
  files : Store
  now : ℚ
  phase : Phase

inductive RefresherEvent where
  | pass (t : ℚ)
  /-- `_calculate_refresh_duration()` is called, and `wait` with what it returns. -/
  | calculated (env : ServerEnv) (jitter : ℚ)
  /-- The wait times out. -/
  | woke
  /-- `refresh()` does its work. -/
  | attempted (env : ServerEnv)
  /-- `refresh()` returns or raises. -/
  | returned
  /-- The sleep is over. -/
  | slept
  /-- `self._stop_event` is found set. -/
  | stopped

/-- What the `except` clause of `_run` catches. -/
def handled (e : Exc) : Bool :=
  e.isinstance .osError || e.isinstance .runtimeError || e.isinstance .valueError ||
    e.isinstance Client.tinkError

namespace Refresher
variable (P : TokenManager) (s : Refresher)

/-- The body of the loop has raised. -/
def fails (e : Exc) : Refresher :=
  { s with phase := if handled e then .sleeping (s.now + DEFAULT_RETRY_INTERVAL_SECONDS)
    else .ended (some e) }

/-- What the thread waits for, from here. -/
def duration (env : ServerEnv) (jitter : ℚ) : Except Exc Python.Float :=
  (evalBody env (calculateRefreshDuration P s.now jitter) s.files).1

def calculates (env : ServerEnv) (jitter : ℚ) : Refresher :=
  match s.duration P env jitter >>= P.eventWait with
  | .ok t => { s with phase := .waiting (s.now + t) }
  | .error e => s.fails e

/-- `refresh()`, begun at `since`. -/
def attempts (env : ServerEnv) (since : ℚ) : Refresher where
  files := (evalBody env (refresh P.audience) s.files).2
  now := s.now
  phase := .attempted since (evalBody env (refresh P.audience) s.files).1

def returns : Except Exc Unit → Refresher
  | .ok () => { s with phase := .looping }
  | .error e => s.fails e

end Refresher

section
variable (P : TokenManager)

inductive RefresherStep : Refresher → RefresherEvent → Refresher → Prop where
  | pass {s t} : 0 ≤ t → RefresherStep s (.pass t) { s with now := s.now + t }
  | calculated {s env jitter} : s.phase = .looping → P.Draws jitter →
      RefresherStep s (.calculated env jitter) (s.calculates P env jitter)
  | woke {s u} : s.phase = .waiting u → u ≤ s.now →
      RefresherStep s .woke { s with phase := .attempting s.now }
  | attempted {s since env} : s.phase = .attempting since →
      RefresherStep s (.attempted env) (s.attempts P env since)
  | returned {s since r} : s.phase = .attempted since r → RefresherStep s .returned (s.returns r)
  | slept {s u} : s.phase = .sleeping u → u ≤ s.now →
      RefresherStep s .slept { s with phase := .looping }
  | stopped {s} : s.phase = .looping ∨ (∃ u, s.phase = .waiting u) →
      RefresherStep s .stopped { s with phase := .ended none }

/-- `_run`, from any time and over any files. -/
def refresher : System Refresher RefresherEvent where
  init s := s.phase = .looping
  step := RefresherStep P

end

/-! ### What the duration is -/

section
variable {P : TokenManager} {now jitter : ℚ} {token : Bytes} {iat exp : ℚ}

/-- The token's claims are the times `iat` and `exp`. -/
structure Stamped (P : TokenManager) (token : Bytes) (iat exp : ℚ) : Prop where
  nonempty : token ≠ []
  claims : ∃ claims, decodeClaims P token = .ok (some claims) ∧
    IsTime (dictGet claims "iat") iat ∧ IsTime (dictGet claims "exp") exp

theorem targetTime_of_isTime {v w : Json} (hexact : P.rounding = .finite) (hv : IsTime v exp)
    (hw : IsTime w iat) :
    targetTime P v w = .ok (.finite (iat + (exp - iat) * DEFAULT_REFRESH_MULTIPLIER)) := by
  have hscaled : (v.sub .finite w >>= Number.mulFloat .finite (.finite DEFAULT_REFRESH_MULTIPLIER)) =
      _ := hv.sub_mul hw
  rw [targetTime, hexact, ← bind_assoc, hscaled]
  exact hw.addFloat

/-- **The duration**, in rational time. -/
theorem durationOf_stamped (hexact : P.rounding = .finite) (h : Stamped P token iat exp) :
    durationOf P now jitter token = .ok (.finite (if exp = 0 ∨ iat = 0 then 0
      else max 0 (iat + (exp - iat) * DEFAULT_REFRESH_MULTIPLIER - now - jitter))) := by
  obtain ⟨claims, hclaims, hiat, hexp⟩ := h.claims
  rw [durationOf, if_neg h.nonempty, hclaims]
  change durationTo P now jitter _ _ = _
  by_cases hzero : exp = 0 ∨ iat = 0
  · rw [if_pos hzero, durationTo, if_pos]
    rw [Bool.or_eq_true, Bool.not_eq_true', Bool.not_eq_true']
    refine hzero.imp (fun h => ?_) fun h => ?_
    · exact Bool.eq_false_iff.mpr fun ht => hexp.truthy.mp ht h
    · exact Bool.eq_false_iff.mpr fun ht => hiat.truthy.mp ht h
  · obtain ⟨h₁, h₂⟩ := not_or.mp hzero
    rw [if_neg hzero, durationTo, if_neg, targetTime_of_isTime hexact hexp hiat, hexact]
    · exact congrArg Except.ok (by rw [Float.sub_finite, Float.sub_finite, Float.maxZero_finite])
    · rw [hexp.truthy.mpr h₁, hiat.truthy.mpr h₂]
      simp

/-- A duration that is returned is not negative. -/
theorem durationOf_not_pos {x : Python.Float} (h : durationOf P now jitter token = .ok x)
    (hx : ¬ x.IsPos) : x = .finite 0 := by
  rw [durationOf] at h
  split at h
  · exact (Except.ok.inj h).symm
  · obtain ⟨claims, -, h⟩ := bind_eq_ok.mp h
    cases claims with
    | none => exact (Except.ok.inj h).symm
    | some claims =>
        dsimp only at h
        rw [durationTo] at h
        split at h
        · exact (Except.ok.inj h).symm
        · obtain ⟨target, -, h⟩ := bind_eq_ok.mp h
          obtain rfl := Except.ok.inj h
          exact Float.maxZero_of_not_isPos (mt Float.isPos_maxZero.mpr hx)

variable {env : ServerEnv} {s : Store}

/-- **The duration reads the token file.** -/
theorem evalBody_calculate (h : env.readFault .attestationToken = none) :
    evalBody env (calculateRefreshDuration P now jitter) s =
      (durationOf P now jitter ((s .attestationToken).getD []), s) := by
  have hread : evalBody env getAttestationToken s = (.ok ((s .attestationToken).getD []), s) := by
    rw [getAttestationToken, evalBody_withLock]
    exact (evalBody_readToken fun e he => by rw [h] at he; cases he).mpr ⟨h, rfl, rfl⟩
  rw [calculateRefreshDuration, evalBody_bind, hread]
  rfl

end

/-! ### What a step does -/

section
variable {P : TokenManager} {s s' : Refresher} {env : ServerEnv} {since : ℚ}

/-- A successful attempt stores its token. -/
theorem attempts_of_succeeds (s : Refresher) (since : ℚ)
    (h : filesReplaced P.audience env = 5) :
    (s.attempts P env since).files .attestationToken =
        some (attemptIdentity P.audience env).token ∧
      (s.attempts P env since).phase = .attempted since (.ok ()) := by
  obtain ⟨r, hr, hok⟩ := evalBody_refresh P.audience env s.files
  have hr' : r = .ok () := by
    cases r with
    | ok u => rfl
    | error e => cases hok.mpr h
  rw [Refresher.attempts, hr, hr']
  exact ⟨by rw [h]; rfl, rfl⟩

/-- A failed attempt leaves the token as it was. -/
theorem attempts_of_fails (s : Refresher) (since : ℚ)
    (h : filesReplaced P.audience env ≠ 5) :
    (s.attempts P env since).files .attestationToken = s.files .attestationToken ∧
      ∃ e, (evalBody env (refresh P.audience) s.files).1 = .error e ∧
        (s.attempts P env since).phase = .attempted since (.error e) := by
  obtain ⟨r, hr, hok⟩ := evalBody_refresh P.audience env s.files
  have hle : filesReplaced P.audience env ≤ 4 := by
    have hkey := keyFilesReplaced_le env
    unfold filesReplaced at h ⊢
    split_ifs at h ⊢ <;> omega
  have htoken : s.files.overwrite (filesReplaced P.audience env) (attemptIdentity P.audience env)
      .attestationToken = s.files .attestationToken := if_neg (Nat.not_lt.mpr hle)
  cases r with
  | ok u => exact absurd (hok.mp rfl) h
  | error e =>
      rw [Refresher.attempts, hr]
      exact ⟨htoken, e, rfl, rfl⟩

theorem calculates_of_duration {x : Python.Float} {jitter t : ℚ}
    (hx : s.duration P env jitter = .ok x) (ht : P.eventWait x = .ok t) :
    s.calculates P env jitter = { s with phase := .waiting (s.now + t) } := by
  have hbind : (s.duration P env jitter >>= P.eventWait) = .ok t := bind_eq_ok.mpr ⟨x, hx, ht⟩
  rw [Refresher.calculates, hbind]

theorem fails_of_handled {e : Exc} (h : handled e = true) :
    s.fails e = { s with phase := .sleeping (s.now + 10) } := by
  rw [Refresher.fails, if_pos h, DEFAULT_RETRY_INTERVAL_SECONDS]

/-- Only the phase has changed, and no attempt is under way or just over. -/
structure Settles (s s' : Refresher) : Prop where
  files : s'.files = s.files
  now : s'.now = s.now
  attempting : ∀ since, s'.phase ≠ .attempting since
  attempted : ∀ since r, s'.phase ≠ .attempted since r

theorem settles_fails (s : Refresher) (e : Exc) : Settles s (s.fails e) := by
  by_cases h : handled e = true
  · rw [fails_of_handled h]
    exact ⟨rfl, rfl, by simp, by simp⟩
  · rw [Refresher.fails, if_neg h]
    exact ⟨rfl, rfl, by simp, by simp⟩

/-- A calculation leaves the thread waiting, sleeping or ended. -/
theorem settles_calculates (s : Refresher) (env : ServerEnv) (jitter : ℚ) :
    Settles s (s.calculates P env jitter) := by
  rw [Refresher.calculates]
  cases s.duration P env jitter >>= P.eventWait with
  | ok t => exact ⟨rfl, rfl, by simp, by simp⟩
  | error e => exact settles_fails s e

theorem settles_returns (s : Refresher) (r : Except Exc Unit) : Settles s (s.returns r) := by
  cases r with
  | ok u => exact ⟨rfl, rfl, by simp [Refresher.returns], by simp [Refresher.returns]⟩
  | error e => exact settles_fails s e

end

end PromptEncryption.Server
