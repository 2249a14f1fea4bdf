import PromptEncryption.Server.Refresher

/-!
# Server — what a token file makes of the wait

`_calculate_refresh_duration`, over any content of the token file, with the arithmetic of a `float`
rounded to `binary64`.  A file that is no text, times that are no numbers or too large ones, and a wait
beyond what `Event.wait` takes each raise, outside the `except` that means to refresh immediately.

* `targetTime_eq_ok`: which claims have a 90 percent mark, and what it is.
* `leadsToRefresh_iff`: at which contents, times and draws the thread comes to its refresh.
* `undecodable_starves`: over a file that is no text, the thread never comes to a refresh.
-/

namespace PromptEncryption.Server
open Python Programs Runs

/-! ### Libraries -/

/-- What is documented of PyJWT, of `float` and of `threading`: `jwt.decode` rejects a token with
`DecodeError`, a `float` is a `binary64`, and `Event.wait` takes a timeout of up to
`threading.TIMEOUT_MAX`. -/
structure TokenManager.Documented (P : TokenManager) (TIMEOUT_MAX : ℚ) : Prop where
  floats : P.rounding = binary64
  decodes : ∀ text e, P.jwtDecode text = .error e → e.isinstance decodeError = true
  nonneg : 0 ≤ TIMEOUT_MAX
  waits : ∀ q, 0 ≤ q → q ≤ TIMEOUT_MAX → P.eventWait (.finite q) = .ok q
  refuses : ∀ q, TIMEOUT_MAX < q → ∃ e, P.eventWait (.finite q) = .error e
  refuses_inf : ∃ e, P.eventWait (.inf false) = .error e

/-! ### The mark -/

section
variable {P : TokenManager} {TIMEOUT_MAX now jitter : ℚ} {exp iat : Json}

theorem sub_eq_ok {n : Number} : exp.sub P.rounding iat = .ok n ↔
    ∃ x y, exp.number = some x ∧ iat.number = some y ∧ x.sub P.rounding y = .ok n := by
  rw [Json.sub]
  cases exp.number with
  | none => simp
  | some x => cases iat.number <;> simp

theorem addFloat_eq_ok {p q : Python.Float} : iat.addFloat P.rounding p = .ok q ↔
    ∃ y, iat.number = some y ∧ y.addFloat P.rounding p = .ok q := by
  rw [Json.addFloat]
  cases iat.number <;> simp

/-- **The 90 percent mark**: of two numbers, where what is converted to a `float` can be. -/
theorem targetTime_eq_ok {z : Python.Float} : targetTime P exp iat = .ok z ↔
    ∃ x y, exp.number = some x ∧ iat.number = some y ∧ x.DifferenceFits y ∧ y.Fits ∧
      z = Number.mark P.rounding (P.rounding DEFAULT_REFRESH_MULTIPLIER) x y := by
  simp only [targetTime, bind_eq_ok, sub_eq_ok, addFloat_eq_ok, Number.addFloat_eq_ok]
  constructor
  · rintro ⟨n, ⟨x, y, hx, hy, hn⟩, p, hp, y', hy', hfits, rfl⟩
    cases hy.symm.trans hy'
    obtain ⟨hdiff, rfl⟩ := Number.sub_mul_eq_ok.mp ⟨n, hn, hp⟩
    exact ⟨x, y, hx, hy, hdiff, hfits, rfl⟩
  · rintro ⟨x, y, hx, hy, hdiff, hfits, rfl⟩
    obtain ⟨n, hn, hp⟩ := Number.sub_mul_eq_ok.mpr ⟨hdiff, rfl⟩
    exact ⟨n, ⟨x, y, hx, hy, hn⟩, _, hp, y, hy, hfits, rfl⟩

/-- `Event.wait` does not take the time. -/
def TooLong (TIMEOUT_MAX : ℚ) : Python.Float → Prop
  | .finite q => TIMEOUT_MAX < q
  | .inf negative => negative = false
  | .nan => False

/-- What `Event.wait` makes of a time, or of 0 before it. -/
theorem eventWait_eq_ok (h : P.Documented TIMEOUT_MAX) {w : Python.Float} :
    (∃ t, P.eventWait w.maxZero = .ok t ∧ 0 ≤ t) ↔ ¬ TooLong TIMEOUT_MAX w := by
  have hzero : ∃ t, P.eventWait (.finite 0) = .ok t ∧ 0 ≤ t :=
    ⟨0, h.waits 0 (le_refl 0) h.nonneg, le_refl 0⟩
  cases w with
  | finite q =>
      rw [Float.maxZero_finite, TooLong]
      constructor
      · rintro ⟨t, ht, -⟩ hlong
        obtain ⟨e, he⟩ := h.refuses _ (lt_of_lt_of_le hlong (le_max_right 0 _))
        cases he.symm.trans ht
      · intro hshort
        have hle : max 0 q ≤ TIMEOUT_MAX := max_le h.nonneg (not_lt.mp hshort)
        exact ⟨_, h.waits _ (le_max_left _ _) hle, le_max_left _ _⟩
  | inf negative =>
      cases negative with
      | true => exact iff_of_true hzero (fun hlong => by cases hlong)
      | false =>
          obtain ⟨e, he⟩ := h.refuses_inf
          refine iff_of_false ?_ (not_not.mpr rfl)
          rintro ⟨t, ht, -⟩
          cases he.symm.trans ht
  | nan => exact iff_of_true hzero id

/-! ### Tokens -/

/-- The time from `now` to the 90 percent mark of a token, less the jitter, in `binary64`. -/
def timeToMark (now jitter : ℚ) (exp iat : Number) : Python.Float :=
  let mark := Number.mark binary64 (binary64 DEFAULT_REFRESH_MULTIPLIER) exp iat
  (mark.sub binary64 (binary64 now)).sub binary64 (binary64 jitter)

/-- One of the claims is missing, in the code's reading, or both are numbers with a mark that can be
computed and waited for. -/
def HasMark (TIMEOUT_MAX now jitter : ℚ) (exp iat : Json) : Prop :=
  exp.truthy = false ∨ iat.truthy = false ∨
    ∃ x y, exp.number = some x ∧ iat.number = some y ∧ x.DifferenceFits y ∧ y.Fits ∧
      ¬ TooLong TIMEOUT_MAX (timeToMark now jitter x y)

/-- The content is empty, or it is text, and no JWT or one with `HasMark` claims. -/
def Waitable (P : TokenManager) (TIMEOUT_MAX now jitter : ℚ) (content : Bytes) : Prop :=
  content = [] ∨ ∃ text, Bytes.decodeUtf8 content = some text ∧
    ∀ claims, P.jwtDecode text = .ok claims →
      HasMark TIMEOUT_MAX now jitter (dictGet claims "exp") (dictGet claims "iat")

/-- The content is a JWT with numeric `iat` and `exp`. -/
def NumericJwt (P : TokenManager) (content : Bytes) : Prop :=
  ∃ text claims, Bytes.decodeUtf8 content = some text ∧ P.jwtDecode text = .ok claims ∧
    (∃ x, (dictGet claims "exp").number = some x) ∧ ∃ y, (dictGet claims "iat").number = some y

/-- `x` is returned, and `Event.wait` takes it. -/
def HasWait (P : TokenManager) (duration : Except Exc Python.Float) : Prop :=
  ∃ x, duration = .ok x ∧ ∃ t, P.eventWait x = .ok t ∧ 0 ≤ t

variable {content : Bytes}

theorem hasWait_zero (h : P.Documented TIMEOUT_MAX) : HasWait P (.ok (.finite 0)) :=
  ⟨_, rfl, 0, h.waits 0 (le_refl 0) h.nonneg, le_refl 0⟩

theorem durationTo_of_falsy (h : exp.truthy = false ∨ iat.truthy = false) :
    durationTo P now jitter exp iat = .ok (.finite 0) := by
  rw [durationTo, if_pos]
  rcases h with h | h
  · simp [h]
  · simp [h]

/-- **The duration** of two claims that are there. -/
theorem durationTo_eq_ok (h : P.rounding = binary64) (hexp : ¬ exp.truthy = false)
    (hiat : ¬ iat.truthy = false) {w : Python.Float} :
    durationTo P now jitter exp iat = .ok w ↔
      ∃ x y, exp.number = some x ∧ iat.number = some y ∧ x.DifferenceFits y ∧ y.Fits ∧
        w = (timeToMark now jitter x y).maxZero := by
  rw [durationTo, if_neg (by simp [Bool.not_eq_false _ ▸ hexp, Bool.not_eq_false _ ▸ hiat]),
    bind_eq_ok]
  constructor
  · rintro ⟨z, hz, hret⟩
    cases hret
    obtain ⟨x, y, hx, hy, hdiff, hfits, rfl⟩ := targetTime_eq_ok.mp hz
    exact ⟨x, y, hx, hy, hdiff, hfits, by rw [h, timeToMark]⟩
  · rintro ⟨x, y, hx, hy, hdiff, hfits, rfl⟩
    exact ⟨_, targetTime_eq_ok.mpr ⟨x, y, hx, hy, hdiff, hfits, rfl⟩, by rw [h, timeToMark]; rfl⟩

theorem durationTo_hasWait (h : P.Documented TIMEOUT_MAX) :
    HasWait P (durationTo P now jitter exp iat) ↔ HasMark TIMEOUT_MAX now jitter exp iat := by
  by_cases hfalsy : exp.truthy = false ∨ iat.truthy = false
  · rw [durationTo_of_falsy hfalsy]
    exact iff_of_true (hasWait_zero h) (hfalsy.elim .inl fun h => .inr (.inl h))
  · obtain ⟨hexp, hiat⟩ := not_or.mp hfalsy
    constructor
    · rintro ⟨_, hduration, hwait⟩
      obtain ⟨x, y, hx, hy, hdiff, hfits, rfl⟩ := (durationTo_eq_ok h.floats hexp hiat).mp hduration
      exact .inr (.inr ⟨x, y, hx, hy, hdiff, hfits, (eventWait_eq_ok h).mp hwait⟩)
    · rintro (hno | hno | ⟨x, y, hx, hy, hdiff, hfits, hshort⟩)
      · exact absurd hno hexp
      · exact absurd hno hiat
      · exact ⟨_, (durationTo_eq_ok h.floats hexp hiat).mpr ⟨x, y, hx, hy, hdiff, hfits, rfl⟩,
          (eventWait_eq_ok h).mpr hshort⟩

/-- PyJWT rejects the text. -/
theorem decodeClaims_of_rejected (h : P.Documented TIMEOUT_MAX) {text : String} {e : Exc}
    (htext : Bytes.decodeUtf8 content = some text) (he : P.jwtDecode text = .error e) :
    decodeClaims P content = .ok none := by
  rw [decodeClaims, htext]
  dsimp only
  rw [he]
  dsimp only
  rw [h.decodes text e he]
  rfl

theorem decodeClaims_of_decoded {text : String} {claims : Dict}
    (htext : Bytes.decodeUtf8 content = some text) (hclaims : P.jwtDecode text = .ok claims) :
    decodeClaims P content = .ok (some claims) := by
  rw [decodeClaims, htext]
  dsimp only
  rw [hclaims]

/-- **Which contents have a wait.** -/
theorem durationOf_hasWait (h : P.Documented TIMEOUT_MAX) :
    HasWait P (durationOf P now jitter content) ↔ Waitable P TIMEOUT_MAX now jitter content := by
  by_cases hempty : content = []
  · rw [durationOf, if_pos hempty]
    exact iff_of_true (hasWait_zero h) (.inl hempty)
  rw [durationOf, if_neg hempty, Waitable, or_iff_right hempty]
  cases htext : Bytes.decodeUtf8 content with
  | none =>
      rw [decodeClaims, htext]
      refine iff_of_false ?_ ?_
      · intro hwait
        obtain ⟨x, hx, -⟩ := hwait
        cases hx
      · intro hwaitable
        obtain ⟨text, hno, -⟩ := hwaitable
        cases hno
  | some text =>
      simp only [Option.some.injEq, exists_eq_left']
      cases hjwt : P.jwtDecode text with
      | error e =>
          rw [decodeClaims_of_rejected h htext hjwt]
          refine iff_of_true (hasWait_zero h) ?_
          intro claims hno
          cases hno
      | ok claims =>
          rw [decodeClaims_of_decoded htext hjwt]
          simp only [Except.ok.injEq, forall_eq']
          exact durationTo_hasWait h

/-- The wait is 0 for a waitable content that is no JWT with numeric times. -/
theorem durationOf_immediate (h : P.Documented TIMEOUT_MAX)
    (hwaitable : Waitable P TIMEOUT_MAX now jitter content) (hnumeric : ¬ NumericJwt P content) :
    durationOf P now jitter content = .ok (.finite 0) := by
  by_cases hempty : content = []
  · rw [durationOf, if_pos hempty]
  obtain ⟨text, htext, hclaims⟩ := hwaitable.resolve_left hempty
  rw [durationOf, if_neg hempty]
  cases hjwt : P.jwtDecode text with
  | error e => rw [decodeClaims_of_rejected h htext hjwt]; rfl
  | ok claims =>
      rw [decodeClaims_of_decoded htext hjwt]
      change durationTo P now jitter _ _ = _
      rcases hclaims claims hjwt with hfalsy | hfalsy | ⟨x, y, hx, hy, -⟩
      · exact durationTo_of_falsy (.inl hfalsy)
      · exact durationTo_of_falsy (.inr hfalsy)
      · exact absurd ⟨text, claims, htext, hjwt, ⟨x, hx⟩, ⟨y, hy⟩⟩ hnumeric

/-! ### The thread -/

/-- The content of the token file, a missing file read as empty. -/
def Refresher.tokenContent (s : Refresher) : Bytes := (s.files .attestationToken).getD []

/-- From the head of its loop the thread comes to its refresh after a wait: the duration is returned,
is not negative and is taken by `Event.wait`, and it is 0 where the file is no JWT with numeric
times. -/
structure LeadsToRefresh (P : TokenManager) (s : Refresher) (env : ServerEnv) (jitter : ℚ) :
    Prop where
  returns : ∃ x t, s.duration P env jitter = .ok x ∧ (x.IsPos ∨ x = .finite 0) ∧
    P.eventWait x = .ok t
  immediate : ¬ NumericJwt P s.tokenContent → s.duration P env jitter = .ok (.finite 0)
  reaches : ∃ t, 0 ≤ t ∧ s.calculates P env jitter = { s with phase := .waiting (s.now + t) }

/-- **When a token file leads to a refresh.** -/
theorem leadsToRefresh_iff (h : P.Documented TIMEOUT_MAX) (s : Refresher) (env : ServerEnv)
    (jitter : ℚ) (hread : env.readFault .attestationToken = none) :
    LeadsToRefresh P s env jitter ↔ Waitable P TIMEOUT_MAX s.now jitter s.tokenContent := by
  have hduration : s.duration P env jitter = durationOf P s.now jitter s.tokenContent := by
    rw [Refresher.duration, evalBody_calculate hread, Refresher.tokenContent]
  constructor
  · rintro ⟨⟨x, t, hx, hpos, ht⟩, -, t', hnonneg, hreaches⟩
    -- the wait is the time until the deadline
    have htime := calculates_of_duration hx ht
    rw [hreaches] at htime
    obtain rfl : t' = t := add_left_cancel (Phase.waiting.inj (congrArg Refresher.phase htime))
    rw [hduration] at hx
    exact (durationOf_hasWait h).mp ⟨x, hx, t', ht, hnonneg⟩
  · intro hwaitable
    obtain ⟨x, hx, t, ht, hnonneg⟩ := (durationOf_hasWait h).mpr hwaitable
    rw [← hduration] at hx
    refine ⟨⟨x, t, hx, ?_, ht⟩, ?_, t, hnonneg, calculates_of_duration hx ht⟩
    · rw [hduration] at hx
      exact or_iff_not_imp_left.mpr (durationOf_not_pos hx)
    · rw [hduration]
      exact durationOf_immediate h hwaitable

/-! ### A file that is no text -/

/-- The thread is away from its refresh, with a file that is no text. -/
structure Starved (s : Refresher) : Prop where
  nonempty : s.tokenContent ≠ []
  undecodable : Bytes.decodeUtf8 s.tokenContent = none
  away : s.phase = .looping ∨ (∃ u, s.phase = .sleeping u) ∨ s.phase = .ended none

theorem Starved.of_phase {s : Refresher} (h : Starved s) {phase : Phase}
    (haway : phase = .looping ∨ (∃ u, phase = .sleeping u) ∨ phase = .ended none) :
    Starved { s with phase := phase } :=
  ⟨h.nonempty, h.undecodable, haway⟩

/-- The wait is never calculated. -/
theorem Starved.calculates {s : Refresher} (h : Starved s) {env : ServerEnv}
    (hread : env.readFault .attestationToken = none) :
    s.calculates P env jitter = { s with phase := .sleeping (s.now + 10) } := by
  have hraises : s.duration P env jitter = .error ⟨.unicodeDecodeError, []⟩ := by
    rw [Refresher.duration, evalBody_calculate hread]
    change durationOf P s.now jitter s.tokenContent = _
    rw [durationOf, if_neg h.nonempty, decodeClaims, h.undecodable]
    rfl
  rw [Refresher.calculates, hraises]
  exact fails_of_handled rfl

/-- **What every step keeps**, short of a refresh. -/
theorem Starved.step {s s' : Refresher} (h : Starved s) {e : RefresherEvent}
    (hst : RefresherStep P s e s')
    (hread : ∀ env jitter, e = .calculated env jitter → env.readFault .attestationToken = none) :
    Starved s' ∧ ∀ env, e ≠ .attempted env := by
  have hnot : ∀ {phase : Phase}, s.phase = phase → phase = .looping ∨ (∃ u, phase = .sleeping u) ∨
      phase = .ended none := fun hphase => hphase ▸ h.away
  cases hst with
  | pass _ => exact ⟨⟨h.nonempty, h.undecodable, h.away⟩, fun _ hno => by cases hno⟩
  | @calculated env jitter _ _ =>
      rw [h.calculates (hread env jitter rfl)]
      exact ⟨h.of_phase (.inr (.inl ⟨_, rfl⟩)), fun _ hno => by cases hno⟩
  | woke hphase _ => simpa using hnot hphase
  | attempted hphase => simpa using hnot hphase
  | returned hphase => simpa using hnot hphase
  | slept _ _ => exact ⟨h.of_phase (.inl rfl), fun _ hno => by cases hno⟩
  | stopped _ => exact ⟨h.of_phase (.inr (.inr rfl)), fun _ hno => by cases hno⟩

/-- **Over a file that is no text the thread never comes to a refresh.** -/
theorem undecodable_starves {s₀ s : Refresher} {es : List RefresherEvent} (h₀ : Starved s₀)
    (h : Run (System.restrict ⟨fun s => s = s₀, RefresherStep P⟩ fun _ e =>
      ∀ env jitter, e = .calculated env jitter → env.readFault .attestationToken = none) es s) :
    ∀ env, .attempted env ∉ es := by
  have hkept : Starved s ∧ ∀ env, .attempted env ∉ es := by
    refine h.invariant (P := fun es s => Starved s ∧ ∀ env, .attempted env ∉ es) ?_ ?_
    · intro s hs
      obtain rfl : s = s₀ := hs
      exact ⟨h₀, fun env => List.not_mem_nil⟩
    · intro es s e s' _ ih hst
      obtain ⟨hstarved, hother⟩ := ih.1.step hst.1 hst.2
      refine ⟨hstarved, fun env hmem => ?_⟩
      rcases List.mem_cons.mp hmem with heq | hmem
      · exact hother env heq.symm
      · exact ih.2 env hmem
  exact hkept.2

end

/-! ### Three tokens -/

/-- `threading.TIMEOUT_MAX`, where `time_t` has 64 bits. -/
def sampleTimeoutMax : ℚ := 9223372036

/-- A `TokenManager` for the tokens `T`, `S` and `L`: issued at 1 and expiring at 3601, with texts
for times, and expiring too late to be waited for. -/
def sampleManager : TokenManager where
  audience := "https://sts.google.com"
  jitterWindowSeconds := 60
  jwtDecode text :=
    if text = "T" then .ok [("iat", .int 1), ("exp", .int 3601)]
    else if text = "S" then .ok [("iat", .str "now"), ("exp", .str "soon")]
    else if text = "L" then .ok [("iat", .int 1), ("exp", .int 100000000000)]
    else .error ⟨decodeError, [.text "Not enough segments"]⟩
  eventWait
    | .finite q =>
        if q ≤ sampleTimeoutMax then .ok q
        else .error ⟨.overflowError, [.text "timeout value is too large"]⟩
    | _ => .error ⟨.overflowError, [.text "timestamp too large to convert to C PyTime_t"]⟩
  rounding := binary64

theorem sampleManager_documented : sampleManager.Documented sampleTimeoutMax where
  floats := rfl
  decodes text e he := by
    simp only [sampleManager] at he
    split at he
    · cases he
    · split at he
      · cases he
      · split at he
        · cases he
        · cases he
          rfl
  nonneg := by norm_num [sampleTimeoutMax]
  waits q _ hq := if_pos hq
  refuses q hq := ⟨_, if_neg (not_le.mpr hq)⟩
  refuses_inf := ⟨_, rfl⟩

/-- The head of the loop at the time 1, with this token file. -/
def loopingWith (content : Bytes) : Refresher :=
  ⟨fun f => if f = .attestationToken then some content else none, 1, .looping⟩

/-- An environment in which the token file is read. -/
def readableEnv : ServerEnv where
  answer _ := .error ⟨.runtimeError, []⟩
  readFault _ := none
  writeFault _ := none

theorem sample_leadsToRefresh :
    LeadsToRefresh sampleManager (loopingWith [84]) readableEnv 0 := by
  refine (leadsToRefresh_iff sampleManager_documented (loopingWith [84]) readableEnv 0 rfl).mpr
    (.inr ⟨"T", Bytes.utf8_decode_encode "T", fun claims hclaims => ?_⟩)
  cases hclaims
  refine .inr (.inr ⟨.int 3601, .int 1, rfl, rfl, ?_, ?_, ?_⟩)
  · exact Number.lt_FLOAT_BOUND (by decide)
  · exact Number.lt_FLOAT_BOUND (by decide)
  · have hmark : timeToMark 1 0 (.int 3601) (.int 1) = .finite 3240 := by decide +kernel
    change ¬ TooLong sampleTimeoutMax (timeToMark 1 0 (.int 3601) (.int 1))
    rw [hmark]
    norm_num [TooLong, sampleTimeoutMax]

theorem duration_loopingWith {content : Bytes} :
    (loopingWith content).duration sampleManager readableEnv 0 =
      durationOf sampleManager 1 0 content := by
  rw [Refresher.duration, evalBody_calculate rfl]
  rfl

/-- Three contents: one that is no text raises `UnicodeDecodeError`, texts for times raise
`TypeError`, and `Event.wait` refuses a wait of too long. -/
theorem bad_tokens_raise :
    (∃ m, (loopingWith [255]).duration sampleManager readableEnv 0 =
      .error ⟨.unicodeDecodeError, m⟩) ∧
    (∃ m, (loopingWith [83]).duration sampleManager readableEnv 0 = .error ⟨.typeError, m⟩) ∧
    (∃ x m, (loopingWith [76]).duration sampleManager readableEnv 0 = .ok x ∧
      sampleManager.eventWait x = .error ⟨.overflowError, m⟩) ∧
    ¬ ∀ (P : TokenManager) (TIMEOUT_MAX : ℚ), P.Documented TIMEOUT_MAX →
      ∀ (s : Refresher) (env : ServerEnv) (jitter : ℚ),
        env.readFault .attestationToken = none → LeadsToRefresh P s env jitter := by
  have hbytes : Bytes.decodeUtf8 [255] = none := by decide +kernel
  have hundecodable : (loopingWith [255]).duration sampleManager readableEnv 0 =
      .error ⟨.unicodeDecodeError, []⟩ := by
    rw [duration_loopingWith, durationOf, if_neg (by simp), decodeClaims, hbytes]
    rfl
  refine ⟨⟨_, hundecodable⟩, ?_, ?_, fun hall => ?_⟩
  · have hclaims : decodeClaims sampleManager [83] =
        .ok (some [("iat", .str "now"), ("exp", .str "soon")]) :=
      decodeClaims_of_decoded (Bytes.utf8_decode_encode "S") rfl
    rw [duration_loopingWith, durationOf, if_neg (by simp), hclaims]
    exact ⟨_, rfl⟩
  · have hclaims : decodeClaims sampleManager [76] =
        .ok (some [("iat", .int 1), ("exp", .int 100000000000)]) :=
      decodeClaims_of_decoded (Bytes.utf8_decode_encode "L") rfl
    have hmark : timeToMark 1 0 (.int 100000000000) (.int 1) = .finite (2949119999970509 / 32768) := by
      decide +kernel
    have hduration : durationTo sampleManager 1 0 (.int 100000000000) (.int 1) = .ok _ :=
      (durationTo_eq_ok rfl (by decide) (by decide)).mpr ⟨.int 100000000000, .int 1, rfl, rfl,
        Number.lt_FLOAT_BOUND (by decide), Number.lt_FLOAT_BOUND (by decide), rfl⟩
    have hwait : sampleManager.eventWait
        (timeToMark 1 0 (.int 100000000000) (.int 1)).maxZero =
          .error ⟨.overflowError, [.text "timeout value is too large"]⟩ := by
      rw [hmark, Float.maxZero_finite]
      exact if_neg (by norm_num [sampleTimeoutMax])
    rw [duration_loopingWith, durationOf, if_neg (by simp), hclaims]
    exact ⟨_, _, hduration, hwait⟩
  · obtain ⟨x, t, hx, -⟩ := (hall sampleManager sampleTimeoutMax sampleManager_documented
      (loopingWith [255]) readableEnv 0 rfl).returns
    cases hundecodable.symm.trans hx

end PromptEncryption.Server
