import PromptEncryption.Client.Attested

/-!
# Client — a request on a closed connection

`http.client` opens a connection by itself: a request that finds no socket calls `self.connect()`.
By then the request has been started.  The `connect()` called is the overridden one, whose handshake
starts a request of its own, which `http.client` refuses; and where a session was attested and has
grown old, `request` revalidates it first, which needs a socket.

* `closed_never_reopens`: on a connection with no socket `request` raises and sends nothing, in every
  state, at every age of the session and whatever the outside answers.
* `undisturbed_requests_fail`: the two ways it fails where nothing strikes.
-/

namespace PromptEncryption.Client
open Python Scripts Runs

/-! ### What a request should do -/

/-- The new connection succeeds, and the attestation exchange on it: nothing strikes, and the
response is one `validate` accepts at the keying material of the new socket and the nonce. -/
structure Cooperates (P : Settings) (s : Conn) (answers : List (Sigma ConnAnswer)) : Prop where
  undisturbed : ∀ p struck, ⟨.strike p, struck⟩ ∈ answers → struck = none
  attests : ∀ p r ends, ⟨.response p, (r, ends)⟩ ∈ answers →
    ends = false ∧ ∃ response, processAttestationResponse P.J r = .ok response ∧
      ∀ nonce, ⟨.tokenBytes, nonce⟩ ∈ answers →
        ∃ tlsEkm, P.ekmExporterFn (some s.opened) EKM_LENGTH EKM_LABEL nonce = .ok tlsEkm ∧
          validate P.validator response tlsEkm none = .ok ()

/-- Where the outside cooperates, `request` opens a new socket, attests it and sends the application
request on it. -/
def Reopens (P : Settings) (depth : Nat) (s : Conn) : Prop :=
  ∀ answers r s', Cooperates P s answers →
    play (request P (connect P depth)) s answers = some (r, s') →
      r = .ok () ∧ s'.sock = some s.opened ∧ ValidatedOn s.opened s'.log ∧
        .sent .application s.opened ∈ s'.log

/-! ### Whatever the outside answers -/

section
variable {P : Settings} {C : (q : ConnQuestion) → ConnAnswer q → Prop} {s : Conn}
variable {self_connect : Method Unit} {depth : Nat}

theorem putrequest_raises (hbusy : P.cannotSend s.http = true) :
    Meets C (putrequest P) (fun _ _ => False) (fun _ s' => s' = s) s :=
  meets_putrequest.mpr ⟨fun hidle => hidle hbusy, fun _ => rfl⟩

/-- A handshake raises where a request is under way. -/
theorem handshake_raises {c : Caller} (hbusy : P.cannotSend s.http = true) :
    Meets C (performAttestationHandshake P c self_connect) (fun _ _ => False)
      (fun _ s' => s' = s) s := by
  simp only [performAttestationHandshake, meets_bind]
  refine meets_strikeAt.mpr ⟨fun _ => meets_ask.mpr fun nonce _ => ?_, fun _ _ => rfl⟩
  have hattest : Meets C (attest P c self_connect nonce) (fun _ _ => False) (fun _ s' => s' = s) s := by
    simp only [attest, superRequest, meets_bind]
    refine meets_strikeAt.mpr ⟨fun _ => ?_, fun _ _ => rfl⟩
    exact (putrequest_raises hbusy).mono (fun _ _ hno => hno.elim) fun _ _ => id
  refine meets_tryExcept.mpr (hattest.mono (fun _ _ => id) ?_)
  rintro e s₁ rfl
  split
  · exact meets_error.mpr rfl
  · rfl

/-- **`connect()` raises inside a request.** -/
theorem connect_raises (hbusy : P.cannotSend s.http = true) :
    Meets C (connect P depth) (fun _ _ => False) (fun _ s' => s'.log = s.log) s := by
  cases depth with
  | zero => exact meets_error.mpr rfl
  | succ depth =>
      simp only [connect, connectWith, meets_bind]
      refine meets_superConnect.mpr ⟨fun _ => ⟨fun _ => ?_, fun _ _ => rfl⟩, fun _ _ => rfl⟩
      have hopens : P.cannotSend s.opens.http = true := hbusy
      refine meets_tryExcept.mpr ((handshake_raises hopens).mono (fun _ _ hno => hno.elim) ?_)
      rintro e s₁ rfl
      split
      · exact closing_meets (fun _ _ => rfl) (fun _ _ => rfl) rfl
      · rfl

/-- A request of `http.client` on no socket raises. -/
theorem superRequest_raises {p : Place} {m : Message} (hbusy : P.cannotSend .requestSent = true)
    (hclosed : s.sock = none) :
    Meets C (superRequest P (connect P depth) p m) (fun _ _ => False)
      (fun _ s' => s'.log = s.log) s := by
  simp only [superRequest, meets_bind]
  refine meets_strikeAt.mpr ⟨fun _ => ?_, fun _ _ => rfl⟩
  refine meets_putrequest.mpr ⟨fun _ => ?_, fun _ => rfl⟩
  -- the request is started: `connect()` is called with `http.client` busy
  have hstarts : s.starts.sock = none := hclosed
  simp only [autoOpen, meets_bind, meets_getState, if_pos hstarts]
  exact (connect_raises (s := s.starts) hbusy).mono (fun _ _ hno => hno.elim) fun _ _ => id

/-- `revalidate_session` raises at once. -/
theorem revalidateSession_raises (hclosed : s.sock = none) :
    Meets C (revalidateSession P self_connect) (fun _ _ => False) (fun _ s' => s' = s) s := by
  simp only [revalidateSession, meets_bind]
  refine meets_strikeAt.mpr ⟨fun _ => meets_getState.mpr ?_, fun _ _ => rfl⟩
  exact meets_raiseIf.mpr ⟨fun hopen => absurd hclosed hopen, fun _ => rfl⟩

/-- Nothing is done but that the clock may be read. -/
def Unserved (s s' : Conn) : Prop :=
  ∀ o ∈ s'.log, o ∈ s.log ∨ ∃ reading, o = .checked reading

theorem Unserved.of_log {s s' : Conn} (h : s'.log = s.log) : Unserved s s' :=
  fun _ ho => .inl (h ▸ ho)

theorem revalidationDue_unserved {Ψ : Exc → Conn → Prop} (hclosed : s.sock = none) :
    Meets C (revalidationDue P) (fun _ s' => Unserved s s' ∧ s'.sock = none) Ψ s := by
  refine meets_revalidationDue.mpr ⟨fun _ => ⟨.of_log rfl, hclosed⟩, fun _ _ reading _ => ?_⟩
  refine ⟨fun o ho => ?_, hclosed⟩
  rcases List.mem_cons.mp ho with rfl | ho
  · exact .inr ⟨reading, rfl⟩
  · exact .inl ho

/-- **A request on no socket raises**, and sends nothing. -/
theorem request_raises (hbusy : P.cannotSend .requestSent = true) (hclosed : s.sock = none) :
    Meets C (request P (connect P depth)) (fun _ _ => False) (fun _ s' => Unserved s s') s := by
  simp only [request, meets_bind]
  refine meets_strikeAt.mpr ⟨fun _ => ?_, fun _ _ => .of_log rfl⟩
  refine (revalidationDue_unserved hclosed).mono ?_ fun _ _ => id
  rintro due s₁ ⟨hserved, hclosed₁⟩
  have hkept : ∀ {s' : Conn}, s'.log = s₁.log → Unserved s s' := fun hlog o ho => hserved o (hlog ▸ ho)
  cases due with
  | true =>
      -- the session is old: there is nothing to revalidate it on
      simp only [revalidateIf, if_true, meets_bind]
      refine meets_strikeAt.mpr ⟨fun _ => ?_, fun _ _ => hserved⟩
      refine meets_tryExcept.mpr ((revalidateSession_raises hclosed₁).mono
        (fun _ _ hno => hno.elim) ?_)
      rintro e s₂ rfl
      split
      · exact closing_meets (fun _ _ => hserved) (fun _ _ => hserved) hserved
      · exact hserved
  | false =>
      refine meets_pure.mpr (meets_strikeAt.mpr ⟨fun _ => ?_, fun _ _ => hserved⟩)
      exact (superRequest_raises hbusy hclosed₁).mono (fun _ _ => id) fun _ _ hlog => hkept hlog

end

/-! ### Where the outside cooperates -/

/-- Nothing strikes, and there is no response to read. -/
def Smooth : (q : ConnQuestion) → ConnAnswer q → Prop
  | .strike _, a => a = none
  | .response _, _ => False
  | _, _ => True

section
variable {P : Settings} {s : Conn} {self_connect : Method Unit} {depth : Nat}

theorem canRaise_strikeAt {α : Type} {p : Place} {f : Unit → Method α}
    (h : CanRaise Smooth (f ()) s) : CanRaise Smooth (strikeAt p >>= f) s :=
  .rest fun _ hstrike => ⟨(), s, (meets_strikeAt.mp hstrike).1 rfl, h⟩

theorem putrequest_canRaise (hbusy : P.cannotSend s.http = true) :
    CanRaise Smooth (putrequest P) s :=
  fun h => (meets_putrequest.mp h).2 hbusy

theorem close_canRaise {c : Closer} {e : Exc} :
    CanRaise Smooth (do close c; lift (.error e) : Method Unit) s := by
  refine .rest fun _ hclose => ⟨(), s.shut, ?_, canRaise_lift⟩
  exact ((meets_close.mp hclose).1 rfl).1 rfl

theorem connect_canRaise (hbusy : P.cannotSend s.http = true) :
    CanRaise Smooth (connect P depth) s := by
  cases depth with
  | zero => exact canRaise_lift
  | succ depth =>
      have hhandshake : CanRaise Smooth
          (performAttestationHandshake P .connect (connect P depth)) s.opens := by
        refine canRaise_strikeAt (.rest fun _ hask => ⟨[], s.opens, hask [] trivial, ?_⟩)
        refine .tryExcept (.bind (canRaise_strikeAt (.bind (putrequest_canRaise hbusy)))) ?_
        exact fun _ _ => canRaise_lift
      refine .rest fun _ hsuper => ⟨(), s.opens, ((meets_superConnect.mp hsuper).1 rfl).1 rfl, ?_⟩
      exact .bind (hhandshake.tryExcept fun _ _ => close_canRaise)

theorem superRequest_canRaise {p : Place} {m : Message} (hbusy : P.cannotSend .requestSent = true)
    (hclosed : s.sock = none) :
    CanRaise Smooth (superRequest P (connect P depth) p m) s := by
  refine canRaise_strikeAt ?_
  by_cases hidle : P.cannotSend s.http = true
  · exact .bind (putrequest_canRaise hidle)
  refine .rest fun _ hput => ⟨(), s.starts, (meets_putrequest.mp hput).1 hidle, ?_⟩
  have hstarts : s.starts.sock = none := hclosed
  refine .bind (.rest fun _ hget => ⟨s.starts, s.starts, hget, ?_⟩)
  rw [if_pos hstarts]
  exact connect_canRaise hbusy

/-- **A request on no socket can raise where nothing strikes.** -/
theorem request_canRaise (hbusy : P.cannotSend .requestSent = true) (hclosed : s.sock = none) :
    CanRaise Smooth (request P (connect P depth)) s := by
  refine canRaise_strikeAt (.rest fun Φ hdue => ?_)
  have hdue' : ∃ due s₁, Φ due s₁ ∧ s₁.sock = none := by
    obtain ⟨hnever, hclock⟩ := meets_revalidationDue.mp hdue
    by_cases hsession : s.isAttested = true ∧ s.lastAttestationTime ≠ 0
    · exact ⟨_, _, hclock hsession.1 hsession.2 0 trivial, hclosed⟩
    · exact ⟨_, _, hnever hsession, hclosed⟩
  obtain ⟨due, s₁, hΦ, hclosed₁⟩ := hdue'
  refine ⟨due, s₁, hΦ, ?_⟩
  cases due with
  | true =>
      refine .bind (canRaise_strikeAt (.tryExcept ?_ fun _ _ => close_canRaise))
      refine canRaise_strikeAt (.rest fun _ hget => ⟨s₁, s₁, hget, ?_⟩)
      rw [raiseIf, if_pos hclosed₁]
      exact canRaise_lift.bind
  | false =>
      refine .rest fun _ hpure => ⟨(), s₁, hpure, canRaise_strikeAt ?_⟩
      exact superRequest_canRaise hbusy hclosed₁

end

/-! ### Every closed connection -/

section
variable {P : Settings} {s : Conn} {answers : List (Sigma ConnAnswer)}

theorem Cooperates.of_smooth (h : ∀ a ∈ answers, Smooth a.1 a.2) :
    Cooperates P s answers where
  undisturbed _ _ hstruck := h _ hstruck
  attests _ _ _ hresponse := (h _ hresponse).elim

/-- **A closed connection is never reopened by a request.** -/
theorem closed_never_reopens (hbusy : P.cannotSend .requestSent = true) (hclosed : s.sock = none)
    (depth : Nat) :
    ¬ Reopens P depth s ∧
      ∀ answers r s', play (request P (connect P depth)) s answers = some (r, s') →
        (∃ e, r = .error e) ∧ Unserved s s' := by
  constructor
  · intro hreopens
    have hraise : CanRaise Smooth (request P (connect P depth)) s := request_canRaise hbusy hclosed
    obtain ⟨answers, e, s', hall, hplay⟩ := hraise.play
    obtain ⟨hok, -⟩ := hreopens answers _ s' (.of_smooth hall) hplay
    cases hok
  · intro answers r s' hplay
    have hraises : Meets (fun _ _ => True) (request P (connect P depth)) (fun _ _ => False)
      (fun _ s' => Unserved s s') s := request_raises hbusy hclosed
    obtain ⟨hok, herror⟩ := hraises.play (fun _ _ => trivial) hplay
    cases r with
    | ok a => exact (hok a rfl).elim
    | error e => exact ⟨⟨e, rfl⟩, herror e rfl⟩

end

/-! ### Two closed connections -/

/-- A connection closed by `close()`, after a `connect()` at the reading 1. -/
def sampleClosed : Conn := sampleConnected.shut

theorem sampleClosed_run : ∃ es, Run (connection sampleSettings) es sampleClosed := by
  have h := Run.init (S := (connection sampleSettings).restrict fun _ _ => True) (s := {}) rfl
  have h := run_call h .connect 1 _ sample_connect trivial
  have h := run_call h .close 1 [⟨.strike (.closing .user), none⟩, ⟨.strike (.closed .user), none⟩]
    rfl trivial
  exact ⟨_, h.of_restrict⟩

theorem sampleClosed_stays_closed : ¬ Reopens sampleSettings 2 sampleClosed ∧
    ∀ answers r s', play (request sampleSettings (connect sampleSettings 2)) sampleClosed answers =
      some (r, s') → (∃ e, r = .error e) ∧ Unserved sampleClosed s' :=
  closed_never_reopens rfl rfl 2

/-- The answers to a request on a connection that was never opened, where nothing strikes. -/
def unopenedAnswers : List (Sigma ConnAnswer) :=
  [⟨.strike .between, none⟩, ⟨.strike .between, none⟩, ⟨.strike .sending, none⟩,
    ⟨.strike .superConnect, none⟩, ⟨.strike .sockAssigned, none⟩,
    ⟨.strike (.unvalidated .connect), none⟩, ⟨.tokenBytes, sampleNonce⟩,
    ⟨.strike (.unvalidated .connect), none⟩, ⟨.strike (.closing .connect), none⟩,
    ⟨.strike (.closed .connect), none⟩]

/-- The answers to a request at the reading 4000, where nothing strikes. -/
def outdatedAnswers : List (Sigma ConnAnswer) :=
  [⟨.strike .between, none⟩, ⟨.time, 4000⟩, ⟨.strike .between, none⟩, ⟨.strike .between, none⟩,
    ⟨.strike (.closing .request), none⟩, ⟨.strike (.closed .request), none⟩]

theorem undisturbed_requests_fail :
    (Run (connection sampleSettings) [] {} ∧ Cooperates sampleSettings {} unopenedAnswers ∧
      play (request sampleSettings (connect sampleSettings 2)) {} unopenedAnswers =
        some (.error ⟨cannotSendRequest, [.text "Request-sent"]⟩, { opened := 1 })) ∧
    (∃ es, Run (connection sampleSettings) es sampleClosed) ∧
      Cooperates sampleSettings sampleClosed outdatedAnswers ∧
      play (request sampleSettings (connect sampleSettings 2)) sampleClosed outdatedAnswers =
        some (.error ⟨promptEncryptionError, [.text "Session revalidation failed"]⟩,
          sampleClosed.observe (.checked 4000)) := by
  have hdue : play (revalidationDue sampleSettings) sampleClosed [⟨.time, 4000⟩] =
      some (.ok true, sampleClosed.observe (.checked 4000)) := by
    rw [play_revalidationDue rfl (by decide +kernel), decide_eq_true (by decide +kernel)]
  refine ⟨⟨.init rfl, .of_smooth ?_, rfl⟩, sampleClosed_run, .of_smooth ?_, ?_⟩
  · simp [unopenedAnswers, Smooth]
  · simp [outdatedAnswers, Smooth]
  · rw [request, outdatedAnswers, play_strikeAt_bind]
    exact play_bind hdue

end PromptEncryption.Client
