import PromptEncryption.Client.Connection

/-!
# Client — application data goes to attested sockets

The invariant of an `AttestedHTTPSConnection` between calls: `validate` has returned on the socket it
holds, if it holds one (`Safe`).  Inside `connect()` the invariant is broken, from where the new
socket is assigned to where `validate` returns, and what restores it on the way out is the `except
Exception` clause.

* `application_attested`: where that clause catches what strikes there, an application request goes
  only to a socket `validate` has returned on.
* `interrupted_unattested`: a `KeyboardInterrupt` is not caught, and the next request goes to a
  socket nothing was validated on.
-/

namespace PromptEncryption.Client
open Python Scripts Runs

/-! ### The invariant -/

/-- `validate` has returned on the socket. -/
def ValidatedOn (k : Nat) (log : List Obs) : Prop :=
  ∃ response tlsEkm, .validated (some k) response tlsEkm ∈ log

/-- Application requests go to validated sockets, and `validated` says that `validate` returned. -/
def Fits (P : Settings) : Obs → List Obs → Prop
  | .sent .application k, log => ValidatedOn k log
  | .validated sock response tlsEkm, _ =>
      (∃ nonce, P.ekmExporterFn sock EKM_LENGTH EKM_LABEL nonce = .ok tlsEkm) ∧
        validate P.validator response tlsEkm none = .ok ()
  | _, _ => True

/-- `validate` has returned on the socket held. -/
def Attested (s : Conn) : Prop := ∀ k, s.sock = some k → ValidatedOn k s.log

/-- **The invariant between calls.** -/
structure Safe (P : Settings) (s : Conn) : Prop where
  fits : Always (Fits P) s.log
  attested : Attested s

/-- The invariant inside a handshake `c` runs, before `validate` returns. -/
structure Held (P : Settings) (c : Caller) (s : Conn) : Prop where
  fits : Always (Fits P) s.log
  attested : c = .revalidateSession → Attested s

/-- What a handshake leaves that raises `e`. -/
structure Fails (P : Settings) (c : Caller) (e : Exc) (s : Conn) : Prop where
  held : Held P c s
  attested : e.isinstance .exception = false → Attested s

/-- **Where the `except Exception` clause of `connect()` catches.**  `super().connect()` does not
raise once it has assigned the socket, what strikes the handshake of `connect()` before `validate`
returns is derived from `Exception`, and nothing keeps that clause from closing the socket. -/
def Caught : (q : ConnQuestion) → ConnAnswer q → Prop
  | .strike .sockAssigned, a => a = none
  | .strike (.unvalidated .connect), a => ∀ e, a = some e → e.isinstance .exception = true
  | .strike (.closing .connect), a => a = none
  | .response (.unvalidated .connect), a =>
      ∀ e, a.1.data = .error e → e.isinstance .exception = true
  | _, _ => True

/-! ### What a call keeps -/

section
variable {P : Settings} {c : Caller} {s : Conn}

theorem ValidatedOn.cons {k : Nat} {log : List Obs} (o : Obs) :
    ValidatedOn k log → ValidatedOn k (o :: log)
  | ⟨response, tlsEkm, h⟩ => ⟨response, tlsEkm, List.mem_cons_of_mem o h⟩

theorem Attested.observe (h : Attested s) (o : Obs) : Attested (s.observe o) :=
  fun k hk => (h k hk).cons o

theorem Attested.receives (h : Attested s) (ends : Bool) : Attested (s.receives ends) := by
  intro k hk
  cases ends with
  | true => cases hk
  | false => exact h k hk

theorem attested_of_closed (h : s.sock = none) : Attested s :=
  fun k hk => absurd (h.symm.trans hk) (by simp)

theorem Safe.held (h : Safe P s) : Held P c s := ⟨h.fits, fun _ => h.attested⟩

theorem Safe.observe (h : Safe P s) {o : Obs} (ho : Fits P o s.log) : Safe P (s.observe o) :=
  ⟨⟨ho, h.fits⟩, h.attested.observe o⟩

theorem Safe.fails (h : Safe P s) {e : Exc} : Fails P c e s := ⟨h.held, fun _ => h.attested⟩

theorem Held.fails (h : Held P c s) {e : Exc}
    (he : c = .connect → e.isinstance .exception = true) : Fails P c e s := by
  refine ⟨h, ?_⟩
  intro hne
  cases c with
  | connect => rw [he rfl] at hne; cases hne
  | revalidateSession => exact h.attested rfl

/-- `super().request()` of a handshake. -/
theorem attestation_request_meets {self_connect : Method Unit}
    (hconnect : ∀ s, Safe P s → Meets Caught self_connect (fun _ => Safe P) (fun _ => Safe P) s)
    {body : Bytes} (h : Held P c s) :
    Meets Caught (superRequest P self_connect (.unvalidated c) (.attestation body))
      (fun _ => Held P c) (Fails P c) s := by
  have hstrike : ∀ s e, Held P c s → Caught (.strike (.unvalidated c)) (some e) → Fails P c e s := by
    refine fun s e h he => h.fails ?_
    intro hc
    subst hc
    exact he e rfl
  refine superRequest_meets (I := Held P c) hstrike (fun s e h he => h.fails fun _ => he)
    (fun s h => ⟨h.fits, h.attested⟩) ?_ ?_ hstrike h
  · intro s h hs
    exact (hconnect s ⟨h.fits, attested_of_closed hs⟩).mono (fun _ _ h => h.held) fun _ _ h => h.fails
  · intro s k h _
    exact ⟨⟨trivial, h.fits⟩, fun hc => (h.attested hc).observe _⟩

/-- **A handshake that returns leaves a validated socket.** -/
theorem handshake_meets (hP : P.Ordinary) {self_connect : Method Unit}
    (hconnect : ∀ s, Safe P s → Meets Caught self_connect (fun _ => Safe P) (fun _ => Safe P) s)
    (h : Held P c s) :
    Meets Caught (performAttestationHandshake P c self_connect) (fun _ => Safe P) (Fails P c) s := by
  refine performAttestationHandshake_meets (I := Held P c) (J := Held P c) (V := Safe P)
    (fun s e h he => (or_self_iff.mp h).fails fun hc => ?_)
    (fun s e h _ => Safe.fails (s := s.shut) ⟨h.fits, attested_of_closed rfl⟩)
    (fun s e h he => h.fails fun _ => he hP)
    (fun s e h _ => ⟨h.held, fun hne => absurd hne (by decide)⟩)
    (fun s body h => attestation_request_meets hconnect h) ?_ ?_ ?_
    (fun s e h _ => h.fails) ?_ ?_ h
  · subst hc
    exact he e rfl
  · intro s r ends e h hr he
    -- the response does not parse: an `Exception`, as the decoders raise no other
    have h' : Held P c (s.receives ends) := ⟨h.fits, fun hc => (h.attested hc).receives ends⟩
    refine h'.fails ?_
    intro hc
    subst hc
    exact processAttestationResponse_raises hP.decodes hr e he
  · intro s r ends h _
    exact ⟨h.fits, fun hc => (h.attested hc).receives ends⟩
  · intro s nonce response tlsEkm h hekm hv
    -- `validate` has returned on the socket held: the invariant holds again
    refine ⟨⟨⟨⟨nonce, hekm⟩, hv⟩, h.fits⟩, fun k hk => ⟨response, tlsEkm, ?_⟩⟩
    have hsock : s.sock = some k := hk
    rw [← hsock]
    exact List.mem_cons_self
  · intro s e reading h _ _
    exact Safe.fails (s := s.records reading) ⟨h.fits, h.attested⟩
  · intro s reading h _
    exact Safe.observe (s := s.records reading) ⟨h.fits, h.attested⟩ trivial

/-- **`connect()` keeps the invariant.** -/
theorem connect_meets (hP : P.Ordinary) (depth : Nat) (h : Safe P s) :
    Meets Caught (connect P depth) (fun _ => Safe P) (fun _ => Safe P) s := by
  induction depth generalizing s with
  | zero => exact h
  | succ depth ih =>
      simp only [connect, connectWith, meets_bind]
      refine meets_superConnect.mpr ⟨fun _ => ⟨fun _ => ?_, fun e he => by cases he⟩, fun _ _ => h⟩
      -- from here the socket held is not validated
      have hheld : Held P .connect s.opens := ⟨h.fits, fun hc => by cases hc⟩
      refine meets_tryExcept.mpr
        ((handshake_meets hP (fun s hs => ih hs) hheld).mono ?_ fun e s he => ?_)
      · intro _ s h
        refine meets_strikeAt.mpr ⟨fun _ => meets_modify.mpr ?_, fun e _ => h⟩
        exact Safe.observe (s := s.marks) ⟨h.fits, h.attested⟩ trivial
      · split
        · -- the clause closes the socket
          have hshut : Safe P s.shut := ⟨he.held.fits, attested_of_closed rfl⟩
          exact closing_meets (fun _ h => by cases h) (fun _ _ => hshut) hshut
        · -- what the clause does not catch struck after `validate`
          rename_i hne
          exact ⟨he.held.fits, he.attested (Bool.eq_false_iff.mpr hne)⟩

/-- `close()` keeps the invariant, wherever it is called with the invariant. -/
theorem close_keeps {c : Closer} (h : Safe P s) :
    Meets Caught (close c) (fun _ => Safe P) (fun _ => Safe P) s :=
  have hshut : Safe P s.shut := ⟨h.fits, attested_of_closed rfl⟩
  meets_close.mpr ⟨fun _ => ⟨fun _ => hshut, fun _ _ => hshut⟩, fun _ _ => h⟩

/-- A `try` whose handler closes the connection and raises keeps the invariant. -/
theorem tryClose_meets {x : Method Unit} {c : Closer} {e' : Exc}
    (hx : Meets Caught x (fun _ => Safe P) (fun _ => Safe P) s) :
    Meets Caught (tryExcept x (fun e => e.isinstance .exception) fun _ => do
      close c
      lift (.error e')) (fun _ => Safe P) (fun _ => Safe P) s := by
  refine meets_tryExcept.mpr (hx.mono (fun _ _ h => h) fun e s h => ?_)
  split
  · exact meets_bind.mpr ((close_keeps h).mono (fun _ _ h => h) fun _ _ h => h)
  · exact h

theorem revalidateSession_meets (hP : P.Ordinary) (depth : Nat) (h : Safe P s) :
    Meets Caught (revalidateSession P (connect P depth)) (fun _ => Safe P) (fun _ => Safe P) s := by
  simp only [revalidateSession, meets_bind]
  refine meets_strikeAt.mpr ⟨fun _ => meets_getState.mpr ?_, fun e _ => h⟩
  refine meets_raiseIf.mpr ⟨fun _ => tryClose_meets ?_, fun _ => h⟩
  refine meets_bind.mpr ((handshake_meets hP (fun s => connect_meets hP depth) h.held).mono
    (fun _ s h => ?_) fun e s h => ⟨h.held.fits, h.held.attested rfl⟩)
  exact meets_strikeAt.mpr ⟨fun _ => h, fun e _ => h⟩

theorem revalidationDue_meets (h : Safe P s) :
    Meets Caught (revalidationDue P) (fun _ => Safe P) (fun _ => Safe P) s :=
  meets_revalidationDue.mpr ⟨fun _ => h, fun _ _ _ _ => h.observe trivial⟩

/-- **`request()` keeps the invariant.** -/
theorem request_meets (hP : P.Ordinary) (depth : Nat) (h : Safe P s) :
    Meets Caught (request P (connect P depth)) (fun _ => Safe P) (fun _ => Safe P) s := by
  simp only [request, meets_bind]
  refine meets_strikeAt.mpr ⟨fun _ => ?_, fun e _ => h⟩
  refine (revalidationDue_meets h).mono (fun due s h => ?_) fun _ _ h => h
  have hrevalidate : Meets Caught (revalidateIf P (connect P depth) due) (fun _ => Safe P)
      (fun _ => Safe P) s := by
    cases due with
    | false => exact h
    | true =>
        refine meets_bind.mpr (meets_strikeAt.mpr ⟨fun _ => ?_, fun e _ => h⟩)
        exact tryClose_meets (revalidateSession_meets hP depth h)
  refine hrevalidate.mono (fun _ s h => ?_) fun _ _ h => h
  refine meets_strikeAt.mpr ⟨fun _ => ?_, fun e _ => h⟩
  exact superRequest_meets (I := Safe P) (fun _ _ h _ => h) (fun _ _ h _ => h)
    (fun s h => ⟨h.fits, h.attested⟩) (fun s h _ => connect_meets hP depth h)
    (fun s k h hk => h.observe (h.attested k hk)) (fun _ _ h _ => h) h

/-- **The step lemma.**  Every call keeps the invariant. -/
theorem call_meets (hP : P.Ordinary) (call : Call) (depth : Nat) (h : Safe P s) :
    Meets Caught (call.method P depth) (fun _ => Safe P) (fun _ => Safe P) s := by
  cases call with
  | connect => exact connect_meets hP depth h
  | request => exact request_meets hP depth h
  | revalidateSession => exact revalidateSession_meets hP depth h
  | close => exact close_keeps h
  | response =>
      refine meets_bind.mpr (getresponse_meets (fun _ received _ => ?_) (fun _ _ => h)
        fun _ _ _ _ _ => ⟨h.fits, attested_of_closed rfl⟩)
      exact ⟨h.fits, h.attested.receives _⟩
  | peerClose => exact h

/-! ### Every run -/

/-- What strikes a call is caught where it has to be. -/
def Event.Caught (e : Event) : Prop := ∀ a ∈ e.answers, Client.Caught a.1 a.2

/-- The invariant holds along every run whose calls are caught. -/
theorem safe_of_run (hP : P.Ordinary) {es : List Event}
    (h : Run ((connection P).restrict fun _ e => e.Caught) es s) : Safe P s := by
  refine h.invariant_state ?_ ?_
  · intro s h₀
    obtain rfl : s = {} := h₀
    exact ⟨trivial, fun k hk => by cases hk⟩
  · intro s e s' hs hst
    obtain ⟨hplay, hcaught⟩ := hst
    exact (call_meets hP e.call e.depth hs).play_ends (Φ := fun _ => Safe P) hcaught hplay

/-- **Application data goes only to an attested socket.**  In every run whose calls are caught, an
application request is transmitted only on a socket on which a handshake has had `validate`
return. -/
theorem application_attested (hP : P.Ordinary) {es : List Event}
    (h : Run ((connection P).restrict fun _ e => e.Caught) es s) :
    ∀ later k earlier, s.log = later ++ .sent .application k :: earlier →
      ∃ response tlsEkm nonce, .validated (some k) response tlsEkm ∈ earlier ∧
        P.ekmExporterFn (some k) EKM_LENGTH EKM_LABEL nonce = .ok tlsEkm ∧
        validate P.validator response tlsEkm none = .ok () := by
  intro later k earlier hlog
  have hfits := always_iff.mp (safe_of_run hP h).fits
  obtain ⟨response, tlsEkm, hmem⟩ := hfits later _ earlier hlog
  obtain ⟨before, after, hsplit⟩ := List.append_of_mem hmem
  obtain ⟨⟨nonce, hekm⟩, hvalid⟩ := hfits (later ++ .sent .application k :: before)
    (.validated (some k) response tlsEkm) after (by rw [hlog, hsplit]; simp)
  exact ⟨response, tlsEkm, nonce, hmem, hekm, hvalid⟩

end

/-! ### Two runs -/

/-- A run goes on with a call that is played. -/
theorem run_call {P : Settings} {C : Event → Prop} {s s' : Conn} {es : List Event}
    {r : Except Exc Unit} (h : Run ((connection P).restrict fun _ e => C e) es s)
    (call : Call) (depth : Nat) (answers : List (Sigma ConnAnswer))
    (hp : play (call.method P depth) s answers = some (r, s'))
    (hC : C ⟨call, depth, answers, r⟩) :
    Run ((connection P).restrict fun _ e => C e) (⟨call, depth, answers, r⟩ :: es) s' :=
  .step h ⟨hp, hC⟩

/-- Libraries that accept one response. -/
def sampleLibs : Libraries where
  verifyAndDecode _ _ := .ok [("eat_nonce", .list [.str (fingerprint [1])])]
  loadPemPublicKey _ := .ok (.ellipticCurve "secp256r1" fun _ _ => .ok ())
  parseWithoutSecret _ := .ok ⟨[⟨ML_DSA_PUBLIC_KEY_TYPE_URL, true, fun _ _ => true⟩], .ok ()⟩

def sampleResponse : AttestConnectionResponse where
  evidence := [{ verifierType := .gca, trustBundle := some { attestationToken := "T" } }]
  instancePublicKey := { keyBytes := [1] }
  sessionSignature := [1]
  pqcPublicKey := { serializedPublicKeyset := [1] }
  pqcSessionSignature := [1]

theorem sampleResponse_valid : validate ⟨some {}, sampleLibs⟩ sampleResponse [] none = .ok () := by
  have hlist : dictGet [("eat_nonce", .list [.str (fingerprint [1])])] "eat_nonce" =
      .list [.str (fingerprint [1])] := rfl
  refine validate_eq_ok.mpr ⟨"T", [("eat_nonce", .list [.str (fingerprint [1])])], rfl, by decide,
    rfl, rfl, by decide, by decide, ?_, by decide, by decide, rfl, rfl⟩
  exact (verifyInstanceKeyBinding_eq_ok_of_list hlist).mpr ⟨List.mem_cons_self,
    List.mem_cons_self, fun n hn => by cases hn⟩

/-- Settings under which a client is answered `sampleResponse`, over `http.client`. -/
def sampleSettings : Settings where
  J := { (default : JsonFormat) with responseFromString := fun _ => .ok sampleResponse }
  validator := ⟨some {}, sampleLibs⟩
  ekmExporterFn _ _ _ _ := .ok []
  revalidationTimeout := DEFAULT_REVALIDATION_TIMEOUT
  cannotSend s := s != .idle

theorem sampleSettings_ordinary : sampleSettings.Ordinary where
  decodes := ⟨fun _ => .error rfl, fun _ => .error rfl, fun _ => .ok⟩
  libs :=
    { verifyAndDecode := fun _ _ => .ok
      loadPemPublicKey := fun _ => .ok
      verify := fun h => by cases h; exact fun _ _ => .ok
      parseWithoutSecret := fun _ => .ok
      primitive := fun h => by cases h; exact .ok }
  exports _ _ _ _ := .ok

def sampleNonce : Bytes := List.replicate NONCE_LENGTH 0

/-- The connection after a `connect()` at the reading 1. -/
def sampleConnected : Conn :=
  ((Conn.opens {}).attests 0 (sampleSettings.J.requestToJson (attestationRequest sampleNonce))
    sampleResponse [] 1).marks.observe .connected

/-- The connection after a `request()` that follows at the reading 2. -/
def sampleSent : Conn :=
  (sampleConnected.observe (.checked 2)).starts.observe (.sent .application 0)

theorem sample_connect :
    play (connect sampleSettings 1) {} (connectAnswers sampleNonce ⟨.ok [], 200, none⟩ 1) =
      some (.ok (), sampleConnected) :=
  play_connect rfl rfl rfl sampleResponse_valid

theorem sample_request :
    play (request sampleSettings (connect sampleSettings 1)) sampleConnected (freshAnswers 2) =
      some (.ok (), sampleSent) :=
  play_request rfl rfl rfl (by decide +kernel) (by decide +kernel)

theorem connectAnswers_caught {nonce : Bytes} {r : HttpResponse} {reading : ℚ}
    (hr : ∀ e, r.data = .error e → e.isinstance .exception = true) :
    ∀ a ∈ connectAnswers nonce r reading, Caught a.1 a.2 := by
  simp only [connectAnswers, handshakeAnswers, requestAnswers, List.forall_mem_append,
    List.forall_mem_cons]
  simpa [Caught] using hr

theorem freshAnswers_caught {reading : ℚ} : ∀ a ∈ freshAnswers reading, Caught a.1 a.2 := by
  simp only [freshAnswers, requestAnswers, List.forall_mem_append, List.forall_mem_cons]
  simp [Caught]

theorem sampleRun_attested : ∃ response tlsEkm nonce,
    .validated (some 0) response tlsEkm ∈ sampleConnected.log ∧
      sampleSettings.ekmExporterFn (some 0) EKM_LENGTH EKM_LABEL nonce = .ok tlsEkm ∧
      validate sampleSettings.validator response tlsEkm none = .ok () := by
  have h := Run.init (S := (connection sampleSettings).restrict fun _ e => e.Caught) (s := {}) rfl
  have h := run_call h .connect 1 _ sample_connect (connectAnswers_caught fun _ he => by cases he)
  have h := run_call h .request 1 _ sample_request freshAnswers_caught
  obtain ⟨response, tlsEkm, nonce, hmem, hekm, hvalid⟩ :=
    application_attested sampleSettings_ordinary h [] 0 (.checked 2 :: sampleConnected.log) rfl
  refine ⟨response, tlsEkm, nonce, ?_, hekm, hvalid⟩
  rcases List.mem_cons.mp hmem with heq | hmem
  · cases heq
  · exact hmem

/-- A `KeyboardInterrupt` strikes the handshake of `connect()`, and a request follows. -/
theorem interrupted_run : ∃ es s, Run (connection sampleSettings) es s ∧
    s.log = [.sent .application 0] := by
  have h := Run.init (S := (connection sampleSettings).restrict fun _ _ => True) (s := {}) rfl
  have h := run_call h .connect 1 [⟨.strike .superConnect, none⟩, ⟨.strike .sockAssigned, none⟩,
    ⟨.strike (.unvalidated .connect), some ⟨.keyboardInterrupt, []⟩⟩] rfl trivial
  have h := run_call h .request 1 [⟨.strike .between, none⟩, ⟨.strike .between, none⟩,
    ⟨.strike .sending, none⟩, ⟨.strike .sending, none⟩, ⟨.strike .sending, none⟩] rfl trivial
  exact ⟨_, _, h.of_restrict, rfl⟩

theorem interrupted_unattested : ∃ es s, Run (connection sampleSettings) es s ∧
    ∃ later k earlier, s.log = later ++ .sent .application k :: earlier ∧
      ∀ response tlsEkm, .validated (some k) response tlsEkm ∉ earlier := by
  obtain ⟨es, s, h, hlog⟩ := interrupted_run
  exact ⟨es, s, h, [], 0, [], hlog, fun _ _ => List.not_mem_nil⟩

end PromptEncryption.Client
