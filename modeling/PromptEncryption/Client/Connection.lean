import PromptEncryption.Client.Handshake
import PromptEncryption.Support.Runs
import PromptEncryption.Support.Scripts

/-!
# Client — the attested connection

`AttestedHTTPSConnection` (`client/connection.py`), with what it takes from `urllib3` and
`http.client`: the methods are scripts over the object's attributes.  Sockets are numbered in the
order they are opened.

An exception can strike at every place of every method (`Place`), and a library call can raise
before and after it has done its work.  `http.client` keeps a request state of its own; whether it
refuses to start a request in that state is a parameter (`cannotSend`).

Each inherited step has a lemma for all it can do (`meets_close`, `getresponse_meets`, …); a request
and a handshake each have one that takes an invariant through them (`superRequest_meets`,
`performAttestationHandshake_meets`).

The object carries, for the statements only, how many sockets it has opened and what it has done
(`Obs`, the newest first).
-/

namespace PromptEncryption.Client
open Python Scripts Runs

/-! ### The object -/

/-- The request state of `http.client`. -/
inductive HttpState where
  | idle
  | requestSent
  deriving DecidableEq, Repr

/-- A request the object transmits. -/
inductive Message where
  | attestation (body : Bytes)
  | application
  deriving DecidableEq

/-- What the object has done. -/
inductive Obs where
  /-- A request was transmitted on a socket. -/
  | sent (m : Message) (sock : Nat)
  /-- `validate` returned, at the keying material of `self.sock`. -/
  | validated (sock : Option Nat) (response : AttestConnectionResponse) (tlsEkm : Bytes)
  /-- A handshake returned, having recorded a reading of the clock. -/
  | attested (sock : Option Nat) (reading : ℚ)
  /-- `connect()` set `is_attested`. -/
  | connected
  /-- `_should_revalidate` read the clock. -/
  | checked (reading : ℚ)
  deriving DecidableEq

structure Conn where
  sock : Option Nat := none
  isAttested : Bool := false
  lastAttestationTime : ℚ := 0
  http : HttpState := .idle
  opened : Nat := 0
  log : List Obs := []

namespace Conn
variable (s : Conn)

def observe (o : Obs) : Conn := { s with log := o :: s.log }

/-- `self.sock` is a new socket. -/
def opens : Conn := { s with sock := some s.opened, opened := s.opened + 1 }

/-- `self.sock` is `None`. -/
def shut : Conn := { s with sock := none, http := .idle }

/-- A request was started. -/
def starts : Conn := { s with http := .requestSent }

/-- A response was read; one that ends the connection closes it. -/
def receives (ends : Bool) : Conn :=
  { s with http := .idle, sock := if ends then none else s.sock }

/-- `self._last_attestation_time` is a new reading. -/
def records (reading : ℚ) : Conn := { s with lastAttestationTime := reading }

/-- `self.is_attested` is `True`. -/
def marks : Conn := { s with isAttested := true }

end Conn

/-- What a connection is made with. -/
structure Settings where
  J : JsonFormat
  validator : AttestationValidator
  ekmExporterFn : Option Nat → Nat → Bytes → Bytes → Except Exc Bytes
  /-- `self._revalidation_timeout.total_seconds()`: a `timedelta` counts microseconds, to which one that
  is made from a `float` is rounded.  Times are exact, here and where the clock is read. -/
  revalidationTimeout : ℚ
  /-- `http.client` raises `CannotSendRequest` in this state. -/
  cannotSend : HttpState → Bool

/-- What the libraries raise is derived from `Exception`. -/
structure Settings.Ordinary (P : Settings) : Prop where
  decodes : DecodesOrdinarily P.J
  libs : P.validator.libs.Ordinary
  exports : ∀ sock length label context, Raises .exception (P.ekmExporterFn sock length label context)

/-! ### The outside -/

/-- The method that runs a handshake. -/
inductive Caller where
  | connect
  | revalidateSession
  deriving DecidableEq

/-- The clause that closes the connection. -/
inductive Closer where
  | connect
  | revalidateSession
  | request
  | user
  deriving DecidableEq

/-- Where an exception can strike. -/
inductive Place where
  | between
  /-- In `super().connect()`, before it assigns `self.sock`. -/
  | superConnect
  /-- In `super().connect()`, after it assigned `self.sock`. -/
  | sockAssigned
  /-- In a handshake, before `validate` returns. -/
  | unvalidated (c : Caller)
  /-- In a handshake, after `validate` returned. -/
  | validated (c : Caller)
  /-- In `super().request()`, for an application request. -/
  | sending
  /-- In `getresponse()`, for the response to one. -/
  | responding
  /-- In `close()`, before it sets `self.sock` to `None`. -/
  | closing (c : Closer)
  /-- In `close()`, after it set `self.sock` to `None`. -/
  | closed (c : Closer)
  deriving DecidableEq

inductive ConnQuestion where
  | strike (p : Place)
  /-- `secrets.token_bytes(NONCE_LENGTH)`. -/
  | tokenBytes
  /-- The response `getresponse()` reads, and whether it ends the connection. -/
  | response (p : Place)
  /-- `time.time()`. -/
  | time
  deriving DecidableEq

abbrev ConnAnswer : ConnQuestion → Type
  | .strike _ => Option Exc
  | .tokenBytes => Bytes
  | .response _ => HttpResponse × Bool
  | .time => ℚ

abbrev Method (α : Type) := Block Conn ConnQuestion ConnAnswer Exc α

/-- A place an exception may strike at. -/
def strikeAt (p : Place) : Method Unit := do
  let struck ← ask (ConnQuestion.strike p)
  match struck with
  | none => pure ()
  | some (e : Exc) => lift (.error e)

def observe (o : Obs) : Method Unit := modify (·.observe o)

/-! ### What is inherited -/

/-- `close`. -/
def close (c : Closer) : Method Unit := do
  strikeAt (.closing c)
  modify Conn.shut
  strikeAt (.closed c)

/-- `super().connect()`. -/
def superConnect : Method Unit := do
  strikeAt .superConnect
  modify Conn.opens
  strikeAt .sockAssigned

abbrev cannotSendRequest : ExcClass := .derived "CannotSendRequest" <|
  .derived "ImproperConnectionState" <| .derived "HTTPException" .exception

abbrev attributeError : ExcClass := .derived "AttributeError" .exception

/-- The start of a request. -/
def putrequest (P : Settings) : Method Unit := do
  let s ← getState
  lift (raiseIf (P.cannotSend s.http = true) ⟨cannotSendRequest, [.text "Request-sent"]⟩)
  modify Conn.starts

/-- `if self.sock is None: self.connect()`. -/
def autoOpen (connect : Method Unit) : Method Unit := do
  let s ← getState
  if s.sock = none then connect else pure ()

/-- `self.sock.sendall(data)`. -/
def transmit (m : Message) : Method Unit := do
  let s ← getState
  match s.sock with
  | some k => observe (.sent m k)
  | none => lift (.error ⟨attributeError, [.text "'NoneType' object has no attribute 'sendall'"]⟩)

/-- `super().request(…)`; `connect` is `self.connect`. -/
def superRequest (P : Settings) (connect : Method Unit) (p : Place) (m : Message) :
    Method Unit := do
  strikeAt p
  putrequest P
  autoOpen connect
  strikeAt p
  transmit m
  strikeAt p

/-- `self.getresponse()`: a `ConnectionError` closes the connection. -/
def getresponse (p : Place) : Method HttpResponse := do
  tryExcept (strikeAt p) (fun e => e.isinstance .connectionError) fun e => do
    -- `self.close()`, which `p` can strike too
    strikeAt p
    modify Conn.shut
    strikeAt p
    lift (.error e)
  let received ← ask (ConnQuestion.response p)
  modify (·.receives received.2)
  return received.1

/-! ### The handshake -/

/-- The body of the `try` of `_perform_attestation_handshake`. -/
def attest (P : Settings) (c : Caller) (connect : Method Unit) (nonce : Bytes) : Method Unit := do
  superRequest P connect (.unvalidated c)
    (.attestation (P.J.requestToJson (attestationRequest nonce)))
  let response ← getresponse (.unvalidated c)
  let attestResp ← lift (processAttestationResponse P.J response)
  strikeAt (.unvalidated c)
  let s ← getState
  let tlsEkm ← lift (P.ekmExporterFn s.sock EKM_LENGTH EKM_LABEL nonce)
  strikeAt (.unvalidated c)
  lift (validate P.validator attestResp tlsEkm none)
  observe (.validated s.sock attestResp tlsEkm)
  strikeAt (.validated c)
  let reading ← ask ConnQuestion.time
  modify (·.records reading)
  strikeAt (.validated c)
  observe (.attested s.sock reading)

/-- `_perform_attestation_handshake`, run by `c`. -/
def performAttestationHandshake (P : Settings) (c : Caller) (connect : Method Unit) :
    Method Unit := do
  strikeAt (.unvalidated c)
  let nonce ← ask ConnQuestion.tokenBytes
  tryExcept (attest P c connect nonce) (fun e => e.isinstance .osError) fun _ =>
    lift (.error ⟨attestationHandshakeError, [.text "Network error during attestation"]⟩)

/-! ### The methods -/

/-- `connect`; `connect` is `self.connect` of a request the handshake may send on no socket. -/
def connectWith (P : Settings) (connect : Method Unit) : Method Unit := do
  superConnect
  tryExcept (performAttestationHandshake P .connect connect) (fun e => e.isinstance .exception)
    fun e => do
      close .connect
      lift (.error e)
  strikeAt .between
  modify Conn.marks
  observe .connected

/-- `connect`, at a bound on the recursion. -/
def connect (P : Settings) : (depth : Nat) → Method Unit
  | 0 => lift (.error ⟨.recursionError, [.text "maximum recursion depth exceeded"]⟩)
  | depth + 1 => connectWith P (connect P depth)

/-- `revalidate_session`. -/
def revalidateSession (P : Settings) (connect : Method Unit) : Method Unit := do
  strikeAt .between
  let s ← getState
  lift (raiseIf (s.sock = none)
    ⟨promptEncryptionError, [.text "Cannot revalidate: Socket is closed."]⟩)
  tryExcept
    (do
      performAttestationHandshake P .revalidateSession connect
      strikeAt .between)
    (fun e => e.isinstance .exception) fun _ => do
      close .revalidateSession
      lift (.error ⟨attestationVerificationError, [.text "Revalidation failed"]⟩)

/-- `_should_revalidate`. -/
def shouldRevalidate (P : Settings) : Method Bool := do
  let s ← getState
  if s.lastAttestationTime = 0 then return false
  else do
    let reading ← ask ConnQuestion.time
    observe (.checked reading)
    return decide (P.revalidationTimeout < reading - s.lastAttestationTime)

/-- `self.is_attested and self._should_revalidate()`. -/
def revalidationDue (P : Settings) : Method Bool := do
  let s ← getState
  if s.isAttested then shouldRevalidate P else return false

/-- The revalidation of `request`. -/
def revalidateIf (P : Settings) (connect : Method Unit) (due : Bool) : Method Unit :=
  if due then do
    strikeAt .between
    tryExcept (revalidateSession P connect) (fun e => e.isinstance .exception) fun _ => do
      close .request
      lift (.error ⟨promptEncryptionError, [.text "Session revalidation failed"]⟩)
  else pure ()

/-- `request`. -/
def request (P : Settings) (connect : Method Unit) : Method Unit := do
  strikeAt .between
  let due ← revalidationDue P
  revalidateIf P connect due
  strikeAt .between
  superRequest P connect .sending .application

/-! ### Runs -/

/-- What happens to a connection. -/
inductive Call where
  | connect
  | request
  | revalidateSession
  | close
  /-- The caller reads a response. -/
  | response
  /-- The peer closes the connection: no attribute changes. -/
  | peerClose
  deriving DecidableEq

def Call.method (P : Settings) (depth : Nat) : Call → Method Unit
  | .connect => Client.connect P depth
  | .request => Client.request P (Client.connect P depth)
  | .revalidateSession => Client.revalidateSession P (Client.connect P depth)
  | .close => Client.close .user
  | .response => do
      let _ ← getresponse .responding
      return ()
  | .peerClose => pure ()

/-- A call, at a bound on the recursion, with what the outside answered and the result. -/
structure Event where
  call : Call
  depth : Nat
  answers : List (Sigma ConnAnswer)
  result : Except Exc Unit

/-- The life of a connection. -/
def connection (P : Settings) : System Conn Event where
  init s := s = {}
  step s e s' := play (e.call.method P e.depth) s e.answers = some (e.result, s')

/-! ### What a method meets -/

section
variable {P : Settings} {C : (q : ConnQuestion) → ConnAnswer q → Prop} {s : Conn}

@[simp] theorem meets_strikeAt {p : Place} {Φ : Unit → Conn → Prop} {Ψ : Exc → Conn → Prop} :
    Meets C (strikeAt p) Φ Ψ s ↔
      (C (.strike p) none → Φ () s) ∧ ∀ e, C (.strike p) (some e) → Ψ e s := by
  rw [strikeAt, meets_bind, meets_ask]
  exact ⟨fun h => ⟨h none, fun e => h (some e)⟩, fun h a => by cases a <;> [exact h.1; exact h.2 _]⟩

@[simp] theorem meets_observe {o : Obs} {Φ : Unit → Conn → Prop} {Ψ : Exc → Conn → Prop} :
    Meets C (observe o) Φ Ψ s ↔ Φ () (s.observe o) := Iff.rfl

section
variable {Φ : Unit → Conn → Prop} {Ψ : Exc → Conn → Prop}

theorem meets_raiseIf {p : Prop} [Decidable p] {e : Exc} :
    Meets C (lift (raiseIf p e) : Method Unit) Φ Ψ s ↔ (¬ p → Φ () s) ∧ (p → Ψ e s) := by
  rw [meets_lift]
  constructor
  · rintro ⟨hok, herror⟩
    refine ⟨fun hp => hok () (raiseIf_eq_ok.mpr hp), fun hp => ?_⟩
    exact herror e (raiseIf_eq_error.mpr ⟨hp, rfl⟩)
  · rintro ⟨hok, herror⟩
    refine ⟨fun _ h => hok (raiseIf_eq_ok.mp h), fun e' h => ?_⟩
    obtain ⟨hp, rfl⟩ := raiseIf_eq_error.mp h
    exact herror hp

theorem meets_close {c : Closer} : Meets C (close c) Φ Ψ s ↔
    (C (.strike (.closing c)) none → (C (.strike (.closed c)) none → Φ () s.shut) ∧
      ∀ e, C (.strike (.closed c)) (some e) → Ψ e s.shut) ∧
        ∀ e, C (.strike (.closing c)) (some e) → Ψ e s := by
  simp only [close, meets_bind, meets_strikeAt, meets_modify]

/-- An `except` clause that closes the connection and raises `e`. -/
theorem closing_meets {α : Type} {c : Closer} {e : Exc} {Φ : α → Conn → Prop}
    (hclosing : ∀ e, C (.strike (.closing c)) (some e) → Ψ e s)
    (hclosed : ∀ e, C (.strike (.closed c)) (some e) → Ψ e s.shut) (h : Ψ e s.shut) :
    Meets C (do close c; lift (.error e) : Method α) Φ Ψ s :=
  meets_bind.mpr (meets_close.mpr ⟨fun _ => ⟨fun _ => meets_error.mpr h, hclosed⟩, hclosing⟩)

theorem meets_superConnect : Meets C superConnect Φ Ψ s ↔
    (C (.strike .superConnect) none → (C (.strike .sockAssigned) none → Φ () s.opens) ∧
      ∀ e, C (.strike .sockAssigned) (some e) → Ψ e s.opens) ∧
        ∀ e, C (.strike .superConnect) (some e) → Ψ e s := by
  simp only [superConnect, meets_bind, meets_strikeAt, meets_modify]

theorem meets_putrequest : Meets C (putrequest P) Φ Ψ s ↔
    (¬ P.cannotSend s.http = true → Φ () s.starts) ∧
      (P.cannotSend s.http = true → Ψ ⟨cannotSendRequest, [.text "Request-sent"]⟩ s) := by
  simp only [putrequest, meets_bind, meets_getState, meets_raiseIf, meets_modify]

/-- **A response**: it is read, or raises with the socket held, or, where a `ConnectionError` has
struck, without it. -/
theorem getresponse_meets {p : Place} {Φ : HttpResponse → Conn → Prop}
    (hreceives : C (.strike p) none → ∀ received : HttpResponse × Bool, C (.response p) received →
      Φ received.1 (s.receives received.2))
    (hstrike : ∀ e, C (.strike p) (some e) → Ψ e s)
    (hclosed : ∀ e e', C (.strike p) (some e) → C (.strike p) (some e') →
      e'.isinstance .connectionError = true → Ψ e s.shut) : Meets C (getresponse p) Φ Ψ s := by
  simp only [getresponse, meets_bind]
  refine meets_tryExcept.mpr (meets_strikeAt.mpr ⟨fun hno => ?_, fun e he => ?_⟩)
  · exact meets_ask.mpr fun received hr => meets_modify.mpr (meets_pure.mpr (hreceives hno received hr))
  · split
    · simp only [meets_bind, meets_strikeAt, meets_modify, meets_error]
      exact ⟨fun _ => ⟨fun _ => hclosed e e he he ‹_›, fun e' he' => hclosed e' e he' he ‹_›⟩, hstrike⟩
    · exact hstrike e he

/-- **When a revalidation is due**: never without an attested session and its time, else as the clock
says. -/
theorem meets_revalidationDue {Φ : Bool → Conn → Prop} : Meets C (revalidationDue P) Φ Ψ s ↔
    (¬ (s.isAttested = true ∧ s.lastAttestationTime ≠ 0) → Φ false s) ∧
      (s.isAttested = true → s.lastAttestationTime ≠ 0 → ∀ reading, C .time reading →
        Φ (decide (P.revalidationTimeout < reading - s.lastAttestationTime))
          (s.observe (.checked reading))) := by
  simp only [revalidationDue, meets_bind, meets_getState]
  by_cases hattested : s.isAttested = true
  · simp only [if_pos hattested, shouldRevalidate, meets_bind, meets_getState]
    by_cases htime : s.lastAttestationTime = 0
    · simp [htime]
    · simp [hattested, htime, meets_bind]
  · simp [hattested]

end

variable {self_connect : Method Unit} {I V Φ : Conn → Prop} {Ψ : Exc → Conn → Prop}

/-- **`super().request()`** keeps `I` where it starts and where it opens a connection, and takes it
to `Φ` where it transmits. -/
theorem superRequest_meets {p : Place} {m : Message}
    (hstrike : ∀ s e, I s → C (.strike p) (some e) → Ψ e s)
    (hexception : ∀ s e, I s → e.isinstance .exception = true → Ψ e s)
    (hstarts : ∀ s, I s → I s.starts)
    (hconnect : ∀ s, I s → s.sock = none → Meets C self_connect (fun _ => I) Ψ s)
    (hsent : ∀ s k, I s → s.sock = some k → Φ (s.observe (.sent m k)))
    (hstrike' : ∀ s e, Φ s → C (.strike p) (some e) → Ψ e s)
    (h : I s) : Meets C (superRequest P self_connect p m) (fun _ => Φ) Ψ s := by
  simp only [superRequest, meets_bind]
  refine meets_strikeAt.mpr ⟨fun _ => ?_, fun e he => hstrike s e h he⟩
  refine meets_putrequest.mpr ⟨fun _ => ?_, fun _ => hexception s _ h rfl⟩
  have hopen : Meets C (autoOpen self_connect) (fun _ => I) Ψ s.starts := by
    simp only [autoOpen, meets_bind, meets_getState]
    split
    · exact hconnect _ (hstarts s h) ‹_›
    · exact hstarts s h
  refine hopen.mono (fun _ s₁ h₁ => ?_) fun _ _ he => he
  refine meets_strikeAt.mpr ⟨fun _ => ?_, fun e he => hstrike s₁ e h₁ he⟩
  have hsend : Meets C (transmit m) (fun _ => Φ) Ψ s₁ := by
    simp only [transmit, meets_bind, meets_getState]
    cases hsock : s₁.sock with
    | some k => exact hsent s₁ k h₁ hsock
    | none => exact hexception s₁ _ h₁ rfl
  refine hsend.mono (fun _ s₂ h₂ => ?_) fun _ _ he => he
  exact meets_strikeAt.mpr ⟨fun _ => h₂, fun e he => hstrike' s₂ e h₂ he⟩

/-- **The handshake**, by its stages: `I` until its nonce is drawn, and then, for that nonce, `R` from
where the request is transmitted until the response is read, `J` until `validate` returns, and `V`
until the reading is recorded. -/
theorem performAttestationHandshake_meets_nonce {R J : Bytes → Conn → Prop} {c : Caller}
    (hstrike : ∀ s e, I s → C (.strike (.unvalidated c)) (some e) → Ψ e s)
    (hstrikeNonce : ∀ nonce s e, R nonce s ∨ J nonce s → C (.strike (.unvalidated c)) (some e) → Ψ e s)
    (hlost : ∀ nonce s e, R nonce s → C (.strike (.unvalidated c)) (some e) → Ψ e s.shut)
    (hexception : ∀ nonce s e, J nonce s → (P.Ordinary → e.isinstance .exception = true) → Ψ e s)
    (hwrap : ∀ s e, Ψ e s → e.isinstance .osError = true →
      Ψ ⟨attestationHandshakeError, [.text "Network error during attestation"]⟩ s)
    (hrequest : ∀ s nonce, I s → C .tokenBytes nonce → Meets C
      (superRequest P self_connect (.unvalidated c)
        (.attestation (P.J.requestToJson (attestationRequest nonce)))) (fun _ => R nonce) Ψ s)
    (hdata : ∀ nonce s r ends e, R nonce s → C (.response (.unvalidated c)) (r, ends) →
      processAttestationResponse P.J r = .error e → Ψ e (s.receives ends))
    (hreceives : ∀ nonce s r ends, R nonce s → C (.response (.unvalidated c)) (r, ends) →
      J nonce (s.receives ends))
    (hvalidated : ∀ s nonce response tlsEkm, J nonce s →
      P.ekmExporterFn s.sock EKM_LENGTH EKM_LABEL nonce = .ok tlsEkm →
      validate P.validator response tlsEkm none = .ok () →
      V (s.observe (.validated s.sock response tlsEkm)))
    (hstrike' : ∀ s e, V s → C (.strike (.validated c)) (some e) → Ψ e s)
    (hstrike'' : ∀ s e reading, V s → C .time reading → C (.strike (.validated c)) (some e) →
      Ψ e (s.records reading))
    (hattested : ∀ s reading, V s → C .time reading →
      Φ ((s.records reading).observe (.attested s.sock reading)))
    (h : I s) : Meets C (performAttestationHandshake P c self_connect) (fun _ => Φ) Ψ s := by
  simp only [performAttestationHandshake, meets_bind]
  refine meets_strikeAt.mpr ⟨fun _ => ?_, fun e he => hstrike s e h he⟩
  refine meets_ask.mpr fun nonce hnonce => meets_tryExcept.mpr ?_
  have hattest : Meets C (attest P c self_connect nonce) (fun _ => Φ) Ψ s := by
    simp only [attest, meets_bind]
    refine (hrequest s nonce h hnonce).mono (fun _ s₁ h₁ => ?_) fun _ _ he => he
    refine getresponse_meets (fun _ received hr => ?_)
      (fun e he => hstrikeNonce nonce s₁ e (.inl h₁) he) fun e _ he _ _ => hlost nonce s₁ e h₁ he
    obtain ⟨r, ends⟩ := received
    refine meets_lift.mpr
      ⟨fun response hresponse => ?_, fun e he => hdata nonce s₁ r ends e h₁ hr he⟩
    have h₂ : J nonce (s₁.receives ends) := hreceives nonce s₁ r ends h₁ hr
    refine meets_strikeAt.mpr ⟨fun _ => ?_, fun e he => hstrikeNonce nonce _ e (.inr h₂) he⟩
    refine meets_getState.mpr (meets_lift.mpr ⟨fun tlsEkm hekm => ?_, fun e he =>
      hexception nonce _ e h₂ fun hP => hP.exports _ _ _ _ e he⟩)
    refine meets_strikeAt.mpr ⟨fun _ => ?_, fun e he => hstrikeNonce nonce _ e (.inr h₂) he⟩
    refine meets_lift.mpr ⟨fun _ hvalid => ?_, fun e he =>
      hexception nonce _ e h₂ fun hP => validate_raises hP.libs e he⟩
    have h₃ := hvalidated _ nonce response tlsEkm h₂ hekm hvalid
    refine meets_observe.mpr (meets_strikeAt.mpr ⟨fun _ => ?_, fun e he => hstrike' _ e h₃ he⟩)
    refine meets_ask.mpr fun reading hreading => meets_modify.mpr ?_
    refine meets_strikeAt.mpr ⟨fun _ => ?_, fun e he => hstrike'' _ e reading h₃ hreading he⟩
    exact hattested _ reading h₃ hreading
  refine hattest.mono (fun _ _ hΦ => hΦ) ?_
  intro e s₁ he
  split
  · exact hwrap s₁ e he ‹_›
  · exact he

/-- The same, where it makes no difference which nonce was drawn: `I` until the response is read, `J`
until `validate` returns, `V` until the reading is recorded. -/
theorem performAttestationHandshake_meets {J : Conn → Prop} {c : Caller}
    (hstrike : ∀ s e, I s ∨ J s → C (.strike (.unvalidated c)) (some e) → Ψ e s)
    (hlost : ∀ s e, I s → C (.strike (.unvalidated c)) (some e) → Ψ e s.shut)
    (hexception : ∀ s e, J s → (P.Ordinary → e.isinstance .exception = true) → Ψ e s)
    (hwrap : ∀ s e, Ψ e s → e.isinstance .osError = true →
      Ψ ⟨attestationHandshakeError, [.text "Network error during attestation"]⟩ s)
    (hrequest : ∀ s body, I s → Meets C
      (superRequest P self_connect (.unvalidated c) (.attestation body)) (fun _ => I) Ψ s)
    (hdata : ∀ s r ends e, I s → C (.response (.unvalidated c)) (r, ends) →
      processAttestationResponse P.J r = .error e → Ψ e (s.receives ends))
    (hreceives : ∀ s r ends, I s → C (.response (.unvalidated c)) (r, ends) → J (s.receives ends))
    (hvalidated : ∀ s nonce response tlsEkm, J s →
      P.ekmExporterFn s.sock EKM_LENGTH EKM_LABEL nonce = .ok tlsEkm →
      validate P.validator response tlsEkm none = .ok () →
      V (s.observe (.validated s.sock response tlsEkm)))
    (hstrike' : ∀ s e, V s → C (.strike (.validated c)) (some e) → Ψ e s)
    (hstrike'' : ∀ s e reading, V s → C .time reading → C (.strike (.validated c)) (some e) →
      Ψ e (s.records reading))
    (hattested : ∀ s reading, V s → C .time reading →
      Φ ((s.records reading).observe (.attested s.sock reading)))
    (h : I s) : Meets C (performAttestationHandshake P c self_connect) (fun _ => Φ) Ψ s := by
  exact performAttestationHandshake_meets_nonce (R := fun _ => I) (J := fun _ => J)
    (fun s e hs => hstrike s e (.inl hs)) (fun _ => hstrike) (fun _ => hlost) (fun _ => hexception)
    hwrap
    (fun s _ hs _ => hrequest s _ hs) (fun _ => hdata) (fun _ => hreceives) hvalidated hstrike'
    hstrike'' hattested h

end

/-! ### Calls nothing strikes -/

section
variable {P : Settings} {s : Conn} {self_connect : Method Unit} {as : List (Sigma ConnAnswer)}

theorem play_strikeAt {p : Place} :
    play (strikeAt p) s [⟨.strike p, none⟩] = some (.ok (), s) := by
  rw [strikeAt, play_ask_bind]
  exact play_pure

@[simp] theorem play_strikeAt_bind {α : Type} {p : Place} {f : Unit → Method α} :
    play (strikeAt p >>= f : Method α) s (⟨.strike p, none⟩ :: as) = play (f ()) s as :=
  play_bind play_strikeAt

/-- The answers to a `super().request()` nothing strikes. -/
def requestAnswers (p : Place) : List (Sigma ConnAnswer) :=
  [⟨.strike p, none⟩, ⟨.strike p, none⟩, ⟨.strike p, none⟩]

theorem play_putrequest (hstart : P.cannotSend s.http = false) :
    play (putrequest P) s [] = some (.ok (), s.starts) := by
  simp [putrequest, raiseIf, hstart]

theorem play_autoOpen (hsock : s.sock ≠ none) :
    play (autoOpen self_connect) s [] = some (.ok (), s) := by
  simp [autoOpen, hsock]

theorem play_autoOpen_bind {α : Type} {f : Unit → Method α} (hsock : s.sock = none) :
    play (autoOpen self_connect >>= f : Method α) s as = play (self_connect >>= f : Method α) s as := by
  change play ((if s.sock = none then self_connect else pure ()) >>= f : Method α) s as = _
  rw [if_pos hsock]

theorem play_transmit {m : Message} {k : Nat} (hsock : s.sock = some k) :
    play (transmit m) s [] = some (.ok (), s.observe (.sent m k)) := by
  simp [transmit, hsock, observe]

theorem play_superRequest {p : Place} {m : Message} {k : Nat} (hsock : s.sock = some k)
    (hstart : P.cannotSend s.http = false) :
    play (superRequest P self_connect p m) s (requestAnswers p) =
      some (.ok (), s.starts.observe (.sent m k)) := by
  have hopen : s.starts.sock ≠ none := fun h => by cases hsock.symm.trans h
  have htransmit : play (transmit m) s.starts [] =
      some (.ok (), s.starts.observe (.sent m k)) := play_transmit hsock
  rw [superRequest, requestAnswers, play_strikeAt_bind]
  refine (play_bind (play_putrequest hstart)).trans ?_
  refine (play_bind (play_autoOpen hopen)).trans ?_
  rw [play_strikeAt_bind]
  exact (play_bind htransmit).trans play_strikeAt

/-- The answers to a handshake nothing strikes. -/
def handshakeAnswers (c : Caller) (nonce : Bytes) (r : HttpResponse) (reading : ℚ) :
    List (Sigma ConnAnswer) :=
  [⟨.strike (.unvalidated c), none⟩, ⟨.tokenBytes, nonce⟩] ++
    (requestAnswers (.unvalidated c) ++
      [⟨.strike (.unvalidated c), none⟩, ⟨.response (.unvalidated c), (r, false)⟩] ++
      [⟨.strike (.unvalidated c), none⟩, ⟨.strike (.unvalidated c), none⟩,
        ⟨.strike (.validated c), none⟩, ⟨.time, reading⟩, ⟨.strike (.validated c), none⟩])

theorem play_getresponse {p : Place} {r : HttpResponse} {ends : Bool} :
    play (getresponse p) s [⟨.strike p, none⟩, ⟨.response p, (r, ends)⟩] =
      some (.ok r, s.receives ends) := by
  refine (play_bind (play_tryExcept play_strikeAt)).trans ?_
  rw [play_ask_bind]
  exact play_modify_bind

/-- What is done in a handshake that returns. -/
def Conn.attests (s : Conn) (k : Nat) (body : Bytes) (response : AttestConnectionResponse)
    (tlsEkm : Bytes) (reading : ℚ) : Conn :=
  ((((s.starts.observe (.sent (.attestation body) k)).receives false).observe
    (.validated (some k) response tlsEkm)).records reading).observe (.attested (some k) reading)

theorem play_performAttestationHandshake {c : Caller} {k : Nat} {nonce : Bytes} {r : HttpResponse}
    {reading : ℚ} {response : AttestConnectionResponse} {tlsEkm : Bytes}
    (hsock : s.sock = some k) (hstart : P.cannotSend s.http = false)
    (hresponse : processAttestationResponse P.J r = .ok response)
    (hekm : P.ekmExporterFn (some k) EKM_LENGTH EKM_LABEL nonce = .ok tlsEkm)
    (hvalid : validate P.validator response tlsEkm none = .ok ()) :
    play (performAttestationHandshake P c self_connect) s (handshakeAnswers c nonce r reading) =
      some (.ok (), s.attests k (P.J.requestToJson (attestationRequest nonce)) response tlsEkm
        reading) := by
  rw [performAttestationHandshake, handshakeAnswers, List.cons_append, play_strikeAt_bind,
    List.cons_append, play_ask_bind]
  refine play_tryExcept ?_
  rw [attest, List.nil_append, List.append_assoc]
  refine (play_bind (play_superRequest hsock hstart)).trans ?_
  refine (play_bind play_getresponse).trans ?_
  have hk : ((s.starts.observe (.sent (.attestation
    (P.J.requestToJson (attestationRequest nonce))) k)).receives false).sock = some k := hsock
  rw [hresponse]
  simp only [play_lift_bind, play_strikeAt_bind, play_getState_bind, hk, hekm, hvalid, observe,
    play_modify_bind, play_ask_bind, play_modify]
  rfl

/-- The answers to a `connect()` nothing strikes. -/
def connectAnswers (nonce : Bytes) (r : HttpResponse) (reading : ℚ) : List (Sigma ConnAnswer) :=
  [⟨.strike .superConnect, none⟩, ⟨.strike .sockAssigned, none⟩] ++
    (handshakeAnswers .connect nonce r reading ++ [⟨.strike .between, none⟩])

/-- **A `connect()` in which nothing fails** opens a socket and attests it. -/
theorem play_connect {depth : Nat} {nonce : Bytes} {r : HttpResponse} {reading : ℚ}
    {response : AttestConnectionResponse} {tlsEkm : Bytes} (hstart : P.cannotSend s.http = false)
    (hresponse : processAttestationResponse P.J r = .ok response)
    (hekm : P.ekmExporterFn (some s.opened) EKM_LENGTH EKM_LABEL nonce = .ok tlsEkm)
    (hvalid : validate P.validator response tlsEkm none = .ok ()) :
    play (connect P (depth + 1)) s (connectAnswers nonce r reading) =
      some (.ok (), (s.opens.attests s.opened (P.J.requestToJson (attestationRequest nonce))
        response tlsEkm reading).marks.observe .connected) := by
  have hhandshake : play (performAttestationHandshake P .connect (connect P depth)) s.opens
      (handshakeAnswers .connect nonce r reading) = some (.ok (), s.opens.attests s.opened
        (P.J.requestToJson (attestationRequest nonce)) response tlsEkm reading) :=
    play_performAttestationHandshake rfl hstart hresponse hekm hvalid
  have hsuper : play superConnect s
      [⟨.strike .superConnect, none⟩, ⟨.strike .sockAssigned, none⟩] = some (.ok (), s.opens) := by
    rw [superConnect, play_strikeAt_bind, play_modify_bind, play_strikeAt]
  rw [connect, connectWith, connectAnswers]
  refine (play_bind hsuper).trans ((play_bind (play_tryExcept hhandshake)).trans ?_)
  rw [play_strikeAt_bind, play_modify_bind]
  exact play_modify

/-- The answers to a `request()` that finds its session fresh, where nothing strikes. -/
def freshAnswers (reading : ℚ) : List (Sigma ConnAnswer) :=
  ⟨.strike .between, none⟩ :: ([⟨.time, reading⟩] ++
    ⟨.strike .between, none⟩ :: requestAnswers .sending)

theorem play_revalidationDue {reading : ℚ} (hattested : s.isAttested = true)
    (htime : s.lastAttestationTime ≠ 0) :
    play (revalidationDue P) s [⟨.time, reading⟩] =
      some (.ok (decide (P.revalidationTimeout < reading - s.lastAttestationTime)),
        s.observe (.checked reading)) := by
  rw [revalidationDue, play_getState_bind, if_pos hattested, shouldRevalidate, play_getState_bind,
    if_neg htime, play_ask_bind, observe, play_modify_bind]
  exact play_pure

theorem play_request {k : Nat} {reading : ℚ} (hsock : s.sock = some k)
    (hstart : P.cannotSend s.http = false) (hattested : s.isAttested = true)
    (htime : s.lastAttestationTime ≠ 0)
    (hfresh : reading - s.lastAttestationTime ≤ P.revalidationTimeout) :
    play (request P self_connect) s (freshAnswers reading) =
      some (.ok (), (s.observe (.checked reading)).starts.observe (.sent .application k)) := by
  have hdue : play (revalidationDue P) s [⟨.time, reading⟩] =
      some (.ok false, s.observe (.checked reading)) := by
    rw [play_revalidationDue hattested htime, decide_eq_false (Rat.not_lt.mpr hfresh)]
  have hrevalidate : play (revalidateIf P self_connect false) (s.observe (.checked reading)) [] =
      some (.ok (), s.observe (.checked reading)) := play_pure
  have hsend : play (superRequest P self_connect .sending .application)
      (s.observe (.checked reading)) (requestAnswers .sending) = _ := play_superRequest hsock hstart
  rw [request, freshAnswers, play_strikeAt_bind]
  refine (play_bind hdue).trans ((play_bind hrevalidate).trans ?_)
  exact play_strikeAt_bind.trans hsend
end

end PromptEncryption.Client
