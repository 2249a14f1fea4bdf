import PromptEncryption.Server.Middleware
import PromptEncryption.Support.Runs

/-!
# Server — the gate

A middleware, over the requests of all its connections in any order, as a system (`Gate.system`):
the state is the set of attested TLS objects, an event is a request with what was done with it.

Two laws describe one call of a gate: which TLS objects are attested after it (`Gate.Grants`) and
when the wrapped application is called (`Gate.Forwards`).  They are what the run theorems use.

* `middleware_gate`: both middlewares, on http requests, forward a request exactly when an earlier
  attestation request on its TLS object succeeded (`Gate.Exact`).
* `dispatch_attested_iff`: over all the scopes uvicorn dispatches, the application is called only
  on attested connections exactly in the runs whose websocket scopes come on such connections.
-/

namespace PromptEncryption.Server
open Python Runs

variable {Sock R : Type}

/-! ### Gates -/

/-- A gate: a middleware, and what it reads of a request. -/
structure Gate (Sock R : Type) where
  call : List Sock → R → Outcome × List Sock
  path : R → String
  socket : R → Option Sock
  /-- The request is one to attest the TLS object, and `attest_connection` returns for it. -/
  Attests : R → Sock → Prop

/-- A request with what the middleware did with it. -/
structure Handled (R : Type) where
  request : R
  outcome : Outcome

namespace Gate

def system (g : Gate Sock R) : System (List Sock) (Handled R) where
  init attested := attested = []
  step attested e attested' := g.call attested e.request = (e.outcome, attested')

/-- Some earlier request attested the request's TLS object. -/
def AttestedBefore (g : Gate Sock R) (request : R) (earlier : List (Handled R)) : Prop :=
  ∃ s, g.socket request = some s ∧ ∃ e ∈ earlier, g.Attests e.request s

/-- A call attests the TLS objects its request attests, and no other. -/
def Grants (g : Gate Sock R) : Prop :=
  ∀ attested request s, s ∈ (g.call attested request).2 ↔ g.Attests request s ∨ s ∈ attested

/-- A call forwards a request that is not for attestation and whose TLS object is attested. -/
def Forwards (g : Gate Sock R) : Prop :=
  ∀ attested request, (g.call attested request).1 = .app ↔
    g.path request ≠ attestPath ∧ ∃ s, g.socket request = some s ∧ s ∈ attested

/-- A gate that is exact on every run. -/
structure Exact (g : Gate Sock R) : Prop where
  /-- The application is called exactly for the requests that are not for attestation and whose
  TLS object an earlier request attested. -/
  app_iff : ∀ {es attested}, Run g.system es attested →
    Always (fun e earlier => e.outcome = .app ↔
      g.path e.request ≠ attestPath ∧ g.AttestedBefore e.request earlier) es
  /-- A request that attests nothing neither attests nor un-attests a connection. -/
  failed : ∀ {es attested e attested'}, Run g.system es attested →
    g.system.step attested e attested' → (∀ s, ¬ g.Attests e.request s) →
    ∀ s, s ∈ attested' ↔ s ∈ attested
  /-- Attesting a connection leaves every other one as it was. -/
  other : ∀ {es attested e attested'}, Run g.system es attested →
    g.system.step attested e attested' → ∀ s, g.Attests e.request s →
    ∀ t, t ≠ s → (t ∈ attested' ↔ t ∈ attested)

variable {g : Gate Sock R} {es : List (Handled R)} {attested attested' : List Sock}
  {e : Handled R}

theorem Grants.step (hg : g.Grants) (h : g.system.step attested e attested') (s : Sock) :
    s ∈ attested' ↔ g.Attests e.request s ∨ s ∈ attested := by
  have h' := hg attested e.request s
  rwa [show g.call attested e.request = (e.outcome, attested') from h] at h'

/-- The attested TLS objects are those some request of the history attested. -/
theorem Grants.mem_iff (hg : g.Grants) (h : Run g.system es attested) (s : Sock) :
    s ∈ attested ↔ ∃ e ∈ es, g.Attests e.request s :=
  h.granted_iff (fun attested s => s ∈ attested) (fun e s => g.Attests e.request s)
    (fun _ _ hinit => by rw [show _ = [] from hinit]; simp)
    (fun _ _ _ a hst => hg.step hst a) s

/-- **The run lemma of gates.** -/
theorem exact_of_laws (hg : g.Grants) (hf : g.Forwards)
    (hone : ∀ r s t, g.Attests r s → g.Attests r t → t = s) : g.Exact where
  app_iff h := h.always fun es attested e attested' hr hst => by
    have hfwd := hf attested e.request
    rw [show g.call attested e.request = (e.outcome, attested') from hst] at hfwd
    simp only [hfwd, AttestedBefore, hg.mem_iff hr]
  failed _ hst hnone s := by simp [hg.step hst s, hnone s]
  other _ hst s hs t hne := by
    rw [hg.step hst t]
    exact or_iff_right fun ht => hne (hone _ _ _ hs ht)

end Gate

/-! ### One attestation request -/

/-- An attestation request on the TLS object `s` for which `attest_connection` returns. -/
def AttestsOn (J : JsonFormat) (path : String) (socket : Option Sock)
    (rawBody : Except Exc Bytes) (attest : AttestConnection Sock) (s : Sock) : Prop :=
  path = attestPath ∧ socket = some s ∧ ∃ body req response, rawBody = .ok body ∧
    parseAttestRequest J body = .ok req ∧ attest req s = .ok response

theorem AttestsOn.unique {J : JsonFormat} {path : String} {socket : Option Sock}
    {rawBody : Except Exc Bytes} {attest : AttestConnection Sock} {s t : Sock}
    (hs : AttestsOn J path socket rawBody attest s)
    (ht : AttestsOn J path socket rawBody attest t) : t = s :=
  Option.some.inj (ht.2.1.symm.trans hs.2.1)

variable {J : JsonFormat}

theorem wsgiAttest_eq_ok {environ : Environ Sock} {s : Sock}
    {response : AttestConnectionResponse} :
    wsgiAttest J environ = .ok (s, response) ↔
      environ.socket = some s ∧ ∃ body req, parseRequestData environ.data = .ok body ∧
        parseAttestRequest J body = .ok req ∧ environ.attest req s = .ok response := by
  simp only [wsgiAttest, bind_eq_ok]
  cases environ.socket with
  | none => simp
  | some t => simp only [bind_eq_ok, pure_eq_ok, Prod.mk.injEq, Option.some.injEq]; grind

theorem asgiAttest_eq_ok {scope : Scope Sock} {s : Sock}
    {response : AttestConnectionResponse} :
    asgiAttest J scope = .ok (s, response) ↔
      scope.tlsSocket = some s ∧ ∃ body req, scope.body = .ok body ∧
        parseAttestRequest J body = .ok req ∧ scope.attest req s = .ok response := by
  simp only [asgiAttest, bind_eq_ok]
  cases scope.tlsSocket with
  | none => simp
  | some t => simp only [bind_eq_ok, pure_eq_ok, Prod.mk.injEq, Option.some.injEq]; grind

/-- Where the outcome of an attestation decides what is added, the TLS objects added are those it
attested. -/
theorem mem_after_attest {x : Except Exc (Sock × AttestConnectionResponse)}
    {attested attested' : List Sock}
    (hok : ∀ s response, x = .ok (s, response) → attested' = s :: attested)
    (herror : ∀ e, x = .error e → attested' = attested) (s : Sock) :
    s ∈ attested' ↔ (∃ response, x = .ok (s, response)) ∨ s ∈ attested := by
  cases x with
  | ok r => simp [hok r.1 r.2 rfl, Prod.ext_iff, eq_comm]
  | error e => simp [herror e rfl]

/-! ### No failure is forwarded -/

theorem wsgiFailure_ne_app {e : Exc} : wsgiFailure e ≠ .app := by
  unfold wsgiFailure; split <;> [skip; split] <;> simp

theorem sendReply_ne_app {raises : Option Exc} {r : Reply} : sendReply raises r ≠ .app := by
  cases raises <;> simp [sendReply]

theorem asgiFailure_ne_app {raises : Option Exc} {e : Exc} : asgiFailure raises e ≠ .app := by
  unfold asgiFailure; split
  · exact sendReply_ne_app
  · simp

/-! ### The three gates -/

variable [DecidableEq Sock]

def wsgiGate (J : JsonFormat) : Gate Sock (Environ Sock) where
  call := wsgiCall J
  path := Environ.path
  socket := Environ.socket
  Attests environ := AttestsOn J environ.path environ.socket (parseRequestData environ.data)
    environ.attest

/-- An http scope. -/
abbrev HttpScope (Sock : Type) := { scope : Scope Sock // scope.type = .http }

def asgiGate (J : JsonFormat) : Gate Sock (HttpScope Sock) where
  call attested scope := asgiCall J attested scope.1
  path scope := scope.1.path
  socket scope := scope.1.tlsSocket
  Attests scope := AttestsOn J scope.1.path scope.1.tlsSocket scope.1.body scope.1.attest

/-- The ASGI middleware behind uvicorn, at scopes of every type. -/
def dispatchGate (J : JsonFormat) : Gate Sock (Dispatch Sock) where
  call attested d := asgiCall J attested d.scope
  path d := d.path
  socket d := d.sslObject
  Attests d s := d.type = .http ∧ AttestsOn J d.path d.sslObject d.body d.attest s

theorem wsgiGate_grants : (wsgiGate J : Gate Sock (Environ Sock)).Grants := by
  intro attested environ s
  simp only [wsgiGate, wsgiCall, AttestsOn]
  by_cases hp : environ.path = attestPath
  · simp only [hp, if_true, wsgiHandleAttestation, true_and]
    rw [mem_after_attest (x := wsgiAttest J environ) (fun t response h => by rw [h])
      (fun e h => by rw [h]) s]
    simp only [wsgiAttest_eq_ok]
    grind
  · simp only [hp, if_false, false_and, false_or]
    cases environ.socket with
    | none => rfl
    | some t => dsimp only; split <;> rfl

theorem wsgiGate_forwards : (wsgiGate J : Gate Sock (Environ Sock)).Forwards := by
  intro attested environ
  simp only [wsgiGate, wsgiCall]
  by_cases hp : environ.path = attestPath
  · simp only [hp, if_true, ne_eq, not_true_eq_false, false_and, iff_false]
    rw [wsgiHandleAttestation]
    split
    · simp
    · exact wsgiFailure_ne_app
  · simp only [hp, if_false, ne_eq, not_false_eq_true, true_and]
    cases environ.socket with
    | none => simp
    | some t => by_cases ht : t ∈ attested <;> simp [ht]

/-- What the ASGI middleware does with an http scope grants as a gate should. -/
theorem mem_asgiCall (J : JsonFormat) (attested : List Sock) (scope : Scope Sock)
    (h : scope.type = .http) (s : Sock) : s ∈ (asgiCall J attested scope).2 ↔
      AttestsOn J scope.path scope.tlsSocket scope.body scope.attest s ∨ s ∈ attested := by
  simp only [asgiCall, h, ne_eq, not_true_eq_false, if_false, AttestsOn]
  by_cases hp : scope.path = attestPath
  · simp only [hp, if_true, asgiHandleAttestation, true_and]
    rw [mem_after_attest (x := asgiAttest J scope) (fun t response h => by rw [h])
      (fun e h => by rw [h]) s]
    simp only [asgiAttest_eq_ok]
    grind
  · simp only [hp, if_false, false_and, false_or]
    cases scope.tlsSocket with
    | none => rfl
    | some t => dsimp only; split <;> rfl

theorem asgiCall_eq_app (J : JsonFormat) (attested : List Sock) (scope : Scope Sock)
    (h : scope.type = .http) :
    (asgiCall J attested scope).1 = .app ↔
      scope.path ≠ attestPath ∧ ∃ s, scope.tlsSocket = some s ∧ s ∈ attested := by
  simp only [asgiCall, h, ne_eq, not_true_eq_false, if_false]
  by_cases hp : scope.path = attestPath
  · simp only [hp, if_true, not_true_eq_false, false_and, iff_false]
    rw [asgiHandleAttestation]
    split
    · split
      · simp
      · exact asgiFailure_ne_app
    · exact asgiFailure_ne_app
  · simp only [hp, if_false, not_false_eq_true, true_and]
    cases scope.tlsSocket with
    | none => simp [sendReply_ne_app]
    | some t => by_cases ht : t ∈ attested <;> simp [ht, sendReply_ne_app]

theorem asgiGate_grants : (asgiGate J : Gate Sock (HttpScope Sock)).Grants :=
  fun attested scope s => mem_asgiCall J attested scope.1 scope.2 s

theorem asgiGate_forwards : (asgiGate J : Gate Sock (HttpScope Sock)).Forwards :=
  fun attested scope => asgiCall_eq_app J attested scope.1 scope.2

theorem dispatchGate_grants : (dispatchGate J : Gate Sock (Dispatch Sock)).Grants := by
  intro attested d s
  by_cases hd : d.type = .http
  · have h := mem_asgiCall J attested d.scope hd s
    simpa [dispatchGate, Dispatch.scope, hd] using h
  · simp [dispatchGate, asgiCall, Dispatch.scope, hd]

/-- **The gate for http.**  Both middlewares call the wrapped application exactly for the requests
that are not for attestation and whose TLS object an earlier attestation request, answered by
`attest_connection`, came on; a failed attestation changes nothing, and a successful one concerns
its own connection only. -/
theorem middleware_gate (Sock : Type) [DecidableEq Sock] (J : JsonFormat) :
    (wsgiGate J : Gate Sock (Environ Sock)).Exact ∧
      (asgiGate J : Gate Sock (HttpScope Sock)).Exact :=
  ⟨Gate.exact_of_laws wsgiGate_grants wsgiGate_forwards fun _ _ _ hs ht => hs.unique ht,
    Gate.exact_of_laws asgiGate_grants asgiGate_forwards fun _ _ _ hs ht => hs.unique ht⟩

/-! ### Scopes of every type -/

/-- The middleware calls the application for a scope that is not http, whatever its connection. -/
theorem asgiCall_of_ne_http {attested : List Sock} {scope : Scope Sock} (h : scope.type ≠ .http) :
    asgiCall J attested scope = (.app, attested) := if_pos h

/-- The application is called for a connection scope only on a connection that an earlier
attestation request attested. -/
def OnlyAttested (J : JsonFormat) (es : List (Handled (Dispatch Sock))) : Prop :=
  Always (fun e earlier => e.request.type ≠ .lifespan → e.outcome = .app →
    (dispatchGate J).AttestedBefore e.request earlier) es

/-- Every websocket scope is dispatched on such a connection. -/
def WebsocketsAttested (J : JsonFormat) (es : List (Handled (Dispatch Sock))) : Prop :=
  Always (fun e earlier => e.request.type = .websocket →
    (dispatchGate J).AttestedBefore e.request earlier) es

/-- **The application sees attested connections only, up to websockets.** -/
theorem dispatch_attested_iff {es : List (Handled (Dispatch Sock))} {attested : List Sock}
    (h : Run (dispatchGate J).system es attested) :
    OnlyAttested J es ↔ WebsocketsAttested J es := by
  have key : Always (fun e earlier =>
      (e.request.type ≠ .lifespan → e.outcome = .app →
        (dispatchGate J).AttestedBefore e.request earlier) ↔
      (e.request.type = .websocket →
        (dispatchGate J).AttestedBefore e.request earlier)) es := by
    refine h.always ?_
    intro es attested e attested' hr hst
    have hcall : asgiCall J attested e.request.scope = (e.outcome, attested') := hst
    cases ht : e.request.type with
    | http =>
        -- the gate of the http branch
        simp only [ne_eq, reduceCtorEq, not_false_eq_true, forall_const, false_implies, iff_true]
        intro happ
        have hfwd := asgiCall_eq_app J attested e.request.scope ht
        rw [hcall] at hfwd
        obtain ⟨-, s, hs, hmem⟩ := hfwd.mp happ
        refine ⟨s, ?_, (dispatchGate_grants.mem_iff hr s).mp hmem⟩
        simpa [dispatchGate, Dispatch.scope, ht] using hs
    | websocket =>
        -- the early return: the application is called whatever the state
        rw [asgiCall_of_ne_http (by simp [Dispatch.scope, ht])] at hcall
        have happ : e.outcome = .app := (Prod.mk.inj hcall).1.symm
        simp [happ]
    | lifespan => simp
  exact key.congr

/-- A WebSocket upgrade as the first request of a TLS connection. -/
def websocketUpgrade : Dispatch Nat where
  sslObject := some 0
  type := .websocket
  path := "/chat"
  body := .ok []
  attest _ _ := .error ⟨.runtimeError, []⟩
  send _ := none

theorem websocketUpgrade_run :
    Run (dispatchGate default).system [⟨websocketUpgrade, .app⟩] [] := .step (.init rfl) rfl

/-- A format that decodes the empty request. -/
def emptyRequests : JsonFormat :=
  { (default : JsonFormat) with loads := fun _ => .ok (.dict []), parseRequest := fun _ => .ok {} }

/-- An attestation request on the same connection. -/
def attestationPost : Dispatch Nat where
  sslObject := some 0
  type := .http
  path := attestPath
  body := .ok []
  attest _ _ := .ok {}
  send _ := none

/-- The upgrade, on a connection that was attested. -/
def upgradeAttested : List (Handled (Dispatch Nat)) :=
  [⟨websocketUpgrade, .app⟩,
    ⟨attestationPost, .reply ⟨200, .message (emptyRequests.responseToDict {})⟩⟩]

theorem upgradeAttested_run : Run (dispatchGate emptyRequests).system upgradeAttested [0] :=
  .step (.step (.init rfl) rfl) rfl

theorem upgradeAttested_only : OnlyAttested emptyRequests upgradeAttested := by
  have hattests : (dispatchGate emptyRequests).Attests attestationPost (0 : Nat) :=
    ⟨rfl, rfl, rfl, [], {}, {}, rfl, rfl, rfl⟩
  refine (dispatch_attested_iff upgradeAttested_run).mpr ⟨fun _ => ?_, fun hno => ?_, trivial⟩
  · exact ⟨0, rfl, _, List.mem_singleton_self _, hattests⟩
  · cases hno

/-- The application is called for the upgrade, on a connection nothing has attested. -/
theorem websocketUpgrade_unattested :
    Run (dispatchGate default).system [⟨websocketUpgrade, .app⟩] [] ∧
      ¬ OnlyAttested default [⟨websocketUpgrade, .app⟩] := by
  refine ⟨websocketUpgrade_run, ?_⟩
  intro h
  obtain ⟨s, -, e, he, -⟩ := h.1 (by decide) rfl
  cases he

end PromptEncryption.Server
