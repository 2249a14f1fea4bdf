import PromptEncryption.Server.Agreement
import PromptEncryption.Support.Listeners

/-!
# Server — the middleware under Gunicorn's sync worker

`PromptEncryptionGunicornWorker` and `_patched_wsgi_create` (`server/wsgi.py`) put the socket of the
connection into the environ of its request (`handleRequest`).  The worker is a `SyncWorker`: it
serves one request on a connection, closes it, and has a new socket object for the next one
(`gunicorn`).

* `app_never_called`: the wrapped application is never called, on any connection.
* `connection_usable_iff`: what follows an attestation on its connection is served as it should be
  exactly where all of it is for `/_attest-connection`.
* `attested_then_get`: a connection that is attested, and then asked for `/`.
-/

namespace PromptEncryption.Server
open Python Runs Listeners

variable {Sock : Type}

/-! ### The worker -/

/-- Gunicorn's request object. -/
structure GunicornRequest (Sock : Type) where
  /-- What `_original_create` makes of the request. -/
  environ : Environ Sock
  /-- The attribute `confidential_socket`, where it is set. -/
  confidentialSocket : Option Sock

/-- `_patched_wsgi_create`, of which the environ. -/
def patchedWsgiCreate (req : GunicornRequest Sock) : Environ Sock :=
  match req.confidentialSocket with
  | some socket => { req.environ with socket := some socket }
  | none => req.environ

section
variable [DecidableEq Sock]

/-- `SyncWorker.handle_request`: it creates the environ and calls the middleware. -/
def syncHandleRequest (J : JsonFormat) (attested : List Sock) (req : GunicornRequest Sock) :
    Outcome × List Sock :=
  wsgiCall J attested (patchedWsgiCreate req)

/-- `PromptEncryptionGunicornWorker.handle_request`. -/
def handleRequest (J : JsonFormat) (attested : List Sock) (client : Option Sock)
    (req : GunicornRequest Sock) : Outcome × List Sock :=
  match client with
  | some socket => syncHandleRequest J attested { req with confidentialSocket := some socket }
  | none => syncHandleRequest J attested req

/-- The worker with a request just read off the connection `s`. -/
def serve (J : JsonFormat) (s : Sock) (attested : List Sock) (environ : Environ Sock) :
    Outcome × List Sock :=
  handleRequest J attested (some s) ⟨environ, none⟩

/-- The server `run_gunicorn_app` runs; each worker has its own copy of the middleware. -/
def gunicorn (J : JsonFormat) :
    System (Listeners.Server Sock (Environ Sock) (List Sock)) (Event Sock (Environ Sock) Outcome) :=
  oneShot [] (serve J)

/-- A valid attestation request, as the first on the connection `s`, that `attest_connection`
answers. -/
def AttestsFirst (J : JsonFormat) (s : Sock) (environ : Environ Sock) : Prop :=
  (wsgiGate J).Attests { environ with socket := some s } s

/-- On the connection `s` the attestation was answered, and what followed it was served by the
application, if it was not for attestation too. -/
structure Used (es : List (Event Sock (Environ Sock) Outcome)) (s : Sock) (first : Environ Sock)
    (following : List (Environ Sock)) : Prop where
  first : ∃ reply, reply.status = 200 ∧ (servedOn s es)[0]? = some (first, .reply reply)
  following : ∀ n environ, following[n]? = some environ → environ.path ≠ attestPath →
    (servedOn s es)[n + 1]? = some (environ, .app)

/-! ### No request is forwarded -/

variable {J : JsonFormat} {es : List (Event Sock (Environ Sock) Outcome)}
  {sv : Listeners.Server Sock (Environ Sock) (List Sock)}

/-- The middleware is called with the socket of the connection. -/
theorem serve_eq (J : JsonFormat) (s : Sock) (attested : List Sock) (environ : Environ Sock) :
    serve J s attested environ = wsgiCall J attested { environ with socket := some s } := rfl

/-- The attested sockets are sockets of connections on which a request was served. -/
theorem attested_subset {ss attested : List Sock}
    (h : Reached [] (serve J) ss attested) : ∀ s ∈ attested, s ∈ ss := by
  induction h with
  | start => exact fun _ hs => hs
  | @call ss attested attested' t environ o _ hcall ih =>
      intro s hs
      have hgrants := wsgiGate_grants (J := J) attested { environ with socket := some t } s
      rw [serve_eq] at hcall
      rw [show (wsgiGate J).call attested _ = _ from hcall] at hgrants
      rcases hgrants.mp hs with hattests | hs
      · rw [← Option.some.inj hattests.2.1]
        exact List.mem_cons_self
      · exact List.mem_cons_of_mem t (ih s hs)

/-- **The application is never called.**  When the one request of a connection is served, nothing
has attested its socket. -/
theorem app_never_called (h : Run (gunicorn J) es sv) {w : Nat} {s : Sock} {environ : Environ Sock}
    {o : Outcome} (he : .served w s environ o ∈ es) : o ≠ .app := by
  obtain ⟨ss, attested, attested', hreached, hs, hcall⟩ := served_fresh h he
  rintro rfl
  rw [serve_eq] at hcall
  have hforwards := wsgiGate_forwards (J := J) attested { environ with socket := some s }
  rw [show (wsgiGate J).call attested _ = _ from hcall] at hforwards
  obtain ⟨-, t, ht, hmem⟩ := hforwards.mp rfl
  obtain rfl : s = t := Option.some.inj ht
  exact hs (attested_subset hreached s hmem)

/-- The one request of a connection, where it is an attestation, is answered. -/
theorem attestation_answered (attested : List Sock) {s : Sock} {environ : Environ Sock}
    (h : AttestsFirst J s environ) : ∃ reply attested', reply.status = 200 ∧
      serve J s attested environ = (.reply reply, attested') := by
  obtain ⟨hpath, hsocket, body, req, response, hbody, hreq, hattest⟩ := h
  have hok : wsgiAttest J { environ with socket := some s } = .ok (s, response) :=
    wsgiAttest_eq_ok.mpr ⟨hsocket, body, req, hbody, hreq, hattest⟩
  refine ⟨⟨200, .message (J.responseToDict response)⟩, s :: attested, rfl, ?_⟩
  rw [serve_eq, wsgiCall, if_pos hpath, wsgiHandleAttestation, hok]

/-- Nothing that follows the first request of a connection is served on it. -/
theorem following_unserved (h : Run (gunicorn J) es sv) (s : Sock) (n : Nat) :
    (servedOn s es)[n + 1]? = none := by
  have hle := servedOn_length_le_one h s
  exact List.getElem?_eq_none (by omega)

/-- **What an attested connection is good for.**  A client sends a valid attestation request, and
then others.  In every run in which the server is done with the connection, the attestation was
answered and those of the others that are not for attestation were served by the application,
exactly where there are none of these. -/
theorem connection_usable_iff {s : Sock} {first : Environ Sock} {following : List (Environ Sock)}
    (hfirst : AttestsFirst J s first) :
    (∀ (es : List (Event Sock (Environ Sock) Outcome)) sv w, Run (gunicorn J) es sv →
      sentOn s es = first :: following → .closed w s ∈ es → Used es s first following) ↔
      ∀ environ ∈ following, environ.path = attestPath := by
  constructor
  · intro hall environ henviron
    obtain ⟨es, sv, h, hsent, hclosed⟩ := exists_closed [] (serve J) s first following
    have hused := hall es sv 0 h hsent hclosed
    obtain ⟨n, hn⟩ := List.mem_iff_getElem?.mp henviron
    by_contra hpath
    cases (following_unserved h s n).symm.trans (hused.following n environ hn hpath)
  · intro hall es sv w h hsent hclosed
    refine ⟨?_, fun n environ hn hpath =>
      absurd (hall environ (List.mem_of_getElem? hn)) hpath⟩
    obtain ⟨⟨environ, o⟩, rest, hserved⟩ :=
      List.exists_cons_of_ne_nil (servedOn_of_closed h hclosed)
    have horder := sentOn_eq h s
    rw [hsent, hserved] at horder
    obtain rfl : first = environ := (List.cons.inj horder).1
    have hmem : (first, o) ∈ servedOn s es := by
      rw [hserved]
      exact List.mem_cons_self
    obtain ⟨w', hw'⟩ := mem_of_servedOn hmem
    obtain ⟨ss, attested, attested', -, -, hcall⟩ := served_fresh h hw'
    obtain ⟨reply, attested'', hstatus, hreply⟩ := attestation_answered attested hfirst
    obtain rfl : .reply reply = o := congrArg Prod.fst (hreply.symm.trans hcall)
    exact ⟨reply, hstatus, by rw [hserved]; rfl⟩

end

/-- A request on a connection, not yet read; `attest_connection` answers it. -/
def sampleEnviron (path : String) : Environ Nat :=
  ⟨some path, none, .ok [], fun _ _ => .ok {}⟩

theorem sampleEnviron_attests : AttestsFirst sampleFormat 0 (sampleEnviron attestPath) :=
  ⟨rfl, rfl, [], _, {}, rfl, rfl, rfl⟩

/-- `GET /`, on a connection of its own. -/
theorem get_unserved : ∃ (es : List (Event Nat (Environ Nat) Outcome)) (sv : _) (w : Nat)
    (environ : Environ Nat) (o : Outcome),
    Run (gunicorn sampleFormat) es sv ∧ sentOn 0 es = [sampleEnviron "/"] ∧
      .served w 0 environ o ∈ es ∧ o ≠ .app := by
  obtain ⟨es, sv, h, hsent, hclosed⟩ := exists_closed [] (serve sampleFormat) 0
    (sampleEnviron "/") []
  obtain ⟨⟨environ, o⟩, rest, hserved⟩ := List.exists_cons_of_ne_nil (servedOn_of_closed h hclosed)
  obtain ⟨w, hw⟩ := mem_of_servedOn (hserved ▸ List.mem_cons_self)
  exact ⟨es, sv, w, environ, o, h, hsent, hw, app_never_called h hw⟩

/-- The attestation, twice. -/
theorem attested_twice : ∃ (es : List (Event Nat (Environ Nat) Outcome)) (sv : _) (w : Nat),
    Run (gunicorn sampleFormat) es sv ∧
      sentOn 0 es = [sampleEnviron attestPath, sampleEnviron attestPath] ∧ .closed w 0 ∈ es ∧
      Used es 0 (sampleEnviron attestPath) [sampleEnviron attestPath] := by
  obtain ⟨es, sv, h, hsent, hclosed⟩ := exists_closed [] (serve sampleFormat) 0
    (sampleEnviron attestPath) [sampleEnviron attestPath]
  refine ⟨es, sv, 0, h, hsent, hclosed, ?_⟩
  refine (connection_usable_iff sampleEnviron_attests).mpr ?_ es sv 0 h hsent hclosed
  intro environ henviron
  rw [List.mem_singleton.mp henviron]
  rfl

/-- The attestation, and then `GET /`, which is never served. -/
theorem attested_then_get : ∃ (es : List (Event Nat (Environ Nat) Outcome)) (sv : _) (w : Nat),
    Run (gunicorn sampleFormat) es sv ∧
      sentOn 0 es = [sampleEnviron attestPath, sampleEnviron "/"] ∧ .closed w 0 ∈ es ∧
      AttestsFirst sampleFormat 0 (sampleEnviron attestPath) ∧ (servedOn 0 es)[1]? = none ∧
      ¬ Used es 0 (sampleEnviron attestPath) [sampleEnviron "/"] := by
  obtain ⟨es, sv, h, hsent, hclosed⟩ := exists_closed [] (serve sampleFormat) 0
    (sampleEnviron attestPath) [sampleEnviron "/"]
  have hnone := following_unserved h 0 0
  refine ⟨es, sv, 0, h, hsent, hclosed, sampleEnviron_attests, hnone, fun hused => ?_⟩
  have hpath : (sampleEnviron "/").path ≠ attestPath := by
    simp [sampleEnviron, Environ.path, attestPath]
  cases hnone.symm.trans (hused.following 0 _ rfl hpath)

end PromptEncryption.Server
