import PromptEncryption.Proto.Json
import PromptEncryption.Client.Validator

/-!
# Server — the WSGI and ASGI middlewares

`PromptEncryptionWSGIMiddleware` (`server/wsgi.py`) and `PromptEncryptionASGIMiddleware`
(`server/asgi.py`), each as a function of the attested connections and a request to the outcome
and the attested connections after it.

A request brings its path, the TLS object of its connection if it has one, its body, and what
`attest_connection` would do with it.  The `WeakSet` of attested TLS objects is a list of them:
it holds an object for as long as the connection is alive.
-/

namespace PromptEncryption.Server
open Python

/-- `/_attest-connection`, as both middlewares spell it. -/
def attestPath : String := "/_attest-connection"

/-! ### Outcomes -/

/-- The JSON body of a reply. -/
inductive Body where
  | message (d : Dict)
  | error (text : String)
  /-- `f"{text}{e!r}"`. -/
  | errorRepr (text : String) (e : Exc)

structure Reply where
  status : Nat
  body : Body

/-- What a middleware does with a request: it calls the wrapped application, answers by itself,
or lets an exception escape. -/
inductive Outcome where
  | app
  | reply (r : Reply)
  | raised (e : Exc)

def unauthorized : Reply := ⟨401, .error "Unauthorized: Connection must be attested first."⟩

def internalError (e : Exc) : Body := .errorRepr "An internal server error occurred: " e

/-! ### The attestation request's body -/

/-- `body.decode("utf-8") if body else "{}"`. -/
def requestText (body : Bytes) : Except Exc String :=
  if body = [] then .ok "{}"
  else
    match Bytes.decodeUtf8 body with
    | some text => .ok text
    | none => .error ⟨.unicodeDecodeError, []⟩

/-- The parsing both `handle_attestation`s do of a raw body. -/
def parseAttestRequest (J : JsonFormat) (body : Bytes) : Except Exc AttestConnectionRequest := do
  let parsedJson ← wrapAs .jsonDecodeError (fun _ => ⟨parseError, [.text "Invalid JSON"]⟩) do
    let text ← requestText body
    J.loads text
  match parsedJson with
  | .dict d => J.parseRequest d
  | _ => .error ⟨parseError, [.text "Malformed JSON structure: Expected a dictionary"]⟩

/-- What `AttestedTLS.attest_connection` does with a request on a TLS object. -/
abbrev AttestConnection (Sock : Type) :=
  AttestConnectionRequest → Sock → Except Exc AttestConnectionResponse

section
variable {Sock : Type} [DecidableEq Sock]

/-! ### WSGI -/

/-- The WSGI `environ` of a request; `socket` is its `prompt_encryption.socket`. -/
structure Environ (Sock : Type) where
  pathInfo : Option String
  socket : Option Sock
  /-- What `werkzeug`'s `get_data` returns. -/
  data : Except Exc Bytes
  attest : AttestConnection Sock

/-- `environ.get("PATH_INFO", "")`. -/
def Environ.path (environ : Environ Sock) : String := environ.pathInfo.getD ""

/-- `_parse_request`. -/
def parseRequestData (data : Except Exc Bytes) : Except Exc Bytes :=
  match data with
  | .ok b => .ok b
  | .error e => if e.isinstance .exception then .ok (Bytes.encodeUtf8 "{}") else .error e

/-- The body of `handle_attestation`'s `try`, up to and with `attest_connection`. -/
def wsgiAttest (J : JsonFormat) (environ : Environ Sock) :
    Except Exc (Sock × AttestConnectionResponse) := do
  let body ← parseRequestData environ.data
  let req ← parseAttestRequest J body
  match environ.socket with
  | none => .error ⟨.runtimeError,
      [.text "TLS Socket not found. Server must be started via run_gunicorn_app()"]⟩
  | some sslObj => do
      let response ← environ.attest req sslObj
      return (sslObj, response)

/-- The handlers of `handle_attestation`. -/
def wsgiFailure (e : Exc) : Outcome :=
  if e.isinstance parseError then .reply ⟨400, .error "Invalid request"⟩
  else if e.isinstance .valueError || e.isinstance .typeError || e.isinstance .runtimeError ||
      e.isinstance Client.tinkError then .reply ⟨500, internalError e⟩
  else .raised e

/-- `PromptEncryptionWSGIMiddleware.handle_attestation`. -/
def wsgiHandleAttestation (J : JsonFormat) (attested : List Sock) (environ : Environ Sock) :
    Outcome × List Sock :=
  match wsgiAttest J environ with
  | .ok (sslObj, response) =>
      (.reply ⟨200, .message (J.responseToDict response)⟩, sslObj :: attested)
  | .error e => (wsgiFailure e, attested)

/-- `PromptEncryptionWSGIMiddleware.__call__`. -/
def wsgiCall (J : JsonFormat) (attested : List Sock) (environ : Environ Sock) :
    Outcome × List Sock :=
  if environ.path = attestPath then wsgiHandleAttestation J attested environ
  else
    match environ.socket with
    | none => (.reply unauthorized, attested)
    | some sslObj =>
        if sslObj ∈ attested then (.app, attested) else (.reply unauthorized, attested)

/-! ### ASGI -/

/-- The type of an ASGI scope. -/
inductive ScopeType where
  | http
  | websocket
  | lifespan
  deriving DecidableEq, Repr

/-- An ASGI scope with its `receive` and `send`. -/
structure Scope (Sock : Type) where
  type : ScopeType
  path : String
  /-- `scope["extensions"]["tls_socket"]`. -/
  tlsSocket : Option Sock
  /-- What `await request.body()` returns. -/
  body : Except Exc Bytes
  attest : AttestConnection Sock
  /-- The exception the `n`-th response sent on the scope raises, if any. -/
  send : Nat → Option Exc

/-- `await response(scope, receive, send)`. -/
def sendReply (raises : Option Exc) (r : Reply) : Outcome :=
  match raises with
  | none => .reply r
  | some e => .raised e

/-- The body of `handle_attestation`, up to and with `attest_connection`. -/
def asgiAttest (J : JsonFormat) (scope : Scope Sock) :
    Except Exc (Sock × AttestConnectionResponse) := do
  let rawBody ← scope.body
  let req ← parseAttestRequest J rawBody
  match scope.tlsSocket with
  | none => .error ⟨.runtimeError, [.text "TLS Socket not found."]⟩
  | some sslObj => do
      let response ← scope.attest req sslObj
      return (sslObj, response)

/-- The handler around `handle_attestation` in `__call__`. -/
def asgiFailure (raises : Option Exc) (e : Exc) : Outcome :=
  if e.isinstance .exception then
    sendReply raises ⟨if e.isinstance parseError then 400 else 500, internalError e⟩
  else .raised e

/-- `PromptEncryptionASGIMiddleware.handle_attestation`, with its handler in `__call__`.  The
connection is attested before the response is sent. -/
def asgiHandleAttestation (J : JsonFormat) (attested : List Sock) (scope : Scope Sock) :
    Outcome × List Sock :=
  match asgiAttest J scope with
  | .ok (sslObj, response) =>
      (match scope.send 0 with
        | none => .reply ⟨200, .message (J.responseToDict response)⟩
        | some e => asgiFailure (scope.send 1) e,
       sslObj :: attested)
  | .error e => (asgiFailure (scope.send 0) e, attested)

/-- `PromptEncryptionASGIMiddleware.__call__`. -/
def asgiCall (J : JsonFormat) (attested : List Sock) (scope : Scope Sock) :
    Outcome × List Sock :=
  if scope.type ≠ .http then (.app, attested)
  else if scope.path = attestPath then asgiHandleAttestation J attested scope
  else
    match scope.tlsSocket with
    | none => (sendReply (scope.send 0) unauthorized, attested)
    | some sslObj =>
        if sslObj ∈ attested then (.app, attested)
        else (sendReply (scope.send 0) unauthorized, attested)

/-! ### The scopes uvicorn dispatches -/

/-- A scope uvicorn is about to dispatch on a connection.  `sslObject` is the transport's, if the
connection is over TLS; uvicorn itself sets no `tls_socket`. -/
structure Dispatch (Sock : Type) where
  sslObject : Option Sock
  type : ScopeType
  path : String
  body : Except Exc Bytes
  attest : AttestConnection Sock
  send : Nat → Option Exc

/-- `TlsInjectorProtocol`'s `app_wrapper`: the TLS object is put into an http scope and into no
other.  (A WebSocket upgrade hands its scope to the application without the wrapper.) -/
def Dispatch.scope (d : Dispatch Sock) : Scope Sock where
  type := d.type
  path := d.path
  tlsSocket := if d.type = .http then d.sslObject else none
  body := d.body
  attest := d.attest
  send := d.send

end

end PromptEncryption.Server
