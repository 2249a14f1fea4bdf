import PromptEncryption.Client.Flags
import PromptEncryption.Ekm.Exporter
import PromptEncryption.System.Handshake

/-!
# System — the exporter at both ends

The SDK's exporter (`Ekm/Exporter.lean`) where it is called: by the client at its socket, by
`attest_connection` at what `getattr(ssl_obj, "_sslobj", ssl_obj)` gives.  The two processes have their
own objects and their own OpenSSL.

* `both_ends`: on the two ends of one TLS session the client and the server get the same keying
  material, each from its own objects.
* `sockets_handshake`: so an honest handshake over such objects is accepted.
* `refusesNone_of_sdk`, `raises_of_sdk`: the SDK's exporter is as the connection asks.
-/

namespace PromptEncryption
open Python Programs Server Client Ekm

/-! ### Where the exporter is called -/

/-- The object `attest_connection` hands to the exporter. -/
def targetObj (h : Heap) (v : Value) : Value := ((h.obj v).sslobj).getD v

/-- A connection that exports with the SDK's exporter. -/
def ExportsBySdk (L : OpenSsl) (h : Heap) (P : Settings) : Prop :=
  ∀ sock length label context, ∃ held, Returns L h sock (length : ℕ) label (some context) 0
    (P.ekmExporterFn sock length label context, held)

/-- What `attest_connection` asks of the TLS object `v`, on a session that exports `tls`. -/
structure Represents (L : OpenSsl) (h : Heap) (v : Value) (tls : Nat → Bytes → Bytes → Bytes)
    (sslObj : SslObject) : Prop where
  exporter : ∀ context, ∃ r held, Returns L h (targetObj h v) (EKM_LENGTH : ℕ) EKM_LABEL
    (some context) 0 (r, held) ∧ sslObj.exporter EKM_LENGTH EKM_LABEL context = r.map some
  /-- The standard library's exporter, if the object has it, is one of the session, returns nothing or
  raises. -/
  standard : ∀ {f}, sslObj.exportKeyingMaterial = some f → ∀ context,
    f EKM_LABEL EKM_LENGTH context = .ok (some (tls EKM_LENGTH EKM_LABEL context)) ∨
      f EKM_LABEL EKM_LENGTH context = .ok none ∨
      ∃ e, f EKM_LABEL EKM_LENGTH context = .error e ∧ e.isinstance .exception = true

/-- `v` wraps an end of a TLS session that exports `tls`, for the length and the label of an
attestation. -/
structure EndOf (L : OpenSsl) (h : Heap) (v : Value) (tls : Nat → Bytes → Bytes → Bytes) : Prop where
  wraps : ∃ x ssl, Unwraps h v x ∧ IsSslSocket (h.obj x) (some ssl) ∧ ∀ context,
    L.exportKeyingMaterial ssl EKM_LENGTH EKM_LABEL (some context) =
      some (tls EKM_LENGTH EKM_LABEL context)
  allocates : L.allocationFault EKM_LENGTH = none

section
variable {L : OpenSsl} {h : Heap} {v x : Value} {tls : Nat → Bytes → Bytes → Bytes}
  {context : Bytes}

/-- Handing on `_sslobj` makes no difference. -/
theorem unwraps_target (hx : Unwraps h v x) : Unwraps h (targetObj h v) x := by
  cases hx with
  | done hnone =>
      rw [targetObj, hnone]
      exact .done hnone
  | more hsome hx =>
      rw [targetObj, hsome]
      exact hx

theorem EndOf.target (hend : EndOf L h v tls) : EndOf L h (targetObj h v) tls where
  wraps := by
    obtain ⟨x, ssl, hx, hssl⟩ := hend.wraps
    exact ⟨x, ssl, unwraps_target hx, hssl⟩
  allocates := hend.allocates

/-- The innermost object is not `None`, and so the outermost is not. -/
theorem EndOf.ne_none (hend : EndOf L h v tls) : v ≠ none := by
  rintro rfl
  obtain ⟨x, ssl, hx, hssl, -⟩ := hend.wraps
  cases hx with
  | done _ => cases hssl.ssl
  | more hsome _ => cases hsome

/-- **The keying material of the session** is what a call at one of its ends returns. -/
theorem EndOf.returns (hend : EndOf L h v tls) {r : Except Exc Bytes} {held : Nat}
    (hr : Returns L h v (EKM_LENGTH : ℕ) EKM_LABEL (some context) 0 (r, held)) :
    r = .ok (tls EKM_LENGTH EKM_LABEL context) := by
  obtain ⟨x, ssl, hx, hssl, hexport⟩ := hend.wraps
  have hok : ∃ held', Returns L h v (EKM_LENGTH : ℕ) EKM_LABEL (some context) 0
      (.ok (tls EKM_LENGTH EKM_LABEL context), held') :=
    returned_ok_iff.mpr ⟨hend.ne_none, x, ssl, hx, hssl, by decide, by decide, hend.allocates,
      hexport _⟩
  obtain ⟨held', hr'⟩ := hok
  have heq := (returns_of_unwraps hend.ne_none hx).mp hr
  rw [← (returns_of_unwraps hend.ne_none hx).mp hr'] at heq
  exact congrArg Prod.fst heq

end

/-! ### One session -/

section
variable {L L' : OpenSsl} {h h' : Heap} {v v' : Value} {tls : Nat → Bytes → Bytes → Bytes}
  {P : Settings} {sslObj : SslObject} {nonce : Bytes}

/-- The TLS object of a session, without objects. -/
def plainSslObj (tls : Nat → Bytes → Bytes → Bytes) : SslObject :=
  ⟨none, fun length label context => .ok (some (tls length label context))⟩

theorem plainSslObj_exports : Exports (plainSslObj tls) tls where
  exporter _ := rfl
  standard hf := by cases hf

/-- Of an end of the session `attest_connection` gets what it gets of the session. -/
theorem Represents.extractEkm (hrep : Represents L h v tls sslObj) (hend : EndOf L h v tls) :
    extractEkm nonce sslObj = .ok (tls EKM_LENGTH EKM_LABEL nonce) := by
  obtain ⟨r, held, hr, hexporter⟩ := hrep.exporter nonce
  rw [hend.target.returns hr] at hexporter
  -- for this context the object exports what `tls` does
  have hexports : Exports ⟨sslObj.exportKeyingMaterial, fun length label context =>
      .ok (some (tls length label context))⟩ tls := ⟨fun _ => rfl, hrep.standard⟩
  rw [← extractEkm_eq hexports nonce, Server.extractEkm, Server.extractEkm]
  have hfallback : ∀ first, exportByFallback nonce sslObj first = exportByFallback nonce
      ⟨sslObj.exportKeyingMaterial, fun length label context =>
        .ok (some (tls length label context))⟩ first := by
    intro first
    cases first with
    | none => exact hexporter
    | some b => rfl
  simp only [hfallback]
  rfl

/-- **The client and the server of one session get the same keying material**, each from its own
objects, for every nonce. -/
theorem both_ends (hclient : ExportsBySdk L h P) (hserver : Represents L' h' v' tls sslObj)
    (hend : EndOf L h v tls) (hend' : EndOf L' h' v' tls) (nonce : Bytes) :
    P.ekmExporterFn v EKM_LENGTH EKM_LABEL nonce = .ok (tls EKM_LENGTH EKM_LABEL nonce) ∧
      extractEkm nonce sslObj = .ok (tls EKM_LENGTH EKM_LABEL nonce) := by
  obtain ⟨held, hr⟩ := hclient v EKM_LENGTH EKM_LABEL nonce
  exact ⟨hend.returns hr, hserver.extractEkm hend'⟩

/-- `attest_connection` asks the TLS object for its keying material only. -/
theorem attestConnection_congr {request : AttestConnectionRequest} {sslObj' : SslObject}
    (heq : extractEkm request.nonce sslObj = extractEkm request.nonce sslObj') :
    attestConnection request sslObj = attestConnection request sslObj' := by
  rw [attestConnection, attestConnection, heq]

/-! ### What the connection asks of its exporter -/

theorem refusesNone_of_sdk (hP : ExportsBySdk L h P) : RefusesNone P := by
  intro length label context
  obtain ⟨held, hr⟩ := hP none length label context
  exact ⟨_, congrArg Prod.fst (returns_none.mp hr)⟩

theorem raises_of_sdk (hL : L.Ordinary) (hP : ExportsBySdk L h P) (sock : Option Nat) (length : Nat)
    (label context : Bytes) : Raises .exception (P.ekmExporterFn sock length label context) := by
  intro e he
  obtain ⟨held, hr⟩ := hP sock length label context
  rw [he] at hr
  exact raises_exception hL hr

/-! ### A handshake over sockets -/

/-- A client whose socket is `v` accepts what a middleware answers. -/
def SocketAccepts (P : Settings) (reprExc : Exc → String) (v : Value) (nonce : Bytes) (o : Outcome) :
    Prop :=
  ∃ r, o = .reply r ∧ exchange P.J P.validator (P.ekmExporterFn v) nonce
    (.ok (replyToHttp P.J reprExc r)) = .ok ()

/-- **Honest handshakes over sockets succeed.**  Where the client and the server export with the SDK's
exporter, each from its own end of the session, a call of `attest_connection` on a usable store in which
nothing fails returns a response, and the client accepts it through either middleware. -/
theorem sockets_handshake {Sock : Type} [DecidableEq Sock] {answers : Answers}
    {reprExc : Exc → String} {s : Store} {i : Identity} {env : ServerEnv} {sslObj : Sock → SslObject}
    {sock : Sock} {attested : List Sock} (hclient : ExportsBySdk L h P)
    (hserver : Represents L' h' v' tls (sslObj sock)) (hend : EndOf L h v tls)
    (hend' : EndOf L' h' v' tls) (hstore : Usable answers P.validator s i) (henv : Obeys answers env)
    (hreads : ∀ f, env.readFault f = none)
    (hsigns : ∀ payload, ∃ sig, env.answer (.signEcdsa i.ecdsa.priv payload) = .ok sig)
    (hsigns' : ∀ payload, ∃ sig, env.answer (.signMldsa i.pqc.priv payload) = .ok sig)
    (hJ : ∀ response s', evalBody env (attestConnection (attestationRequest nonce) (sslObj sock)) s =
      (.ok response, s') → P.J.Inverse (attestationRequest nonce) response) :
    SocketAccepts P reprExc v nonce
        (wsgiCall P.J attested (wsgiHandshake P.J nonce sock (attestOn env sslObj s))).1 ∧
      SocketAccepts P reprExc v nonce
        (asgiCall P.J attested (asgiHandshake P.J nonce sock (attestOn env sslObj s))).1 := by
  obtain ⟨hexport, hextract⟩ := both_ends hclient hserver hend hend' nonce
  have hplain : Exports (plainSslObj tls) tls := plainSslObj_exports
  obtain ⟨t, ht, -, hvalid⟩ := hstore.transcript henv hreads hsigns hsigns' hplain nonce
  have hsame : attestConnection (attestationRequest nonce) (sslObj sock) =
      attestConnection (attestationRequest nonce) (plainSslObj tls) :=
    attestConnection_congr (hextract.trans (extractEkm_eq hplain nonce).symm)
  have heval : evalBody env (attestConnection (attestationRequest nonce) (sslObj sock)) s =
      (.ok t.response, s) := by
    rw [hsame]
    exact (evalBody_attestConnection fun e he => henv.exists_ he).mpr ⟨rfl, t, ht, rfl⟩
  have hinv := hJ _ _ heval
  have hattest : attestOn env sslObj s (attestationRequest nonce) sock = .ok t.response :=
    congrArg Prod.fst heval
  have haccept : exchange P.J P.validator (P.ekmExporterFn v) nonce
      (.ok (replyToHttp P.J reprExc ⟨200, .message (P.J.responseToDict t.response)⟩)) = .ok () :=
    exchange_eq_ok.mpr ⟨_, t.response, _, rfl, processAttestationResponse_reply hinv reprExc, hexport,
      hvalid⟩
  exact ⟨⟨_, wsgiCall_handshake hinv hattest, haccept⟩, ⟨_, asgiCall_handshake hinv hattest, haccept⟩⟩

end

/-! ### A session between two processes -/

/-- The SDK's exporter, where no object has more than so many layers. -/
def sdkExporter (L : OpenSsl) (h : Heap) (turns : Nat) (sock : Value) (length : Nat)
    (label context : Bytes) : Except Exc Bytes :=
  match exportKeyingMaterial L h turns sock length label (some context) 0 with
  | some r => r.1
  | none => .error ⟨.recursionError, []⟩

theorem sdkExporter_returns {L : OpenSsl} {h : Heap} {turns : Nat}
    (hturns : ∀ v, (unwrap h turns v).isSome) (sock : Value) (length : Nat) (label context : Bytes) :
    ∃ held, Returns L h sock length label (some context) 0
      (sdkExporter L h turns sock length label context, held) := by
  obtain ⟨x, hx⟩ := Option.isSome_iff_exists.mp (hturns sock)
  have hr : ∃ r, exportKeyingMaterial L h turns sock length label (some context) 0 = some r := by
    rw [exportKeyingMaterial, hx]
    split <;> exact ⟨_, rfl⟩
  obtain ⟨r, hr⟩ := hr
  exact ⟨r.2, turns, by rw [sdkExporter, hr]⟩

theorem sampleHeap_layers (v : Value) : (unwrap sampleHeap 3 v).isSome := by
  rcases v with _ | _ | _ | _ | n
  · rfl
  · rfl
  · rfl
  · rfl
  · rfl

/-- The keying material of a session of `sampleOpenSsl`. -/
def sampleTls (length : Nat) (_ _ : Bytes) : Bytes := List.replicate length 0

theorem sampleSocket_end : EndOf sampleOpenSsl sampleHeap (some 0) sampleTls where
  wraps := by
    have hunwraps : Unwraps sampleHeap (some 0) (some 1) := .more rfl (.done rfl)
    have hsocket : IsSslSocket (sampleHeap.obj (some 1)) (some 7) := ⟨rfl, rfl⟩
    exact ⟨some 1, 7, hunwraps, hsocket, fun _ => rfl⟩
  allocates := rfl

/-- The server's TLS object. -/
def sampleSslObj : SslObject :=
  ⟨none, fun length label context =>
    (sdkExporter sampleOpenSsl sampleHeap 3 (targetObj sampleHeap (some 0)) length label context).map
      some⟩

theorem sampleSslObj_represents :
    Represents sampleOpenSsl sampleHeap (some 0) sampleTls sampleSslObj where
  exporter context := by
    obtain ⟨held, hr⟩ := sdkExporter_returns (L := sampleOpenSsl) sampleHeap_layers
      (targetObj sampleHeap (some 0)) EKM_LENGTH EKM_LABEL context
    exact ⟨_, held, hr, by simp only [sampleSslObj]⟩
  standard hf := by cases hf

/-- The server's response in that session. -/
def socketResponse : AttestConnectionResponse :=
  Transcript.response ⟨sampleTls EKM_LENGTH [] [], ⟨toyEcdsa 48, toyMldsa 48, [84, 48]⟩,
    (toyEcdsa 48).priv ++ signedPayload (sampleTls EKM_LENGTH [] []) [84, 48],
    (toyMldsa 48).priv ++ signedPayload (sampleTls EKM_LENGTH [] []) [84, 48], "T0"⟩

/-- `MessageToDict` of it. -/
def socketResponseDict : Dict :=
  [("evidence", .list [.dict [("verifierType", .str "VERIFIER_TYPE_GCA"),
      ("gcaBundle", .dict [("attestationToken", .str "T0")])]]),
    ("instancePublicKey", .dict [("keyBytes", .str "AjA=")]),
    ("sessionSignature", .str ("ATAKIGZoeq34Yr13bI/Bi46fjiAIlxSFbuIzs5AqWR0NXyklEiDJ" ++
      "wr6f2wtC0X+1t6YN3EVRCXgWgvFa+H4pQ8U6Kplz+g==")),
    ("pqcPublicKey", .dict [("serializedPublicKeyset", .str "BDA=")]),
    ("pqcSessionSignature", .str ("AzAKIGZoeq34Yr13bI/Bi46fjiAIlxSFbuIzs5AqWR0NXyklEiDJ" ++
      "wr6f2wtC0X+1t6YN3EVRCXgWgvFa+H4pQ8U6Kplz+g=="))]

/-- `json.dumps` of it. -/
def socketResponseText : String :=
  "\x7b\"evidence\": [\x7b\"verifierType\": \"VERIFIER_TYPE_GCA\", \"gcaBundle\": " ++
    "\x7b\"attestationToken\": \"T0\"\x7d\x7d], \"instancePublicKey\": " ++
    "\x7b\"keyBytes\": \"AjA=\"\x7d, \"sessionSignature\": " ++
    "\"ATAKIGZoeq34Yr13bI/Bi46fjiAIlxSFbuIzs5AqWR0NXyklEiDJ" ++
    "wr6f2wtC0X+1t6YN3EVRCXgWgvFa+H4pQ8U6Kplz+g==\", \"pqcPublicKey\": " ++
    "\x7b\"serializedPublicKeyset\": \"BDA=\"\x7d, \"pqcSessionSignature\": " ++
    "\"AzAKIGZoeq34Yr13bI/Bi46fjiAIlxSFbuIzs5AqWR0NXyklEiDJ" ++
    "wr6f2wtC0X+1t6YN3EVRCXgWgvFa+H4pQ8U6Kplz+g==\"\x7d"

/-- The format of that exchange: it knows the request for `toyNonce` and the response to it. -/
def socketFormat : JsonFormat :=
  { toyFormat with
    loadsBytes := fun b =>
      if b = Bytes.encodeUtf8 socketResponseText then .ok (.dict socketResponseDict)
      else .error ⟨.jsonDecodeError, []⟩
    dumps := fun _ => Bytes.encodeUtf8 socketResponseText
    responseToDict := fun _ => socketResponseDict
    parseResponse := fun _ => .ok socketResponse }

theorem socketFormat_inverse :
    socketFormat.Inverse (attestationRequest toyNonce) socketResponse where
  request_text := toyFormat_inverse.request_text
  response_text := by simp only [socketFormat, if_true]
  response_dict := rfl

def socketSettings : Settings where
  J := socketFormat
  validator := toyValidator
  ekmExporterFn := sdkExporter sampleOpenSsl sampleHeap 3
  revalidationTimeout := 3300
  cannotSend _ := false

theorem socketSettings_sdk : ExportsBySdk sampleOpenSsl sampleHeap socketSettings :=
  sdkExporter_returns sampleHeap_layers

theorem sockets_accepted :
    SocketAccepts socketSettings (fun _ => "") (some 0) toyNonce
        (wsgiCall socketFormat [] (wsgiHandshake socketFormat toyNonce ()
          (attestOn (toyAttempt 48 true) (fun _ => sampleSslObj) toyStore))).1 ∧
      SocketAccepts socketSettings (fun _ => "") (some 0) toyNonce
        (asgiCall socketFormat [] (asgiHandshake socketFormat toyNonce ()
          (attestOn (toyAttempt 48 true) (fun _ => sampleSslObj) toyStore))).1 := by
  refine sockets_handshake socketSettings_sdk sampleSslObj_represents sampleSocket_end
    sampleSocket_end toyStore_usable (toyAttempt_obeys (.inl rfl) true) (fun _ => rfl)
    (fun _ => ⟨_, rfl⟩) (fun _ => ⟨_, rfl⟩) ?_
  intro response s' h
  have hekm : extractEkm toyNonce sampleSslObj = .ok (sampleTls EKM_LENGTH [] []) :=
    sampleSslObj_represents.extractEkm sampleSocket_end
  have ht : (⟨sampleTls EKM_LENGTH [] [], ⟨toyEcdsa 48, toyMldsa 48, [84, 48]⟩,
      (toyEcdsa 48).priv ++ signedPayload (sampleTls EKM_LENGTH [] []) [84, 48],
      (toyMldsa 48).priv ++ signedPayload (sampleTls EKM_LENGTH [] []) [84, 48],
      "T0"⟩ : Transcript).Of (toyAttempt 48 true) (attestationRequest toyNonce) sampleSslObj toyStore :=
    ⟨⟨by simp [attestationRequest], by simp [attestationRequest]⟩, hekm, fun _ => rfl, rfl, rfl, rfl,
      rfl, rfl, rfl, rfl, rfl⟩
  have heval : evalBody (toyAttempt 48 true) (attestConnection (attestationRequest toyNonce)
      sampleSslObj) toyStore = (.ok socketResponse, toyStore) :=
    (evalBody_attestConnection fun e he => by cases he).mpr ⟨rfl, _, ht, rfl⟩
  obtain rfl : response = socketResponse := by
    rw [heval] at h
    exact (Except.ok.inj (Prod.mk.inj h).1).symm
  exact socketFormat_inverse

end PromptEncryption
