import PromptEncryption.Client.Handshake
import PromptEncryption.Server.Middleware
import PromptEncryption.System.Signatures

/-!
# System — the handshake, end to end

One attestation exchange between the two ends: the client's request, through a middleware, to
`attest_connection` and back to the client's validator.  The two ends are written separately, and
meet here: the label and the context of the keying material, the signed payload, the text and the
bytes of the token, the fingerprints.

* `extractEkm_eq`: whichever exporter the server uses, it gets the session's keying material.
* `honest_handshake`: against a usable store, the client accepts what the server answers.
-/

namespace PromptEncryption
open Python Programs Server Client

/-! ### What the wire carries -/

/-- The reply as the client receives it; `reprExc` renders an exception. -/
def replyToHttp (J : JsonFormat) (reprExc : Exc → String) (r : Reply) : HttpResponse where
  data := .ok <| J.dumps <| .dict <|
    match r.body with
    | .message d => d
    | .error text => [("error", .str text)]
    | .errorRepr text e => [("error", .str (text ++ reprExc e))]
  status := r.status
  contentType := some "application/json"

/-- The server's `attest_connection`, by itself on a store, at the TLS objects of its connections. -/
def attestOn {Sock : Type} (env : ServerEnv) (sslObj : Sock → SslObject) (s : Store) :
    AttestConnection Sock :=
  fun request sock => (evalBody env (attestConnection request (sslObj sock)) s).1

section
variable {Sock : Type} (J : JsonFormat) (nonce : Bytes) (sock : Sock) (attest : AttestConnection Sock)

/-- The client's request, as WSGI hands it to the middleware. -/
def wsgiHandshake : Environ Sock :=
  ⟨some ATTESTATION_ENDPOINT, some sock, .ok (J.requestToJson (attestationRequest nonce)), attest⟩

/-- The client's request, as ASGI hands it to the middleware. -/
def asgiHandshake : Scope Sock :=
  ⟨.http, ATTESTATION_ENDPOINT, some sock, .ok (J.requestToJson (attestationRequest nonce)), attest,
    fun _ => none⟩

end

/-! ### The session -/

/-- For the length and the label of an attestation, the TLS object exports the keying material `tls` of
its session: the SDK's exporter computes it, and so does the standard library's where it returns any. -/
structure Exports (sslObj : SslObject) (tls : Nat → Bytes → Bytes → Bytes) : Prop where
  exporter : ∀ context, sslObj.exporter EKM_LENGTH EKM_LABEL context =
    .ok (some (tls EKM_LENGTH EKM_LABEL context))
  standard : ∀ {f}, sslObj.exportKeyingMaterial = some f → ∀ context,
    f EKM_LABEL EKM_LENGTH context = .ok (some (tls EKM_LENGTH EKM_LABEL context)) ∨
      f EKM_LABEL EKM_LENGTH context = .ok none ∨
      ∃ e, f EKM_LABEL EKM_LENGTH context = .error e ∧ e.isinstance .exception = true

/-- **Whichever exporter the server uses, it gets the session's keying material.** -/
theorem extractEkm_eq {sslObj : SslObject} {tls : Nat → Bytes → Bytes → Bytes}
    (h : Exports sslObj tls) (nonce : Bytes) :
    extractEkm nonce sslObj = .ok (tls EKM_LENGTH EKM_LABEL nonce) := by
  have hfallback : exportByFallback nonce sslObj none =
      .ok (some (tls EKM_LENGTH EKM_LABEL nonce)) := h.exporter nonce
  have hnext (firstEkmException : Option Exc)
      (hstd : exportByStandardLibrary nonce sslObj = .ok (none, firstEkmException)) :
      extractEkm nonce sslObj = .ok (tls EKM_LENGTH EKM_LABEL nonce) := by
    rw [extractEkm, hstd]
    exact bind_eq_ok.mpr ⟨_, rfl, bind_eq_ok.mpr ⟨_, hfallback, rfl⟩⟩
  cases hstd : sslObj.exportKeyingMaterial with
  | none => exact hnext none (by simp only [exportByStandardLibrary, hstd])
  | some f =>
      -- it returns keying material, returns nothing, or raises
      have hcases : f ekmLabel 32 nonce = .ok (some (tls EKM_LENGTH EKM_LABEL nonce)) ∨
          f ekmLabel 32 nonce = .ok none ∨
          ∃ e, f ekmLabel 32 nonce = .error e ∧ e.isinstance .exception = true :=
        h.standard hstd nonce
      rcases hcases with hf | hf | ⟨e, hf, he⟩
      · have hout : exportByStandardLibrary nonce sslObj =
            .ok (some (tls EKM_LENGTH EKM_LABEL nonce), none) := by
          simp only [exportByStandardLibrary, hstd, hf]
        rw [extractEkm, hout]
        rfl
      · exact hnext none (by simp only [exportByStandardLibrary, hstd, hf])
      · exact hnext (some e) (by simp only [exportByStandardLibrary, hstd, hf, he, if_true])

/-! ### The store -/

/-- A key and token store a client with the validator `v` can be convinced by. -/
structure Usable (answers : Answers) (v : AttestationValidator) (s : Store) (i : Identity) :
    Prop where
  files : ∀ f, s f = some (i.content f)
  token_ne : i.token ≠ []
  /-- The token is text, accepted by the OIDC check, with claims that satisfy the policy and list
  both fingerprints. -/
  token : ∃ text claims policy nonces, Bytes.decodeUtf8 i.token = some text ∧
    validateOidcToken v text = .ok claims ∧ v.policy = some policy ∧ Satisfies policy claims ∧
    dictGet claims "eat_nonce" = .list nonces ∧
    .str (calculateFingerprint i.ecdsa.pub) ∈ nonces ∧
    .str (calculateFingerprint i.pqc.pub) ∈ nonces
  ecdsa_ne : i.ecdsa.pub ≠ []
  pqc_ne : i.pqc.pub ≠ []
  /-- The PEM files are an elliptic-curve key pair. -/
  ecdsa : ∃ curve verify, v.libs.loadPemPublicKey i.ecdsa.pub = .ok (.ellipticCurve curve verify) ∧
    ∀ payload sig, answers (.signEcdsa i.ecdsa.priv payload) sig →
      sig ≠ [] ∧ verify sig payload = .ok ()
  /-- The keysets are a pair with a single enabled ML-DSA key. -/
  mldsa : ∃ key : KeysetKey, v.libs.parseWithoutSecret i.pqc.pub = .ok ⟨[key], .ok ()⟩ ∧
    key.typeUrl = ML_DSA_PUBLIC_KEY_TYPE_URL ∧ key.enabled = true ∧
    ∀ payload sig, answers (.signMldsa i.pqc.priv payload) sig →
      sig ≠ [] ∧ key.verifies sig payload = true

section
variable {answers : Answers} {v : AttestationValidator} {s : Store} {i : Identity}

theorem Usable.ecdsaMatches (h : Usable answers v s i) : EcdsaMatches answers v.libs i.ecdsa := by
  intro payload sig hs
  obtain ⟨curve, verify, hload, hverify⟩ := h.ecdsa
  obtain ⟨hne, hver⟩ := hverify payload sig hs
  refine ⟨hne, ?_⟩
  rw [verifySessionSignature, wrapAs_eq_ok]
  exact bind_eq_ok.mpr ⟨_, hload, hver⟩

theorem Usable.mldsaMatches (h : Usable answers v s i) : MldsaMatches answers v.libs i.pqc := by
  intro payload sig hs
  obtain ⟨key, hparse, htype, henabled, hverify⟩ := h.mldsa
  obtain ⟨hne, hver⟩ := hverify payload sig hs
  refine ⟨hne, ?_⟩
  rw [verifySessionSignatureMldsa, wrapAs_eq_ok]
  refine bind_eq_ok.mpr ⟨_, hparse, ?_⟩
  simp [htype, henabled, hver, KeysetHandle.verify]

/-- A call on a usable store, in which nothing fails, returns the store's keys and token, and
signatures that verify. -/
theorem Usable.transcript (h : Usable answers v s i) {env : ServerEnv} (henv : Obeys answers env)
    (hreads : ∀ f, env.readFault f = none)
    (hsigns : ∀ payload, ∃ sig, env.answer (.signEcdsa i.ecdsa.priv payload) = .ok sig)
    (hsigns' : ∀ payload, ∃ sig, env.answer (.signMldsa i.pqc.priv payload) = .ok sig)
    {sslObj : SslObject} {tls : Nat → Bytes → Bytes → Bytes} (htls : Exports sslObj tls)
    (nonce : Bytes) :
    ∃ t : Transcript, t.Of env (attestationRequest nonce) sslObj s ∧ t.files = i ∧
      validate v t.response (tls EKM_LENGTH EKM_LABEL nonce) none = .ok () := by
  obtain ⟨text, claims, policy, nonces, htext, hclaims, hpolicy, hsat, heat, hfp, hfp'⟩ := h.token
  let payload := signedPayload (tls EKM_LENGTH EKM_LABEL nonce) i.token
  obtain ⟨sig, hsig⟩ := hsigns payload
  obtain ⟨pqcSig, hpqcSig⟩ := hsigns' payload
  let t : Transcript := ⟨tls EKM_LENGTH EKM_LABEL nonce, i, sig, pqcSig, text⟩
  have htoken : (s .attestationToken).getD [] = i.token := by rw [h.files]; rfl
  have ht : t.Of env (attestationRequest nonce) sslObj s :=
    ⟨⟨by simp [attestationRequest], by simp [attestationRequest]⟩, extractEkm_eq htls nonce, hreads,
      h.files _, h.files _, htoken, h.files _, h.files _, hsig, hpqcSig, htext⟩
  have hbytes : Bytes.encodeUtf8 text = i.token := Bytes.utf8_encode_decode htext
  have hpayload : sessionPayload text (tls EKM_LENGTH EKM_LABEL nonce) = payload := by
    rw [sessionPayload, hbytes]; rfl
  have hne : text ≠ "" := fun h0 => h.token_ne (by rw [← hbytes, h0]; rfl)
  obtain ⟨hsig_ne, hver⟩ := h.ecdsaMatches _ _ (henv.answer hsig)
  obtain ⟨hpqc_ne, hpqcVer⟩ := h.mldsaMatches _ _ (henv.answer hpqcSig)
  refine ⟨t, ht, rfl, validate_eq_ok.mpr ⟨text, claims, rfl, hne, hclaims, ?_, h.ecdsa_ne, h.pqc_ne,
    ?_, hsig_ne, hpqc_ne, ?_, ?_⟩⟩
  · rw [hpolicy]
    exact enforcePolicy_eq_ok.mpr hsat
  · exact (verifyInstanceKeyBinding_eq_ok_of_list heat).mpr ⟨hfp, hfp', fun n hn => by cases hn⟩
  · rw [hpayload]
    exact hver
  · rw [hpayload]
    exact hpqcVer

end

/-! ### The exchange -/

section
variable {J : JsonFormat} {request : AttestConnectionRequest} {response : AttestConnectionResponse}

/-- What the client sends is what the server parses. -/
theorem parseAttestRequest_eq (h : J.Inverse request response) :
    parseAttestRequest J (J.requestToJson request) = .ok request := by
  obtain ⟨text, d, hne, hdecode, hloads, hparse⟩ := h.request_text
  refine bind_eq_ok.mpr ⟨.dict d, wrapAs_eq_ok.mpr (bind_eq_ok.mpr ⟨text, ?_, hloads⟩), hparse⟩
  rw [requestText, if_neg hne, hdecode]

/-- The client reads the response off a successful reply. -/
theorem processAttestationResponse_reply (h : J.Inverse request response)
    (reprExc : Exc → String) :
    processAttestationResponse J
      (replyToHttp J reprExc ⟨200, .message (J.responseToDict response)⟩) = .ok response :=
  processAttestationResponse_json h.response_text h.response_dict

variable {Sock : Type} [DecidableEq Sock] {nonce : Bytes} {sock : Sock}
  {attest : AttestConnection Sock} {attested : List Sock}

theorem wsgiCall_handshake (h : J.Inverse (attestationRequest nonce) response)
    (hattest : attest (attestationRequest nonce) sock = .ok response) :
    (wsgiCall J attested (wsgiHandshake J nonce sock attest)).1 =
      .reply ⟨200, .message (J.responseToDict response)⟩ := by
  have ha : wsgiAttest J (wsgiHandshake J nonce sock attest) = .ok (sock, response) :=
    bind_eq_ok.mpr ⟨_, rfl, bind_eq_ok.mpr ⟨_, parseAttestRequest_eq h,
      bind_eq_ok.mpr ⟨response, hattest, rfl⟩⟩⟩
  have hcall : wsgiCall J attested (wsgiHandshake J nonce sock attest) =
      wsgiHandleAttestation J attested (wsgiHandshake J nonce sock attest) := if_pos rfl
  rw [hcall, wsgiHandleAttestation, ha]

theorem asgiCall_handshake (h : J.Inverse (attestationRequest nonce) response)
    (hattest : attest (attestationRequest nonce) sock = .ok response) :
    (asgiCall J attested (asgiHandshake J nonce sock attest)).1 =
      .reply ⟨200, .message (J.responseToDict response)⟩ := by
  have ha : asgiAttest J (asgiHandshake J nonce sock attest) = .ok (sock, response) :=
    bind_eq_ok.mpr ⟨_, rfl, bind_eq_ok.mpr ⟨_, parseAttestRequest_eq h,
      bind_eq_ok.mpr ⟨response, hattest, rfl⟩⟩⟩
  have hcall : asgiCall J attested (asgiHandshake J nonce sock attest) =
      asgiHandleAttestation J attested (asgiHandshake J nonce sock attest) :=
    (if_neg fun hne => hne rfl).trans (if_pos rfl)
  rw [hcall, asgiHandleAttestation, ha]
  rfl

end

/-- The client accepts what a middleware answers. -/
def ClientAccepts (J : JsonFormat) (reprExc : Exc → String) (v : AttestationValidator)
    (tls : Nat → Bytes → Bytes → Bytes) (nonce : Bytes) (o : Outcome) : Prop :=
  ∃ r, o = .reply r ∧
    exchange J v (fun length label context => .ok (tls length label context)) nonce
      (.ok (replyToHttp J reprExc r)) = .ok ()

/-- **Honest handshakes succeed.**  On every TLS session, for every nonce, and against every usable
store, a call of `attest_connection` in which nothing fails returns a response, and the client
accepts it through either middleware. -/
theorem honest_handshake {Sock : Type} [DecidableEq Sock] {answers : Answers}
    {J : JsonFormat} {reprExc : Exc → String} {v : AttestationValidator} {s : Store} {i : Identity}
    {env : ServerEnv} {sslObj : Sock → SslObject} {sock : Sock} {attested : List Sock}
    {tls : Nat → Bytes → Bytes → Bytes} {nonce : Bytes}
    (hstore : Usable answers v s i) (henv : Obeys answers env)
    (hreads : ∀ f, env.readFault f = none)
    (hsigns : ∀ payload, ∃ sig, env.answer (.signEcdsa i.ecdsa.priv payload) = .ok sig)
    (hsigns' : ∀ payload, ∃ sig, env.answer (.signMldsa i.pqc.priv payload) = .ok sig)
    (htls : Exports (sslObj sock) tls)
    (hJ : ∀ response s', evalBody env (attestConnection (attestationRequest nonce) (sslObj sock)) s =
      (.ok response, s') → J.Inverse (attestationRequest nonce) response) :
    ClientAccepts J reprExc v tls nonce
        (wsgiCall J attested (wsgiHandshake J nonce sock (attestOn env sslObj s))).1 ∧
      ClientAccepts J reprExc v tls nonce
        (asgiCall J attested (asgiHandshake J nonce sock (attestOn env sslObj s))).1 := by
  obtain ⟨t, ht, -, hvalid⟩ := hstore.transcript henv hreads hsigns hsigns' htls nonce
  have heval : evalBody env (attestConnection (attestationRequest nonce) (sslObj sock)) s =
      (.ok t.response, s) :=
    (evalBody_attestConnection fun e he => henv.exists_ he).mpr ⟨rfl, t, ht, rfl⟩
  have hinv := hJ _ _ heval
  have hattest : attestOn env sslObj s (attestationRequest nonce) sock = .ok t.response :=
    congrArg Prod.fst heval
  have haccept : exchange J v (fun length label context => .ok (tls length label context)) nonce
      (.ok (replyToHttp J reprExc ⟨200, .message (J.responseToDict t.response)⟩)) = .ok () :=
    exchange_eq_ok.mpr ⟨_, t.response, _, rfl, processAttestationResponse_reply hinv reprExc, rfl,
      hvalid⟩
  exact ⟨⟨_, wsgiCall_handshake hinv hattest, haccept⟩,
    ⟨_, asgiCall_handshake hinv hattest, haccept⟩⟩

/-! ### One exchange -/

/-- The exporter of a session that exports nothing. -/
def toyTls (_ : Nat) (_ _ : Bytes) : Bytes := []

def toyNonce : Bytes := List.replicate NONCE_LENGTH 0

/-- `MessageToJson` of the request for `toyNonce`. -/
def toyRequestText : String :=
  "\x7b\n  \"requiredVerifierType\": [\n    \"VERIFIER_TYPE_GCA\"\n  ],\n  \"nonce\": " ++
    "\"AAAAAAAAAAAAAAAAAAAAAAAAAAAAAAAAAAAAAAAAAAA=\"\n\x7d"

/-- `MessageToDict` of the response with the keys, the token and the signatures numbered 48. -/
def toyResponseDict : Dict :=
  [("evidence", .list [.dict [("verifierType", .str "VERIFIER_TYPE_GCA"),
      ("gcaBundle", .dict [("attestationToken", .str "T0")])]]),
    ("instancePublicKey", .dict [("keyBytes", .str "AjA=")]),
    ("sessionSignature", .str ("ATAKIOOwxEKY/BwUmvv0yJlvuSQnrkHkZJuTTKSVmRt4UrhVEiDJ" ++
      "wr6f2wtC0X+1t6YN3EVRCXgWgvFa+H4pQ8U6Kplz+g==")),
    ("pqcPublicKey", .dict [("serializedPublicKeyset", .str "BDA=")]),
    ("pqcSessionSignature", .str ("AzAKIOOwxEKY/BwUmvv0yJlvuSQnrkHkZJuTTKSVmRt4UrhVEiDJ" ++
      "wr6f2wtC0X+1t6YN3EVRCXgWgvFa+H4pQ8U6Kplz+g=="))]

/-- `json.dumps` of it. -/
def toyResponseText : String :=
  "\x7b\"evidence\": [\x7b\"verifierType\": \"VERIFIER_TYPE_GCA\", \"gcaBundle\": " ++
    "\x7b\"attestationToken\": \"T0\"\x7d\x7d], \"instancePublicKey\": " ++
    "\x7b\"keyBytes\": \"AjA=\"\x7d, \"sessionSignature\": " ++
    "\"ATAKIOOwxEKY/BwUmvv0yJlvuSQnrkHkZJuTTKSVmRt4UrhVEiDJ" ++
    "wr6f2wtC0X+1t6YN3EVRCXgWgvFa+H4pQ8U6Kplz+g==\", \"pqcPublicKey\": " ++
    "\x7b\"serializedPublicKeyset\": \"BDA=\"\x7d, \"pqcSessionSignature\": " ++
    "\"AzAKIOOwxEKY/BwUmvv0yJlvuSQnrkHkZJuTTKSVmRt4UrhVEiDJ" ++
    "wr6f2wtC0X+1t6YN3EVRCXgWgvFa+H4pQ8U6Kplz+g==\"\x7d"

/-- The format of one exchange: it knows the request for `toyNonce` and the response to it. -/
def toyFormat : JsonFormat where
  loads text :=
    if text = toyRequestText then
      .ok (.dict [("requiredVerifierType", .list [.str "VERIFIER_TYPE_GCA"]),
        ("nonce", .str "AAAAAAAAAAAAAAAAAAAAAAAAAAAAAAAAAAAAAAAAAAA=")])
    else .error ⟨.jsonDecodeError, []⟩
  loadsBytes b :=
    if b = Bytes.encodeUtf8 toyResponseText then .ok (.dict toyResponseDict)
    else .error ⟨.jsonDecodeError, []⟩
  dumps _ := Bytes.encodeUtf8 toyResponseText
  requestToJson _ := Bytes.encodeUtf8 toyRequestText
  parseRequest _ := .ok (attestationRequest toyNonce)
  responseToDict _ := toyResponseDict
  parseResponse _ := .ok (toyResponse 48 48)
  responseFromString _ := .error ⟨.derived "DecodeError" .exception, []⟩

theorem toyFormat_inverse : toyFormat.Inverse (attestationRequest toyNonce) (toyResponse 48 48) where
  request_text := ⟨toyRequestText, _, by decide +kernel, Bytes.utf8_decode_encode _,
    by simp only [toyFormat, if_true]; rfl, rfl⟩
  response_text := by simp only [toyFormat, if_true]
  response_dict := rfl

def toyValidator : AttestationValidator := ⟨some {}, toyLibs⟩

theorem toyStore_usable :
    Usable toyAnswers toyValidator toyStore ⟨toyEcdsa 48, toyMldsa 48, [84, 48]⟩ where
  files _ := rfl
  token_ne := by simp
  token := ⟨"T0", _, {}, (toyNonces 48).map .str, rfl, rfl, rfl, enforcePolicy_eq_ok.mp rfl, rfl,
    List.mem_cons_self, List.mem_cons_of_mem _ List.mem_cons_self⟩
  ecdsa_ne := by simp [toyEcdsa]
  pqc_ne := by simp [toyMldsa]
  ecdsa := by
    refine ⟨"secp256r1", toyVerify [1, 48], rfl, ?_⟩
    intro payload sig hs
    obtain rfl : sig = (toyEcdsa 48).priv ++ payload := hs
    exact ⟨by simp [toyEcdsa], raiseIf_eq_ok.mpr (not_not.mpr rfl)⟩
  mldsa := by
    refine ⟨⟨ML_DSA_PUBLIC_KEY_TYPE_URL, true, fun sig p => sig == [3, 48] ++ p⟩, rfl, rfl, rfl, ?_⟩
    intro payload sig hs
    obtain rfl : sig = (toyMldsa 48).priv ++ payload := hs
    exact ⟨by simp [toyMldsa], by simp [toyMldsa]⟩

theorem toySslObj_exports : Exports toySslObj toyTls where
  exporter _ := rfl
  standard h := by cases h

theorem toyHandshake_accepted :
    ClientAccepts toyFormat (fun _ => "") toyValidator toyTls toyNonce
        (wsgiCall toyFormat [] (wsgiHandshake toyFormat toyNonce ()
          (attestOn (toyAttempt 48 true) (fun _ => toySslObj) toyStore))).1 ∧
      ClientAccepts toyFormat (fun _ => "") toyValidator toyTls toyNonce
        (asgiCall toyFormat [] (asgiHandshake toyFormat toyNonce ()
          (attestOn (toyAttempt 48 true) (fun _ => toySslObj) toyStore))).1 := by
  refine honest_handshake toyStore_usable (toyAttempt_obeys (.inl rfl) true) (fun _ => rfl)
    (fun _ => ⟨_, rfl⟩) (fun _ => ⟨_, rfl⟩) toySslObj_exports ?_
  intro response s' h
  have ht : (⟨[], ⟨toyEcdsa 48, toyMldsa 48, [84, 48]⟩,
      (toyEcdsa 48).priv ++ signedPayload [] [84, 48], (toyMldsa 48).priv ++ signedPayload [] [84, 48],
      "T0"⟩ : Transcript).Of (toyAttempt 48 true) (attestationRequest toyNonce) toySslObj toyStore :=
    ⟨⟨by simp [attestationRequest], by simp [attestationRequest]⟩, rfl, fun _ => rfl, rfl, rfl, rfl,
      rfl, rfl, rfl, rfl, rfl⟩
  have heval : evalBody (toyAttempt 48 true) (attestConnection (attestationRequest toyNonce)
      toySslObj) toyStore = (.ok (toyResponse 48 48), toyStore) :=
    (evalBody_attestConnection fun e he => by cases he).mpr ⟨rfl, _, ht, rfl⟩
  obtain rfl : response = toyResponse 48 48 := by
    rw [heval] at h
    exact (Except.ok.inj (Prod.mk.inj h).1).symm
  exact toyFormat_inverse

end PromptEncryption
