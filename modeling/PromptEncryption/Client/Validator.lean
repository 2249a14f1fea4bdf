import PromptEncryption.Client.Policy

/-!
# Client — validating an attestation response

`AttestationValidator.validate` (`client/validator.py`): the response's token is verified and
held against the policy, the two public keys are looked up in the token's `eat_nonce`, and both
session signatures are verified over the hashes of the exported keying material and the token.

What the validator gets from its libraries is a parameter (`Libraries`): the token check of
Tink's JWT verifier, the PEM loader of `cryptography`, and Tink's keyset parser.  A loaded key
and a parsed keyset keep what the code asks of them.

`validate_eq_ok` reads an accepted response back: which evidence was used, which claims the token
carried, and that both keys are bound and both signatures verify over `sessionPayload`.
-/

namespace PromptEncryption.Client
open Python

/-! ### Libraries -/

/-- A key `load_pem_public_key` returns: an elliptic-curve key on a named curve, with its
`verify(signature, payload, ECDSA(SHA256()))`, or a key of another kind. -/
inductive PemPublicKey where
  | ellipticCurve (curve : String) (verify : Bytes → Bytes → Except Exc Unit)
  | other

/-- A key of a Tink keyset. -/
structure KeysetKey where
  typeUrl : String
  enabled : Bool
  verifies : Bytes → Bytes → Bool

/-- A parsed Tink keyset; `primitive` is whether a `PublicKeyVerify` can be made of it. -/
structure KeysetHandle where
  keys : List KeysetKey
  primitive : Except Exc Unit

abbrev tinkError : ExcClass := .derived "TinkError" .exception

/-- `PublicKeyVerify.verify`: some enabled key verifies the signature. -/
def KeysetHandle.verify (h : KeysetHandle) (signature payload : Bytes) : Except Exc Unit :=
  raiseIf (h.keys.any (fun k => k.enabled && k.verifies signature payload) = false)
    ⟨tinkError, [.text "invalid signature"]⟩

/-- What the validator's libraries do. -/
structure Libraries where
  /-- `fetch_data`, `jwk_set_to_public_keyset_handle` and `verify_and_decode`, at a token and an
  expected audience: the token's claims. -/
  verifyAndDecode : String → String → Except Exc Dict
  /-- `load_pem_public_key`. -/
  loadPemPublicKey : Bytes → Except Exc PemPublicKey
  /-- `tink.proto_keyset_format.parse_without_secret`. -/
  parseWithoutSecret : Bytes → Except Exc KeysetHandle

/-- An `AttestationValidator`; `policy` is `none` when the validator was given `None`. -/
structure AttestationValidator where
  policy : Option AttestationPolicy
  libs : Libraries

/-! ### The token -/

/-- `OIDCTokenValidator.validate_token`. -/
def validateToken (libs : Libraries) (token expectedAudience : String) : Except Exc Dict :=
  wrapAs .exception
    (fun _ => ⟨attestationVerificationError, [.text "OIDC Token validation failed."]⟩)
    (libs.verifyAndDecode token expectedAudience)

/-- `_validate_oidc_token`. -/
def validateOidcToken (v : AttestationValidator) (token : String) : Except Exc Dict :=
  match v.policy with
  | none => .error ⟨.derived "AttributeError" .exception,
      [.text "'NoneType' object has no attribute 'expected_audience'"]⟩
  | some p =>
      if p.expectedAudience ≠ "" then validateToken v.libs token p.expectedAudience
      else validateToken v.libs token DEFAULT_AUDIENCE

/-! ### The key binding -/

/-- `hashlib.sha256(public_key).hexdigest()`. -/
def fingerprint (publicKey : Bytes) : String := Bytes.hex (Bytes.sha256 publicKey)

/-- `eat_nonce`, a lone string read as a list of one. -/
def eatNonceList (eatNonce : Json) : Json :=
  match eatNonce with
  | .str s => .list [.str s]
  | v => v

/-- `if nonce not in eat_nonce_list: raise e`. -/
def requireNonce (nonce : String) (nonces : Json) (e : Exc) : Except Exc Unit := do
  let found ← isIn nonce nonces
  raiseIf (found = false) e

/-- `_verify_instance_key_binding`. -/
def verifyInstanceKeyBinding (claims : Dict) (ecdsaPubBytes pqcPubBytes : Bytes)
    (expectedNonce : Option Bytes) : Except Exc Unit := do
  let eatNonce := dictGet claims "eat_nonce"
  raiseIf (eatNonce.truthy = false) ⟨attestationVerificationError,
    [.text "No eat_nonce claim found in OIDC token."]⟩
  let nonces := eatNonceList eatNonce
  requireNonce (fingerprint ecdsaPubBytes) nonces ⟨attestationVerificationError,
    [.text "ECDSA Instance Key binding failed. Key fingerprint ",
      .text (fingerprint ecdsaPubBytes), .text " not found in token nonces ", .repr nonces,
      .text "."]⟩
  requireNonce (fingerprint pqcPubBytes) nonces ⟨attestationVerificationError,
    [.text "PQC Instance Key binding failed. Key fingerprint ",
      .text (fingerprint pqcPubBytes), .text " not found in token nonces ", .repr nonces,
      .text "."]⟩
  match expectedNonce with
  | none => .ok ()
  | some nonce =>
      requireNonce (Bytes.hex nonce) nonces ⟨attestationVerificationError,
        [.text "Nonce verification failed. Expected challenge nonce ", .text (Bytes.hex nonce),
          .text " not found in token nonces ", .repr nonces, .text "."]⟩

/-! ### The session signatures -/

/-- The handler of both signature checks: the SDK's own verification error passes, any other
`Exception` becomes one with the text `msg`. -/
def signatureFailure (msg : String) (e : Exc) : Exc :=
  if e.isinstance attestationVerificationError then e
  else ⟨attestationVerificationError, [.text msg]⟩

/-- `_verify_session_signature`. -/
def verifySessionSignature (libs : Libraries) (pubKey : EcdsaP256PublicKey)
    (signature payload : Bytes) : Except Exc Unit :=
  wrapAs .exception (signatureFailure "session signature verification failed.") do
    match ← libs.loadPemPublicKey pubKey.keyBytes with
    | .ellipticCurve _ verify => verify signature payload
    | .other => .error ⟨attestationVerificationError,
        [.text "instance key is not an Elliptic Curve key."]⟩

/-- `_verify_session_signature_mldsa`. -/
def verifySessionSignatureMldsa (libs : Libraries) (pubKey : MlDsaPublicKey)
    (signature payload : Bytes) : Except Exc Unit :=
  wrapAs .exception (signatureFailure "PQC session signature verification failed.") do
    let publicHandle ← libs.parseWithoutSecret pubKey.serializedPublicKeyset
    raiseIf (publicHandle.keys.any (fun k => k.typeUrl == ML_DSA_PUBLIC_KEY_TYPE_URL) = false)
      ⟨attestationVerificationError, [.text "PQC keyset key-type is not ML-DSA."]⟩
    publicHandle.primitive
    publicHandle.verify signature payload

/-- The payload the client verifies the signatures over. -/
def sessionPayload (attestationToken : String) (tlsEkm : Bytes) : Bytes :=
  (SessionSignaturePayload.mk (Bytes.sha256 tlsEkm)
    (Bytes.sha256 (Bytes.encodeUtf8 attestationToken))).serializeToString

/-! ### `validate` -/

/-- `if p: raise AttestationVerificationError(msg)`. -/
def failIf (p : Prop) [Decidable p] (msg : String) : Except Exc Unit :=
  raiseIf p ⟨attestationVerificationError, [.text msg]⟩

/-- The bundle of the first GCA evidence. -/
def extractGcaBundle (evidence : List AttestationEvidence) : Except Exc GcaTrustBundle :=
  match evidence.find? (fun ev => ev.verifierType == .gca) with
  | some ev => .ok ev.gcaBundle
  | none => .error ⟨attestationVerificationError, [.text "required GCA evidence missing."]⟩

/-- `validate`. -/
def validate (v : AttestationValidator) (response : AttestConnectionResponse) (tlsEkm : Bytes)
    (expectedNonce : Option Bytes) : Except Exc Unit := do
  failIf (response.evidence = []) "No attestation evidence provided."
  let gcaBundle ← extractGcaBundle response.evidence
  failIf (gcaBundle.attestationToken = "") "GCA attestation token is empty."
  let claims ← validateOidcToken v gcaBundle.attestationToken
  enforcePolicy v.policy claims
  let ecdsaPubBytes := response.instancePublicKey.keyBytes
  failIf (ecdsaPubBytes = []) "ECDSA public key is missing."
  let pqcPubBytes := response.pqcPublicKey.serializedPublicKeyset
  failIf (pqcPubBytes = []) "PQC public key is missing."
  verifyInstanceKeyBinding claims ecdsaPubBytes pqcPubBytes expectedNonce
  failIf (response.sessionSignature = []) "session signature is missing."
  failIf (response.pqcSessionSignature = []) "PQC session signature is missing."
  let payload := sessionPayload gcaBundle.attestationToken tlsEkm
  verifySessionSignature v.libs response.instancePublicKey response.sessionSignature payload
  verifySessionSignatureMldsa v.libs response.pqcPublicKey response.pqcSessionSignature payload

/-! ### What an accepted response is -/

@[simp] theorem failIf_eq_ok {p : Prop} [Decidable p] {msg : String} :
    failIf p msg = .ok () ↔ ¬ p := raiseIf_eq_ok

theorem requireNonce_eq_ok {nonce : String} {nonces : Json} {e : Exc} :
    requireNonce nonce nonces e = .ok () ↔ isIn nonce nonces = .ok true := by
  simp [requireNonce]

/-- A list holds a string exactly when the string is one of its elements. -/
theorem isIn_list {s : String} {xs : List Json} :
    isIn s (.list xs) = .ok true ↔ .str s ∈ xs := by
  simp [isIn]

/-- The binding, at a token whose `eat_nonce` is a list. -/
theorem verifyInstanceKeyBinding_eq_ok_of_list {claims : Dict} {ecdsa pqc : Bytes}
    {nonce : Option Bytes} {xs : List Json} (h : dictGet claims "eat_nonce" = .list xs) :
    verifyInstanceKeyBinding claims ecdsa pqc nonce = .ok () ↔
      .str (fingerprint ecdsa) ∈ xs ∧ .str (fingerprint pqc) ∈ xs ∧
        ∀ n, nonce = some n → .str (Bytes.hex n) ∈ xs := by
  have ht : (Json.list xs).truthy = false ↔ xs = [] := by simp [Json.truthy]
  simp only [verifyInstanceKeyBinding, h, bind_eq_ok, exists_unit, raiseIf_eq_ok, ht,
    requireNonce_eq_ok, eatNonceList, isIn_list]
  constructor
  · rintro ⟨-, h₁, h₂, h₃⟩
    refine ⟨h₁, h₂, ?_⟩
    intro n hn
    subst hn
    exact isIn_list.mp (requireNonce_eq_ok.mp h₃)
  · rintro ⟨h₁, h₂, h₃⟩
    refine ⟨List.ne_nil_of_mem h₁, h₁, h₂, ?_⟩
    cases nonce with
    | none => rfl
    | some n => exact requireNonce_eq_ok.mpr (isIn_list.mpr (h₃ n rfl))

theorem extractGcaBundle_eq_ok {evidence : List AttestationEvidence} {b : GcaTrustBundle} :
    extractGcaBundle evidence = .ok b ↔
      ∃ ev, evidence.find? (fun ev => ev.verifierType == .gca) = some ev ∧ ev.gcaBundle = b := by
  rw [extractGcaBundle]
  cases evidence.find? (fun ev => ev.verifierType == .gca) <;> simp

/-- What `validate` has checked of a response it accepts, with the token's claims. -/
structure Accepted (v : AttestationValidator) (response : AttestConnectionResponse)
    (tlsEkm : Bytes) (expectedNonce : Option Bytes) (token : String) (claims : Dict) : Prop where
  evidence : extractGcaBundle response.evidence = .ok ⟨token⟩
  token_ne : token ≠ ""
  claims_eq : validateOidcToken v token = .ok claims
  policy : enforcePolicy v.policy claims = .ok ()
  ecdsa_ne : response.instancePublicKey.keyBytes ≠ []
  pqc_ne : response.pqcPublicKey.serializedPublicKeyset ≠ []
  bound : verifyInstanceKeyBinding claims response.instancePublicKey.keyBytes
    response.pqcPublicKey.serializedPublicKeyset expectedNonce = .ok ()
  signature_ne : response.sessionSignature ≠ []
  pqcSignature_ne : response.pqcSessionSignature ≠ []
  signature : verifySessionSignature v.libs response.instancePublicKey
    response.sessionSignature (sessionPayload token tlsEkm) = .ok ()
  pqcSignature : verifySessionSignatureMldsa v.libs response.pqcPublicKey
    response.pqcSessionSignature (sessionPayload token tlsEkm) = .ok ()

/-- **`validate` returns exactly where every check passes.** -/
theorem validate_eq_ok {v : AttestationValidator} {response : AttestConnectionResponse}
    {tlsEkm : Bytes} {nonce : Option Bytes} :
    validate v response tlsEkm nonce = .ok () ↔
      ∃ token claims, Accepted v response tlsEkm nonce token claims := by
  simp only [validate, bind_eq_ok, exists_unit, failIf_eq_ok]
  constructor
  · rintro ⟨-, ⟨token⟩, h₁, h₂, claims, h₃, h₄, h₅, h₆, h₇, h₈, h₉, h₁₀, h₁₁⟩
    exact ⟨token, claims, h₁, h₂, h₃, h₄, h₅, h₆, h₇, h₈, h₉, h₁₀, h₁₁⟩
  · rintro ⟨token, claims, h⟩
    have hne : response.evidence ≠ [] := fun e => by
      obtain ⟨ev, hev, -⟩ := extractGcaBundle_eq_ok.mp h.evidence
      rw [e] at hev; cases hev
    exact ⟨hne, ⟨token⟩, h.evidence, h.token_ne, claims, h.claims_eq, h.policy, h.ecdsa_ne,
      h.pqc_ne, h.bound, h.signature_ne, h.pqcSignature_ne, h.signature, h.pqcSignature⟩

/-! ### What is raised -/

/-- What the libraries raise is derived from `Exception`. -/
structure Libraries.Ordinary (libs : Libraries) : Prop where
  verifyAndDecode : ∀ token audience, Raises .exception (libs.verifyAndDecode token audience)
  loadPemPublicKey : ∀ key, Raises .exception (libs.loadPemPublicKey key)
  verify : ∀ {key curve f}, libs.loadPemPublicKey key = .ok (.ellipticCurve curve f) →
    ∀ signature payload, Raises .exception (f signature payload)
  parseWithoutSecret : ∀ keyset, Raises .exception (libs.parseWithoutSecret keyset)
  primitive : ∀ {keyset h}, libs.parseWithoutSecret keyset = .ok h → Raises .exception h.primitive

section
variable {v : AttestationValidator}

theorem failIf_raises {p : Prop} [Decidable p] {msg : String} :
    Raises .exception (failIf p msg) := .raiseIf rfl

theorem extractGcaBundle_raises {evidence : List AttestationEvidence} :
    Raises .exception (extractGcaBundle evidence) := by
  rw [extractGcaBundle]
  split
  · exact .ok
  · exact .error rfl

theorem validateOidcToken_raises (h : v.libs.Ordinary) {token : String} :
    Raises .exception (validateOidcToken v token) := by
  have hcheck : ∀ audience, Raises .exception (validateToken v.libs token audience) :=
    fun audience => .wrapAs (h.verifyAndDecode token audience) fun _ _ => rfl
  rw [validateOidcToken]
  split
  · exact .error rfl
  · split
    · exact hcheck _
    · exact hcheck _

theorem verifyInstanceKeyBinding_raises {claims : Dict} {ecdsa pqc : Bytes}
    {nonce : Option Bytes} : Raises .exception (verifyInstanceKeyBinding claims ecdsa pqc nonce) := by
  have hnonce : ∀ {n : String} {ns : Json} {m : List Piece},
      Raises .exception (requireNonce n ns ⟨attestationVerificationError, m⟩) :=
    .bind .isIn fun _ => .raiseIf rfl
  refine .bind (.raiseIf rfl) fun _ => .bind hnonce fun _ => .bind hnonce fun _ => ?_
  cases nonce with
  | none => exact .ok
  | some n => exact hnonce

theorem signatureFailure_isinstance {msg : String} {e : Exc}
    (h : e.isinstance .exception = true) :
    (signatureFailure msg e).isinstance .exception = true := by
  rw [signatureFailure]
  split
  · exact h
  · rfl

theorem verifySessionSignature_raises (h : v.libs.Ordinary) {key : EcdsaP256PublicKey}
    {signature payload : Bytes} :
    Raises .exception (verifySessionSignature v.libs key signature payload) := by
  refine .wrapAs (fun e he => ?_) fun _ => signatureFailure_isinstance
  rcases bind_eq_error.mp he with he | ⟨k, hk, he⟩
  · exact h.loadPemPublicKey _ e he
  · cases k with
    | ellipticCurve curve f => exact h.verify hk _ _ e he
    | other => cases he; rfl

theorem verifySessionSignatureMldsa_raises (h : v.libs.Ordinary) {key : MlDsaPublicKey}
    {signature payload : Bytes} :
    Raises .exception (verifySessionSignatureMldsa v.libs key signature payload) := by
  refine .wrapAs (fun e he => ?_) fun _ => signatureFailure_isinstance
  rcases bind_eq_error.mp he with he | ⟨handle, hh, he⟩
  · exact h.parseWithoutSecret _ e he
  · exact Raises.bind (.raiseIf rfl) (fun _ => .bind (h.primitive hh) fun _ => .raiseIf rfl) e he

/-- What `validate` raises is derived from `Exception`, where its libraries' exceptions are. -/
theorem validate_raises (h : v.libs.Ordinary) {response : AttestConnectionResponse}
    {tlsEkm : Bytes} {nonce : Option Bytes} :
    Raises .exception (validate v response tlsEkm nonce) :=
  .bind failIf_raises fun _ => .bind extractGcaBundle_raises fun _ =>
  .bind failIf_raises fun _ => .bind (validateOidcToken_raises h) fun _ =>
  .bind (enforcePolicy_raisesOnly.raises rfl) fun _ => .bind failIf_raises fun _ =>
  .bind failIf_raises fun _ => .bind verifyInstanceKeyBinding_raises fun _ =>
  .bind failIf_raises fun _ => .bind failIf_raises fun _ =>
  .bind (verifySessionSignature_raises h) fun _ => verifySessionSignatureMldsa_raises h

end

end PromptEncryption.Client
