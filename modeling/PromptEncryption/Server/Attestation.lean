import PromptEncryption.Proto.Messages
import PromptEncryption.Server.Store

/-!
# Server — answering an attestation request

`AttestedTLS.attest_connection` (`server/attestation.py`), as a program over the key and token
files.  The keying material of the TLS session comes from the standard library's exporter, or from
the SDK's own where that one is missing or fails (`SslObject`).

* `evalBody_attestConnection`: by itself, a call returns exactly the responses of its transcripts
  (`Transcript`): what it read, what it was answered, and the payload it had signed.
-/

namespace PromptEncryption.Server
open Python Programs

/-! ### Keying material -/

/-- `_EKM_LABEL`. -/
def ekmLabel : Bytes := Bytes.encodeUtf8 "EXPORTER-Prompt-Encryption-SDK"

/-- What the code asks of the TLS object of a connection. -/
structure SslObject where
  /-- `ssl_obj.export_keying_material(label, length, context)`, where the object has it. -/
  exportKeyingMaterial : Option (Bytes → Nat → Bytes → Except Exc (Option Bytes))
  /-- `exporter.export_keying_material(length, label, context)`, at `_sslobj` or the object. -/
  exporter : Nat → Bytes → Bytes → Except Exc (Option Bytes)

/-- The standard library's keying material, with the exception it raised if it did. -/
def exportByStandardLibrary (nonce : Bytes) (sslObj : SslObject) :
    Except Exc (Option Bytes × Option Exc) :=
  match sslObj.exportKeyingMaterial with
  | none => .ok (none, none)
  | some exportKeyingMaterial =>
      match exportKeyingMaterial ekmLabel 32 nonce with
      | .ok ekmBytes => .ok (ekmBytes, none)
      | .error e => if e.isinstance .exception then .ok (none, some e) else .error e

def ekmExtractionFailed (firstEkmException : Option Exc) : Exc :=
  match firstEkmException with
  | some _ => ⟨.runtimeError, [.text "EKM extraction failed. The initial attempt using",
      .text " ssl_obj.export_keying_material failed."]⟩
  | none => ⟨.runtimeError, [.text "EKM extraction failed. Both ssl_obj.export_keying_material and",
      .text " the fallback exporter failed to extract keying material."]⟩

/-- The SDK's exporter, where the standard library's gave nothing. -/
def exportByFallback (nonce : Bytes) (sslObj : SslObject) (ekmBytes : Option Bytes) :
    Except Exc (Option Bytes) :=
  match ekmBytes with
  | some b => .ok (some b)
  | none => sslObj.exporter 32 ekmLabel nonce

/-- The first part of `attest_connection`, up to the keying material. -/
def extractEkm (nonce : Bytes) (sslObj : SslObject) : Except Exc Bytes := do
  let (first, firstEkmException) ← exportByStandardLibrary nonce sslObj
  let ekmBytes ← exportByFallback nonce sslObj first
  match ekmBytes with
  | some b => .ok b
  | none => .error (ekmExtractionFailed firstEkmException)

/-! ### The call -/

/-- The check of the verifier types asked for. -/
def requireSupported (required : List VerifierType) : Except Exc Unit :=
  forM required fun verifierType =>
    raiseIf (verifierType ≠ .gca) ⟨.valueError, [.text "Unsupported verifier types requested: ",
      .str (.list (required.map fun v => .int v.number))]⟩

/-- `attestation_token.decode("utf-8")`. -/
def decodeToken (token : Bytes) : Except Exc String :=
  match Bytes.decodeUtf8 token with
  | some text => .ok text
  | none => .error ⟨.unicodeDecodeError, []⟩

/-- The payload both keys sign. -/
def signedPayload (ekmBytes attestationToken : Bytes) : Bytes :=
  (SessionSignaturePayload.mk (Bytes.sha256 ekmBytes)
    (Bytes.sha256 attestationToken)).serializeToString

/-- `attest_connection`. -/
def attestConnection (request : AttestConnectionRequest) (sslObj : SslObject) :
    Action AttestConnectionResponse := do
  lift (raiseIf (request.requiredVerifierType = []) ⟨.valueError,
    [.text "At least one required_verifier_type must be specified."]⟩)
  let ekmBytes ← lift (extractEkm request.nonce sslObj)
  let (ecdsaPub, pqcPub, attestationToken) ← getIdentitySnapshot
  let payload := signedPayload ekmBytes attestationToken
  let ecdsaSignature ← signPayload payload
  let pqcSignature ← signPayloadMldsa payload
  lift (requireSupported request.requiredVerifierType)
  let tokenText ← lift (decodeToken attestationToken)
  return {
    evidence := [{ verifierType := .gca, trustBundle := some { attestationToken := tokenText } }]
    instancePublicKey := { keyBytes := ecdsaPub }
    sessionSignature := ecdsaSignature
    pqcPublicKey := { serializedPublicKeyset := pqcPub }
    pqcSessionSignature := pqcSignature }

/-! ### What a call returned -/

/-- What a call read and was answered. -/
structure Transcript where
  ekm : Bytes
  /-- The contents of the files, each as the call read it. -/
  files : Identity
  signature : Bytes
  pqcSignature : Bytes
  tokenText : String

def Transcript.payload (t : Transcript) : Bytes := signedPayload t.ekm t.files.token

def Transcript.response (t : Transcript) : AttestConnectionResponse where
  evidence := [{ verifierType := .gca, trustBundle := some { attestationToken := t.tokenText } }]
  instancePublicKey := { keyBytes := t.files.ecdsa.pub }
  sessionSignature := t.signature
  pqcPublicKey := { serializedPublicKeyset := t.files.pqc.pub }
  pqcSessionSignature := t.pqcSignature

/-- `t` is the transcript of a call on the store `s` that nothing failed in. -/
structure Transcript.Of (t : Transcript) (env : ServerEnv) (request : AttestConnectionRequest)
    (sslObj : SslObject) (s : Store) : Prop where
  required : request.requiredVerifierType ≠ [] ∧ ∀ v ∈ request.requiredVerifierType, v = .gca
  ekm : extractEkm request.nonce sslObj = .ok t.ekm
  reads : ∀ f, env.readFault f = none
  publicKey : s .publicKey = some t.files.ecdsa.pub
  pqcPublicKey : s .pqcPublicKey = some t.files.pqc.pub
  token : (s .attestationToken).getD [] = t.files.token
  privateKey : s .privateKey = some t.files.ecdsa.priv
  pqcPrivateKey : s .pqcPrivateKey = some t.files.pqc.priv
  signature : env.answer (.signEcdsa t.files.ecdsa.priv t.payload) = .ok t.signature
  pqcSignature : env.answer (.signMldsa t.files.pqc.priv t.payload) = .ok t.pqcSignature
  tokenText : Bytes.decodeUtf8 t.files.token = some t.tokenText

/-- On files that are all of one identity, a transcript is of that identity. -/
theorem Transcript.Of.files_eq {t : Transcript} {env : ServerEnv}
    {request : AttestConnectionRequest} {sslObj : SslObject} {s : Store} {i : Identity}
    (h : t.Of env request sslObj s) (hs : ∀ f, s f = some (i.content f)) : t.files = i := by
  have hpriv := (hs .privateKey).symm.trans h.privateKey
  have hpub := (hs .publicKey).symm.trans h.publicKey
  have hpqcPriv := (hs .pqcPrivateKey).symm.trans h.pqcPrivateKey
  have hpqcPub := (hs .pqcPublicKey).symm.trans h.pqcPublicKey
  have htoken := h.token
  rw [hs .attestationToken] at htoken
  obtain ⟨ekm, ⟨⟨priv, pub⟩, ⟨pqcPriv, pqcPub⟩, token⟩, signature, pqcSignature, text⟩ := t
  simp only [Option.some.injEq, Identity.content] at hpriv hpub hpqcPriv hpqcPub
  simp only [Identity.content, Option.getD_some] at htoken
  subst hpriv hpub hpqcPriv hpqcPub htoken
  rfl

theorem requireSupported_eq_ok {required : List VerifierType} :
    requireSupported required = .ok () ↔ ∀ v ∈ required, v = .gca := by
  simp [requireSupported, forM_eq_ok]

theorem decodeToken_eq_ok {token : Bytes} {text : String} :
    decodeToken token = .ok text ↔ Bytes.decodeUtf8 token = some text := by
  rw [decodeToken]
  cases Bytes.decodeUtf8 token <;> simp

/-- **By itself, a call returns the responses of its transcripts, and changes no file.** -/
theorem evalBody_attestConnection {env : ServerEnv} {request : AttestConnectionRequest}
    {sslObj : SslObject} {s s' : Store} {response : AttestConnectionResponse}
    (hf : ∀ e, env.readFault .attestationToken = some e →
      e.isinstance .fileNotFoundError = false) :
    evalBody env (attestConnection request sslObj) s = (.ok response, s') ↔
      s' = s ∧ ∃ t : Transcript, t.Of env request sslObj s ∧ t.response = response := by
  simp only [attestConnection, signPayload, signPayloadMldsa, signEcdsa, signMldsa,
    evalBody_bind_ok, evalBody_lift, evalBody_readFile, evalBody_ask, evalBody_pure,
    Prod.exists, evalBody_getIdentitySnapshot hf, Prod.mk.injEq, exists_unit, raiseIf_eq_ok,
    requireSupported_eq_ok, decodeToken_eq_ok]
  constructor
  · rintro ⟨_, ⟨h₁, rfl⟩, ekm, _, ⟨h₂, rfl⟩, pub, pqcPub, token, _, ⟨⟨r₁, r₂, r₃⟩, h₃, h₄, h₅, rfl⟩,
      sig, _, ⟨priv, _, ⟨r₄, h₆, rfl⟩, h₇, rfl⟩, pqcSig, _, ⟨pqcPriv, _, ⟨r₅, h₈, rfl⟩, h₉, rfl⟩,
      _, ⟨h₁₀, rfl⟩, text, _, ⟨h₁₁, rfl⟩, h₁₂, rfl⟩
    refine ⟨rfl, ⟨ekm, ⟨⟨priv, pub⟩, ⟨pqcPriv, pqcPub⟩, token⟩, sig, pqcSig, text⟩, ?_, ?_⟩
    · exact ⟨⟨h₁, h₁₀⟩, h₂, fun f => by cases f <;> assumption, h₃, h₄, h₅, h₆, h₈, h₇, h₉, h₁₁⟩
    · exact Except.ok.inj h₁₂
  · rintro ⟨rfl, t, h, rfl⟩
    exact ⟨_, ⟨h.required.1, rfl⟩, t.ekm, _, ⟨h.ekm, rfl⟩, _, _, _, _,
      ⟨⟨h.reads .publicKey, h.reads .pqcPublicKey, h.reads .attestationToken⟩,
        h.publicKey, h.pqcPublicKey, h.token, rfl⟩,
      t.signature, _, ⟨_, _, ⟨h.reads .privateKey, h.privateKey, rfl⟩, h.signature, rfl⟩,
      t.pqcSignature, _, ⟨_, _, ⟨h.reads .pqcPrivateKey, h.pqcPrivateKey, rfl⟩, h.pqcSignature, rfl⟩,
      _, ⟨h.required.2, rfl⟩, t.tokenText, _, ⟨h.tokenText, rfl⟩, rfl, rfl⟩

/-! ### What a call has signed -/

/-- **The one payload a call has signed with the ECDSA key.**  It is over the keying material of
its own session and nonce and over the token of the store, or none, with the key the store holds. -/
theorem signEcdsa_of_asked {env : ServerEnv} {request : AttestConnectionRequest}
    {sslObj : SslObject} {s : Store} {key payload : Bytes}
    (h : .signEcdsa key payload ∈ askedBody env (attestConnection request sslObj) s) :
    ∃ ekm token, extractEkm request.nonce sslObj = .ok ekm ∧ s .privateKey = some key ∧
      (token = [] ∨ s .attestationToken = some token) ∧ payload = signedPayload ekm token := by
  simp only [attestConnection, signPayload, signPayloadMldsa, signEcdsa, signMldsa,
    mem_askedBody_bind, askedBody_readFile, askedBody_getIdentitySnapshot, askedBody_lift,
    askedBody_ask, askedBody_pure, evalBody_lift, evalBody_readFile, Prod.exists, Prod.mk.injEq,
    List.not_mem_nil, List.mem_singleton, reduceCtorEq, false_or, and_false, exists_false,
    or_false] at h
  -- only the first signing call asks for an ECDSA signature
  obtain ⟨_, _, ⟨-, rfl⟩, ekm, _, ⟨hekm, rfl⟩, pub, pqcPub, token, _, hsnapshot, priv, _,
    ⟨-, hpriv, rfl⟩, hq⟩ := h
  obtain ⟨rfl, htoken⟩ := token_of_getIdentitySnapshot hsnapshot
  cases hq
  exact ⟨ekm, token, hekm, hpriv, htoken, rfl⟩

/-- A call that nothing failed in has its payload signed. -/
theorem Transcript.Of.asked {t : Transcript} {env : ServerEnv} {request : AttestConnectionRequest}
    {sslObj : SslObject} {s : Store} (h : t.Of env request sslObj s) :
    .signEcdsa t.files.ecdsa.priv t.payload ∈
      askedBody env (attestConnection request sslObj) s := by
  have hfault : ∀ e, env.readFault .attestationToken = some e →
      e.isinstance .fileNotFoundError = false := by simp [h.reads]
  refine mem_askedBody_bind.mpr (.inr ⟨(), s, congrArg (·, s) (raiseIf_eq_ok.mpr h.required.1), ?_⟩)
  refine mem_askedBody_bind.mpr (.inr ⟨t.ekm, s, congrArg (·, s) h.ekm, ?_⟩)
  refine mem_askedBody_bind.mpr
    (.inr ⟨(t.files.ecdsa.pub, t.files.pqc.pub, t.files.token), s, ?_, ?_⟩)
  · exact (evalBody_getIdentitySnapshot hfault).mpr
      ⟨⟨h.reads _, h.reads _, h.reads _⟩, h.publicKey, h.pqcPublicKey, h.token, rfl⟩
  · refine mem_askedBody_bind.mpr
      (.inl (mem_askedBody_bind.mpr (.inr ⟨t.files.ecdsa.priv, s, ?_, ?_⟩)))
    · exact evalBody_readFile.mpr ⟨h.reads _, h.privateKey, rfl⟩
    · exact List.mem_singleton_self _

/-! ### What a call changes -/

theorem readFile_readOnly (f : File) : ReadOnlyBody (readFile f) := by
  refine .bind (.tryCatch (.readRaw f) fun _ => .lift _) ?_
  intro content
  cases content with
  | none => exact .lift _
  | some b => exact .lift _

theorem getIdentitySnapshot_readOnly : ReadOnlyBody getIdentitySnapshot := by
  have htoken : ReadOnlyBody readToken := by
    refine .bind (.tryCatch (.readRaw _) fun e => ?_) fun _ => .lift _
    split
    · exact .lift _
    · exact .lift _
  exact .withLock (.bind (readFile_readOnly _) fun _ => .bind (readFile_readOnly _) fun _ =>
    .bind htoken fun _ => .lift _)

/-- **A call changes no file**, whether it returns or raises. -/
theorem attestConnection_readOnly (request : AttestConnectionRequest) (sslObj : SslObject) :
    ReadOnlyBody (attestConnection request sslObj) :=
  .bind (.lift _) fun _ => .bind (.lift _) fun _ => .bind getIdentitySnapshot_readOnly fun _ =>
  .bind (.bind (readFile_readOnly _) fun _ => .ask _) fun _ =>
  .bind (.bind (readFile_readOnly _) fun _ => .ask _) fun _ =>
  .bind (.lift _) fun _ => .bind (.lift _) fun _ => .lift _

end PromptEncryption.Server
