import PromptEncryption.Client.Attested

/-!
# Client — what the two session signatures vouch for

`validate` accepts a response whose two session signatures verify.  Under which keys they verify
depends on what the libraries load: a curve for the ECDSA key, and for the ML-DSA keyset its keys
in order, each with its type and whether it is enabled (`Brings`).

* `verifySessionSignature_eq_ok`, `verifySessionSignatureMldsa_eq_ok`: what each check asks.
* `vouched_iff`: every accepted response with keys of one shape is vouched for by a P-256 key and an
  ML-DSA key exactly where no response of the shape is accepted, or the curve is P-256 and every
  enabled key of the keyset is an ML-DSA key.
* `accepted_unvouched`: a curve that is not P-256, and a keyset with a disabled ML-DSA key.
-/

namespace PromptEncryption.Client
open Python

/-- The name `cryptography` gives the curve P-256. -/
def p256 : String := "secp256r1"

/-- The type and the status of a key. -/
def KeysetKey.shape (k : KeysetKey) : String × Bool := (k.typeUrl, k.enabled)

/-! ### What each check asks -/

section
variable {libs : Libraries} {signature payload : Bytes}

theorem KeysetHandle.verify_eq_ok {h : KeysetHandle} :
    h.verify signature payload = .ok () ↔
      ∃ k ∈ h.keys, k.enabled = true ∧ k.verifies signature payload = true := by
  rw [KeysetHandle.verify, raiseIf_eq_ok, Bool.not_eq_false, List.any_eq_true]
  simp only [Bool.and_eq_true]

/-- Any elliptic-curve key is asked, on whatever curve. -/
theorem verifySessionSignature_eq_ok {key : EcdsaP256PublicKey} :
    verifySessionSignature libs key signature payload = .ok () ↔
      ∃ curve verify, libs.loadPemPublicKey key.keyBytes = .ok (.ellipticCurve curve verify) ∧
        verify signature payload = .ok () := by
  rw [verifySessionSignature, wrapAs_eq_ok, bind_eq_ok]
  constructor
  · rintro ⟨loaded, hload, h⟩
    cases loaded with
    | ellipticCurve curve verify => exact ⟨curve, verify, hload, h⟩
    | other => cases h
  · rintro ⟨curve, verify, hload, h⟩
    exact ⟨_, hload, h⟩

/-- The key type is asked of one key, the signature of another. -/
theorem verifySessionSignatureMldsa_eq_ok {key : MlDsaPublicKey} :
    verifySessionSignatureMldsa libs key signature payload = .ok () ↔
      ∃ handle, libs.parseWithoutSecret key.serializedPublicKeyset = .ok handle ∧
        (∃ k ∈ handle.keys, k.typeUrl = ML_DSA_PUBLIC_KEY_TYPE_URL) ∧
        handle.primitive = .ok () ∧
        ∃ k ∈ handle.keys, k.enabled = true ∧ k.verifies signature payload = true := by
  simp only [verifySessionSignatureMldsa, wrapAs_eq_ok, bind_eq_ok, exists_unit, raiseIf_eq_ok,
    Bool.not_eq_false, List.any_eq_true, beq_iff_eq, KeysetHandle.verify_eq_ok]

end

/-! ### The shape of the keys -/

/-- The keys a response brings: an elliptic-curve key on `curve`, and a keyset whose keys have the
types and the statuses `shape`. -/
structure Brings (libs : Libraries) (response : AttestConnectionResponse) (curve : String)
    (shape : List (String × Bool)) : Prop where
  ecdsa : ∃ verify, libs.loadPemPublicKey response.instancePublicKey.keyBytes =
    .ok (.ellipticCurve curve verify)
  pqc : ∃ handle, libs.parseWithoutSecret response.pqcPublicKey.serializedPublicKeyset =
    .ok handle ∧ handle.keys.map KeysetKey.shape = shape

/-- Both signatures are valid ones of the session payload: under a P-256 key, and under an ML-DSA
key of the keyset. -/
structure Vouched (libs : Libraries) (response : AttestConnectionResponse) (payload : Bytes) :
    Prop where
  ecdsa : ∃ verify, libs.loadPemPublicKey response.instancePublicKey.keyBytes =
    .ok (.ellipticCurve p256 verify) ∧ verify response.sessionSignature payload = .ok ()
  pqc : ∃ handle, libs.parseWithoutSecret response.pqcPublicKey.serializedPublicKeyset =
    .ok handle ∧ ∃ k ∈ handle.keys, k.typeUrl = ML_DSA_PUBLIC_KEY_TYPE_URL ∧
      k.verifies response.pqcSessionSignature payload = true

/-- Every response accepted with keys of this shape is vouched for. -/
def AlwaysVouched (curve : String) (shape : List (String × Bool)) : Prop :=
  ∀ v response tlsEkm nonce token, Brings v.libs response curve shape →
    validate v response tlsEkm nonce = .ok () → extractGcaBundle response.evidence = .ok ⟨token⟩ →
    Vouched v.libs response (sessionPayload token tlsEkm)

/-! ### A response of each shape -/

/-- `sampleLibs`, with an ECDSA key on the curve and keys of the shape, of which those of the types
`verifies` verify. -/
def shapedLibs (curve : String) (shape : List (String × Bool)) (verifies : String → Bool) :
    Libraries :=
  { sampleLibs with
    loadPemPublicKey := fun _ => .ok (.ellipticCurve curve fun _ _ => .ok ())
    parseWithoutSecret := fun _ =>
      .ok ⟨shape.map fun key => ⟨key.1, key.2, fun _ _ => verifies key.1⟩, .ok ()⟩ }

section
variable {curve : String} {shape : List (String × Bool)} {verifies : String → Bool}

theorem shapedLibs_brings (curve : String) (shape : List (String × Bool))
    (verifies : String → Bool) :
    Brings (shapedLibs curve shape verifies) sampleResponse curve shape where
  ecdsa := ⟨_, rfl⟩
  pqc := by
    refine ⟨_, rfl, ?_⟩
    rw [List.map_map]
    exact List.map_id shape

/-- The response is accepted where some key is an ML-DSA key and some enabled key verifies. -/
theorem shapedLibs_accepts (curve : String)
    (hmldsa : ∃ key ∈ shape, key.1 = ML_DSA_PUBLIC_KEY_TYPE_URL)
    (henabled : ∃ key ∈ shape, key.2 = true ∧ verifies key.1 = true) :
    validate ⟨some {}, shapedLibs curve shape verifies⟩ sampleResponse [] none = .ok () := by
  obtain ⟨token, claims, h⟩ := validate_eq_ok.mp sampleResponse_valid
  refine validate_eq_ok.mpr ⟨token, claims, h.evidence, h.token_ne, h.claims_eq, h.policy,
    h.ecdsa_ne, h.pqc_ne, h.bound, h.signature_ne, h.pqcSignature_ne, ?_, ?_⟩
  · exact verifySessionSignature_eq_ok.mpr ⟨curve, _, rfl, rfl⟩
  · obtain ⟨key, hkey, htype⟩ := hmldsa
    obtain ⟨key', hkey', hon, hverifies⟩ := henabled
    exact verifySessionSignatureMldsa_eq_ok.mpr ⟨_, rfl,
      ⟨_, List.mem_map_of_mem hkey, htype⟩, rfl, _, List.mem_map_of_mem hkey', hon, hverifies⟩

/-- The signatures of the response are vouched for on P-256, where ML-DSA keys verify. -/
theorem shapedLibs_vouched {payload : Bytes}
    (h : Vouched (shapedLibs curve shape verifies) sampleResponse payload) :
    curve = p256 ∧ verifies ML_DSA_PUBLIC_KEY_TYPE_URL = true := by
  obtain ⟨⟨verify, hload, -⟩, handle, hparse, k, hk, htype, hverifies⟩ := h
  refine ⟨(PemPublicKey.ellipticCurve.inj (Except.ok.inj hload)).1, ?_⟩
  obtain rfl := Except.ok.inj hparse
  obtain ⟨key, -, rfl⟩ := List.mem_map.mp hk
  rwa [← htype]

/-- A shape that is always vouched for is so where only keys of the types `verifies` verify. -/
theorem AlwaysVouched.of_accepts (h : AlwaysVouched curve shape) (verifies : String → Bool)
    (hmldsa : ∃ key ∈ shape, key.1 = ML_DSA_PUBLIC_KEY_TYPE_URL)
    (henabled : ∃ key ∈ shape, key.2 = true ∧ verifies key.1 = true) :
    curve = p256 ∧ verifies ML_DSA_PUBLIC_KEY_TYPE_URL = true := by
  have haccepts := shapedLibs_accepts curve hmldsa henabled
  exact shapedLibs_vouched (h ⟨some {}, shapedLibs curve shape verifies⟩ sampleResponse [] none "T"
    (shapedLibs_brings curve shape verifies) haccepts rfl)

/-! ### Which shapes are safe -/

/-- **What acceptance means.**  Every response accepted with keys of one shape is vouched for by a
P-256 key and by an ML-DSA key exactly where the keyset lists no ML-DSA key, or has no enabled key
(and nothing is accepted), or where the curve is P-256 and every enabled key is an ML-DSA key. -/
theorem vouched_iff (curve : String) (shape : List (String × Bool)) :
    AlwaysVouched curve shape ↔
      (∀ key ∈ shape, key.1 ≠ ML_DSA_PUBLIC_KEY_TYPE_URL) ∨ (∀ key ∈ shape, key.2 = false) ∨
        (curve = p256 ∧ ∀ key ∈ shape, key.2 = true → key.1 = ML_DSA_PUBLIC_KEY_TYPE_URL) := by
  constructor
  · intro halways
    by_contra hnot
    simp only [not_or, not_forall, not_and, Bool.not_eq_false, ne_eq, not_not, exists_prop] at hnot
    obtain ⟨hmldsa, ⟨on, hon, henabled⟩, hother⟩ := hnot
    by_cases hcurve : curve = p256
    · -- an enabled key of another type verifies, and no ML-DSA key does
      obtain ⟨key, hkey, hkeyOn, htype⟩ := hother hcurve
      have hverifies : (key.1 != ML_DSA_PUBLIC_KEY_TYPE_URL) = true := bne_iff_ne.mpr htype
      have hmldsaVerifies := (halways.of_accepts (fun type => type != ML_DSA_PUBLIC_KEY_TYPE_URL)
        hmldsa ⟨key, hkey, hkeyOn, hverifies⟩).2
      simp at hmldsaVerifies
    · -- every key verifies
      exact hcurve (halways.of_accepts (fun _ => true) hmldsa ⟨on, hon, henabled, rfl⟩).1
  · intro hsafe v response tlsEkm nonce token hbrings hvalid hevidence
    obtain ⟨token', claims, h⟩ := validate_eq_ok.mp hvalid
    obtain rfl : token' = token := by
      cases hevidence.symm.trans h.evidence
      rfl
    obtain ⟨curve', verify, hload, hverify⟩ := verifySessionSignature_eq_ok.mp h.signature
    obtain ⟨handle, hparse, ⟨k, hk, htype⟩, -, k', hk', hon, hverifies⟩ :=
      verifySessionSignatureMldsa_eq_ok.mp h.pqcSignature
    obtain ⟨verify', hload'⟩ := hbrings.ecdsa
    obtain ⟨handle', hparse', rfl⟩ := hbrings.pqc
    cases hload.symm.trans hload'
    cases hparse.symm.trans hparse'
    have hmem : ∀ x ∈ handle.keys, x.shape ∈ handle.keys.map KeysetKey.shape :=
      fun x hx => List.mem_map_of_mem hx
    rcases hsafe with hnone | hoff | ⟨rfl, hall⟩
    · exact absurd htype (hnone _ (hmem k hk))
    · cases (hoff _ (hmem k' hk')).symm.trans hon
    · exact ⟨⟨verify, hload, hverify⟩, handle, hparse, k', hk', hall _ (hmem k' hk') hon, hverifies⟩

end

/-! ### Two responses -/

/-- The type of Tink's ECDSA keys. -/
def ecdsaTypeUrl : String := "type.googleapis.com/google.crypto.tink.EcdsaPublicKey"

/-- A keyset with an ML-DSA key that is disabled, beside an ECDSA key that is enabled. -/
def mixedKeyset : List (String × Bool) :=
  [(ML_DSA_PUBLIC_KEY_TYPE_URL, false), (ecdsaTypeUrl, true)]

/-- Libraries where the ECDSA key is on P-256 and no ML-DSA key verifies anything. -/
def mixedLibs : Libraries := shapedLibs p256 mixedKeyset fun type => type == ecdsaTypeUrl

/-- Libraries where the ECDSA key is on P-384 and verifies. -/
def p384Libs : Libraries :=
  shapedLibs "secp384r1" [(ML_DSA_PUBLIC_KEY_TYPE_URL, true)] fun _ => true

/-- Two accepted responses that are not vouched for. -/
theorem accepted_unvouched :
    (validate ⟨some {}, mixedLibs⟩ sampleResponse [] none = .ok () ∧
      ¬ Vouched mixedLibs sampleResponse (sessionPayload "T" [])) ∧
    (validate ⟨some {}, p384Libs⟩ sampleResponse [] none = .ok () ∧
      ¬ Vouched p384Libs sampleResponse (sessionPayload "T" [])) := by
  refine ⟨⟨?_, fun h => ?_⟩, ?_, fun h => ?_⟩
  · exact shapedLibs_accepts p256 ⟨_, List.mem_cons_self, rfl⟩
      ⟨_, List.mem_cons_of_mem _ List.mem_cons_self, rfl, beq_self_eq_true _⟩
  · have hverifies := (shapedLibs_vouched h).2
    simp [ML_DSA_PUBLIC_KEY_TYPE_URL, ecdsaTypeUrl] at hverifies
  · exact shapedLibs_accepts "secp384r1" ⟨_, List.mem_cons_self, rfl⟩
      ⟨_, List.mem_cons_self, rfl, rfl⟩
  · have hcurve := (shapedLibs_vouched h).1
    simp [p256] at hcurve

end PromptEncryption.Client
