import PromptEncryption.Support.Bytes

/-!
# Proto — the messages

`attestation.proto`.  A scalar field holds its default when it is not set, as proto3 readers see
it; a sub-message whose presence the code asks for (`HasField`, or the `trust_bundle` oneof) is
an `Option`.  Enums are open: a number the file does not name is kept.

`SessionSignaturePayload` is the one message whose bytes matter, since both ends sign or verify
its serialization: `serializeToString_inj` says the bytes determine the two digests.
-/

namespace PromptEncryption

/-! ### The attestation exchange -/

/-- `VerifierType`. -/
inductive VerifierType where
  | unspecified
  | gca
  | other (number : Int)
  deriving DecidableEq, Repr

/-- The enum's number, which is what Python prints. -/
def VerifierType.number : VerifierType → Int
  | .unspecified => 0
  | .gca => 1
  | .other n => n

structure AttestConnectionRequest where
  requiredVerifierType : List VerifierType := []
  nonce : Bytes := []
  deriving DecidableEq, Repr

structure GcaTrustBundle where
  attestationToken : String := ""
  deriving DecidableEq, Repr

structure AttestationEvidence where
  verifierType : VerifierType := .unspecified
  /-- The oneof `trust_bundle`; reading an unset `gca_bundle` gives the default bundle. -/
  trustBundle : Option GcaTrustBundle := none
  deriving DecidableEq, Repr

/-- `ev.gca_bundle`. -/
def AttestationEvidence.gcaBundle (ev : AttestationEvidence) : GcaTrustBundle :=
  ev.trustBundle.getD {}

structure EcdsaP256PublicKey where
  keyBytes : Bytes := []
  deriving DecidableEq, Repr

structure MlDsaPublicKey where
  serializedPublicKeyset : Bytes := []
  deriving DecidableEq, Repr

structure AttestConnectionResponse where
  evidence : List AttestationEvidence := []
  instancePublicKey : EcdsaP256PublicKey := {}
  sessionSignature : Bytes := []
  pqcPublicKey : MlDsaPublicKey := {}
  pqcSessionSignature : Bytes := []
  deriving DecidableEq, Repr

/-! ### The policy -/

/-- `HardwareModel`. -/
inductive HardwareModel where
  | unspecified
  | tdx
  | sev
  | sevSnp
  | other (number : Int)
  deriving DecidableEq, Repr

/-- The enum's number, which is what Python prints. -/
def HardwareModel.number : HardwareModel → Int
  | .unspecified => 0
  | .tdx => 1
  | .sev => 2
  | .sevSnp => 3
  | .other n => n

structure WorkloadPolicy where
  imageHash : String := ""
  signingKeyId : String := ""
  imageSignatures : List String := []
  deriving DecidableEq, Repr

structure GceInstancePolicy where
  projectId : String := ""
  zone : String := ""
  instanceId : String := ""
  instanceName : String := ""
  deriving DecidableEq, Repr

structure ConfidentialSpacePolicy where
  requireDebugDisabled : Bool := false
  requireSecboot : Bool := false
  supportAttributes : List String := []
  deriving DecidableEq, Repr

structure AttestationPolicy where
  hwModel : HardwareModel := .unspecified
  workload : Option WorkloadPolicy := none
  gceInstance : Option GceInstancePolicy := none
  confidentialSpace : Option ConfidentialSpacePolicy := none
  expectedAudience : String := ""
  deriving DecidableEq, Repr

/-! ### The signed payload -/

/-- A base-128 varint: seven bits a byte, least significant first; `fuel` bytes at most. -/
def varint : (fuel : Nat) → Nat → Bytes
  | 0, _ => []
  | fuel + 1, n =>
      if n < 128 then [UInt8.ofNat n] else UInt8.ofNat (n % 128 + 128) :: varint fuel (n / 128)

/-- A `bytes` field: omitted when empty, else its tag, its length and its bytes. -/
def bytesField (number : Nat) (b : Bytes) : Bytes :=
  if b = [] then [] else varint 10 (number * 8 + 2) ++ varint 10 b.length ++ b

structure SessionSignaturePayload where
  ekmHash : Bytes := []
  tokenHash : Bytes := []
  deriving DecidableEq, Repr

/-- `payload.SerializeToString()`. -/
def SessionSignaturePayload.serializeToString (p : SessionSignaturePayload) : Bytes :=
  bytesField 1 p.ekmHash ++ bytesField 2 p.tokenHash

theorem bytesField_of_length {number : Nat} {b : Bytes} (h : b.length = 32) :
    bytesField number b = varint 10 (number * 8 + 2) ++ [32] ++ b := by
  have hb : b ≠ [] := by rintro rfl; simp at h
  rw [bytesField, if_neg hb, h]
  rfl

/-- Two payloads of 32-byte digests with the same bytes hold the same digests. -/
theorem serializeToString_inj {e e' t t' : Bytes} (he : e.length = 32) (he' : e'.length = 32)
    (ht : t.length = 32) (ht' : t'.length = 32)
    (h : (SessionSignaturePayload.mk e t).serializeToString =
      (SessionSignaturePayload.mk e' t').serializeToString) : e = e' ∧ t = t' := by
  simp only [SessionSignaturePayload.serializeToString, bytesField_of_length he,
    bytesField_of_length he', bytesField_of_length ht, bytesField_of_length ht',
    List.append_assoc, List.append_cancel_left_eq] at h
  obtain ⟨h₁, h₂⟩ := List.append_inj h (he.trans he'.symm)
  simpa using And.intro h₁ h₂

end PromptEncryption
