import PromptEncryption.Proto.Messages
import PromptEncryption.Support.Python

/-!
# Client — exceptions and constants

`client/exceptions.py` and the constants of `client/constants.py` the modelled functions read.
-/

namespace PromptEncryption.Client
open Python

/-! ### Exceptions -/

abbrev promptEncryptionError : ExcClass := .derived "PromptEncryptionError" .exception

abbrev attestationHandshakeError : ExcClass :=
  .derived "AttestationHandshakeError" promptEncryptionError

abbrev attestationVerificationError : ExcClass :=
  .derived "AttestationVerificationError" promptEncryptionError

abbrev policyViolationError : ExcClass := .derived "PolicyViolationError" promptEncryptionError

/-! ### Constants -/

def ATTESTATION_ENDPOINT : String := "/_attest-connection"

/-- `b"EXPORTER-Prompt-Encryption-SDK"`. -/
def EKM_LABEL : Bytes := Bytes.encodeUtf8 "EXPORTER-Prompt-Encryption-SDK"

def EKM_LENGTH : Nat := 32

def DEFAULT_REVALIDATION_TIMEOUT : Nat := 3300

def NONCE_LENGTH : Nat := 32

def DEFAULT_AUDIENCE : String := "https://sts.google.com"

def ML_DSA_PUBLIC_KEY_TYPE_URL : String :=
  "type.googleapis.com/google.crypto.tink.MlDsaPublicKey"

end PromptEncryption.Client
