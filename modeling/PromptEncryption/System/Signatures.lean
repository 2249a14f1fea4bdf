import PromptEncryption.Client.Validator
import PromptEncryption.Server.Attestation

/-!
# System — what is assumed of keys, signatures and tokens

The server's libraries and its token backend answer it as `Answers` says; the client verifies with
its own libraries.  What joins the two is assumed here, of the answers:

* `Signatures`: a signature made with a generated private key verifies under the matching public
  key and under no other generated one;
* `Tokens`: a fetched token is non-empty text and lists the nonces it was asked for; `ListsAsked`: it
  lists no others.

`toyAnswers` and `toyLibs` meet both (`toy_signatures`, `toy_tokens`): keys and tokens are numbered,
and a signature is the private key before the payload.
-/

namespace PromptEncryption
open Python Programs Server Client

/-- What the server may be answered. -/
abbrev Answers := (q : Question) → Answer q → Prop

/-- An environment that answers as `answers` says, and in which a file that exists is not reported
missing. -/
structure Obeys (answers : Answers) (env : ServerEnv) : Prop where
  answer : ∀ {q a}, env.answer q = .ok a → answers q a
  exists_ : ∀ {f e}, env.readFault f = some e → e.isinstance .fileNotFoundError = false

/-! ### Keys and signatures -/

/-- Signatures made with the private key of an ECDSA pair verify under its public key. -/
def EcdsaMatches (answers : Answers) (libs : Libraries) (k : KeyPair) : Prop :=
  ∀ payload sig, answers (.signEcdsa k.priv payload) sig →
    sig ≠ [] ∧ verifySessionSignature libs ⟨k.pub⟩ sig payload = .ok ()

/-- Signatures made with the private keyset of an ML-DSA pair verify under its public keyset. -/
def MldsaMatches (answers : Answers) (libs : Libraries) (k : KeyPair) : Prop :=
  ∀ payload sig, answers (.signMldsa k.priv payload) sig →
    sig ≠ [] ∧ verifySessionSignatureMldsa libs ⟨k.pub⟩ sig payload = .ok ()

/-- The signature schemes, at the keys the server generates. -/
structure Signatures (answers : Answers) (libs : Libraries) : Prop where
  ecdsa : ∀ {k}, answers .generateEcdsa k → EcdsaMatches answers libs k
  mldsa : ∀ {k}, answers .generateMldsa k → MldsaMatches answers libs k
  ecdsa_signs : ∀ {k}, answers .generateEcdsa k →
    ∀ payload, ∃ sig, answers (.signEcdsa k.priv payload) sig
  mldsa_signs : ∀ {k}, answers .generateMldsa k →
    ∀ payload, ∃ sig, answers (.signMldsa k.priv payload) sig
  ecdsa_only : ∀ {k k' payload sig}, answers .generateEcdsa k → answers .generateEcdsa k' →
    answers (.signEcdsa k.priv payload) sig →
    verifySessionSignature libs ⟨k'.pub⟩ sig payload = .ok () → k'.pub = k.pub
  mldsa_only : ∀ {k k' payload sig}, answers .generateMldsa k → answers .generateMldsa k' →
    answers (.signMldsa k.priv payload) sig →
    verifySessionSignatureMldsa libs ⟨k'.pub⟩ sig payload = .ok () → k'.pub = k.pub

/-- The token backend; `nonces` are the nonces a token lists. -/
structure Tokens (answers : Answers) (nonces : Bytes → List String) : Prop where
  nonces_eq : ∀ {ns audience token}, answers (.fetchToken ns audience) token → nonces token = ns
  nonempty : ∀ {ns audience token}, answers (.fetchToken ns audience) token → token ≠ []
  text : ∀ {ns audience token}, answers (.fetchToken ns audience) token →
    ∃ text, Bytes.decodeUtf8 token = some text

/-- A fetched token lists no nonce it was not asked for. -/
def ListsAsked (answers : Answers) (nonces : Bytes → List String) : Prop :=
  ∀ {ns audience token}, answers (.fetchToken ns audience) token → nonces token ⊆ ns

theorem Tokens.listsAsked {answers : Answers} {nonces : Bytes → List String}
    (h : Tokens answers nonces) : ListsAsked answers nonces :=
  fun hfetch => h.nonces_eq hfetch ▸ List.Subset.refl _

/-! ### A model of the assumptions -/

def toyEcdsa (i : UInt8) : KeyPair := ⟨[1, i], [2, i]⟩

def toyMldsa (i : UInt8) : KeyPair := ⟨[3, i], [4, i]⟩

/-- The nonces asked for in the `i`-th refresh. -/
def toyNonces (i : UInt8) : List String := fingerprints (toyEcdsa i) (toyMldsa i)

/-- The public keys of two toy refreshes. -/
def toyPublicKeys : List Bytes :=
  [(toyEcdsa 48).pub, (toyEcdsa 49).pub, (toyMldsa 48).pub, (toyMldsa 49).pub]

theorem toy_fingerprint_inj : ∀ a ∈ toyPublicKeys, ∀ b ∈ toyPublicKeys,
    calculateFingerprint a = calculateFingerprint b → a = b := by
  decide +kernel

/-- The fingerprint of the second ECDSA key is not asked for with the first keys. -/
theorem toy_fresh : calculateFingerprint (toyEcdsa 49).pub ∉ toyNonces 48 := by
  have hmem : (toyEcdsa 49).pub ∈ toyPublicKeys := List.mem_cons_of_mem _ List.mem_cons_self
  intro h
  rcases List.mem_pair.mp h with h | h
  · cases toy_fingerprint_inj _ hmem _ List.mem_cons_self h
  · cases toy_fingerprint_inj _ hmem _ (by simp [toyPublicKeys]) h

/-- Two refreshes: the `i`-th makes the pairs numbered `i` and is given the token `Ti`. -/
def toyAnswers : Answers
  | .generateEcdsa, k => k = toyEcdsa 48 ∨ k = toyEcdsa 49
  | .generateMldsa, k => k = toyMldsa 48 ∨ k = toyMldsa 49
  | .serializePublicKeyset, _ => True
  | .signEcdsa key payload, sig => sig = key ++ payload
  | .signMldsa key payload, sig => sig = key ++ payload
  | .fetchToken ns _, token =>
      ns = toyNonces 48 ∧ token = [84, 48] ∨ ns = toyNonces 49 ∧ token = [84, 49]

/-- The nonces a token lists. -/
def toyTokenNonces : Bytes → List String
  | [84, i] => toyNonces i
  | _ => []

/-- A signature is the private key before the payload. -/
def toyVerify (key sig payload : Bytes) : Except Exc Unit :=
  raiseIf (sig ≠ key ++ payload) ⟨.derived "InvalidSignature" .exception, []⟩

def toyLibs : Libraries where
  verifyAndDecode token _ :=
    .ok [("eat_nonce", .list ((toyTokenNonces (Bytes.encodeUtf8 token)).map .str))]
  loadPemPublicKey
    | [2, i] => .ok (.ellipticCurve "secp256r1" (toyVerify [1, i]))
    | _ => .error ⟨.valueError, []⟩
  parseWithoutSecret
    | [4, i] => .ok ⟨[⟨ML_DSA_PUBLIC_KEY_TYPE_URL, true, fun sig p => sig == [3, i] ++ p⟩], .ok ()⟩
    | _ => .error ⟨tinkError, []⟩

theorem toyLibs_ecdsa {i : UInt8} {sig payload : Bytes} :
    verifySessionSignature toyLibs ⟨(toyEcdsa i).pub⟩ sig payload = .ok () ↔
      sig = (toyEcdsa i).priv ++ payload := by
  rw [verifySessionSignature, wrapAs_eq_ok]
  exact raiseIf_eq_ok.trans not_not

theorem toyLibs_mldsa {i : UInt8} {sig payload : Bytes} :
    verifySessionSignatureMldsa toyLibs ⟨(toyMldsa i).pub⟩ sig payload = .ok () ↔
      sig = (toyMldsa i).priv ++ payload := by
  rw [verifySessionSignatureMldsa, wrapAs_eq_ok]
  simp [toyLibs, toyMldsa, KeysetHandle.verify]

theorem toy_signatures : Signatures toyAnswers toyLibs where
  ecdsa {k} hk payload sig hs := by
    obtain rfl : sig = k.priv ++ payload := hs
    rcases hk with rfl | rfl
    · exact ⟨by simp [toyEcdsa], toyLibs_ecdsa.mpr rfl⟩
    · exact ⟨by simp [toyEcdsa], toyLibs_ecdsa.mpr rfl⟩
  mldsa {k} hk payload sig hs := by
    obtain rfl : sig = k.priv ++ payload := hs
    rcases hk with rfl | rfl
    · exact ⟨by simp [toyMldsa], toyLibs_mldsa.mpr rfl⟩
    · exact ⟨by simp [toyMldsa], toyLibs_mldsa.mpr rfl⟩
  ecdsa_signs _ payload := ⟨_, rfl⟩
  mldsa_signs _ payload := ⟨_, rfl⟩
  ecdsa_only {k k' payload sig} hk hk' hs h := by
    obtain rfl : sig = k.priv ++ payload := hs
    rcases hk with rfl | rfl <;> rcases hk' with rfl | rfl
    · rfl
    · simpa [toyEcdsa] using toyLibs_ecdsa.mp h
    · simpa [toyEcdsa] using toyLibs_ecdsa.mp h
    · rfl
  mldsa_only {k k' payload sig} hk hk' hs h := by
    obtain rfl : sig = k.priv ++ payload := hs
    rcases hk with rfl | rfl <;> rcases hk' with rfl | rfl
    · rfl
    · simpa [toyMldsa] using toyLibs_mldsa.mp h
    · simpa [toyMldsa] using toyLibs_mldsa.mp h
    · rfl

theorem toy_tokens : Tokens toyAnswers toyTokenNonces where
  nonces_eq {ns audience token} h := by
    rcases h with ⟨rfl, rfl⟩ | ⟨rfl, rfl⟩ <;> rfl
  nonempty {ns audience token} h := by
    rcases h with ⟨rfl, rfl⟩ | ⟨rfl, rfl⟩ <;> simp
  text {ns audience token} h := by
    rcases h with ⟨rfl, rfl⟩ | ⟨rfl, rfl⟩
    · exact ⟨"T0", Bytes.utf8_decode_encode "T0"⟩
    · exact ⟨"T1", Bytes.utf8_decode_encode "T1"⟩

/-- The attempt that makes the pairs numbered `i`; its token fetch fails where `fetched` is false. -/
def toyAttempt (i : UInt8) (fetched : Bool) : ServerEnv where
  answer
    | .generateEcdsa => .ok (toyEcdsa i)
    | .generateMldsa => .ok (toyMldsa i)
    | .serializePublicKeyset => .ok ()
    | .signEcdsa key payload => .ok (key ++ payload)
    | .signMldsa key payload => .ok (key ++ payload)
    | .fetchToken ns _ =>
        if fetched = true ∧ ns = toyNonces i then .ok [84, i] else .error ⟨.runtimeError, []⟩
  readFault _ := none
  writeFault _ := none

theorem toyAttempt_obeys {i : UInt8} (hi : i = 48 ∨ i = 49) (fetched : Bool) :
    Obeys toyAnswers (toyAttempt i fetched) where
  answer {q a} h := by
    cases q with
    | generateEcdsa => cases h; rcases hi with rfl | rfl <;> simp [toyAnswers]
    | generateMldsa => cases h; rcases hi with rfl | rfl <;> simp [toyAnswers]
    | serializePublicKeyset => trivial
    | signEcdsa key payload => cases h; rfl
    | signMldsa key payload => cases h; rfl
    | fetchToken ns audience =>
        simp only [toyAttempt] at h
        split at h
        · rename_i hns
          cases h
          rcases hi with rfl | rfl
          · exact .inl ⟨hns.2, rfl⟩
          · exact .inr ⟨hns.2, rfl⟩
        · cases h
  exists_ h := by cases h

theorem toyAttempt_fetch (i : UInt8) (fetched : Bool) :
    (toyAttempt i fetched).answer (.fetchToken (toyNonces i) DEFAULT_AUDIENCE) =
      if fetched then .ok [84, i] else .error ⟨.runtimeError, []⟩ := by
  simp only [toyAttempt, and_true]

theorem toyAttempt_filesReplaced (i : UInt8) (fetched : Bool) :
    filesReplaced DEFAULT_AUDIENCE (toyAttempt i fetched) = if fetched then 5 else 4 := by
  refine (filesReplaced_of_fetch (toyAttempt i fetched) rfl (fun _ => rfl) (fun _ => rfl)
    (toyAttempt_fetch i fetched)).trans ?_
  cases fetched <;> rfl

theorem toyAttempt_identity (i : UInt8) :
    attemptIdentity DEFAULT_AUDIENCE (toyAttempt i true) = ⟨toyEcdsa i, toyMldsa i, [84, i]⟩ :=
  congrArg (fun x => Identity.mk (toyEcdsa i) (toyMldsa i) (answered x)) (toyAttempt_fetch i true)

/-- The identity numbered `i`. -/
def toyIdentity (i : UInt8) : Identity := ⟨toyEcdsa i, toyMldsa i, [84, i]⟩

/-- The files of the refresh numbered `i`. -/
def toyFiles (i : UInt8) : Store := fun f => some ((toyIdentity i).content f)

/-- The files of the refresh numbered 48. -/
def toyStore : Store := toyFiles 48

/-- A TLS object without the standard library's exporter. -/
def toySslObj : SslObject := ⟨none, fun _ _ _ => .ok (some [])⟩

/-- The response to `toyRequest`, with the keys and the token numbered `i` and signatures made with
the keys numbered `k`. -/
def toyResponse (i k : UInt8) : AttestConnectionResponse :=
  Transcript.response ⟨[], ⟨toyEcdsa i, toyMldsa i, [84, i]⟩,
    (toyEcdsa k).priv ++ signedPayload [] [84, i], (toyMldsa k).priv ++ signedPayload [] [84, i], "T0"⟩

end PromptEncryption
