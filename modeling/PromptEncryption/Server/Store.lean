import PromptEncryption.Support.Python
import PromptEncryption.Support.Bytes
import PromptEncryption.Support.Programs

/-!
# Server — the key and token files

`KeyManager` (`server/keys.py`), `TokenManager.refresh` and `TokenManager.get_identity_snapshot`
(`server/token.py`), over `write_file` and `read_file` (`server/common.py`), as programs over the
five files.  `write_file` replaces its file or raises with the file as it was.

Key generation, signing and the token backend answer questions (`Question`).

* `evalBody_refresh`: a refresh replaces the first files in the order it writes them, with the
  keys and the token of its own making (`attemptIdentity`), as many as `filesReplaced` says, and
  returns exactly where it replaced all five.
-/

namespace PromptEncryption.Server
open Python Programs

/-! ### Files and questions -/

inductive File where
  | privateKey
  | publicKey
  | pqcPrivateKey
  | pqcPublicKey
  | attestationToken
  deriving DecidableEq, Repr

/-- The default paths. -/
def File.path : File → String
  | .privateKey => "/dev/shm/private_key.pem"
  | .publicKey => "/dev/shm/public_key.pem"
  | .pqcPrivateKey => "/dev/shm/mldsa_private.bin"
  | .pqcPublicKey => "/dev/shm/mldsa_public.bin"
  | .attestationToken => "attestation_token.txt"

abbrev Store := Files File Bytes

/-- A serialized key pair: PEM texts, or Tink keysets. -/
structure KeyPair where
  priv : Bytes
  pub : Bytes
  deriving DecidableEq, Repr, Inhabited

/-- What the server asks of its libraries and of the token backend. -/
inductive Question where
  /-- `ec.generate_private_key(ec.SECP256R1())`, serialized. -/
  | generateEcdsa
  /-- `tink.new_keyset_handle(ML_DSA_65)`, serialized, with its public handle. -/
  | generateMldsa
  /-- `serialize_without_secret(pqc_public_handle)`, which returns what was generated. -/
  | serializePublicKeyset
  /-- `load_pem_private_key(key).sign(payload, ec.ECDSA(SHA256()))`. -/
  | signEcdsa (key payload : Bytes)
  /-- `parse(key).primitive(PublicKeySign).sign(payload)`. -/
  | signMldsa (key payload : Bytes)
  /-- `get_cs_token_bytes` or `get_cvm_token_bytes`. -/
  | fetchToken (nonces : List String) (audience : String)

abbrev Answer : Question → Type
  | .generateEcdsa => KeyPair
  | .generateMldsa => KeyPair
  | .serializePublicKeyset => Unit
  | .signEcdsa _ _ => Bytes
  | .signMldsa _ _ => Bytes
  | .fetchToken _ _ => Bytes

abbrev Action (α : Type) := Programs.Body File Bytes Exc Question Answer α

abbrev ServerEnv := Env File Exc Question Answer

def generateEcdsa : Action KeyPair := ask Question.generateEcdsa
def generateMldsa : Action KeyPair := ask Question.generateMldsa
def serializePublicKeyset : Action Unit := ask Question.serializePublicKeyset
def signEcdsa (key payload : Bytes) : Action Bytes := ask (Question.signEcdsa key payload)
def signMldsa (key payload : Bytes) : Action Bytes := ask (Question.signMldsa key payload)

/-- `_fetch_attestation_token`. -/
def fetchAttestationToken (fingerprints : List String) (audience : String) : Action Bytes :=
  ask (Question.fetchToken fingerprints audience)

/-! ### `common.py` -/

/-- `repr` of the path. -/
def File.pathRepr (f : File) : String := "PosixPath('" ++ f.path ++ "')"

def couldNotRead (f : File) : Exc :=
  ⟨.valueError, [.text "Could not read file: ", .text f.pathRepr]⟩

def couldNotWrite (f : File) : Exc :=
  ⟨.valueError, [.text "Could not write file atomically: ", .text f.pathRepr]⟩

/-- `read_file`. -/
def readFile (f : File) : Action Bytes := do
  let content ← tryCatch (readRaw f) fun err =>
    lift (.error (if err.isinstance .osError then couldNotRead f else err))
  match content with
  | some b => pure b
  | none => lift (.error (couldNotRead f))

/-- `write_file`. -/
def writeFile (f : File) (data : Bytes) : Action Unit :=
  tryCatch (replace f data) fun e =>
    lift (.error (if e.isinstance .exception then couldNotWrite f else e))

/-! ### `keys.py` -/

/-- `calculate_fingerprint`. -/
def calculateFingerprint (publicKey : Bytes) : String := Bytes.hex (Bytes.sha256 publicKey)

/-- `generate_key_pair`. -/
def generateKeyPair : Action Bytes := do
  let ecdsa ← generateEcdsa
  writeFile .privateKey ecdsa.priv
  writeFile .publicKey ecdsa.pub
  let pqc ← generateMldsa
  writeFile .pqcPrivateKey pqc.priv
  serializePublicKeyset
  writeFile .pqcPublicKey pqc.pub
  return ecdsa.pub

/-- `sign_payload`. -/
def signPayload (payload : Bytes) : Action Bytes := do
  let privateKeyBytes ← readFile .privateKey
  signEcdsa privateKeyBytes payload

/-- `sign_payload_mldsa`. -/
def signPayloadMldsa (payload : Bytes) : Action Bytes := do
  let pqcPrivateBytes ← readFile .pqcPrivateKey
  signMldsa pqcPrivateBytes payload

/-- `get_current_public_key`. -/
def getCurrentPublicKey : Action Bytes := readFile .publicKey

/-- `get_current_pqc_public_key`. -/
def getCurrentPqcPublicKey : Action Bytes := readFile .pqcPublicKey

/-! ### `token.py` -/

/-- `refresh`. -/
def refresh (audience : String) : Action Unit := withLock do
  let _ ← generateKeyPair
  let ecdsaPub ← getCurrentPublicKey
  let pqcPub ← getCurrentPqcPublicKey
  let attestationToken ←
    fetchAttestationToken [calculateFingerprint ecdsaPub, calculateFingerprint pqcPub] audience
  writeFile .attestationToken attestationToken

/-- The reading of the token file; a missing file reads as empty. -/
def readToken : Action Bytes := do
  let content ← tryCatch (readRaw .attestationToken) fun e =>
    if e.isinstance .fileNotFoundError then pure none else lift (.error e)
  return content.getD []

/-- `get_public_key`. -/
def getPublicKey : Action Bytes := withLock getCurrentPublicKey

/-- `get_pqc_public_key`. -/
def getPqcPublicKey : Action Bytes := withLock getCurrentPqcPublicKey

/-- `get_attestation_token`. -/
def getAttestationToken : Action Bytes := withLock readToken

/-- `get_identity_snapshot`. -/
def getIdentitySnapshot : Action (Bytes × Bytes × Bytes) := withLock do
  let ecdsaPub ← getCurrentPublicKey
  let pqcPub ← getCurrentPqcPublicKey
  let token ← readToken
  return (ecdsaPub, pqcPub, token)

/-! ### One call by itself -/

section
variable {env : ServerEnv} {s s' : Store}

theorem evalBody_readFile {f : File} {b : Bytes} :
    evalBody env (readFile f) s = (.ok b, s') ↔
      env.readFault f = none ∧ s f = some b ∧ s' = s := by
  simp only [readFile, evalBody_bind_ok, evalBody_tryCatch, evalBody_readRaw, Env.readAnswer]
  cases env.readFault f with
  | some e => simp
  | none =>
      cases s f with
      | none => simp
      | some c => simp [eq_comm]

/-- Reading a file that exists. -/
theorem evalBody_readFile_of_some {f : File} {b : Bytes} (h : s f = some b) :
    evalBody env (readFile f) s =
      match env.readFault f with
      | none => (.ok b, s)
      | some e => (.error (if e.isinstance .osError then couldNotRead f else e), s) := by
  rw [readFile, evalBody_bind, evalBody_tryCatch, evalBody_readRaw, Env.readAnswer, h]
  cases env.readFault f <;> rfl

theorem evalBody_readToken {b : Bytes}
    (hf : ∀ e, env.readFault .attestationToken = some e →
      e.isinstance .fileNotFoundError = false) :
    evalBody env readToken s = (.ok b, s') ↔
      env.readFault .attestationToken = none ∧ (s .attestationToken).getD [] = b ∧ s' = s := by
  simp only [readToken, evalBody_bind_ok, evalBody_tryCatch, evalBody_readRaw, Env.readAnswer]
  rcases Option.eq_none_or_eq_some (env.readFault .attestationToken) with h | ⟨e, h⟩
  · simp [h, eq_comm, and_comm]
  · simp [h, hf e h]

/-- The snapshot: the two public keys, and the token or nothing. -/
theorem evalBody_getIdentitySnapshot {ecdsaPub pqcPub token : Bytes}
    (hf : ∀ e, env.readFault .attestationToken = some e →
      e.isinstance .fileNotFoundError = false) :
    evalBody env getIdentitySnapshot s = (.ok (ecdsaPub, pqcPub, token), s') ↔
      (env.readFault .publicKey = none ∧ env.readFault .pqcPublicKey = none ∧
        env.readFault .attestationToken = none) ∧
      s .publicKey = some ecdsaPub ∧ s .pqcPublicKey = some pqcPub ∧
      (s .attestationToken).getD [] = token ∧ s' = s := by
  simp only [getIdentitySnapshot, getCurrentPublicKey, getCurrentPqcPublicKey, evalBody_withLock,
    evalBody_bind_ok, evalBody_readFile, evalBody_readToken hf, evalBody_pure]
  constructor
  · rintro ⟨_, _, ⟨h₁, h₂, rfl⟩, _, _, ⟨h₃, h₄, rfl⟩, _, _, ⟨h₅, h₆, rfl⟩, h⟩
    cases h
    exact ⟨⟨h₁, h₃, h₅⟩, h₂, h₄, h₆, rfl⟩
  · rintro ⟨⟨h₁, h₃, h₅⟩, h₂, h₄, h₆, rfl⟩
    exact ⟨_, _, ⟨h₁, h₂, rfl⟩, _, _, ⟨h₃, h₄, rfl⟩, _, _, ⟨h₅, h₆, rfl⟩, rfl⟩

/-- Even where the file is reported missing, the token read is the file's or empty. -/
theorem token_of_readToken {b : Bytes} (h : evalBody env readToken s = (.ok b, s')) :
    s' = s ∧ (b = [] ∨ s .attestationToken = some b) := by
  simp only [readToken, evalBody_bind_ok, evalBody_tryCatch, evalBody_readRaw, Env.readAnswer] at h
  obtain ⟨content, s₁, hread, hret⟩ := h
  cases hret
  cases hfault : env.readFault .attestationToken with
  | none =>
      rw [hfault] at hread
      cases hread
      cases s .attestationToken with
      | none => exact ⟨rfl, .inl rfl⟩
      | some b => exact ⟨rfl, .inr rfl⟩
  | some e =>
      rw [hfault] at hread
      dsimp only at hread
      split at hread
      · cases hread
        exact ⟨rfl, .inl rfl⟩
      · cases hread

theorem token_of_getIdentitySnapshot {ecdsaPub pqcPub token : Bytes}
    (h : evalBody env getIdentitySnapshot s = (.ok (ecdsaPub, pqcPub, token), s')) :
    s' = s ∧ (token = [] ∨ s .attestationToken = some token) := by
  simp only [getIdentitySnapshot, getCurrentPublicKey, getCurrentPqcPublicKey, evalBody_withLock,
    evalBody_bind_ok, evalBody_readFile, evalBody_pure] at h
  obtain ⟨_, _, ⟨-, -, rfl⟩, _, _, ⟨-, -, rfl⟩, b, _, hread, hret⟩ := h
  obtain ⟨rfl, htoken⟩ := token_of_readToken hread
  cases hret
  exact ⟨rfl, htoken⟩

theorem evalBody_writeFile (f : File) (b : Bytes) :
    evalBody env (writeFile f b) s =
      match env.writeFault f with
      | none => (.ok (), Function.update s f (some b))
      | some e => (.error (if e.isinstance .exception then couldNotWrite f else e), s) := by
  simp only [writeFile, evalBody_tryCatch, evalBody_replace]
  cases env.writeFault f <;> simp

/-! ### What reading asks -/

theorem askedBody_readFile (f : File) : askedBody env (readFile f) s = [] := by
  rw [askedBody, readFile]
  change asked env (Prog.read f _) s = []
  rw [asked, Env.readAnswer]
  cases env.readFault f with
  | some e => rfl
  | none => cases h : s f <;> rfl

theorem askedBody_readToken : askedBody env readToken s = [] := by
  rw [askedBody, readToken]
  change asked env (Prog.read .attestationToken _) s = []
  rw [asked, Env.readAnswer]
  cases env.readFault .attestationToken with
  | some e =>
      cases h : e.isinstance .fileNotFoundError with
      | true => simp only [Prog.bind, h, if_true]; rfl
      | false => simp only [Prog.bind, h, Bool.false_eq_true, if_false]; rfl
  | none => rfl

/-- A snapshot asks nothing. -/
theorem askedBody_getIdentitySnapshot : askedBody env getIdentitySnapshot s = [] := by
  refine List.eq_nil_iff_forall_not_mem.mpr ?_
  intro q hq
  simp only [getIdentitySnapshot, getCurrentPublicKey, getCurrentPqcPublicKey,
    askedBody_withLock, mem_askedBody_bind, askedBody_readFile, askedBody_readToken] at hq
  obtain h | ⟨_, _, -, h | ⟨_, _, -, h | ⟨_, _, -, h⟩⟩⟩ := hq
  · cases h
  · cases h
  · cases h
  · cases h

/-! ### A refresh -/

/-- Two key pairs and a token. -/
structure Identity where
  ecdsa : KeyPair
  pqc : KeyPair
  token : Bytes
  deriving DecidableEq, Repr

/-- The content of a file, for an identity stored whole. -/
def Identity.content (i : Identity) : File → Bytes
  | .privateKey => i.ecdsa.priv
  | .publicKey => i.ecdsa.pub
  | .pqcPrivateKey => i.pqc.priv
  | .pqcPublicKey => i.pqc.pub
  | .attestationToken => i.token

/-- The place of a file in the order a refresh writes them. -/
def File.index : File → Nat
  | .privateKey => 0
  | .publicKey => 1
  | .pqcPrivateKey => 2
  | .pqcPublicKey => 3
  | .attestationToken => 4

/-- The store with the first `n` files of `i`. -/
def Store.overwrite (s : Store) (n : Nat) (i : Identity) : Store :=
  fun f => if f.index < n then some (i.content f) else s f

/-- What was answered, if anything. -/
def answered {α : Type} [Inhabited α] : Except Exc α → α
  | .ok a => a
  | .error _ => default

/-- The nonces of the token fetched for two key pairs. -/
def fingerprints (ecdsa pqc : KeyPair) : List String :=
  [calculateFingerprint ecdsa.pub, calculateFingerprint pqc.pub]

/-- What an attempt makes: the keys generated in it, and the token fetched for them. -/
def attemptIdentity (audience : String) (env : ServerEnv) : Identity :=
  let ecdsa : KeyPair := answered (env.answer .generateEcdsa)
  let pqc : KeyPair := answered (env.answer .generateMldsa)
  ⟨ecdsa, pqc, answered (α := Bytes) (env.answer (.fetchToken (fingerprints ecdsa pqc) audience))⟩

/-- How many of the key files an attempt replaces. -/
def keyFilesReplaced (env : ServerEnv) : Nat :=
  if !(env.answer .generateEcdsa).isOk || (env.writeFault .privateKey).isSome then 0
  else if (env.writeFault .publicKey).isSome then 1
  else if !(env.answer .generateMldsa).isOk || (env.writeFault .pqcPrivateKey).isSome then 2
  else if !(env.answer .serializePublicKeyset).isOk || (env.writeFault .pqcPublicKey).isSome then 3
  else 4

theorem keyFilesReplaced_le (env : ServerEnv) : keyFilesReplaced env ≤ 4 := by
  unfold keyFilesReplaced; split_ifs <;> omega

/-- An attempt that replaced the key files does not get the token stored. -/
def tokenFails (audience : String) (env : ServerEnv) : Bool :=
  let identity := attemptIdentity audience env
  (env.readFault .publicKey).isSome || (env.readFault .pqcPublicKey).isSome ||
    !(env.answer (.fetchToken (fingerprints identity.ecdsa identity.pqc) audience)).isOk ||
    (env.writeFault .attestationToken).isSome

/-- How many files an attempt replaces. -/
def filesReplaced (audience : String) (env : ServerEnv) : Nat :=
  if keyFilesReplaced env < 4 then keyFilesReplaced env
  else if tokenFails audience env then 4 else 5

@[simp] theorem Store.overwrite_zero (s : Store) (i : Identity) : s.overwrite 0 i = s := rfl

/-- Writing the next file. -/
theorem Store.overwrite_next (s : Store) (i : Identity) (f : File) :
    Function.update (s.overwrite f.index i) f (some (i.content f)) =
      s.overwrite (f.index + 1) i := by
  funext g
  cases f <;> cases g <;> rfl

/-- `write_file` of the next file, and what follows it. -/
theorem evalBody_writeNext {α : Type} {s : Store} {i : Identity} (n : Nat) (f : File) (b : Bytes)
    {rest : Unit → Action α} (hn : n = f.index) (hb : b = i.content f) :
    evalBody env (writeFile f b >>= rest) (s.overwrite n i) =
      match env.writeFault f with
      | none => evalBody env (rest ()) (s.overwrite (n + 1) i)
      | some e => (.error (if e.isinstance .exception then couldNotWrite f else e),
          s.overwrite n i) := by
  subst hn hb
  rw [evalBody_bind, evalBody_writeFile]
  cases env.writeFault f with
  | none => rw [← s.overwrite_next i f]
  | some e => rfl

@[simp] theorem isOk_ok {α : Type} {a : α} : (Except.ok a : Except Exc α).isOk = true := rfl

@[simp] theorem isOk_error {α : Type} {e : Exc} :
    (Except.error e : Except Exc α).isOk = false := rfl

/-- `generate_key_pair` replaces key files in order, and returns where it replaced all four. -/
theorem evalBody_generateKeyPair (audience : String) (env : ServerEnv) (s : Store) :
    ∃ r, evalBody env generateKeyPair s =
        (r, s.overwrite (keyFilesReplaced env) (attemptIdentity audience env)) ∧
      (r.isOk = true ↔ keyFilesReplaced env = 4) := by
  obtain ⟨i, hi⟩ : ∃ i, attemptIdentity audience env = i := ⟨_, rfl⟩
  rw [hi]
  simp only [generateKeyPair, keyFilesReplaced]
  rw [evalBody_bind, generateEcdsa, evalBody_ask]
  cases he : env.answer .generateEcdsa with
  | error e => exact ⟨.error e, by simp, by simp⟩
  | ok ecdsa =>
      obtain rfl : i.ecdsa = ecdsa := by rw [← hi, attemptIdentity, he]; rfl
      -- the four files are written in their order, each from where the one before left the store
      dsimp only
      conv =>
        enter [1, r, 1, 1]
        rw [← s.overwrite_zero i, evalBody_writeNext 0 .privateKey i.ecdsa.priv rfl rfl]
      cases env.writeFault .privateKey with
      | some e => exact ⟨.error _, rfl, by simp⟩
      | none =>
      dsimp only [Nat.reduceAdd]
      rw [evalBody_writeNext 1 .publicKey i.ecdsa.pub rfl rfl]
      cases env.writeFault .publicKey with
      | some e => exact ⟨.error _, rfl, by simp⟩
      | none =>
      dsimp only
      rw [evalBody_bind, generateMldsa, evalBody_ask]
      cases hp : env.answer .generateMldsa with
      | error e => exact ⟨.error e, by simp, by simp⟩
      | ok pqc =>
      obtain rfl : i.pqc = pqc := by rw [← hi, attemptIdentity, hp]; rfl
      dsimp only [Nat.reduceAdd]
      rw [evalBody_writeNext 2 .pqcPrivateKey i.pqc.priv rfl rfl]
      cases env.writeFault .pqcPrivateKey with
      | some e => exact ⟨.error _, rfl, by simp⟩
      | none =>
      dsimp only
      rw [evalBody_bind, serializePublicKeyset, evalBody_ask]
      cases env.answer .serializePublicKeyset with
      | error e => exact ⟨.error e, by simp, by simp⟩
      | ok u =>
      dsimp only [Nat.reduceAdd]
      rw [evalBody_writeNext 3 .pqcPublicKey i.pqc.pub rfl rfl]
      cases env.writeFault .pqcPublicKey with
      | some e => exact ⟨.error _, rfl, by simp⟩
      | none => exact ⟨.ok _, rfl, by simp⟩

theorem evalBody_writeToken (env : ServerEnv) (s : Store) (i : Identity) :
    ∃ r, evalBody env (writeFile .attestationToken i.token) (s.overwrite 4 i) =
        (r, s.overwrite (if (env.writeFault .attestationToken).isSome then 4 else 5) i) ∧
      (r.isOk = true ↔ env.writeFault .attestationToken = none) := by
  rw [evalBody_writeFile]
  cases env.writeFault .attestationToken with
  | none => exact ⟨.ok (), Prod.ext rfl (s.overwrite_next i .attestationToken), by simp⟩
  | some e => exact ⟨.error _, rfl, by simp⟩

/-- **A refresh replaces files in order, with the keys and the token of its own making, and returns
where it replaced all five.** -/
theorem evalBody_refresh (audience : String) (env : ServerEnv) (s : Store) :
    ∃ r, evalBody env (refresh audience) s =
        (r, s.overwrite (filesReplaced audience env) (attemptIdentity audience env)) ∧
      (r.isOk = true ↔ filesReplaced audience env = 5) := by
  obtain ⟨r, hr, hok⟩ := evalBody_generateKeyPair audience env s
  rw [refresh, evalBody_withLock, evalBody_bind, hr]
  cases r with
  | error e =>
      have hn : keyFilesReplaced env ≠ 4 := fun h => by simpa using hok.mpr h
      have hlt : keyFilesReplaced env < 4 := lt_of_le_of_ne (keyFilesReplaced_le env) hn
      have hfr : filesReplaced audience env = keyFilesReplaced env := if_pos hlt
      exact ⟨.error e, by rw [hfr], by simp only [isOk_error, Bool.false_eq_true, false_iff]; omega⟩
  | ok b =>
      have hn : keyFilesReplaced env = 4 := hok.mp rfl
      have hfr : filesReplaced audience env = if tokenFails audience env then 4 else 5 :=
        if_neg (by omega)
      rw [hfr, hn]
      rw [tokenFails]
      obtain ⟨i, hi⟩ : ∃ i, attemptIdentity audience env = i := ⟨_, rfl⟩
      rw [hi]
      -- the public keys read back are the ones just written
      have hpub : s.overwrite 4 i .publicKey = some i.ecdsa.pub := rfl
      have hpqc : s.overwrite 4 i .pqcPublicKey = some i.pqc.pub := rfl
      dsimp only
      rw [getCurrentPublicKey, evalBody_bind, evalBody_readFile_of_some hpub]
      rcases Option.eq_none_or_eq_some (env.readFault .publicKey) with h₁ | ⟨e, h₁⟩
      swap
      · exact ⟨.error _, by simp [h₁]; rfl, by simp [h₁]⟩
      simp only [h₁]
      rw [getCurrentPqcPublicKey, evalBody_bind, evalBody_readFile_of_some hpqc]
      rcases Option.eq_none_or_eq_some (env.readFault .pqcPublicKey) with h₂ | ⟨e, h₂⟩
      swap
      · exact ⟨.error _, by simp [h₂]; rfl, by simp [h₂]⟩
      simp only [h₂]
      rw [evalBody_bind, fetchAttestationToken, evalBody_ask]
      rw [show [calculateFingerprint i.ecdsa.pub, calculateFingerprint i.pqc.pub] =
        fingerprints i.ecdsa i.pqc from rfl]
      rcases ht : env.answer (.fetchToken (fingerprints i.ecdsa i.pqc) audience) with e | token
      · exact ⟨.error e, by simp, by simp⟩
      obtain rfl : i.token = token := by
        subst hi
        simp only [attemptIdentity] at ht ⊢
        rw [ht]; rfl
      obtain ⟨r, hw, hrok⟩ := evalBody_writeToken env s i
      refine ⟨r, ?_, ?_⟩
      · simpa [ht] using hw
      · rw [hrok]; cases env.writeFault .attestationToken <;> simp

end

/-! ### What an attempt made -/

section
variable {audience : String} {env : ServerEnv}

theorem generated_ecdsa (h : 0 < filesReplaced audience env) :
    env.answer .generateEcdsa = .ok (attemptIdentity audience env).ecdsa := by
  cases he : env.answer .generateEcdsa with
  | ok k => simp only [attemptIdentity, he, answered]
  | error e =>
      have h0 : keyFilesReplaced env = 0 := by simp [keyFilesReplaced, he]
      simp [filesReplaced, h0] at h

/-- An attempt in which at most the token's fetch fails. -/
theorem filesReplaced_of_fetch (env : ServerEnv) {x : Except Exc Bytes}
    (hk : keyFilesReplaced env = 4) (hr : ∀ f, env.readFault f = none)
    (hw : ∀ f, env.writeFault f = none)
    (hx : env.answer (.fetchToken (fingerprints (attemptIdentity audience env).ecdsa
      (attemptIdentity audience env).pqc) audience) = x) :
    filesReplaced audience env = if x.isOk then 5 else 4 := by
  rw [filesReplaced, hk, if_neg (by decide), tokenFails, hx, hr, hr, hw]
  cases x <;> rfl

theorem generated_pqc (h : 2 < filesReplaced audience env) :
    env.answer .generateMldsa = .ok (attemptIdentity audience env).pqc := by
  cases he : env.answer .generateMldsa with
  | ok k => simp only [attemptIdentity, he, answered]
  | error e =>
      have h2 : keyFilesReplaced env ≤ 2 := by
        rw [keyFilesReplaced]
        rw [he]
        split_ifs <;> simp_all
      have h4 : filesReplaced audience env = keyFilesReplaced env := if_pos (by omega)
      omega

theorem fetched_token (h : filesReplaced audience env = 5) :
    env.answer (.fetchToken (fingerprints (attemptIdentity audience env).ecdsa
      (attemptIdentity audience env).pqc) audience) = .ok (attemptIdentity audience env).token := by
  have hk : ¬ keyFilesReplaced env < 4 := fun hk => by
    have h' : filesReplaced audience env = keyFilesReplaced env := if_pos hk
    omega
  have ht : tokenFails audience env = false := by
    cases ht : tokenFails audience env with
    | false => rfl
    | true => simp [filesReplaced, hk, ht] at h
  have htoken : (attemptIdentity audience env).token =
      answered (env.answer (.fetchToken (fingerprints (attemptIdentity audience env).ecdsa
        (attemptIdentity audience env).pqc) audience)) := rfl
  rw [htoken]
  simp only [tokenFails, Bool.or_eq_false_iff, Bool.not_eq_false'] at ht
  cases ha : env.answer (.fetchToken (fingerprints (attemptIdentity audience env).ecdsa
      (attemptIdentity audience env).pqc) audience) with
  | ok token => rfl
  | error e => rw [ha] at ht; cases ht.1.2

end

end PromptEncryption.Server
