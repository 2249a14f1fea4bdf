import Mathlib.Data.List.DropRight
import PromptEncryption.Server.Store

/-!
# Server — the token backends, and what a refresh raises

`get_cs_token_bytes`, `get_cvm_token_bytes` and `TokenManager._fetch_attestation_token`
(`server/token.py`), over what the TEE server's socket and the `gotpm` command do (`Backend`).

* `fetchAttestationToken_eq_ok`: which replies are a token.
* `fetchAttestationToken_raises`: where an exception of a fetch comes from.
* `raised_refresh`: what a refresh raises is the first failure of its steps, in order.
-/

namespace PromptEncryption.Server
open Python Programs

def TOKEN_ENDPOINT : String := "/v1/token"

def TOKEN_TYPE : String := "OIDC"

/-! ### Replies -/

/-- What comes of `conn.request(…)`, `conn.getresponse()` and `response.read()`. -/
structure TeeReply where
  request : Except Exc Unit
  /-- The status and the reason. -/
  response : Except Exc (Nat × String)
  read : Except Exc Bytes

/-- What `subprocess.run` returns. -/
structure CompletedProcess where
  returncode : Int
  stdout : Bytes
  stderr : Bytes

/-- The token backend of a server. -/
structure Backend where
  /-- `os.environ.get("ATTESTATION_TYPE", "uds").lower()`. -/
  attestationType : String
  /-- `json.dumps(…).encode("utf-8")`. -/
  dumps : Json → Bytes
  /-- The TEE server's socket, at an endpoint and the body of a `POST`. -/
  tee : String → Bytes → TeeReply
  /-- `subprocess.run(cmd, capture_output=True, check=False)`. -/
  run : List String → Except Exc CompletedProcess

/-! ### Fetching -/

/-- The body of a token request. -/
def tokenRequest (audience tokenType : String) (nonces : List String) : Json :=
  .dict [("audience", .str audience), ("token_type", .str tokenType),
    ("nonces", .list (nonces.map .str))]

/-- `get_cs_token_bytes`. -/
def getCsTokenBytes (b : Backend) (audience tokenType : String) (nonces : List String) :
    Except Exc Bytes := do
  let body := b.dumps (tokenRequest audience tokenType nonces)
  let reply := b.tee TOKEN_ENDPOINT body
  reply.request
  let (status, reason) ← reply.response
  raiseIf (400 ≤ status) ⟨.runtimeError, [.text "HTTP Error ", .str (.int status), .text ": ",
    .text reason, .text " for request body: ", .bytes body]⟩
  reply.read

/-- `b.strip()`. -/
def strip (b : Bytes) : Bytes :=
  (b.dropWhile fun x => x == 32 || 9 ≤ x && x ≤ 13).rdropWhile fun x => x == 32 || 9 ≤ x && x ≤ 13

/-- The command `get_cvm_token_bytes` runs. -/
def gotpmCommand (audience : String) (nonces : List String) : List String :=
  ["gotpm", "token", "--audience", audience] ++ nonces.flatMap fun n => ["--custom-nonce", n]

/-- `get_cvm_token_bytes`. -/
def getCvmTokenBytes (b : Backend) (audience : String) (nonces : List String) :
    Except Exc Bytes := do
  let result ← b.run (gotpmCommand audience nonces)
  raiseIf (result.returncode ≠ 0)
    ⟨.runtimeError, [.text "gotpm token failed: ", .bytes result.stderr]⟩
  return strip result.stdout

/-- `_fetch_attestation_token`. -/
def Backend.fetchAttestationToken (b : Backend) (fingerprints : List String) (audience : String) :
    Except Exc Bytes :=
  if b.attestationType = "uds" then getCsTokenBytes b audience TOKEN_TYPE fingerprints
  else if b.attestationType = "gotpm" then getCvmTokenBytes b audience fingerprints
  else .error ⟨.valueError,
    [.text "Unknown ATTESTATION_TYPE ", .repr (.str b.attestationType), .text "."]⟩

/-- The environment's tokens are fetched from `b`. -/
def Backend.Answers (b : Backend) (env : ServerEnv) : Prop :=
  ∀ nonces audience,
    env.answer (.fetchToken nonces audience) = b.fetchAttestationToken nonces audience

section
variable {b : Backend} {fingerprints : List String} {audience : String} {token : Bytes} {e : Exc}

theorem getCsTokenBytes_eq_ok {tokenType : String} :
    getCsTokenBytes b audience tokenType fingerprints = .ok token ↔
      ∃ reply status reason,
        b.tee TOKEN_ENDPOINT (b.dumps (tokenRequest audience tokenType fingerprints)) = reply ∧
          reply.request = .ok () ∧ reply.response = .ok (status, reason) ∧ status < 400 ∧
          reply.read = .ok token := by
  simp [getCsTokenBytes]

theorem getCvmTokenBytes_eq_ok : getCvmTokenBytes b audience fingerprints = .ok token ↔
    ∃ result, b.run (gotpmCommand audience fingerprints) = .ok result ∧ result.returncode = 0 ∧
      strip result.stdout = token := by
  simp only [getCvmTokenBytes, bind_eq_ok, exists_unit, raiseIf_eq_ok, pure_eq_ok, not_not, ne_eq]

/-- **Which replies are a token**: any body below status 400, and any output of a `gotpm` that
exited with 0. -/
theorem fetchAttestationToken_eq_ok : b.fetchAttestationToken fingerprints audience = .ok token ↔
    (b.attestationType = "uds" ∧ ∃ reply status reason,
      b.tee TOKEN_ENDPOINT (b.dumps (tokenRequest audience TOKEN_TYPE fingerprints)) = reply ∧
        reply.request = .ok () ∧ reply.response = .ok (status, reason) ∧ status < 400 ∧
        reply.read = .ok token) ∨
    (b.attestationType = "gotpm" ∧ ∃ result, b.run (gotpmCommand audience fingerprints) = .ok result ∧
      result.returncode = 0 ∧ strip result.stdout = token) := by
  rw [Backend.fetchAttestationToken]
  by_cases huds : b.attestationType = "uds"
  · simp [huds, getCsTokenBytes_eq_ok]
  · by_cases hgotpm : b.attestationType = "gotpm"
    · simp [hgotpm, getCvmTokenBytes_eq_ok]
    · simp [huds, hgotpm]

/-- The socket or the command fails with `e`. -/
inductive Backend.Fails (b : Backend) (e : Exc) : Prop where
  | request {endpoint body} : (b.tee endpoint body).request = .error e → b.Fails e
  | response {endpoint body} : (b.tee endpoint body).response = .error e → b.Fails e
  | read {endpoint body} : (b.tee endpoint body).read = .error e → b.Fails e
  | run {cmd} : b.run cmd = .error e → b.Fails e

/-- **Where an exception of a fetch comes from.** -/
theorem fetchAttestationToken_raises (h : b.fetchAttestationToken fingerprints audience = .error e) :
    e.cls = .runtimeError ∨ e.cls = .valueError ∨ b.Fails e := by
  rw [Backend.fetchAttestationToken] at h
  split at h
  · rcases bind_eq_error.mp h with h | ⟨_, -, h⟩
    · exact .inr (.inr (.request h))
    rcases bind_eq_error.mp h with h | ⟨⟨status, reason⟩, -, h⟩
    · exact .inr (.inr (.response h))
    rcases bind_eq_error.mp h with h | ⟨_, -, h⟩
    · obtain ⟨-, rfl⟩ := raiseIf_eq_error.mp h
      exact .inl rfl
    · exact .inr (.inr (.read h))
  · split at h
    · rcases bind_eq_error.mp h with h | ⟨result, -, h⟩
      · exact .inr (.inr (.run h))
      rcases bind_eq_error.mp h with h | ⟨_, -, h⟩
      · obtain ⟨-, rfl⟩ := raiseIf_eq_error.mp h
        exact .inl rfl
      · cases h
    · cases h
      exact .inr (.inl rfl)

end

/-! ### What a refresh raises -/

/-- The exception of a result, if it is one. -/
def raised {α : Type} : Except Exc α → Option Exc
  | .ok _ => none
  | .error e => some e

/-- What `write_file` raises at a file. -/
def writeFailure (env : ServerEnv) (f : File) : Option Exc :=
  (env.writeFault f).map fun e => if e.isinstance .exception then couldNotWrite f else e

/-- What `read_file` raises at a file that exists. -/
def readFailure (env : ServerEnv) (f : File) : Option Exc :=
  (env.readFault f).map fun e => if e.isinstance .osError then couldNotRead f else e

/-- What can fail as the keys are generated, in order. -/
def keyFailures (env : ServerEnv) : List (Option Exc) :=
  [raised (env.answer .generateEcdsa), writeFailure env .privateKey, writeFailure env .publicKey,
    raised (env.answer .generateMldsa), writeFailure env .pqcPrivateKey,
    raised (env.answer .serializePublicKeyset), writeFailure env .pqcPublicKey]

/-- What can fail as the token is fetched, in order. -/
def tokenFailures (audience : String) (env : ServerEnv) : List (Option Exc) :=
  [readFailure env .publicKey, readFailure env .pqcPublicKey,
    raised (env.answer (.fetchToken (fingerprints (attemptIdentity audience env).ecdsa
      (attemptIdentity audience env).pqc) audience)), writeFailure env .attestationToken]

/-- The first failure of a refresh, if there is one. -/
def firstFailure (audience : String) (env : ServerEnv) : Option Exc :=
  (keyFailures env ++ tokenFailures audience env).findSome? id

section
variable {env : ServerEnv} {s : Store} {audience : String} {f : File} {bytes : Bytes} {e : Exc}

/-- The first failure of a block, where its first statement fails as `o` says. -/
theorem raised_bind {α β : Type} {x : Action α} {g : α → Action β} {l : List (Option Exc)}
    {o : Option Exc} (hx : raised (evalBody env x s).1 = o)
    (hg : ∀ a s₁, evalBody env x s = (.ok a, s₁) →
      raised (evalBody env (g a) s₁).1 = l.findSome? id) :
    raised (evalBody env (x >>= g) s).1 = (o :: l).findSome? id := by
  rw [evalBody_bind]
  rcases h : evalBody env x s with ⟨e | a, s₁⟩
  · rw [h] at hx
    subst hx
    rfl
  · rw [h] at hx
    subst hx
    exact hg a s₁ h

theorem raised_ask {q : Question} :
    raised (evalBody env (ask q : Action (Answer q)) s).1 = raised (env.answer q) := rfl

theorem raised_writeFile :
    raised (evalBody env (writeFile f bytes) s).1 = writeFailure env f := by
  rw [evalBody_writeFile, writeFailure]
  cases env.writeFault f <;> rfl

theorem raised_readFile (h : s f = some bytes) :
    raised (evalBody env (readFile f) s).1 = readFailure env f := by
  rw [evalBody_readFile_of_some h, readFailure]
  cases env.readFault f <;> rfl

theorem raised_generateKeyPair :
    raised (evalBody env generateKeyPair s).1 = (keyFailures env).findSome? id := by
  rw [generateKeyPair]
  refine raised_bind raised_ask fun ecdsa _ _ => ?_
  refine raised_bind raised_writeFile fun _ _ _ => ?_
  refine raised_bind raised_writeFile fun _ _ _ => ?_
  refine raised_bind raised_ask fun pqc _ _ => ?_
  refine raised_bind raised_writeFile fun _ _ _ => ?_
  refine raised_bind raised_ask fun _ _ _ => ?_
  exact raised_bind raised_writeFile fun _ _ _ => rfl

/-- **What a refresh raises is its first failure.** -/
theorem raised_refresh :
    raised (evalBody env (refresh audience) s).1 = firstFailure audience env := by
  rw [refresh, evalBody_withLock, firstFailure, List.findSome?_append,
    ← raised_generateKeyPair (s := s)]
  obtain ⟨r, hr, hok⟩ := evalBody_generateKeyPair audience env s
  rw [evalBody_bind, hr]
  cases r with
  | error e => rfl
  | ok b =>
      have hn : keyFilesReplaced env = 4 := hok.mp rfl
      rw [hn]
      obtain ⟨i, hi⟩ : ∃ i, attemptIdentity audience env = i := ⟨_, rfl⟩
      have hpub : s.overwrite 4 i .publicKey = some i.ecdsa.pub := rfl
      have hpqc : s.overwrite 4 i .pqcPublicKey = some i.pqc.pub := rfl
      rw [hi]
      change raised (evalBody env _ (s.overwrite 4 i)).1 = (tokenFailures audience env).findSome? id
      -- the public keys read back are the ones just written
      refine raised_bind (raised_readFile hpub) fun pub s₁ h₁ => ?_
      obtain ⟨-, hpub', rfl⟩ := evalBody_readFile.mp h₁
      cases hpub.symm.trans hpub'
      refine raised_bind (raised_readFile hpqc) fun pqc s₁ h₁ => ?_
      obtain ⟨-, hpqc', rfl⟩ := evalBody_readFile.mp h₁
      cases hpqc.symm.trans hpqc'
      refine raised_bind ?_ fun token _ _ => ?_
      · rw [hi]
        exact raised_ask
      · rw [raised_writeFile]
        cases writeFailure env .attestationToken <;> rfl

theorem refresh_raises_iff :
    (evalBody env (refresh audience) s).1 = .error e ↔ firstFailure audience env = some e := by
  rw [← raised_refresh (s := s)]
  cases (evalBody env (refresh audience) s).1 <;> simp [raised]

end

end PromptEncryption.Server
