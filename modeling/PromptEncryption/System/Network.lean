import PromptEncryption.Support.Runs
import PromptEncryption.System.Handshake

/-!
# System — a network of servers and clients

Any number of servers and clients, and a network that belongs to the adversary.  A server refreshes
its keys and its token, and answers attestation requests that arrive on TLS sessions, one call at a
time; who is at the other end, and what the request says, is the adversary's choice.  A client draws
a nonce for a handshake on its session (`start`) and takes what it receives through the exchange
(`finish`); what it receives is the adversary's choice, so responses may be stored, replayed and
spliced.

Keys, keying material and tokens are tied to what happened only by what the two ends compute.  What
is assumed of the cryptography is `Admissible`, for the run at hand.

* `Coherent`: every private key a server has used is of an earlier refresh of that server.
* `session_binding`: a client that accepts a token listing the fingerprints of an honest server's
  key generation shares its session with that server.
-/

namespace PromptEncryption
open Python Programs Server Client Runs

/-! ### The network -/

/-- The servers, the TLS sessions and the clients. -/
structure Network (Srv Sess Cl : Type) where
  J : JsonFormat
  audience : Srv → String
  /-- The TLS object of a session, at the server. -/
  sslObj : Sess → SslObject
  /-- The keying material of a session, at the client. -/
  tls : Sess → Nat → Bytes → Bytes → Bytes
  validator : Cl → AttestationValidator

inductive NetEvent (Srv Sess Cl : Type) where
  /-- `TokenManager.refresh`. -/
  | refresh (server : Srv) (env : ServerEnv)
  /-- `attest_connection`, on the files the server had. -/
  | attest (server : Srv) (session : Sess) (request : AttestConnectionRequest) (env : ServerEnv)
      (files : Store) (result : Except Exc AttestConnectionResponse)
  /-- A client draws the nonce of a handshake. -/
  | start (client : Cl) (session : Sess) (nonce : Bytes)
  /-- The handshake ends, with what the client received. -/
  | finish (client : Cl) (session : Sess) (nonce : Bytes) (received : Except Exc HttpResponse)
      (result : Except Exc Unit)

structure NetState (Srv Sess Cl : Type) where
  stores : Srv → Store
  /-- The handshake a client is in: its session and its nonce. -/
  pending : Cl → Option (Sess × Bytes)

namespace Network
variable {Srv Sess Cl : Type} [DecidableEq Srv] [DecidableEq Cl]

inductive Step (N : Network Srv Sess Cl) :
    NetState Srv Sess Cl → NetEvent Srv Sess Cl → NetState Srv Sess Cl → Prop where
  | refresh {stores pending server env result files} :
      evalBody env (Server.refresh (N.audience server)) (stores server) = (result, files) →
      Step N ⟨stores, pending⟩ (.refresh server env)
        ⟨Function.update stores server files, pending⟩
  | attest {stores pending server session request env result files} :
      evalBody env (attestConnection request (N.sslObj session)) (stores server) =
        (result, files) →
      Step N ⟨stores, pending⟩ (.attest server session request env (stores server) result)
        ⟨Function.update stores server files, pending⟩
  | start {stores pending client session nonce} : nonce.length = NONCE_LENGTH →
      Step N ⟨stores, pending⟩ (.start client session nonce)
        ⟨stores, Function.update pending client (some (session, nonce))⟩
  | finish {stores pending client session nonce received result} :
      pending client = some (session, nonce) →
      exchange N.J (N.validator client)
        (fun length label context => .ok (N.tls session length label context)) nonce received =
          result →
      Step N ⟨stores, pending⟩ (.finish client session nonce received result)
        ⟨stores, Function.update pending client none⟩

/-- The runs start with no files and no handshake. -/
def system (N : Network Srv Sess Cl) : System (NetState Srv Sess Cl) (NetEvent Srv Sess Cl) where
  init st := st = ⟨fun _ _ => none, fun _ => none⟩
  step := N.Step

/-! ### What a step uses -/

omit [DecidableEq Srv] [DecidableEq Cl]

/-- The ECDSA signatures made in a step: the private keys and the payloads. -/
def signed (N : Network Srv Sess Cl) : NetEvent Srv Sess Cl → List (Bytes × Bytes)
  | .attest _ session request env files _ =>
      (askedBody env (attestConnection request (N.sslObj session)) files).filterMap fun
        | .signEcdsa key payload =>
            if (env.answer (.signEcdsa key payload)).isOk then some (key, payload) else none
        | _ => none
  | _ => []

theorem mem_signed {N : Network Srv Sess Cl} {e : NetEvent Srv Sess Cl} {key payload : Bytes}
    (h : (key, payload) ∈ N.signed e) :
    ∃ server session request env files result,
      e = .attest server session request env files result ∧
      .signEcdsa key payload ∈ askedBody env (attestConnection request (N.sslObj session)) files := by
  cases e with
  | attest server session request env files result =>
      obtain ⟨q, hq, hsome⟩ := List.mem_filterMap.mp h
      refine ⟨_, _, _, _, _, _, rfl, ?_⟩
      cases q with
      | signEcdsa key' payload' =>
          dsimp only at hsome
          split at hsome
          · cases hsome
            exact hq
          · cases hsome
      | _ => cases hsome
  | _ => cases h

/-- The sessions and contexts keying material is exported for in a step. -/
def exported : NetEvent Srv Sess Cl → List (Sess × Bytes)
  | .attest _ session request _ _ _ => [(session, request.nonce)]
  | .finish _ session nonce _ _ => [(session, nonce)]
  | _ => []

/-- The response a client took from what it received. -/
def accepted (N : Network Srv Sess Cl) (received : Except Exc HttpResponse) :
    Except Exc AttestConnectionResponse := received.bind (processAttestationResponse N.J)

/-- The bytes hashed in a step: generated public keys, keying material, tokens, and the keys of a
response. -/
def hashed (N : Network Srv Sess Cl) : NetEvent Srv Sess Cl → List Bytes
  | .refresh _ env => [(answered (env.answer .generateEcdsa) : KeyPair).pub,
      (answered (env.answer .generateMldsa) : KeyPair).pub]
  | .attest _ session request _ files _ =>
      [N.tls session EKM_LENGTH EKM_LABEL request.nonce, [],
        (files .attestationToken).getD []]
  | .finish _ session nonce received _ =>
      N.tls session EKM_LENGTH EKM_LABEL nonce ::
        match N.accepted received with
        | .error _ => []
        | .ok response => response.instancePublicKey.keyBytes ::
            match extractGcaBundle response.evidence with
            | .error _ => []
            | .ok bundle => [Bytes.encodeUtf8 bundle.attestationToken]
  | .start _ _ _ => []

/-! ### What is assumed -/

/-- The key pairs a server generated in the steps of a run. -/
def Generated (es : List (NetEvent Srv Sess Cl)) (server : Srv) (ecdsa pqc : KeyPair) : Prop :=
  ∃ env, .refresh server env ∈ es ∧ env.answer .generateEcdsa = .ok ecdsa ∧
    env.answer .generateMldsa = .ok pqc

/-- The private keys of a server's ECDSA pairs. -/
def GeneratedPrivate (es : List (NetEvent Srv Sess Cl)) (server : Srv) (key : Bytes) : Prop :=
  ∃ env ecdsa, .refresh server env ∈ es ∧ env.answer .generateEcdsa = .ok ecdsa ∧ ecdsa.priv = key

/-- What is assumed of the cryptography, in one run. -/
structure Admissible (N : Network Srv Sess Cl) (es : List (NetEvent Srv Sess Cl)) : Prop where
  /-- Both ends of a session export the same keying material. -/
  exports : ∀ session, Exports (N.sslObj session) (N.tls session)
  /-- The keying material exported is distinct for distinct sessions and contexts. -/
  ekm_inj : ∀ a ∈ es.flatMap exported, ∀ b ∈ es.flatMap exported,
    N.tls a.1 EKM_LENGTH EKM_LABEL a.2 = N.tls b.1 EKM_LENGTH EKM_LABEL b.2 → a = b
  /-- No two byte strings hashed collide. -/
  sha256_inj : ∀ a ∈ es.flatMap N.hashed, ∀ b ∈ es.flatMap N.hashed,
    Bytes.sha256 a = Bytes.sha256 b → a = b
  /-- No two servers generate one private key. -/
  private_inj : ∀ server server' key, GeneratedPrivate es server key →
    GeneratedPrivate es server' key → server = server'
  /-- A serialized keyset is no PEM text of an elliptic-curve key. -/
  keyset_not_pem : ∀ server ecdsa pqc, Generated es server ecdsa pqc → ∀ client curve verify,
    (N.validator client).libs.loadPemPublicKey pqc.pub ≠ .ok (.ellipticCurve curve verify)
  /-- A signature a client verifies under a generated ECDSA key was made before. -/
  unforgeable : Always (fun e earlier => ∀ client session nonce received result response,
    e = .finish client session nonce received result → N.accepted received = .ok response →
    ∀ server ecdsa pqc payload, Generated es server ecdsa pqc →
      verifySessionSignature (N.validator client).libs ⟨ecdsa.pub⟩ response.sessionSignature
        payload = .ok () → (ecdsa.priv, payload) ∈ earlier.flatMap N.signed) es

/-! ### What a run keeps -/

theorem GeneratedPrivate.cons {es : List (NetEvent Srv Sess Cl)} {server : Srv} {key : Bytes}
    (h : GeneratedPrivate es server key) (e : NetEvent Srv Sess Cl) :
    GeneratedPrivate (e :: es) server key := by
  obtain ⟨env, ecdsa, hmem, hgen, hpriv⟩ := h
  exact ⟨env, ecdsa, List.mem_cons_of_mem _ hmem, hgen, hpriv⟩

theorem Generated.cons {es : List (NetEvent Srv Sess Cl)} {server : Srv} {ecdsa pqc : KeyPair}
    (h : Generated es server ecdsa pqc) (e : NetEvent Srv Sess Cl) :
    Generated (e :: es) server ecdsa pqc := by
  obtain ⟨env, hmem, hkeys⟩ := h
  exact ⟨env, List.mem_cons_of_mem _ hmem, hkeys⟩

theorem Generated.privateKey {es : List (NetEvent Srv Sess Cl)} {server : Srv} {ecdsa pqc : KeyPair}
    (h : Generated es server ecdsa pqc) : GeneratedPrivate es server ecdsa.priv := by
  obtain ⟨env, hmem, hecdsa, -⟩ := h
  exact ⟨env, ecdsa, hmem, hecdsa, rfl⟩

/-- **A server has only ever used private keys of its own earlier refreshes**, and a client's
handshake is one it has started. -/
structure Coherent (es : List (NetEvent Srv Sess Cl)) (st : NetState Srv Sess Cl) : Prop where
  stores : ∀ server key, st.stores server .privateKey = some key → GeneratedPrivate es server key
  files : ∀ server session request env files result key,
    .attest server session request env files result ∈ es → files .privateKey = some key →
    GeneratedPrivate es server key
  pending : ∀ client session nonce, st.pending client = some (session, nonce) →
    .start client session nonce ∈ es

/-- The private key a refresh leaves is the one it generated, or the one it found. -/
theorem refresh_privateKey {audience : String} {env : ServerEnv} {s files : Store}
    {result : Except Exc Unit} {key : Bytes}
    (h : evalBody env (Server.refresh audience) s = (result, files))
    (hkey : files .privateKey = some key) :
    (∃ ecdsa, env.answer .generateEcdsa = .ok ecdsa ∧ ecdsa.priv = key) ∨
      s .privateKey = some key := by
  obtain ⟨r, hr, -⟩ := evalBody_refresh audience env s
  obtain rfl := (Prod.mk.inj (h.symm.trans hr)).2
  rw [Store.overwrite] at hkey
  split at hkey
  · rename_i hn
    exact .inl ⟨_, generated_ecdsa hn, Option.some.inj hkey⟩
  · exact .inr hkey

variable [DecidableEq Srv] [DecidableEq Cl] {N : Network Srv Sess Cl}

theorem Coherent.step {es : List (NetEvent Srv Sess Cl)} {st st' : NetState Srv Sess Cl}
    {e : NetEvent Srv Sess Cl} (h : Coherent es st) (hs : N.Step st e st') :
    Coherent (e :: es) st' := by
  -- an event that is no attestation leaves what the attestations so far used
  have hfiles (hne : ∀ server session request env files result,
        e ≠ .attest server session request env files result) :
      ∀ server session request env files result key,
        .attest server session request env files result ∈ e :: es → files .privateKey = some key →
        GeneratedPrivate (e :: es) server key := by
    intro server session request env files result key hmem hkey
    rcases List.mem_cons.mp hmem with rfl | hmem
    · exact absurd rfl (hne server session request env files result)
    · exact (h.files _ _ _ _ _ _ _ hmem hkey).cons _
  -- one client's handshake begins or ends, the others' go on
  have hpending {client : Cl} {x : Option (Sess × Bytes)}
      (hx : ∀ session nonce, x = some (session, nonce) → .start client session nonce ∈ e :: es) :
      ∀ other session nonce, Function.update st.pending client x other = some (session, nonce) →
        .start other session nonce ∈ e :: es :=
    (Function.forall_update_iff _ fun other x => ∀ session nonce, x = some (session, nonce) →
      .start other session nonce ∈ e :: es).mpr
        ⟨hx, fun _ _ _ _ hp => List.mem_cons_of_mem _ (h.pending _ _ _ hp)⟩
  cases hs with
  | @refresh stores pending server env result files heval =>
      refine ⟨fun other key hkey => ?_, hfiles (by simp),
        fun client session nonce hp => List.mem_cons_of_mem _ (h.pending _ _ _ hp)⟩
      simp only [Function.update_apply] at hkey
      split at hkey
      · rename_i hother
        subst hother
        rcases refresh_privateKey heval hkey with ⟨ecdsa, hgen, hpriv⟩ | hold
        · exact ⟨env, ecdsa, List.mem_cons_self, hgen, hpriv⟩
        · exact (h.stores _ _ hold).cons _
      · exact (h.stores _ _ hkey).cons _
  | @attest stores pending server session request env result files heval =>
      have hsame : files = stores server := by
        have hread : (evalBody env (attestConnection request (N.sslObj session))
            (stores server)).2 = stores server :=
          evalBody_readOnly (attestConnection_readOnly request (N.sslObj session))
        rw [heval] at hread
        exact hread
      subst hsame
      refine ⟨?_, ?_, fun client session nonce hp => List.mem_cons_of_mem _ (h.pending _ _ _ hp)⟩
      · intro other key hkey
        simp only [Function.update_eq_self] at hkey
        exact (h.stores _ _ hkey).cons _
      · intro other session' request' env' files' result' key hmem hkey
        rcases List.mem_cons.mp hmem with heq | hmem
        · cases heq
          exact (h.stores _ _ hkey).cons _
        · exact (h.files _ _ _ _ _ _ _ hmem hkey).cons _
  | @start stores pending client session nonce =>
      refine ⟨fun server key hkey => (h.stores _ _ hkey).cons _, hfiles (by simp),
        hpending fun session' nonce' hp => ?_⟩
      cases hp
      exact List.mem_cons_self
  | @finish stores pending client session nonce received result hpend =>
      exact ⟨fun server key hkey => (h.stores _ _ hkey).cons _, hfiles (by simp),
        hpending fun session' nonce' hp => by cases hp⟩

theorem coherent {es : List (NetEvent Srv Sess Cl)} {st : NetState Srv Sess Cl}
    (h : Run N.system es st) : Coherent es st := by
  refine h.invariant (fun st hst => ?_) fun _ _ _ _ _ hcoh hstep => hcoh.step hstep
  subst hst
  exact ⟨fun _ _ hkey => (by cases hkey), fun _ _ _ _ _ _ _ hmem => absurd hmem List.not_mem_nil,
    fun _ _ _ hp => (by cases hp)⟩

/-! ### Keys and payloads -/

section
omit [DecidableEq Srv] [DecidableEq Cl]
variable {es : List (NetEvent Srv Sess Cl)}

/-- A signature that verifies does so under an elliptic-curve key. -/
theorem loaded_of_verifySessionSignature {libs : Libraries} {key : EcdsaP256PublicKey}
    {signature payload : Bytes}
    (h : verifySessionSignature libs key signature payload = .ok ()) :
    ∃ curve verify, libs.loadPemPublicKey key.keyBytes = .ok (.ellipticCurve curve verify) := by
  obtain ⟨k, hload, hverify⟩ := bind_eq_ok.mp (wrapAs_eq_ok.mp h)
  cases k with
  | ellipticCurve curve verify => exact ⟨curve, verify, hload⟩
  | other => cases hverify

theorem Generated.hashed {server : Srv} {ecdsa pqc : KeyPair} (N : Network Srv Sess Cl)
    (h : Generated es server ecdsa pqc) :
    ecdsa.pub ∈ es.flatMap N.hashed ∧ pqc.pub ∈ es.flatMap N.hashed := by
  obtain ⟨env, hmem, hecdsa, hpqc⟩ := h
  constructor
  · refine List.mem_flatMap.mpr ⟨_, hmem, ?_⟩
    simp [Network.hashed, hecdsa, answered]
  · refine List.mem_flatMap.mpr ⟨_, hmem, ?_⟩
    simp [Network.hashed, hpqc, answered]

/-- **A key listed by its fingerprint, and good for ECDSA, is the generated ECDSA key.** -/
theorem Admissible.key_eq (ha : N.Admissible es) {server : Srv} {ecdsa pqc : KeyPair}
    (hgen : Generated es server ecdsa pqc) {key : EcdsaP256PublicKey}
    (hkey : key.keyBytes ∈ es.flatMap N.hashed)
    (hlisted : fingerprint key.keyBytes ∈ fingerprints ecdsa pqc) {client : Cl}
    {signature payload : Bytes}
    (hverify : verifySessionSignature (N.validator client).libs key signature payload = .ok ()) :
    key.keyBytes = ecdsa.pub := by
  obtain ⟨hecdsa, hpqc⟩ := hgen.hashed N
  rcases List.mem_pair.mp hlisted with h | h
  · exact ha.sha256_inj _ hkey _ hecdsa (Bytes.hex_inj h)
  · have heq : key.keyBytes = pqc.pub := ha.sha256_inj _ hkey _ hpqc (Bytes.hex_inj h)
    obtain ⟨curve, verify, hload⟩ := loaded_of_verifySessionSignature hverify
    rw [heq] at hload
    exact absurd hload (ha.keyset_not_pem _ _ _ hgen client curve verify)

/-- **What a server has signed.**  The keying material is of the session and the nonce it was asked
with, the token is the one it had, and the key is of one of its own refreshes. -/
theorem Coherent.of_signed {st : NetState Srv Sess Cl} (h : Coherent es st)
    (hexports : ∀ session, Exports (N.sslObj session) (N.tls session)) {key payload : Bytes}
    (hs : (key, payload) ∈ es.flatMap N.signed) :
    ∃ server session request env files result token,
      .attest server session request env files result ∈ es ∧
      (key, payload) ∈ N.signed (.attest server session request env files result) ∧
      GeneratedPrivate es server key ∧
      (token = [] ∨ files .attestationToken = some token) ∧
      payload = signedPayload (N.tls session EKM_LENGTH EKM_LABEL request.nonce) token := by
  obtain ⟨e, he, hsigned⟩ := List.mem_flatMap.mp hs
  obtain ⟨server, session, request, env, files, result, rfl, hasked⟩ := mem_signed hsigned
  obtain ⟨ekm, token, hekm, hpriv, htoken, hpayload⟩ := signEcdsa_of_asked hasked
  obtain rfl := Except.ok.inj (hekm.symm.trans (extractEkm_eq (hexports session) request.nonce))
  exact ⟨server, session, request, env, files, result, token, he, hsigned,
    h.files _ _ _ _ _ _ _ he hpriv, htoken, hpayload⟩

/-- The payload says which keying material and which token were signed. -/
theorem Admissible.payload_inj (ha : N.Admissible es) {ekm token ekm' token' : Bytes}
    (hekm : ekm ∈ es.flatMap N.hashed) (htoken : token ∈ es.flatMap N.hashed)
    (hekm' : ekm' ∈ es.flatMap N.hashed) (htoken' : token' ∈ es.flatMap N.hashed)
    (h : signedPayload ekm token = signedPayload ekm' token') : ekm = ekm' ∧ token = token' := by
  obtain ⟨he, ht⟩ := serializeToString_inj (Bytes.length_sha256 _) (Bytes.length_sha256 _)
    (Bytes.length_sha256 _) (Bytes.length_sha256 _) h
  exact ⟨ha.sha256_inj _ hekm _ hekm' he, ha.sha256_inj _ htoken _ htoken' ht⟩

end

/-! ### Session binding -/

/-- **What a client has checked** of the response in a handshake that succeeds. -/
theorem accepted_of_finish {st st' : NetState Srv Sess Cl} {client : Cl} {session : Sess}
    {nonce : Bytes} {received : Except Exc HttpResponse}
    (hstep : N.Step st (.finish client session nonce received (.ok ())) st')
    {response : AttestConnectionResponse} (hresponse : N.accepted received = .ok response)
    {token : String} (htoken : extractGcaBundle response.evidence = .ok ⟨token⟩)
    {claims : Dict} (hclaims : validateOidcToken (N.validator client) token = .ok claims) :
    st.pending client = some (session, nonce) ∧ Accepted (N.validator client) response
      (N.tls session EKM_LENGTH EKM_LABEL nonce) none token claims := by
  cases hstep with
  | @finish stores pending _ _ _ _ _ hpend hexchange =>
  obtain ⟨reply, response', ekm, rfl, hprocess, hekm, hvalid⟩ := exchange_eq_ok.mp hexchange
  obtain rfl := Except.ok.inj hekm
  obtain rfl : response' = response := Except.ok.inj (hprocess.symm.trans hresponse)
  obtain ⟨token', claims', hacc⟩ := validate_eq_ok.mp hvalid
  obtain rfl : token' = token := by
    cases hacc.evidence.symm.trans htoken
    rfl
  obtain rfl : claims' = claims := Except.ok.inj (hacc.claims_eq.symm.trans hclaims)
  exact ⟨hpend, hacc⟩

omit [DecidableEq Srv] [DecidableEq Cl] in
/-- The client hashes the keying material, the response's ECDSA key and its token. -/
theorem finish_hashed {client : Cl} {session : Sess} {nonce : Bytes}
    {received : Except Exc HttpResponse} {result : Except Exc Unit}
    {response : AttestConnectionResponse} (hresponse : N.accepted received = .ok response)
    {token : String} (htoken : extractGcaBundle response.evidence = .ok ⟨token⟩) :
    N.hashed (.finish client session nonce received result) =
      [N.tls session EKM_LENGTH EKM_LABEL nonce, response.instancePublicKey.keyBytes,
        Bytes.encodeUtf8 token] := by
  rw [Network.hashed, hresponse]
  simp only [htoken]

/-- **Session binding.**  In every run up to a handshake a client accepts, the accepted token
listing the fingerprints of one key generation of a server: that server has answered an attestation
request on the client's own session and with the nonce the client drew for this handshake, and in it
has signed over the accepted token. -/
theorem session_binding {es : List (NetEvent Srv Sess Cl)} {st : NetState Srv Sess Cl}
    {client : Cl} {session : Sess} {nonce : Bytes} {received : Except Exc HttpResponse}
    (hrun : Run N.system (.finish client session nonce received (.ok ()) :: es) st)
    (ha : N.Admissible (.finish client session nonce received (.ok ()) :: es))
    {response : AttestConnectionResponse} (hresponse : N.accepted received = .ok response)
    {token : String} (htoken : extractGcaBundle response.evidence = .ok ⟨token⟩)
    {claims : Dict} (hclaims : validateOidcToken (N.validator client) token = .ok claims)
    {server : Srv} {ecdsa pqc : KeyPair} (hgen : Generated es server ecdsa pqc)
    {nonces : List Json} (hnonces : dictGet claims "eat_nonce" = .list nonces)
    (hlist : nonces.Perm ((fingerprints ecdsa pqc).map .str)) :
    .start client session nonce ∈ es ∧
      ∃ request env files result, .attest server session request env files result ∈ es ∧
        request.nonce = nonce ∧
        files .attestationToken = some (Bytes.encodeUtf8 token) ∧
        (ecdsa.priv, signedPayload (N.tls session EKM_LENGTH EKM_LABEL nonce)
          (Bytes.encodeUtf8 token)) ∈ N.signed (.attest server session request env files result) := by
  obtain ⟨st₀, hrun₀, hstep⟩ := hrun.last
  have hcoh := coherent hrun₀
  obtain ⟨hpend, hacc⟩ := accepted_of_finish hstep hresponse htoken hclaims
  refine ⟨hcoh.pending _ _ _ hpend, ?_⟩
  have hhashed {b : Bytes} (hb : b ∈ [N.tls session EKM_LENGTH EKM_LABEL nonce,
      response.instancePublicKey.keyBytes, Bytes.encodeUtf8 token]) :
      b ∈ List.flatMap N.hashed (.finish client session nonce received (.ok ()) :: es) :=
    List.mem_flatMap.mpr ⟨_, List.mem_cons_self, by rwa [finish_hashed hresponse htoken]⟩
  -- the response's ECDSA key is the server's
  have hgen' := hgen.cons (.finish client session nonce received (.ok ()))
  obtain ⟨hfp, -, -⟩ := (verifyInstanceKeyBinding_eq_ok_of_list hnonces).mp hacc.bound
  have hlisted : fingerprint response.instancePublicKey.keyBytes ∈ fingerprints ecdsa pqc := by
    obtain ⟨fp, hmem, heq⟩ := List.mem_map.mp (hlist.mem_iff.mp hfp)
    rwa [← Json.str.inj heq]
  have hkey := ha.key_eq hgen' (hhashed (by simp)) hlisted hacc.signature
  -- so some server has signed the payload, and it is that server
  have hverify := hacc.signature
  rw [show response.instancePublicKey = ⟨ecdsa.pub⟩ from congrArg EcdsaP256PublicKey.mk hkey]
    at hverify
  have hsigned := ha.unforgeable.1 _ _ _ _ _ _ rfl hresponse _ _ _ _ hgen' hverify
  obtain ⟨server', session', request, env, files, result, bytes, hattest, hmem, hpriv, hbytes,
    hpayload⟩ := hcoh.of_signed ha.exports hsigned
  obtain rfl : server = server' :=
    ha.private_inj _ _ _ (hgen.privateKey.cons _) (hpriv.cons _)
  -- the payload is of this session, this nonce and this token
  have hattestHashed {b : Bytes} (hb : b ∈ [N.tls session' EKM_LENGTH EKM_LABEL request.nonce, [],
      (files .attestationToken).getD []]) :
      b ∈ List.flatMap N.hashed (.finish client session nonce received (.ok ()) :: es) :=
    List.mem_flatMap.mpr ⟨_, List.mem_cons_of_mem _ hattest, hb⟩
  have hbytesHashed : bytes ∈ [N.tls session' EKM_LENGTH EKM_LABEL request.nonce, [],
      (files .attestationToken).getD []] := by
    rcases hbytes with rfl | hbytes
    · simp
    · simp [hbytes]
  obtain ⟨hekm, rfl⟩ := ha.payload_inj (hhashed (by simp)) (hhashed (by simp))
    (hattestHashed (by simp)) (hattestHashed hbytesHashed) hpayload
  obtain ⟨rfl, rfl⟩ := Prod.mk.inj (ha.ekm_inj (session, nonce)
    (List.mem_flatMap.mpr ⟨_, List.mem_cons_self, List.mem_cons_self⟩) (session', request.nonce)
    (List.mem_flatMap.mpr ⟨_, List.mem_cons_of_mem _ hattest, List.mem_cons_self⟩) hekm)
  refine ⟨request, env, files, result, hattest, rfl, hbytes.resolve_left fun hempty => ?_, hmem⟩
  exact hacc.token_ne (Bytes.utf8_encode_inj hempty)

end Network

/-! ### A relayed handshake -/

/-- The keying material of two sessions. -/
def relayTls (session : Bool) (_ : Nat) (_ context : Bytes) : Bytes :=
  (if session then 1 else 0) :: context

/-- What the server does on a session, asked with `toyNonce`. -/
def relayTranscript (session : Bool) : Transcript :=
  let payload := signedPayload (relayTls session EKM_LENGTH EKM_LABEL toyNonce) [84, 48]
  ⟨relayTls session EKM_LENGTH EKM_LABEL toyNonce, ⟨toyEcdsa 48, toyMldsa 48, [84, 48]⟩,
    [1, 48] ++ payload, [3, 48] ++ payload, "T0"⟩

/-- One server, with a session to the client and one to the adversary. -/
def relayNetwork : Network Unit Bool Unit where
  J := { toyFormat with
    loadsBytes := fun _ => .ok .none
    parseResponse := fun _ => .ok (relayTranscript false).response }
  audience _ := DEFAULT_AUDIENCE
  sslObj session :=
    ⟨none, fun length label context => .ok (some (relayTls session length label context))⟩
  tls := relayTls
  validator _ := toyValidator

/-- The reply the client receives. -/
def relayReply : HttpResponse := ⟨.ok [], 200, some "application/json"⟩

/-- The answer of the server on a session. -/
def relayAttest (session : Bool) : NetEvent Unit Bool Unit :=
  .attest () session (attestationRequest toyNonce) (toyAttempt 48 true) toyStore
    (.ok (relayTranscript session).response)

/-- The adversary asks the server on its own session with the client's nonce, and then lets the
client's request through. -/
def relayRun : List (NetEvent Unit Bool Unit) :=
  [relayAttest false, relayAttest true, .start () false toyNonce, .refresh () (toyAttempt 48 true)]

theorem relay_refresh : ∃ result, evalBody (toyAttempt 48 true) (Server.refresh DEFAULT_AUDIENCE)
    (fun _ => none) = (result, toyStore) := by
  obtain ⟨result, hresult, -⟩ := evalBody_refresh DEFAULT_AUDIENCE (toyAttempt 48 true) fun _ => none
  refine ⟨result, hresult.trans (congrArg _ ?_)⟩
  rw [toyAttempt_filesReplaced, toyAttempt_identity]
  funext f
  cases f <;> rfl

theorem relay_transcript (session : Bool) : (relayTranscript session).Of (toyAttempt 48 true)
    (attestationRequest toyNonce) (relayNetwork.sslObj session) toyStore :=
  ⟨⟨by simp [attestationRequest], by simp [attestationRequest]⟩, rfl, fun _ => rfl, rfl, rfl, rfl,
    rfl, rfl, rfl, rfl, Bytes.utf8_decode_encode "T0"⟩

theorem relay_attest (session : Bool) :
    evalBody (toyAttempt 48 true) (attestConnection (attestationRequest toyNonce)
      (relayNetwork.sslObj session)) toyStore =
        (.ok (relayTranscript session).response, toyStore) :=
  (evalBody_attestConnection fun e he => by cases he).mpr
    ⟨rfl, relayTranscript session, relay_transcript session, rfl⟩

theorem relay_accepted : relayNetwork.accepted (.ok relayReply) =
    .ok (relayTranscript false).response := by
  have hload : relayNetwork.J.loadsBytes [] = .ok .none := rfl
  have hparse : relayNetwork.J.parseResponse .none = .ok (relayTranscript false).response := rfl
  exact processAttestationResponse_json hload hparse

theorem relay_valid : validate toyValidator (relayTranscript false).response
    (relayTls false EKM_LENGTH EKM_LABEL toyNonce) none = .ok () := by
  have heat : dictGet [("eat_nonce", .list ((toyNonces 48).map .str))] "eat_nonce" =
      .list ((toyNonces 48).map .str) := rfl
  refine validate_eq_ok.mpr ⟨"T0", _, rfl, by decide, rfl, rfl, by decide,
    by decide, (verifyInstanceKeyBinding_eq_ok_of_list heat).mpr ⟨List.mem_cons_self,
      List.mem_cons_of_mem _ List.mem_cons_self, fun n hn => by cases hn⟩, ?_, ?_,
    toyLibs_ecdsa.mpr rfl, toyLibs_mldsa.mpr rfl⟩
  · exact List.cons_ne_nil _ _
  · exact List.cons_ne_nil _ _

/-- The network with nobody in a handshake, the server's files being `files`. -/
def relayState (files : Store) (pending : Option (Bool × Bytes)) : NetState Unit Bool Unit :=
  ⟨fun _ => files, fun _ => pending⟩

theorem relay_update {α : Type} (x y : α) :
    Function.update (fun _ : Unit => x) () y = fun _ => y := rfl

/-- The run up to the handshake the client accepts. -/
theorem relay_run : Run relayNetwork.system
    (.finish () false toyNonce (.ok relayReply) (.ok ()) :: relayRun) (relayState toyStore none) := by
  have hrefresh : relayNetwork.Step (relayState (fun _ => none) none)
      (.refresh () (toyAttempt 48 true)) (relayState toyStore none) := by
    obtain ⟨result, hresult⟩ := relay_refresh
    have h : relayNetwork.Step ⟨fun _ _ => none, fun _ => none⟩ (.refresh () (toyAttempt 48 true))
        ⟨Function.update (fun _ _ => none) () toyStore, fun _ => none⟩ := .refresh hresult
    rwa [relay_update] at h
  have hstart : relayNetwork.Step (relayState toyStore none) (.start () false toyNonce)
      (relayState toyStore (some (false, toyNonce))) := by
    have h : relayNetwork.Step ⟨fun _ => toyStore, fun _ => none⟩ (.start () false toyNonce)
        ⟨fun _ => toyStore, Function.update (fun _ => none) () (some (false, toyNonce))⟩ := .start rfl
    rwa [relay_update] at h
  have hattest (session : Bool) : relayNetwork.Step (relayState toyStore (some (false, toyNonce)))
      (relayAttest session) (relayState toyStore (some (false, toyNonce))) := by
    have h : relayNetwork.Step (relayState toyStore (some (false, toyNonce))) (relayAttest session)
        ⟨Function.update (fun _ => toyStore) () toyStore, fun _ => some (false, toyNonce)⟩ :=
      .attest (relay_attest session)
    rwa [relay_update] at h
  have hfinish : relayNetwork.Step (relayState toyStore (some (false, toyNonce)))
      (.finish () false toyNonce (.ok relayReply) (.ok ())) (relayState toyStore none) := by
    have h : relayNetwork.Step (relayState toyStore (some (false, toyNonce)))
        (.finish () false toyNonce (.ok relayReply) (.ok ()))
        ⟨fun _ => toyStore, Function.update (fun _ => some (false, toyNonce)) () none⟩ :=
      .finish rfl (exchange_eq_ok.mpr ⟨relayReply, _, _, rfl, relay_accepted, rfl, relay_valid⟩)
    rwa [relay_update] at h
  exact ((((Run.init rfl).step hrefresh).step hstart).step (hattest true)).step (hattest false)
    |>.step hfinish

theorem relayTls_inj {a b : Bool × Bytes} (h : relayTls a.1 EKM_LENGTH EKM_LABEL a.2 =
    relayTls b.1 EKM_LENGTH EKM_LABEL b.2) : a = b := by
  obtain ⟨session, context⟩ := a
  obtain ⟨session', context'⟩ := b
  obtain ⟨hfirst, rfl⟩ := List.cons.inj h
  cases session <;> cases session' <;> first | rfl | cases hfirst

/-- The pairs of the one refresh. -/
theorem relay_generated {ecdsa pqc : KeyPair}
    (h : Network.Generated (.finish () false toyNonce (.ok relayReply) (.ok ()) :: relayRun) ()
      ecdsa pqc) :
    ecdsa = toyEcdsa 48 ∧ pqc = toyMldsa 48 := by
  obtain ⟨env, hmem, hecdsa, hpqc⟩ := h
  obtain rfl : env = toyAttempt 48 true := by simpa [relayRun, relayAttest] using hmem
  cases hecdsa
  cases hpqc
  exact ⟨rfl, rfl⟩

/-- The six byte strings hashed in the run. -/
def relayHashed : List Bytes :=
  [relayTls false EKM_LENGTH EKM_LABEL toyNonce, relayTls true EKM_LENGTH EKM_LABEL toyNonce,
    [2, 48], [4, 48], [84, 48], []]

theorem relay_sha256 : ∀ a ∈ relayHashed, ∀ b ∈ relayHashed,
    Bytes.sha256 a = Bytes.sha256 b → a = b := by
  decide +kernel

theorem relay_hashed {b : Bytes} (h : b ∈ List.flatMap relayNetwork.hashed
    (.finish () false toyNonce (.ok relayReply) (.ok ()) :: relayRun)) : b ∈ relayHashed := by
  have htoken : Bytes.encodeUtf8 "T0" = [84, 48] := by decide +kernel
  obtain ⟨e, he, hb⟩ := List.mem_flatMap.mp h
  rcases List.mem_cons.mp he with rfl | he
  · rw [Network.hashed, relay_accepted] at hb
    rcases List.mem_cons.mp hb with rfl | hb
    · exact List.mem_cons_self
    · have hb' : b ∈ [[2, 48], Bytes.encodeUtf8 "T0"] := hb
      rw [htoken] at hb'
      rcases List.mem_pair.mp hb' with rfl | rfl <;> simp [relayHashed]
  · have hattest (session : Bool) : relayNetwork.hashed (relayAttest session) =
        [relayTls session EKM_LENGTH EKM_LABEL toyNonce, [], [84, 48]] := rfl
    have hrefresh : relayNetwork.hashed (.refresh () (toyAttempt 48 true)) = [[2, 48], [4, 48]] := rfl
    simp only [relayRun, List.mem_cons, List.not_mem_nil, or_false] at he
    rcases he with rfl | rfl | rfl | rfl
    · rw [hattest] at hb
      simp only [relayHashed, List.mem_cons] at hb ⊢
      tauto
    · rw [hattest] at hb
      simp only [relayHashed, List.mem_cons] at hb ⊢
      tauto
    · cases hb
    · rw [hrefresh] at hb
      simp only [relayHashed, List.mem_cons] at hb ⊢
      tauto

theorem relay_admissible : relayNetwork.Admissible
    (.finish () false toyNonce (.ok relayReply) (.ok ()) :: relayRun) where
  exports session := ⟨fun _ => rfl, fun h => by cases h⟩
  ekm_inj a _ b _ h := relayTls_inj h
  sha256_inj a ha b hb h := relay_sha256 a (relay_hashed ha) b (relay_hashed hb) h
  private_inj _ _ _ _ _ := rfl
  keyset_not_pem server ecdsa pqc hgen client curve verify := by
    obtain ⟨-, rfl⟩ := relay_generated hgen
    exact fun h => (by cases h)
  unforgeable := by
    refine ⟨?_, by simp [Always, relayRun, relayAttest]⟩
    rintro client session nonce received result response heq hresponse server ecdsa pqc payload hgen
      hverify
    obtain ⟨rfl, rfl, rfl, rfl, rfl⟩ := NetEvent.finish.inj heq
    obtain ⟨rfl, -⟩ := relay_generated hgen
    obtain rfl := Except.ok.inj (relay_accepted.symm.trans hresponse)
    obtain rfl : (relayTranscript false).payload = payload :=
      (List.append_cancel_left (toyLibs_ecdsa.mp hverify))
    refine List.mem_flatMap.mpr ⟨relayAttest false, List.mem_cons_self, ?_⟩
    exact List.mem_filterMap.mpr ⟨_, (relay_transcript false).asked, rfl⟩

/-- In that run the server has answered on the client's session. -/
theorem relay_bound :
    .start () false toyNonce ∈ relayRun ∧
      ∃ request env files result, .attest () false request env files result ∈ relayRun ∧
        request.nonce = toyNonce ∧
        files .attestationToken = some (Bytes.encodeUtf8 "T0") ∧
        ((toyEcdsa 48).priv, signedPayload (relayTls false EKM_LENGTH EKM_LABEL toyNonce)
          (Bytes.encodeUtf8 "T0")) ∈
            relayNetwork.signed (.attest () false request env files result) := by
  have hclaims : validateOidcToken toyValidator "T0" =
      .ok [("eat_nonce", .list ((toyNonces 48).map .str))] := rfl
  refine Network.session_binding relay_run relay_admissible relay_accepted rfl hclaims
    ⟨toyAttempt 48 true, ?_, rfl, rfl⟩ rfl (.refl _)
  simp [relayRun]

end PromptEncryption
