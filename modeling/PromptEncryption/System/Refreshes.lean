import PromptEncryption.System.Signatures

/-!
# System — what is served after a history of refreshes

`TokenManager.refresh` called one time after another from an empty store, each attempt getting as
far as its environment lets it (`storeAfter`), and then `attest_connection` with no refresh running.

A file holds what the last attempt that replaced it put there (`storeAfter_eq`), so the five files
are of one attempt exactly where no later attempt stopped half way.

* `served_bound_iff`: every response served is bound (`Bound`) exactly when nothing is served, as no
  attempt got as far as the ML-DSA public key or the token stored is no text, or the last attempt that
  replaced any file replaced all of them, with a token for its keys (`LastBinds`).
* `failedFetch_unbound`: a token fetch that fails after a completed refresh.
-/

namespace PromptEncryption.Server
open Python Programs
open Client (DEFAULT_AUDIENCE)

/-- The store after the attempts of `history`, the newest first. -/
def storeAfter (audience : String) : List ServerEnv → Store
  | [] => fun _ => none
  | env :: earlier => (evalBody env (refresh audience) (storeAfter audience earlier)).2

/-- A file holds what the last attempt that replaced it put there. -/
theorem storeAfter_eq (audience : String) (history : List ServerEnv) (f : File) :
    storeAfter audience history f =
      (history.find? fun env => decide (f.index < filesReplaced audience env)).map
        fun env => (attemptIdentity audience env).content f := by
  induction history with
  | nil => rfl
  | cons env earlier ih =>
      obtain ⟨r, hr, -⟩ := evalBody_refresh audience env (storeAfter audience earlier)
      simp only [storeAfter, hr, Store.overwrite, List.find?_cons]
      by_cases h : f.index < filesReplaced audience env
      · simp [h]
      · simp [h, ih]

/-! ### Bound responses -/

/-- A response with a non-empty token that lists the fingerprints of both its keys, and with
signatures of the call's payload that verify under them. -/
def Bound (libs : Client.Libraries) (nonces : Bytes → List String) (ekm : Bytes)
    (response : AttestConnectionResponse) : Prop :=
  ∃ token, Client.extractGcaBundle response.evidence = .ok ⟨token⟩ ∧ token ≠ "" ∧
    calculateFingerprint response.instancePublicKey.keyBytes ∈ nonces (Bytes.encodeUtf8 token) ∧
    calculateFingerprint response.pqcPublicKey.serializedPublicKeyset ∈
      nonces (Bytes.encodeUtf8 token) ∧
    Client.verifySessionSignature libs response.instancePublicKey response.sessionSignature
      (Client.sessionPayload token ekm) = .ok () ∧
    Client.verifySessionSignatureMldsa libs response.pqcPublicKey response.pqcSessionSignature
      (Client.sessionPayload token ekm) = .ok ()

/-- Every response `attest_connection` returns on the store is bound. -/
def ServesBound (answers : Answers) (libs : Client.Libraries) (nonces : Bytes → List String)
    (s : Store) : Prop :=
  ∀ env request sslObj response s', Obeys answers env →
    evalBody env (attestConnection request sslObj) s = (.ok response, s') →
    ∃ ekm, extractEkm request.nonce sslObj = .ok ekm ∧ Bound libs nonces ekm response

/-- No attempt replaced the ML-DSA public key. -/
def NoneServed (audience : String) (history : List ServerEnv) : Prop :=
  ∀ env ∈ history, filesReplaced audience env < 4

/-- The token stored last is no text. -/
def Undecodable (audience : String) (history : List ServerEnv) : Prop :=
  ∃ env, (history.find? fun env => decide (4 < filesReplaced audience env)) = some env ∧
    Bytes.decodeUtf8 (attemptIdentity audience env).token = none

/-- The token is not empty, and lists the fingerprints of both keys. -/
structure TokenBinds (nonces : Bytes → List String) (i : Identity) : Prop where
  nonempty : i.token ≠ []
  ecdsa : calculateFingerprint i.ecdsa.pub ∈ nonces i.token
  pqc : calculateFingerprint i.pqc.pub ∈ nonces i.token

/-- The last attempt that replaced any file replaced all of them, and was given a token for its
keys. -/
def LastBinds (audience : String) (nonces : Bytes → List String) (history : List ServerEnv) : Prop :=
  ∃ env, (history.find? fun env => decide (0 < filesReplaced audience env)) = some env ∧
    filesReplaced audience env = 5 ∧ TokenBinds nonces (attemptIdentity audience env)

/-- The keys generated in a history are distinct, and so are their fingerprints. -/
structure Distinct (audience : String) (history : List ServerEnv) : Prop where
  /-- Attempts that generated one ECDSA key are one attempt. -/
  ecdsa : ∀ a ∈ history, ∀ b ∈ history, 0 < filesReplaced audience a →
    0 < filesReplaced audience b →
    calculateFingerprint (attemptIdentity audience a).ecdsa.pub =
      calculateFingerprint (attemptIdentity audience b).ecdsa.pub → a = b
  /-- No ECDSA key has the fingerprint of an ML-DSA keyset. -/
  kinds : ∀ a ∈ history, ∀ b ∈ history, 0 < filesReplaced audience a →
    2 < filesReplaced audience b →
    calculateFingerprint (attemptIdentity audience a).ecdsa.pub ≠
      calculateFingerprint (attemptIdentity audience b).pqc.pub

section
variable {answers : Answers} {libs : Client.Libraries} {nonces : Bytes → List String}
  {audience : String} {history : List ServerEnv}

/-- A response made of one attempt's keys and a token for them is bound. -/
theorem Transcript.bound_of_files (hsig : Signatures answers libs)
    {t : Transcript} {env call : ServerEnv} {request : AttestConnectionRequest}
    {sslObj : SslObject} {s : Store} (ht : t.Of call request sslObj s) (hcall : Obeys answers call)
    (henv : Obeys answers env) (hn : filesReplaced audience env = 5)
    (hfiles : t.files = attemptIdentity audience env)
    (hbinds : TokenBinds nonces (attemptIdentity audience env)) :
    Bound libs nonces t.ekm t.response := by
  have hpos : 0 < filesReplaced audience env ∧ 2 < filesReplaced audience env := by omega
  have hecdsa := henv.answer (generated_ecdsa hpos.1)
  have hpqc := henv.answer (generated_pqc hpos.2)
  rw [← hfiles] at hecdsa hpqc hbinds
  have htext : Bytes.encodeUtf8 t.tokenText = t.files.token := Bytes.utf8_encode_decode ht.tokenText
  have hpayload : Client.sessionPayload t.tokenText t.ekm = t.payload := by
    rw [Client.sessionPayload, htext]; rfl
  refine ⟨t.tokenText, rfl, ?_, ?_, ?_, ?_, ?_⟩
  · rintro h0
    rw [h0] at htext
    exact hbinds.nonempty htext.symm
  · rw [htext]
    exact hbinds.ecdsa
  · rw [htext]
    exact hbinds.pqc
  · rw [hpayload]
    exact (hsig.ecdsa hecdsa _ _ (hcall.answer ht.signature)).2
  · rw [hpayload]
    exact (hsig.mldsa hpqc _ _ (hcall.answer ht.pqcSignature)).2

theorem filesReplaced_le (audience : String) (env : ServerEnv) : filesReplaced audience env ≤ 5 := by
  unfold filesReplaced; split_ifs <;> omega

/-- After a completed attempt and attempts that replaced nothing, the store is that attempt's. -/
theorem storeAfter_of_last {env : ServerEnv}
    (h : (history.find? fun env => decide (0 < filesReplaced audience env)) = some env)
    (hn : filesReplaced audience env = 5) (f : File) :
    storeAfter audience history f = some ((attemptIdentity audience env).content f) := by
  obtain ⟨-, later, earlier, rfl, hlater⟩ := List.find?_eq_some_iff_append.mp h
  rw [storeAfter_eq, List.find?_append, List.find?_eq_none.mpr fun a ha => ?_, List.find?_cons_of_pos]
  · rfl
  · rw [hn]; cases f <;> decide
  · have h0 : filesReplaced audience a = 0 := by simpa using hlater a ha
    simp [h0]

/-- There is a call that every answerable question of is answered, and that nothing fails in. -/
theorem exists_call (answers : Answers) :
    ∃ env : ServerEnv, Obeys answers env ∧ (∀ f, env.readFault f = none) ∧
      ∀ q, (∃ a, answers q a) → ∃ a, env.answer q = .ok a := by
  classical
  refine ⟨⟨fun q => if h : ∃ a, answers q a then .ok h.choose else .error ⟨.runtimeError, []⟩,
    fun _ => none, fun _ => none⟩, ⟨fun {q a} h => ?_, fun h => by cases h⟩, fun _ => rfl,
    fun q h => ⟨h.choose, dif_pos h⟩⟩
  dsimp only at h
  split at h
  · rename_i hq
    cases h
    exact hq.choose_spec
  · cases h

/-- Where the key files exist and the token is text, some call returns a response. -/
theorem exists_response (hsig : Signatures answers libs) {s : Store} {a d : KeyPair}
    {pub pqcPub : Bytes} (ha : answers .generateEcdsa a) (hd : answers .generateMldsa d)
    (hpriv : s .privateKey = some a.priv) (hpub : s .publicKey = some pub)
    (hpqcPriv : s .pqcPrivateKey = some d.priv) (hpqcPub : s .pqcPublicKey = some pqcPub)
    {text : String} (htext : Bytes.decodeUtf8 ((s .attestationToken).getD []) = some text)
    (hserves : ServesBound answers libs nonces s) :
    ∃ (t : Transcript) (call : ServerEnv), Obeys answers call ∧
      t.files = ⟨⟨a.priv, pub⟩, ⟨d.priv, pqcPub⟩, (s .attestationToken).getD []⟩ ∧
      t.tokenText = text ∧ answers (.signEcdsa a.priv t.payload) t.signature ∧
      Bound libs nonces t.ekm t.response := by
  obtain ⟨call, hcall, hreads, hanswer⟩ := exists_call answers
  let payload := signedPayload [] ((s .attestationToken).getD [])
  obtain ⟨sig, hs⟩ := hanswer (.signEcdsa a.priv payload) (hsig.ecdsa_signs ha payload)
  obtain ⟨pqcSig, hs'⟩ := hanswer (.signMldsa d.priv payload) (hsig.mldsa_signs hd payload)
  let t : Transcript := ⟨[], ⟨⟨a.priv, pub⟩, ⟨d.priv, pqcPub⟩, (s .attestationToken).getD []⟩,
    sig, pqcSig, text⟩
  let sslObj : SslObject := ⟨none, fun _ _ _ => .ok (some [])⟩
  have ht : t.Of call ⟨[.gca], []⟩ sslObj s :=
    ⟨⟨by simp, by simp⟩, rfl, hreads, hpub, hpqcPub, rfl, hpriv, hpqcPriv, hs, hs', htext⟩
  obtain ⟨ekm, hekm, hbound⟩ := hserves call ⟨[.gca], []⟩ sslObj t.response s hcall
    ((evalBody_attestConnection fun e he => hcall.exists_ he).mpr ⟨rfl, t, ht, rfl⟩)
  obtain rfl : t.ekm = ekm := Except.ok.inj (ht.ekm.symm.trans hekm)
  exact ⟨t, call, hcall, rfl, rfl, hcall.answer hs, hbound⟩

/-- The last attempt that replaced a file, where some attempt got that far. -/
theorem exists_lastReplaced (h : ¬ NoneServed audience history) {n : Nat} (hn : n ≤ 3) :
    ∃ env, (history.find? fun env => decide (n < filesReplaced audience env)) = some env ∧
      env ∈ history ∧ n < filesReplaced audience env := by
  obtain ⟨b, hb, h4⟩ : ∃ b ∈ history, 4 ≤ filesReplaced audience b := by
    simpa [NoneServed] using h
  cases hf : history.find? fun env => decide (n < filesReplaced audience env) with
  | none => exact absurd (List.find?_eq_none.mp hf b hb) (by simp; omega)
  | some env =>
      exact ⟨env, rfl, List.mem_of_find?_eq_some hf, by simpa using List.find?_some hf⟩

/-- Where no public keyset was ever written, nothing is served. -/
theorem servesBound_of_noneServed (h : NoneServed audience history) :
    ServesBound answers libs nonces (storeAfter audience history) := by
  intro call request sslObj response s' hcall heval
  obtain ⟨-, t, ht, -⟩ := (evalBody_attestConnection fun e he => hcall.exists_ he).mp heval
  have hnever : storeAfter audience history .pqcPublicKey = none := by
    rw [storeAfter_eq, List.find?_eq_none.mpr fun env henv => ?_]
    · rfl
    · intro hreplaced
      have hreplaced' : 3 < filesReplaced audience env := of_decide_eq_true hreplaced
      have hle := h env henv
      omega
  exact absurd (hnever.symm.trans ht.pqcPublicKey) (by simp)

/-- The token stored last. -/
theorem storedToken_eq {env : ServerEnv}
    (h : (history.find? fun env => decide (4 < filesReplaced audience env)) = some env) :
    (storeAfter audience history .attestationToken).getD [] = (attemptIdentity audience env).token := by
  rw [storeAfter_eq, show File.attestationToken.index = 4 from rfl, h]
  rfl

/-- Where the token stored is no text, nothing is served. -/
theorem servesBound_of_undecodable (h : Undecodable audience history) :
    ServesBound answers libs nonces (storeAfter audience history) := by
  intro call request sslObj response s' hcall heval
  obtain ⟨env, hlast, hnone⟩ := h
  obtain ⟨-, t, ht, -⟩ := (evalBody_attestConnection fun e he => hcall.exists_ he).mp heval
  have htext := ht.tokenText
  rw [← ht.token, storedToken_eq hlast, hnone] at htext
  cases htext

/-- What is served of one refresh, with a token for its keys, is bound. -/
theorem servesBound_of_lastBinds (hsig : Signatures answers libs)
    (hobeys : ∀ env ∈ history, Obeys answers env) (h : LastBinds audience nonces history) :
    ServesBound answers libs nonces (storeAfter audience history) := by
  intro call request sslObj response s' hcall heval
  obtain ⟨env, hlast, hn, hbinds⟩ := h
  obtain ⟨-, t, ht, rfl⟩ := (evalBody_attestConnection fun e he => hcall.exists_ he).mp heval
  exact ⟨t.ekm, ht.ekm, Transcript.bound_of_files hsig ht hcall
    (hobeys env (List.mem_of_find?_eq_some hlast)) hn
    (ht.files_eq (storeAfter_of_last hlast hn)) hbinds⟩

/-- Where no token was ever stored, a response carries the empty text. -/
theorem not_servesBound_of_no_token (hsig : Signatures answers libs) {s : Store} {a d : KeyPair}
    {pub pqcPub : Bytes} (ha : answers .generateEcdsa a) (hd : answers .generateMldsa d)
    (hpriv : s .privateKey = some a.priv) (hpub : s .publicKey = some pub)
    (hpqcPriv : s .pqcPrivateKey = some d.priv) (hpqcPub : s .pqcPublicKey = some pqcPub)
    (htoken : s .attestationToken = none) : ¬ ServesBound answers libs nonces s := by
  intro hserves
  have htext : Bytes.decodeUtf8 ((s .attestationToken).getD []) = some "" := by
    rw [htoken]
    exact Bytes.utf8_decode_encode ""
  obtain ⟨t, call, -, -, ht, -, token, hev, hne, -⟩ :=
    exists_response hsig ha hd hpriv hpub hpqcPriv hpqcPub htext hserves
  cases hev
  exact hne ht

/-- **A bound response is of one refresh.**  The attempt `a` that left the private key is the one
that left the public key, since the signature verifies, and the one that left the token, since it
lists that key. -/
theorem lastBinds_of_servesBound (hsig : Signatures answers libs) (hlisted : ListsAsked answers nonces)
    (hobeys : ∀ env ∈ history, Obeys answers env) (hdist : Distinct audience history)
    (hserves : ServesBound answers libs nonces (storeAfter audience history))
    (hsome : ¬ NoneServed audience history) (htext : ¬ Undecodable audience history) :
    LastBinds audience nonces history := by
  obtain ⟨a, ha, ham, han⟩ := exists_lastReplaced hsome (n := 0) (by omega)
  obtain ⟨c, hc, hcm, hcn⟩ := exists_lastReplaced hsome (n := 1) (by omega)
  obtain ⟨d, hd, hdm, hdn⟩ := exists_lastReplaced hsome (n := 2) (by omega)
  obtain ⟨e, he, -, hen⟩ := exists_lastReplaced hsome (n := 3) (by omega)
  have hfile (f : File) := storeAfter_eq audience history f
  have hpriv := (hfile .privateKey).trans (congrArg _ ha)
  have hpub := (hfile .publicKey).trans (congrArg _ hc)
  have hpqcPriv := (hfile .pqcPrivateKey).trans (congrArg _ hd)
  have hpqcPub := (hfile .pqcPublicKey).trans (congrArg _ he)
  have hka := (hobeys a ham).answer (generated_ecdsa han)
  have hkc := (hobeys c hcm).answer (generated_ecdsa (Nat.zero_lt_of_lt hcn))
  have hkd := (hobeys d hdm).answer (generated_pqc hdn)
  cases hb : history.find? fun env => decide (4 < filesReplaced audience env) with
  | none =>
      -- no token was ever stored
      have hnone : storeAfter audience history .attestationToken = none := by
        rw [hfile, show File.attestationToken.index = 4 from rfl, hb]; rfl
      exact absurd hserves
        (not_servesBound_of_no_token hsig hka hkd hpriv hpub hpqcPriv hpqcPub hnone)
  | some b =>
      have hbm := List.mem_of_find?_eq_some hb
      have hbn : filesReplaced audience b = 5 := by
        have h4 : 4 < filesReplaced audience b := by simpa using List.find?_some hb
        have h5 := filesReplaced_le audience b
        omega
      have hfetch := (hobeys b hbm).answer (fetched_token hbn)
      have htoken := storedToken_eq hb
      obtain ⟨text, htext⟩ := Option.ne_none_iff_exists'.mp fun hno => htext ⟨b, hb, hno⟩
      rw [← htoken] at htext
      obtain ⟨t, call, hcall, hfiles, ht, hsigned, token, hev, hne, hfp, hfp', hver, -⟩ :=
        exists_response hsig hka hkd hpriv hpub hpqcPriv hpqcPub htext hserves
      cases hev
      have hbytes : Bytes.encodeUtf8 t.tokenText = (attemptIdentity audience b).token := by
        rw [ht, ← htoken]; exact Bytes.utf8_encode_decode htext
      have hpubt : t.files.ecdsa.pub = (attemptIdentity audience c).ecdsa.pub := by rw [hfiles]; rfl
      -- the signature is by the key the private file holds, so the public file is as new
      have hca : c = a := by
        have hpayload : Client.sessionPayload t.tokenText t.ekm = t.payload := by
          rw [Client.sessionPayload, hbytes, ← htoken, Transcript.payload, hfiles]; rfl
        change Client.verifySessionSignature libs ⟨t.files.ecdsa.pub⟩ t.signature _ = .ok () at hver
        rw [hpubt, hpayload] at hver
        have hpub' := hsig.ecdsa_only hka hkc hsigned hver
        exact hdist.ecdsa c hcm a ham (by omega) han (congrArg calculateFingerprint hpub')
      change calculateFingerprint t.files.ecdsa.pub ∈ _ at hfp
      change calculateFingerprint t.files.pqc.pub ∈ _ at hfp'
      -- the token lists the fingerprints of the attempt that stored it
      have hcb : c = b := by
        rw [hbytes, hpubt] at hfp
        rcases List.mem_pair.mp (hlisted hfetch hfp) with hcb | hcb
        · exact hdist.ecdsa c hcm b hbm (by omega) (by omega) hcb
        · exact absurd hcb (hdist.kinds c hcm b hbm (by omega) (by omega))
      subst hca hcb
      -- and so the ML-DSA public key is its own
      have hpqct : t.files.pqc.pub = (attemptIdentity audience c).pqc.pub := by
        have hlast := storeAfter_of_last ha hbn .pqcPublicKey
        rw [hfiles]
        exact Option.some.inj (hpqcPub.symm.trans hlast)
      rw [hbytes, hpubt] at hfp
      rw [hbytes, hpqct] at hfp'
      refine ⟨c, ha, hbn, ?_, hfp, hfp'⟩
      intro hempty
      have hnil : Bytes.encodeUtf8 t.tokenText = Bytes.encodeUtf8 "" := hbytes.trans hempty
      exact hne (Bytes.utf8_encode_inj hnil)

/-- **What is served is bound exactly after a refresh with a token for its keys.**  Every response is
bound just where nothing can be served, some key file never having been written or the token being no
text, or the last refresh that replaced any file replaced all of them and was given a token that lists
its keys. -/
theorem served_bound_iff (hsig : Signatures answers libs) (hlisted : ListsAsked answers nonces)
    (hobeys : ∀ env ∈ history, Obeys answers env) (hdist : Distinct audience history) :
    ServesBound answers libs nonces (storeAfter audience history) ↔
      NoneServed audience history ∨ Undecodable audience history ∨
        LastBinds audience nonces history := by
  constructor
  · intro hserves
    by_cases hnone : NoneServed audience history
    · exact .inl hnone
    · by_cases htext : Undecodable audience history
      · exact .inr (.inl htext)
      · exact .inr (.inr
          (lastBinds_of_servesBound hsig hlisted hobeys hdist hserves hnone htext))
  · rintro (hnone | htext | hlast)
    · exact servesBound_of_noneServed hnone
    · exact servesBound_of_undecodable htext
    · exact servesBound_of_lastBinds hsig hobeys hlast

end

/-! ### A fetch that fails after a completed refresh -/

/-- A completed refresh, then one whose token fetch fails. -/
def failedFetch : List ServerEnv := [toyAttempt 49 false, toyAttempt 48 true]

theorem failedFetch_iff :
    ServesBound toyAnswers toyLibs toyTokenNonces (storeAfter DEFAULT_AUDIENCE failedFetch) ↔
      NoneServed DEFAULT_AUDIENCE failedFetch ∨ Undecodable DEFAULT_AUDIENCE failedFetch ∨
        LastBinds DEFAULT_AUDIENCE toyTokenNonces failedFetch := by
  have hmem : ∀ env ∈ failedFetch,
      (attemptIdentity DEFAULT_AUDIENCE env).ecdsa.pub ∈ toyPublicKeys ∧
      (attemptIdentity DEFAULT_AUDIENCE env).pqc.pub ∈ toyPublicKeys := by
    intro env henv
    rcases List.mem_pair.mp henv with rfl | rfl
    · exact ⟨List.mem_of_getElem? (i := 1) rfl, List.mem_of_getElem? (i := 3) rfl⟩
    · exact ⟨List.mem_of_getElem? (i := 0) rfl, List.mem_of_getElem? (i := 2) rfl⟩
  refine served_bound_iff toy_signatures toy_tokens.listsAsked ?_ ⟨?_, ?_⟩
  · intro env henv
    rcases List.mem_pair.mp henv with rfl | rfl
    · exact toyAttempt_obeys (.inr rfl) false
    · exact toyAttempt_obeys (.inl rfl) true
  · intro a ha b hb _ _ h
    have heq := toy_fingerprint_inj _ (hmem a ha).1 _ (hmem b hb).1 h
    rcases List.mem_pair.mp ha with rfl | rfl <;> rcases List.mem_pair.mp hb with rfl | rfl
    · rfl
    · cases heq
    · cases heq
    · rfl
  · intro a ha b hb _ _ h
    have heq := toy_fingerprint_inj _ (hmem a ha).1 _ (hmem b hb).2 h
    rcases List.mem_pair.mp ha with rfl | rfl <;> rcases List.mem_pair.mp hb with rfl | rfl <;>
      cases heq

/-- The new keys are served with the old token, which does not list them. -/
theorem failedFetch_unbound :
    ¬ ServesBound toyAnswers toyLibs toyTokenNonces
      (storeAfter DEFAULT_AUDIENCE failedFetch) := by
  intro hserves
  have hstore (f : File) : storeAfter DEFAULT_AUDIENCE failedFetch f =
      some ((⟨toyEcdsa 49, toyMldsa 49, [84, 48]⟩ : Identity).content f) := by
    rw [storeAfter_eq, failedFetch]
    simp only [List.find?_cons, toyAttempt_filesReplaced]
    cases f with
    | attestationToken =>
        have htoken := congrArg (fun i => some (Identity.token i)) (toyAttempt_identity 48)
        exact htoken
    | _ => rfl
  let payload := signedPayload [] [84, 48]
  let t : Transcript := ⟨[], ⟨toyEcdsa 49, toyMldsa 49, [84, 48]⟩, [1, 49] ++ payload,
    [3, 49] ++ payload, "T0"⟩
  have ht : t.Of (toyAttempt 49 false) ⟨[.gca], []⟩ ⟨none, fun _ _ _ => .ok (some [])⟩
      (storeAfter DEFAULT_AUDIENCE failedFetch) :=
    ⟨⟨by simp, by simp⟩, rfl, fun _ => rfl, hstore _, hstore _, by rw [hstore]; rfl, hstore _,
      hstore _, rfl, rfl, Bytes.utf8_decode_encode "T0"⟩
  obtain ⟨ekm, -, token, hev, -, hfp, -⟩ := hserves (toyAttempt 49 false) ⟨[.gca], []⟩ _ t.response _
    (toyAttempt_obeys (.inr rfl) false)
    ((evalBody_attestConnection fun e he => by cases he).mpr ⟨rfl, t, ht, rfl⟩)
  cases hev
  exact toy_fresh hfp

end PromptEncryption.Server
