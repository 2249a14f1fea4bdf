import PromptEncryption.Support.Threads
import PromptEncryption.System.Signatures

/-!
# System — attestation while the keys rotate

Any number of threads of one server process, each a `TokenManager.refresh` that succeeds or an
`AttestedTLS.attest_connection`, over the key and token files and `TokenManager`'s lock
(`rotation`), one file access a step.

The lock owns files of one refresh (`Consistent`): a refresh takes and leaves such files
(`refresh_wp`), so a snapshot is never torn.  The two signing calls read the private keys after the
snapshot, outside the lock.

* `rotation_verifies`: in every run in which no refresh replaces a private key that a call past its
  snapshot has still to read (`Undisturbed`), every response's signatures verify under its keys.
* `overtaken_unverified`: a refresh between a call's snapshot and its signatures.
-/

namespace PromptEncryption.Server
open Python Programs Runs
open Client (DEFAULT_AUDIENCE)

/-! ### The process -/

/-- What a thread runs. -/
inductive Job where
  | refresh
  | attest (request : AttestConnectionRequest) (sslObj : SslObject)

inductive Result where
  | refreshed (r : Except Exc Unit)
  | attested (r : Except Exc AttestConnectionResponse)

/-- The server process; the refreshes succeed. -/
def rotation (audience : String) (answers : Answers) :
    Setting File Bytes Exc Question Answer Job Result where
  prog
    | .refresh => Prog.map .refreshed (refresh audience)
    | .attest request sslObj => Prog.map .attested (attestConnection request sslObj)
  answers := answers
  mayFail j := j ≠ .refresh

/-- The store is empty, or holds the keys and the token of one refresh. -/
def Consistent (answers : Answers) (s : Store) : Prop :=
  (∀ f, s f = none) ∨ ∃ i : Identity, answers .generateEcdsa i.ecdsa ∧
    answers .generateMldsa i.pqc ∧ ∀ f, s f = some (i.content f)

/-- Both signatures of a response verify under its own keys, over the payload of its own token. -/
def Verifies (libs : Client.Libraries) (request : AttestConnectionRequest) (sslObj : SslObject)
    (response : AttestConnectionResponse) : Prop :=
  ∃ ekm token, extractEkm request.nonce sslObj = .ok ekm ∧
    Client.extractGcaBundle response.evidence = .ok ⟨token⟩ ∧
    Client.verifySessionSignature libs response.instancePublicKey response.sessionSignature
      (Client.sessionPayload token ekm) = .ok () ∧
    Client.verifySessionSignatureMldsa libs response.pqcPublicKey response.pqcSessionSignature
      (Client.sessionPayload token ekm) = .ok ()

/-- What is asked of a thread's result. -/
def ResultOk (libs : Client.Libraries) : Job → Result → Prop
  | .attest request sslObj, .attested (.ok response) => Verifies libs request sslObj response
  | _, _ => True

/-! ### The programs meet what the lock asks -/

section
variable {C : Ctx File Bytes Exc Question Answer} {held : Bool} {s : Store} {α : Type}

theorem wp_readFile {Φ : Except Exc Bytes → Bool → Store → Prop} {f : File}
    (hok : ∀ b, s f = some b → Φ (.ok b) held s) (herror : ∀ e, Φ (.error e) held s) :
    wp C (readFile f) Φ held s := by
  refine ⟨?_, fun _ e => herror _⟩
  cases h : s f with
  | some b => exact hok b h
  | none => exact herror _

theorem wp_readToken {Φ : Except Exc Bytes → Bool → Store → Prop}
    (hok : ∀ b, Φ (.ok b) held s) (herror : ∀ e, Φ (.error e) held s) :
    wp C readToken Φ held s := by
  refine ⟨hok _, ?_⟩
  intro _ e
  have hhandler : wp C (Prog.bind (if e.isinstance .fileNotFoundError then pure none
      else lift (.error e) : Action (Option Bytes))
        (orRaise fun content => pure (content.getD []))) Φ held s := by
    split
    · exact hok _
    · exact herror _
  exact hhandler

end

section
variable {answers : Answers} {libs : Client.Libraries} {audience : String}

/-- **A refresh that succeeds leaves the files of one refresh.** -/
theorem refresh_wp (s : Store) :
    wp ((rotation audience answers).ctx (Consistent answers) .refresh) (refresh audience)
      (fun _ held _ => held = false) false s := by
  have never {P : Prop} : (rotation audience answers).mayFail .refresh → P := fun h => absurd rfl h
  refine wp_withLock ?_
  intro s _
  refine ⟨fun ecdsa hecdsa => ?_, never⟩
  refine ⟨rfl, ?_, never⟩  -- the private key
  refine ⟨rfl, ?_, never⟩  -- the public key
  refine ⟨fun pqc hpqc => ?_, never⟩
  refine ⟨rfl, ?_, never⟩  -- the ML-DSA private keyset
  refine ⟨fun _ _ => ?_, never⟩
  refine ⟨rfl, ?_, never⟩  -- the ML-DSA public keyset
  refine ⟨?_, never⟩       -- both are read back
  refine ⟨?_, never⟩
  refine ⟨fun token htoken => ?_, never⟩
  refine ⟨rfl, ?_, never⟩  -- the token
  refine ⟨rfl, .inr ⟨⟨ecdsa, pqc, token⟩, hecdsa, hpqc, fun f => ?_⟩, rfl⟩
  cases f <;> rfl

/-- **A snapshot is of one refresh.**  From files as the lock owns them, `get_identity_snapshot`
returns the two public keys of such files. -/
theorem getIdentitySnapshot_wp {C : Ctx File Bytes Exc Question Answer}
    (hC : C.resource = Consistent answers) {s : Store}
    {Φ : Except Exc (Bytes × Bytes × Bytes) → Bool → Store → Prop}
    (hok : ∀ s (i : Identity) token, answers .generateEcdsa i.ecdsa →
      answers .generateMldsa i.pqc → (∀ f, s f = some (i.content f)) →
      Φ (.ok (i.ecdsa.pub, i.pqc.pub, token)) false s)
    (herror : ∀ s e, Φ (.error e) false s) : wp C getIdentitySnapshot Φ false s := by
  refine wp_withLock ?_
  intro s hs
  have hs' : Consistent answers s := hC ▸ hs
  have hfail (e : Exc) : true = true ∧ C.resource s ∧ Φ (.error e) false s :=
    ⟨rfl, hs, herror s e⟩
  refine wp_bind.mpr (wp_readFile (fun pub hpub => ?_) hfail)
  refine wp_bind.mpr (wp_readFile (fun pqcPub hpqcPub => ?_) hfail)
  refine wp_bind.mpr (wp_readToken (fun token => ⟨rfl, hs, ?_⟩) hfail)
  rcases hs' with hnone | ⟨i, hecdsa, hpqc, hi⟩
  · exact absurd ((hnone _).symm.trans hpub) (by simp)
  · obtain rfl : i.ecdsa.pub = pub := Option.some.inj ((hi .publicKey).symm.trans hpub)
    obtain rfl : i.pqc.pub = pqcPub := Option.some.inj ((hi .pqcPublicKey).symm.trans hpqcPub)
    exact hok s i token hecdsa hpqc hi

/-- **A call whose private keys stay as its snapshot found them returns what verifies.** -/
theorem attestConnection_wp (hsig : Signatures answers libs) (request : AttestConnectionRequest)
    (sslObj : SslObject) (s : Store) :
    wp ((rotation audience answers).ctx (Consistent answers) (.attest request sslObj))
      (attestConnection request sslObj)
      (fun r held _ => held = false ∧ ResultOk libs (.attest request sslObj) (.attested r))
      false s := by
  have hfail (s : Store) (e : Exc) : false = false ∧
      ResultOk libs (.attest request sslObj) (.attested (.error e)) := ⟨rfl, trivial⟩
  refine wp_lift (fun _ _ => ?_) fun e _ => hfail s e
  refine wp_lift (fun ekm hekm => ?_) fun e _ => hfail s e
  refine wp_bind.mpr (getIdentitySnapshot_wp rfl (fun s i token hecdsa hpqc hi => ?_) hfail)
  -- outside the lock: the files the signing calls read are still the snapshot's
  refine wp_bind.mpr (wp_bind.mpr (wp_readFile (fun priv hpriv => ?_) (hfail s)))
  obtain rfl : i.ecdsa.priv = priv := Option.some.inj ((hi .privateKey).symm.trans hpriv)
  refine ⟨fun sig hs => ?_, fun _ e => hfail s e⟩
  refine wp_bind.mpr (wp_bind.mpr (wp_readFile (fun priv hpriv => ?_) (hfail s)))
  obtain rfl : i.pqc.priv = priv := Option.some.inj ((hi .pqcPrivateKey).symm.trans hpriv)
  refine ⟨fun pqcSig hs' => ?_, fun _ e => hfail s e⟩
  refine wp_lift (fun _ _ => ?_) fun e _ => hfail s e
  refine wp_lift (fun text htext => ?_) fun e _ => hfail s e
  have hbytes : Bytes.encodeUtf8 text = token :=
    Bytes.utf8_encode_decode (decodeToken_eq_ok.mp htext)
  have hpayload : Client.sessionPayload text ekm = signedPayload ekm token := by
    rw [Client.sessionPayload, hbytes]; rfl
  refine ⟨rfl, ekm, text, hekm, rfl, ?_, ?_⟩
  · rw [hpayload]
    exact (hsig.ecdsa hecdsa _ _ hs).2
  · rw [hpayload]
    exact (hsig.mldsa hpqc _ _ hs').2

/-- Every job's program meets what the lock asks. -/
theorem rotation_wp (hsig : Signatures answers libs) (j : Job) (s : Store) :
    wp ((rotation audience answers).ctx (Consistent answers) j) ((rotation audience answers).prog j)
      (Ends (ResultOk libs j)) false s := by
  cases j with
  | refresh => exact wp_bind.mpr (wp_mono (fun _ _ _ h => ⟨h, trivial⟩) (refresh_wp s))
  | attest request sslObj => exact wp_bind.mpr (attestConnection_wp hsig request sslObj s)

/-- **Signatures match the advertised keys, unless a rotation overtakes the call.**  In every run
in which no refresh replaces a private key that a call past its snapshot has still to read, every
response's signatures verify under its own keys, over the payload of its own token. -/
theorem rotation_verifies (hsig : Signatures answers libs)
    {es : List (Event File Bytes Exc Question Answer Job Result)}
    {st : Pool File Bytes Exc Question Answer Job Result}
    (h : Run (((rotation audience answers).system (Consistent answers)).restrict Undisturbed) es st) :
    ∀ e ∈ es, ∀ request sslObj response, e.job = .attest request sslObj →
      e.act = .finish (.attested (.ok response)) → Verifies libs request sslObj response := by
  intro e he request sslObj response hjob hact
  have hres := (lock_rule (fun _ hs => hs) (rotation_wp hsig) h).2 e he _ hact
  rwa [hjob] at hres

end

/-! ### Runs of the toy libraries -/

theorem toyStore_consistent : Consistent toyAnswers toyStore :=
  .inr ⟨_, .inl rfl, .inl rfl, fun _ => rfl⟩

def toyRequest : AttestConnectionRequest := ⟨[.gca], []⟩

abbrev toyRotation := rotation DEFAULT_AUDIENCE toyAnswers

def toyPool : Pool File Bytes Exc Question Answer Job Result := ⟨toyStore, none, fun _ => none⟩

/-- A whole refresh by the thread 1, while the others stay where they are. -/
theorem refresh_part {i : UInt8} (hi : i = 48 ∨ i = 49) {files : Store}
    {threads : Nat → Option (Job × Prog File Bytes Exc Question Answer Result)}
    (hfree : threads 1 = none) :
    ∃ es, Run ((toyRotation.system (Consistent toyAnswers)).startingAt ⟨files, none, threads⟩) es
      ⟨toyFiles i, none, threads⟩ ∧ ∀ e ∈ es, e.thread = 1 := by
  have hecdsa : toyAnswers .generateEcdsa (toyEcdsa i) := hi.imp (congrArg _) (congrArg _)
  have hmldsa : toyAnswers .generateMldsa (toyMldsa i) := hi.imp (congrArg _) (congrArg _)
  have htoken : toyAnswers (.fetchToken (toyNonces i) DEFAULT_AUDIENCE) [84, i] := by
    rcases hi with rfl | rfl
    · exact .inl ⟨rfl, rfl⟩
    · exact .inr ⟨rfl, rfl⟩
  have h := Run.init (S := (toyRotation.system (Consistent toyAnswers)).startingAt
    ⟨files, none, threads⟩) rfl
  have h := h.step (.start (t := 1) (j := .refresh) hfree)
  have h := h.step (.acquire (t := 1) rfl rfl)
  have h := h.step (.ask (t := 1) rfl hecdsa)
  have h := h.step (.write (t := 1) rfl)
  have h := h.step (.write (t := 1) rfl)
  have h := h.step (.ask (t := 1) rfl hmldsa)
  have h := h.step (.write (t := 1) rfl)
  have h := h.step (.ask (t := 1) (a := ()) rfl trivial)
  have h := h.step (.write (t := 1) rfl)
  have h := h.step (.read (t := 1) rfl)
  have h := h.step (.read (t := 1) rfl)
  have h := h.step (.ask (t := 1) rfl htoken)
  have h := h.step (.write (t := 1) rfl)
  have h := h.step (.release (t := 1) rfl rfl)
  have h := h.step (.finish (t := 1) rfl)
  refine ⟨_, cast (congrArg (Run _ _) ?_) h, by simp⟩
  congr 1
  · funext f
    cases f <;> rfl
  · funext t
    by_cases ht : t = 1
    · subst ht
      exact (Function.update_self ..).trans hfree.symm
    · simp [Pool.put, ht]

/-- The refresh, in a run whose steps all meet `C`. -/
theorem refresh_run {i : UInt8} (hi : i = 48 ∨ i = 49)
    {C : Pool File Bytes Exc Question Answer Job Result →
      Event File Bytes Exc Question Answer Job Result → Prop}
    {es : List (Event File Bytes Exc Question Answer Job Result)}
    {st : Pool File Bytes Exc Question Answer Job Result}
    (h : Run ((toyRotation.system (Consistent toyAnswers)).restrict C) es st)
    (hlock : st.lock = none) (hfree : st.threads 1 = none)
    (hC : ∀ st' e, e.thread = 1 → (∀ t, t ≠ 1 → st'.threads t = st.threads t) → C st' e) :
    ∃ es', Run ((toyRotation.system (Consistent toyAnswers)).restrict C) es'
      ⟨toyFiles i, none, st.threads⟩ := by
  obtain ⟨files, lock, threads⟩ := st
  obtain rfl : lock = none := hlock
  obtain ⟨part, hpart, hthread⟩ := refresh_part hi hfree
  exact ⟨_, (run_alone h hpart hthread hC).1⟩

/-- A call, beside a first refresh that is over before the call takes its snapshot. -/
theorem undisturbed_run : ∃ es st,
    Run ((toyRotation.system (Consistent toyAnswers)).restrict Undisturbed) es st ∧
      ⟨0, .attest toyRequest toySslObj, .finish (.attested (.ok (toyResponse 48 48)))⟩ ∈ es := by
  have h := Run.init (S := (toyRotation.system (Consistent toyAnswers)).restrict Undisturbed)
    (s := ⟨fun _ => none, none, fun _ => none⟩) ⟨.inl fun _ => rfl, rfl, fun _ => rfl⟩
  have h := h.step ⟨.start (t := 0) (j := .attest toyRequest toySslObj) rfl, fun _ _ h => by cases h⟩
  -- a whole refresh, while the call has read nothing
  obtain ⟨es, h⟩ := refresh_run (.inl rfl) h rfl rfl fun st e he hsame f v _ t j p hne hp => by
    rw [he] at hne
    rw [hsame t hne] at hp
    by_cases ht : t = 0
    · subst ht
      cases hp
      exact id
    · cases (Function.update_of_ne ht _ _).symm.trans hp
  have h := h.step ⟨.acquire (t := 0) rfl rfl, fun _ _ h => by cases h⟩
  have h := h.step ⟨.read (t := 0) rfl, fun _ _ h => by cases h⟩
  have h := h.step ⟨.read (t := 0) rfl, fun _ _ h => by cases h⟩
  have h := h.step ⟨.read (t := 0) rfl, fun _ _ h => by cases h⟩
  have h := h.step ⟨.release (t := 0) rfl rfl, fun _ _ h => by cases h⟩
  have h := h.step ⟨.read (t := 0) rfl, fun _ _ h => by cases h⟩
  have h := h.step ⟨.ask (t := 0) rfl rfl, fun _ _ h => by cases h⟩
  have h := h.step ⟨.read (t := 0) rfl, fun _ _ h => by cases h⟩
  have h := h.step ⟨.ask (t := 0) rfl rfl, fun _ _ h => by cases h⟩
  have h := h.step ⟨.finish (t := 0) (r := .attested (.ok (toyResponse 48 48))) rfl,
    fun _ _ h => by cases h⟩
  exact ⟨_, _, h, List.mem_cons_self⟩

/-- The theorem, at that run. -/
theorem undisturbed_verifies : Verifies toyLibs toyRequest toySslObj (toyResponse 48 48) := by
  obtain ⟨es, st, h, he⟩ := undisturbed_run
  exact rotation_verifies toy_signatures h _ he _ _ _ rfl rfl

/-- A refresh runs between a call's snapshot and its signatures: the response advertises the keys
of the snapshot, with signatures of the keys after it. -/
theorem overtaken_run : ∃ es st, Run (toyRotation.system (Consistent toyAnswers)) es st ∧
    ⟨0, .attest toyRequest toySslObj, .finish (.attested (.ok (toyResponse 48 49)))⟩ ∈ es := by
  have h := Run.init (S := (toyRotation.system (Consistent toyAnswers)).restrict fun _ _ => True)
    (s := toyPool) ⟨toyStore_consistent, rfl, fun _ => rfl⟩
  -- the call, up to its snapshot
  have h := h.step ⟨.start (t := 0) (j := .attest toyRequest toySslObj) rfl, trivial⟩
  have h := h.step ⟨.acquire (t := 0) rfl rfl, trivial⟩
  have h := h.step ⟨.read (t := 0) rfl, trivial⟩
  have h := h.step ⟨.read (t := 0) rfl, trivial⟩
  have h := h.step ⟨.read (t := 0) rfl, trivial⟩
  have h := h.step ⟨.release (t := 0) rfl rfl, trivial⟩
  obtain ⟨es, h⟩ := refresh_run (.inr rfl) h rfl rfl fun _ _ _ _ => trivial
  -- the call, signing with the keys it finds
  have h := h.step ⟨.read (t := 0) rfl, trivial⟩
  have h := h.step ⟨.ask (t := 0) rfl rfl, trivial⟩
  have h := h.step ⟨.read (t := 0) rfl, trivial⟩
  have h := h.step ⟨.ask (t := 0) rfl rfl, trivial⟩
  have h := h.step ⟨.finish (t := 0) (r := .attested (.ok (toyResponse 48 49))) rfl, trivial⟩
  exact ⟨_, _, h.of_restrict, List.mem_cons_self⟩

theorem overtaken_unverified : ∃ es st,
    Run (toyRotation.system (Consistent toyAnswers)) es st ∧
      ∃ e ∈ es, ∃ request sslObj response, e.job = .attest request sslObj ∧
        e.act = .finish (.attested (.ok response)) ∧
        ¬ Verifies toyLibs request sslObj response := by
  obtain ⟨es, st, h, he⟩ := overtaken_run
  refine ⟨es, st, h, _, he, _, _, _, rfl, rfl, ?_⟩
  rintro ⟨ekm, token, -, -, hver, -⟩
  have hsig := toyLibs_ecdsa.mp (show Client.verifySessionSignature toyLibs ⟨(toyEcdsa 48).pub⟩ _ _ =
    .ok () from hver)
  have hkey : (49 : UInt8) = 48 := (List.cons.inj (List.cons.inj hsig).2).1
  exact absurd hkey (by decide)

end PromptEncryption.Server
