import PromptEncryption.Client.Validator

/-!
# Client — how `validate` refuses

`AttestationValidator.validate` documents two exceptions.  Every check of it raises one of them,
except the key binding: it asks whether a fingerprint is `in` the token's `eat_nonce`, whatever that
is.  A number raises `TypeError`, and a mapping is searched by its keys.

* `verifyInstanceKeyBinding_eq_ok`, `verifyInstanceKeyBinding_sdk_iff`: what the binding accepts, and
  when it raises as documented, by the type of `eat_nonce`.
* `validate_sdk_iff`: when `validate` raises only what it documents and accepts only tokens whose
  `eat_nonce` holds the fingerprints as elements.
-/

namespace PromptEncryption.Client
open Python

/-! ### Documented exceptions -/

/-- An exception `validate` documents. -/
def sdkError (e : Exc) : Bool :=
  e.isinstance attestationVerificationError || e.isinstance policyViolationError

/-- Every exception `x` raises is one `validate` documents. -/
def RaisesSdk {α : Type} (x : Except Exc α) : Prop := ∀ e, x = .error e → sdkError e = true

namespace RaisesSdk
variable {α β : Type} {x : Except Exc α}

theorem of_verification (h : RaisesOnly attestationVerificationError x) : RaisesSdk x := by
  intro e he
  rw [sdkError, Exc.isinstance, h e he]
  rfl

theorem of_violation (h : RaisesOnly policyViolationError x) : RaisesSdk x := by
  intro e he
  rw [sdkError, Exc.isinstance, Exc.isinstance, h e he]
  rfl

/-- A block raises as documented where its first statement does, and the rest does wherever it is
reached. -/
theorem bind_iff {f : α → Except Exc β} (hx : RaisesSdk x) :
    RaisesSdk (x >>= f) ↔ ∀ a, x = .ok a → RaisesSdk (f a) := by
  constructor
  · intro h a ha e he
    exact h e (bind_eq_error.mpr (.inr ⟨a, ha, he⟩))
  · intro h e he
    rcases bind_eq_error.mp he with he | ⟨a, ha, he⟩
    · exact hx e he
    · exact h a ha e he

/-- Only its first statement can raise otherwise. -/
theorem bind_iff_left {f : α → Except Exc β} (hf : ∀ a, RaisesSdk (f a)) :
    RaisesSdk (x >>= f) ↔ RaisesSdk x := by
  constructor
  · intro h e he
    exact h e (bind_eq_error.mpr (.inl he))
  · exact fun hx => (bind_iff hx).mpr fun a _ => hf a

end RaisesSdk

section
variable {v : AttestationValidator}

theorem failIf_sdk {p : Prop} [Decidable p] {msg : String} : RaisesSdk (failIf p msg) :=
  .of_verification .raiseIf

theorem extractGcaBundle_sdk {evidence : List AttestationEvidence} :
    RaisesSdk (extractGcaBundle evidence) := by
  refine .of_verification fun e he => ?_
  rw [extractGcaBundle] at he
  split at he
  · cases he
  · cases he
    rfl

/-- What a handler of every `Exception` makes of one. -/
theorem wrapAs_sdk {α : Type} {f : Exc → Exc} {x : Except Exc α}
    (hx : Raises .exception (wrapAs .exception f x)) (hf : ∀ e, sdkError (f e) = true) :
    RaisesSdk (wrapAs .exception f x) := by
  intro e he
  obtain ⟨e', -, heq⟩ := wrapAs_eq_error.mp he
  by_cases h : e'.isinstance .exception = true
  · rw [heq, if_pos h]
    exact hf e'
  · rw [if_neg h] at heq
    exact absurd (heq ▸ hx e he) h

theorem validateOidcToken_sdk {policy : AttestationPolicy} {libs : Libraries} (h : libs.Ordinary)
    {token : String} : RaisesSdk (validateOidcToken ⟨some policy, libs⟩ token) := by
  have hcheck : ∀ audience, RaisesSdk (validateToken libs token audience) :=
    fun audience => wrapAs_sdk (.wrapAs (h.verifyAndDecode token audience) fun _ _ => rfl)
      fun _ => rfl
  rw [validateOidcToken]
  dsimp only
  split
  · exact hcheck _
  · exact hcheck _

theorem sdkError_signatureFailure {msg : String} (e : Exc) :
    sdkError (signatureFailure msg e) = true := by
  rw [signatureFailure]
  by_cases h : e.isinstance attestationVerificationError = true
  · rw [if_pos h, sdkError, h]
    rfl
  · rw [if_neg h]
    rfl

theorem verifySessionSignature_sdk (h : v.libs.Ordinary) {key : EcdsaP256PublicKey}
    {signature payload : Bytes} : RaisesSdk (verifySessionSignature v.libs key signature payload) :=
  wrapAs_sdk (verifySessionSignature_raises h) sdkError_signatureFailure

theorem verifySessionSignatureMldsa_sdk (h : v.libs.Ordinary) {key : MlDsaPublicKey}
    {signature payload : Bytes} :
    RaisesSdk (verifySessionSignatureMldsa v.libs key signature payload) :=
  wrapAs_sdk (verifySessionSignatureMldsa_raises h) sdkError_signatureFailure

end

/-! ### The key binding -/

/-- The values `in` refuses that the code does not take for a missing claim: numbers other than zero,
and `True`. -/
def Uncontaining : Json → Prop
  | .bool b => b = true
  | .int n => n ≠ 0
  | .float x => x ≠ .finite 0
  | _ => False

/-- The nonces an `eat_nonce` lists, if it is a string or a list. -/
def nonceElements : Json → Option (List Json)
  | .str s => some [.str s]
  | .list xs => some xs
  | _ => none

/-- The strings a session has to find: both key fingerprints, and the challenge nonce if there is
one. -/
def sessionNonces (ecdsaPubBytes pqcPubBytes : Bytes) (expectedNonce : Option Bytes) : List String :=
  fingerprint ecdsaPubBytes :: fingerprint pqcPubBytes :: (expectedNonce.map Bytes.hex).toList

/-- `eat_nonce` is a string or a list, and the strings are elements of it. -/
def Listed (eatNonce : Json) (nonces : List String) : Prop :=
  ∃ xs, nonceElements eatNonce = some xs ∧ ∀ n ∈ nonces, .str n ∈ xs

/-- `eat_nonce` is a mapping, and the strings are keys of it. -/
def Keyed (eatNonce : Json) (nonces : List String) : Prop :=
  ∃ kvs, eatNonce = .dict kvs ∧ ∀ n ∈ nonces, ∃ kv ∈ kvs, kv.1 = n

section
variable {claims : Dict} {ecdsa pqc : Bytes} {nonce : Option Bytes} {eatNonce : Json} {n : String}
  {m : List Piece}

/-- Where the strings are found. -/
theorem isIn_eatNonceList {ns : List String} (hns : ns ≠ []) :
    (∀ n ∈ ns, isIn n (eatNonceList eatNonce) = .ok true) ↔
      Listed eatNonce ns ∨ Keyed eatNonce ns := by
  obtain ⟨n, hn⟩ := List.exists_mem_of_ne_nil ns hns
  cases eatNonce with
  | str s => simp [eatNonceList, isIn_list, Listed, Keyed, nonceElements]
  | list xs => simp [eatNonceList, isIn_list, Listed, Keyed, nonceElements]
  | dict kvs => simp [eatNonceList, isIn, Listed, Keyed, nonceElements]
  | _ =>
      simp only [Listed, Keyed, nonceElements, eatNonceList, isIn, reduceCtorEq, false_and,
        exists_false, or_self, iff_false]
      exact fun h => h n hn

/-- **What the binding accepts.** -/
theorem verifyInstanceKeyBinding_eq_ok :
    verifyInstanceKeyBinding claims ecdsa pqc nonce = .ok () ↔
      (dictGet claims "eat_nonce").truthy = true ∧
        (Listed (dictGet claims "eat_nonce") (sessionNonces ecdsa pqc nonce) ∨
          Keyed (dictGet claims "eat_nonce") (sessionNonces ecdsa pqc nonce)) := by
  rw [← isIn_eatNonceList (by simp [sessionNonces]), sessionNonces]
  simp only [verifyInstanceKeyBinding, bind_eq_ok, exists_unit, raiseIf_eq_ok, requireNonce_eq_ok,
    Bool.not_eq_false, List.forall_mem_cons]
  cases nonce with
  | none => simp
  | some n => simp [requireNonce_eq_ok]

/-- What `in` answers, of a value that is neither missing nor uncontaining. -/
theorem isIn_ok (ht : eatNonce.truthy = true) (h : ¬ Uncontaining eatNonce) :
    ∃ found, isIn n (eatNonceList eatNonce) = .ok found := by
  cases eatNonce with
  | none => cases ht
  | bool b => exact absurd ht h
  | int k => exact absurd (by simpa [Json.truthy, Uncontaining] using ht) h
  | float x => exact absurd (by simpa [Json.truthy, Uncontaining] using ht) h
  | str s => exact ⟨_, rfl⟩
  | list xs => exact ⟨_, rfl⟩
  | dict kvs => exact ⟨_, rfl⟩

/-- What `in` answers, of an uncontaining value: the claim is there, and the search raises. -/
theorem isIn_typeError (h : Uncontaining eatNonce) : eatNonce.truthy = true ∧
    ∃ m, isIn n (eatNonceList eatNonce) = .error ⟨.typeError, m⟩ := by
  cases eatNonce with
  | bool b => exact ⟨h, _, rfl⟩
  | int k => exact ⟨by simpa [Json.truthy, Uncontaining] using h, _, rfl⟩
  | float x => exact ⟨by simpa [Json.truthy, Uncontaining] using h, _, rfl⟩
  | none => exact h.elim
  | str s => exact h.elim
  | list xs => exact h.elim
  | dict kvs => exact h.elim

theorem requireNonce_sdk (ht : eatNonce.truthy = true) (h : ¬ Uncontaining eatNonce) :
    RaisesSdk (requireNonce n (eatNonceList eatNonce) ⟨attestationVerificationError, m⟩) := by
  obtain ⟨found, hfound⟩ := isIn_ok (n := n) ht h
  rw [requireNonce, hfound]
  exact .of_verification .raiseIf

/-- **When the binding raises as documented.** -/
theorem verifyInstanceKeyBinding_sdk_iff :
    RaisesSdk (verifyInstanceKeyBinding claims ecdsa pqc nonce) ↔
      ¬ Uncontaining (dictGet claims "eat_nonce") := by
  constructor
  · intro h hun
    obtain ⟨ht, m, hm⟩ := isIn_typeError (n := fingerprint ecdsa) hun
    have hraises : verifyInstanceKeyBinding claims ecdsa pqc nonce = .error ⟨.typeError, m⟩ := by
      refine bind_eq_error.mpr (.inr ⟨(), raiseIf_eq_ok.mpr (by simp [ht]), ?_⟩)
      refine bind_eq_error.mpr (.inl ?_)
      rw [requireNonce, hm]
      rfl
    have hother : sdkError ⟨.typeError, m⟩ = false := rfl
    exact absurd (h _ hraises) (by rw [hother]; exact Bool.false_ne_true)
  · intro h
    refine (RaisesSdk.bind_iff (.of_verification .raiseIf)).mpr fun _ htruthy => ?_
    have ht : (dictGet claims "eat_nonce").truthy = true := by
      simpa using raiseIf_eq_ok.mp htruthy
    refine (RaisesSdk.bind_iff (requireNonce_sdk ht h)).mpr fun _ _ => ?_
    refine (RaisesSdk.bind_iff (requireNonce_sdk ht h)).mpr fun _ _ => ?_
    cases nonce with
    | none => exact fun e he => (by cases he)
    | some n => exact requireNonce_sdk ht h

end

/-! ### `validate` -/

section
variable {v : AttestationValidator} {response : AttestConnectionResponse} {tlsEkm : Bytes}
  {nonce : Option Bytes} {token : String} {claims : Dict}

/-- The checks before the key binding pass, and the token has these claims. -/
structure Reaches (v : AttestationValidator) (response : AttestConnectionResponse) (token : String)
    (claims : Dict) : Prop where
  evidence : extractGcaBundle response.evidence = .ok ⟨token⟩
  token_ne : token ≠ ""
  claims_eq : validateOidcToken v token = .ok claims
  policy : ∀ p, v.policy = some p → Satisfies p claims
  ecdsa_ne : response.instancePublicKey.keyBytes ≠ []
  pqc_ne : response.pqcPublicKey.serializedPublicKeyset ≠ []

/-- Both session signatures are there and verify. -/
structure Signed (v : AttestationValidator) (response : AttestConnectionResponse) (tlsEkm : Bytes)
    (token : String) : Prop where
  signature_ne : response.sessionSignature ≠ []
  pqcSignature_ne : response.pqcSessionSignature ≠ []
  signature : verifySessionSignature v.libs response.instancePublicKey
    response.sessionSignature (sessionPayload token tlsEkm) = .ok ()
  pqcSignature : verifySessionSignatureMldsa v.libs response.pqcPublicKey
    response.pqcSessionSignature (sessionPayload token tlsEkm) = .ok ()

/-- An accepted response, check by check. -/
theorem validate_eq_ok_iff (p : AttestationPolicy) (hp : v.policy = some p) :
    validate v response tlsEkm nonce = .ok () ↔ ∃ token claims, Reaches v response token claims ∧
      verifyInstanceKeyBinding claims response.instancePublicKey.keyBytes
        response.pqcPublicKey.serializedPublicKeyset nonce = .ok () ∧
      Signed v response tlsEkm token := by
  rw [validate_eq_ok]
  refine exists₂_congr fun token claims => ⟨fun h => ?_, fun ⟨hr, hbound, hs⟩ => ?_⟩
  · refine ⟨⟨h.evidence, h.token_ne, h.claims_eq, fun q hq => ?_, h.ecdsa_ne, h.pqc_ne⟩, h.bound,
      ⟨h.signature_ne, h.pqcSignature_ne, h.signature, h.pqcSignature⟩⟩
    exact enforcePolicy_eq_ok.mp (hq ▸ h.policy)
  · refine ⟨hr.evidence, hr.token_ne, hr.claims_eq, ?_, hr.ecdsa_ne, hr.pqc_ne, hbound,
      hs.signature_ne, hs.pqcSignature_ne, hs.signature, hs.pqcSignature⟩
    rw [hp]
    exact enforcePolicy_eq_ok.mpr (hr.policy p hp)

/-- **Where an undocumented exception can come from**: the key binding. -/
theorem validate_raises_iff {libs : Libraries} {p : AttestationPolicy} (h : libs.Ordinary) :
    RaisesSdk (validate ⟨some p, libs⟩ response tlsEkm nonce) ↔
      ∀ token claims, Reaches ⟨some p, libs⟩ response token claims →
        RaisesSdk (verifyInstanceKeyBinding claims response.instancePublicKey.keyBytes
          response.pqcPublicKey.serializedPublicKeyset nonce) := by
  have hpolicy : ∀ claims, RaisesSdk (enforcePolicy (some p) claims) :=
    fun claims => .of_violation enforcePolicy_raisesOnly
  -- after the binding
  have hsigned : ∀ token, RaisesSdk (do
      failIf (response.sessionSignature = []) "session signature is missing."
      failIf (response.pqcSessionSignature = []) "PQC session signature is missing."
      verifySessionSignature libs response.instancePublicKey response.sessionSignature
        (sessionPayload token tlsEkm)
      verifySessionSignatureMldsa libs response.pqcPublicKey response.pqcSessionSignature
        (sessionPayload token tlsEkm)) := by
    intro token
    refine (RaisesSdk.bind_iff failIf_sdk).mpr fun _ _ => ?_
    refine (RaisesSdk.bind_iff failIf_sdk).mpr fun _ _ => ?_
    refine (RaisesSdk.bind_iff (verifySessionSignature_sdk (v := ⟨some p, libs⟩) h)).mpr
      fun _ _ => ?_
    exact verifySessionSignatureMldsa_sdk (v := ⟨some p, libs⟩) h
  constructor
  · intro hall token claims hr
    obtain ⟨ev, hev, -⟩ := extractGcaBundle_eq_ok.mp hr.evidence
    have hne : response.evidence ≠ [] := by
      intro hnil
      rw [hnil] at hev
      cases hev
    have hall := (RaisesSdk.bind_iff failIf_sdk).mp hall () (failIf_eq_ok.mpr hne)
    have hall := (RaisesSdk.bind_iff extractGcaBundle_sdk).mp hall _ hr.evidence
    have hall := (RaisesSdk.bind_iff failIf_sdk).mp hall () (failIf_eq_ok.mpr hr.token_ne)
    have hall := (RaisesSdk.bind_iff (validateOidcToken_sdk h)).mp hall claims hr.claims_eq
    have hall := (RaisesSdk.bind_iff (hpolicy claims)).mp hall ()
      (enforcePolicy_eq_ok.mpr (hr.policy p rfl))
    have hall := (RaisesSdk.bind_iff failIf_sdk).mp hall () (failIf_eq_ok.mpr hr.ecdsa_ne)
    have hall := (RaisesSdk.bind_iff failIf_sdk).mp hall () (failIf_eq_ok.mpr hr.pqc_ne)
    exact (RaisesSdk.bind_iff_left fun _ => hsigned token).mp hall
  · intro hbinding
    refine (RaisesSdk.bind_iff failIf_sdk).mpr fun _ _ => ?_
    refine (RaisesSdk.bind_iff extractGcaBundle_sdk).mpr fun bundle hbundle => ?_
    refine (RaisesSdk.bind_iff failIf_sdk).mpr fun _ htoken => ?_
    refine (RaisesSdk.bind_iff (validateOidcToken_sdk h)).mpr fun claims hclaims => ?_
    refine (RaisesSdk.bind_iff (hpolicy claims)).mpr fun _ hsatisfies => ?_
    refine (RaisesSdk.bind_iff failIf_sdk).mpr fun _ hecdsa => ?_
    refine (RaisesSdk.bind_iff failIf_sdk).mpr fun _ hpqc => ?_
    refine (RaisesSdk.bind_iff_left fun _ => hsigned bundle.attestationToken).mpr ?_
    refine hbinding bundle.attestationToken claims ⟨hbundle, failIf_eq_ok.mp htoken, hclaims, ?_,
      failIf_eq_ok.mp hecdsa, failIf_eq_ok.mp hpqc⟩
    intro q hq
    cases hq
    exact enforcePolicy_eq_ok.mp hsatisfies

/-- `validate` raises only what it documents, and returns only where the token's `eat_nonce` is a
string or a list with the session's strings among its elements. -/
structure FailsAsDocumented (v : AttestationValidator) (response : AttestConnectionResponse)
    (tlsEkm : Bytes) (nonce : Option Bytes) : Prop where
  raises : RaisesSdk (validate v response tlsEkm nonce)
  listed : validate v response tlsEkm nonce = .ok () → ∃ token claims,
    extractGcaBundle response.evidence = .ok ⟨token⟩ ∧ validateOidcToken v token = .ok claims ∧
      Listed (dictGet claims "eat_nonce") (sessionNonces response.instancePublicKey.keyBytes
        response.pqcPublicKey.serializedPublicKeyset nonce)

/-- A mapping with keys is no missing claim, and no string or list. -/
theorem Keyed.truthy {eatNonce : Json} {n : String} {ns : List String}
    (h : Keyed eatNonce (n :: ns)) : eatNonce.truthy = true ∧ ¬ Listed eatNonce (n :: ns) := by
  obtain ⟨kvs, rfl, hkeys⟩ := h
  obtain ⟨kv, hkv, -⟩ := hkeys n List.mem_cons_self
  refine ⟨?_, fun ⟨xs, hxs, _⟩ => (by cases hxs)⟩
  cases kvs with
  | nil => cases hkv
  | cons _ _ => rfl

/-- **When `validate` fails as documented.**  Wherever the checks before the key binding pass, the
token's `eat_nonce` is no number but zero and not `True`, and it is no mapping with the session's
strings among its keys in a response whose signatures are there and verify. -/
theorem validate_sdk_iff {libs : Libraries} (h : libs.Ordinary) (p : AttestationPolicy)
    (response : AttestConnectionResponse) (tlsEkm : Bytes) (nonce : Option Bytes) :
    FailsAsDocumented ⟨some p, libs⟩ response tlsEkm nonce ↔
      ∀ token claims, Reaches ⟨some p, libs⟩ response token claims →
        ¬ Uncontaining (dictGet claims "eat_nonce") ∧
          (Keyed (dictGet claims "eat_nonce") (sessionNonces response.instancePublicKey.keyBytes
            response.pqcPublicKey.serializedPublicKeyset nonce) →
            ¬ Signed ⟨some p, libs⟩ response tlsEkm token) := by
  constructor
  · rintro ⟨hraises, hlisted⟩ token claims hr
    refine ⟨verifyInstanceKeyBinding_sdk_iff.mp ((validate_raises_iff h).mp hraises token claims hr),
      fun hkeyed hsigned => ?_⟩
    -- the mapping is accepted, and is no list
    have hbound := verifyInstanceKeyBinding_eq_ok.mpr ⟨hkeyed.truthy.1, .inr hkeyed⟩
    obtain ⟨token', claims', htoken, hclaims, hlist⟩ :=
      hlisted ((validate_eq_ok_iff p rfl).mpr ⟨token, claims, hr, hbound, hsigned⟩)
    cases hr.evidence.symm.trans htoken
    cases hr.claims_eq.symm.trans hclaims
    exact hkeyed.truthy.2 hlist
  · intro hall
    refine ⟨(validate_raises_iff h).mpr fun token claims hr =>
      verifyInstanceKeyBinding_sdk_iff.mpr (hall token claims hr).1, fun hok => ?_⟩
    obtain ⟨token, claims, hr, hbound, hsigned⟩ := (validate_eq_ok_iff p rfl).mp hok
    obtain ⟨-, hlisted | hkeyed⟩ := verifyInstanceKeyBinding_eq_ok.mp hbound
    · exact ⟨token, claims, hr.evidence, hr.claims_eq, hlisted⟩
    · exact absurd hsigned ((hall token claims hr).2 hkeyed)

end

/-! ### Two tokens -/

/-- Libraries that accept every token and signature, for tokens with this `eat_nonce`. -/
def nonceLibs (eatNonce : Json) : Libraries where
  verifyAndDecode _ _ := .ok [("eat_nonce", eatNonce)]
  loadPemPublicKey _ := .ok (.ellipticCurve "secp256r1" fun _ _ => .ok ())
  parseWithoutSecret _ := .ok ⟨[⟨ML_DSA_PUBLIC_KEY_TYPE_URL, true, fun _ _ => true⟩], .ok ()⟩

theorem nonceLibs_ordinary (eatNonce : Json) : (nonceLibs eatNonce).Ordinary where
  verifyAndDecode _ _ := .ok
  loadPemPublicKey _ := .ok
  verify h := by
    cases h
    exact fun _ _ => .ok
  parseWithoutSecret _ := .ok
  primitive h := by
    cases h
    exact .ok

/-- A response with one key and one signature of each kind. -/
def keyedResponse : AttestConnectionResponse where
  evidence := [{ verifierType := .gca, trustBundle := some { attestationToken := "T" } }]
  instancePublicKey := { keyBytes := [1] }
  sessionSignature := [1]
  pqcPublicKey := { serializedPublicKeyset := [2] }
  pqcSessionSignature := [1]

theorem nonceLibs_claims {eatNonce : Json} {token : String} {claims : Dict}
    (h : Reaches ⟨some {}, nonceLibs eatNonce⟩ keyedResponse token claims) :
    dictGet claims "eat_nonce" = eatNonce := by
  have hclaims := h.claims_eq
  cases hclaims
  rfl

/-- The `eat_nonce` of a token that lists both keys. -/
def listedNonces : Json := .list [.str (fingerprint [1]), .str (fingerprint [2])]

/-- The same strings, as the keys of a mapping. -/
def keyedNonces : Json := .dict [(fingerprint [1], .none), (fingerprint [2], .none)]

theorem listed_failsAsDocumented :
    FailsAsDocumented ⟨some {}, nonceLibs listedNonces⟩ keyedResponse [] none := by
  refine (validate_sdk_iff (nonceLibs_ordinary _) {} keyedResponse [] none).mpr ?_
  intro token claims hr
  rw [nonceLibs_claims hr]
  exact ⟨fun h => h, fun ⟨_, h, _⟩ => by cases h⟩

/-- The mapping is accepted. -/
theorem keyed_accepted :
    validate ⟨some {}, nonceLibs keyedNonces⟩ keyedResponse [] none = .ok () := by
  refine validate_eq_ok.mpr ⟨"T", [("eat_nonce", keyedNonces)], rfl, by decide, rfl, rfl,
    by decide, by decide, ?_, by decide, by decide, rfl, rfl⟩
  have hnonce : dictGet [("eat_nonce", keyedNonces)] "eat_nonce" = keyedNonces := rfl
  refine verifyInstanceKeyBinding_eq_ok.mpr ⟨rfl, .inr ⟨_, hnonce, ?_⟩⟩
  simp only [sessionNonces, Option.map_none, Option.toList_none, List.forall_mem_cons]
  exact ⟨⟨_, List.mem_cons_self, rfl⟩, ⟨_, List.mem_cons_of_mem _ List.mem_cons_self, rfl⟩,
    fun n hn => by cases hn⟩

/-- The number 1 raises `TypeError`, and the mapping is accepted. -/
theorem undocumented_outcomes :
    (∃ m, validate ⟨some {}, nonceLibs (.int 1)⟩ keyedResponse [] none = .error ⟨.typeError, m⟩) ∧
    (validate ⟨some {}, nonceLibs keyedNonces⟩ keyedResponse [] none = .ok () ∧
      ¬ Listed keyedNonces (sessionNonces [1] [2] none)) ∧
    ¬ ∀ (libs : Libraries) (p : AttestationPolicy) (response : AttestConnectionResponse)
      (tlsEkm : Bytes) (nonce : Option Bytes), libs.Ordinary →
        FailsAsDocumented ⟨some p, libs⟩ response tlsEkm nonce := by
  have hnumber : ∃ m, validate ⟨some {}, nonceLibs (.int 1)⟩ keyedResponse [] none =
      .error ⟨.typeError, m⟩ := ⟨_, rfl⟩
  refine ⟨hnumber, ⟨keyed_accepted, fun ⟨_, h, _⟩ => by cases h⟩, fun hall => ?_⟩
  obtain ⟨m, hm⟩ := hnumber
  have hdocumented := (hall _ {} keyedResponse [] none (nonceLibs_ordinary (.int 1))).raises _ hm
  cases hdocumented

end PromptEncryption.Client
