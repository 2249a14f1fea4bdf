import Mathlib.Data.List.Forall2
import PromptEncryption.Client.Policy

/-!
# Client — key ids in required image signatures

What a `WorkloadPolicy` (`proto/attestation.proto`) says of `signing_key_id` and of the two formats
of an `image_signatures` entry, `<key_id>` and `<signature_algorithm>:<key_id>`, against what
`_enforce_policy` does, which tells the formats apart by the `:`.

* `accepts_iff`: what the code asks of a token's image signatures.
* `documented_iff`: a key id is matched as documented, in both formats and as `signing_key_id`,
  exactly where it has no `:`.
* `domainScoped_rejected`: a key id with a `:`, whose own signature is not recognised.
-/

namespace PromptEncryption.Client
open Python

/-! ### The image signatures of a token -/

structure ImageSignature where
  algorithm : String
  keyId : String
  algorithm_ne : algorithm ≠ ""
  keyId_ne : keyId ≠ ""

/-- `f"{sig_alg}:{key_id}"`. -/
def exactSignature (algorithm keyId : String) : String := algorithm ++ ":" ++ keyId

/-- The mapping `sig` of a token is the signature `s`. -/
structure IsClaim (s : ImageSignature) (sig : Dict) : Prop where
  algorithm : dictGet sig "signature_algorithm" = .str s.algorithm
  keyId : dictGet sig "key_id" = .str s.keyId

/-- The claims of a token that lists these image signatures. -/
def Lists (claims : Dict) (signatures : List ImageSignature) : Prop :=
  ∃ submods container gce sigs, MapAt claims "submods" submods ∧
    MapAt submods "container" container ∧ MapAt submods "gce" gce ∧
    ListAt .dict container "image_signatures" sigs ∧ List.Forall₂ IsClaim signatures sigs

/-- The validator's policy is this workload policy, and it accepts the claims. -/
def Accepts (w : WorkloadPolicy) (claims : Dict) : Prop :=
  enforcePolicy (some { workload := some w }) claims = .ok ()

/-- What `image_signatures` and `signing_key_id` are documented to ask for. -/
structure Documented (algorithm keyId : String) (claims : Dict) (signatures : List ImageSignature) :
    Prop where
  exact : Accepts { imageSignatures := [exactSignature algorithm keyId] } claims ↔
    ∃ s ∈ signatures, s.algorithm = algorithm ∧ s.keyId = keyId
  bare : Accepts { imageSignatures := [keyId] } claims ↔ ∃ s ∈ signatures, s.keyId = keyId
  same : Accepts { signingKeyId := keyId } claims ↔ Accepts { imageSignatures := [keyId] } claims

/-! ### What the code asks -/

theorem MapAt.unique {d m m' : Dict} {key : String} (h : MapAt d key m) (h' : MapAt d key m') :
    m = m' :=
  Except.ok.inj ((safeGetMap_eq_ok.mpr h).symm.trans (safeGetMap_eq_ok.mpr h'))

theorem ListAt.unique {d : Dict} {key : String} {ds ds' : List Dict} (h : ListAt .dict d key ds)
    (h' : ListAt .dict d key ds') : ds = ds' := by
  have hread : ∀ {ds}, listClaim Json.asDict d key ⟨policyViolationError, []⟩ = .ok ds ↔
      ListAt .dict d key ds := listClaim_eq_ok Json.asDict_eq_some
  exact Except.ok.inj ((hread.mpr h).symm.trans (hread.mpr h'))

/-- What an entry is matched by: with a `:` the text of a signature, without one its key id. -/
def EntryMatched (signatures : List ImageSignature) (entry : String) : Prop :=
  if ':' ∈ entry.toList then ∃ s ∈ signatures, exactSignature s.algorithm s.keyId = entry
  else ∃ s ∈ signatures, s.keyId = entry

section
variable {claims : Dict} {signatures : List ImageSignature}

theorem IsClaim.hasKeyId {s : ImageSignature} {sig : Dict} (h : IsClaim s sig) {k : String} :
    HasKeyId sig k ↔ s.keyId = k := by
  rw [HasKeyId, h.keyId, Json.str.injEq]
  exact ⟨fun hk => hk.2, fun hk => ⟨hk ▸ s.keyId_ne, hk⟩⟩

theorem IsClaim.hasExact {s : ImageSignature} {sig : Dict} (h : IsClaim s sig) {t : String} :
    HasExact sig t ↔ exactSignature s.algorithm s.keyId = t := by
  rw [HasExact, h.algorithm, h.keyId]
  constructor
  · rintro ⟨alg, keyId, -, -, halg, hkeyId, rfl⟩
    rw [Json.str.inj halg, Json.str.inj hkeyId]
    rfl
  · rintro rfl
    exact ⟨s.algorithm, s.keyId, s.algorithm_ne, s.keyId_ne, rfl, rfl, rfl⟩

/-- What some claim satisfies, some signature does. -/
theorem exists_claim_iff {sigs : List Dict} (h : List.Forall₂ IsClaim signatures sigs)
    {P : ImageSignature → Prop} {Q : Dict → Prop} (hPQ : ∀ s sig, IsClaim s sig → (Q sig ↔ P s)) :
    (∃ sig ∈ sigs, Q sig) ↔ ∃ s ∈ signatures, P s := by
  induction h with
  | nil => simp
  | cons hs _ ih => simp only [List.exists_mem_cons_iff, hPQ _ _ hs, ih]

/-- **What the code asks** of a token's image signatures. -/
theorem accepts_iff (h : Lists claims signatures) (w : WorkloadPolicy) (hash : w.imageHash = "") :
    Accepts w claims ↔ (w.signingKeyId = "" ∨ ∃ s ∈ signatures, s.keyId = w.signingKeyId) ∧
      ∀ entry ∈ w.imageSignatures, EntryMatched signatures entry := by
  obtain ⟨submods, container, gce, sigs, hsubmods, hcontainer, hgce, hlist, hclaims⟩ := h
  have hkey : ∀ k, (∃ sig ∈ sigs, HasKeyId sig k) ↔ ∃ s ∈ signatures, s.keyId = k :=
    fun k => exists_claim_iff hclaims fun _ _ hs => hs.hasKeyId
  have hentry : ∀ entry, SignatureMatched sigs entry ↔ EntryMatched signatures entry := by
    intro entry
    rw [SignatureMatched, EntryMatched, hkey,
      exists_claim_iff hclaims fun _ _ hs => hs.hasExact]
  have hworkload : Accepts w claims ↔ WorkloadOk w container := by
    rw [Accepts, enforcePolicy_eq_ok]
    constructor
    · rintro ⟨submods', container', gce', hsubmods', hcontainer', -, -, hw, -⟩
      obtain rfl := hsubmods.unique hsubmods'
      obtain rfl := hcontainer.unique hcontainer'
      exact hw w rfl
    · intro hw
      refine ⟨submods, container, gce, hsubmods, hcontainer, hgce, .inl rfl, ?_, ?_, ?_⟩
      · intro w' hw'
        cases hw'
        exact hw
      · intro g hg
        cases hg
      · intro cs hcs
        cases hcs
  rw [hworkload, WorkloadOk]
  constructor
  · rintro ⟨-, hsignatures⟩
    by_cases hneeded : w.signingKeyId ≠ "" ∨ w.imageSignatures ≠ []
    · obtain ⟨sigs', hlist', hsigning, hall⟩ := hsignatures hneeded
      obtain rfl := hlist.unique hlist'
      exact ⟨hsigning.imp_right (hkey _).mp, fun entry he => (hentry entry).mp (hall entry he)⟩
    · obtain ⟨hsigning, hnone⟩ := not_or.mp hneeded
      refine ⟨.inl (not_not.mp hsigning), fun entry he => ?_⟩
      rw [not_not.mp hnone] at he
      cases he
  · rintro ⟨hsigning, hall⟩
    exact ⟨.inl hash, fun _ => ⟨sigs, hlist, hsigning.imp_right (hkey _).mpr,
      fun entry he => (hentry entry).mpr (hall entry he)⟩⟩

theorem accepts_entry_iff (h : Lists claims signatures) (entry : String) :
    Accepts { imageSignatures := [entry] } claims ↔ EntryMatched signatures entry := by
  rw [accepts_iff h _ rfl]
  simp

theorem accepts_signingKeyId_iff (h : Lists claims signatures) {keyId : String} (hne : keyId ≠ "") :
    Accepts { signingKeyId := keyId } claims ↔ ∃ s ∈ signatures, s.keyId = keyId := by
  rw [accepts_iff h _ rfl]
  simp [hne]

end

/-! ### Telling the formats apart -/

/-- The text before the first separator and the text after it, where neither has one. -/
theorem append_cons_inj {α : Type} {c : α} {a b a' b' : List α} (ha : c ∉ a) (hb : c ∉ b) :
    a' ++ c :: b' = a ++ c :: b ↔ a' = a ∧ b' = b := by
  refine ⟨fun h => ?_, fun ⟨h, h'⟩ => by rw [h, h']⟩
  induction a generalizing a' with
  | nil =>
      cases a' with
      | nil => exact ⟨rfl, (List.cons.inj h).2⟩
      | cons x a' =>
          refine absurd ?_ hb
          rw [← (List.cons.inj h).2]
          exact List.mem_append_right a' List.mem_cons_self
  | cons y a ih =>
      cases a' with
      | nil => exact absurd (List.mem_cons.mpr (.inl (List.cons.inj h).1)) ha
      | cons x a' =>
          obtain ⟨rfl, htail⟩ := List.cons.inj h
          obtain ⟨rfl, rfl⟩ := ih (fun hmem => ha (List.mem_cons_of_mem _ hmem)) htail
          exact ⟨rfl, rfl⟩

theorem toList_exactSignature (algorithm keyId : String) :
    (exactSignature algorithm keyId).toList = algorithm.toList ++ ':' :: keyId.toList := by
  simp [exactSignature]

/-- No other algorithm and key id have the same text, where there is one `:` in it. -/
theorem exactSignature_inj {algorithm keyId algorithm' keyId' : String}
    (halg : ':' ∉ algorithm.toList) (hkey : ':' ∉ keyId.toList) :
    exactSignature algorithm' keyId' = exactSignature algorithm keyId ↔
      algorithm' = algorithm ∧ keyId' = keyId := by
  rw [← String.toList_inj, toList_exactSignature, toList_exactSignature, append_cons_inj halg hkey,
    String.toList_inj, String.toList_inj]

theorem exactSignature_ne (algorithm keyId : String) : exactSignature algorithm keyId ≠ keyId := by
  intro h
  have hlength := congrArg (fun s => s.toList.length) h
  simp only [toList_exactSignature, List.length_append, List.length_cons] at hlength
  omega

/-! ### A token with one signature -/

def ImageSignature.claim (s : ImageSignature) : Dict :=
  [("signature_algorithm", .str s.algorithm), ("key_id", .str s.keyId)]

/-- The claims of a token with one image signature and nothing else. -/
def signedClaims (s : ImageSignature) : Dict :=
  [("submods", .dict [("container", .dict [("image_signatures", .list [.dict s.claim])])])]

theorem signedClaims_lists (s : ImageSignature) : Lists (signedClaims s) [s] :=
  ⟨_, _, [], [s.claim], .inr rfl, .inr rfl, .inl ⟨rfl, rfl⟩, .inr rfl, .cons ⟨rfl, rfl⟩ .nil⟩

/-- A key id with a `:` is not recognised as a bare entry, on its own signature. -/
theorem not_accepts_of_colon {s : ImageSignature} (hcolon : ':' ∈ s.keyId.toList) :
    ¬ Accepts { imageSignatures := [s.keyId] } (signedClaims s) := by
  rw [accepts_entry_iff (signedClaims_lists s), EntryMatched, if_pos hcolon]
  rintro ⟨s', hs', h⟩
  rw [List.mem_singleton.mp hs'] at h
  exact exactSignature_ne _ _ h

/-! ### What is documented -/

/-- **Key ids.**  For a non-empty algorithm without `:` and a non-empty key id, the requirements are
met by the tokens the documentation says, whatever they list, exactly where the key id has no
`:`. -/
theorem documented_iff {algorithm keyId : String} (halg : algorithm ≠ "")
    (hcolon : ':' ∉ algorithm.toList) (hkey : keyId ≠ "") :
    (∀ claims signatures, Lists claims signatures → Documented algorithm keyId claims signatures) ↔
      ':' ∉ keyId.toList := by
  constructor
  · intro hall hmem
    let s : ImageSignature := ⟨algorithm, keyId, halg, hkey⟩
    have hbare := (hall _ _ (signedClaims_lists s)).bare
    exact not_accepts_of_colon (s := s) hmem (hbare.mpr ⟨s, List.mem_cons_self, rfl⟩)
  · intro hnone claims signatures h
    have hbare : Accepts { imageSignatures := [keyId] } claims ↔
        ∃ s ∈ signatures, s.keyId = keyId := by
      rw [accepts_entry_iff h, EntryMatched, if_neg hnone]
    refine ⟨?_, hbare, (accepts_signingKeyId_iff h hkey).trans hbare.symm⟩
    have hmem : ':' ∈ (exactSignature algorithm keyId).toList := by
      rw [toList_exactSignature]
      exact List.mem_append_right _ List.mem_cons_self
    rw [accepts_entry_iff h, EntryMatched, if_pos hmem]
    simp only [exactSignature_inj hcolon hnone]

/-- A signature by a key with a fingerprint. -/
def fingerprintSignature : ImageSignature := ⟨"ECDSA_P256_SHA256", "3f9a", by simp, by simp⟩

theorem fingerprint_documented : Documented "ECDSA_P256_SHA256" "3f9a"
    (signedClaims fingerprintSignature) [fingerprintSignature] :=
  (documented_iff (by simp) (by simp) (by simp)).mpr (by simp) _ _ (signedClaims_lists _)

/-- A signature by a KMS key of a domain-scoped project. -/
def domainScopedSignature : ImageSignature where
  algorithm := "ECDSA_P256_SHA256"
  keyId := "projects/example.com:p/locations/l/keyRings/r/cryptoKeys/k/cryptoKeyVersions/1"
  algorithm_ne := by simp
  keyId_ne := by simp

/-- The token lists a signature by the key; it is recognised as `signing_key_id` and not as an
entry. -/
theorem domainScoped_rejected : Lists (signedClaims domainScopedSignature) [domainScopedSignature] ∧
    Accepts { signingKeyId := domainScopedSignature.keyId } (signedClaims domainScopedSignature) ∧
    ¬ Accepts { imageSignatures := [domainScopedSignature.keyId] }
      (signedClaims domainScopedSignature) ∧
    ¬ Documented domainScopedSignature.algorithm domainScopedSignature.keyId
      (signedClaims domainScopedSignature) [domainScopedSignature] := by
  have hlists := signedClaims_lists domainScopedSignature
  have hbare := not_accepts_of_colon (s := domainScopedSignature) (by simp [domainScopedSignature])
  refine ⟨hlists, ?_, hbare, fun h => hbare (h.bare.mpr ⟨_, List.mem_cons_self, rfl⟩)⟩
  exact (accepts_signingKeyId_iff hlists domainScopedSignature.keyId_ne).mpr
    ⟨_, List.mem_cons_self, rfl⟩

end PromptEncryption.Client
