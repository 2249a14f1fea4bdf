import PromptEncryption.Client.Common

/-!
# Client — policy enforcement

`AttestationValidator._enforce_policy` and its helpers (`client/validator.py`): the claims of a
verified token are held against the configured `AttestationPolicy`.

`Satisfies policy claims` states what a policy asks of a token, with no reference to how the code
looks for it.  **`enforcePolicy_exact`**: `enforcePolicy` returns at exactly the claims that
satisfy the policy, and at every other claims raises `PolicyViolationError`.

Claims are any JSON object.  Each part of the policy has a specification (`…Ok`) and one lemma
saying its check returns exactly there; `enforcePolicy_raisesOnly` is put together from the
checks' own.
-/

namespace PromptEncryption.Client
open Python

/-! ### Reading the claims -/

/-- `_safe_get_map`. -/
def safeGetMap (data : Json) (key : String) : Except Exc Dict :=
  match data with
  | .dict d =>
      match dictGetD d key (.dict []) with
      | .dict m => .ok m
      | v => .error ⟨attestationVerificationError,
          [.text "Claim ", .repr (.str key), .text " is not a mapping (got ", .text v.typeName,
            .text ")"]⟩
  | v => .error ⟨attestationVerificationError,
      [.text "Expected mapping for claim structure, got ", .text v.typeName]⟩

/-- The body of `_parse_image_signatures`' loop, on `(token_key_ids, token_exact_signatures)`. -/
def addImageSignature (acc : List String × List String) (sig : Dict) :
    List String × List String :=
  match dictGet sig "key_id" with
  | .str keyId =>
      if keyId = "" then acc
      else
        match dictGet sig "signature_algorithm" with
        | .str alg =>
            if alg = "" then (keyId :: acc.1, acc.2)
            else (keyId :: acc.1, (alg ++ ":" ++ keyId) :: acc.2)
        | _ => (keyId :: acc.1, acc.2)
  | _ => acc

/-- The list `d.get(key, [])`, if it is a list whose every element `read` reads. -/
def listClaim {α : Type} (read : Json → Option α) (d : Dict) (key : String) (malformed : Exc) :
    Except Exc (List α) :=
  match dictGetD d key (.list []) with
  | .list xs => ((xs.mapM read).map .ok).getD (.error malformed)
  | _ => .error malformed

/-- `_parse_image_signatures`. -/
def parseImageSignatures (containerClaims : Dict) : Except Exc (List String × List String) := do
  let signatures ← listClaim Json.asDict containerClaims "image_signatures"
    ⟨policyViolationError, [.text "Malformed image signatures claim."]⟩
  return signatures.foldl addImageSignature ([], [])

/-- `_parse_support_attributes`. -/
def parseSupportAttributes (csClaims : Dict) : Except Exc (List String) :=
  listClaim Json.asStr csClaims "support_attributes"
    ⟨policyViolationError, [.text "Malformed support_attributes claim."]⟩

/-! ### The checks -/

/-- `_GCA_STRING_BY_HW_MODEL.get`. -/
def gcaStringByHwModel : HardwareModel → Option String
  | .tdx => some "GCP_INTEL_TDX"
  | .sev => some "GCP_AMD_SEV"
  | .sevSnp => some "GCP_AMD_SEV_SNP"
  | .unspecified | .other _ => none

/-- Section 1 of `_enforce_policy`. -/
def enforceHwModel (policy : AttestationPolicy) (claims : Dict) : Except Exc Unit :=
  if policy.hwModel = .unspecified then .ok ()
  else
    match gcaStringByHwModel policy.hwModel with
    | none => .error ⟨policyViolationError,
        [.text "Policy requires hardware model ", .str (.int policy.hwModel.number),
          .text ", but this model is not supported by the validator."]⟩
    | some expected =>
        raiseIf ((dictGet claims "hwmodel").eqStr expected = false) ⟨policyViolationError,
          [.text "Hardware model mismatch. Expected ", .repr (.str expected), .text ", got ",
            .repr (dictGet claims "hwmodel")]⟩

/-- Section 2a. -/
def enforceImageHash (w : WorkloadPolicy) (containerClaims : Dict) : Except Exc Unit :=
  raiseIf (w.imageHash ≠ "" ∧ (dictGet containerClaims "image_digest").eqStr w.imageHash = false)
    ⟨policyViolationError,
      [.text "Workload image hash mismatch. Expected ", .str (.str w.imageHash), .text ", got ",
        .str (dictGet containerClaims "image_digest")]⟩

/-- The body of section 2c's loop. -/
def enforceImageSignature (token : List String × List String) (requiredSig : String) :
    Except Exc Unit :=
  let expectedSignatures := if ':' ∈ requiredSig.toList then token.2 else token.1
  raiseIf (requiredSig ∉ expectedSignatures) ⟨policyViolationError,
    [.text "Missing required container image signature: ", .str (.str requiredSig),
      .text ". Found signatures: ", .str (Json.sorted expectedSignatures)]⟩

/-- Section 2 of `_enforce_policy`. -/
def enforceWorkload (w : WorkloadPolicy) (containerClaims : Dict) : Except Exc Unit := do
  enforceImageHash w containerClaims
  if w.signingKeyId ≠ "" ∨ w.imageSignatures ≠ [] then
    let token ← parseImageSignatures containerClaims
    raiseIf (w.signingKeyId ≠ "" ∧ w.signingKeyId ∉ token.1) ⟨policyViolationError,
      [.text "Workload image not signed by trusted key: ", .str (.str w.signingKeyId)]⟩
    forM w.imageSignatures (enforceImageSignature token)

/-- `_GCE_POLICY_FIELDS`, each with the policy's own field. -/
def gcePolicyFields : List (String × (GceInstancePolicy → String)) :=
  [("project_id", (·.projectId)), ("zone", (·.zone)), ("instance_id", (·.instanceId)),
    ("instance_name", (·.instanceName))]

/-- Section 3 of `_enforce_policy`. -/
def enforceGceInstance (g : GceInstancePolicy) (gceClaims : Dict) : Except Exc Unit :=
  forM gcePolicyFields fun (fieldName, getField) =>
    raiseIf (getField g ≠ "" ∧ (dictGet gceClaims fieldName).eqStr (getField g) = false)
      ⟨policyViolationError,
        [.text "GCE Instance ", .text fieldName, .text " mismatch. Expected ",
          .str (.str (getField g)), .text ", got ", .str (dictGet gceClaims fieldName)]⟩

/-- `_EXPECTED_CS_SWNAME`. -/
def expectedCsSwname : String := "CONFIDENTIAL_SPACE"

/-- `_EXPECTED_CS_DBGSTAT`. -/
def expectedCsDbgstat : String := "disabled-since-boot"

/-- A helper's structural error, reported as a policy violation. -/
def malformedTokenStructure (e : Exc) : Exc :=
  ⟨policyViolationError, .text "Malformed token structure: " :: e.msg⟩

/-- The body of `_validate_confidential_space_policy`'s loop. -/
def enforceSupportAttribute (tokenSupportAttrs : List String) (requiredAttr : String) :
    Except Exc Unit :=
  raiseIf (requiredAttr ∉ tokenSupportAttrs) ⟨policyViolationError,
    [.text "Missing required Confidential Space support attribute: ", .str (.str requiredAttr),
      .text ". Found attributes: ", .str (Json.sorted tokenSupportAttrs)]⟩

/-- `_validate_confidential_space_policy`. -/
def validateConfidentialSpacePolicy (claims submods : Dict) (cs : ConfidentialSpacePolicy) :
    Except Exc Unit := do
  raiseIf ((dictGet claims "swname").eqStr expectedCsSwname = false) ⟨policyViolationError,
    [.text "Software name mismatch. Expected ", .repr (.str expectedCsSwname), .text ", got ",
      .repr (dictGet claims "swname")]⟩
  raiseIf (cs.requireDebugDisabled = true ∧
      (dictGet claims "dbgstat").eqStr expectedCsDbgstat = false) ⟨policyViolationError,
    [.text "Debug status mismatch. Expected ", .repr (.str expectedCsDbgstat), .text ", got ",
      .repr (dictGet claims "dbgstat")]⟩
  raiseIf (cs.requireSecboot = true ∧ (dictGet claims "secboot").isTrue = false)
    ⟨policyViolationError,
      [.text "Secure boot required, got ", .repr (dictGet claims "secboot")]⟩
  if cs.supportAttributes ≠ [] then
    let csClaims ← wrapAs attestationVerificationError malformedTokenStructure
      (safeGetMap (.dict submods) "confidential_space")
    let tokenSupportAttrs ← parseSupportAttributes csClaims
    forM cs.supportAttributes (enforceSupportAttribute tokenSupportAttrs)

/-- `_enforce_policy`'s reading of the sections of the claims. -/
def claimSections (claims : Dict) : Except Exc (Dict × Dict × Dict) :=
  wrapAs attestationVerificationError malformedTokenStructure do
    let submods ← safeGetMap (.dict claims) "submods"
    let containerClaims ← safeGetMap (.dict submods) "container"
    let gceClaims ← safeGetMap (.dict submods) "gce"
    return (submods, containerClaims, gceClaims)

/-- A section of the policy that is enforced only where the policy sets it. -/
def enforceIfSet {α : Type} (section? : Option α) (check : α → Except Exc Unit) :
    Except Exc Unit :=
  match section? with
  | some a => check a
  | none => .ok ()

/-- `_enforce_policy`; `none` is a validator built with no policy at all. -/
def enforcePolicy (policy : Option AttestationPolicy) (claims : Dict) : Except Exc Unit :=
  match policy with
  | none => .ok ()
  | some p => do
      let (submods, containerClaims, gceClaims) ← claimSections claims
      enforceHwModel p claims
      enforceIfSet p.workload (enforceWorkload · containerClaims)
      enforceIfSet p.gceInstance (enforceGceInstance · gceClaims)
      enforceIfSet p.confidentialSpace (validateConfidentialSpacePolicy claims submods ·)

/-! ### What a policy asks -/

/-- The entry `key` of `d` is absent, read as the empty mapping, or is the mapping `m`. -/
def MapAt (d : Dict) (key : String) (m : Dict) : Prop :=
  d.lookup key = none ∧ m = [] ∨ d.lookup key = some (.dict m)

/-- The entry `key` of `d` is absent, read as the empty list, or is the list of the `mk a` for
`a` in `as`. -/
def ListAt {α : Type} (mk : α → Json) (d : Dict) (key : String) (as : List α) : Prop :=
  d.lookup key = none ∧ as = [] ∨ d.lookup key = some (.list (as.map mk))

/-- The hardware model is not asked for, or is a supported one and is the token's. -/
def HwModelOk (policy : AttestationPolicy) (claims : Dict) : Prop :=
  policy.hwModel = .unspecified ∨
    ∃ model, gcaStringByHwModel policy.hwModel = some model ∧
      dictGet claims "hwmodel" = .str model

/-- `sig` has the non-empty key id `k`. -/
def HasKeyId (sig : Dict) (k : String) : Prop := k ≠ "" ∧ dictGet sig "key_id" = .str k

/-- `sig` has a non-empty algorithm and key id, and `t` is `<algorithm>:<key_id>`. -/
def HasExact (sig : Dict) (t : String) : Prop :=
  ∃ alg keyId, alg ≠ "" ∧ keyId ≠ "" ∧ dictGet sig "signature_algorithm" = .str alg ∧
    dictGet sig "key_id" = .str keyId ∧ t = alg ++ ":" ++ keyId

/-- A required entry is matched by a token signature: an entry without `:` by its key id, an
entry with one by the text `<algorithm>:<key_id>`. -/
def SignatureMatched (sigs : List Dict) (requiredSig : String) : Prop :=
  if ':' ∈ requiredSig.toList then ∃ sig ∈ sigs, HasExact sig requiredSig
  else ∃ sig ∈ sigs, HasKeyId sig requiredSig

/-- The workload section, against `submods.container`. -/
def WorkloadOk (w : WorkloadPolicy) (container : Dict) : Prop :=
  (w.imageHash = "" ∨ dictGet container "image_digest" = .str w.imageHash) ∧
  (w.signingKeyId ≠ "" ∨ w.imageSignatures ≠ [] →
    ∃ sigs, ListAt .dict container "image_signatures" sigs ∧
      (w.signingKeyId = "" ∨ ∃ sig ∈ sigs, HasKeyId sig w.signingKeyId) ∧
      ∀ requiredSig ∈ w.imageSignatures, SignatureMatched sigs requiredSig)

/-- The GCE section, against `submods.gce`: each field the policy sets is the token's. -/
def GceInstanceOk (g : GceInstancePolicy) (gce : Dict) : Prop :=
  (g.projectId = "" ∨ dictGet gce "project_id" = .str g.projectId) ∧
  (g.zone = "" ∨ dictGet gce "zone" = .str g.zone) ∧
  (g.instanceId = "" ∨ dictGet gce "instance_id" = .str g.instanceId) ∧
  (g.instanceName = "" ∨ dictGet gce "instance_name" = .str g.instanceName)

/-- The Confidential Space section, against the token's platform claims. -/
def ConfidentialSpaceOk (cs : ConfidentialSpacePolicy) (claims submods : Dict) : Prop :=
  dictGet claims "swname" = .str "CONFIDENTIAL_SPACE" ∧
  (cs.requireDebugDisabled = true →
    dictGet claims "dbgstat" = .str "disabled-since-boot") ∧
  (cs.requireSecboot = true → dictGet claims "secboot" = .bool true) ∧
  (cs.supportAttributes ≠ [] →
    ∃ m attrs, MapAt submods "confidential_space" m ∧ ListAt .str m "support_attributes" attrs ∧
      ∀ attr ∈ cs.supportAttributes, attr ∈ attrs)

/-- **What a policy asks of a token's claims.** -/
def Satisfies (policy : AttestationPolicy) (claims : Dict) : Prop :=
  ∃ submods container gce,
    MapAt claims "submods" submods ∧ MapAt submods "container" container ∧
    MapAt submods "gce" gce ∧ HwModelOk policy claims ∧
    (∀ w, policy.workload = some w → WorkloadOk w container) ∧
    (∀ g, policy.gceInstance = some g → GceInstanceOk g gce) ∧
    ∀ cs, policy.confidentialSpace = some cs → ConfidentialSpaceOk cs claims submods

/-! ### Each reader returns what its claim holds -/

theorem safeGetMap_eq_ok {d m : Dict} {key : String} :
    safeGetMap (.dict d) key = .ok m ↔ MapAt d key m := by
  simp only [safeGetMap, MapAt, dictGetD]
  cases h : d.lookup key with
  | none => simp [eq_comm]
  | some v => cases v <;> simp

theorem listClaim_eq_ok {α : Type} {read : Json → Option α} {mk : α → Json}
    (hread : ∀ {v a}, read v = some a ↔ v = mk a) {d : Dict} {key : String} {e : Exc}
    {as : List α} : listClaim read d key e = .ok as ↔ ListAt mk d key as := by
  simp only [listClaim, ListAt, dictGetD]
  cases h : d.lookup key with
  | none => simp [eq_comm]
  | some v =>
      cases v with
      | list xs =>
          simp only [Option.getD_some, reduceCtorEq, false_and, false_or, Option.some.injEq,
            Json.list.injEq, ← Json.mapM_eq_some hread]
          cases xs.mapM read <;> simp
      | _ => simp

theorem mem_addImageSignature {acc : List String × List String} {sig : Dict} {k : String} :
    (k ∈ (addImageSignature acc sig).1 ↔ k ∈ acc.1 ∨ HasKeyId sig k) ∧
    (k ∈ (addImageSignature acc sig).2 ↔ k ∈ acc.2 ∨ HasExact sig k) := by
  rw [addImageSignature, HasKeyId, HasExact]
  cases hk : dictGet sig "key_id" with
  | str keyId =>
      by_cases hk0 : keyId = ""
      · simp [hk0, eq_comm]
      · cases ha : dictGet sig "signature_algorithm" with
        | str alg => by_cases ha0 : alg = "" <;> simp [hk0, ha0] <;> grind
        | _ => simp [hk0]; grind
  | _ => simp

/-- The sets `_parse_image_signatures` collects, element by element. -/
theorem mem_foldl_addImageSignature {sigs : List Dict} {acc : List String × List String}
    {k : String} :
    (k ∈ (sigs.foldl addImageSignature acc).1 ↔ k ∈ acc.1 ∨ ∃ sig ∈ sigs, HasKeyId sig k) ∧
    (k ∈ (sigs.foldl addImageSignature acc).2 ↔ k ∈ acc.2 ∨ ∃ sig ∈ sigs, HasExact sig k) := by
  induction sigs generalizing acc with
  | nil => simp
  | cons sig sigs ih =>
      rw [List.foldl_cons, ih.1, ih.2, mem_addImageSignature.1, mem_addImageSignature.2]
      simp [or_assoc]

theorem parseImageSignatures_eq_ok {container : Dict} {token : List String × List String} :
    parseImageSignatures container = .ok token ↔
      ∃ sigs, ListAt .dict container "image_signatures" sigs ∧
        sigs.foldl addImageSignature ([], []) = token := by
  simp only [parseImageSignatures, bind_eq_ok, pure_eq_ok, listClaim_eq_ok Json.asDict_eq_some]

theorem claimSections_eq_ok {claims submods container gce : Dict} :
    claimSections claims = .ok (submods, container, gce) ↔
      MapAt claims "submods" submods ∧ MapAt submods "container" container ∧
        MapAt submods "gce" gce := by
  simp only [claimSections, wrapAs_eq_ok, bind_eq_ok, pure_eq_ok, safeGetMap_eq_ok,
    Prod.mk.injEq]
  constructor
  · rintro ⟨_, h₁, _, h₂, _, h₃, rfl, rfl, rfl⟩; exact ⟨h₁, h₂, h₃⟩
  · rintro ⟨h₁, h₂, h₃⟩; exact ⟨_, h₁, _, h₂, _, h₃, rfl, rfl, rfl⟩

/-! ### Each check returns where its section is satisfied -/

theorem enforceHwModel_eq_ok {policy : AttestationPolicy} {claims : Dict} :
    enforceHwModel policy claims = .ok () ↔ HwModelOk policy claims := by
  rw [enforceHwModel, HwModelOk]
  by_cases h : policy.hwModel = .unspecified
  · simp [h]
  · cases hm : gcaStringByHwModel policy.hwModel <;> simp [h]

theorem enforceImageHash_eq_ok {w : WorkloadPolicy} {container : Dict} :
    enforceImageHash w container = .ok () ↔
      (w.imageHash = "" ∨ dictGet container "image_digest" = .str w.imageHash) := by
  simp [enforceImageHash, or_iff_not_imp_left]

theorem enforceImageSignature_eq_ok {sigs : List Dict} {requiredSig : String} :
    enforceImageSignature (sigs.foldl addImageSignature ([], [])) requiredSig = .ok () ↔
      SignatureMatched sigs requiredSig := by
  rw [enforceImageSignature, SignatureMatched]
  by_cases h : ':' ∈ requiredSig.toList <;> simp [h, mem_foldl_addImageSignature]

theorem enforceWorkload_eq_ok {w : WorkloadPolicy} {container : Dict} :
    enforceWorkload w container = .ok () ↔ WorkloadOk w container := by
  simp only [enforceWorkload, bind_eq_ok, exists_unit, enforceImageHash_eq_ok, WorkloadOk]
  refine and_congr_right fun _ => ?_
  by_cases h : w.signingKeyId ≠ "" ∨ w.imageSignatures ≠ []
  · rw [if_pos h]
    simp only [bind_eq_ok, exists_unit, parseImageSignatures_eq_ok, raiseIf_eq_ok, forM_eq_ok,
      forall_prop_of_true h]
    constructor
    · rintro ⟨_, ⟨sigs, hs, rfl⟩, hk, hr⟩
      refine ⟨sigs, hs, ?_, fun r hr' => enforceImageSignature_eq_ok.mp (hr r hr')⟩
      simpa [mem_foldl_addImageSignature, or_iff_not_imp_left] using hk
    · rintro ⟨sigs, hs, hk, hr⟩
      refine ⟨_, ⟨sigs, hs, rfl⟩, ?_, fun r hr' => enforceImageSignature_eq_ok.mpr (hr r hr')⟩
      simpa [mem_foldl_addImageSignature, or_iff_not_imp_left] using hk
  · simp [h]

theorem enforceGceInstance_eq_ok {g : GceInstancePolicy} {gce : Dict} :
    enforceGceInstance g gce = .ok () ↔ GceInstanceOk g gce := by
  simp [enforceGceInstance, GceInstanceOk, gcePolicyFields, or_iff_not_imp_left]

theorem validateConfidentialSpacePolicy_eq_ok {claims submods : Dict}
    {cs : ConfidentialSpacePolicy} :
    validateConfidentialSpacePolicy claims submods cs = .ok () ↔
      ConfidentialSpaceOk cs claims submods := by
  simp only [validateConfidentialSpacePolicy, bind_eq_ok, exists_unit, raiseIf_eq_ok, not_and,
    Bool.not_eq_false, Json.eqStr_eq_true, Json.isTrue_eq_true]
  rw [ConfidentialSpaceOk, expectedCsSwname, expectedCsDbgstat]
  refine and_congr_right fun _ => and_congr_right fun _ => and_congr_right fun _ => ?_
  by_cases h : cs.supportAttributes ≠ []
  · simp [h, safeGetMap_eq_ok, parseSupportAttributes, listClaim_eq_ok Json.asStr_eq_some,
      forM_eq_ok, enforceSupportAttribute]
  · simp [h]

theorem enforceIfSet_eq_ok {α : Type} {section? : Option α} {check : α → Except Exc Unit} :
    enforceIfSet section? check = .ok () ↔ ∀ a, section? = some a → check a = .ok () := by
  cases section? <;> simp [enforceIfSet]

theorem enforcePolicy_eq_ok {policy : AttestationPolicy} {claims : Dict} :
    enforcePolicy (some policy) claims = .ok () ↔ Satisfies policy claims := by
  simp only [enforcePolicy, bind_eq_ok, exists_unit, Prod.exists, claimSections_eq_ok,
    enforceHwModel_eq_ok, enforceIfSet_eq_ok, enforceWorkload_eq_ok, enforceGceInstance_eq_ok,
    validateConfidentialSpacePolicy_eq_ok, Satisfies, and_assoc]

/-! ### Every other outcome is a policy violation -/

theorem safeGetMap_raisesOnly {d : Dict} {key : String} :
    RaisesOnly attestationVerificationError (safeGetMap (.dict d) key) := by
  intro e h
  simp only [safeGetMap] at h
  split at h
  · cases h
  · cases h; rfl

theorem listClaim_raisesOnly {α : Type} {read : Json → Option α} {d : Dict} {key : String}
    {m : List Piece} :
    RaisesOnly policyViolationError (listClaim read d key ⟨policyViolationError, m⟩) := by
  intro e h
  rw [listClaim] at h
  split at h
  · rename_i xs _
    cases hx : xs.mapM read <;> simp [hx] at h
    rw [← h]
  · cases h; rfl

theorem claimSections_raisesOnly {claims : Dict} :
    RaisesOnly policyViolationError (claimSections claims) :=
  .wrapAs (.bind safeGetMap_raisesOnly fun _ => .bind safeGetMap_raisesOnly fun _ =>
    .bind safeGetMap_raisesOnly fun _ => .pure) fun _ => rfl

theorem enforceHwModel_raisesOnly {policy : AttestationPolicy} {claims : Dict} :
    RaisesOnly policyViolationError (enforceHwModel policy claims) := by
  rw [enforceHwModel]
  split
  · exact .ok
  · split
    · intro e h; cases h; rfl
    · exact .raiseIf

theorem enforceWorkload_raisesOnly {w : WorkloadPolicy} {container : Dict} :
    RaisesOnly policyViolationError (enforceWorkload w container) := by
  refine .bind .raiseIf fun _ => ?_
  split
  · exact .bind (.bind listClaim_raisesOnly fun _ => .pure) fun _ =>
      .bind .raiseIf fun _ => .forM fun _ => .raiseIf
  · exact .pure

theorem enforceGceInstance_raisesOnly {g : GceInstancePolicy} {gce : Dict} :
    RaisesOnly policyViolationError (enforceGceInstance g gce) :=
  .forM fun _ => .raiseIf

theorem validateConfidentialSpacePolicy_raisesOnly {claims submods : Dict}
    {cs : ConfidentialSpacePolicy} :
    RaisesOnly policyViolationError (validateConfidentialSpacePolicy claims submods cs) := by
  refine .bind .raiseIf fun _ => .bind .raiseIf fun _ => .bind .raiseIf fun _ => ?_
  split
  · exact .bind (.wrapAs safeGetMap_raisesOnly fun _ => rfl) fun _ =>
      .bind listClaim_raisesOnly fun _ => .forM fun _ => .raiseIf
  · exact .pure

theorem enforceIfSet_raisesOnly {α : Type} {section? : Option α} {check : α → Except Exc Unit}
    (h : ∀ a, RaisesOnly policyViolationError (check a)) :
    RaisesOnly policyViolationError (enforceIfSet section? check) := by
  cases section? with
  | none => exact .ok
  | some a => exact h a

theorem enforcePolicy_raisesOnly {policy : Option AttestationPolicy} {claims : Dict} :
    RaisesOnly policyViolationError (enforcePolicy policy claims) := by
  cases policy with
  | none => exact .ok
  | some p =>
      exact .bind claimSections_raisesOnly fun _ => .bind enforceHwModel_raisesOnly fun _ =>
        .bind (enforceIfSet_raisesOnly fun _ => enforceWorkload_raisesOnly) fun _ =>
        .bind (enforceIfSet_raisesOnly fun _ => enforceGceInstance_raisesOnly) fun _ =>
        enforceIfSet_raisesOnly fun _ => validateConfidentialSpacePolicy_raisesOnly

/-- **The policy decision is exact.**  `_enforce_policy` returns at exactly the claims that
satisfy the policy; at any others it raises `PolicyViolationError`. -/
theorem enforcePolicy_exact (policy : AttestationPolicy) (claims : Dict) :
    (enforcePolicy (some policy) claims = .ok () ↔ Satisfies policy claims) ∧
      (¬ Satisfies policy claims →
        ∃ msg, enforcePolicy (some policy) claims = .error ⟨policyViolationError, msg⟩) :=
  ⟨enforcePolicy_eq_ok, fun h =>
    enforcePolicy_raisesOnly.error_of_ne_ok fun h' => h (enforcePolicy_eq_ok.mp h')⟩

end PromptEncryption.Client
