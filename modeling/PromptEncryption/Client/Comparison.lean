import PromptEncryption.Client.Attested
import PromptEncryption.Client.KeyIds

/-!
# Client — comparing policies

A policy is what it demands (`Demands`): each field it sets is one demand on a token, or one for each
of its entries.  A token meets a demand or does not (`Demand.Met`), whatever else is demanded.

* `satisfies_iff`: a token satisfies a policy exactly where its sections are mappings and it meets each
  demand.
* `acceptable_iff`: some token is accepted exactly where each demand of the policy can be met; the
  demands of a policy never contradict each other.
* `trustsAll_iff`: whatever a client with one policy trusts, a client with another does, exactly where
  the two ask for the same audience, and each demand of the other is entailed by a single demand of
  the one.
-/

namespace PromptEncryption.Client
open Python

/-! ### Demands -/

/-- One thing a policy can demand of a token. -/
inductive Demand where
  | hwModel (model : HardwareModel)
  | imageHash (hash : String)
  /-- An image signature with this key id. -/
  | keyId (k : String)
  /-- An image signature with this text. -/
  | exact (entry : String)
  | gceInstance (field value : String)
  | confidentialSpace
  | debugDisabled
  | secboot
  | supportAttribute (attr : String)

/-- The section `key` of the token's `submods` is `m`. -/
def Submod (claims : Dict) (key : String) (m : Dict) : Prop :=
  ∃ submods, MapAt claims "submods" submods ∧ MapAt submods key m

/-- The token's image signatures. -/
def SignatureClaims (claims : Dict) (sigs : List Dict) : Prop :=
  ∃ container, Submod claims "container" container ∧ ListAt .dict container "image_signatures" sigs

/-- The token meets the demand. -/
def Demand.Met (claims : Dict) : Demand → Prop
  | .hwModel model => ∃ name, gcaStringByHwModel model = some name ∧
      dictGet claims "hwmodel" = .str name
  | .imageHash hash => ∃ container, Submod claims "container" container ∧
      dictGet container "image_digest" = .str hash
  | .keyId k => ∃ sigs, SignatureClaims claims sigs ∧ ∃ sig ∈ sigs, HasKeyId sig k
  | .exact entry => ∃ sigs, SignatureClaims claims sigs ∧ ∃ sig ∈ sigs, HasExact sig entry
  | .gceInstance field value => ∃ gce, Submod claims "gce" gce ∧ dictGet gce field = .str value
  | .confidentialSpace => dictGet claims "swname" = .str expectedCsSwname
  | .debugDisabled => dictGet claims "dbgstat" = .str expectedCsDbgstat
  | .secboot => dictGet claims "secboot" = .bool true
  | .supportAttribute attr => ∃ m attrs, Submod claims "confidential_space" m ∧
      ListAt .str m "support_attributes" attrs ∧ attr ∈ attrs

/-- Some token meets the demand. -/
def Demand.Meetable : Demand → Prop
  | .hwModel model => gcaStringByHwModel model ≠ none
  | .keyId k => k ≠ ""
  | .exact entry => ∃ s : ImageSignature, exactSignature s.algorithm s.keyId = entry
  | _ => True

/-- Whatever meets the first demand meets the second. -/
def Demand.Entails : Demand → Demand → Prop
  | .exact entry, .keyId k =>
      ∀ s : ImageSignature, exactSignature s.algorithm s.keyId = entry → s.keyId = k
  | d, d' => d = d'

/-! ### What a policy demands -/

def WorkloadDemands (w : WorkloadPolicy) : Demand → Prop
  | .imageHash hash => w.imageHash = hash ∧ hash ≠ ""
  | .keyId k => w.signingKeyId = k ∧ k ≠ "" ∨ k ∈ w.imageSignatures ∧ ':' ∉ k.toList
  | .exact entry => entry ∈ w.imageSignatures ∧ ':' ∈ entry.toList
  | _ => False

def GceInstanceDemands (g : GceInstancePolicy) : Demand → Prop
  | .gceInstance field value =>
      (field, value) ∈ gcePolicyFields.map (fun f => (f.1, f.2 g)) ∧ value ≠ ""
  | _ => False

def ConfidentialSpaceDemands (cs : ConfidentialSpacePolicy) : Demand → Prop
  | .confidentialSpace => True
  | .debugDisabled => cs.requireDebugDisabled = true
  | .secboot => cs.requireSecboot = true
  | .supportAttribute attr => attr ∈ cs.supportAttributes
  | _ => False

/-- The policy demands it. -/
inductive Demands (p : AttestationPolicy) : Demand → Prop where
  | hwModel : p.hwModel ≠ .unspecified → Demands p (.hwModel p.hwModel)
  | workload {w d} : p.workload = some w → WorkloadDemands w d → Demands p d
  | gceInstance {g d} : p.gceInstance = some g → GceInstanceDemands g d → Demands p d
  | confidentialSpace {cs d} : p.confidentialSpace = some cs → ConfidentialSpaceDemands cs d →
      Demands p d

/-! ### A policy is what it demands -/

section
variable {claims submods container gce m m' : Dict}

theorem Submod.unique {key : String} (h : Submod claims key m) (h' : Submod claims key m') :
    m = m' := by
  obtain ⟨submods, hsubmods, hm⟩ := h
  obtain ⟨submods', hsubmods', hm'⟩ := h'
  obtain rfl := hsubmods.unique hsubmods'
  exact hm.unique hm'

theorem SignatureClaims.unique {sigs sigs' : List Dict} (h : SignatureClaims claims sigs)
    (h' : SignatureClaims claims sigs') : sigs = sigs' := by
  obtain ⟨container, hcontainer, hsigs⟩ := h
  obtain ⟨container', hcontainer', hsigs'⟩ := h'
  obtain rfl := hcontainer.unique hcontainer'
  exact hsigs.unique hsigs'

theorem stringsAt_unique {d : Dict} {key : String} {as as' : List String} (h : ListAt .str d key as)
    (h' : ListAt .str d key as') : as = as' := by
  have hread : ∀ {as}, listClaim Json.asStr d key ⟨policyViolationError, []⟩ = .ok as ↔
      ListAt .str d key as := listClaim_eq_ok Json.asStr_eq_some
  exact Except.ok.inj ((hread.mpr h).symm.trans (hread.mpr h'))

theorem hwModelOk_iff {p : AttestationPolicy} : HwModelOk p claims ↔
    (p.hwModel ≠ .unspecified → (Demand.hwModel p.hwModel).Met claims) :=
  or_iff_not_imp_left

/-- The entries of one required signature. -/
theorem signatureMatched_iff {sigs : List Dict} {entry : String} : SignatureMatched sigs entry ↔
    (':' ∉ entry.toList → ∃ sig ∈ sigs, HasKeyId sig entry) ∧
      (':' ∈ entry.toList → ∃ sig ∈ sigs, HasExact sig entry) := by
  rw [SignatureMatched]
  split <;> simp [*]

theorem workloadOk_iff (h : Submod claims "container" container) {w : WorkloadPolicy} :
    WorkloadOk w container ↔ ∀ d, WorkloadDemands w d → d.Met claims := by
  constructor
  · rintro ⟨hhash, hsigs⟩ d hd
    cases d with
    | imageHash hash =>
        obtain ⟨rfl, hne⟩ := hd
        exact ⟨container, h, hhash.resolve_left hne⟩
    | keyId k =>
        rcases hd with ⟨rfl, hne⟩ | ⟨hmem, hcolon⟩
        · obtain ⟨sigs, hlist, hsigning, -⟩ := hsigs (.inl hne)
          exact ⟨sigs, ⟨container, h, hlist⟩, hsigning.resolve_left hne⟩
        · obtain ⟨sigs, hlist, -, hall⟩ := hsigs (.inr (List.ne_nil_of_mem hmem))
          exact ⟨sigs, ⟨container, h, hlist⟩, (signatureMatched_iff.mp (hall k hmem)).1 hcolon⟩
    | exact entry =>
        obtain ⟨hmem, hcolon⟩ := hd
        obtain ⟨sigs, hlist, -, hall⟩ := hsigs (.inr (List.ne_nil_of_mem hmem))
        exact ⟨sigs, ⟨container, h, hlist⟩, (signatureMatched_iff.mp (hall entry hmem)).2 hcolon⟩
    | _ => exact hd.elim
  · intro hall
    refine ⟨or_iff_not_imp_left.mpr fun hne => ?_, fun hneeded => ?_⟩
    · obtain ⟨container', h', hhash⟩ := hall (.imageHash w.imageHash) ⟨rfl, hne⟩
      rwa [h.unique h']
    -- some demand names the image signatures, and they are the same for all
    have hsome : ∃ sigs, SignatureClaims claims sigs := by
      rcases hneeded with hne | hne
      · obtain ⟨sigs, hsigs, -⟩ := hall (.keyId w.signingKeyId) (.inl ⟨rfl, hne⟩)
        exact ⟨sigs, hsigs⟩
      · obtain ⟨entry, hmem⟩ := List.exists_mem_of_ne_nil _ hne
        by_cases hcolon : ':' ∈ entry.toList
        · obtain ⟨sigs, hsigs, -⟩ := hall (.exact entry) ⟨hmem, hcolon⟩
          exact ⟨sigs, hsigs⟩
        · obtain ⟨sigs, hsigs, -⟩ := hall (.keyId entry) (.inr ⟨hmem, hcolon⟩)
          exact ⟨sigs, hsigs⟩
    obtain ⟨sigs, hsigs⟩ := hsome
    have hkeyId : ∀ k, WorkloadDemands w (.keyId k) → ∃ sig ∈ sigs, HasKeyId sig k := by
      intro k hk
      obtain ⟨sigs', hsigs', hsig⟩ := hall (.keyId k) hk
      rwa [hsigs.unique hsigs']
    obtain ⟨container', h', hlist⟩ := hsigs
    obtain rfl := h.unique h'
    refine ⟨sigs, hlist, or_iff_not_imp_left.mpr fun hne => hkeyId _ (.inl ⟨rfl, hne⟩), ?_⟩
    refine fun entry hmem => signatureMatched_iff.mpr ⟨fun hcolon => ?_, fun hcolon => ?_⟩
    · exact hkeyId entry (.inr ⟨hmem, hcolon⟩)
    · obtain ⟨sigs', hsigs', hsig⟩ := hall (.exact entry) ⟨hmem, hcolon⟩
      rwa [SignatureClaims.unique ⟨_, h, hlist⟩ hsigs']

theorem gceInstanceOk_iff (h : Submod claims "gce" gce) {g : GceInstancePolicy} :
    GceInstanceOk g gce ↔ ∀ d, GceInstanceDemands g d → d.Met claims := by
  have hfields : GceInstanceOk g gce ↔
      ∀ f ∈ gcePolicyFields, f.2 g ≠ "" → dictGet gce f.1 = .str (f.2 g) := by
    simp only [GceInstanceOk, gcePolicyFields, List.forall_mem_cons, or_iff_not_imp_left]
    simp
  rw [hfields]
  constructor
  · intro hall d hd
    cases d with
    | gceInstance field value =>
        obtain ⟨hmem, hne⟩ := hd
        obtain ⟨f, hf, heq⟩ := List.mem_map.mp hmem
        obtain ⟨rfl, rfl⟩ := Prod.mk.inj heq
        exact ⟨gce, h, hall f hf hne⟩
    | _ => exact hd.elim
  · intro hall f hf hne
    obtain ⟨gce', h', heq⟩ := hall (.gceInstance f.1 (f.2 g)) ⟨List.mem_map_of_mem hf, hne⟩
    rwa [h.unique h']

theorem confidentialSpaceOk_iff (h : MapAt claims "submods" submods) {cs : ConfidentialSpacePolicy} :
    ConfidentialSpaceOk cs claims submods ↔ ∀ d, ConfidentialSpaceDemands cs d → d.Met claims := by
  constructor
  · rintro ⟨hname, hdebug, hsecboot, hattrs⟩ d hd
    cases d with
    | confidentialSpace => exact hname
    | debugDisabled => exact hdebug hd
    | secboot => exact hsecboot hd
    | supportAttribute attr =>
        obtain ⟨m, attrs, hm, hlist, hall⟩ := hattrs (List.ne_nil_of_mem hd)
        exact ⟨m, attrs, ⟨submods, h, hm⟩, hlist, hall attr hd⟩
    | _ => exact hd.elim
  · intro hall
    refine ⟨hall .confidentialSpace trivial, hall .debugDisabled, hall .secboot, fun hne => ?_⟩
    obtain ⟨attr, hattr⟩ := List.exists_mem_of_ne_nil _ hne
    obtain ⟨m, attrs, hm, hlist, -⟩ := hall (.supportAttribute attr) hattr
    obtain ⟨submods', h', hm'⟩ := hm
    obtain rfl := h.unique h'
    refine ⟨m, attrs, hm', hlist, fun attr' hattr' => ?_⟩
    obtain ⟨m', attrs', hm'', hlist', hmem⟩ := hall (.supportAttribute attr') hattr'
    obtain rfl := Submod.unique ⟨_, h, hm'⟩ hm''
    rwa [stringsAt_unique hlist hlist']

/-- **A policy is what it demands.** -/
theorem satisfies_iff {p : AttestationPolicy} : Satisfies p claims ↔
    (∃ container, Submod claims "container" container) ∧ (∃ gce, Submod claims "gce" gce) ∧
      ∀ d, Demands p d → d.Met claims := by
  constructor
  · rintro ⟨submods, container, gce, hsubmods, hcontainer, hgce, hhw, hworkload, hinstance, hcs⟩
    refine ⟨⟨_, _, hsubmods, hcontainer⟩, ⟨_, _, hsubmods, hgce⟩, fun d hd => ?_⟩
    cases hd with
    | hwModel hne => exact hwModelOk_iff.mp hhw hne
    | workload hw hd => exact (workloadOk_iff ⟨_, hsubmods, hcontainer⟩).mp (hworkload _ hw) d hd
    | gceInstance hg hd => exact (gceInstanceOk_iff ⟨_, hsubmods, hgce⟩).mp (hinstance _ hg) d hd
    | confidentialSpace hcs' hd => exact (confidentialSpaceOk_iff hsubmods).mp (hcs _ hcs') d hd
  · rintro ⟨⟨container, submods, hsubmods, hcontainer⟩, ⟨gce, submods', hsubmods', hgce⟩, hall⟩
    obtain rfl := hsubmods.unique hsubmods'
    refine ⟨submods, container, gce, hsubmods, hcontainer, hgce,
      hwModelOk_iff.mpr fun hne => hall _ (.hwModel hne), fun w hw => ?_, fun g hg => ?_,
      fun cs hcs => ?_⟩
    · exact (workloadOk_iff ⟨_, hsubmods, hcontainer⟩).mpr fun d hd => hall d (.workload hw hd)
    · exact (gceInstanceOk_iff ⟨_, hsubmods, hgce⟩).mpr fun d hd => hall d (.gceInstance hg hd)
    · exact (confidentialSpaceOk_iff hsubmods).mpr fun d hd => hall d (.confidentialSpace hcs hd)

/-! ### Demands that entail others -/

theorem Demand.Met.meetable {d : Demand} (h : d.Met claims) : d.Meetable := by
  cases d with
  | hwModel model =>
      obtain ⟨name, hname, -⟩ := h
      rw [Demand.Meetable, hname]
      exact Option.some_ne_none name
  | keyId k =>
      obtain ⟨-, -, -, -, hne, -⟩ := h
      exact hne
  | exact entry =>
      obtain ⟨-, -, -, -, algorithm, keyId, halgorithm, hkeyId, -, -, rfl⟩ := h
      exact ⟨⟨algorithm, keyId, halgorithm, hkeyId⟩, rfl⟩
  | _ => trivial

theorem Demand.Entails.refl (d : Demand) : d.Entails d := by
  cases d <;> rfl

theorem Demand.Entails.met {d d' : Demand} (h : d.Entails d') (hd : d.Met claims) : d'.Met claims := by
  rw [Demand.Entails.eq_def] at h
  split at h
  · obtain ⟨sigs, hsigs, sig, hsig, algorithm, keyId, halgorithm, hkeyId, -, hkey, hentry⟩ := hd
    have hk := h ⟨algorithm, keyId, halgorithm, hkeyId⟩ hentry.symm
    exact ⟨sigs, hsigs, sig, hsig, hk ▸ hkeyId, hk ▸ hkey⟩
  · exact h ▸ hd

end

/-! ### A token that meets no more than is demanded -/

section
variable (split : String → ImageSignature)

def ifSet (value : String) : Json := if value = "" then .none else .str value

/-- A signature for an entry: for one with a `:` the signature its text is split into. -/
def leastSignature (entry : String) : Dict :=
  if ':' ∈ entry.toList then (split entry).claim else [("key_id", .str entry)]

def leastSignatures (w : WorkloadPolicy) : List Dict :=
  [("key_id", .str w.signingKeyId)] :: w.imageSignatures.map (leastSignature split)

def leastContainer (w : WorkloadPolicy) : Dict :=
  [("image_digest", ifSet w.imageHash),
    ("image_signatures", .list ((leastSignatures split w).map .dict))]

def leastGce (g : GceInstancePolicy) : Dict := gcePolicyFields.map fun f => (f.1, ifSet (f.2 g))

def leastConfidentialSpace (cs : ConfidentialSpacePolicy) : Dict :=
  [("support_attributes", .list (cs.supportAttributes.map .str))]

def leastSubmods (q : AttestationPolicy) : Dict :=
  [("container", .dict (q.workload.elim [] (leastContainer split))),
    ("gce", .dict (q.gceInstance.elim [] leastGce)),
    ("confidential_space", .dict (q.confidentialSpace.elim [] leastConfidentialSpace))]

/-- The claims of a token for the key with one fingerprint. -/
def leastClaims (q : AttestationPolicy) : Dict :=
  [("eat_nonce", .list [.str (fingerprint [1])]),
    ("hwmodel", (gcaStringByHwModel q.hwModel).elim .none .str),
    ("swname", if q.confidentialSpace.isSome then .str expectedCsSwname else .none),
    ("dbgstat", if q.confidentialSpace.any (·.requireDebugDisabled) then .str expectedCsDbgstat
      else .none),
    ("secboot", .bool (q.confidentialSpace.any (·.requireSecboot))),
    ("submods", .dict (leastSubmods split q))]

end

section
variable {split : String → ImageSignature} {q : AttestationPolicy}

theorem leastClaims_container (split : String → ImageSignature) (q : AttestationPolicy) :
    Submod (leastClaims split q) "container" (q.workload.elim [] (leastContainer split)) :=
  ⟨leastSubmods split q, .inr rfl, .inr rfl⟩

theorem leastClaims_gce (split : String → ImageSignature) (q : AttestationPolicy) :
    Submod (leastClaims split q) "gce" (q.gceInstance.elim [] leastGce) :=
  ⟨leastSubmods split q, .inr rfl, .inr rfl⟩

theorem leastClaims_confidentialSpace (split : String → ImageSignature) (q : AttestationPolicy) :
    Submod (leastClaims split q) "confidential_space"
      (q.confidentialSpace.elim [] leastConfidentialSpace) :=
  ⟨leastSubmods split q, .inr rfl, .inr rfl⟩

theorem ifSet_eq_str {value s : String} : ifSet value = .str s ↔ value = s ∧ s ≠ "" := by
  rw [ifSet]
  split
  · rename_i hvalue
    simp only [reduceCtorEq, false_iff, not_and, not_not]
    exact fun h => h ▸ hvalue
  · rename_i hvalue
    rw [Json.str.injEq]
    exact ⟨fun h => ⟨h, h ▸ hvalue⟩, fun h => h.1⟩

theorem gcaStringByHwModel_inj {model model' : HardwareModel} {name : String}
    (h : gcaStringByHwModel model = some name) (h' : gcaStringByHwModel model' = some name) :
    model = model' := by
  have heq := h.trans h'.symm
  cases model <;> cases model' <;> first | rfl | simp [gcaStringByHwModel] at h h' heq

/-- The signatures of the token are those of the entries, and one for `signing_key_id`. -/
theorem leastClaims_signatures {sigs : List Dict} (h : SignatureClaims (leastClaims split q) sigs)
    {sig : Dict} (hsig : sig ∈ sigs) : ∃ w, q.workload = some w ∧ sig ∈ leastSignatures split w := by
  obtain ⟨container, hcontainer, hlist⟩ := h
  obtain rfl := (leastClaims_container split q).unique hcontainer
  cases hw : q.workload with
  | none =>
      rw [hw] at hlist
      rcases hlist with ⟨-, rfl⟩ | h
      · cases hsig
      · cases h
  | some w =>
      rw [hw] at hlist
      have hleast : ListAt .dict (leastContainer split w) "image_signatures"
          (leastSignatures split w) := .inr rfl
      exact ⟨w, rfl, hlist.unique hleast ▸ hsig⟩

/-- A field of the section is one of the policy's. -/
theorem exists_field_of_leastGce {g : GceInstancePolicy} {field value : String}
    (h : dictGet (leastGce g) field = .str value) :
    ∃ f ∈ gcePolicyFields, f.1 = field ∧ ifSet (f.2 g) = .str value := by
  rw [dictGet, dictGetD] at h
  cases hlookup : (leastGce g).lookup field with
  | none =>
      rw [hlookup] at h
      cases h
  | some v =>
      rw [hlookup] at h
      obtain ⟨l₁, l₂, hsplit, -⟩ := List.lookup_eq_some_iff.mp hlookup
      have hmem : (field, v) ∈ leastGce g := hsplit ▸ List.mem_append_right l₁ List.mem_cons_self
      obtain ⟨f, hf, heq⟩ := List.mem_map.mp hmem
      obtain ⟨hfield, hv⟩ := Prod.mk.inj heq
      exact ⟨f, hf, hfield, hv.trans h⟩

theorem leastGce_field {g : GceInstancePolicy} {field value : String}
    (h : (field, value) ∈ gcePolicyFields.map (fun f => (f.1, f.2 g))) (hne : value ≠ "") :
    dictGet (leastGce g) field = .str value := by
  simp only [gcePolicyFields, List.map_cons, List.map_nil, List.mem_cons, Prod.mk.injEq,
    List.not_mem_nil, or_false] at h
  rcases h with ⟨rfl, rfl⟩ | ⟨rfl, rfl⟩ | ⟨rfl, rfl⟩ | ⟨rfl, rfl⟩
  all_goals exact ifSet_eq_str.mpr ⟨rfl, hne⟩

/-- What a signature of the token shows of a demand is demanded, or is the key id of a text that is. -/
theorem keyId_demanded {w : WorkloadPolicy} (hw : q.workload = some w) {sig : Dict}
    (hsig : sig ∈ leastSignatures split w) {k : String} (hk : HasKeyId sig k) :
    Demands q (.keyId k) ∨ ∃ entry, Demands q (.exact entry) ∧ (split entry).keyId = k := by
  rcases List.mem_cons.mp hsig with rfl | hsig
  · obtain ⟨hne, hkey⟩ := hk
    exact .inl (.workload hw (.inl ⟨Json.str.inj hkey, hne⟩))
  · obtain ⟨entry, hentry, rfl⟩ := List.mem_map.mp hsig
    by_cases hcolon : ':' ∈ entry.toList
    · rw [leastSignature, if_pos hcolon] at hk
      exact .inr ⟨entry, .workload hw ⟨hentry, hcolon⟩, Json.str.inj hk.2⟩
    · rw [leastSignature, if_neg hcolon] at hk
      obtain rfl : entry = k := Json.str.inj hk.2
      exact .inl (.workload hw (.inr ⟨hentry, hcolon⟩))

/-- The texts that are demanded are split into an algorithm and a key id. -/
def Splits (split : String → ImageSignature) (q : AttestationPolicy) : Prop :=
  ∀ entry, Demands q (.exact entry) →
    exactSignature (split entry).algorithm (split entry).keyId = entry

/-- A signature without an algorithm has no text. -/
theorem not_hasExact_keyId {k entry : String} : ¬ HasExact [("key_id", .str k)] entry := by
  rintro ⟨_, _, _, _, halgorithm, _⟩
  cases halgorithm

theorem exact_demanded (hsplit : Splits split q) {w : WorkloadPolicy} (hw : q.workload = some w)
    {sig : Dict} (hsig : sig ∈ leastSignatures split w) {entry : String} (he : HasExact sig entry) :
    Demands q (.exact entry) := by
  rcases List.mem_cons.mp hsig with rfl | hsig
  · exact absurd he not_hasExact_keyId
  · obtain ⟨entry', hentry, rfl⟩ := List.mem_map.mp hsig
    by_cases hcolon : ':' ∈ entry'.toList
    · rw [leastSignature, if_pos hcolon] at he
      have hdemands : Demands q (.exact entry') := .workload hw ⟨hentry, hcolon⟩
      have hclaim : IsClaim (split entry') (split entry').claim := ⟨rfl, rfl⟩
      rw [← hclaim.hasExact.mp he, hsplit entry' hdemands]
      exact hdemands
    · rw [leastSignature, if_neg hcolon] at he
      exact absurd he not_hasExact_keyId

theorem hwModel_demanded {model : HardwareModel}
    (h : (Demand.hwModel model).Met (leastClaims split q)) : Demands q (.hwModel model) := by
  obtain ⟨name, hname, hmodel⟩ := h
  change (gcaStringByHwModel q.hwModel).elim Json.none .str = .str name at hmodel
  cases hq : gcaStringByHwModel q.hwModel with
  | none =>
      rw [hq] at hmodel
      cases hmodel
  | some name' =>
      rw [hq] at hmodel
      obtain rfl : name' = name := Json.str.inj hmodel
      obtain rfl := gcaStringByHwModel_inj hq hname
      refine .hwModel fun hunspecified => ?_
      rw [hunspecified] at hq
      cases hq

theorem imageHash_demanded {hash : String}
    (h : (Demand.imageHash hash).Met (leastClaims split q)) : Demands q (.imageHash hash) := by
  obtain ⟨container, hcontainer, hhash⟩ := h
  obtain rfl := (leastClaims_container split q).unique hcontainer
  cases hw : q.workload with
  | none =>
      rw [hw] at hhash
      cases hhash
  | some w =>
      rw [hw] at hhash
      exact .workload hw (ifSet_eq_str.mp hhash)

theorem gceInstance_demanded {field value : String}
    (h : (Demand.gceInstance field value).Met (leastClaims split q)) :
    Demands q (.gceInstance field value) := by
  obtain ⟨gce, hgce, hvalue⟩ := h
  obtain rfl := (leastClaims_gce split q).unique hgce
  cases hg : q.gceInstance with
  | none =>
      rw [hg] at hvalue
      cases hvalue
  | some g =>
      rw [hg] at hvalue
      obtain ⟨f, hf, rfl, hset⟩ := exists_field_of_leastGce hvalue
      obtain ⟨rfl, hne⟩ := ifSet_eq_str.mp hset
      exact .gceInstance hg ⟨List.mem_map_of_mem hf, hne⟩

theorem supportAttribute_demanded {attr : String}
    (h : (Demand.supportAttribute attr).Met (leastClaims split q)) :
    Demands q (.supportAttribute attr) := by
  obtain ⟨m, attrs, hm, hlist, hattr⟩ := h
  obtain rfl := (leastClaims_confidentialSpace split q).unique hm
  cases hcs : q.confidentialSpace with
  | none =>
      rw [hcs] at hlist
      rcases hlist with ⟨-, rfl⟩ | h
      · cases hattr
      · cases h
  | some cs =>
      rw [hcs] at hlist
      have hleast : ListAt .str (leastConfidentialSpace cs) "support_attributes"
        cs.supportAttributes := .inr rfl
      rw [stringsAt_unique hlist hleast] at hattr
      exact .confidentialSpace hcs hattr

/-- **No more than is demanded** is met by the token, but for the key ids of the texts demanded. -/
theorem demanded_of_met (hsplit : Splits split q) {d : Demand} (h : d.Met (leastClaims split q)) :
    Demands q d ∨ ∃ entry, Demands q (.exact entry) ∧ d = .keyId (split entry).keyId := by
  cases d with
  | hwModel model => exact .inl (hwModel_demanded h)
  | imageHash hash => exact .inl (imageHash_demanded h)
  | keyId k =>
      obtain ⟨sigs, hsigs, sig, hsig, hk⟩ := h
      obtain ⟨w, hw, hleast⟩ := leastClaims_signatures hsigs hsig
      refine (keyId_demanded hw hleast hk).imp_right ?_
      rintro ⟨entry, hentry, rfl⟩
      exact ⟨entry, hentry, rfl⟩
  | exact entry =>
      obtain ⟨sigs, hsigs, sig, hsig, he⟩ := h
      obtain ⟨w, hw, hleast⟩ := leastClaims_signatures hsigs hsig
      exact .inl (exact_demanded hsplit hw hleast he)
  | gceInstance field value => exact .inl (gceInstance_demanded h)
  | confidentialSpace =>
      change (if q.confidentialSpace.isSome then Json.str expectedCsSwname else .none) = _ at h
      split at h
      · rename_i hsome
        obtain ⟨cs, hcs⟩ := Option.isSome_iff_exists.mp hsome
        exact .inl (.confidentialSpace hcs trivial)
      · cases h
  | debugDisabled =>
      change (if q.confidentialSpace.any (·.requireDebugDisabled) then Json.str expectedCsDbgstat
        else .none) = _ at h
      split at h
      · rename_i hany
        obtain ⟨cs, hcs, hrequired⟩ := (Option.any_eq_true _ _).mp hany
        exact .inl (.confidentialSpace hcs hrequired)
      · cases h
  | secboot =>
      obtain ⟨cs, hcs, hrequired⟩ := (Option.any_eq_true _ _).mp (Json.bool.inj h)
      exact .inl (.confidentialSpace hcs hrequired)
  | supportAttribute attr => exact .inl (supportAttribute_demanded h)

/-- **All that is demanded** is met by the token, where each demand can be. -/
theorem met_of_demanded (hsplit : Splits split q) {d : Demand} (hd : Demands q d)
    (hmeetable : d.Meetable) : d.Met (leastClaims split q) := by
  cases hd with
  | hwModel hne =>
      obtain ⟨name, hname⟩ := Option.ne_none_iff_exists'.mp hmeetable
      refine ⟨name, hname, ?_⟩
      change (gcaStringByHwModel q.hwModel).elim Json.none .str = _
      rw [hname]
      rfl
  | @workload w d hw hd =>
      have hcontainer : Submod (leastClaims split q) "container" (leastContainer split w) := by
        have h := leastClaims_container split q
        rwa [hw] at h
      have hsigs : SignatureClaims (leastClaims split q) (leastSignatures split w) :=
        ⟨_, hcontainer, .inr rfl⟩
      cases d with
      | imageHash hash => exact ⟨_, hcontainer, ifSet_eq_str.mpr hd⟩
      | keyId k =>
          refine ⟨_, hsigs, [("key_id", .str k)], ?_, hmeetable, rfl⟩
          rcases hd with ⟨rfl, -⟩ | ⟨hmem, hcolon⟩
          · exact List.mem_cons_self
          · refine List.mem_cons_of_mem _ (List.mem_map.mpr ⟨k, hmem, ?_⟩)
            rw [leastSignature, if_neg hcolon]
      | exact entry =>
          obtain ⟨hmem, hcolon⟩ := hd
          have hclaim : IsClaim (split entry) (split entry).claim := ⟨rfl, rfl⟩
          refine ⟨_, hsigs, (split entry).claim, ?_,
            hclaim.hasExact.mpr (hsplit entry (.workload hw ⟨hmem, hcolon⟩))⟩
          refine List.mem_cons_of_mem _ (List.mem_map.mpr ⟨entry, hmem, ?_⟩)
          rw [leastSignature, if_pos hcolon]
      | _ => exact hd.elim
  | @gceInstance g d hg hd =>
      cases d with
      | gceInstance field value =>
          obtain ⟨hmem, hne⟩ := hd
          refine ⟨leastGce g, ?_, leastGce_field hmem hne⟩
          have h := leastClaims_gce split q
          rwa [hg] at h
      | _ => exact hd.elim
  | @confidentialSpace cs d hcs hd =>
      cases d with
      | confidentialSpace => exact if_pos (Option.isSome_iff_exists.mpr ⟨cs, hcs⟩)
      | debugDisabled => exact if_pos ((Option.any_eq_true _ _).mpr ⟨cs, hcs, hd⟩)
      | secboot => exact congrArg Json.bool ((Option.any_eq_true _ _).mpr ⟨cs, hcs, hd⟩)
      | supportAttribute attr =>
          refine ⟨leastConfidentialSpace cs, cs.supportAttributes, ?_, .inr rfl, hd⟩
          have h := leastClaims_confidentialSpace split q
          rwa [hcs] at h
      | _ => exact hd.elim

theorem leastClaims_accepted (hsplit : Splits split q) (hmeetable : ∀ d, Demands q d → d.Meetable) :
    enforcePolicy (some q) (leastClaims split q) = .ok () :=
  enforcePolicy_eq_ok.mpr <| satisfies_iff.mpr
    ⟨⟨_, leastClaims_container split q⟩, ⟨_, leastClaims_gce split q⟩,
      fun d hd => met_of_demanded hsplit hd (hmeetable d hd)⟩

/-- The texts can be split so that they show none of a demand they do not entail. -/
theorem exists_splits (hmeetable : ∀ d, Demands q d → d.Meetable) (d' : Demand)
    (hd' : ∀ entry, Demands q (.exact entry) → ¬ (Demand.exact entry).Entails d') :
    ∃ split, Splits split q ∧
      ∀ entry, Demands q (.exact entry) → d' ≠ .keyId (split entry).keyId := by
  have hsplit : ∀ entry, ∃ s : ImageSignature, Demands q (.exact entry) →
      exactSignature s.algorithm s.keyId = entry ∧ d' ≠ .keyId s.keyId := by
    intro entry
    by_cases hentry : Demands q (.exact entry)
    · obtain ⟨s, hs⟩ := hmeetable _ hentry
      cases d' with
      | keyId k =>
          have hentails := hd' entry hentry
          simp only [Demand.Entails, not_forall] at hentails
          obtain ⟨s, hs, hk⟩ := hentails
          exact ⟨s, fun _ => ⟨hs, fun h => hk (Demand.keyId.inj h).symm⟩⟩
      | _ => exact ⟨s, fun _ => ⟨hs, fun h => by cases h⟩⟩
    · exact ⟨fingerprintSignature, fun h => absurd h hentry⟩
  choose split hsplit using hsplit
  exact ⟨split, fun entry h => (hsplit entry h).1, fun entry h => (hsplit entry h).2⟩

end

/-! ### Policies compared -/

/-- Some token is accepted. -/
def Acceptable (q : AttestationPolicy) : Prop := ∃ claims, enforcePolicy (some q) claims = .ok ()

theorem acceptable_of_meetable {q : AttestationPolicy} (h : ∀ d, Demands q d → d.Meetable) :
    Acceptable q := by
  obtain ⟨split, hsplit, -⟩ := exists_splits h .secboot
    fun entry _ hentails => by cases hentails
  exact ⟨_, leastClaims_accepted hsplit h⟩

theorem Acceptable.meetable {q : AttestationPolicy} (h : Acceptable q) {d : Demand}
    (hd : Demands q d) : d.Meetable := by
  obtain ⟨claims, hclaims⟩ := h
  exact ((satisfies_iff.mp (enforcePolicy_eq_ok.mp hclaims)).2.2 d hd).meetable

/-- **Which policies reject every token.**  Some token is accepted exactly where the hardware model, if
it is set, is a supported one, and each required image signature is a key id, or an algorithm and a
key id. -/
theorem acceptable_iff {q : AttestationPolicy} : Acceptable q ↔
    (q.hwModel ≠ .unspecified → gcaStringByHwModel q.hwModel ≠ none) ∧
      ∀ w, q.workload = some w → ∀ entry ∈ w.imageSignatures, entry ≠ "" ∧
        (':' ∈ entry.toList → ∃ algorithm keyId, algorithm ≠ "" ∧ keyId ≠ "" ∧
          exactSignature algorithm keyId = entry) := by
  constructor
  · intro h
    refine ⟨fun hne => h.meetable (.hwModel hne), fun w hw entry hentry => ⟨?_, fun hcolon => ?_⟩⟩
    · rintro rfl
      exact h.meetable (.workload (d := .keyId "") hw (.inr ⟨hentry, by simp⟩)) rfl
    · obtain ⟨s, hs⟩ := h.meetable (.workload (d := .exact entry) hw ⟨hentry, hcolon⟩)
      exact ⟨s.algorithm, s.keyId, s.algorithm_ne, s.keyId_ne, hs⟩
  · rintro ⟨hmodel, hentries⟩
    refine acceptable_of_meetable fun d hd => ?_
    cases hd with
    | hwModel hne => exact hmodel hne
    | @workload w d hw hd =>
        cases d with
        | keyId k =>
            rcases hd with ⟨-, hne⟩ | ⟨hmem, -⟩
            · exact hne
            · exact (hentries w hw k hmem).1
        | exact entry =>
            obtain ⟨algorithm, keyId, halgorithm, hkeyId, hentry⟩ :=
              (hentries w hw entry hd.1).2 hd.2
            exact ⟨⟨algorithm, keyId, halgorithm, hkeyId⟩, hentry⟩
        | imageHash hash => trivial
        | _ => exact hd.elim
    | @gceInstance g d hg hd =>
        cases d with
        | gceInstance field value => trivial
        | _ => exact hd.elim
    | @confidentialSpace cs d hcs hd =>
        cases d with
        | hwModel model => exact hd.elim
        | keyId k => exact hd.elim
        | exact entry => exact hd.elim
        | _ => trivial

/-- The audience a token has to be for. -/
def audience (p : AttestationPolicy) : String :=
  if p.expectedAudience ≠ "" then p.expectedAudience else DEFAULT_AUDIENCE

/-- Whatever a client with `q` trusts, one with `p` does. -/
def TrustsAll (p q : AttestationPolicy) : Prop := ∀ libs response tlsEkm nonce,
  validate ⟨some q, libs⟩ response tlsEkm nonce = .ok () →
    validate ⟨some p, libs⟩ response tlsEkm nonce = .ok ()

/-- Each demand of `p` is entailed by one of `q`. -/
def Covers (q p : AttestationPolicy) : Prop := ∀ d', Demands p d' → ∃ d, Demands q d ∧ d.Entails d'

theorem validateOidcToken_eq {p : AttestationPolicy} {libs : Libraries} {token : String} :
    validateOidcToken ⟨some p, libs⟩ token = validateToken libs token (audience p) := by
  change (if p.expectedAudience ≠ "" then _ else _) = _
  rw [audience]
  split <;> rfl

/-- Libraries that decode every token to these claims, for one audience. -/
def claimsLibs (expected : String) (claims : Dict) : Libraries :=
  { sampleLibs with
    verifyAndDecode := fun _ audience =>
      if audience = expected then .ok claims else .error ⟨.exception, []⟩ }

theorem claimsLibs_accepts_iff {p : AttestationPolicy} {expected : String} {claims : Dict}
    (hnonce : dictGet claims "eat_nonce" = .list [.str (fingerprint [1])]) :
    validate ⟨some p, claimsLibs expected claims⟩ sampleResponse [] none = .ok () ↔
      audience p = expected ∧ enforcePolicy (some p) claims = .ok () := by
  have hdecode : ∀ {token claims'}, validateOidcToken ⟨some p, claimsLibs expected claims⟩ token =
      .ok claims' ↔ audience p = expected ∧ claims = claims' := by
    intro token claims'
    rw [validateOidcToken_eq, validateToken, wrapAs_eq_ok, claimsLibs]
    dsimp only
    split <;> simp [*]
  rw [validate_eq_ok]
  constructor
  · rintro ⟨token, claims', h⟩
    obtain ⟨haudience, rfl⟩ := hdecode.mp h.claims_eq
    exact ⟨haudience, h.policy⟩
  · rintro ⟨haudience, hpolicy⟩
    refine ⟨"T", claims, rfl, by decide, hdecode.mpr ⟨haudience, rfl⟩, hpolicy, by decide,
      by decide, ?_, by decide, by decide, rfl, rfl⟩
    exact (verifyInstanceKeyBinding_eq_ok_of_list hnonce).mpr
      ⟨List.mem_cons_self, List.mem_cons_self, fun n hn => by cases hn⟩

/-- What `q` covers is met by whatever `q` accepts. -/
theorem Covers.accepts {p q : AttestationPolicy} (h : Covers q p) {claims : Dict}
    (hq : enforcePolicy (some q) claims = .ok ()) : enforcePolicy (some p) claims = .ok () := by
  obtain ⟨hcontainer, hgce, hall⟩ := satisfies_iff.mp (enforcePolicy_eq_ok.mp hq)
  refine enforcePolicy_eq_ok.mpr (satisfies_iff.mpr ⟨hcontainer, hgce, fun d' hd' => ?_⟩)
  obtain ⟨d, hd, hentails⟩ := h d' hd'
  exact hentails.met (hall d hd)

/-- **Policies compared.**  Where some token is accepted under `q`, whatever a client with `q` trusts
one with `p` does, exactly where they ask for the same audience, and each demand of `p` is entailed
by a single one of `q`. -/
theorem trustsAll_iff {p q : AttestationPolicy} (hq : Acceptable q) :
    TrustsAll p q ↔ audience p = audience q ∧ Covers q p := by
  have hmeetable : ∀ d, Demands q d → d.Meetable := fun d hd => hq.meetable hd
  constructor
  · intro htrusts
    have haccepts : ∀ {split}, Splits split q → audience p = audience q ∧
        enforcePolicy (some p) (leastClaims split q) = .ok () := fun hsplit =>
      (claimsLibs_accepts_iff rfl).mp <| htrusts _ _ _ _ <|
        (claimsLibs_accepts_iff rfl).mpr ⟨rfl, leastClaims_accepted hsplit hmeetable⟩
    refine ⟨?_, fun d' hd' => ?_⟩
    · obtain ⟨split, hsplit, -⟩ := exists_splits hmeetable .secboot
        fun entry _ hentails => by cases hentails
      exact (haccepts hsplit).1
    · by_contra hnone
      obtain ⟨split, hsplit, hkeyId⟩ := exists_splits hmeetable d'
        fun entry hentry hentails => hnone ⟨_, hentry, hentails⟩
      have hmet := (satisfies_iff.mp (enforcePolicy_eq_ok.mp (haccepts hsplit).2)).2.2 d' hd'
      rcases demanded_of_met hsplit hmet with hd | ⟨entry, hentry, heq⟩
      · exact hnone ⟨d', hd, .refl d'⟩
      · exact hkeyId entry hentry heq
  · rintro ⟨haudience, hcovers⟩ libs response tlsEkm nonce hvalid
    obtain ⟨token, claims, h⟩ := validate_eq_ok.mp hvalid
    have hclaims := h.claims_eq
    rw [validateOidcToken_eq, ← haudience, ← validateOidcToken_eq] at hclaims
    exact validate_eq_ok.mpr ⟨token, claims, h.evidence, h.token_ne, hclaims, hcovers.accepts h.policy,
      h.ecdsa_ne, h.pqc_ne, h.bound, h.signature_ne, h.pqcSignature_ne, h.signature, h.pqcSignature⟩

/-! ### Two policies -/

/-- A policy that requires one image signature. -/
def signedBy (entry : String) : AttestationPolicy :=
  { workload := some { imageSignatures := [entry] } }

theorem demands_signedBy {entry : String} {d : Demand} : Demands (signedBy entry) d ↔
    ':' ∈ entry.toList ∧ d = .exact entry ∨ ':' ∉ entry.toList ∧ d = .keyId entry := by
  constructor
  · intro hd
    cases hd with
    | hwModel hne => exact absurd rfl hne
    | @workload w d hw hd =>
        cases hw
        cases d with
        | imageHash hash => exact absurd hd.1.symm hd.2
        | keyId k =>
            rcases hd with ⟨hk, hne⟩ | ⟨hmem, hcolon⟩
            · exact absurd hk.symm hne
            · obtain rfl := List.mem_singleton.mp hmem
              exact .inr ⟨hcolon, rfl⟩
        | exact entry' =>
            obtain rfl := List.mem_singleton.mp hd.1
            exact .inl ⟨hd.2, rfl⟩
        | _ => exact hd.elim
    | gceInstance hg _ => cases hg
    | confidentialSpace hcs _ => cases hcs
  · rintro (⟨hcolon, rfl⟩ | ⟨hcolon, rfl⟩)
    · exact .workload rfl ⟨List.mem_cons_self, hcolon⟩
    · exact .workload rfl (.inr ⟨List.mem_cons_self, hcolon⟩)

/-- To require a key with one algorithm is to require the key. -/
theorem algorithm_trusted :
    TrustsAll (signedBy "3f9a") (signedBy (exactSignature "ECDSA_P256_SHA256" "3f9a")) := by
  have hcolon : ':' ∈ (exactSignature "ECDSA_P256_SHA256" "3f9a").toList := by simp [exactSignature]
  have hacceptable : Acceptable (signedBy (exactSignature "ECDSA_P256_SHA256" "3f9a")) := by
    refine acceptable_of_meetable fun d hd => ?_
    rcases demands_signedBy.mp hd with ⟨-, rfl⟩ | ⟨hnone, -⟩
    · exact ⟨fingerprintSignature, rfl⟩
    · exact absurd hcolon hnone
  refine (trustsAll_iff hacceptable).mpr ⟨rfl, fun d' hd' => ?_⟩
  rcases demands_signedBy.mp hd' with ⟨hmem, -⟩ | ⟨-, rfl⟩
  · exact absurd hmem (by simp)
  · refine ⟨_, demands_signedBy.mpr (.inl ⟨hcolon, rfl⟩), fun s hs => ?_⟩
    exact ((exactSignature_inj (by simp) (by simp)).mp hs).2

end PromptEncryption.Client
