import Mathlib.Data.List.AList
import PromptEncryption.Client.Egress
import PromptEncryption.Support.Python

/-!
# Client — the options of a pool

`AttestedPoolManager` and `AttestedHTTPSConnectionPool` (`client/connection.py`) with the options a
pool is made with, over `urllib3`'s `PoolManager`: `connection_from_host` merges the options of a call
over those of the manager, keeps pools under a key built from the result, and makes a new pool from
it.  `_new_pool` makes the pools of `https` from the manager's options alone.

The options are dictionaries (`Options`).  What `urllib3` does itself with a context is a parameter
(`Urllib3`), with what it documents as hypotheses (`Urllib3.Documented`): it takes `strict` out, builds
the key, and makes a pool whose options are those of the context, or the defaults.

* `honours_iff`: in every state of a manager, the pool handed out for an `https` request is configured
  as `urllib3` would configure it exactly where the call's options change nothing, and the manager has
  none that `urllib3` would not pass on.
* `pinned_unhonoured`: a pinned fingerprint is dropped, and pools with different pins are alike.
* `newPool_connectionCls`: the class of a pool is the one `PoolManager.newPool` says.
-/

namespace PromptEncryption.Client
open Python Runs

/-! ### Options -/

/-- The value of an option: `None`, a string, a number, or another object. -/
inductive OptionValue (V : Type) where
  | none
  | str (s : String)
  | int (n : Int)
  | object (v : V)
  deriving DecidableEq

/-- The value, unless it is `None`. -/
def OptionValue.given {V : Type} : OptionValue V → Option (OptionValue V)
  | .none => Option.none
  | value => some value

/-- A dictionary of options. -/
abbrev Options (V : Type) := AList fun _ : String => OptionValue V

section
variable {V : Type}

/-- `base_pool_kwargs[key] = value`, where `None` deletes the key. -/
def overrideOption (kw : Options V) (key : String) : OptionValue V → Options V
  | .none => kw.erase key
  | value => kw.insert key value

/-- `_merge_pool_kwargs`. -/
def mergePoolKwargs (connectionPoolKw override : Options V) : Options V :=
  override.foldl overrideOption connectionPoolKw

/-- The arguments of a pool that its request gives. -/
def ENDPOINT : List String := ["scheme", "host", "port"]

theorem lookup_overrideOption {kw : Options V} {key : String} {value : OptionValue V} :
    (overrideOption kw key value).lookup key = value.given := by
  cases value with
  | none => exact AList.lookup_erase key kw
  | str s => exact AList.lookup_insert kw
  | int n => exact AList.lookup_insert kw
  | object v => exact AList.lookup_insert kw

theorem lookup_overrideOption_of_ne {kw : Options V} {key name : String} {value : OptionValue V}
    (h : name ≠ key) : (overrideOption kw key value).lookup name = kw.lookup name := by
  cases value with
  | none => exact AList.lookup_erase_ne h
  | str s => exact AList.lookup_insert_ne h
  | int n => exact AList.lookup_insert_ne h
  | object v => exact AList.lookup_insert_ne h

/-- **The merged options**: the call's where it names one, the manager's otherwise. -/
theorem lookup_mergePoolKwargs {kw override : Options V} {name : String} :
    (mergePoolKwargs kw override).lookup name =
      (override.lookup name).elim (kw.lookup name) OptionValue.given := by
  obtain ⟨entries, hnodup⟩ := override
  change (entries.foldl (fun kw entry => overrideOption kw entry.1 entry.2) kw).lookup name =
    (entries.dlookup name).elim (kw.lookup name) OptionValue.given
  induction entries generalizing kw with
  | nil => rfl
  | cons entry entries ih =>
      obtain ⟨key, value⟩ := entry
      obtain ⟨hfresh, hrest⟩ := List.nodupKeys_cons.mp hnodup
      rw [List.foldl_cons, ih hrest]
      by_cases hname : name = key
      · subst hname
        rw [List.dlookup_cons_eq, List.dlookup_eq_none.mpr hfresh]
        exact lookup_overrideOption
      · rw [List.dlookup_cons_ne _ _ hname]
        cases entries.dlookup name with
        | none => exact lookup_overrideOption_of_ne hname
        | some value' => rfl

theorem OptionValue.given_eq_some {value value' : OptionValue V} :
    value.given = some value' ↔ value ≠ .none ∧ value' = value := by
  cases value <;> simp [OptionValue.given, eq_comm]

theorem OptionValue.given_bind_given {value : OptionValue V} :
    value.given.bind OptionValue.given = value.given := by
  cases value <;> rfl

end

/-! ### Pools -/

/-- What connections are attested with: `policy`, `revalidation_timeout`, `ekm_exporter_fn` and
`attestation_validator_cls`. -/
structure AttestationKw (V : Type) where
  policy : Option AttestationPolicy := none
  revalidationTimeout : Int := DEFAULT_REVALIDATION_TIMEOUT
  ekmExporterFn : V
  attestationValidatorCls : V

/-- A pool: where it connects to, the options it is made with, and, for an
`AttestedHTTPSConnectionPool`, what its connections are attested with. -/
structure Pool (V : Type) where
  host : String
  port : Int
  kw : Options V
  attestation : Option (AttestationKw V)

/-- The names `AttestedPoolManager.__init__` and the one it calls take out of their keyword
arguments. -/
def MANAGER_ARGUMENTS : List String :=
  ["policy", "revalidation_timeout", "ekm_exporter_fn", "attestation_validator_cls", "num_pools",
    "headers"]

/-- The arguments `_new_pool` gives an `AttestedHTTPSConnectionPool` by name or position. -/
def POOL_ARGUMENTS : List String :=
  ["host", "port", "policy", "ekm_exporter_fn", "attestation_validator_cls",
    "revalidation_timeout"]

/-- What is taken from `urllib3`. -/
structure Urllib3 (V Key : Type) where
  /-- What `connection_from_context` leaves of a context. -/
  context : Options V → Options V
  /-- The key of a context. -/
  keyOf : Options V → Except Exc Key
  /-- `PoolManager._new_pool`. -/
  newPool : (scheme host : String) → (port : Int) → (requestContext : Options V) →
    Except Exc (Pool V)
  /-- `HTTPSConnectionPool.__init__`, which raises at some options. -/
  init : (kwargs : Options V) → Except Exc Unit
  /-- The value of an option that is not given. -/
  default : (name : String) → Option (OptionValue V)

def DEFAULT_BLOCKSIZE : Int := 16384

namespace Urllib3
variable {V Key : Type} (U : Urllib3 V Key)

/-- The value of an option in a pool made with these. -/
def value (kw : Options V) (name : String) : Option (OptionValue V) :=
  (kw.lookup name).or (U.default name)

/-- The value of an option in a pool made from the context: a `blocksize` of `None` is the default. -/
def contextValue (ctx : Options V) (name : String) : Option (OptionValue V) :=
  if name = "blocksize" then ((ctx.lookup name).bind OptionValue.given).or (U.default name)
  else U.value ctx name

/-- **What is documented of it.** -/
structure Documented : Prop where
  /-- `strict` is taken out of a context, and nothing else. -/
  context ctx name : (U.context ctx).lookup name = if name = "strict" then none else ctx.lookup name
  /-- A pool has no such option. -/
  strict : U.default "strict" = none
  blocksize : U.default "blocksize" = some (.int DEFAULT_BLOCKSIZE)
  /-- Contexts with one key have one scheme. -/
  keyed ctx ctx' key s s' : U.keyOf ctx = .ok key → U.keyOf ctx' = .ok key →
    ctx.lookup "scheme" = some (.str s) → ctx'.lookup "scheme" = some (.str s') → lower s = lower s'
  /-- There are pools for two schemes. -/
  schemes scheme host port ctx pool : U.newPool scheme host port ctx = .ok pool →
    scheme = "https" ∨ scheme = "http"
  plain scheme host port ctx pool : U.newPool scheme host port ctx = .ok pool →
    pool.attestation = none
  /-- A pool for `https` is made from the context. -/
  https host port ctx pool : U.newPool "https" host port ctx = .ok pool → U.init pool.kw = .ok () ∧
    ∀ name ∉ ENDPOINT, U.value pool.kw name = U.contextValue ctx name
  /-- Whether options can be those of a pool lies in their values. -/
  init kw kw' : (∀ name ∉ ENDPOINT, U.value kw name = U.value kw' name) → U.init kw = .ok () →
    U.init kw' = .ok ()

end Urllib3

/-- `AttestedHTTPSConnectionPool(host, port=port, …, **kwargs)`. -/
def AttestedHTTPSConnectionPool {V Key : Type} (U : Urllib3 V Key) (host : String) (port : Int)
    (attestation : AttestationKw V) (kwargs : Options V) : Except Exc (Pool V) := do
  raiseIf (∃ name ∈ POOL_ARGUMENTS, name ∈ kwargs)
    ⟨.typeError, [.text "got multiple values for keyword argument"]⟩
  U.init kwargs
  return ⟨host, port, kwargs, some attestation⟩

abbrev locationValueError : ExcClass := .derived "LocationValueError" .valueError

/-! ### Managers -/

/-- An `AttestedPoolManager`, with its pools, the most recently used first. -/
structure AttestedPoolManager (V Key : Type) where
  attestation : AttestationKw V
  connectionPoolKw : Options V
  numPools : Nat := 10
  pools : List (Key × Pool V) := []
  named : ∀ name ∈ MANAGER_ARGUMENTS, name ∉ connectionPoolKw

/-- A call of `connection_from_host`. -/
structure PoolRequest (V : Type) where
  scheme : String
  host : String
  port : Option Nat := none
  poolKwargs : Options V := ∅

section
variable {V Key : Type}

/-- `scheme or "http"`. -/
def PoolRequest.schemeOr (r : PoolRequest V) : String := if r.scheme = "" then "http" else r.scheme

/-- The port asked for, or that of the scheme. -/
def PoolRequest.portOr (r : PoolRequest V) : Int :=
  match r.port with
  | some (port + 1) => port + 1
  | _ => if lower r.schemeOr = "https".toList then 443 else 80

namespace AttestedPoolManager
variable (m : AttestedPoolManager V Key)

/-- The context `connection_from_host` merges. -/
def requestContext (r : PoolRequest V) : Options V :=
  (((mergePoolKwargs m.connectionPoolKw r.poolKwargs).insert "scheme" (.str r.schemeOr)).insert
    "port" (.int r.portOr)).insert "host" (.str r.host)

/-- `_new_pool`. -/
def newPool (U : Urllib3 V Key) (scheme host : String) (port : Int) (requestContext : Options V) :
    Except Exc (Pool V) :=
  if scheme = "https" then AttestedHTTPSConnectionPool U host port m.attestation m.connectionPoolKw
  else U.newPool scheme host port requestContext

/-- The pool is the most recently used. -/
def keep [DecidableEq Key] (key : Key) (pool : Pool V) : AttestedPoolManager V Key :=
  { m with pools := ((key, pool) :: m.pools.filter (·.1 ≠ key)).take m.numPools }

/-- `connection_from_host`. -/
def connectionFromHost [DecidableEq Key] (U : Urllib3 V Key) (r : PoolRequest V) :
    Except Exc (Pool V) × AttestedPoolManager V Key :=
  if r.host = "" then (.error ⟨locationValueError, [.text "No host specified."]⟩, m)
  else
    match U.keyOf (U.context (m.requestContext r)) with
    | .error e => (.error e, m)
    | .ok key =>
        match m.pools.lookup key with
        | some pool => (.ok pool, m.keep key pool)
        | none =>
            match m.newPool U r.schemeOr r.host r.portOr (U.context (m.requestContext r)) with
            | .error e => (.error e, m)
            | .ok pool => (.ok pool, m.keep key pool)

/-- The life of a manager. -/
def life [DecidableEq Key] (U : Urllib3 V Key) : System (AttestedPoolManager V Key) (PoolRequest V) :=
  .ofFunction { m with pools := [] } fun m r => (m.connectionFromHost U r).2

end AttestedPoolManager

/-- **The pool handed out is configured as the base class would configure it**: every option but the
scheme, the host and the port has the value it has in the pool `urllib3` makes from the merged context,
and the connections are attested with what the manager was made with. -/
def Honours [DecidableEq Key] (U : Urllib3 V Key) (m : AttestedPoolManager V Key)
    (r : PoolRequest V) : Prop :=
  ∃ pool base, (m.connectionFromHost U r).1 = .ok pool ∧
    U.newPool r.schemeOr r.host r.portOr (U.context (m.requestContext r)) = .ok base ∧
    (∀ name ∉ ENDPOINT, U.value pool.kw name = U.value base.kw name) ∧
    pool.attestation = some m.attestation

/-- The call's options change nothing: each is what a pool made with the manager's has, an option that
is `None` being its default. -/
def Unchanging (U : Urllib3 V Key) (kw poolKwargs : Options V) : Prop :=
  ∀ name value, poolKwargs.lookup name = some value → name ∉ ENDPOINT → name ≠ "strict" →
    U.value kw name = value.given.or (U.default name)

/-- The manager's options are ones `urllib3` would pass on. -/
structure PassedOn (kw : Options V) : Prop where
  host : "host" ∉ kw
  port : "port" ∉ kw
  strict : "strict" ∉ kw
  blocksize : kw.lookup "blocksize" ≠ some .none

end

/-! ### Every pool kept -/

section
variable {V Key : Type} {U : Urllib3 V Key} {m : AttestedPoolManager V Key} {r : PoolRequest V}

theorem scheme_context (hU : U.Documented) :
    (U.context (m.requestContext r)).lookup "scheme" = some (.str r.schemeOr) := by
  rw [hU.context, if_neg (by decide), AttestedPoolManager.requestContext,
    AList.lookup_insert_ne (by decide), AList.lookup_insert_ne (by decide), AList.lookup_insert]

/-- What the request does not give is that of the merged options. -/
theorem lookup_requestContext {name : String} (h : name ∉ ENDPOINT) :
    (m.requestContext r).lookup name =
      (mergePoolKwargs m.connectionPoolKw r.poolKwargs).lookup name := by
  simp only [ENDPOINT, List.mem_cons, List.not_mem_nil, or_false, not_or] at h
  obtain ⟨hscheme, hhost, hport⟩ := h
  rw [AttestedPoolManager.requestContext, AList.lookup_insert_ne hhost, AList.lookup_insert_ne hport,
    AList.lookup_insert_ne hscheme]

theorem schemeOr_https (h : r.scheme = "https") : r.schemeOr = "https" := by
  rw [PoolRequest.schemeOr, h, if_neg (by decide)]

/-- No pool made from a context has a `blocksize` of `None`. -/
theorem contextValue_blocksize (hU : U.Documented) {ctx : Options V} :
    U.contextValue ctx "blocksize" ≠ some .none := by
  rw [Urllib3.contextValue, if_pos rfl, hU.blocksize]
  cases hvalue : (ctx.lookup "blocksize").bind OptionValue.given with
  | none => exact fun h => by cases h
  | some value =>
      obtain ⟨_, -, hgiven⟩ := Option.bind_eq_some_iff.mp hvalue
      obtain ⟨hne, rfl⟩ := OptionValue.given_eq_some.mp hgiven
      exact fun h => hne (Option.some.inj h)

theorem contextValue_strict (hU : U.Documented) {ctx : Options V} :
    U.contextValue (U.context ctx) "strict" = none := by
  rw [Urllib3.contextValue, if_neg (by decide), Urllib3.value, hU.context, if_pos rfl, hU.strict]
  rfl

/-- Without a `blocksize` of `None`, options are what they are in a context. -/
theorem contextValue_eq_value {kw : Options V} (h : kw.lookup "blocksize" ≠ some .none)
    {name : String} : U.contextValue kw name = U.value kw name := by
  rw [Urllib3.contextValue]
  split
  · rename_i hname
    subst hname
    rw [Urllib3.value]
    cases hvalue : kw.lookup "blocksize" with
    | none => rfl
    | some value =>
        have hne : value ≠ .none := fun hnone => h (hvalue.trans (congrArg some hnone))
        rw [Option.bind_some, OptionValue.given_eq_some.mpr ⟨hne, rfl⟩]
  · rfl

/-- **What the base class configures a pool with**: the call's option where it names one, the
manager's otherwise. -/
theorem contextValue_requestContext (hU : U.Documented) {name : String} (hname : name ∉ ENDPOINT)
    (hstrict : name ≠ "strict") : U.contextValue (U.context (m.requestContext r)) name =
      (r.poolKwargs.lookup name).elim (U.contextValue m.connectionPoolKw name)
        fun value => value.given.or (U.default name) := by
  simp only [Urllib3.contextValue, Urllib3.value, hU.context, if_neg hstrict,
    lookup_requestContext hname, lookup_mergePoolKwargs]
  cases r.poolKwargs.lookup name with
  | none => rfl
  | some value => simp only [Option.elim, OptionValue.given_bind_given, ite_self]

/-- **Where the values are those of the context.** -/
theorem values_iff (hU : U.Documented) :
    (∀ name ∉ ENDPOINT, U.value m.connectionPoolKw name =
        U.contextValue (U.context (m.requestContext r)) name) ↔
      Unchanging U m.connectionPoolKw r.poolKwargs ∧ "strict" ∉ m.connectionPoolKw ∧
        m.connectionPoolKw.lookup "blocksize" ≠ some .none := by
  constructor
  · intro hvalues
    refine ⟨fun name value hvalue hname hstrict => ?_, ?_, fun hnone => ?_⟩
    · rw [hvalues name hname, contextValue_requestContext hU hname hstrict, hvalue]
      rfl
    · have hstrict := (hvalues "strict" (by decide)).trans (contextValue_strict hU)
      exact AList.lookup_eq_none.mp (Option.or_eq_none_iff.mp hstrict).1
    · have hblocksize : U.value m.connectionPoolKw "blocksize" = some .none := by
        rw [Urllib3.value, hnone]
        rfl
      exact contextValue_blocksize hU ((hvalues "blocksize" (by decide)).symm.trans hblocksize)
  · rintro ⟨hunchanging, hstrict, hblocksize⟩ name hname
    by_cases hname' : name = "strict"
    · subst hname'
      rw [contextValue_strict hU, Urllib3.value, AList.lookup_eq_none.mpr hstrict, hU.strict]
      rfl
    · rw [contextValue_requestContext hU hname hname']
      cases hvalue : r.poolKwargs.lookup name with
      | none => exact (contextValue_eq_value hblocksize).symm
      | some value => exact hunchanging name value hvalue hname hname'

/-- No argument is given twice where the manager names neither a host nor a port. -/
theorem no_conflict_iff :
    (¬ ∃ name ∈ POOL_ARGUMENTS, name ∈ m.connectionPoolKw) ↔
      "host" ∉ m.connectionPoolKw ∧ "port" ∉ m.connectionPoolKw := by
  have hnamed : ∀ {name}, name ∈ MANAGER_ARGUMENTS → name ∉ m.connectionPoolKw := fun h =>
    m.named _ h
  simp only [MANAGER_ARGUMENTS, List.mem_cons, List.not_mem_nil, or_false] at hnamed
  simp only [POOL_ARGUMENTS, List.exists_mem_cons_iff, List.not_mem_nil, false_and, exists_false,
    or_false, not_or]
  exact ⟨fun h => ⟨h.1, h.2.1⟩, fun h => ⟨h.1, h.2, hnamed (by simp), hnamed (by simp),
    hnamed (by simp), hnamed (by simp)⟩⟩

/-- **The pools of `https` that `_new_pool` makes.** -/
theorem newPool_https {host : String} {port : Int} {ctx : Options V} {pool : Pool V} :
    m.newPool U "https" host port ctx = .ok pool ↔
      ("host" ∉ m.connectionPoolKw ∧ "port" ∉ m.connectionPoolKw) ∧
        U.init m.connectionPoolKw = .ok () ∧
          pool = ⟨host, port, m.connectionPoolKw, some m.attestation⟩ := by
  rw [AttestedPoolManager.newPool, if_pos rfl, AttestedHTTPSConnectionPool, bind_eq_ok, exists_unit,
    raiseIf_eq_ok, no_conflict_iff, bind_eq_ok, exists_unit]
  refine and_congr_right fun _ => and_congr_right fun _ => ?_
  constructor
  · intro hpool
    cases hpool
    rfl
  · intro hpool
    rw [hpool]
    rfl

/-- A pool made for a scheme that is `https` up to its case is one for `https`. -/
theorem newPool_scheme (hU : U.Documented) {scheme host : String} {port : Int} {ctx : Options V}
    {pool : Pool V} (h : m.newPool U scheme host port ctx = .ok pool)
    (hscheme : lower scheme = lower "https") : scheme = "https" := by
  by_contra hne
  rw [AttestedPoolManager.newPool, if_neg hne] at h
  rcases hU.schemes _ _ _ _ _ h with rfl | rfl
  · exact hne rfl
  · exact absurd hscheme (by decide)

end

section
variable {V Key : Type} [DecidableEq Key] {U : Urllib3 V Key}
variable {m : AttestedPoolManager V Key} {r : PoolRequest V}

/-- A pool `_new_pool` made at some request kept under the key. -/
def MadeAt (U : Urllib3 V Key) (m : AttestedPoolManager V Key) (key : Key) (pool : Pool V) : Prop :=
  ∃ r, U.keyOf (U.context (m.requestContext r)) = .ok key ∧
    m.newPool U r.schemeOr r.host r.portOr (U.context (m.requestContext r)) = .ok pool

/-- **The invariant of a manager**: it is the one it was made, and every pool kept is one it made. -/
structure Manages (U : Urllib3 V Key) (m₀ m : AttestedPoolManager V Key) : Prop where
  attestation : m.attestation = m₀.attestation
  connectionPoolKw : m.connectionPoolKw = m₀.connectionPoolKw
  made : ∀ key pool, (key, pool) ∈ m.pools → MadeAt U m key pool

theorem Manages.keep {m₀ : AttestedPoolManager V Key} {key : Key} {pool : Pool V}
    (h : Manages U m₀ m) (hmade : MadeAt U m key pool) :
    Manages U m₀ (m.keep key pool) where
  attestation := h.attestation
  connectionPoolKw := h.connectionPoolKw
  made key' pool' hmem := by
    rcases List.mem_cons.mp (List.mem_of_mem_take hmem) with heq | hmem
    · cases heq
      exact hmade
    · exact h.made key' pool' (List.mem_of_mem_filter hmem)

theorem mem_of_lookup {key : Key} {pool : Pool V} {pools : List (Key × Pool V)}
    (h : pools.lookup key = some pool) : (key, pool) ∈ pools := by
  obtain ⟨before, after, hsplit, -⟩ := List.lookup_eq_some_iff.mp h
  rw [hsplit]
  exact List.mem_append_right before List.mem_cons_self

/-- **What a call hands out**: the pool kept, or a new one. -/
theorem connectionFromHost_spec {key : Key} (hhost : r.host ≠ "")
    (hkey : U.keyOf (U.context (m.requestContext r)) = .ok key) :
    (∃ pool, m.pools.lookup key = some pool ∧
      m.connectionFromHost U r = (.ok pool, m.keep key pool)) ∨
    (∃ pool, m.newPool U r.schemeOr r.host r.portOr (U.context (m.requestContext r)) = .ok pool ∧
      m.connectionFromHost U r = (.ok pool, m.keep key pool)) ∨
    m.pools.lookup key = none ∧
      ∃ e, m.newPool U r.schemeOr r.host r.portOr (U.context (m.requestContext r)) = .error e ∧
        m.connectionFromHost U r = (.error e, m) := by
  rw [AttestedPoolManager.connectionFromHost, if_neg hhost, hkey]
  dsimp only
  cases hpool : m.pools.lookup key with
  | some pool => exact .inl ⟨pool, rfl, rfl⟩
  | none =>
      cases hnew : m.newPool U r.schemeOr r.host r.portOr (U.context (m.requestContext r)) with
      | ok pool => exact .inr (.inl ⟨pool, rfl, rfl⟩)
      | error e => exact .inr (.inr ⟨rfl, e, rfl, rfl⟩)

/-- **The step lemma.** -/
theorem Manages.step {m₀ : AttestedPoolManager V Key} (h : Manages U m₀ m) :
    Manages U m₀ (m.connectionFromHost U r).2 := by
  by_cases hhost : r.host = ""
  · rw [AttestedPoolManager.connectionFromHost, if_pos hhost]
    exact h
  cases hkey : U.keyOf (U.context (m.requestContext r)) with
  | error e =>
      rw [AttestedPoolManager.connectionFromHost, if_neg hhost, hkey]
      exact h
  | ok key =>
      rcases connectionFromHost_spec hhost hkey with ⟨pool, hpool, heq⟩ | ⟨pool, hnew, heq⟩ |
        ⟨-, e, -, heq⟩
      · rw [heq]
        exact h.keep (h.made key pool (mem_of_lookup hpool))
      · rw [heq]
        exact h.keep ⟨r, hkey, hnew⟩
      · rw [heq]
        exact h

theorem manages_of_run {m₀ : AttestedPoolManager V Key} {rs : List (PoolRequest V)}
    (h : Run (m₀.life U) rs m) : Manages U m₀ m := by
  refine h.invariant_state ?_ ?_
  · intro m hm
    obtain rfl : m = { m₀ with pools := [] } := hm
    exact ⟨rfl, rfl, fun _ _ hmem => absurd hmem List.not_mem_nil⟩
  · intro m r m' hm hst
    obtain rfl : m' = (m.connectionFromHost U r).2 := hst
    exact hm.step

/-! ### What is handed out for `https` -/

/-- A pool handed out for an `https` request has the manager's options. -/
theorem handed_out (hU : U.Documented) {m₀ : AttestedPoolManager V Key} {key : Key} {pool : Pool V}
    (h : Manages U m₀ m) (hhttps : r.scheme = "https") (hhost : r.host ≠ "")
    (hkey : U.keyOf (U.context (m.requestContext r)) = .ok key)
    (hpool : (m.connectionFromHost U r).1 = .ok pool) :
    ("host" ∉ m.connectionPoolKw ∧ "port" ∉ m.connectionPoolKw) ∧
      pool.kw = m.connectionPoolKw ∧ pool.attestation = some m.attestation := by
  rcases connectionFromHost_spec hhost hkey with ⟨pool', hkept, heq⟩ | ⟨pool', hnew, heq⟩ |
    ⟨-, e, -, heq⟩
  · rw [heq] at hpool
    obtain rfl : pool' = pool := Except.ok.inj hpool
    -- the pool kept under the key was made for `https` too
    obtain ⟨r', hkey', hmade⟩ := h.made key pool' (mem_of_lookup hkept)
    have hlower : lower r'.schemeOr = lower r.schemeOr :=
      hU.keyed _ _ key _ _ hkey' hkey (scheme_context hU) (scheme_context hU)
    rw [schemeOr_https hhttps] at hlower
    rw [newPool_scheme hU hmade hlower] at hmade
    obtain ⟨hconflict, -, rfl⟩ := newPool_https.mp hmade
    exact ⟨hconflict, rfl, rfl⟩
  · rw [heq] at hpool
    obtain rfl : pool' = pool := Except.ok.inj hpool
    rw [schemeOr_https hhttps] at hnew
    obtain ⟨hconflict, -, rfl⟩ := newPool_https.mp hnew
    exact ⟨hconflict, rfl, rfl⟩
  · rw [heq] at hpool
    cases hpool

theorem handed_out_of_no_conflict {key : Key} (hhttps : r.scheme = "https") (hhost : r.host ≠ "")
    (hkey : U.keyOf (U.context (m.requestContext r)) = .ok key)
    (hconflict : "host" ∉ m.connectionPoolKw ∧ "port" ∉ m.connectionPoolKw)
    (hinit : U.init m.connectionPoolKw = .ok ()) :
    ∃ pool, (m.connectionFromHost U r).1 = .ok pool := by
  rcases connectionFromHost_spec hhost hkey with ⟨pool, -, heq⟩ | ⟨pool, -, heq⟩ |
    ⟨-, e, hnew, -⟩
  · exact ⟨pool, congrArg Prod.fst heq⟩
  · exact ⟨pool, congrArg Prod.fst heq⟩
  · rw [schemeOr_https hhttps, newPool_https.mpr ⟨hconflict, hinit, rfl⟩] at hnew
    cases hnew

theorem Honours.unchanging (hU : U.Documented) {m₀ : AttestedPoolManager V Key} {key : Key}
    (hhonours : Honours U m r) (h : Manages U m₀ m) (hhttps : r.scheme = "https")
    (hhost : r.host ≠ "") (hkey : U.keyOf (U.context (m.requestContext r)) = .ok key) :
    Unchanging U m.connectionPoolKw r.poolKwargs ∧ PassedOn m.connectionPoolKw := by
  obtain ⟨pool, base, hpool, hbase, hvalues, -⟩ := hhonours
  obtain ⟨⟨hnohost, hnoport⟩, hkw, -⟩ := handed_out hU h hhttps hhost hkey hpool
  rw [schemeOr_https hhttps] at hbase
  have hmerged := (hU.https _ _ _ _ hbase).2
  obtain ⟨hunchanging, hstrict, hblocksize⟩ := (values_iff hU).mp fun name hname =>
    (congrArg (U.value · name) hkw.symm).trans ((hvalues name hname).trans (hmerged name hname))
  exact ⟨hunchanging, hnohost, hnoport, hstrict, hblocksize⟩

/-- **When the options of a call are honoured.** -/
theorem honours_iff (hU : U.Documented) {m₀ : AttestedPoolManager V Key} {rs : List (PoolRequest V)}
    (h : Run (m₀.life U) rs m) {key : Key} {base : Pool V} (hhttps : r.scheme = "https")
    (hhost : r.host ≠ "") (hkey : U.keyOf (U.context (m.requestContext r)) = .ok key)
    (hbase : U.newPool r.schemeOr r.host r.portOr (U.context (m.requestContext r)) = .ok base) :
    Honours U m r ↔ Unchanging U m.connectionPoolKw r.poolKwargs ∧ PassedOn m.connectionPoolKw := by
  have hm : Manages U m₀ m := manages_of_run h
  constructor
  · exact fun hhonours => hhonours.unchanging hU hm hhttps hhost hkey
  · rintro ⟨hunchanging, hpassed⟩
    have hvalues := (values_iff hU).mpr ⟨hunchanging, hpassed.strict, hpassed.blocksize⟩
    have hmade := hbase
    rw [schemeOr_https hhttps] at hmade
    obtain ⟨hbaseInit, hmerged⟩ := hU.https _ _ _ _ hmade
    -- what the base class can make a pool of, `AttestedHTTPSConnectionPool` can
    have hinit : U.init m.connectionPoolKw = .ok () :=
      hU.init _ _ (fun name hname => (hmerged name hname).trans (hvalues name hname).symm) hbaseInit
    obtain ⟨pool, hpool⟩ :=
      handed_out_of_no_conflict hhttps hhost hkey ⟨hpassed.host, hpassed.port⟩ hinit
    obtain ⟨-, hkw, hattestation⟩ := handed_out hU hm hhttps hhost hkey hpool
    refine ⟨pool, base, hpool, hbase, fun name hname => ?_, hattestation⟩
    rw [hkw, hvalues name hname, hmerged name hname]

end

/-! ### A library -/

/-- The options a plain pool is not made with. -/
def SSL_KEYWORDS : List String :=
  ["key_file", "cert_file", "cert_reqs", "ca_certs", "ca_cert_data", "ssl_version",
    "ssl_minimum_version", "ssl_maximum_version", "ca_cert_dir", "ssl_context", "key_password",
    "server_hostname"]

/-- The fields of a `PoolKey`. -/
def POOL_KEY_FIELDS : List String :=
  ["scheme", "host", "port", "timeout", "retries", "block", "source_address", "key_file",
    "key_password", "cert_file", "cert_reqs", "ca_certs", "ca_cert_data", "ssl_version",
    "ssl_minimum_version", "ssl_maximum_version", "ca_cert_dir", "ssl_context", "maxsize",
    "headers", "_proxy", "_proxy_headers", "_proxy_config", "socket_options", "_socks_options",
    "assert_hostname", "assert_fingerprint", "server_hostname", "blocksize"]

section
variable {V : Type}

/-- `for key in keys: request_context.pop(key, None)`. -/
def popAll (keys : List String) (kw : Options V) : Options V :=
  keys.foldl (fun kw key => kw.erase key) kw

/-- `if request_context.get("blocksize") is None: request_context["blocksize"] = _DEFAULT_BLOCKSIZE`. -/
def withBlocksize (ctx : Options V) : Options V :=
  match (ctx.lookup "blocksize").bind OptionValue.given with
  | none => ctx.insert "blocksize" (.int DEFAULT_BLOCKSIZE)
  | some _ => ctx

/-- A key with one field for each option, for contexts in lower case. -/
def poolKey (ctx : Options V) : Except Exc (List (Option (OptionValue V))) := do
  raiseIf (∃ name ∈ ctx.keys, name ∉ POOL_KEY_FIELDS)
    ⟨.typeError, [.text "got an unexpected keyword argument"]⟩
  return POOL_KEY_FIELDS.map (withBlocksize ctx).lookup

abbrev keyError : ExcClass := .derived "KeyError" (.derived "LookupError" .exception)

/-- Pools whose options are all of types they can have. -/
def sampleUrllib3 : Urllib3 V (List (Option (OptionValue V))) where
  context ctx := ctx.erase "strict"
  keyOf := poolKey
  newPool scheme host port requestContext :=
    let kwargs := popAll ENDPOINT (withBlocksize requestContext)
    if scheme = "https" then .ok ⟨host, port, kwargs, none⟩
    else if scheme = "http" then .ok ⟨host, port, popAll SSL_KEYWORDS kwargs, none⟩
    else .error ⟨keyError, [.str (.str scheme)]⟩
  init _ := .ok ()
  default name :=
    if name = "blocksize" then some (.int DEFAULT_BLOCKSIZE)
    else if name = "maxsize" then some (.int 1)
    else if name ∈ POOL_KEY_FIELDS then some .none
    else none

theorem lookup_popAll {keys : List String} {kw : Options V} {name : String} (h : name ∉ keys) :
    (popAll keys kw).lookup name = kw.lookup name := by
  induction keys generalizing kw with
  | nil => rfl
  | cons key keys ih =>
      rw [List.mem_cons, not_or] at h
      obtain ⟨hne, hrest⟩ := h
      exact (ih hrest).trans (AList.lookup_erase_ne hne)

theorem lookup_withBlocksize_of_ne {ctx : Options V} {name : String} (h : name ≠ "blocksize") :
    (withBlocksize ctx).lookup name = ctx.lookup name := by
  rw [withBlocksize]
  split
  · exact AList.lookup_insert_ne h
  · rfl

/-- The pools of `https` are made from the context. -/
theorem value_withBlocksize {ctx : Options V} {name : String} :
    sampleUrllib3.value (withBlocksize ctx) name = sampleUrllib3.contextValue ctx name := by
  rw [Urllib3.contextValue]
  split
  · rename_i hname
    subst hname
    rw [Urllib3.value, withBlocksize]
    split
    · rename_i hnone
      rw [hnone, AList.lookup_insert]
      rfl
    · rename_i value hvalue
      obtain ⟨value', hlookup, hgiven⟩ := Option.bind_eq_some_iff.mp hvalue
      obtain ⟨-, rfl⟩ := OptionValue.given_eq_some.mp hgiven
      rw [hvalue, hlookup]
  · rename_i hname
    rw [Urllib3.value, lookup_withBlocksize_of_ne hname]
    rfl

theorem poolKey_scheme {ctx : Options V} {key : List (Option (OptionValue V))}
    (h : poolKey ctx = .ok key) : key.head? = some (ctx.lookup "scheme") := by
  obtain ⟨_, -, hret⟩ := bind_eq_ok.mp h
  cases hret
  exact congrArg some (lookup_withBlocksize_of_ne (by decide))

theorem sampleUrllib3_documented : (sampleUrllib3 (V := V)).Documented where
  context ctx name := by
    split
    · rename_i hname
      rw [hname]
      exact AList.lookup_erase "strict" ctx
    · rename_i hname
      exact AList.lookup_erase_ne hname
  strict := rfl
  blocksize := rfl
  keyed ctx ctx' key s s' hkey hkey' hs hs' := by
    have hscheme := (poolKey_scheme hkey).symm.trans (poolKey_scheme hkey')
    rw [hs, hs'] at hscheme
    cases hscheme
    rfl
  schemes scheme host port ctx pool h := by
    simp only [sampleUrllib3] at h
    split at h
    · exact .inl ‹_›
    split at h
    · exact .inr ‹_›
    · cases h
  plain scheme host port ctx pool h := by
    simp only [sampleUrllib3] at h
    split at h
    · cases h
      rfl
    split at h
    · cases h
      rfl
    · cases h
  https host port ctx pool h := by
    cases h
    refine ⟨rfl, fun name hname => ?_⟩
    rw [Urllib3.value, lookup_popAll hname]
    exact value_withBlocksize
  init _ _ _ _ := rfl

end

/-! ### Two requests -/

/-- A manager with no options of its own. -/
def samplePools : AttestedPoolManager Unit (List (Option (OptionValue Unit))) where
  attestation := { ekmExporterFn := (), attestationValidatorCls := () }
  connectionPoolKw := ∅
  named _ _ := AList.notMem_empty _

/-- A request with one option. -/
def requestWith (name : String) (value : OptionValue Unit) : PoolRequest Unit where
  scheme := "https"
  host := "server"
  poolKwargs := AList.singleton name value

/-- The manager after a request for a `blocksize` of `None`. -/
def samplePooled : AttestedPoolManager Unit (List (Option (OptionValue Unit))) :=
  (samplePools.connectionFromHost sampleUrllib3 (requestWith "blocksize" .none)).2

theorem samplePools_run : Run (samplePools.life sampleUrllib3) [] samplePools := .init rfl

theorem samplePooled_run :
    Run (samplePools.life sampleUrllib3) [requestWith "blocksize" .none] samplePooled :=
  .step samplePools_run rfl

/-- A request for the default is honoured. -/
theorem default_honoured :
    Honours sampleUrllib3 samplePooled (requestWith "blocksize" (.int DEFAULT_BLOCKSIZE)) := by
  refine (honours_iff sampleUrllib3_documented samplePooled_run rfl (by decide) rfl rfl).mpr
    ⟨fun name value hvalue _ _ => ?_, AList.notMem_empty _, AList.notMem_empty _,
      AList.notMem_empty _, fun hnone => by cases hnone⟩
  by_cases hname : name = "blocksize"
  · subst hname
    obtain rfl : .int DEFAULT_BLOCKSIZE = value := Option.some.inj hvalue
    rfl
  · have hnone : (requestWith "blocksize" (.int DEFAULT_BLOCKSIZE)).poolKwargs.lookup name = none :=
      (AList.lookup_insert_ne hname).trans (AList.lookup_empty name)
    cases hnone.symm.trans hvalue

/-- A pinned fingerprint is dropped, and pools with different pins are alike. -/
theorem pinned_unhonoured :
    Run (samplePools.life sampleUrllib3) [] samplePools ∧
      ¬ Honours sampleUrllib3 samplePools (requestWith "assert_fingerprint" (.str "AA")) ∧
      ∃ pool pool', (samplePools.connectionFromHost sampleUrllib3
          (requestWith "assert_fingerprint" (.str "AA"))).1 = .ok pool ∧
        ((samplePools.connectionFromHost sampleUrllib3
          (requestWith "assert_fingerprint" (.str "AA"))).2.connectionFromHost sampleUrllib3
            (requestWith "assert_fingerprint" (.str "BB"))).1 = .ok pool' ∧
        pool.kw = ∅ ∧ pool'.kw = ∅ := by
  refine ⟨samplePools_run, fun hhonours => ?_, _, _, rfl, rfl, rfl, rfl⟩
  have hm : Manages sampleUrllib3 samplePools samplePools := manages_of_run samplePools_run
  obtain ⟨hunchanging, -⟩ :=
    hhonours.unchanging sampleUrllib3_documented hm rfl (by decide) rfl
  have hnone := hunchanging "assert_fingerprint" (.str "AA") rfl (by decide) (by decide)
  cases hnone

/-! ### Classes of pools -/

/-- The class of a pool's connections, if they are plain or have a policy. -/
def Pool.connectionCls {V : Type} (pool : Pool V) : Option ConnectionCls :=
  pool.attestation.elim (some .plain) fun attestation =>
    attestation.policy.map fun policy => .attested policy attestation.revalidationTimeout

/-- **The class of a pool is the one `PoolManager.newPool` says.** -/
theorem newPool_connectionCls {V Key : Type} {U : Urllib3 V Key} (hU : U.Documented)
    {m : AttestedPoolManager V Key} {policy : AttestationPolicy}
    (hpolicy : m.attestation.policy = some policy) {scheme host : String} {port : Int}
    {ctx : Options V} {pool : Pool V} (h : m.newPool U scheme host port ctx = .ok pool) :
    pool.connectionCls = some (PoolManager.newPool
      { attested := some (policy, m.attestation.revalidationTimeout) } scheme) := by
  by_cases hscheme : scheme = "https"
  · rw [hscheme] at h
    obtain ⟨-, -, rfl⟩ := newPool_https.mp h
    have hcls : PoolManager.newPool
        { attested := some (policy, m.attestation.revalidationTimeout) } scheme =
          .attested policy m.attestation.revalidationTimeout := if_pos hscheme
    rw [hcls, Pool.connectionCls, Option.elim, hpolicy]
    rfl
  · rw [AttestedPoolManager.newPool, if_neg hscheme] at h
    have hcls : PoolManager.newPool
        { attested := some (policy, m.attestation.revalidationTimeout) } scheme = .plain :=
      if_neg hscheme
    rw [hcls, Pool.connectionCls, hU.plain _ _ _ _ _ h]
    rfl

end PromptEncryption.Client
