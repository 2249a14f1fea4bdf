import Mathlib.Data.List.MinMax
import PromptEncryption.Client.Common
import PromptEncryption.Support.Runs

/-!
# Client — where a session sends its requests

`PromptEncryptionClient.session`, `AttestedHTTPSAdapter` (`client/client.py`) and
`AttestedPoolManager._new_pool` (`client/connection.py`), with what they take from `requests` and
`urllib3`: an adapter is chosen by URL prefix, a pool by its key from the manager of the adapter or of
the proxy, and every redirect is dispatched again.

* `egress_attested_iff`: in every state of a session, all a request and its redirects transmit goes
  over attested connections exactly where every URL dispatched is `https://` and has no proxy selected.
* `proxied_unattested`: an `https://` request with a proxy selected goes over a plain connection.
-/

namespace PromptEncryption.Client
open Runs

/-! ### URLs -/

/-- `url.lower()`, as far as ASCII. -/
def lower (url : String) : List Char := url.toList.map Char.toLower

/-- `url.lower().startswith(prefix)`, for a prefix in lower case. -/
def startsWith (url pre : String) : Bool := pre.toList.isPrefixOf (lower url)

/-- The scheme of a URL, in lower case. -/
def urlScheme (url : String) : String := String.ofList ((lower url).takeWhile (· ≠ ':'))

/-- A URL to be dispatched, with the proxy selected for it, if any. -/
structure Hop where
  url : String
  proxy : Option String := none
  deriving DecidableEq, Repr

def Hop.https (hop : Hop) : Bool := startsWith hop.url "https://"

def Hop.http (hop : Hop) : Bool := startsWith hop.url "http://"

/-! ### Connections and pools -/

/-- The class of a pool's connections: `AttestedHTTPSConnection`, with the policy and the timeout it
is given, or one of `urllib3`'s own. -/
inductive ConnectionCls where
  | attested (policy : AttestationPolicy) (revalidationTimeout : Int)
  | plain
  deriving DecidableEq

/-- What a pool is kept under: the scheme, and the rest of the URL's origin. -/
structure PoolKey where
  scheme : String
  origin : String
  deriving DecidableEq

/-- The key of a URL's pool. -/
def Hop.poolKey (hop : Hop) : PoolKey :=
  ⟨urlScheme hop.url, String.ofList (((lower hop.url).drop (urlScheme hop.url).length).drop 3
    |>.takeWhile (· ≠ '/'))⟩

/-- A pool manager: an `AttestedPoolManager` with its policy and timeout, or one of `urllib3`'s own.
The pools are listed with the most recently used first. -/
structure PoolManager where
  attested : Option (AttestationPolicy × Int) := none
  numPools : Nat := 10
  pools : List (PoolKey × ConnectionCls) := []

/-- `_new_pool`. -/
def PoolManager.newPool (m : PoolManager) (scheme : String) : ConnectionCls :=
  match m.attested with
  | some (policy, revalidationTimeout) =>
      if scheme = "https" then .attested policy revalidationTimeout else .plain
  | none => .plain

/-- `connection_from_host`: the pool kept under the key, or a new one. -/
def PoolManager.connectionFromHost (m : PoolManager) (key : PoolKey) :
    ConnectionCls × PoolManager :=
  let pool := (m.pools.lookup key).getD (m.newPool key.scheme)
  (pool, { m with pools := ((key, pool) :: m.pools.filter (·.1 ≠ key)).take m.numPools })

/-! ### Adapters -/

/-- An adapter: its pool manager, and the managers it keeps for proxies. -/
structure HTTPAdapter where
  poolmanager : PoolManager := {}
  proxyManager : List (String × PoolManager) := []

/-- `AttestedHTTPSAdapter(policy=…, revalidation_timeout=…)`. -/
def AttestedHTTPSAdapter (policy : AttestationPolicy) (revalidationTimeout : Option Int) :
    HTTPAdapter where
  poolmanager :=
    { attested := some (policy, revalidationTimeout.getD DEFAULT_REVALIDATION_TIMEOUT) }

/-- `proxy_manager_for`: the manager kept for the proxy, or a plain one. -/
def HTTPAdapter.proxyManagerFor (a : HTTPAdapter) (proxy : String) : PoolManager :=
  (a.proxyManager.lookup proxy).getD {}

/-- The connection `send` takes. -/
def HTTPAdapter.getConnection (a : HTTPAdapter) (hop : Hop) : ConnectionCls × HTTPAdapter :=
  match hop.proxy with
  | some proxy =>
      let (connection, m) := (a.proxyManagerFor proxy).connectionFromHost hop.poolKey
      (connection, { a with proxyManager :=
        (proxy, m) :: a.proxyManager.filter (·.1 ≠ proxy) })
  | none =>
      let (connection, m) := a.poolmanager.connectionFromHost hop.poolKey
      (connection, { a with poolmanager := m })

/-! ### Sessions -/

/-- The adapters of a `requests.Session`, each under the prefix it is mounted at. -/
abbrev Session := List (String × HTTPAdapter)

/-- `mount`. -/
def Session.mount (s : Session) (pre : String) (a : HTTPAdapter) : Session :=
  (pre, a) :: s.filter (·.1 ≠ pre)

/-- `requests.Session()`. -/
def Session.new : Session := (Session.mount [] "https://" {}).mount "http://" {}

/-- `get_adapter`: the adapter mounted at the longest prefix of the URL. -/
def Session.getAdapter (s : Session) (url : String) : Option (String × HTTPAdapter) :=
  (s.filter fun mounted => startsWith url mounted.1).argmax fun mounted => mounted.1.length

/-- A request, and the redirects it is answered with: what is transmitted, up to a URL no adapter is
mounted for, where `InvalidSchema` is raised. -/
def Session.request (s : Session) : List Hop → List (Hop × ConnectionCls) × Session
  | [] => ([], s)
  | hop :: redirects =>
      match s.getAdapter hop.url with
      | none => ([], s)
      | some (pre, a) =>
          let (connection, a') := a.getConnection hop
          let (transmitted, s') := (s.mount pre a').request redirects
          ((hop, connection) :: transmitted, s')

structure PromptEncryptionClient where
  policy : AttestationPolicy
  revalidationTimeout : Option Int := none

/-- `session`. -/
def PromptEncryptionClient.session (c : PromptEncryptionClient) : Session :=
  Session.new.mount "https://" (AttestedHTTPSAdapter c.policy c.revalidationTimeout)

/-- The life of a session: the requests sent through it, each with its redirects. -/
def PromptEncryptionClient.sessions (c : PromptEncryptionClient) : System Session (List Hop) :=
  .ofFunction c.session fun s hops => (s.request hops).2

/-- The connections a client attests. -/
def PromptEncryptionClient.attestedConnection (c : PromptEncryptionClient) : ConnectionCls :=
  .attested c.policy (c.revalidationTimeout.getD DEFAULT_REVALIDATION_TIMEOUT)

/-! ### Managers -/

/-- Every pool kept is one the manager would make. -/
def PoolManager.Genuine (m : PoolManager) : Prop :=
  ∀ key connection, (key, connection) ∈ m.pools → connection = m.newPool key.scheme

theorem PoolManager.connectionFromHost_eq {m : PoolManager} (h : m.Genuine) (key : PoolKey) :
    (m.connectionFromHost key).1 = m.newPool key.scheme := by
  simp only [connectionFromHost]
  cases hpool : m.pools.lookup key with
  | none => rfl
  | some pool =>
      obtain ⟨before, after, hsplit, -⟩ := List.lookup_eq_some_iff.mp hpool
      exact h key pool (by rw [hsplit]; exact List.mem_append_right before List.mem_cons_self)

/-- Keeping a pool leaves a manager genuine. -/
theorem PoolManager.connectionFromHost_genuine {m : PoolManager} (h : m.Genuine) (key : PoolKey) :
    (m.connectionFromHost key).2.Genuine := by
  intro key' connection hmem
  have hmem' : (key', connection) ∈ (key, (m.connectionFromHost key).1) ::
      m.pools.filter (·.1 ≠ key) := List.mem_of_mem_take hmem
  rcases List.mem_cons.mp hmem' with heq | hmem'
  · cases heq
    exact PoolManager.connectionFromHost_eq h key
  · exact h key' connection (List.mem_of_mem_filter hmem')

/-- A proxy's manager is `urllib3`'s own. -/
structure PlainManager (m : PoolManager) : Prop where
  attested : m.attested = none
  genuine : m.Genuine

theorem PlainManager.connectionFromHost {m : PoolManager} (h : PlainManager m) (key : PoolKey) :
    (m.connectionFromHost key).1 = .plain ∧ PlainManager (m.connectionFromHost key).2 := by
  refine ⟨?_, h.attested, PoolManager.connectionFromHost_genuine h.genuine key⟩
  rw [PoolManager.connectionFromHost_eq h.genuine, PoolManager.newPool, h.attested]

/-! ### Adapters -/

/-- What is kept of an adapter: its manager is as it was made, and its proxies' managers are plain. -/
structure HTTPAdapter.Made (a : HTTPAdapter) (attested : Option (AttestationPolicy × Int)) :
    Prop where
  attested_eq : a.poolmanager.attested = attested
  genuine : a.poolmanager.Genuine
  proxies : ∀ proxy m, (proxy, m) ∈ a.proxyManager → PlainManager m

theorem HTTPAdapter.made (attested : Option (AttestationPolicy × Int)) :
    HTTPAdapter.Made { poolmanager := { attested := attested } } attested :=
  ⟨rfl, fun _ _ h => (by cases h), fun _ _ h => (by cases h)⟩

theorem HTTPAdapter.Made.proxyManagerFor {a : HTTPAdapter}
    {attested : Option (AttestationPolicy × Int)} (h : a.Made attested) (proxy : String) :
    PlainManager (a.proxyManagerFor proxy) := by
  rw [HTTPAdapter.proxyManagerFor]
  cases hm : a.proxyManager.lookup proxy with
  | none => exact ⟨rfl, fun _ _ h => by cases h⟩
  | some m =>
      obtain ⟨before, after, hsplit, -⟩ := List.lookup_eq_some_iff.mp hm
      exact h.proxies proxy m (by rw [hsplit]; exact List.mem_append_right before List.mem_cons_self)

/-- An adapter takes a connection of its own manager, or a plain one where a proxy is selected. -/
theorem HTTPAdapter.Made.getConnection {a : HTTPAdapter}
    {attested : Option (AttestationPolicy × Int)} (h : a.Made attested) (hop : Hop) :
    (a.getConnection hop).1 =
        (if hop.proxy = none then a.poolmanager.newPool hop.poolKey.scheme else .plain) ∧
      (a.getConnection hop).2.Made attested := by
  rw [HTTPAdapter.getConnection]
  cases hop.proxy with
  | none =>
      exact ⟨PoolManager.connectionFromHost_eq h.genuine _, h.attested_eq,
        PoolManager.connectionFromHost_genuine h.genuine _, h.proxies⟩
  | some proxy =>
      -- the proxy's manager, kept or new, makes plain pools
      obtain ⟨hplain, hkept⟩ := (h.proxyManagerFor proxy).connectionFromHost hop.poolKey
      refine ⟨hplain, h.attested_eq, h.genuine, ?_⟩
      intro proxy' m hmem
      rcases List.mem_cons.mp hmem with heq | hmem
      · cases heq
        exact hkept
      · exact h.proxies proxy' m (List.mem_of_mem_filter hmem)

/-! ### Dispatch -/

theorem Hop.https_iff {hop : Hop} : hop.https = true ↔ "https://".toList <+: lower hop.url :=
  List.isPrefixOf_iff_prefix

theorem Hop.http_iff {hop : Hop} : hop.http = true ↔ "http://".toList <+: lower hop.url :=
  List.isPrefixOf_iff_prefix

/-- No URL has both prefixes. -/
theorem Hop.not_http {hop : Hop} (h : hop.https = true) : hop.http = false := by
  refine Bool.eq_false_iff.mpr ?_
  intro h'
  have hprefix : "http://".toList <+: "https://".toList :=
    List.prefix_of_prefix_length_le (Hop.http_iff.mp h') (Hop.https_iff.mp h) (by decide)
  exact absurd hprefix (by decide)

theorem Hop.scheme_of_https {hop : Hop} (h : hop.https = true) : hop.poolKey.scheme = "https" := by
  obtain ⟨rest, hrest⟩ := Hop.https_iff.mp h
  have htake : ("https://".toList ++ rest).takeWhile (· ≠ ':') = "https".toList := rfl
  change String.ofList ((lower hop.url).takeWhile (· ≠ ':')) = "https"
  rw [← hrest, htake]
  rfl

/-- **The invariant of a session.**  The attested adapter is mounted for `https://`, a plain one for
`http://`, and nothing else. -/
structure Dispatches (c : PromptEncryptionClient) (s : Session) (a b : HTTPAdapter) : Prop where
  mounted : s = [("https://", a), ("http://", b)] ∨ s = [("http://", b), ("https://", a)]
  attested :
    a.Made (some (c.policy, c.revalidationTimeout.getD DEFAULT_REVALIDATION_TIMEOUT))
  plain : b.Made none

section
variable {c : PromptEncryptionClient} {s : Session} {a b a' : HTTPAdapter} {hop : Hop}

theorem Dispatches.getAdapter (h : Dispatches c s a b) :
    s.getAdapter hop.url =
      if hop.https then some ("https://", a) else if hop.http then some ("http://", b) else none := by
  have hhttps : startsWith hop.url "https://" = hop.https := rfl
  have hhttp : startsWith hop.url "http://" = hop.http := rfl
  rcases h.mounted with rfl | rfl
  · cases h₁ : hop.https with
    | true => simp [Session.getAdapter, hhttps, hhttp, h₁, Hop.not_http h₁]
    | false => cases h₂ : hop.http <;> simp [Session.getAdapter, hhttps, hhttp, h₁, h₂]
  · cases h₁ : hop.https with
    | true => simp [Session.getAdapter, hhttps, hhttp, h₁, Hop.not_http h₁]
    | false => cases h₂ : hop.http <;> simp [Session.getAdapter, hhttps, hhttp, h₁, h₂]

theorem Dispatches.mount_https (h : Dispatches c s a b)
    (ha : a'.Made (some (c.policy, c.revalidationTimeout.getD DEFAULT_REVALIDATION_TIMEOUT))) :
    Dispatches c (s.mount "https://" a') a' b := by
  refine ⟨.inl ?_, ha, h.plain⟩
  rcases h.mounted with rfl | rfl <;> rfl

theorem Dispatches.mount_http (h : Dispatches c s a b) (hb : a'.Made none) :
    Dispatches c (s.mount "http://" a') a a' := by
  refine ⟨.inr ?_, h.attested, hb⟩
  rcases h.mounted with rfl | rfl <;> rfl

theorem session_dispatches (c : PromptEncryptionClient) :
    Dispatches c c.session (AttestedHTTPSAdapter c.policy c.revalidationTimeout) {} :=
  ⟨.inl rfl, HTTPAdapter.made _, HTTPAdapter.made none⟩

/-- The connection a URL is sent over. -/
def PromptEncryptionClient.connectionFor (c : PromptEncryptionClient) (hop : Hop) : ConnectionCls :=
  if hop.https = true ∧ hop.proxy = none then c.attestedConnection else .plain

/-- The URLs of a request that are dispatched: those before one no adapter is mounted for. -/
def dispatched (hops : List Hop) : List Hop := hops.takeWhile fun hop => hop.https || hop.http

/-- **What a request transmits.** -/
theorem Dispatches.request (h : Dispatches c s a b) (hops : List Hop) :
    (s.request hops).1 = (dispatched hops).map (fun hop => (hop, c.connectionFor hop)) ∧
      ∃ a' b', Dispatches c (s.request hops).2 a' b' := by
  induction hops generalizing s a b with
  | nil => exact ⟨rfl, a, b, h⟩
  | cons hop redirects ih =>
      rw [Session.request, h.getAdapter, dispatched]
      cases hhttps : hop.https with
      | true =>
          -- the longest prefix is `https://`: the attested adapter sends
          obtain ⟨hconnection, hmade⟩ := h.attested.getConnection hop
          obtain ⟨htransmitted, hkept⟩ := ih (h.mount_https hmade)
          have hfor : (a.getConnection hop).1 = c.connectionFor hop := by
            rw [hconnection, Hop.scheme_of_https hhttps, PoolManager.newPool, h.attested.attested_eq,
              PromptEncryptionClient.connectionFor, hhttps]
            simp [PromptEncryptionClient.attestedConnection]
          rw [List.takeWhile_cons, hhttps]
          exact ⟨congrArg₂ List.cons (Prod.ext rfl hfor) htransmitted, hkept⟩
      | false =>
          cases hhttp : hop.http with
          | true =>
              -- the adapter `Session()` has mounted sends
              obtain ⟨hconnection, hmade⟩ := h.plain.getConnection hop
              obtain ⟨htransmitted, hkept⟩ := ih (h.mount_http hmade)
              have hfor : (b.getConnection hop).1 = c.connectionFor hop := by
                rw [hconnection, PoolManager.newPool, h.plain.attested_eq,
                  PromptEncryptionClient.connectionFor, hhttps]
                simp
              rw [List.takeWhile_cons, hhttps, hhttp]
              exact ⟨congrArg₂ List.cons (Prod.ext rfl hfor) htransmitted, hkept⟩
          | false =>
              -- `InvalidSchema`: nothing more is sent
              rw [List.takeWhile_cons, hhttps, hhttp]
              exact ⟨rfl, a, b, h⟩

theorem dispatches_of_run {es : List (List Hop)} (h : Run c.sessions es s) :
    ∃ a b, Dispatches c s a b := by
  refine h.invariant_state (P := fun s => ∃ a b, Dispatches c s a b) ?_ ?_
  · intro s h₀
    obtain rfl : s = c.session := h₀
    exact ⟨_, _, session_dispatches c⟩
  · intro s hops s' hs hst
    obtain rfl : s' = (s.request hops).2 := hst
    obtain ⟨a, b, hs⟩ := hs
    exact (hs.request hops).2

theorem connectionFor_eq_attested : c.connectionFor hop = c.attestedConnection ↔
    hop.https = true ∧ hop.proxy = none := by
  rw [PromptEncryptionClient.connectionFor]
  split
  · exact iff_of_true rfl ‹_›
  · exact iff_of_false (fun h => by cases h) ‹_›

/-- **When a session egresses attested.**  In every state of a session, all that a request and its
redirects transmit goes over connections with the client's policy and timeout exactly where every URL
dispatched is `https://` and has no proxy selected. -/
theorem egress_attested_iff {es : List (List Hop)} (h : Run c.sessions es s) (hops : List Hop) :
    (∀ t ∈ (s.request hops).1, t.2 = c.attestedConnection) ↔
      ∀ hop ∈ dispatched hops, hop.https = true ∧ hop.proxy = none := by
  obtain ⟨a, b, hs⟩ := dispatches_of_run h
  rw [(hs.request hops).1, List.forall_mem_map]
  exact forall₂_congr fun hop _ => connectionFor_eq_attested

end

/-! ### One session -/

def sampleClient : PromptEncryptionClient := ⟨{}, none⟩

def sampleHop : Hop := ⟨"https://server/infer", none⟩

/-- The second of two requests. -/
theorem sampleHop_attested : dispatched [sampleHop] = [sampleHop] ∧
    ∀ t ∈ ((sampleClient.session.request [sampleHop]).2.request [sampleHop]).1,
      t.2 = sampleClient.attestedConnection :=
  ⟨by decide, (egress_attested_iff ((Run.init rfl).step (e := [sampleHop]) rfl) [sampleHop]).mpr
    (by decide)⟩

/-- The same request, with a proxy selected for its URL. -/
def proxiedHop : Hop := ⟨"https://server/infer", some "http://proxy:3128"⟩

theorem proxied_unattested : ∃ (c : PromptEncryptionClient) (s : Session) (es : List (List Hop)),
    Run c.sessions es s ∧ proxiedHop.https = true ∧
      (proxiedHop, .plain) ∈ (s.request [proxiedHop]).1 := by
  refine ⟨sampleClient, _, [], .init rfl, by decide, ?_⟩
  rw [((session_dispatches _).request [proxiedHop]).1]
  decide

end PromptEncryption.Client
