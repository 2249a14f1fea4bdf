import PromptEncryption.Server.Gate

/-!
# Server — the two middlewares, side by side

Both middlewares are given the same requests, each read in full (`paired`).  They add the same TLS
objects and forward the same requests (`paired_same`); where they differ is what they catch.

* `middlewares_agree_iff`: along every run both answer with the same status, forward the same
  requests and hold the same connections, and nothing escapes them, exactly where everything an
  attestation request raises is named in the clauses of the WSGI middleware.
* `unreadable_token`: an `OSError`, which one of them answers and the other does not.
-/

namespace PromptEncryption.Server
open Python Runs

variable {Sock : Type}

/-! ### Both at once -/

/-- A request as both middlewares receive it. -/
structure SharedRequest (Sock : Type) where
  path : String
  body : Bytes
  socket : Option Sock
  attest : AttestConnection Sock

def SharedRequest.environ (r : SharedRequest Sock) : Environ Sock :=
  ⟨some r.path, r.socket, .ok r.body, r.attest⟩

def SharedRequest.scope (r : SharedRequest Sock) : Scope Sock :=
  ⟨.http, r.path, r.socket, .ok r.body, r.attest, fun _ => none⟩

/-- A request with what each middleware did with it. -/
structure Answered (Sock : Type) where
  request : SharedRequest Sock
  wsgi : Outcome
  asgi : Outcome

/-- Both middlewares, given the same requests. -/
def paired [DecidableEq Sock] (J : JsonFormat) :
    System (List Sock × List Sock) (Answered Sock) where
  init s := s = ([], [])
  step s e s' := wsgiCall J s.1 e.request.environ = (e.wsgi, s'.1) ∧
    asgiCall J s.2 e.request.scope = (e.asgi, s'.2)

/-- Both forward the request, or both answer it, with one status. -/
def Answered.Agree (e : Answered Sock) : Prop :=
  e.wsgi = .app ∧ e.asgi = .app ∨
    ∃ r r', e.wsgi = .reply r ∧ e.asgi = .reply r' ∧ r.status = r'.status

/-! ### What is raised -/

/-- The clauses of `PromptEncryptionWSGIMiddleware.handle_attestation` name the exception. -/
def Named (e : Exc) : Prop :=
  e.isinstance parseError = true ∨ e.isinstance .valueError = true ∨
    e.isinstance .typeError = true ∨ e.isinstance .runtimeError = true ∨
    e.isinstance Client.tinkError = true

/-- What the request raises, where it is one for attestation: in the parsing of its body, or in
`attest_connection`. -/
def SharedRequest.Raises (J : JsonFormat) (r : SharedRequest Sock) (e : Exc) : Prop :=
  r.path = attestPath ∧ (parseAttestRequest J r.body = .error e ∨
    ∃ req s, parseAttestRequest J r.body = .ok req ∧ r.socket = some s ∧ r.attest req s = .error e)

theorem issubclass_trans {c d : ExcClass} (hcd : c.issubclass d = true) {b : ExcClass}
    (hdb : d.issubclass b = true) : c.issubclass b = true := by
  induction b with
  | baseException =>
      obtain rfl : d = ExcClass.baseException := by simpa [ExcClass.issubclass] using hdb
      exact hcd
  | derived name base ih =>
      simp only [ExcClass.issubclass, Bool.or_eq_true, beq_iff_eq] at hdb
      rcases hdb with rfl | hdb
      · exact hcd
      · simp only [ExcClass.issubclass, Bool.or_eq_true]
        exact .inr (ih hdb)

theorem Named.exception {e : Exc} (h : Named e) : e.isinstance .exception = true := by
  rcases h with h | h | h | h | h
  all_goals exact issubclass_trans rfl h

section
variable {e : Exc}

theorem wsgiFailure_of_named (h : Named e) : ∃ r, wsgiFailure e = .reply r ∧
    r.status = if e.isinstance parseError then 400 else 500 := by
  by_cases hparse : e.isinstance parseError = true
  · rw [wsgiFailure, if_pos hparse, if_pos hparse]
    exact ⟨_, rfl, rfl⟩
  · have hrest := h.resolve_left hparse
    rw [wsgiFailure, if_neg hparse, if_neg hparse, if_pos]
    · exact ⟨_, rfl, rfl⟩
    · simpa only [Bool.or_eq_true, or_assoc] using hrest

theorem wsgiFailure_of_not_named (h : ¬ Named e) : wsgiFailure e = .raised e := by
  obtain ⟨hparse, hrest⟩ := not_or.mp h
  rw [wsgiFailure, if_neg hparse, if_neg]
  simpa only [Bool.or_eq_true, or_assoc] using hrest

theorem asgiFailure_of_exception (h : e.isinstance .exception = true) :
    ∃ r, asgiFailure none e = .reply r ∧
      r.status = if e.isinstance parseError then 400 else 500 := by
  rw [asgiFailure, if_pos h]
  exact ⟨_, rfl, rfl⟩

end

/-! ### One request -/

section
variable [DecidableEq Sock] {J : JsonFormat} {attested : List Sock} {r : SharedRequest Sock}

omit [DecidableEq Sock] in
/-- Both parse and attest alike; they name a missing TLS object differently. -/
theorem attest_cases (J : JsonFormat) (hpath : r.path = attestPath) :
    (∃ s response, wsgiAttest J r.environ = .ok (s, response) ∧
      asgiAttest J r.scope = .ok (s, response) ∧ ∀ e, ¬ r.Raises J e) ∨
    (∃ m m', wsgiAttest J r.environ = .error ⟨.runtimeError, m⟩ ∧
      asgiAttest J r.scope = .error ⟨.runtimeError, m'⟩ ∧ ∀ e, ¬ r.Raises J e) ∨
    ∃ e, wsgiAttest J r.environ = .error e ∧ asgiAttest J r.scope = .error e ∧
      ∀ e', r.Raises J e' ↔ e' = e := by
  simp only [SharedRequest.Raises, hpath, true_and]
  cases hparse : parseAttestRequest J r.body with
  | error e =>
      have hw : wsgiAttest J r.environ = .error e := by
        simp [wsgiAttest, SharedRequest.environ, parseRequestData, hparse, bind, Except.bind]
      have ha : asgiAttest J r.scope = .error e := by
        simp [asgiAttest, SharedRequest.scope, hparse, bind, Except.bind]
      refine .inr (.inr ⟨e, hw, ha, fun e' => ?_⟩)
      simp [eq_comm]
  | ok req =>
      cases hsocket : r.socket with
      | none =>
          have hw : wsgiAttest J r.environ = .error ⟨.runtimeError,
              [.text "TLS Socket not found. Server must be started via run_gunicorn_app()"]⟩ := by
            simp [wsgiAttest, SharedRequest.environ, parseRequestData, hparse, hsocket, bind,
              Except.bind]
          have ha : asgiAttest J r.scope =
              .error ⟨.runtimeError, [.text "TLS Socket not found."]⟩ := by
            simp [asgiAttest, SharedRequest.scope, hparse, hsocket, bind, Except.bind]
          exact .inr (.inl ⟨_, _, hw, ha, by simp⟩)
      | some s =>
          have hw : wsgiAttest J r.environ = r.attest req s >>= fun response =>
              return (s, response) := by
            simp [wsgiAttest, SharedRequest.environ, parseRequestData, hparse, hsocket, bind,
              Except.bind]
          have ha : asgiAttest J r.scope = r.attest req s >>= fun response =>
              return (s, response) := by
            simp [asgiAttest, SharedRequest.scope, hparse, hsocket, bind, Except.bind]
          cases hattest : r.attest req s with
          | error e =>
              rw [hattest] at hw ha
              refine .inr (.inr ⟨e, hw, ha, fun e' => ?_⟩)
              simp [hattest, eq_comm]
          | ok response =>
              rw [hattest] at hw ha
              exact .inl ⟨s, response, hw, ha, by simp [hattest]⟩

/-- **One request**: the same TLS objects are attested after it, and both middlewares agree on it
exactly where what it raises is named. -/
theorem call_agree (J : JsonFormat) (attested : List Sock) (r : SharedRequest Sock) :
    (wsgiCall J attested r.environ).2 = (asgiCall J attested r.scope).2 ∧
      (Answered.Agree ⟨r, (wsgiCall J attested r.environ).1, (asgiCall J attested r.scope).1⟩ ↔
        ∀ e, r.Raises J e → Named e) := by
  by_cases hpath : r.path = attestPath
  · have hwsgi : wsgiCall J attested r.environ = wsgiHandleAttestation J attested r.environ :=
      if_pos hpath
    have hasgi : asgiCall J attested r.scope = asgiHandleAttestation J attested r.scope :=
      if_pos hpath
    rw [hasgi, hwsgi, wsgiHandleAttestation, asgiHandleAttestation]
    rcases attest_cases J hpath with ⟨s, response, hw, ha, hnone⟩ | ⟨m, m', hw, ha, hnone⟩ |
      ⟨e, hw, ha, hraises⟩
    · rw [hw, ha]
      exact ⟨rfl, iff_of_true (.inr ⟨_, _, rfl, rfl, rfl⟩) fun e he => absurd he (hnone e)⟩
    · rw [hw, ha]
      exact ⟨rfl, iff_of_true (.inr ⟨_, _, rfl, rfl, rfl⟩) fun e he => absurd he (hnone e)⟩
    · rw [hw, ha]
      refine ⟨rfl, ?_⟩
      simp only [hraises, forall_eq]
      by_cases hnamed : Named e
      · obtain ⟨reply, hreply, hstatus⟩ := wsgiFailure_of_named hnamed
        obtain ⟨reply', hreply', hstatus'⟩ := asgiFailure_of_exception hnamed.exception
        have hsame := hstatus.trans hstatus'.symm
        exact iff_of_true (.inr ⟨reply, reply', hreply, hreply', hsame⟩) hnamed
      · refine iff_of_false ?_ hnamed
        rintro (⟨happ, -⟩ | ⟨reply, reply', hreply, -⟩)
        · cases (wsgiFailure_of_not_named hnamed).symm.trans happ
        · cases (wsgiFailure_of_not_named hnamed).symm.trans hreply
  · have hboth : asgiCall J attested r.scope = wsgiCall J attested r.environ :=
      (if_neg hpath).trans (if_neg hpath).symm
    rw [hboth]
    refine ⟨rfl, iff_of_true ?_ fun e he => absurd he.1 hpath⟩
    rw [wsgiCall, if_neg (show ¬ r.environ.path = attestPath from hpath)]
    cases hsocket : r.environ.socket with
    | none => exact .inr ⟨_, _, rfl, rfl, rfl⟩
    | some s =>
        by_cases hs : s ∈ attested
        · exact .inl ⟨by simp [hs], by simp [hs]⟩
        · exact .inr ⟨unauthorized, unauthorized, by simp [hs], by simp [hs], rfl⟩

/-! ### Every run -/

variable {es : List (Answered Sock)} {st : List Sock × List Sock}

/-- Both hold the same connections, whatever is raised. -/
theorem paired_same (h : Run (paired J) es st) : st.1 = st.2 := by
  refine h.invariant_state (P := fun st => st.1 = st.2) ?_ ?_
  · rintro _ rfl
    rfl
  · rintro ⟨attested, attested'⟩ e st' heq ⟨hwsgi, hasgi⟩
    obtain rfl : attested = attested' := heq
    have hsame := (call_agree J attested e.request).1
    rwa [hwsgi, hasgi] at hsame

/-- **Agreement.**  Along every run of requests read in full, the two middlewares answer with the
same status, forward the same requests, hold the same connections and let nothing escape, exactly
where everything the attestation requests raise is named by the WSGI middleware's clauses. -/
theorem middlewares_agree_iff (h : Run (paired J) es st) :
    (Always (fun e _ => e.Agree) es ∧ st.1 = st.2) ↔
      Always (fun e _ => ∀ exc, e.request.Raises J exc → Named exc) es := by
  rw [and_iff_left (paired_same h)]
  refine Always.congr (h.always ?_)
  rintro es ⟨attested, attested'⟩ ⟨r, wsgi, asgi⟩ st' hrun ⟨hwsgi, hasgi⟩
  obtain rfl : attested = attested' := paired_same hrun
  have hagree := (call_agree J attested r).2
  rwa [hwsgi, hasgi] at hagree

end

/-! ### Two runs -/

/-- A format that decodes every body to the request of a client. -/
def sampleFormat : JsonFormat :=
  { (default : JsonFormat) with
    loads := fun _ => .ok (.dict [])
    parseRequest := fun _ => .ok ⟨[.gca], []⟩ }

/-- An attestation request whose `attest_connection` raises. -/
def failingRequest (cls : ExcClass) : SharedRequest Nat where
  path := attestPath
  body := []
  socket := some 0
  attest _ _ := .error ⟨cls, []⟩

theorem failingRequest_run (cls : ExcClass) : ∃ st, Run (paired sampleFormat)
    [⟨failingRequest cls, wsgiFailure ⟨cls, []⟩, asgiFailure none ⟨cls, []⟩⟩] st :=
  ⟨_, .step (.init rfl) ⟨rfl, rfl⟩⟩

theorem failingRequest_raises {cls : ExcClass} {e : Exc}
    (h : (failingRequest cls).Raises sampleFormat e) : e = ⟨cls, []⟩ := by
  rcases h.2 with hparse | ⟨req, s, -, -, hattest⟩
  · cases hparse
  · exact (Except.error.inj hattest).symm

/-- The key files are missing: `read_file` raises `ValueError`. -/
theorem missingKeys_agree : ∃ (es : List (Answered Nat)) (st : List Nat × List Nat),
    Run (paired sampleFormat) es st ∧ Always (fun e _ => e.Agree) es ∧ st.1 = st.2 := by
  obtain ⟨st, h⟩ := failingRequest_run .valueError
  refine ⟨_, st, h, (middlewares_agree_iff h).mpr ⟨fun e he => ?_, trivial⟩⟩
  rw [failingRequest_raises he]
  exact .inr (.inl rfl)

abbrev permissionError : ExcClass := .derived "PermissionError" .osError

/-- The token file may not be opened: the exception escapes one middleware. -/
theorem unreadable_token : ∃ (es : List (Answered Nat)) (st : List Nat × List Nat),
    Run (paired sampleFormat) es st ∧
    (∃ e ∈ es, e.wsgi = .raised ⟨permissionError, []⟩ ∧ ∃ r, e.asgi = .reply r ∧ r.status = 500) ∧
    ¬ Always (fun e _ => e.Agree) es := by
  obtain ⟨st, h⟩ := failingRequest_run permissionError
  refine ⟨_, st, h, ⟨_, List.mem_cons_self, rfl, _, rfl, rfl⟩, ?_⟩
  rintro ⟨⟨happ, -⟩ | ⟨r, r', hreply, -⟩, -⟩
  · cases happ
  · cases hreply

end PromptEncryption.Server
