import PromptEncryption.Client.Attested

/-!
# Client — sessions are fresh, and expired ones are closed

`_last_attestation_time` outlives the socket it was recorded on.  The invariant between calls is that
it is the reading of the last handshake on the socket held, if one has succeeded there (`Steady`): a
new socket has had none, and a handshake that fails loses its socket.

* `request_fresh`: along every run in which connections and handshakes fail with `Exception`s and
  nothing else fails, a `request()` on an object that has been connected sends at most where its check
  of the session's age passed or a handshake on the socket came after it; and where the check fails
  and no handshake succeeds, it closes the socket and raises `PromptEncryptionError`.
-/

namespace PromptEncryption.Client
open Python Scripts Runs

/-! ### What fails -/

/-- A place in the opening of a connection, in a handshake, in a transmission or in a response. -/
def Place.connects : Place → Bool
  | .between => false
  | .closing _ => false
  | .closed _ => false
  | _ => true

/-- Connections and handshakes fail with `Exception`s, `close()` closes, and no reading is 0. -/
def Regular : (q : ConnQuestion) → ConnAnswer q → Prop
  | .strike p, a => ∀ e, a = some e → p.connects = true ∧ e.isinstance .exception = true
  | .response _, a => ∀ e, a.1.data = .error e → e.isinstance .exception = true
  | .time, reading => reading ≠ 0
  | .tokenBytes, _ => True

def Event.Regular (e : Event) : Prop := ∀ a ∈ e.answers, Client.Regular a.1 a.2

/-! ### What was done -/

/-- The reading of a handshake on the socket. -/
def Obs.attestedOn (k : Nat) : Obs → Option ℚ
  | .attested (some j) reading => if j = k then some reading else none
  | _ => none

/-- The reading of the last handshake that succeeded on the socket. -/
def lastAttested (k : Nat) (log : List Obs) : Option ℚ := log.findSome? (Obs.attestedOn k)

/-- Neither an application request nor a check of the session's age. -/
def Obs.Quiet : Obs → Prop
  | .sent .application _ => False
  | .checked _ => False
  | _ => True

/-- Only quiet things were done since the log was `L`. -/
def Since (L : List Obs) (s : Conn) : Prop := ∃ new, s.log = new ++ L ∧ ∀ o ∈ new, o.Quiet

/-- A handshake on the socket held succeeded since the log was `L`. -/
def AttestedSince (L : List Obs) (s : Conn) : Prop :=
  ∃ new reading, s.log = new ++ L ∧ .attested s.sock reading ∈ new

theorem attestedOn_eq_some {k : Nat} {o : Obs} {r : ℚ} :
    o.attestedOn k = some r ↔ o = .attested (some k) r := by
  unfold Obs.attestedOn
  split
  · rename_i j reading
    by_cases hj : j = k
    · subst hj; simp
    · simp [hj]
  · rename_i h
    exact ⟨fun he => (by cases he), fun he => absurd he (h k r)⟩

theorem lastAttested_mem {k : Nat} {log : List Obs} {r : ℚ} (h : lastAttested k log = some r) :
    .attested (some k) r ∈ log := by
  obtain ⟨o, ho, hr⟩ := List.exists_of_findSome?_eq_some h
  rwa [attestedOn_eq_some.mp hr] at ho

theorem lastAttested_of_mem {k : Nat} {log : List Obs} {r : ℚ} (h : .attested (some k) r ∈ log) :
    ∃ r', lastAttested k log = some r' :=
  Option.isSome_iff_exists.mp (List.findSome?_isSome_iff.mpr
    ⟨_, h, by rw [attestedOn_eq_some.mpr rfl]; rfl⟩)

/-- Once a handshake on the socket is among the latest things done, nothing before counts. -/
theorem lastAttested_append_of_mem {k : Nat} {new log : List Obs} {r : ℚ}
    (h : .attested (some k) r ∈ new) : lastAttested k (new ++ log) = lastAttested k new := by
  obtain ⟨r', hr'⟩ := lastAttested_of_mem h
  have happend : lastAttested k (new ++ log) = (lastAttested k new).or (lastAttested k log) :=
    List.findSome?_append
  rw [happend, hr']
  rfl

/-! ### The invariant -/

/-- Handshakes are on sockets opened, and an object that has been connected has a time. -/
structure Timed (s : Conn) : Prop where
  known : ∀ k r, .attested (some k) r ∈ s.log → k < s.opened
  held : ∀ k, s.sock = some k → k < s.opened
  marked : .connected ∈ s.log → s.isAttested = true
  timed : s.isAttested = true → s.lastAttestationTime ≠ 0

/-- **The invariant between calls.**  The recorded time is that of the last handshake on the socket
held. -/
structure Steady (s : Conn) : Prop where
  timed : Timed s
  current : ∀ k r, s.sock = some k → lastAttested k s.log = some r → s.lastAttestationTime = r

section
variable {P : Settings} {s : Conn} {L : List Obs}

theorem Timed.of_log {s' : Conn} (h : Timed s) (hopened : s'.opened = s.opened)
    (hsock : ∀ k, s'.sock = some k → s.sock = some k) (hlog : s'.log = s.log)
    (hattested : s'.isAttested = s.isAttested)
    (htime : s'.lastAttestationTime = s.lastAttestationTime) : Timed s' where
  known k r hr := by rw [hopened]; exact h.known k r (hlog ▸ hr)
  held k hk := by rw [hopened]; exact h.held k (hsock k hk)
  marked hc := by rw [hattested]; exact h.marked (hlog ▸ hc)
  timed ha := by rw [htime]; exact h.timed (hattested ▸ ha)

theorem Timed.records (h : Timed s) {reading : ℚ} (hr : reading ≠ 0) :
    Timed (s.records reading) := ⟨h.known, h.held, h.marked, fun _ => hr⟩

/-- A thing done that is neither a handshake nor `connected`. -/
theorem Timed.observe (h : Timed s) {o : Obs} (ho : ∀ k r, o ≠ .attested (some k) r)
    (hc : o ≠ .connected) : Timed (s.observe o) where
  known k r hr := by
    rcases List.mem_cons.mp hr with heq | hr
    · exact absurd heq.symm (ho k r)
    · exact h.known k r hr
  held := h.held
  marked hm := by
    rcases List.mem_cons.mp hm with heq | hm
    · exact absurd heq.symm hc
    · exact h.marked hm
  timed := h.timed

/-- A connection without a socket has a current time. -/
theorem Timed.steady (h : Timed s) (hs : s.sock = none) : Steady s :=
  ⟨h, fun k _ hk => by rw [hs] at hk; cases hk⟩

/-- A new socket has had no handshake. -/
theorem Steady.opens (h : Steady s) : Steady s.opens where
  timed :=
    { known := fun k r hr => Nat.lt_succ_of_lt (h.timed.known k r hr)
      held := fun k hk => by cases hk; exact Nat.lt_succ_self _
      marked := h.timed.marked
      timed := h.timed.timed }
  current k r hk hr := by
    -- a handshake on the new socket would be on one not opened yet
    cases hk
    exact absurd (h.timed.known _ r (lastAttested_mem hr)) (Nat.lt_irrefl _)

theorem Steady.observe (h : Steady s) {o : Obs} (ho : ∀ k r, o ≠ .attested (some k) r)
    (hc : o ≠ .connected) : Steady (s.observe o) where
  timed := h.timed.observe ho hc
  current k r hk hr := by
    have hne : o.attestedOn k = none := by
      cases hr' : o.attestedOn k with
      | none => rfl
      | some r' => exact absurd (attestedOn_eq_some.mp hr') (ho k r')
    refine h.current k r hk ?_
    rwa [lastAttested, Conn.observe, List.findSome?_cons, hne] at hr

/-- **A handshake makes the time current.** -/
theorem Timed.attests (h : Timed s) {reading : ℚ} (hr : reading ≠ 0) :
    Steady ((s.records reading).observe (.attested s.sock reading)) where
  timed :=
    { known := fun k r hk => by
        rcases List.mem_cons.mp hk with heq | hk
        · injection heq with hsock _
          exact h.held k hsock.symm
        · exact h.known k r hk
      held := h.held
      marked := fun hm => by
        rcases List.mem_cons.mp hm with heq | hm
        · cases heq
        · exact h.marked hm
      timed := fun _ => hr }
  current k r hk hl := by
    have hk' : s.sock = some k := hk
    rw [lastAttested, Conn.observe, List.findSome?_cons, hk', attestedOn_eq_some.mpr rfl] at hl
    exact Option.some.inj hl

theorem Since.refl (s : Conn) : Since s.log s := ⟨[], rfl, fun _ h => by cases h⟩

theorem Since.trans {s' : Conn} (h : Since L s) (h' : Since s.log s') : Since L s' := by
  obtain ⟨new, hlog, hnew⟩ := h
  obtain ⟨new', hlog', hnew'⟩ := h'
  exact ⟨new' ++ new, by rw [hlog', hlog, List.append_assoc],
    List.forall_mem_append.mpr ⟨hnew', hnew⟩⟩

theorem Since.observe (h : Since L s) {o : Obs} (ho : o.Quiet) : Since L (s.observe o) := by
  obtain ⟨new, hlog, hnew⟩ := h
  exact ⟨o :: new, by rw [Conn.observe, hlog]; rfl, List.forall_mem_cons.mpr ⟨ho, hnew⟩⟩

theorem AttestedSince.observe (h : AttestedSince L s) (o : Obs) :
    AttestedSince L (s.observe o) := by
  obtain ⟨new, reading, hlog, hmem⟩ := h
  exact ⟨o :: new, reading, by rw [Conn.observe, hlog]; rfl, List.mem_cons_of_mem o hmem⟩

/-! ### What a call keeps -/

/-- A handshake that is under way. -/
structure Underway (L : List Obs) (s : Conn) : Prop where
  timed : Timed s
  since : Since L s

/-- Between two steps outside a handshake. -/
structure Kept (L : List Obs) (s : Conn) : Prop where
  steady : Steady s
  since : Since L s

/-- After a handshake that succeeded. -/
structure Renewed (L : List Obs) (s : Conn) : Prop where
  kept : Kept L s
  attested : AttestedSince L s
  time_ne : s.lastAttestationTime ≠ 0

/-- An `Exception` was raised. -/
structure Raised (K : Conn → Prop) (e : Exc) (s : Conn) : Prop where
  kept : K s
  exception : e.isinstance .exception = true

theorem Kept.underway (h : Kept L s) : Underway L s := ⟨h.steady.timed, h.since⟩

theorem Underway.shut (h : Underway L s) : Kept L s.shut := by
  have htimed : Timed s.shut := h.timed.of_log rfl (fun k hk => by cases hk) rfl rfl rfl
  exact ⟨htimed.steady rfl, h.since⟩

theorem Underway.starts (h : Underway L s) : Underway L s.starts :=
  ⟨h.timed.of_log rfl (fun _ hk => hk) rfl rfl rfl, h.since⟩

theorem Underway.receives (h : Underway L s) (ends : Bool) : Underway L (s.receives ends) := by
  refine ⟨h.timed.of_log rfl (fun k hk => ?_) rfl rfl rfl, h.since⟩
  cases ends with
  | true => cases hk
  | false => exact hk

/-- **A handshake that returns renews the session.** -/
theorem handshake_regular (hP : P.Ordinary) {c : Caller} {self_connect : Method Unit}
    (hconnect : ∀ s, Kept L s → Meets Regular self_connect (fun _ => Renewed L)
      (Raised (Kept L)) s) (h : Underway L s) :
    Meets Regular (performAttestationHandshake P c self_connect) (fun _ => Renewed L)
      (Raised (Underway L)) s := by
  have hquiet : ∀ (m : Bytes) k (s : Conn), Underway L s →
      Underway L (s.observe (.sent (.attestation m) k)) := fun m k s h =>
    ⟨h.timed.observe (fun _ _ he => by cases he) (fun he => by cases he), h.since.observe trivial⟩
  refine performAttestationHandshake_meets (I := Underway L) (J := Underway L) (V := Underway L)
    (fun s e h he => ⟨or_self_iff.mp h, (he e rfl).2⟩)
    (fun s e h he => ⟨h.shut.underway, (he e rfl).2⟩) (fun s e h he => ⟨h, he hP⟩)
    (fun s e h _ => ⟨h.kept, rfl⟩) ?_ (fun s r ends e h hr he => ⟨h.receives ends,
      processAttestationResponse_raises hP.decodes hr e he⟩) (fun s r ends h _ => h.receives ends)
    ?_ (fun s e h he => ⟨h, (he e rfl).2⟩)
    (fun s e reading h hr he => ⟨⟨h.timed.records hr, h.since⟩, (he e rfl).2⟩)
    ?_ h
  · intro s body h
    refine superRequest_meets (I := Underway L) (fun s e h he => ⟨h, (he e rfl).2⟩)
      (fun s e h he => ⟨h, he⟩) (fun s h => h.starts) (fun s h hs => ?_)
      (fun s k h _ => hquiet body k s h) (fun s e h he => ⟨h, (he e rfl).2⟩) h
    exact (hconnect s ⟨h.timed.steady hs, h.since⟩).mono (fun _ _ h => h.kept.underway)
      fun _ _ h => ⟨h.kept.underway, h.exception⟩
  · intro s nonce response tlsEkm h _ _
    exact ⟨h.timed.observe (fun _ _ he => by cases he) (fun he => by cases he),
      h.since.observe trivial⟩
  · intro s reading h hr
    obtain ⟨new, hlog, hnew⟩ := h.since
    have hlog' : ((s.records reading).observe (.attested s.sock reading)).log =
        .attested s.sock reading :: new ++ L := congrArg _ hlog
    exact ⟨⟨h.timed.attests hr, ⟨_, hlog', List.forall_mem_cons.mpr ⟨trivial, hnew⟩⟩⟩,
      ⟨_, reading, hlog', List.mem_cons_self⟩, hr⟩

/-- `close()` closes. -/
theorem close_regular {c : Closer} {Ψ : Exc → Conn → Prop} (h : Underway L s) :
    Meets Regular (close c) (fun _ s => Kept L s ∧ s.sock = none) Ψ s := by
  refine meets_close.mpr ⟨fun _ => ⟨fun _ => ⟨h.shut, rfl⟩, fun e he => ?_⟩, fun e he => ?_⟩
  · exact absurd (he e rfl).1 (by simp [Place.connects])
  · exact absurd (he e rfl).1 (by simp [Place.connects])

/-- An `except` clause closes, and raises what it says. -/
theorem closing_regular {c : Closer} {e : Exc} {Φ : Unit → Conn → Prop} {Ψ : Exc → Conn → Prop}
    (h : Underway L s) (hΨ : ∀ s', Kept L s' → s'.sock = none → Ψ e s') :
    Meets Regular (do close c; lift (.error e) : Method Unit) Φ Ψ s :=
  meets_bind.mpr ((close_regular h).mono (fun _ s' h' => hΨ s' h'.1 h'.2) fun _ _ he => he)

/-- Nothing strikes between two statements. -/
theorem between_regular {Φ : Unit → Conn → Prop} {Ψ : Exc → Conn → Prop} (h : Φ () s) :
    Meets Regular (strikeAt .between) Φ Ψ s :=
  meets_strikeAt.mpr ⟨fun _ => h, fun e he => absurd (he e rfl).1 (by simp [Place.connects])⟩

/-- **`connect()` renews the session on a new socket, or leaves none.** -/
theorem connect_regular (hP : P.Ordinary) (depth : Nat) (h : Kept L s) :
    Meets Regular (connect P depth) (fun _ => Renewed L) (Raised (Kept L)) s := by
  induction depth generalizing s with
  | zero => exact ⟨h, rfl⟩
  | succ depth ih =>
      simp only [connect, connectWith, meets_bind]
      have hopens : Kept L s.opens := ⟨h.steady.opens, h.since⟩
      refine meets_superConnect.mpr ⟨fun _ => ⟨fun _ => ?_, fun e he => ⟨hopens, (he e rfl).2⟩⟩,
        fun e he => ⟨h, (he e rfl).2⟩⟩
      refine meets_tryExcept.mpr ((handshake_regular hP (fun s hs => ih hs) hopens.underway).mono
        ?_ fun e s h => ?_)
      · intro _ s h
        refine between_regular (meets_modify.mpr ?_)
        have hmarks : Kept L (s.marks.observe .connected) :=
          { steady :=
              { timed :=
                  { known := fun k r hr => by
                      rcases List.mem_cons.mp hr with heq | hr
                      · cases heq
                      · exact h.kept.steady.timed.known k r hr
                    held := h.kept.steady.timed.held
                    marked := fun _ => rfl
                    timed := fun _ => h.time_ne }
                current := h.kept.steady.current }
            since := Since.observe (s := s.marks) h.kept.since trivial }
        exact ⟨hmarks, AttestedSince.observe (s := s.marks) h.attested _, h.time_ne⟩
      · -- `except Exception`: the new socket is closed
        rw [if_pos h.exception]
        exact closing_regular h.kept fun _ hkept _ => ⟨hkept, h.exception⟩

theorem revalidateSession_regular (hP : P.Ordinary) (depth : Nat) (h : Kept L s) :
    Meets Regular (revalidateSession P (connect P depth)) (fun _ => Renewed L)
      (Raised (Kept L)) s := by
  simp only [revalidateSession, meets_bind]
  -- where there is no socket to revalidate on, that is what is raised
  refine between_regular (meets_getState.mpr (meets_raiseIf.mpr ⟨fun _ => ?_, fun _ => ⟨h, rfl⟩⟩))
  refine meets_tryExcept.mpr (meets_bind.mpr ((handshake_regular hP
    (fun s => connect_regular hP depth) h.underway).mono (fun _ s h => between_regular h)
    fun e s h => ?_))
  rw [if_pos h.exception]
  exact closing_regular h.kept fun _ hkept _ => ⟨hkept, rfl⟩

/-! ### A request that checks its session -/

/-- A request was refused: its connection was closed. -/
structure Refused (L : List Obs) (e : Exc) (s : Conn) : Prop where
  kept : Kept L s
  closed : s.sock = none
  error : e.isinstance promptEncryptionError = true

/-- A revalidation renews the session, or the request is refused. -/
theorem revalidateIf_regular (hP : P.Ordinary) (depth : Nat) (h : Kept L s) :
    Meets Regular (revalidateIf P (connect P depth) true) (fun _ => Renewed L) (Refused L) s := by
  refine meets_bind.mpr (between_regular (meets_tryExcept.mpr ?_))
  refine (revalidateSession_regular hP depth h).mono (fun _ _ h => h) ?_
  intro e s h
  rw [if_pos h.exception]
  exact closing_regular h.kept.underway fun _ hkept hclosed => ⟨hkept, hclosed, rfl⟩

/-- A request may be sent: at the check a handshake on the socket was no older than `T`, or one has
succeeded since.  `last` is the time the check was made against. -/
structure Ready (T last reading : ℚ) (L : List Obs) (s : Conn) : Prop where
  kept : Kept (.checked reading :: L) s
  fresh : AttestedSince (.checked reading :: L) s ∨
    reading - last ≤ T ∧ ∀ k r, s.sock = some k → lastAttested k s.log = some r → last = r

/-- What was done since the check at `reading` sends at most one application request, on a socket
whose last handshake was no older than `T` at the check or came after it. -/
def SendsFresh (T reading : ℚ) (L new : List Obs) : Prop :=
  (∀ o ∈ new, o.Quiet) ∨ ∃ k after, new = .sent .application k :: after ∧ (∀ o ∈ after, o.Quiet) ∧
    ∀ r, lastAttested k (after ++ .checked reading :: L) = some r →
      reading - r ≤ T ∨ lastAttested k after = some r

/-- A request with the result `r` sent nothing, left no socket and raised `PromptEncryptionError`. -/
structure FailsClosed (new : List Obs) (r : Except Exc Unit) (s : Conn) : Prop where
  quiet : ∀ o ∈ new, o.Quiet
  closed : s.sock = none
  error : ∃ e, r = .error e ∧ e.isinstance promptEncryptionError = true

/-- **What a request that checked its session at `reading` has done.** -/
structure Checked (T last reading : ℚ) (L : List Obs) (r : Except Exc Unit) (s : Conn) : Prop where
  steady : Steady s
  log : ∃ new, s.log = new ++ .checked reading :: L ∧ SendsFresh T reading L new ∧
    (T < reading - last → (∀ sock t, .attested sock t ∉ new) → FailsClosed new r s)

variable {T last reading : ℚ} {r : Except Exc Unit}

theorem Renewed.ready (h : Renewed (.checked reading :: L) s) : Ready T last reading L s :=
  ⟨h.kept, .inl h.attested⟩

/-- The request has not been sent, and nothing was done since but quiet things. -/
theorem Ready.checked (h : Ready T last reading L s) {s' : Conn} (h' : Kept s.log s') :
    Checked T last reading L r s' := by
  obtain ⟨new, hlog, hnew⟩ := h.kept.since
  obtain ⟨new', hlog', hnew'⟩ := h'.since
  refine ⟨h'.steady, new' ++ new, by rw [hlog', hlog, List.append_assoc],
    .inl (List.forall_mem_append.mpr ⟨hnew', hnew⟩), ?_⟩
  intro hT hnone
  rcases h.fresh with ⟨new₁, t, hlog₁, hmem⟩ | ⟨hle, -⟩
  · rw [← List.append_cancel_right (hlog.symm.trans hlog₁)] at hmem
    exact absurd (List.mem_append_right new' hmem) (hnone _ _)
  · exact absurd hT (Rat.not_lt.mpr hle)

/-- The request is sent. -/
theorem Ready.sent (h : Ready T last reading L s) {k : Nat} (hk : s.sock = some k) :
    Checked T last reading L r (s.observe (.sent .application k)) := by
  obtain ⟨after, hlog, hafter⟩ := h.kept.since
  have hsteady : Steady (s.observe (.sent .application k)) :=
    h.kept.steady.observe (fun _ _ he => by cases he) fun he => by cases he
  have hlog' : (s.observe (.sent .application k)).log =
      .sent .application k :: after ++ .checked reading :: L := congrArg _ hlog
  refine ⟨hsteady, _, hlog', .inr ⟨k, after, rfl, hafter, ?_⟩, ?_⟩
  · intro r hr
    rcases h.fresh with ⟨new', t, hlog₁, hmem⟩ | ⟨hle, hlast⟩
    · -- a handshake since the check hides every one before it
      rw [List.append_cancel_right (hlog.symm.trans hlog₁)] at hr ⊢
      rw [hk] at hmem
      rw [lastAttested_append_of_mem hmem] at hr
      exact .inr hr
    · -- the check was made against the last handshake on this socket
      rw [hlast k r hk (hlog ▸ hr)] at hle
      exact .inl hle
  · intro hT hnone
    rcases h.fresh with ⟨new', t, hlog₁, hmem⟩ | ⟨hle, -⟩
    · rw [List.append_cancel_right (hlog.symm.trans hlog₁)] at hnone
      exact absurd (List.mem_cons_of_mem _ hmem) (hnone _ _)
    · exact absurd hT (Rat.not_lt.mpr hle)

theorem Refused.checked {e : Exc} (h : Refused (.checked reading :: L) e s) :
    Checked T last reading L (.error e) s := by
  obtain ⟨new, hlog, hnew⟩ := h.kept.since
  exact ⟨h.kept.steady, new, hlog, .inl hnew, fun _ _ => ⟨hnew, h.closed, e, rfl, h.error⟩⟩

/-- Once the request is sent, an exception changes nothing. -/
theorem Checked.raises {e : Exc} (h : Checked T last reading L (.ok ()) s) :
    Checked T last reading L (.error e) s := by
  obtain ⟨hsteady, new, hlog, hfresh, hclosed⟩ := h
  refine ⟨hsteady, new, hlog, hfresh, ?_⟩
  intro hT hnone
  obtain ⟨e', he', -⟩ := (hclosed hT hnone).error
  cases he'

/-- The transmission of a request that may be sent. -/
theorem sending_regular (hP : P.Ordinary) (depth : Nat) (h : Ready T last reading L s) :
    Meets Regular (superRequest P (connect P depth) .sending .application)
      (fun _ => Checked T last reading L (.ok ()))
      (fun e => Checked T last reading L (.error e)) s := by
  have hself : ∀ s, Ready T last reading L s → Kept s.log s := fun s h =>
    ⟨h.kept.steady, Since.refl s⟩
  refine superRequest_meets (I := Ready T last reading L) (fun s e h _ => h.checked (hself s h))
    (fun s e h _ => h.checked (hself s h)) ?_ ?_
    (fun s k h hk => h.sent hk) (fun s e h _ => h.raises) h
  · intro s h
    exact ⟨⟨⟨h.kept.underway.starts.timed, h.kept.steady.current⟩, h.kept.since⟩, h.fresh⟩
  · intro s h _
    refine (connect_regular hP depth (hself s h)).mono (fun _ s' h' => ?_)
      fun e s' h' => h.checked h'.kept
    obtain ⟨new, hlog, -⟩ := h.kept.since
    obtain ⟨new', t, hlog', hmem⟩ := h'.attested
    exact ⟨⟨h'.kept.steady, h.kept.since.trans h'.kept.since⟩, .inl ⟨new' ++ new, t,
      by rw [hlog', hlog, List.append_assoc], List.mem_append_left new hmem⟩⟩

/-- **A request on an object that has been connected checks its session.** -/
theorem request_checked (hP : P.Ordinary) (depth : Nat) (h : Steady s)
    (hattested : s.isAttested = true) :
    Meets Regular (request P (connect P depth))
      (fun _ s' => ∃ reading,
        Checked P.revalidationTimeout s.lastAttestationTime reading s.log (.ok ()) s')
      (fun e s' => ∃ reading,
        Checked P.revalidationTimeout s.lastAttestationTime reading s.log (.error e) s') s := by
  have htime : s.lastAttestationTime ≠ 0 := h.timed.timed hattested
  refine meets_bind.mpr (between_regular (meets_bind.mpr (meets_revalidationDue.mpr
    ⟨fun hno => absurd ⟨hattested, htime⟩ hno, fun _ _ reading _ => meets_bind.mpr ?_⟩)))
  have hkept : Kept (.checked reading :: s.log) (s.observe (.checked reading)) :=
    ⟨h.observe (fun _ _ he => by cases he) (fun he => by cases he), Since.refl _⟩
  have hsend : ∀ s', Ready P.revalidationTimeout s.lastAttestationTime reading s.log s' →
      Meets Regular (strikeAt .between >>= fun _ =>
        superRequest P (connect P depth) .sending .application)
        (fun _ s' => ∃ reading,
          Checked P.revalidationTimeout s.lastAttestationTime reading s.log (.ok ()) s')
        (fun e s' => ∃ reading,
          Checked P.revalidationTimeout s.lastAttestationTime reading s.log (.error e) s') s' := by
    intro s' h'
    exact meets_bind.mpr (between_regular ((sending_regular hP depth h').mono
      (fun _ _ h => ⟨reading, h⟩) fun _ _ h => ⟨reading, h⟩))
  by_cases hdue : P.revalidationTimeout < reading - s.lastAttestationTime
  · -- older than the timeout: the session is renewed, or the request refused
    rw [decide_eq_true hdue]
    exact (revalidateIf_regular hP depth hkept).mono (fun _ s' h' => hsend s' h'.ready)
      fun e s' h' => ⟨reading, h'.checked⟩
  · -- the request is sent as it is; `h.current` says whose time was checked
    rw [decide_eq_false hdue]
    refine hsend _ ⟨hkept, .inr ⟨Rat.not_lt.mp hdue, fun k r hk hr => h.current k r hk ?_⟩⟩
    rwa [lastAttested, Conn.observe, List.findSome?_cons] at hr

/-- A request on an object that has never been connected. -/
theorem request_unattested (hP : P.Ordinary) (depth : Nat) (h : Steady s)
    (hattested : s.isAttested = false) :
    Meets Regular (request P (connect P depth)) (fun _ => Steady) (fun _ => Steady) s := by
  refine meets_bind.mpr (between_regular (meets_bind.mpr (meets_revalidationDue.mpr
    ⟨fun _ => meets_bind.mpr (meets_bind.mpr (between_regular ?_)), fun hset => ?_⟩)))
  swap
  · cases hattested.symm.trans hset
  refine superRequest_meets (I := Steady) (fun _ _ h _ => h) (fun _ _ h _ => h)
    (fun s h => ⟨⟨h.timed.known, h.timed.held, h.timed.marked, h.timed.timed⟩, h.current⟩)
    (fun s h _ => ?_) (fun s k h _ => h.observe (fun _ _ he => by cases he) fun he => by cases he)
    (fun _ _ h _ => h) h
  exact (connect_regular (L := s.log) hP depth ⟨h, Since.refl s⟩).mono
    (fun _ _ h => h.kept.steady) fun _ _ h => h.kept.steady

/-! ### Every run -/

/-- **The step lemma.**  Every call keeps the invariant. -/
theorem call_regular (hP : P.Ordinary) (call : Call) (depth : Nat) (h : Steady s) :
    Meets Regular (call.method P depth) (fun _ => Steady) (fun _ => Steady) s := by
  have hkept : Kept s.log s := ⟨h, Since.refl s⟩
  cases call with
  | connect =>
      exact (connect_regular hP depth hkept).mono (fun _ _ h => h.kept.steady)
        fun _ _ h => h.kept.steady
  | request =>
      cases hattested : s.isAttested with
      | false => exact request_unattested hP depth h hattested
      | true =>
          exact (request_checked hP depth h hattested).mono (fun _ _ ⟨_, h⟩ => h.steady)
            fun _ _ ⟨_, h⟩ => h.steady
  | revalidateSession =>
      exact (revalidateSession_regular hP depth hkept).mono (fun _ _ h => h.kept.steady)
        fun _ _ h => h.kept.steady
  | close => exact (close_regular hkept.underway).mono (fun _ _ h => h.1.steady) fun _ _ h => h
  | response =>
      refine meets_bind.mpr (getresponse_meets (fun _ received _ => ?_) (fun _ _ => h)
        fun _ _ _ _ _ => hkept.underway.shut.steady)
      refine ⟨(hkept.underway.receives _).timed, fun k r hk hr => h.current k r ?_ hr⟩
      cases hends : received.2 with
      | true => rw [Conn.receives, hends] at hk; cases hk
      | false => rwa [Conn.receives, hends] at hk
  | peerClose => exact h

/-- The invariant holds along every regular run. -/
theorem steady_of_run (hP : P.Ordinary) {es : List Event}
    (h : Run ((connection P).restrict fun _ e => e.Regular) es s) : Steady s := by
  refine h.invariant_state ?_ ?_
  · intro s h₀
    obtain rfl : s = {} := h₀
    have htimed : Timed {} := ⟨fun _ _ h => (by cases h), fun _ h => (by cases h),
      fun h => (by cases h), fun h => (by cases h)⟩
    exact htimed.steady rfl
  · intro s e s' hs hst
    obtain ⟨hplay, hregular⟩ := hst
    exact (call_regular hP e.call e.depth hs).play_ends (Φ := fun _ => Steady) hregular hplay

/-- The one check of a request, and the one place it can have been sent. -/
theorem SendsFresh.split {new later between : List Obs} {k : Nat}
    (h : SendsFresh T reading L new)
    (hnew : new ++ [.checked reading] = later ++ .sent .application k :: between) :
    ∃ after, between = after ++ [.checked reading] ∧
      ∀ r, lastAttested k (between ++ L) = some r →
        reading - r ≤ T ∨ lastAttested k after = some r := by
  have hquiet : ∀ {os : List Obs}, (∀ o ∈ os, o.Quiet) →
      .sent .application k ∉ os ++ [.checked reading] := by
    intro os hos hmem
    rcases List.mem_append.mp hmem with hmem | hmem
    · exact hos _ hmem
    · cases List.mem_singleton.mp hmem
  rcases h with hall | ⟨j, after, rfl, hafter, hfresh⟩
  · exact absurd (hnew ▸ List.mem_append_right later List.mem_cons_self) (hquiet hall)
  · cases later with
    | nil =>
        have hj : (.sent .application j : Obs) = .sent .application k := (List.cons.inj hnew).1
        have hbetween : after ++ [.checked reading] = between := (List.cons.inj hnew).2
        cases hj
        subst hbetween
        exact ⟨after, rfl, fun r hr => hfresh r (by rwa [List.append_assoc] at hr)⟩
    | cons o later =>
        have htail : after ++ [.checked reading] = later ++ .sent .application k :: between :=
          (List.cons.inj hnew).2
        exact absurd (htail ▸ List.mem_append_right later List.mem_cons_self) (hquiet hafter)

/-- A request makes one check. -/
theorem SendsFresh.checked_eq {new : List Obs} {reading' : ℚ} (h : SendsFresh T reading L new)
    (hmem : .checked reading' ∈ new ++ [.checked reading]) : reading' = reading := by
  have hquiet : ∀ {os : List Obs}, (∀ o ∈ os, o.Quiet) → .checked reading' ∉ os :=
    fun hos hmem => hos _ hmem
  rcases List.mem_append.mp hmem with hmem | hmem
  · rcases h with hall | ⟨k, after, rfl, hafter, -⟩
    · exact absurd hmem (hquiet hall)
    · rcases List.mem_cons.mp hmem with heq | hmem
      · cases heq
      · exact absurd hmem (hquiet hafter)
  · cases List.mem_singleton.mp hmem
    rfl

/-- **Freshness, and failing closed.**  A `request()`, in any state reached along a regular run after
some `connect()` has succeeded: what it transmits goes to a socket whose last handshake was recorded
at most the timeout before the reading of its check, or after that check; and where the check finds
the session older and no handshake succeeds, it transmits nothing, leaves no socket and raises
`PromptEncryptionError`. -/
theorem request_fresh (hP : P.Ordinary) {es : List Event}
    (h : Run ((connection P).restrict fun _ e => e.Regular) es s) (hconnected : .connected ∈ s.log)
    {e : Event} {s' : Conn} (hcall : e.call = .request) (hregular : e.Regular)
    (hstep : (connection P).step s e s') :
    ∃ new, s'.log = new ++ s.log ∧
      (∀ later k between, new = later ++ .sent .application k :: between →
        ∃ after reading before, between = after ++ .checked reading :: before ∧
          ∀ r, lastAttested k (between ++ s.log) = some r →
            reading - r ≤ P.revalidationTimeout ∨ lastAttested k after = some r) ∧
      ∀ reading, .checked reading ∈ new →
        P.revalidationTimeout < reading - s.lastAttestationTime →
        (∀ sock t, .attested sock t ∉ new) →
        (∀ k, .sent .application k ∉ new) ∧ s'.sock = none ∧
          ∃ ex, e.result = .error ex ∧ ex.isinstance promptEncryptionError = true := by
  have hsteady := steady_of_run hP h
  have hmeets := request_checked hP e.depth hsteady (hsteady.timed.marked hconnected)
  have hplay : play (request P (connect P e.depth)) s e.answers = some (e.result, s') := by
    have hplay : play (e.call.method P e.depth) s e.answers = some (e.result, s') := hstep
    rwa [hcall] at hplay
  obtain ⟨reading, hchecked⟩ : ∃ reading,
      Checked P.revalidationTimeout s.lastAttestationTime reading s.log e.result s' :=
    hmeets.play_ends (Φ := fun r s' => ∃ reading,
      Checked P.revalidationTimeout s.lastAttestationTime reading s.log r s') hregular hplay
  obtain ⟨new, hlog, hfresh, hclosed⟩ := hchecked.log
  refine ⟨new ++ [.checked reading], by rw [hlog, List.append_assoc]; rfl, ?_, ?_⟩
  · intro later k between hnew
    obtain ⟨after, rfl, hr⟩ := hfresh.split hnew
    exact ⟨after, reading, [], rfl, hr⟩
  · intro reading' hmem hT hnone
    obtain rfl := hfresh.checked_eq hmem
    obtain ⟨hquiet, hsock, herror⟩ :=
      hclosed hT fun sock t hmem => hnone sock t (List.mem_append_left _ hmem)
    refine ⟨fun k hmem => ?_, hsock, herror⟩
    rcases List.mem_append.mp hmem with hmem | hmem
    · exact hquiet _ hmem
    · cases List.mem_singleton.mp hmem

end

/-! ### One run -/

theorem connectAnswers_regular {nonce : Bytes} {r : HttpResponse} {reading : ℚ}
    (hr : ∀ e, r.data = .error e → e.isinstance .exception = true) (hreading : reading ≠ 0) :
    ∀ a ∈ connectAnswers nonce r reading, Regular a.1 a.2 := by
  simp only [connectAnswers, handshakeAnswers, requestAnswers, List.forall_mem_append,
    List.forall_mem_cons]
  simpa [Regular] using ⟨hr, hreading⟩

theorem freshAnswers_regular {reading : ℚ} (hreading : reading ≠ 0) :
    ∀ a ∈ freshAnswers reading, Regular a.1 a.2 := by
  simp only [freshAnswers, requestAnswers, List.forall_mem_append, List.forall_mem_cons]
  simpa [Regular] using hreading

theorem sampleRun_fresh :
    ∃ new, sampleSent.log = new ++ sampleConnected.log ∧
      (∀ later k between, new = later ++ .sent .application k :: between →
        ∃ after reading before, between = after ++ .checked reading :: before ∧
          ∀ r, lastAttested k (between ++ sampleConnected.log) = some r →
            reading - r ≤ sampleSettings.revalidationTimeout ∨ lastAttested k after = some r) ∧
      ∀ reading, .checked reading ∈ new →
        sampleSettings.revalidationTimeout < reading - sampleConnected.lastAttestationTime →
        (∀ sock t, .attested sock t ∉ new) →
        (∀ k, .sent .application k ∉ new) ∧ sampleSent.sock = none ∧
          ∃ ex, (.ok () : Except Exc Unit) = .error ex ∧
            ex.isinstance promptEncryptionError = true := by
  have h := Run.init (S := (connection sampleSettings).restrict fun _ e => e.Regular) (s := {}) rfl
  have h := run_call h .connect 1 _ sample_connect
    (connectAnswers_regular (fun _ he => by cases he) (by decide))
  exact request_fresh sampleSettings_ordinary h List.mem_cons_self
    (e := ⟨.request, 1, freshAnswers 2, .ok ()⟩) rfl (freshAnswers_regular (by decide)) sample_request

end PromptEncryption.Client
