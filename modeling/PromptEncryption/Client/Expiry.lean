import Mathlib.Tactic.Linarith
import PromptEncryption.Client.Attested
import PromptEncryption.Client.Freshness

/-!
# Client — tokens that expire before their sessions

`_should_revalidate` counts from the handshake (`DEFAULT_REVALIDATION_TIMEOUT`), a token's lifetime
from its `iat`, and the server serves a token until it is replaced near its 90 percent mark.  What is
done has a time (`Timeline`), read from one clock.

* `sent_before_expiry_in_margin`: a request is sent before the token of its socket's last handshake
  expires where the age of the token at the handshake, with the delay of the transmission after the last
  reading of the clock, stays under 300 seconds; and from any state where it does not, some request
  is sent under an expired token.
* `request_after_expiry`: a run, against a server that keeps its schedule, that sends under a token
  that expired 2800 seconds before.
-/

namespace PromptEncryption.Client
open Python Scripts Runs

/-! ### What was accepted, and when the clock was read -/

/-- The response `validate` accepted on the socket. -/
def Obs.validatedOn (k : Nat) : Obs → Option AttestConnectionResponse
  | .validated (some j) response _ => if j = k then some response else none
  | _ => none

/-- The reading of the last handshake that succeeded on the socket, and the response it accepted. -/
def lastAccepted (k : Nat) : List Obs → Option (ℚ × AttestConnectionResponse)
  | [] => none
  | .attested (some j) reading :: log =>
      if j = k then (log.findSome? (Obs.validatedOn k)).map (reading, ·) else lastAccepted k log
  | _ :: log => lastAccepted k log

def Obs.reading : Obs → Option ℚ
  | .attested _ reading => some reading
  | .checked reading => some reading
  | _ => none

def lastReading (log : List Obs) : Option ℚ := log.findSome? Obs.reading

/-- No exception strikes a handshake once its `validate` has returned. -/
def Undisturbed : (q : ConnQuestion) → ConnAnswer q → Prop
  | .strike (.validated _), a => a = none
  | _, _ => True

def Event.Undisturbed (e : Event) : Prop := ∀ a ∈ e.answers, Client.Undisturbed a.1 a.2

section
variable {k : Nat} {log : List Obs} {o : Obs} {v : ℚ}

theorem lastAttested_cons_of_ne (h : ∀ r, o ≠ .attested (some k) r) :
    lastAttested k (o :: log) = lastAttested k log := by
  have hnone : o.attestedOn k = none := by
    cases hr : o.attestedOn k with
    | none => rfl
    | some r => exact absurd (attestedOn_eq_some.mp hr) (h r)
  rw [lastAttested, List.findSome?_cons, hnone]
  rfl

theorem lastAttested_attested :
    lastAttested k (.attested (some k) v :: log) = some v := by
  rw [lastAttested, List.findSome?_cons, attestedOn_eq_some.mpr rfl]

theorem lastAccepted_cons_of_ne (h : ∀ r, o ≠ .attested (some k) r) :
    lastAccepted k (o :: log) = lastAccepted k log := by
  cases o with
  | attested sock r =>
      cases sock with
      | none => rfl
      | some j =>
          have hj : j ≠ k := fun he => h r (by rw [he])
          exact if_neg hj
  | _ => rfl

theorem lastAccepted_attested {response : AttestConnectionResponse} {tlsEkm : Bytes} :
    lastAccepted k (.attested (some k) v :: .validated (some k) response tlsEkm :: log) =
      some (v, response) := by
  have hfound : (Obs.validated (some k) response tlsEkm :: log).findSome? (Obs.validatedOn k) =
      some response := by
    rw [List.findSome?_cons, Obs.validatedOn, if_pos rfl]
  rw [lastAccepted, if_pos rfl, hfound]
  rfl

theorem lastAttested_of_lastAccepted {response : AttestConnectionResponse}
    (h : lastAccepted k log = some (v, response)) : lastAttested k log = some v := by
  induction log with
  | nil => cases h
  | cons o log ih =>
      by_cases ho : ∃ r, o = .attested (some k) r
      · obtain ⟨r, rfl⟩ := ho
        rw [lastAccepted, if_pos rfl, Option.map_eq_some_iff] at h
        obtain ⟨_, -, heq⟩ := h
        rw [lastAttested_attested, (Prod.mk.inj heq).1]
      · have hne : ∀ r, o ≠ .attested (some k) r := fun r hr => ho ⟨r, hr⟩
        rw [lastAccepted_cons_of_ne hne] at h
        rw [lastAttested_cons_of_ne hne]
        exact ih h

theorem lastReading_cons (h : o.reading = none) : lastReading (o :: log) = lastReading log := by
  rw [lastReading, List.findSome?_cons, h]
  rfl

theorem exists_lastReading (h : lastAttested k log = some v) : ∃ u, lastReading log = some u := by
  refine Option.isSome_iff_exists.mp (List.findSome?_isSome_iff.mpr ⟨_, lastAttested_mem h, rfl⟩)

end

/-! ### The invariant -/

/-- The last reading of the clock is within `T` of the recorded time. -/
def Within (T : ℚ) (s : Conn) : Prop :=
  ∀ u, lastReading s.log = some u → u - s.lastAttestationTime ≤ T

/-- An application request is sent within `T` of the socket's last handshake, as the clock was last
read. -/
def SentWithin (T : ℚ) (o : Obs) (log : List Obs) : Prop :=
  ∀ k, o = .sent .application k → ∀ v, lastAttested k log = some v →
    ∃ response u, lastAccepted k log = some (v, response) ∧ lastReading log = some u ∧ u - v ≤ T

/-- **The invariant.**  The recorded time is that of the last handshake on the socket held; and an
object whose last check failed checks again. -/
structure Aging (T : ℚ) (s : Conn) : Prop where
  known : ∀ k r, .attested (some k) r ∈ s.log → k < s.opened
  held : ∀ k, s.sock = some k → k < s.opened
  current : ∀ k v, s.sock = some k → lastAttested k s.log = some v → s.lastAttestationTime = v
  within : Within T s ∨ s.isAttested = true ∧ s.lastAttestationTime ≠ 0
  accepted : ∀ k v, lastAttested k s.log = some v →
    ∃ response, lastAccepted k s.log = some (v, response)
  sent : Always (SentWithin T) s.log

section
variable {P : Settings} {T : ℚ} {s : Conn}

/-- What is neither a handshake, a reading nor an application request. -/
theorem Aging.observe (h : Aging T s) {o : Obs} (hreading : o.reading = none)
    (hsent : SentWithin T o s.log) : Aging T (s.observe o) := by
  have hne : ∀ k r, o ≠ .attested (some k) r := by
    rintro k r rfl
    cases hreading
  refine ⟨fun k r hr => ?_, h.held, fun k v hk hv => ?_, ?_, fun k v hv => ?_, hsent, h.sent⟩
  · rcases List.mem_cons.mp hr with heq | hr
    · exact absurd heq.symm (hne k r)
    · exact h.known k r hr
  · exact h.current k v hk (by rwa [Conn.observe, lastAttested_cons_of_ne (hne k)] at hv)
  · refine h.within.imp_left fun hw u hu => hw u ?_
    rwa [Conn.observe, lastReading_cons hreading] at hu
  · rw [Conn.observe, lastAttested_cons_of_ne (hne k)] at hv
    rw [Conn.observe, lastAccepted_cons_of_ne (hne k)]
    exact h.accepted k v hv

theorem sentWithin_other {o : Obs} {log : List Obs} (h : ∀ k, o ≠ .sent .application k) :
    SentWithin T o log := fun k ho => absurd ho (h k)

theorem Aging.opens (h : Aging T s) : Aging T s.opens where
  known k r hr := Nat.lt_succ_of_lt (h.known k r hr)
  held k hk := by cases hk; exact Nat.lt_succ_self _
  current k v hk hv := by
    -- a handshake on the new socket would be on one not opened yet
    cases hk
    exact absurd (h.known _ v (lastAttested_mem hv)) (Nat.lt_irrefl _)
  within := h.within
  accepted := h.accepted
  sent := h.sent

theorem Aging.starts (h : Aging T s) : Aging T s.starts :=
  ⟨h.known, h.held, h.current, h.within, h.accepted, h.sent⟩

theorem Aging.shut (h : Aging T s) : Aging T s.shut :=
  ⟨h.known, fun _ hk => (by cases hk), fun _ _ hk => (by cases hk), h.within, h.accepted, h.sent⟩

theorem Aging.receives (h : Aging T s) (ends : Bool) : Aging T (s.receives ends) := by
  have hsock : ∀ k, (s.receives ends).sock = some k → s.sock = some k := by
    intro k hk
    cases ends with
    | true => cases hk
    | false => exact hk
  exact ⟨h.known, fun k hk => h.held k (hsock k hk), fun k v hk => h.current k v (hsock k hk),
    h.within, h.accepted, h.sent⟩

theorem Aging.marks (h : Aging T s) : Aging T s.marks :=
  ⟨h.known, h.held, h.current, h.within.imp_right fun h => ⟨rfl, h.2⟩, h.accepted, h.sent⟩

/-- A check is made of an object that will check again. -/
theorem Aging.checks (h : Aging T s) (hattested : s.isAttested = true)
    (htime : s.lastAttestationTime ≠ 0) (u : ℚ) : Aging T (s.observe (.checked u)) where
  known k r hr := by
    rcases List.mem_cons.mp hr with heq | hr
    · cases heq
    · exact h.known k r hr
  held := h.held
  current k v hk hv := h.current k v hk hv
  within := .inr ⟨hattested, htime⟩
  accepted k v hv := h.accepted k v hv
  sent := ⟨sentWithin_other fun _ ho => (by cases ho), h.sent⟩

/-- `validate` has just returned. -/
def Validated (T : ℚ) (s : Conn) : Prop :=
  ∃ s₀ response tlsEkm, Aging T s₀ ∧ s = s₀.observe (.validated s₀.sock response tlsEkm)

/-- **A handshake that returns** makes the recorded time current. -/
theorem Validated.attests (h : Validated T s) (hT : 0 ≤ T) (v : ℚ) :
    Aging T ((s.records v).observe (.attested s.sock v)) ∧
      Within T ((s.records v).observe (.attested s.sock v)) := by
  obtain ⟨s₀, response, tlsEkm, h₀, rfl⟩ := h
  have h₁ : Aging T (s₀.observe (.validated s₀.sock response tlsEkm)) :=
    h₀.observe rfl (sentWithin_other fun _ ho => (by cases ho))
  have hwithin : Within T (((s₀.observe (.validated s₀.sock response tlsEkm)).records v).observe
      (.attested s₀.sock v)) := by
    intro u hu
    obtain rfl : v = u := Option.some.inj hu
    simpa [Conn.records, Conn.observe] using hT
  refine ⟨⟨fun k r hr => ?_, h₁.held, fun k w hk hw => ?_, .inl hwithin, fun k w hw => ?_,
    sentWithin_other fun _ ho => (by cases ho), h₁.sent⟩, hwithin⟩
  · rcases List.mem_cons.mp hr with heq | hr
    · injection heq with hsock _
      exact h₁.held k hsock.symm
    · exact h₁.known k r hr
  · have hk' : s₀.sock = some k := hk
    change lastAttested k (.attested s₀.sock v :: _) = some w at hw
    rw [hk', lastAttested_attested] at hw
    exact Option.some.inj hw
  · change lastAttested k (.attested s₀.sock v :: _) = some w at hw
    change ∃ response', lastAccepted k (.attested s₀.sock v ::
      .validated s₀.sock response tlsEkm :: s₀.log) = some (w, response')
    by_cases hk : s₀.sock = some k
    · rw [hk, lastAttested_attested] at hw
      obtain rfl := Option.some.inj hw
      exact ⟨response, by rw [hk, lastAccepted_attested]⟩
    · -- a handshake on another socket, or on none
      have hne : ∀ r, Obs.attested s₀.sock v ≠ .attested (some k) r := by
        intro r heq
        injection heq with hsock _
        exact hk hsock
      rw [lastAttested_cons_of_ne hne] at hw
      obtain ⟨response', hr⟩ := h₁.accepted k w hw
      exact ⟨response', (lastAccepted_cons_of_ne hne).trans hr⟩

/-! ### What a call keeps -/

/-- The invariant, with the last reading within the timeout. -/
def Current (T : ℚ) (s : Conn) : Prop := Aging T s ∧ Within T s

variable {self_connect : Method Unit}

/-- What a `self.connect` does. -/
abbrev Connects (T : ℚ) (self_connect : Method Unit) : Prop :=
  ∀ s, Aging T s → Meets Undisturbed self_connect (fun _ => Current T) (fun _ => Aging T) s

theorem handshake_aging (hT : 0 ≤ T) {c : Caller} (hconnect : Connects T self_connect)
    (h : Aging T s) :
    Meets Undisturbed (performAttestationHandshake P c self_connect) (fun _ => Current T)
      (fun _ => Aging T) s := by
  refine performAttestationHandshake_meets (I := Aging T) (J := Aging T) (V := Validated T)
    (fun _ _ h _ => or_self_iff.mp h) (fun _ _ h _ => h.shut) (fun _ _ h _ => h) (fun _ _ h _ => h)
    (fun s body h => ?_)
    (fun s r ends e h _ _ => h.receives ends) (fun s r ends h _ => h.receives ends)
    (fun s nonce response tlsEkm h _ _ => ⟨s, response, tlsEkm, h, rfl⟩)
    (fun s e h he => by cases he) (fun s e v h _ he => by cases he)
    (fun s v h _ => h.attests hT v) h
  refine superRequest_meets (I := Aging T) (fun _ _ h _ => h) (fun _ _ h _ => h)
    (fun s h => h.starts) (fun s h _ => ?_) (fun s k h _ => ?_) (fun _ _ h _ => h) h
  · exact (hconnect s h).mono (fun _ _ h => h.1) fun _ _ h => h
  · exact h.observe rfl (sentWithin_other fun _ ho => (by cases ho))

theorem close_aging {c : Closer} {Φ : Unit → Conn → Prop} (hΦ : ∀ s, Aging T s → Φ () s)
    (h : Aging T s) : Meets Undisturbed (close c) Φ (fun _ => Aging T) s :=
  meets_close.mpr ⟨fun _ => ⟨fun _ => hΦ _ h.shut, fun _ _ => h.shut⟩, fun _ _ => h⟩

/-- A clause that closes the connection and raises. -/
theorem except_aging {c : Closer} {e : Exc} {caught : Prop} [Decidable caught]
    {Φ : Unit → Conn → Prop} (h : Aging T s) :
    if caught then Meets Undisturbed (close c >>= fun _ => lift (.error e)) Φ (fun _ => Aging T) s
    else Aging T s := by
  split
  · exact closing_meets (fun _ _ => h) (fun _ _ => h.shut) h.shut
  · exact h

theorem strikeAt_aging {p : Place} {Φ : Unit → Conn → Prop} (h : Aging T s) (hΦ : Φ () s) :
    Meets Undisturbed (strikeAt p) Φ (fun _ => Aging T) s :=
  meets_strikeAt.mpr ⟨fun _ => hΦ, fun _ _ => h⟩

theorem connect_aging (hT : 0 ≤ T) (depth : Nat) : Connects T (connect P depth) := by
  induction depth with
  | zero => exact fun s h => h
  | succ depth ih =>
      intro s h
      simp only [connect, connectWith, meets_bind]
      refine meets_superConnect.mpr ⟨fun _ => ⟨fun _ => ?_, fun _ _ => h.opens⟩, fun _ _ => h⟩
      refine meets_tryExcept.mpr ((handshake_aging hT ih h.opens).mono ?_ ?_)
      · rintro _ s ⟨haging, hwithin⟩
        refine strikeAt_aging haging (meets_modify.mpr (meets_observe.mpr ⟨?_, hwithin⟩))
        exact haging.marks.observe rfl (sentWithin_other fun _ ho => (by cases ho))
      · exact fun e s h => except_aging h

theorem revalidateSession_aging (hT : 0 ≤ T) (depth : Nat) (h : Aging T s) :
    Meets Undisturbed (revalidateSession P (connect P depth)) (fun _ => Current T)
      (fun _ => Aging T) s := by
  simp only [revalidateSession, meets_bind]
  refine strikeAt_aging h (meets_getState.mpr (meets_raiseIf.mpr ⟨fun _ => ?_, fun _ => h⟩))
  refine meets_tryExcept.mpr (meets_bind.mpr ?_)
  refine (handshake_aging hT (connect_aging hT depth) h).mono ?_ ?_
  · intro _ s h
    exact meets_strikeAt.mpr ⟨fun _ => h, fun e _ => except_aging h.1⟩
  · exact fun e s h => except_aging h

theorem revalidateIf_aging (hT : 0 ≤ T) (depth : Nat) {due : Bool} (h : Aging T s)
    (hfresh : due = false → Within T s) :
    Meets Undisturbed (revalidateIf P (connect P depth) due) (fun _ => Current T)
      (fun _ => Aging T) s := by
  cases due with
  | false => exact ⟨h, hfresh rfl⟩
  | true =>
      refine meets_bind.mpr (strikeAt_aging h (meets_tryExcept.mpr ?_))
      exact (revalidateSession_aging hT depth h).mono (fun _ _ h => h) fun e s h => except_aging h

/-- Where no revalidation is due, the last reading is within the timeout. -/
theorem revalidationDue_aging (h : Aging P.revalidationTimeout s) :
    Meets Undisturbed (revalidationDue P)
      (fun due s => Aging P.revalidationTimeout s ∧ (due = false → Within P.revalidationTimeout s))
      (fun _ => Aging P.revalidationTimeout) s := by
  refine meets_revalidationDue.mpr ⟨fun hno => ?_, fun hattested htime u _ => ?_⟩
  · exact ⟨h, fun _ => h.within.resolve_right hno⟩
  · refine ⟨h.checks hattested htime u, fun hdue w hw => ?_⟩
    obtain rfl : u = w := Option.some.inj hw
    exact Rat.not_lt.mp (of_decide_eq_false hdue)

/-- A request is sent within the timeout. -/
theorem Current.sent (h : Current T s) {k : Nat} (hk : s.sock = some k) :
    Aging T (s.observe (.sent .application k)) := by
  refine h.1.observe rfl ?_
  intro k' hsent v hv
  injection hsent with _ heq
  subst heq
  obtain ⟨response, hr⟩ := h.1.accepted k v hv
  obtain ⟨u, hu⟩ := exists_lastReading hv
  refine ⟨response, u, hr, hu, ?_⟩
  rw [← h.1.current k v hk hv]
  exact h.2 u hu

theorem request_aging (hT : 0 ≤ P.revalidationTimeout) (depth : Nat)
    (h : Aging P.revalidationTimeout s) :
    Meets Undisturbed (request P (connect P depth)) (fun _ => Aging P.revalidationTimeout)
      (fun _ => Aging P.revalidationTimeout) s := by
  refine meets_bind.mpr (strikeAt_aging h (meets_bind.mpr ?_))
  refine (revalidationDue_aging h).mono (fun due s h => ?_) fun _ _ h => h
  refine meets_bind.mpr ((revalidateIf_aging hT depth h.1 h.2).mono (fun _ s h => ?_)
    fun _ _ h => h)
  refine meets_bind.mpr (strikeAt_aging h.1 ?_)
  refine superRequest_meets (I := Current P.revalidationTimeout) (fun _ _ h _ => h.1)
    (fun _ _ h _ => h.1) (fun s h => ⟨h.1.starts, h.2⟩) (fun s h _ => ?_) (fun s k h hk => h.sent hk)
    (fun _ _ h _ => h) h
  exact connect_aging hT depth s h.1

theorem call_aging (hT : 0 ≤ P.revalidationTimeout) (depth : Nat) (call : Call)
    (h : Aging P.revalidationTimeout s) :
    Meets Undisturbed (call.method P depth) (fun _ => Aging P.revalidationTimeout)
      (fun _ => Aging P.revalidationTimeout) s := by
  cases call with
  | connect => exact (connect_aging hT depth s h).mono (fun _ _ h => h.1) fun _ _ h => h
  | request => exact request_aging hT depth h
  | revalidateSession =>
      exact (revalidateSession_aging hT depth h).mono (fun _ _ h => h.1) fun _ _ h => h
  | close => exact close_aging (fun _ h => h) h
  | response =>
      exact meets_bind.mpr (getresponse_meets
        (fun _ received _ => meets_pure.mpr (h.receives received.2)) (fun _ _ => h)
        fun _ _ _ _ _ => h.shut)
  | peerClose => exact h

/-- The invariant holds along every run. -/
theorem aging_of_run (hT : 0 ≤ P.revalidationTimeout) {es : List Event}
    (h : Run ((connection P).restrict fun _ e => e.Undisturbed) es s) :
    Aging P.revalidationTimeout s := by
  refine h.invariant_state (P := Aging P.revalidationTimeout) ?_ ?_
  · rintro s rfl
    exact ⟨fun _ _ hr => (by cases hr), fun _ hk => (by cases hk), fun _ _ hk => (by cases hk),
      .inl fun _ hu => (by cases hu), fun _ _ hv => (by cases hv), trivial⟩
  · rintro s e s' h ⟨hstep, hundisturbed⟩
    exact (call_aging hT e.depth e.call h).play_ends (Φ := fun _ => Aging P.revalidationTimeout)
      hundisturbed hstep

end

/-! ### Times -/

/-- What was done, with the time it was done at, the newest first. -/
abbrev Timeline := List (ℚ × Obs)

def Timeline.log (tl : Timeline) : List Obs := tl.map Prod.snd

/-- One clock: it does not go back, and a reading is of the time between what was done before and
what is done with it. -/
def Clocked : Timeline → Prop
  | [] => True
  | (t, o) :: tl => (∀ last ∈ tl.head?, last.1 ≤ t) ∧
      (∀ r, o.reading = some r → r ≤ t ∧ ∀ last ∈ tl.head?, last.1 ≤ r) ∧ Clocked tl

theorem freshAnswers_undisturbed {reading : ℚ} :
    ∀ a ∈ freshAnswers reading, Undisturbed a.1 a.2 := by
  simp only [freshAnswers, requestAnswers, List.forall_mem_append, List.forall_mem_cons]
  simp [Undisturbed]

section
variable (iat : AttestConnectionResponse → ℚ)

/-- The `exp` of the token in a response: its lifetime is 3600 seconds. -/
def exp (response : AttestConnectionResponse) : ℚ := iat response + 3600

/-- `TokenManager`'s schedule, and the OIDC check: a token is served from its `iat` to its 90 percent
mark less the jitter, whatever the jitter in the window, and is accepted before its `exp`. -/
def Served (window : ℚ) (tl : Timeline) : Prop :=
  ∀ t sock response tlsEkm, (t, .validated sock response tlsEkm) ∈ tl →
    iat response ≤ t ∧ t ≤ iat response + 3600 * (9 / 10) - window ∧ t < exp iat response

/-- At `t`, the token of the last handshake that succeeded on the socket has not expired. -/
def BeforeExpiry (t : ℚ) (k : Nat) (log : List Obs) : Prop :=
  ∀ v, lastAttested k log = some v →
    ∃ response, lastAccepted k log = some (v, response) ∧ t < exp iat response

/-- The age of that token at the handshake, and the time since the clock was last read, are under
300 seconds together. -/
def InMargin (t : ℚ) (k : Nat) (log : List Obs) : Prop :=
  ∀ v response u, lastAccepted k log = some (v, response) → lastReading log = some u →
    v - iat response + (t - u) < 300

variable {P : Settings} {s : Conn}

/-- **Tokens outlived by their sessions.**  Along every run with the default timeout, an application
request in the margin is sent before the token of its socket's last handshake expires; and in every
state reached with an attested socket whose token, at the last handshake, leaves no margin for a
delay, a request sent that long after its check is sent under an expired token. -/
theorem sent_before_expiry_in_margin (hT : P.revalidationTimeout = DEFAULT_REVALIDATION_TIMEOUT)
    {es : List Event} (h : Run ((connection P).restrict fun _ e => e.Undisturbed) es s)
    {tl : Timeline} (htl : tl.log = s.log) :
    (∀ later t k earlier, tl = later ++ (t, .sent .application k) :: earlier →
      InMargin iat t k (Timeline.log earlier) → BeforeExpiry iat t k (Timeline.log earlier)) ∧
    ∀ k v response delay, s.sock = some k → lastAccepted k s.log = some (v, response) →
      s.isAttested = true → v ≠ 0 → P.cannotSend s.http = false → Clocked tl →
      (∀ last ∈ tl.head?, last.1 ≤ v + 3300) → 0 ≤ delay → 300 ≤ v - iat response + delay →
      ∃ e s' earlier, Run ((connection P).restrict fun _ e => e.Undisturbed) (e :: es) s' ∧
        e.call = .request ∧
        s'.log = Timeline.log ((v + 3300 + delay, .sent .application k) :: earlier) ∧
        Clocked ((v + 3300 + delay, .sent .application k) :: earlier) ∧
        ¬ BeforeExpiry iat (v + 3300 + delay) k (Timeline.log earlier) := by
  have hT' : P.revalidationTimeout = 3300 := by
    rw [hT]
    norm_num [DEFAULT_REVALIDATION_TIMEOUT]
  have haging := aging_of_run (by rw [hT']; norm_num) h
  constructor
  · rintro later t k earlier rfl hmargin v hv
    have hlog : s.log = Timeline.log later ++ .sent .application k :: Timeline.log earlier := by
      rw [← htl]
      exact List.map_append
    obtain ⟨response, u, hr, hu, hle⟩ := always_iff.mp haging.sent _ _ _ hlog k rfl v hv
    refine ⟨response, hr, ?_⟩
    have hlt := hmargin v response u hr hu
    rw [hT'] at hle
    rw [exp]
    linarith
  · intro k v response delay hk haccepted hattested hv hstart hclock hlast hdelay hage
    have hlastAttested := lastAttested_of_lastAccepted haccepted
    have htime : s.lastAttestationTime = v := haging.current k v hk hlastAttested
    have hplay : play (request P (connect P 0)) s (freshAnswers (v + 3300)) = _ :=
      play_request hk hstart hattested (by rw [htime]; exact hv) (by rw [htime, hT']; linarith)
    have hlog : Timeline.log ((v + 3300, .checked (v + 3300)) :: tl) =
        .checked (v + 3300) :: s.log := congrArg _ htl
    refine ⟨⟨.request, 0, freshAnswers (v + 3300), .ok ()⟩, _,
      (v + 3300, .checked (v + 3300)) :: tl, h.step ⟨hplay, freshAnswers_undisturbed⟩, rfl,
      (congrArg _ hlog).symm, ⟨?_, fun _ hr => (by cases hr), hlast, ?_, hclock⟩, fun hb => ?_⟩
    · rintro last ⟨⟩
      linarith
    · intro r hr
      cases hr
      exact ⟨le_refl _, hlast⟩
    · -- the token is still the one the last handshake accepted
      rw [hlog] at hb
      obtain ⟨response', hr, hlt⟩ := hb v hlastAttested
      obtain rfl : response = response' :=
        (Prod.mk.inj (Option.some.inj (haccepted.symm.trans hr))).2
      rw [exp] at hlt
      linarith

end

/-! ### Two requests -/

/-- The connection after a `connect()` at the reading `v`. -/
def connectedAt (v : ℚ) : Conn :=
  ((Conn.opens {}).attests 0 (sampleSettings.J.requestToJson (attestationRequest sampleNonce))
    sampleResponse [] v).marks.observe .connected

/-- What is done in a `connect()` at `v`, and in a `request()` at `u`. -/
def connectedThenSent (v u : ℚ) : Timeline :=
  [(u, .sent .application 0), (u, .checked u), (v, .connected), (v, .attested (some 0) v),
    (v, .validated (some 0) sampleResponse []),
    (v, .sent (.attestation (sampleSettings.J.requestToJson (attestationRequest sampleNonce))) 0)]

theorem connectAnswers_undisturbed {nonce : Bytes} {r : HttpResponse} {reading : ℚ} :
    ∀ a ∈ connectAnswers nonce r reading, Undisturbed a.1 a.2 := by
  simp only [connectAnswers, handshakeAnswers, requestAnswers, List.forall_mem_append,
    List.forall_mem_cons]
  simp [Undisturbed]

/-- A `connect()`, and a `request()` that finds its session fresh. -/
theorem connectedThenSent_run {v u : ℚ} (hv : v ≠ 0) (hfresh : u - v ≤ 3300) : ∃ es s,
    Run ((connection sampleSettings).restrict fun _ e => e.Undisturbed) es s ∧
      (connectedThenSent v u).log = s.log := by
  have hconnect : play (connect sampleSettings 1) {}
      (connectAnswers sampleNonce ⟨.ok [], 200, none⟩ v) = some (.ok (), connectedAt v) :=
    play_connect rfl rfl rfl sampleResponse_valid
  have hrequest : play (request sampleSettings (connect sampleSettings 1)) (connectedAt v)
      (freshAnswers u) = some (.ok (),
        ((connectedAt v).observe (.checked u)).starts.observe (.sent .application 0)) :=
    play_request rfl rfl rfl hv hfresh
  have h := Run.init (S := (connection sampleSettings).restrict fun _ e => e.Undisturbed)
    (s := {}) rfl
  have h := run_call h .connect 1 _ hconnect connectAnswers_undisturbed
  have h := run_call h .request 1 _ hrequest freshAnswers_undisturbed
  exact ⟨_, _, h, rfl⟩

theorem connectedThenSent_clocked {v u : ℚ} (h : v ≤ u) : Clocked (connectedThenSent v u) := by
  simp [connectedThenSent, Clocked, Obs.reading, h]

/-- A token fetched at 0 is accepted at 3100, and a request is sent under it at 6400. -/
theorem request_after_expiry : ∃ es s tl t k earlier,
    Run ((connection sampleSettings).restrict fun _ e => e.Undisturbed) es s ∧
    sampleSettings.revalidationTimeout = DEFAULT_REVALIDATION_TIMEOUT ∧
    Timeline.log tl = s.log ∧ Clocked tl ∧ Served (fun _ => 0) 60 tl ∧
    tl = (t, .sent .application k) :: earlier ∧
    ¬ BeforeExpiry (fun _ => 0) t k (Timeline.log earlier) := by
  obtain ⟨es, s, h, hlog⟩ :=
    connectedThenSent_run (v := 3100) (u := 6400) (by norm_num) (by norm_num)
  refine ⟨es, s, _, _, _, _, h, rfl, hlog, connectedThenSent_clocked (by norm_num), ?_, rfl, ?_⟩
  · intro t sock response tlsEkm hmem
    have ht : t = 3100 ∧ sock = some 0 ∧ response = sampleResponse ∧ tlsEkm = [] := by
      simpa [connectedThenSent] using hmem
    rw [ht.1]
    norm_num [exp]
  · intro hb
    obtain ⟨response, -, hlt⟩ := hb 3100 rfl
    norm_num [exp] at hlt

/-- The same connection, with a token fetched at 3000. -/
theorem request_before_expiry : ∃ es s, Run ((connection sampleSettings).restrict
    fun _ e => e.Undisturbed) es s ∧ (connectedThenSent 3100 6400).log = s.log ∧
    BeforeExpiry (fun _ => 3000) 6400 0 (Timeline.log (connectedThenSent 3100 6400).tail) := by
  obtain ⟨es, s, h, hlog⟩ :=
    connectedThenSent_run (v := 3100) (u := 6400) (by norm_num) (by norm_num)
  refine ⟨es, s, h, hlog,
    (sent_before_expiry_in_margin (fun _ => 3000) rfl h hlog).1 [] 6400 0 _ rfl ?_⟩
  intro v response u hv hu
  cases hv
  cases hu
  norm_num

end PromptEncryption.Client
