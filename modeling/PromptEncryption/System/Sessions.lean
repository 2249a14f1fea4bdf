import PromptEncryption.Client.Roles
import PromptEncryption.Server.Coroutines
import PromptEncryption.System.Handshake

/-!
# System — the two ends of a session

The event loop of an ASGI server, and the clients of its TLS sessions (`Service.system`).  A client
plays its part (`Client.Move`): it sends an attestation request, accepts the response in the reply of
the coroutine that handles it, and then sends application requests, or attests again.  Beside them
any other requests arrive, on any session, and the coroutines run from one `await` to the next in any
order.

Of the wire is assumed that a client reads what the coroutine of its request replies, as soon as it is
being sent, and that the coroutine reads what the client sent.

* `sessions_agree`: a session that its client takes for attested is attested at the server, and the
  client has accepted what `attest_connection` returned for its nonce on that session.
* `attested_served`: every application request of such a client comes to the application.
-/

namespace PromptEncryption
open Python Programs Server Client Runs

/-! ### The sessions -/

/-- What the two ends of the sessions are given. -/
structure Service (Sock : Type) where
  J : JsonFormat
  reprExc : Exc → String
  /-- The client's validator on a session. -/
  validator : Sock → AttestationValidator
  /-- The exporter, at the client's socket of a session. -/
  ekmExporter : Sock → Nat → Bytes → Bytes → Except Exc Bytes

structure Sessions (Sock : Type) where
  loop : EventLoop Sock
  /-- The client of a session. -/
  client : Sock → Client.Phase
  /-- The coroutine that handles its attestation request. -/
  handler : Sock → Nat

inductive SessionEvent (Sock : Type) where
  /-- The event loop, at any request. -/
  | server (e : AwaitEvent Sock)
  /-- A client sends an attestation request. -/
  | starts (t : Sock) (k : Nat) (nonce : Bytes)
  /-- A client accepts the response. -/
  | accepts (t : Sock) (response : AttestConnectionResponse)
  /-- A client sends an application request. -/
  | requests (t : Sock) (k : Nat) (path : String)

section
variable {Sock : Type}

/-- The attestation request of the client of `t`, as it arrives. -/
def attestArrival (t : Sock) : Arrival Sock := ⟨some t, .http, ATTESTATION_ENDPOINT⟩

/-- The coroutine is sending the reply, or has sent it. -/
def Server.Coroutine.Replies (c : Coroutine Sock) (r : Reply) : Prop :=
  c = .ended (.reply r) ∨ ∃ inside, c = .replying r inside

/-- What the coroutine of a client's request reads is what that client sent. -/
def Carried (J : JsonFormat) (s : Sessions Sock) : AwaitEvent Sock → Prop
  | .settled k _ (.ok body) _ => ∀ t nonce, s.client t = .waiting nonce → s.handler t = k →
      body = J.requestToJson (attestationRequest nonce)
  | _ => True

/-- The moves of the client of `t`. -/
abbrev Service.Moves (N : Service Sock) (t : Sock) :
    Client.Phase → ClientAct → Client.Phase → Prop :=
  Move (N.validator t) (N.ekmExporter t)

/-- The client finds the response in the reply. -/
def Service.Reads (N : Service Sock) (r : Reply) (response : AttestConnectionResponse) : Prop :=
  processAttestationResponse N.J (replyToHttp N.J N.reprExc r) = .ok response

variable [DecidableEq Sock] (N : Service Sock)

inductive SessionStep : Sessions Sock → SessionEvent Sock → Sessions Sock → Prop where
  | server {s e loop} : LoopStep N.J s.loop e loop → Carried N.J s e →
      SessionStep s (.server e) { s with loop := loop }
  | starts {s t k nonce ph loop} : N.Moves t (s.client t) (.sends nonce) ph →
      LoopStep N.J s.loop (.called k (attestArrival t)) loop →
      SessionStep s (.starts t k nonce)
        ⟨loop, Function.update s.client t ph, Function.update s.handler t k⟩
  | accepts {s t c r response ph} : N.Moves t (s.client t) (.accepts response) ph →
      s.loop.task (s.handler t) = some c → c.Replies r → N.Reads r response →
      SessionStep s (.accepts t response) { s with client := Function.update s.client t ph }
  | requests {s t k path ph loop} : N.Moves t (s.client t) .requests ph → path ≠ ATTESTATION_ENDPOINT →
      LoopStep N.J s.loop (.called k ⟨some t, .http, path⟩) loop →
      SessionStep s (.requests t k path) ⟨loop, Function.update s.client t ph, s.handler⟩

/-- The sessions of a server, from its start. -/
def Service.system : System (Sessions Sock) (SessionEvent Sock) where
  init s := (s.loop.attested = [] ∧ s.loop.task = fun _ => none) ∧ s.client = fun _ => .idle
  step := SessionStep N

end

/-! ### What a coroutine may reply -/

section
variable {Sock : Type} {t : Sock} {c : Coroutine Sock} {G G' : Reply → Prop}

/-- The coroutine is the one of an attestation request on `t`, and is not to reply with status 200 but
as `G` says. -/
def Server.Coroutine.Promises (t : Sock) (G : Reply → Prop) : Coroutine Sock → Prop
  | .reading a _ => a = attestArrival t
  | .replying r _ => r.status = 200 → G r
  | .inApp => False
  | .ended (.reply r) => r.status = 200 → G r
  | .ended _ => True

theorem Server.Coroutine.Promises.mono (h : c.Promises t G) (hG : ∀ r, G r → G' r) :
    c.Promises t G' := by
  match c, h with
  | .reading _ _, h => exact h
  | .replying r _, h => exact fun hr => hG r (h hr)
  | .ended (.reply r), h => exact fun hr => hG r (h hr)
  | .ended (.raised _), _ => exact trivial
  | .ended .app, _ => exact trivial

theorem Server.Coroutine.Promises.reply (h : c.Promises t G) {r : Reply} (hr : c.Replies r)
    (hstatus : r.status = 200) : G r := by
  rcases hr with rfl | ⟨inside, rfl⟩
  · exact h hstatus
  · exact h hstatus

theorem Server.Coroutine.promises_fails (e : Exc) :
    (Coroutine.fails e : Coroutine Sock).Promises t G := by
  rw [Coroutine.fails]
  split
  · intro hstatus
    dsimp only at hstatus
    split at hstatus <;> cases hstatus
  · exact trivial

theorem Server.Coroutine.promises_afterSend {r : Reply} {inside : Bool} (h : r.status = 200 → G r)
    (x : Option Exc) : (Coroutine.afterSend r inside x : Coroutine Sock).Promises t G := by
  cases x with
  | none => exact h
  | some e =>
      cases inside with
      | false => exact trivial
      | true => exact Coroutine.promises_fails e

end

/-! ### An attestation that succeeds -/

section
variable {Sock : Type} [DecidableEq Sock] {J : JsonFormat} {t : Sock} {attested : List Sock}
  {nonce : Bytes} {attest : AttestConnection Sock} {response : AttestConnectionResponse}

theorem Server.Coroutine.begin_attestArrival :
    Coroutine.begin attested (attestArrival t) = .reading (attestArrival t) [] := by
  have hfor : (attestArrival t).ForAttestation := ⟨rfl, rfl⟩
  rw [Coroutine.begin, if_neg (not_not.mpr hfor.1), if_pos hfor.2]

omit [DecidableEq Sock] in
theorem Server.Coroutine.settle_attestArrival (hJ : J.Inverse (attestationRequest nonce) response)
    (hattest : attest (attestationRequest nonce) t = .ok response) :
    Coroutine.settle J attested (attestArrival t)
        (.ok (J.requestToJson (attestationRequest nonce))) attest =
      (.replying ⟨200, .message (J.responseToDict response)⟩ true, t :: attested) := by
  have h : asgiAttest J ((attestArrival t).dispatch (.ok (J.requestToJson (attestationRequest nonce)))
      attest fun _ => none).scope = .ok (t, response) :=
    asgiAttest_eq_ok.mpr ⟨rfl, _, _, rfl, parseAttestRequest_eq hJ, hattest⟩
  rw [Coroutine.settle, h]

/-- The coroutine that reads a client's request comes to the reply with the response. -/
theorem Server.LoopStep.answers {loop : EventLoop Sock} {k : Nat}
    (hk : loop.task k = some (.reading (attestArrival t) []))
    (hJ : J.Inverse (attestationRequest nonce) response)
    (hattest : attest (attestationRequest nonce) t = .ok response) :
    LoopStep J loop
      (.settled k (attestArrival t) (.ok (J.requestToJson (attestationRequest nonce))) attest)
      { loop.moves k (.replying ⟨200, .message (J.responseToDict response)⟩ true) with
        attested := t :: loop.attested } := by
  have h : LoopStep J loop (.settled k (attestArrival t)
      (.ok ([] ++ J.requestToJson (attestationRequest nonce))) attest) _ := .completed hk
  rw [List.nil_append, Coroutine.settle_attestArrival hJ hattest] at h
  exact h

end

/-! ### What a step keeps -/

section
variable {Sock : Type} {N : Service Sock}
variable {es : List (SessionEvent Sock)} {s s' : Sessions Sock} {t : Sock} {nonce : Bytes} {r : Reply}

/-- `attest_connection` has returned the response of `r`, on the session `t`, for what its client sent
with `nonce`. -/
def Service.Answered (N : Service Sock) (es : List (SessionEvent Sock)) (t : Sock) (nonce : Bytes)
    (r : Reply) : Prop :=
  ∃ k attest request response,
    .server (.settled k (attestArrival t)
        (.ok (N.J.requestToJson (attestationRequest nonce))) attest) ∈ es ∧
      parseAttestRequest N.J (N.J.requestToJson (attestationRequest nonce)) = .ok request ∧
      attest request t = .ok response ∧ r = ⟨200, .message (N.J.responseToDict response)⟩

/-- The session is attested, and the reply is of an answer on it. -/
def Service.Granted (N : Service Sock) (es : List (SessionEvent Sock)) (loop : EventLoop Sock)
    (t : Sock) (nonce : Bytes) (r : Reply) : Prop :=
  t ∈ loop.attested ∧ N.Answered es t nonce r

theorem Service.Granted.later {loop loop' : EventLoop Sock} (h : N.Granted es loop t nonce r)
    (hloop : loop.attested ⊆ loop'.attested) (e : SessionEvent Sock) :
    N.Granted (e :: es) loop' t nonce r := by
  obtain ⟨hmem, k, attest, request, response, hsettled, hrest⟩ := h
  exact ⟨hloop hmem, k, attest, request, response, List.mem_cons_of_mem _ hsettled, hrest⟩

variable [DecidableEq Sock]

/-- No step of the event loop ends a session's attestation. -/
theorem Server.LoopStep.attested_subset {J : JsonFormat} {loop loop' : EventLoop Sock}
    {e : AwaitEvent Sock} (h : LoopStep J loop e loop') : loop.attested ⊆ loop'.attested := by
  have hsettle : ∀ (a : Arrival Sock) (body : Except Exc Bytes) (attest : AttestConnection Sock),
      loop.attested ⊆ (Coroutine.settle J loop.attested a body attest).2 := by
    intro a body attest
    rw [Coroutine.settle]
    split
    · exact List.subset_cons_self _ _
    · exact List.Subset.refl _
  cases h with
  | called _ => exact List.Subset.refl _
  | received _ => exact List.Subset.refl _
  | completed _ => exact hsettle _ _ _
  | failed _ => exact hsettle _ _ _
  | sent _ => exact List.Subset.refl _

/-- A coroutine in the application stays there. -/
theorem Server.LoopStep.inApp {J : JsonFormat} {loop loop' : EventLoop Sock} {e : AwaitEvent Sock}
    (h : LoopStep J loop e loop') {k : Nat} (hk : loop.task k = some .inApp) :
    loop'.task k = some .inApp := by
  have hother : ∀ {j c c'}, loop.task j = c' → c' ≠ some .inApp →
      (loop.moves j c).task k = some .inApp := by
    intro j c c' hj hne
    have hkj : k ≠ j := fun hkj => hne (hj.symm.trans (hkj ▸ hk))
    exact (EventLoop.moves_of_ne hkj).trans hk
  cases h with
  | called hj => exact hother hj (by simp)
  | received hj => exact hother hj (by simp)
  | completed hj => exact hother hj (by simp)
  | failed hj => exact hother hj (by simp)
  | sent hj => exact hother hj (by simp)

/-- **The coroutine of a client's request** replies with status 200 only where it has attested the
session. -/
theorem Server.LoopStep.promises {loop loop' : EventLoop Sock} {e : AwaitEvent Sock}
    (h : LoopStep N.J loop e loop') {k : Nat} {c : Coroutine Sock} (hk : loop.task k = some c)
    (hc : c.Promises t (N.Granted es loop t nonce))
    (hcarried : ∀ a body attest, e = .settled k a (.ok body) attest →
      body = N.J.requestToJson (attestationRequest nonce)) {ev : SessionEvent Sock}
    (hev : ∀ a body attest, e = .settled k a body attest → ev = .server e) :
    ∃ c', loop'.task k = some c' ∧ c'.Promises t (N.Granted (ev :: es) loop' t nonce) := by
  have hsub : loop.attested ⊆ loop'.attested := h.attested_subset
  have hlater : c.Promises t (N.Granted (ev :: es) loop' t nonce) :=
    hc.mono fun r hr => hr.later hsub _
  have hsettle : ∀ {a body attest}, e = .settled k a body attest → a = attestArrival t →
      loop'.attested = (Coroutine.settle N.J loop.attested a body attest).2 →
      (Coroutine.settle N.J loop.attested a body attest).1.Promises t
        (N.Granted (ev :: es) loop' t nonce) := by
    rintro a body attest rfl rfl hattested
    obtain rfl := hev _ _ _ rfl
    cases hattest : asgiAttest N.J ((attestArrival t).dispatch body attest fun _ => none).scope with
    | error x =>
        rw [Coroutine.settle, hattest]
        exact Coroutine.promises_fails x
    | ok x =>
        obtain ⟨t', response⟩ := x
        obtain ⟨ht, bytes, request, hbody, hparse, hresponse⟩ := asgiAttest_eq_ok.mp hattest
        cases ht
        cases hbody
        rw [Coroutine.settle, hattest] at hattested ⊢
        intro _
        refine ⟨hattested ▸ List.mem_cons_self, k, attest, request, response, ?_, ?_, hresponse, rfl⟩
        · rw [hcarried _ _ _ rfl]
          exact List.mem_cons_self
        · rw [← hcarried _ _ _ rfl]
          exact hparse
  -- another coroutine takes the step
  have hother : ∀ {j c'}, j ≠ k → (loop.moves j c').task k = some c := fun hne =>
    (EventLoop.moves_of_ne fun hkj => hne hkj.symm).trans hk
  cases h with
  | @called j a hj =>
      have hne : j ≠ k := fun hjk => by cases hj.symm.trans (hjk ▸ hk)
      exact ⟨c, hother hne, hlater⟩
  | @received j a body part hj =>
      by_cases hjk : j = k
      · subst hjk
        cases hj.symm.trans hk
        exact ⟨_, EventLoop.moves_self, hc⟩
      · exact ⟨c, hother hjk, hlater⟩
  | @completed j a body part attest hj =>
      by_cases hjk : j = k
      · subst hjk
        cases hj.symm.trans hk
        exact ⟨_, EventLoop.moves_self, hsettle rfl hc rfl⟩
      · exact ⟨c, hother hjk, hlater⟩
  | @failed j a body x attest hj =>
      by_cases hjk : j = k
      · subst hjk
        cases hj.symm.trans hk
        exact ⟨_, EventLoop.moves_self, hsettle rfl hc rfl⟩
      · exact ⟨c, hother hjk, hlater⟩
  | @sent j r inside x hj =>
      by_cases hjk : j = k
      · subst hjk
        cases hj.symm.trans hk
        exact ⟨_, EventLoop.moves_self, Coroutine.promises_afterSend hlater x⟩
      · exact ⟨c, hother hjk, hlater⟩

/-! ### Every run -/

/-- The reply to a client's request and what the client has accepted are as the server has granted
them, and the application requests have come to the application. -/
structure Agreed (N : Service Sock) (es : List (SessionEvent Sock)) (s : Sessions Sock) : Prop where
  waiting : ∀ {t nonce}, s.client t = .waiting nonce → (∃ j, .starts t j nonce ∈ es) ∧
    ∃ c, s.loop.task (s.handler t) = some c ∧ c.Promises t (N.Granted es s.loop t nonce)
  attested : ∀ {t nonce response}, s.client t = .attested nonce response →
    (∃ j, .starts t j nonce ∈ es) ∧ ∃ r, N.Granted es s.loop t nonce r ∧ N.Reads r response
  served : ∀ {t k path}, .requests t k path ∈ es → s.loop.task k = some .inApp

/-- Only a reply with status 200 is accepted. -/
theorem status_of_processed {J : JsonFormat} {reprExc : Exc → String} {r : Reply}
    {response : AttestConnectionResponse}
    (h : processAttestationResponse J (replyToHttp J reprExc r) = .ok response) : r.status = 200 := by
  rw [processAttestationResponse, wrapAs_eq_ok] at h
  obtain ⟨body, -, h⟩ := bind_eq_ok.mp h
  obtain ⟨u, hstatus, -⟩ := bind_eq_ok.mp h
  exact not_not.mp (raiseIf_eq_ok.mp hstatus)

/-- The event loop takes a step, which is all of the event or part of it. -/
theorem Agreed.loop (h : Agreed N es s) {e : AwaitEvent Sock} {loop : EventLoop Sock}
    (hloop : LoopStep N.J s.loop e loop) (hcarried : Carried N.J s e) {ev : SessionEvent Sock}
    (hev : ∀ k a body attest, e = .settled k a body attest → ev = .server e)
    (hserved : ∀ t k path, ev = .requests t k path → loop.task k = some .inApp) :
    Agreed N (ev :: es) { s with loop := loop } where
  waiting {t nonce} hwaiting := by
    obtain ⟨⟨j, hj⟩, c, hk, hc⟩ := h.waiting hwaiting
    refine ⟨⟨j, List.mem_cons_of_mem _ hj⟩, hloop.promises hk hc ?_ (hev _)⟩
    rintro a body attest rfl
    exact hcarried t nonce hwaiting rfl
  attested hattested := by
    obtain ⟨⟨j, hj⟩, r, hgranted, hprocess⟩ := h.attested hattested
    exact ⟨⟨j, List.mem_cons_of_mem _ hj⟩, r, hgranted.later hloop.attested_subset _, hprocess⟩
  served hmem := by
    rcases List.mem_cons.mp hmem with heq | hmem
    · exact hserved _ _ _ heq.symm
    · exact hloop.inApp (h.served hmem)

omit [DecidableEq Sock] in
/-- The event loop takes no step. -/
theorem Agreed.idle (h : Agreed N es s) {ev : SessionEvent Sock}
    (hev : ∀ t k path, ev ≠ .requests t k path) : Agreed N (ev :: es) s where
  waiting hwaiting := by
    obtain ⟨⟨j, hj⟩, c, hk, hc⟩ := h.waiting hwaiting
    exact ⟨⟨j, List.mem_cons_of_mem _ hj⟩, c, hk,
      hc.mono fun r hr => hr.later (List.Subset.refl _) ev⟩
  attested hattested := by
    obtain ⟨⟨j, hj⟩, r, hgranted, hprocess⟩ := h.attested hattested
    exact ⟨⟨j, List.mem_cons_of_mem _ hj⟩, r, hgranted.later (List.Subset.refl _) ev, hprocess⟩
  served hmem := by
    rcases List.mem_cons.mp hmem with heq | hmem
    · exact absurd heq.symm (hev _ _ _)
    · exact h.served hmem

/-- A client goes on to the phase `ph`, the others stay. -/
theorem Agreed.client (h : Agreed N es s) {ph : Client.Phase} {handler : Sock → Nat}
    (hhandler : ∀ u, u ≠ t → handler u = s.handler u)
    (hwaiting : ∀ nonce, ph = .waiting nonce → (∃ j, .starts t j nonce ∈ es) ∧
      ∃ c, s.loop.task (handler t) = some c ∧ c.Promises t (N.Granted es s.loop t nonce))
    (hattested : ∀ nonce response, ph = .attested nonce response → (∃ j, .starts t j nonce ∈ es) ∧
      ∃ r, N.Granted es s.loop t nonce r ∧ N.Reads r response) :
    Agreed N es ⟨s.loop, Function.update s.client t ph, handler⟩ where
  waiting {u nonce} hu := by
    by_cases hut : u = t
    · subst hut
      exact hwaiting nonce ((Function.update_self ..).symm.trans hu)
    · obtain ⟨hj, c, hk, hc⟩ := h.waiting ((Function.update_of_ne hut ..).symm.trans hu)
      exact ⟨hj, c, (congrArg s.loop.task (hhandler u hut)).trans hk, hc⟩
  attested {u nonce response} hu := by
    by_cases hut : u = t
    · subst hut
      exact hattested nonce response ((Function.update_self ..).symm.trans hu)
    · exact h.attested ((Function.update_of_ne hut ..).symm.trans hu)
  served := h.served

/-- **The step lemma of the sessions.** -/
theorem Agreed.step {e : SessionEvent Sock} (h : Agreed N es s) (hst : SessionStep N s e s') :
    Agreed N (e :: es) s' := by
  cases hst with
  | server hloop hcarried =>
      exact h.loop hloop hcarried (fun _ _ _ _ _ => rfl) fun _ _ _ heq => by cases heq
  | @starts t k nonce ph loop hmove hloop =>
      have hloop' : Agreed N (.starts t k nonce :: es) { s with loop := loop } :=
        h.loop hloop trivial (fun _ _ _ _ heq => by cases heq) fun _ _ _ heq => by cases heq
      obtain rfl := hmove.of_sends
      refine hloop'.client (fun u hu => Function.update_of_ne hu _ _) ?_ fun _ _ heq => by cases heq
      rintro _ ⟨⟩
      refine ⟨⟨k, List.mem_cons_self⟩, ?_⟩
      rw [Function.update_self]
      cases hloop with
      | called _ => exact ⟨_, EventLoop.moves_self, rfl⟩
  | @accepts t c r response ph hmove hk hreplies hreads =>
      obtain ⟨nonce, hph, rfl⟩ := hmove.of_accepts
      refine (h.idle fun _ _ _ heq => by cases heq).client (fun _ _ => rfl)
        (fun _ heq => by cases heq) ?_
      rintro _ _ ⟨⟩
      obtain ⟨⟨j, hj⟩, c', hk', hc⟩ := h.waiting hph
      cases hk.symm.trans hk'
      have hgranted := hc.reply hreplies (status_of_processed hreads)
      exact ⟨⟨j, List.mem_cons_of_mem _ hj⟩, r, hgranted.later (List.Subset.refl _) _, hreads⟩
  | @requests t k path ph loop hmove hpath hloop =>
      obtain ⟨⟨nonce, response, hph⟩, rfl⟩ := hmove.of_requests
      obtain ⟨-, r, ⟨hmem, -⟩, -⟩ := h.attested hph
      have hloop' : Agreed N (.requests t k path :: es) { s with loop := loop } := by
        refine h.loop hloop trivial (fun _ _ _ _ heq => by cases heq) ?_
        rintro _ _ _ ⟨⟩
        cases hloop with
        | called _ =>
            rw [EventLoop.moves_self, Option.some_inj, Coroutine.begin_inApp_iff]
            exact .inr ⟨hpath, t, rfl, hmem⟩
      exact hloop'.client (fun _ _ => rfl) (fun _ heq => hloop'.waiting heq)
        fun _ _ heq => hloop'.attested heq

theorem agreed (h : Run N.system es s) : Agreed N es s := by
  refine h.invariant ?_ fun es s e s' _ hs hst => hs.step hst
  rintro s ⟨-, hclient⟩
  refine ⟨fun {t nonce} h => ?_, fun {t nonce response} h => ?_, fun h => by cases h⟩
  · rw [hclient] at h
    cases h
  · rw [hclient] at h
    cases h

/-- What one end encodes in the run the other decodes. -/
structure Service.Decodes (N : Service Sock) (es : List (SessionEvent Sock)) : Prop where
  request : ∀ t k nonce, .starts t k nonce ∈ es →
    parseAttestRequest N.J (N.J.requestToJson (attestationRequest nonce)) =
      .ok (attestationRequest nonce)
  response : ∀ t k nonce, .starts t k nonce ∈ es → ∀ j body attest response,
    .server (.settled j (attestArrival t) (.ok body) attest) ∈ es →
      attest (attestationRequest nonce) t = .ok response →
      N.J.Inverse (attestationRequest nonce) response

/-- **The two ends agree.**  In every run, a session that its client takes for attested is attested at
the server, and the response the client has accepted is the one `attest_connection` returned there, on
that session and for the client's own nonce. -/
theorem sessions_agree (h : Run N.system es s) (hJ : N.Decodes es) {response : AttestConnectionResponse}
    (hclient : s.client t = .attested nonce response) :
    t ∈ s.loop.attested ∧ ∃ k attest, .server (.settled k (attestArrival t)
      (.ok (N.J.requestToJson (attestationRequest nonce))) attest) ∈ es ∧
        attest (attestationRequest nonce) t = .ok response := by
  obtain ⟨⟨j, hj⟩, r, ⟨hmem, k, attest, request, answer, hsettled, hparse, hattest, rfl⟩, hprocess⟩ :=
    (agreed h).attested hclient
  cases (hJ.request t j nonce hj).symm.trans hparse
  have hinv := hJ.response t j nonce hj k _ attest answer hsettled hattest
  cases (processAttestationResponse_reply hinv N.reprExc).symm.trans hprocess
  exact ⟨hmem, k, attest, hsettled, hattest⟩

/-- **No attested client is refused.**  In every run, the coroutine of every application request that a
client sent on a session it took for attested is in the application. -/
theorem attested_served (h : Run N.system es s) {k : Nat} {path : String}
    (hrequest : .requests t k path ∈ es) : s.loop.task k = some .inApp :=
  (agreed h).served hrequest

end

/-! ### A session of the toy libraries -/

def toySite : Service Nat where
  J := toyFormat
  reprExc _ := ""
  validator _ := toyValidator
  ekmExporter _ length label context := .ok (toyTls length label context)

/-- `attest_connection` of a server with the keys and the token numbered 48. -/
def toyAttestConnection : AttestConnection Nat :=
  attestOn (toyAttempt 48 true) (fun _ => toySslObj) toyStore

/-- The server's reply to the request for `toyNonce`. -/
def toyReply : Reply := ⟨200, .message toyResponseDict⟩

theorem toyAttestConnection_returns (t : Nat) :
    toyAttestConnection (attestationRequest toyNonce) t = .ok (toyResponse 48 48) := by
  have ht : (⟨[], ⟨toyEcdsa 48, toyMldsa 48, [84, 48]⟩,
      (toyEcdsa 48).priv ++ signedPayload [] [84, 48], (toyMldsa 48).priv ++ signedPayload [] [84, 48],
      "T0"⟩ : Transcript).Of (toyAttempt 48 true) (attestationRequest toyNonce) toySslObj toyStore :=
    ⟨⟨by simp [attestationRequest], by simp [attestationRequest]⟩, rfl, fun _ => rfl, rfl, rfl, rfl,
      rfl, rfl, rfl, rfl, rfl⟩
  have heval : evalBody (toyAttempt 48 true) (attestConnection (attestationRequest toyNonce)
      toySslObj) toyStore = (.ok (toyResponse 48 48), toyStore) :=
    (evalBody_attestConnection fun e he => by cases he).mpr ⟨rfl, _, ht, rfl⟩
  exact congrArg Prod.fst heval

/-- The client finds the response in it, and accepts it. -/
theorem toyReply_reads : toySite.Reads toyReply (toyResponse 48 48) :=
  processAttestationResponse_reply toyFormat_inverse _

theorem toySite_accepts (t : Nat) : toySite.Moves t (.waiting toyNonce)
    (.accepts (toyResponse 48 48)) (.attested toyNonce (toyResponse 48 48)) := by
  obtain ⟨x, hx, -, hvalid⟩ := toyStore_usable.transcript (toyAttempt_obeys (.inl rfl) true)
    (fun _ => rfl) (fun _ => ⟨_, rfl⟩) (fun _ => ⟨_, rfl⟩) toySslObj_exports toyNonce
  have heval : evalBody (toyAttempt 48 true) (attestConnection (attestationRequest toyNonce)
      toySslObj) toyStore = (.ok x.response, toyStore) :=
    (evalBody_attestConnection fun e he => by cases he).mpr ⟨rfl, x, hx, rfl⟩
  have hresponse : x.response = toyResponse 48 48 :=
    Except.ok.inj ((congrArg Prod.fst heval).symm.trans (toyAttestConnection_returns t))
  exact .accepts rfl (hresponse ▸ hvalid)

/-- The event loop that reads the client's request, and then sends the reply to it. -/
def toyReading : EventLoop Nat :=
  EventLoop.moves ⟨[], fun _ => none⟩ 0 (.reading (attestArrival 7) [])

def toyReplying : EventLoop Nat :=
  { toyReading.moves 0 (.replying toyReply true) with attested := [7] }

theorem toyReading_step : LoopStep toyFormat ⟨[], fun _ => none⟩ (.called 0 (attestArrival 7))
    toyReading := .called rfl

theorem toyReplying_step : LoopStep toyFormat toyReading (.settled 0 (attestArrival 7)
    (.ok (toyFormat.requestToJson (attestationRequest toyNonce))) toyAttestConnection) toyReplying :=
  .answers EventLoop.moves_self toyFormat_inverse (toyAttestConnection_returns 7)

/-- A client attests its session, and sends a request while the reply is still being sent. -/
theorem session_run : ∃ (es : List (SessionEvent Nat)) (s : Sessions Nat),
    Run toySite.system es s ∧ s.client 7 = .attested toyNonce (toyResponse 48 48) ∧
      .requests 7 1 "/chat" ∈ es ∧ toySite.Decodes es := by
  have h := Run.init (S := toySite.system)
    (s := ⟨⟨[], fun _ => none⟩, fun _ => .idle, fun _ => 0⟩) ⟨⟨rfl, rfl⟩, rfl⟩
  have hstarts : SessionStep toySite ⟨⟨[], fun _ => none⟩, fun _ => .idle, fun _ => 0⟩
      (.starts 7 0 toyNonce) ⟨toyReading, Function.update (fun _ => .idle) 7 (.waiting toyNonce),
        Function.update (fun _ => 0) 7 0⟩ := .starts (.sends (.inl rfl) rfl) toyReading_step
  have h := h.step hstarts
  have hcarried : Carried toyFormat ⟨toyReading,
      Function.update (fun _ => .idle) 7 (.waiting toyNonce), Function.update (fun _ => 0) 7 0⟩
      (.settled 0 (attestArrival 7) (.ok (toyFormat.requestToJson (attestationRequest toyNonce)))
        toyAttestConnection) := fun _ _ _ _ => rfl
  have h := h.step (.server toyReplying_step hcarried)
  have hreplies : (Coroutine.replying toyReply true : Coroutine Nat).Replies toyReply :=
    .inr ⟨true, rfl⟩
  have h := h.step (.accepts (t := 7) (toySite_accepts 7) rfl hreplies toyReply_reads)
  have hpath : "/chat" ≠ ATTESTATION_ENDPOINT := by decide
  have h := h.step (.requests (t := 7) (k := 1) .requests hpath (.called rfl))
  refine ⟨_, _, h, rfl, List.mem_cons_self, fun t k nonce hmem => ?_, ?_⟩
  · simp only [List.mem_cons, List.not_mem_nil, or_false, reduceCtorEq, false_or,
      SessionEvent.starts.injEq] at hmem
    obtain ⟨-, -, rfl⟩ := hmem
    exact parseAttestRequest_eq toyFormat_inverse
  · intro t k nonce hstarts j body attest response hsettled hattest
    simp only [List.mem_cons, List.not_mem_nil, or_false, reduceCtorEq, false_or,
      SessionEvent.starts.injEq] at hstarts
    simp only [List.mem_cons, List.not_mem_nil, or_false, reduceCtorEq, false_or,
      SessionEvent.server.injEq, AwaitEvent.settled.injEq] at hsettled
    obtain ⟨-, -, rfl⟩ := hstarts
    obtain ⟨-, -, -, rfl⟩ := hsettled
    cases (toyAttestConnection_returns t).symm.trans hattest
    exact toyFormat_inverse

/-- The ends of that session agree. -/
theorem session_agreed : ∃ (es : List (SessionEvent Nat)) (s : Sessions Nat), 7 ∈ s.loop.attested ∧
    ∃ k attest, .server (.settled k (attestArrival 7)
      (.ok (toyFormat.requestToJson (attestationRequest toyNonce))) attest) ∈ es ∧
        attest (attestationRequest toyNonce) 7 = .ok (toyResponse 48 48) := by
  obtain ⟨es, s, h, hclient, -, hJ⟩ := session_run
  exact ⟨es, s, sessions_agree h hJ hclient⟩

/-- Its request comes to the application. -/
theorem session_served : ∃ (es : List (SessionEvent Nat)) (s : Sessions Nat),
    .requests 7 1 "/chat" ∈ es ∧ s.loop.task 1 = some .inApp := by
  obtain ⟨es, s, h, -, hrequest, -⟩ := session_run
  exact ⟨es, s, hrequest, attested_served h hrequest⟩

end PromptEncryption
