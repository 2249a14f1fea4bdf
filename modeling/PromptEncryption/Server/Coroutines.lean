import PromptEncryption.Server.Agreement

/-!
# Server — the ASGI middleware between awaits

`PromptEncryptionASGIMiddleware` (`server/asgi.py`) as the coroutines of an event loop, which runs each
of them from one `await` to the next, in any order (`eventLoop`).  A coroutine waits for the next part
of a body, for a response to be sent, or for the application; a wait for a part or for a response can
raise instead, `ClientDisconnect` and `CancelledError` among the rest.

`__call__` comes to its check without a wait, and `handle_attestation` from the whole body to
`self._attested_sockets.add`.

* `coroutines_atomic`: taken at these moments, each coroutine does what a single call does
  (`Gate.lean`), and its outcome is that call's.
* `inApp_iff`: which coroutines come to the application.
-/

namespace PromptEncryption.Server
open Python Runs

/-! ### The coroutines -/

/-- What the middleware is called with. -/
structure Arrival (Sock : Type) where
  sslObject : Option Sock
  type : ScopeType
  path : String

/-- Where a coroutine waits. -/
inductive Coroutine (Sock : Type) where
  /-- In `await request.body()`, with the parts of the body it has. -/
  | reading (a : Arrival Sock) (body : Bytes)
  /-- In `await response(scope, receive, send)`, inside `handle_attestation` or after it. -/
  | replying (r : Reply) (inside : Bool)
  /-- In `await self.app(scope, receive, send)`. -/
  | inApp
  | ended (o : Outcome)

structure EventLoop (Sock : Type) where
  attested : List Sock
  task : Nat → Option (Coroutine Sock)

inductive AwaitEvent (Sock : Type) where
  /-- The middleware is called. -/
  | called (k : Nat) (a : Arrival Sock)
  /-- A part of the body that is not its last. -/
  | received (k : Nat) (part : Bytes)
  /-- `await request.body()` returns or raises, and `attest_connection` is called. -/
  | settled (k : Nat) (a : Arrival Sock) (body : Except Exc Bytes) (attest : AttestConnection Sock)
  /-- A response is sent, or raises. -/
  | sent (k : Nat) (raises : Option Exc)

section
variable {Sock : Type}

/-- The scope is for `handle_attestation`. -/
def Arrival.ForAttestation (a : Arrival Sock) : Prop := a.type = .http ∧ a.path = attestPath

instance (a : Arrival Sock) : Decidable a.ForAttestation := inferInstanceAs (Decidable (_ ∧ _))

/-- What uvicorn dispatches, with what becomes of it. -/
def Arrival.dispatch (a : Arrival Sock) (body : Except Exc Bytes) (attest : AttestConnection Sock)
    (send : Nat → Option Exc) : Dispatch Sock where
  sslObject := a.sslObject
  type := a.type
  path := a.path
  body := body
  attest := attest
  send := send

/-- `__call__`, to its first `await`. -/
def Coroutine.begin [DecidableEq Sock] (attested : List Sock) (a : Arrival Sock) : Coroutine Sock :=
  if a.type ≠ .http then .inApp
  else if a.path = attestPath then .reading a []
  else
    match a.sslObject with
    | none => .replying unauthorized false
    | some sslObj => if sslObj ∈ attested then .inApp else .replying unauthorized false

/-- The handler around `handle_attestation`. -/
def Coroutine.fails (e : Exc) : Coroutine Sock :=
  if e.isinstance .exception then
    .replying ⟨if e.isinstance parseError then 400 else 500, internalError e⟩ false
  else .ended (.raised e)

/-- `handle_attestation`, from the body to the response. -/
def Coroutine.settle (J : JsonFormat) (attested : List Sock) (a : Arrival Sock)
    (body : Except Exc Bytes) (attest : AttestConnection Sock) : Coroutine Sock × List Sock :=
  match asgiAttest J (a.dispatch body attest fun _ => none).scope with
  | .ok (sslObj, response) =>
      (.replying ⟨200, .message (J.responseToDict response)⟩ true, sslObj :: attested)
  | .error e => (.fails e, attested)

/-- The response is sent, or raises. -/
def Coroutine.afterSend (r : Reply) (inside : Bool) : Option Exc → Coroutine Sock
  | none => .ended (.reply r)
  | some e => if inside then .fails e else .ended (.raised e)

/-- One coroutine has moved on. -/
def EventLoop.moves (s : EventLoop Sock) (k : Nat) (c : Coroutine Sock) : EventLoop Sock :=
  { s with task := Function.update s.task k (some c) }

variable [DecidableEq Sock] (J : JsonFormat)

inductive LoopStep : EventLoop Sock → AwaitEvent Sock → EventLoop Sock → Prop where
  | called {s k a} : s.task k = none → LoopStep s (.called k a) (s.moves k (.begin s.attested a))
  | received {s k a body part} : s.task k = some (.reading a body) →
      LoopStep s (.received k part) (s.moves k (.reading a (body ++ part)))
  | completed {s k a body part attest} : s.task k = some (.reading a body) →
      LoopStep s (.settled k a (.ok (body ++ part)) attest)
        { s.moves k (Coroutine.settle J s.attested a (.ok (body ++ part)) attest).1 with
          attested := (Coroutine.settle J s.attested a (.ok (body ++ part)) attest).2 }
  | failed {s k a body e attest} : s.task k = some (.reading a body) →
      LoopStep s (.settled k a (.error e) attest)
        { s.moves k (Coroutine.settle J s.attested a (.error e) attest).1 with
          attested := (Coroutine.settle J s.attested a (.error e) attest).2 }
  | sent {s k r inside raises} : s.task k = some (.replying r inside) →
      LoopStep s (.sent k raises) (s.moves k (.afterSend r inside raises))

def eventLoop : System (EventLoop Sock) (AwaitEvent Sock) where
  init s := s.attested = [] ∧ s.task = fun _ => none
  step := LoopStep J

end

/-! ### Calls in one step -/

section
variable {Sock R ι : Type} {es : List (AwaitEvent Sock)} {k : Nat}

/-- The calls of a gate, one after another. -/
def Gate.replay (g : Gate Sock R) : List (ι × R) → List (ι × Handled R) × List Sock
  | [] => ([], [])
  | (k, r) :: rs =>
      ((k, ⟨r, (g.call (g.replay rs).2 r).1⟩) :: (g.replay rs).1, (g.call (g.replay rs).2 r).2)

theorem Gate.replay_run (g : Gate Sock R) (rs : List (ι × R)) :
    Run g.system ((g.replay rs).1.map Prod.snd) (g.replay rs).2 := by
  induction rs with
  | nil => exact .init rfl
  | cons r rs ih => exact ih.step rfl

theorem Gate.replay_requests (g : Gate Sock R) (rs : List (ι × R)) :
    (g.replay rs).1.map (fun x => (x.1, x.2.request)) = rs := by
  induction rs with
  | nil => rfl
  | cons r rs ih => exact congrArg (r :: ·) ih

/-- What the responses of a coroutine raise, in their order; one not under way raises nothing. -/
def sendsOf (raised : List (Option Exc)) (n : Nat) : Option Exc := raised.getD n none

/-- The calls of a history, each at its moment, with what its responses raise in the history and
thereafter. -/
def atomically : List (AwaitEvent Sock) → (Nat → List (Option Exc)) → List (Nat × Dispatch Sock)
  | [], _ => []
  | .called k a :: es, raised =>
      if a.ForAttestation then atomically es raised
      else (k, a.dispatch (.ok []) (fun _ _ => .error ⟨.runtimeError, []⟩) (sendsOf (raised k))) ::
        atomically es raised
  | .received _ _ :: es, raised => atomically es raised
  | .settled k a body attest :: es, raised =>
      (k, a.dispatch body attest (sendsOf (raised k))) :: atomically es raised
  | .sent k e :: es, raised => atomically es (Function.update raised k (e :: raised k))

/-- The calls on the way to `attest_connection`. -/
theorem mem_atomically {raised : Nat → List (Option Exc)} {d : Dispatch Sock}
    (hd : d.type = .http) (hpath : d.path = attestPath) (hmem : (k, d) ∈ atomically es raised) :
    ∃ a, .settled k a d.body d.attest ∈ es ∧ a.sslObject = d.sslObject ∧ a.type = d.type ∧
      a.path = d.path := by
  induction es generalizing raised with
  | nil => cases hmem
  | cons e es ih =>
      have hearlier : ∀ {raised}, (k, d) ∈ atomically es raised →
          ∃ a, .settled k a d.body d.attest ∈ e :: es ∧ a.sslObject = d.sslObject ∧
            a.type = d.type ∧ a.path = d.path := by
        intro raised hmem
        obtain ⟨a, ha, heq⟩ := ih hmem
        exact ⟨a, List.mem_cons_of_mem _ ha, heq⟩
      cases e with
      | called j a =>
          rw [atomically] at hmem
          split at hmem
          · exact hearlier hmem
          · rcases List.mem_cons.mp hmem with heq | hmem
            · cases heq
              exact absurd ⟨hd, hpath⟩ ‹¬ a.ForAttestation›
            · exact hearlier hmem
      | received j part => exact hearlier hmem
      | settled j a body attest =>
          rcases List.mem_cons.mp hmem with heq | hmem
          · cases heq
            exact ⟨a, List.mem_cons_self, rfl, rfl, rfl⟩
          · exact hearlier hmem
      | sent j x => exact hearlier hmem

theorem atomically_of_settled (raised : Nat → List (Option Exc)) {a : Arrival Sock}
    {body : Except Exc Bytes} {attest : AttestConnection Sock}
    (hmem : .settled k a body attest ∈ es) :
    ∃ send, (k, a.dispatch body attest send) ∈ atomically es raised := by
  induction es generalizing raised with
  | nil => cases hmem
  | cons e es ih =>
      rcases List.mem_cons.mp hmem with rfl | hearlier
      · exact ⟨_, List.mem_cons_self⟩
      · cases e with
        | called j a' =>
            obtain ⟨send, h⟩ := ih raised hearlier
            rw [atomically]
            split
            · exact ⟨send, h⟩
            · exact ⟨send, List.mem_cons_of_mem _ h⟩
        | received j part => exact ih raised hearlier
        | settled j a' body' attest' =>
            obtain ⟨send, h⟩ := ih raised hearlier
            exact ⟨send, List.mem_cons_of_mem _ h⟩
        | sent j x => exact ih _ hearlier

/-- The outcome a coroutine comes to, where its responses raise what is given. -/
def Coroutine.ends : Coroutine Sock → List (Option Exc) → Option Outcome
  | .reading _ _, _ => none
  | .replying r false, raised => some (sendReply (sendsOf raised 0) r)
  | .replying r true, raised =>
      some (match sendsOf raised 0 with
        | none => .reply r
        | some e => asgiFailure (sendsOf raised 1) e)
  | .inApp, _ => some .app
  | .ended o, _ => some o

end

/-! ### A coroutine and its call -/

section
variable {Sock : Type} {raised : List (Option Exc)} {e : Exc} {r : Reply} {inside : Bool}
  {a : Arrival Sock} {attested : List Sock} {body : Except Exc Bytes} {attest : AttestConnection Sock}

theorem Coroutine.ends_fails :
    (Coroutine.fails e : Coroutine Sock).ends raised = some (asgiFailure (sendsOf raised 0) e) := by
  rw [Coroutine.fails, asgiFailure]
  split <;> rfl

/-- What a response raises is the first of what the coroutine's responses raise. -/
theorem Coroutine.ends_afterSend (x : Option Exc) :
    (Coroutine.afterSend r inside x : Coroutine Sock).ends raised =
      (Coroutine.replying r inside : Coroutine Sock).ends (x :: raised) := by
  cases x with
  | none => cases inside <;> rfl
  | some e =>
      cases inside with
      | false => rfl
      | true => exact Coroutine.ends_fails

theorem Coroutine.ends_replying :
    ∃ o, (Coroutine.replying r inside : Coroutine Sock).ends raised = some o := by
  cases inside <;> exact ⟨_, rfl⟩

variable [DecidableEq Sock] {J : JsonFormat}

/-- **A scope that is not for attestation** is settled when the middleware is called. -/
theorem Coroutine.begin_call (J : JsonFormat) (attested : List Sock) (body : Except Exc Bytes)
    (attest : AttestConnection Sock) (raised : List (Option Exc)) (h : ¬ a.ForAttestation) : ∃ o,
    asgiCall J attested (a.dispatch body attest (sendsOf raised)).scope = (o, attested) ∧
      (Coroutine.begin attested a).ends raised = some o := by
  by_cases htype : a.type = .http
  · have hpath : a.path ≠ attestPath := fun hpath => h ⟨htype, hpath⟩
    simp only [asgiCall, Coroutine.begin, Arrival.dispatch, Dispatch.scope, htype, hpath, ne_eq,
      not_true_eq_false, if_false, if_true]
    cases a.sslObject with
    | none => exact ⟨_, rfl, rfl⟩
    | some sslObj =>
        dsimp only
        split
        · exact ⟨_, rfl, rfl⟩
        · exact ⟨_, rfl, rfl⟩
  · refine ⟨.app, asgiCall_of_ne_http htype, ?_⟩
    rw [Coroutine.begin, if_pos htype]
    rfl

/-- **A scope for attestation** is settled when its body is. -/
theorem Coroutine.settle_call (J : JsonFormat) (attested : List Sock) (body : Except Exc Bytes)
    (attest : AttestConnection Sock) (raised : List (Option Exc)) (h : a.ForAttestation) : ∃ o,
    asgiCall J attested (a.dispatch body attest (sendsOf raised)).scope =
        (o, (Coroutine.settle J attested a body attest).2) ∧
      (Coroutine.settle J attested a body attest).1.ends raised = some o := by
  have hattest : asgiAttest J (a.dispatch body attest (sendsOf raised)).scope =
      asgiAttest J (a.dispatch body attest fun _ => none).scope := rfl
  have hcall : asgiCall J attested (a.dispatch body attest (sendsOf raised)).scope =
      asgiHandleAttestation J attested (a.dispatch body attest (sendsOf raised)).scope :=
    (if_neg (not_not.mpr h.1)).trans (if_pos h.2)
  rw [hcall, asgiHandleAttestation, hattest, Coroutine.settle]
  cases asgiAttest J (a.dispatch body attest fun _ => none).scope with
  | ok x => exact ⟨_, rfl, rfl⟩
  | error e => exact ⟨_, rfl, Coroutine.ends_fails⟩

end

/-! ### Every interleaving -/

section
variable {Sock : Type} {s s' : EventLoop Sock} {k j : Nat} {c : Coroutine Sock}

@[simp] theorem EventLoop.moves_self : (s.moves k c).task k = some c := Function.update_self ..

theorem EventLoop.moves_of_ne (h : j ≠ k) : (s.moves k c).task j = s.task j :=
  Function.update_of_ne h _ _

theorem Coroutine.fails_ne_inApp {e : Exc} : (Coroutine.fails e : Coroutine Sock) ≠ .inApp := by
  rw [Coroutine.fails]
  split <;> simp

theorem Coroutine.settle_ne_inApp {J : JsonFormat} {attested : List Sock} {a : Arrival Sock}
    {body : Except Exc Bytes} {attest : AttestConnection Sock} :
    (Coroutine.settle J attested a body attest).1 ≠ .inApp := by
  rw [Coroutine.settle]
  split
  · simp
  · exact Coroutine.fails_ne_inApp

theorem Coroutine.afterSend_ne_inApp {r : Reply} {inside : Bool} {x : Option Exc} :
    (Coroutine.afterSend r inside x : Coroutine Sock) ≠ .inApp := by
  cases x with
  | none => simp [Coroutine.afterSend]
  | some e =>
      cases inside with
      | false => simp [Coroutine.afterSend]
      | true => exact Coroutine.fails_ne_inApp

/-- A step of a coroutine that neither is in the application nor comes to it. -/
theorem EventLoop.moves_inApp_iff {old : Coroutine Sock} (hold : s.task j = some old)
    (hnot : old ≠ .inApp) (hc : c ≠ .inApp) :
    (s.moves j c).task k = some .inApp ↔ s.task k = some .inApp := by
  by_cases hkj : k = j
  · subst hkj
    rw [EventLoop.moves_self, hold]
    simp [hnot, hc]
  · rw [EventLoop.moves_of_ne hkj]

/-- Only an attestation reads its body. -/
def ReadsForAttestation (s : EventLoop Sock) : Prop :=
  ∀ k a body, s.task k = some (.reading a body) → a.ForAttestation

/-- A coroutine that has an outcome to come to does not read. -/
theorem ReadsForAttestation.moves (h : ReadsForAttestation s)
    (hc : (∃ o, c.ends [] = some o) ∨ ∃ a body, c = .reading a body ∧ a.ForAttestation) :
    ReadsForAttestation (s.moves k c) := by
  intro j a body hj
  by_cases hjk : j = k
  · subst hjk
    rw [EventLoop.moves_self] at hj
    obtain rfl := Option.some.inj hj
    rcases hc with ⟨o, ho⟩ | ⟨a', body', heq, ha⟩
    · cases ho
    · cases heq
      exact ha
  · rw [EventLoop.moves_of_ne hjk] at hj
    exact h j a body hj

/-- The coroutine has not come to its moment. -/
def Pending (s : EventLoop Sock) (k : Nat) : Prop :=
  ∀ c, s.task k = some c → c.ends [] = none

theorem Pending.ends (h : Pending s k) {raised : List (Option Exc)} {c : Coroutine Sock}
    (hc : s.task k = some c) : c.ends raised = none := by
  have hnone := h c hc
  cases c with
  | reading _ _ => rfl
  | replying r inside => cases inside <;> cases hnone
  | inApp => cases hnone
  | ended o => cases hnone

variable [DecidableEq Sock] {J : JsonFormat} {es : List (AwaitEvent Sock)} {e : AwaitEvent Sock}
  {raised : Nat → List (Option Exc)}

theorem ReadsForAttestation.step (h : ReadsForAttestation s) (hst : LoopStep J s e s') :
    ReadsForAttestation s' := by
  have hsettle : ∀ {k a body} (b : Except Exc Bytes) attest, s.task k = some (.reading a body) →
      ReadsForAttestation (s.moves k (Coroutine.settle J s.attested a b attest).1) := by
    intro k a body b attest hk
    obtain ⟨o, -, ho⟩ := Coroutine.settle_call J s.attested b attest [] (h k a body hk)
    exact h.moves (.inl ⟨o, ho⟩)
  cases hst with
  | @called k a hk =>
      by_cases ha : a.ForAttestation
      · refine h.moves (.inr ⟨a, [], ?_, ha⟩)
        rw [Coroutine.begin, if_neg (not_not.mpr ha.1), if_pos ha.2]
      · obtain ⟨o, -, ho⟩ := Coroutine.begin_call J s.attested (.ok [])
          (fun _ _ => .error ⟨.runtimeError, []⟩) [] ha
        exact h.moves (.inl ⟨o, ho⟩)
  | received hk => exact h.moves (.inr ⟨_, _, rfl, h _ _ _ hk⟩)
  | completed hk => exact hsettle _ _ hk
  | failed hk => exact hsettle _ _ hk
  | sent hk =>
      refine h.moves (.inl ?_)
      rw [Coroutine.ends_afterSend]
      exact Coroutine.ends_replying

/-- The calls of the history, with their outcomes, and what they attest. -/
abbrev replayed (J : JsonFormat) (es : List (AwaitEvent Sock)) (raised : Nat → List (Option Exc)) :
    List (Nat × Handled (Dispatch Sock)) × List Sock :=
  (dispatchGate J).replay (atomically es raised)

/-- The calls are those of the coroutines that are past their moment, each once, and come to what
the coroutines come to. -/
structure Atomic (J : JsonFormat) (es : List (AwaitEvent Sock)) (s : EventLoop Sock)
    (raised : Nat → List (Option Exc)) : Prop where
  attested : (replayed J es raised).2 = s.attested
  outcome : ∀ k o, (∃ c, s.task k = some c ∧ c.ends (raised k) = some o) ↔
    ∃ request, (k, ⟨request, o⟩) ∈ (replayed J es raised).1
  nodup : ((replayed J es raised).1.map Prod.fst).Nodup

/-- A coroutine that has not come to its moment is in no call. -/
theorem Atomic.not_mem (h : Atomic J es s raised) (hk : Pending s k) (x : Handled (Dispatch Sock)) :
    (k, x) ∉ (replayed J es raised).1 := by
  intro hmem
  obtain ⟨c, hc, ho⟩ := (h.outcome k x.outcome).mpr ⟨x.request, hmem⟩
  cases (hk.ends hc).symm.trans ho

/-- A coroutine stays short of its moment. -/
theorem Atomic.keep (h : Atomic J es s raised) (hk : Pending s k)
    (hcalls : atomically (e :: es) raised = atomically es raised) (hc : c.ends (raised k) = none) :
    Atomic J (e :: es) (s.moves k c) raised where
  attested := by rw [replayed, hcalls]; exact h.attested
  outcome j o := by
    rw [replayed, hcalls]
    by_cases hjk : j = k
    · subst hjk
      rw [EventLoop.moves_self]
      constructor
      · rintro ⟨c', hc', ho⟩
        cases Option.some.inj hc'
        cases hc.symm.trans ho
      · rintro ⟨request, hmem⟩
        exact absurd hmem (h.not_mem hk _)
    · rw [EventLoop.moves_of_ne hjk]
      exact h.outcome j o
  nodup := by rw [replayed, hcalls]; exact h.nodup

/-- **A coroutine comes to its moment.** -/
theorem Atomic.settle (h : Atomic J es s raised) (hk : Pending s k) {d : Dispatch Sock} {o : Outcome}
    {attested : List Sock} (hcalls : atomically (e :: es) raised = (k, d) :: atomically es raised)
    (hcall : asgiCall J s.attested d.scope = (o, attested)) (hc : c.ends (raised k) = some o) :
    Atomic J (e :: es) { s.moves k c with attested := attested } raised := by
  have hreplayed : replayed J (e :: es) raised =
      ((k, ⟨d, o⟩) :: (replayed J es raised).1, attested) := by
    have hgate : (dispatchGate J).call (replayed J es raised).2 d = (o, attested) := by
      rw [h.attested]
      exact hcall
    rw [replayed, hcalls, Gate.replay, hgate]
  refine ⟨by rw [hreplayed], fun j o' => ?_, ?_⟩
  · rw [hreplayed]
    by_cases hjk : j = k
    · subst hjk
      constructor
      · rintro ⟨c', hc', ho⟩
        cases Option.some.inj (hc'.symm.trans EventLoop.moves_self)
        cases hc.symm.trans ho
        exact ⟨d, List.mem_cons_self⟩
      · rintro ⟨request, hmem⟩
        rcases List.mem_cons.mp hmem with heq | hmem
        · cases heq
          exact ⟨c, EventLoop.moves_self, hc⟩
        · exact absurd hmem (h.not_mem hk _)
    · have hold := h.outcome j o'
      constructor
      · rintro ⟨c', hc', ho⟩
        obtain ⟨request, hmem⟩ := hold.mp ⟨c', (EventLoop.moves_of_ne hjk).symm.trans hc', ho⟩
        exact ⟨request, List.mem_cons_of_mem _ hmem⟩
      · rintro ⟨request, hmem⟩
        rcases List.mem_cons.mp hmem with heq | hmem
        · exact absurd (congrArg Prod.fst heq) hjk
        · obtain ⟨c', hc', ho⟩ := hold.mpr ⟨request, hmem⟩
          exact ⟨c', (EventLoop.moves_of_ne hjk).trans hc', ho⟩
  · rw [hreplayed, List.map_cons, List.nodup_cons]
    refine ⟨fun hmem => ?_, h.nodup⟩
    obtain ⟨⟨j, x⟩, hx, rfl⟩ := List.mem_map.mp hmem
    exact h.not_mem hk x hx

/-- A response is sent, or raises. -/
theorem Atomic.sent {r : Reply} {inside : Bool} {x : Option Exc}
    (h : Atomic J es s (Function.update raised k (x :: raised k)))
    (hk : s.task k = some (.replying r inside)) :
    Atomic J (.sent k x :: es) (s.moves k (.afterSend r inside x)) raised where
  attested := h.attested
  outcome j o := by
    refine Iff.trans ?_ (h.outcome j o)
    by_cases hjk : j = k
    · subst hjk
      rw [EventLoop.moves_self, hk, Function.update_self]
      simp [Coroutine.ends_afterSend]
    · rw [EventLoop.moves_of_ne hjk, Function.update_of_ne hjk]
  nodup := h.nodup

/-- **One step.** -/
theorem Atomic.step (h : ∀ raised, Atomic J es s raised) (hreads : ReadsForAttestation s)
    (hst : LoopStep J s e s') (raised : Nat → List (Option Exc)) : Atomic J (e :: es) s' raised := by
  have hreading : ∀ {k a body}, s.task k = some (.reading a body) → Pending s k := by
    intro k a body hk c hc
    cases hk.symm.trans hc
    rfl
  have hsettle : ∀ {k a body} (b : Except Exc Bytes) attest, s.task k = some (.reading a body) →
      Atomic J (.settled k a b attest :: es)
        { s.moves k (Coroutine.settle J s.attested a b attest).1 with
          attested := (Coroutine.settle J s.attested a b attest).2 } raised := by
    intro k a body b attest hk
    obtain ⟨o, hcall, ho⟩ := Coroutine.settle_call J s.attested b attest (raised k)
      (hreads k a body hk)
    exact (h raised).settle (hreading hk) rfl hcall ho
  cases hst with
  | @called k a hk =>
      have hpending : Pending s k := fun c hc => by cases hk.symm.trans hc
      by_cases ha : a.ForAttestation
      · refine (h raised).keep hpending (if_pos ha) ?_
        rw [Coroutine.begin, if_neg (not_not.mpr ha.1), if_pos ha.2]
        rfl
      · obtain ⟨o, hcall, ho⟩ := Coroutine.begin_call J s.attested (.ok [])
          (fun _ _ => .error ⟨.runtimeError, []⟩) (raised k) ha
        exact (h raised).settle hpending (if_neg ha) hcall ho
  | received hk => exact (h raised).keep (hreading hk) rfl rfl
  | completed hk => exact hsettle _ _ hk
  | failed hk => exact hsettle _ _ hk
  | sent hk => exact (h _).sent hk

theorem atomic (h : Run (eventLoop J) es s) : ∀ raised, Atomic J es s raised := by
  refine (h.invariant (P := fun es s => ReadsForAttestation s ∧ ∀ raised, Atomic J es s raised)
    ?_ ?_).2
  · rintro s ⟨hattested, htask⟩
    refine ⟨fun k a body hk => ?_, fun raised => ⟨hattested.symm, fun k o => ?_, List.nodup_nil⟩⟩
    · rw [htask] at hk
      cases hk
    · rw [htask]
      simp [replayed, atomically, Gate.replay]
  · exact fun es s e s' _ ih hst => ⟨ih.1.step hst, Atomic.step ih.2 ih.1 hst⟩

/-- **The coroutines are single calls**, in the order of their moments.  Every interleaving of them,
await by await, leaves the connections attested that the calls of some run of the gate leave attested;
each of these is the call of one coroutine, with what it read and was answered and with what its
responses raised, and has the outcome the coroutine comes to. -/
theorem coroutines_atomic (h : Run (eventLoop J) es s) : ∃ hs : List (Nat × Handled (Dispatch Sock)),
    Run (dispatchGate J).system (hs.map Prod.snd) s.attested ∧
      hs.map (fun x => (x.1, x.2.request)) = atomically es (fun _ => []) ∧
      (hs.map Prod.fst).Nodup ∧
      ∀ k o, (∃ c, s.task k = some c ∧ c.ends [] = some o) ↔ ∃ request, (k, ⟨request, o⟩) ∈ hs := by
  have hatomic := atomic h fun _ => []
  have hrun := (dispatchGate J).replay_run (atomically es fun _ => [])
  rw [hatomic.attested] at hrun
  exact ⟨_, hrun, Gate.replay_requests _ _, hatomic.nodup, hatomic.outcome⟩

/-! ### Who comes to the application -/

/-- An attestation on the TLS object `t` has succeeded. -/
def AttestedIn (J : JsonFormat) (es : List (AwaitEvent Sock)) (t : Sock) : Prop :=
  ∃ k a body attest, .settled k a body attest ∈ es ∧ a.type = .http ∧
    AttestsOn J a.path a.sslObject body attest t

/-- The attested connections. -/
theorem mem_attested_iff (h : Run (eventLoop J) es s) (t : Sock) :
    t ∈ s.attested ↔ AttestedIn J es t := by
  have hatomic := atomic h fun _ => []
  have hrun := (dispatchGate J).replay_run (atomically es fun _ => [])
  have hrequests := (dispatchGate J).replay_requests (atomically es fun _ => [])
  rw [hatomic.attested] at hrun
  rw [dispatchGate_grants.mem_iff hrun t]
  constructor
  · rintro ⟨x, hx, htype, hattests⟩
    obtain ⟨⟨k, y⟩, hy, rfl⟩ := List.mem_map.mp hx
    have hmem : (k, y.request) ∈ atomically es fun _ => [] := by
      rw [← hrequests]
      exact List.mem_map.mpr ⟨_, hy, rfl⟩
    obtain ⟨a, ha, hssl, htype', hpath⟩ := mem_atomically htype hattests.1 hmem
    refine ⟨k, a, _, _, ha, htype'.trans htype, ?_⟩
    rw [hpath, hssl]
    exact hattests
  · rintro ⟨k, a, body, attest, hsettled, htype, hattests⟩
    obtain ⟨send, hmem⟩ := atomically_of_settled (fun _ => []) hsettled
    rw [← hrequests] at hmem
    obtain ⟨y, hy, heq⟩ := List.mem_map.mp hmem
    refine ⟨y.2, List.mem_map.mpr ⟨y, hy, rfl⟩, ?_⟩
    rw [show y.2.request = a.dispatch body attest send from congrArg Prod.snd heq]
    exact ⟨htype, hattests⟩

/-- The middleware lets the scope through to the application. -/
def LetsThrough (J : JsonFormat) (k : Nat) (e : AwaitEvent Sock) (earlier : List (AwaitEvent Sock)) :
    Prop :=
  ∃ a, e = .called k a ∧ (a.type ≠ .http ∨
    a.path ≠ attestPath ∧ ∃ t, a.sslObject = some t ∧ AttestedIn J earlier t)

theorem Coroutine.begin_inApp_iff {attested : List Sock} {a : Arrival Sock} :
    Coroutine.begin attested a = .inApp ↔ a.type ≠ .http ∨
      a.path ≠ attestPath ∧ ∃ t, a.sslObject = some t ∧ t ∈ attested := by
  by_cases htype : a.type = .http
  · by_cases hpath : a.path = attestPath
    · simp [Coroutine.begin, htype, hpath]
    · cases hssl : a.sslObject with
      | none => simp [Coroutine.begin, htype, hpath, hssl]
      | some t => by_cases ht : t ∈ attested <;> simp [Coroutine.begin, htype, hpath, hssl, ht]
  · simp [Coroutine.begin, htype]

/-- **Who comes to the application.**  A coroutine comes there exactly from a call whose scope is not
http, or is for another path than the attestation's, on a connection that some coroutine had attested by
then, whatever else was under way. -/
theorem inApp_iff (h : Run (eventLoop J) es s) (k : Nat) :
    s.task k = some .inApp ↔ Once (LetsThrough J k) es := by
  refine h.invariant (P := fun es s => ∀ k, s.task k = some .inApp ↔ Once (LetsThrough J k) es)
    ?_ ?_ k
  · rintro s ⟨-, htask⟩ k
    rw [htask]
    simp
  · intro es s e s' hrun ih hst k
    cases hst with
    | @called j a hj =>
        by_cases hkj : k = j
        · subst hkj
          have hold : ¬ Once (LetsThrough J k) es := fun h => by
            cases hj.symm.trans ((ih k).mpr h)
          rw [EventLoop.moves_self, once_cons, or_iff_left hold, Option.some_inj,
            Coroutine.begin_inApp_iff]
          simp only [mem_attested_iff hrun, LetsThrough, AwaitEvent.called.injEq, true_and,
            exists_eq_left']
        · rw [EventLoop.moves_of_ne hkj, once_cons_of_not, ih k]
          rintro ⟨a', heq, -⟩
          cases heq
          exact hkj rfl
    | received hj =>
        rw [EventLoop.moves_inApp_iff hj (by simp) (by simp), once_cons_of_not, ih k]
        rintro ⟨a', heq, -⟩
        cases heq
    | completed hj =>
        refine (EventLoop.moves_inApp_iff hj (by simp) Coroutine.settle_ne_inApp).trans ?_
        rw [once_cons_of_not, ih k]
        rintro ⟨a', heq, -⟩
        cases heq
    | failed hj =>
        refine (EventLoop.moves_inApp_iff hj (by simp) Coroutine.settle_ne_inApp).trans ?_
        rw [once_cons_of_not, ih k]
        rintro ⟨a', heq, -⟩
        cases heq
    | sent hj =>
        rw [EventLoop.moves_inApp_iff hj (by simp) Coroutine.afterSend_ne_inApp, once_cons_of_not,
          ih k]
        rintro ⟨a', heq, -⟩
        cases heq

end

/-! ### A run -/

/-- Two requests on a connection while a third attests it, and one thereafter. -/
theorem interleaved_run : ∃ (es : List (AwaitEvent Nat)) (s : EventLoop Nat),
    Run (eventLoop sampleFormat) es s ∧ s.attested = [7] ∧
      s.task 1 = some (.replying unauthorized false) ∧ s.task 2 = some .inApp := by
  have h : Run (eventLoop sampleFormat) ([] : List (AwaitEvent Nat)) ⟨[], fun _ => none⟩ :=
    .init ⟨rfl, rfl⟩
  have next : ∀ {es : List (AwaitEvent Nat)} {s s' : EventLoop Nat} (e : AwaitEvent Nat),
      Run (eventLoop sampleFormat) es s → LoopStep sampleFormat s e s' →
      Run (eventLoop sampleFormat) (e :: es) s' := fun _ h hst => h.step hst
  have h := next (.called 0 ⟨some 7, .http, attestPath⟩) h (.called rfl)
  have h := next (.received 0 [123]) h (.received rfl)
  have h := next (.called 1 ⟨some 7, .http, "/chat"⟩) h (.called rfl)
  have h := next (.settled 0 ⟨some 7, .http, attestPath⟩ (.ok ([123] ++ [125])) fun _ _ => .ok {}) h
    (.completed rfl)
  have h := next (.called 2 ⟨some 7, .http, "/chat"⟩) h (.called rfl)
  have h := next (.sent 0 none) h (.sent rfl)
  exact ⟨_, _, h, rfl, rfl, rfl⟩

theorem interleaved_atomic : ∃ (s : EventLoop Nat) (hs : List (Nat × Handled (Dispatch Nat))),
    s.task 2 = some .inApp ∧ Run (dispatchGate sampleFormat).system (hs.map Prod.snd) s.attested ∧
      ∃ request, (2, ⟨request, .app⟩) ∈ hs := by
  obtain ⟨es, s, h, -, -, happ⟩ := interleaved_run
  obtain ⟨hs, hrun, -, -, houtcome⟩ := coroutines_atomic h
  exact ⟨s, hs, happ, hrun, (houtcome 2 .app).mp ⟨.inApp, happ, rfl⟩⟩

theorem interleaved_through : ∃ (es : List (AwaitEvent Nat)),
    Once (LetsThrough sampleFormat 2) es ∧ ¬ Once (LetsThrough sampleFormat 1) es := by
  obtain ⟨es, s, h, -, hrefused, happ⟩ := interleaved_run
  refine ⟨es, (inApp_iff h 2).mp happ, fun hthrough => ?_⟩
  cases hrefused.symm.trans ((inApp_iff h 1).mpr hthrough)

end PromptEncryption.Server
