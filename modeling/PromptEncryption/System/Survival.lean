import PromptEncryption.Server.Backend
import PromptEncryption.System.Schedule

/-!
# System — the thread and the exceptions of a refresh

`_run` catches `OSError`, `RuntimeError`, `ValueError` and `TinkError`.  What a refresh raises is its
first failure: a `ValueError` of its files, or what key generation, the reading of a public key or the
token backend raised.  The backend's library raises `http.client.HTTPException`, none of the four.

* `survivable_of_fails`: whose exceptions have to be among the four.
* `refresher_survives`: along every run in which what a refresh raises is caught, no failed refresh
  ends the thread, and each is followed by another iteration of the loop.
* `unread_reply_ends`: a reply of the token server that breaks off ends the thread.
-/

namespace PromptEncryption.Server
open Python Programs Runs

/-! ### What is caught -/

/-- The first failure of a refresh is one `_run` catches. -/
def Survivable (P : TokenManager) (_ : Refresher) : RefresherEvent → Prop
  | .attempted env => ∀ e, firstFailure P.audience env = some e → handled e = true
  | _ => True

/-- **When it is**: what key generation, the reading of the files and the token backend raise is
caught. -/
theorem survivable_of_fails {P : TokenManager} {s : Refresher} {env : ServerEnv} {b : Backend}
    (hb : b.Answers env) (hecdsa : ∀ e, env.answer .generateEcdsa = .error e → handled e = true)
    (hmldsa : ∀ e, env.answer .generateMldsa = .error e → handled e = true)
    (hserialize : ∀ e, env.answer .serializePublicKeyset = .error e → handled e = true)
    (hread : ∀ f e, env.readFault f = some e → handled e = true)
    (hwrite : ∀ f e, env.writeFault f = some e → e.isinstance .exception = true)
    (hfails : ∀ e, b.Fails e → handled e = true) : Survivable P s (.attempted env) := by
  have hanswer : ∀ {α : Type} {x : Except Exc α} {e : Exc}, raised x = some e → x = .error e := by
    intro α x e h
    cases x with
    | ok a => cases h
    | error e' => cases h; rfl
  have hwrites : ∀ f e, writeFailure env f = some e → handled e = true := by
    intro f e h
    obtain ⟨e', he', rfl⟩ := Option.map_eq_some_iff.mp h
    rw [if_pos (hwrite f e' he')]
    rfl
  have hreads : ∀ f e, readFailure env f = some e → handled e = true := by
    intro f e h
    obtain ⟨e', he', rfl⟩ := Option.map_eq_some_iff.mp h
    split
    · rfl
    · exact hread f e' he'
  intro e he
  obtain ⟨o, hmem, ho⟩ := List.exists_of_findSome?_eq_some he
  obtain rfl : o = some e := ho
  simp only [keyFailures, tokenFailures, List.cons_append, List.nil_append, List.mem_cons,
    List.not_mem_nil, or_false] at hmem
  rcases hmem with h | h | h | h | h | h | h | h | h | h | h
  · exact hecdsa e (hanswer h.symm)
  · exact hwrites _ e h.symm
  · exact hwrites _ e h.symm
  · exact hmldsa e (hanswer h.symm)
  · exact hwrites _ e h.symm
  · exact hserialize e (hanswer h.symm)
  · exact hwrites _ e h.symm
  · exact hreads _ e h.symm
  · exact hreads _ e h.symm
  · have hfetch := hanswer h.symm
    rw [hb] at hfetch
    have hcls : ∀ c, e.cls = c → handled ⟨c, []⟩ = true → handled e = true := by
      intro c hc h
      rw [handled, Exc.isinstance, Exc.isinstance, Exc.isinstance, Exc.isinstance, hc]
      exact h
    rcases fetchAttestationToken_raises hfetch with hc | hc | hf
    · exact hcls _ hc rfl
    · exact hcls _ hc rfl
    · exact hfails e hf
  · exact hwrites _ e h.symm

/-! ### Every run -/

/-- The last event that is no passing of time. -/
def lastAct : List RefresherEvent → Option RefresherEvent
  | [] => none
  | .pass _ :: es => lastAct es
  | e :: _ => some e

/-- No refresh has ended the thread, and a refresh that raises does not: the thread sleeps for the
retry interval, and from there goes back to the head of its loop. -/
structure Survives (P : TokenManager) (es : List RefresherEvent) (s : Refresher) : Prop where
  ended : ∀ r, s.phase = .ended r → lastAct es = some .stopped ∨
    ∃ env jitter, lastAct es = some (.calculated env jitter)
  iterates : ∀ since e s', s.phase = .attempted since (.error e) → RefresherStep P s .returned s' →
    s'.phase = .sleeping (s.now + DEFAULT_RETRY_INTERVAL_SECONDS)
  loops : ∀ u ev s', s.phase = .sleeping u → RefresherStep P s ev s' →
    s'.phase = .sleeping u ∨ ev = .slept ∧ s'.phase = .looping

section
variable {P : TokenManager} {es : List RefresherEvent} {s s' : Refresher}

/-- What is kept along a run: what ended the thread, and that a failed attempt's exception is
caught. -/
structure Surviving (es : List RefresherEvent) (s : Refresher) : Prop where
  ended : ∀ r, s.phase = .ended r → lastAct es = some .stopped ∨
    ∃ env jitter, lastAct es = some (.calculated env jitter)
  handled : ∀ since e, s.phase = .attempted since (.error e) → handled e = true

/-- **What every step keeps.** -/
theorem Surviving.step (h : Surviving es s) {ev : RefresherEvent} (hst : RefresherStep P s ev s')
    (hsurvivable : Survivable P s ev) : Surviving (ev :: es) s' := by
  cases hst with
  | pass ht => exact ⟨h.ended, h.handled⟩
  | @calculated env jitter _ _ =>
      exact ⟨fun _ _ => .inr ⟨env, jitter, rfl⟩,
        fun since e hp => absurd hp ((settles_calculates s env jitter).attempted since _)⟩
  | woke _ _ => exact ⟨fun _ hp => (by cases hp), fun _ _ hp => (by cases hp)⟩
  | @attempted since env _ =>
      refine ⟨fun _ hp => (by cases hp), fun since' e hp => ?_⟩
      exact hsurvivable e (refresh_raises_iff.mp (Phase.attempted.inj hp).2)
  | @returned since r hphase =>
      refine ⟨fun r' hp => ?_, fun since' e hp => absurd hp ((settles_returns s r).attempted since' _)⟩
      cases r with
      | ok u => cases hp
      | error e =>
          rw [Refresher.returns, fails_of_handled (h.handled since e hphase)] at hp
          cases hp
  | slept _ _ => exact ⟨fun _ hp => (by cases hp), fun _ _ hp => (by cases hp)⟩
  | stopped _ => exact ⟨fun _ _ => .inl rfl, fun _ _ hp => (by cases hp)⟩

theorem surviving_of_run (h : Run ((refresher P).restrict (Survivable P)) es s) :
    Surviving es s := by
  refine h.invariant (P := Surviving) ?_ ?_
  · intro s h₀
    have hlooping : s.phase = .looping := h₀
    refine ⟨fun _ hp => ?_, fun _ _ hp => ?_⟩
    · cases hlooping.symm.trans hp
    · cases hlooping.symm.trans hp
  · intro es s e s' _ ih hst
    exact ih.step hst.1 hst.2

/-- Out of a sleep there is one way. -/
theorem RefresherStep.of_sleeping {u : ℚ} {ev : RefresherEvent} (hphase : s.phase = .sleeping u)
    (h : RefresherStep P s ev s') :
    s'.phase = .sleeping u ∨ ev = .slept ∧ s'.phase = .looping := by
  cases h with
  | pass _ => exact .inl hphase
  | slept _ _ => exact .inr ⟨rfl, rfl⟩
  | calculated hp _ => cases hphase.symm.trans hp
  | woke hp _ => cases hphase.symm.trans hp
  | attempted hp => cases hphase.symm.trans hp
  | returned hp => cases hphase.symm.trans hp
  | stopped hp =>
      rcases hp with hp | ⟨v, hp⟩
      · cases hphase.symm.trans hp
      · cases hphase.symm.trans hp

/-- **The thread survives a failed refresh.**  Along every run in which what a refresh raises is
caught, the thread ends only where it is stopped or its wait cannot be calculated, and a refresh that
raises is followed by the retry interval and another iteration of the loop. -/
theorem refresher_survives (h : Run ((refresher P).restrict (Survivable P)) es s) :
    Survives P es s := by
  have hsurviving := surviving_of_run h
  refine ⟨hsurviving.ended, ?_, fun u ev s' hphase hst => hst.of_sleeping hphase⟩
  intro since e s' hphase hst
  cases hst with
  | @returned since' r hp =>
      cases hphase.symm.trans hp
      rw [Refresher.returns, fails_of_handled (hsurviving.handled since e hphase),
        DEFAULT_RETRY_INTERVAL_SECONDS]

end

/-! ### Replies of the token server -/

abbrev httpException : ExcClass := .derived "HTTPException" .exception

/-- What `response.read()` raises where the body ends before its length. -/
abbrev incompleteRead : ExcClass := .derived "IncompleteRead" httpException

/-- A TEE server that replies with this to every request. -/
def repliesWith (reply : TeeReply) : Backend where
  attestationType := "uds"
  dumps _ := []
  tee _ _ := reply
  run _ := .error ⟨.fileNotFoundError, []⟩

/-- An attempt in which nothing fails but what the backend makes fail. -/
def backendAttempt (b : Backend) : ServerEnv where
  answer
    | .generateEcdsa => .ok (toyEcdsa 48)
    | .generateMldsa => .ok (toyMldsa 48)
    | .serializePublicKeyset => .ok ()
    | .signEcdsa key payload => .ok (key ++ payload)
    | .signMldsa key payload => .ok (key ++ payload)
    | .fetchToken nonces audience => b.fetchAttestationToken nonces audience
  readFault _ := none
  writeFault _ := none

/-- The first iteration, in an environment whose attempt ends with `r`. -/
theorem iteration_run {C : Refresher → RefresherEvent → Prop} {env : ServerEnv}
    {r : Except Exc Unit}
    (hr : (evalBody env (refresh toyManager.audience) fun _ => none).1 = r)
    (hread : env.readFault .attestationToken = none)
    (hC : ∀ s, C s (.calculated env 0) ∧ C s .woke ∧ C s .returned)
    (hattempt : C ⟨fun _ => none, 1, .attempting 1⟩ (.attempted env)) :
    ∃ s, Run ((refresher toyManager).restrict C)
      [.returned, .attempted env, .woke, .calculated env 0] s ∧
      s = (Refresher.returns ⟨(evalBody env (refresh toyManager.audience) fun _ => none).2, 1,
        .attempted 1 r⟩ r) := by
  have h := Run.init (S := (refresher toyManager).restrict C)
    (s := ⟨fun _ => none, 1, .looping⟩) rfl
  have h := wakes_at_once env h rfl rfl hread (hC _).1 (hC _).2.1
  have h := h.step ⟨.attempted rfl, hattempt⟩
  have h := h.step ⟨.returned rfl, (hC _).2.2⟩
  rw [Refresher.attempts, hr] at h
  exact ⟨_, h, rfl⟩

/-- A reply of status 500. -/
def errorReply : TeeReply := ⟨.ok (), .ok (500, "Internal Server Error"), .ok []⟩

/-- A reply that breaks off in its body. -/
def brokenReply : TeeReply := ⟨.ok (), .ok (200, "OK"), .error ⟨incompleteRead, []⟩⟩

theorem errorReply_survives : ∃ es s,
    Run ((refresher toyManager).restrict (Survivable toyManager)) es s ∧
      lastAct es = some .returned ∧ Survives toyManager es s := by
  have hraises : (evalBody (backendAttempt (repliesWith errorReply)) (refresh toyManager.audience)
      fun _ => none).1 = .error ⟨.runtimeError, _⟩ := rfl
  have hsurvivable : Survivable toyManager ⟨fun _ => none, 1, .attempting 1⟩
      (.attempted (backendAttempt (repliesWith errorReply))) := by
    intro e he
    cases (refresh_raises_iff.mp hraises).symm.trans he
    rfl
  obtain ⟨s, h, -⟩ := iteration_run (C := Survivable toyManager) hraises rfl
    (fun _ => ⟨trivial, trivial, trivial⟩) hsurvivable
  exact ⟨_, s, h, rfl, refresher_survives h⟩

/-- **A reply that breaks off ends the thread.** -/
theorem unread_reply_ends :
    (∃ es s e, Run (refresher toyManager) es s ∧ lastAct es = some .returned ∧
      s.phase = .ended (some e) ∧ e.isinstance .exception = true) ∧
    ¬ ∀ (P : TokenManager) (es : List RefresherEvent) (s : Refresher),
      Run (refresher P) es s → Survives P es s := by
  have hraises : (evalBody (backendAttempt (repliesWith brokenReply)) (refresh toyManager.audience)
      fun _ => none).1 = .error ⟨incompleteRead, []⟩ := rfl
  obtain ⟨s, h, hs⟩ := iteration_run (C := fun _ _ => True) hraises rfl
    (fun _ => ⟨trivial, trivial, trivial⟩) trivial
  have hended : s.phase = .ended (some ⟨incompleteRead, []⟩) := by
    rw [hs]
    rfl
  refine ⟨⟨_, s, _, h.of_restrict, rfl, hended, rfl⟩, fun hall => ?_⟩
  rcases (hall _ _ _ h.of_restrict).ended _ hended with hlast | ⟨env, jitter, hlast⟩
  · cases hlast
  · cases hlast

end PromptEncryption.Server
