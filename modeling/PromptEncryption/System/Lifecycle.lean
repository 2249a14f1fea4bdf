import PromptEncryption.System.Schedule

/-!
# System — entering and leaving a `TokenManager`

`TokenManager.__enter__` and `__exit__` (`server/token.py`), called by one thread in any order and any
number of times, beside the refresher thread of `Refresher.lean` (`lifecycle`).

`Thread.start` and `Thread.join` raise `RuntimeError` where the thread was started before, or was not.
`Event.set` sets the flag and then wakes those who wait; a wait whose time is up in between returns
`False`, as does one whose time was up before.

* `exit_stops`: once `set` has returned, no wait ends any more, at most one refresh still does its work,
  and the thread takes at most four more steps.
* `exit_returns`: the thread can always take them, whatever its libraries do, with at most one retry
  interval of sleep, and `__exit__` return.
* `exited_is_final`: once `__exit__` has returned, no file changes any more, and the manager cannot be
  entered again.
* `stopped_by_exit`: the thread does not stop of itself.
-/

namespace PromptEncryption.Server
open Python Programs Runs

/-! ### The two threads -/

/-- Where the calling thread is. -/
inductive Caller where
  | outside
  /-- In `__enter__`, with the thread started and the flag to be cleared. -/
  | entering
  /-- In `__exit__`, in `set`, with the flag set and nobody woken. -/
  | setting
  /-- In `__exit__`, in `join`. -/
  | joining
  deriving DecidableEq

structure Lifecycle where
  refresher : Refresher
  /-- `self._thread` has been started. -/
  started : Bool
  /-- `self._stop_event` is set. -/
  flag : Bool
  /-- Those who wait for the event have been woken since it was set. -/
  woken : Bool
  caller : Caller

inductive LifecycleEvent where
  /-- A step of the refresher thread, or the passing of time. -/
  | thread (e : RefresherEvent)
  /-- `__enter__` has started the thread. -/
  | enter
  | entered
  /-- `__enter__` raises, for `Thread.start` does. -/
  | enterRaises
  /-- `__exit__` has set the flag. -/
  | exit
  /-- `set` returns. -/
  | woken
  | exited
  /-- `__exit__` raises, for `Thread.join` does. -/
  | exitRaises

/-- What the event allows the refresher thread. -/
def Lifecycle.allows (s : Lifecycle) : RefresherEvent → Prop
  | .pass _ => True
  | .calculated _ _ => s.started = true ∧ s.flag = false
  | .woke => s.started = true ∧ s.woken = false
  | .stopped => s.started = true ∧ s.flag = true
  | _ => s.started = true

inductive LifecycleStep (P : TokenManager) : Lifecycle → LifecycleEvent → Lifecycle → Prop where
  | thread {s e r} : RefresherStep P s.refresher e r → s.allows e →
      LifecycleStep P s (.thread e) { s with refresher := r }
  | enter {s} : s.caller = .outside → s.started = false →
      LifecycleStep P s .enter { s with started := true, caller := .entering }
  | entered {s} : s.caller = .entering →
      LifecycleStep P s .entered { s with flag := false, woken := false, caller := .outside }
  | enterRaises {s} : s.caller = .outside → LifecycleStep P s .enterRaises s
  | exit {s} : s.caller = .outside →
      LifecycleStep P s .exit { s with flag := true, caller := .setting }
  | woken {s} : s.caller = .setting →
      LifecycleStep P s .woken { s with woken := true, caller := .joining }
  | exited {s raised} : s.caller = .joining → s.started = true → s.refresher.phase = .ended raised →
      LifecycleStep P s .exited { s with caller := .outside }
  | exitRaises {s} : s.caller = .joining → s.started = false →
      LifecycleStep P s .exitRaises { s with caller := .outside }

/-- A manager that was made, over any files and at any time. -/
def lifecycle (P : TokenManager) : System Lifecycle LifecycleEvent where
  init s := s.refresher.phase = .looping ∧ s.started = false ∧ s.flag = false ∧ s.woken = false ∧
    s.caller = .outside
  step := LifecycleStep P

/-! ### Once the thread is told to stop -/

/-- The thread was started, and has been told to stop for good. -/
structure Stopping (s : Lifecycle) : Prop where
  started : s.started = true
  flag : s.flag = true
  woken : s.woken = true
  caller : s.caller ≠ .entering

/-- The steps the thread can still take. -/
def Phase.left : Phase → Nat
  | .attempting _ => 4
  | .attempted _ _ => 3
  | .sleeping _ => 2
  | .looping => 1
  | .waiting _ => 1
  | .ended _ => 0

/-- The refreshes that can still do their work. -/
def Phase.attempts : Phase → Nat
  | .attempting _ => 1
  | _ => 0

/-- The event is a step of the thread. -/
def LifecycleEvent.isStep : LifecycleEvent → Bool
  | .thread (.pass _) => false
  | .thread _ => true
  | _ => false

/-- The event is a refresh that does its work. -/
def LifecycleEvent.isAttempt : LifecycleEvent → Bool
  | .thread (.attempted _) => true
  | _ => false

section
variable {P : TokenManager} {s s' : Lifecycle} {e : LifecycleEvent} {es : List LifecycleEvent}

/-- **Told to stop, the thread stays so.** -/
theorem Stopping.step (h : Stopping s) (hst : LifecycleStep P s e s') : Stopping s' := by
  cases hst with
  | thread _ _ => exact ⟨h.started, h.flag, h.woken, h.caller⟩
  | enter _ hstarted => exact absurd (h.started.symm.trans hstarted) (by simp)
  | entered hcaller => exact absurd hcaller h.caller
  | enterRaises _ => exact h
  | exit _ => exact ⟨h.started, rfl, h.woken, by simp⟩
  | woken _ => exact ⟨h.started, h.flag, rfl, by simp⟩
  | exited _ _ _ => exact ⟨h.started, h.flag, h.woken, by simp⟩
  | exitRaises _ _ => exact ⟨h.started, h.flag, h.woken, by simp⟩

theorem Refresher.left_returns (s : Refresher) (r : Except Exc Unit) :
    (s.returns r).phase.left ≤ 2 ∧ (s.returns r).phase.attempts = 0 := by
  have hfails : ∀ e, (s.fails e).phase.left ≤ 2 ∧ (s.fails e).phase.attempts = 0 := by
    intro e
    rw [Refresher.fails]
    split
    · exact ⟨Nat.le_refl _, rfl⟩
    · exact ⟨Nat.zero_le _, rfl⟩
  cases r with
  | ok u => exact ⟨Nat.le_succ 1, rfl⟩
  | error e => exact hfails e

/-- **One step of a thread told to stop** is one less, and a refresh that does its work the last. -/
theorem Stopping.ranked (h : Stopping s) (hst : LifecycleStep P s e s') :
    s'.refresher.phase.left + (if e.isStep then 1 else 0) ≤ s.refresher.phase.left ∧
      s'.refresher.phase.attempts + (if e.isAttempt then 1 else 0) ≤ s.refresher.phase.attempts := by
  cases hst with
  | @thread e r hstep hallows =>
      cases hstep with
      | pass _ => exact ⟨Nat.le_refl _, Nat.le_refl _⟩
      | calculated _ _ => exact absurd (h.flag.symm.trans hallows.2) (by simp)
      | woke _ _ => exact absurd (h.woken.symm.trans hallows.2) (by simp)
      | attempted hphase =>
          rw [hphase]
          exact ⟨Nat.le_refl _, Nat.le_refl _⟩
      | @returned since r hphase =>
          rw [hphase]
          obtain ⟨hleft, hattempts⟩ := s.refresher.left_returns r
          exact ⟨Nat.succ_le_succ hleft, Nat.le_of_eq hattempts⟩
      | slept hphase _ =>
          rw [hphase]
          exact ⟨Nat.le_refl _, Nat.le_refl _⟩
      | stopped hphase =>
          rcases hphase with hphase | ⟨u, hphase⟩
          · rw [hphase]
            exact ⟨Nat.le_refl _, Nat.le_refl _⟩
          · rw [hphase]
            exact ⟨Nat.le_refl _, Nat.le_refl _⟩
  | _ => exact ⟨Nat.le_refl _, Nat.le_refl _⟩

/-! ### What a state says of its history -/

/-- What holds of every state. -/
structure Told (es : List LifecycleEvent) (s : Lifecycle) : Prop where
  started : .enter ∈ es → s.started = true
  entering : s.caller = .entering → s.started = true
  setting : s.caller = .setting → s.flag = true
  joining : s.caller = .joining → s.flag = true ∧ s.woken = true
  exited : s.flag = true → ∃ later earlier, es = later ++ .exit :: earlier ∧ .entered ∉ later
  sleeping : ∀ u, s.refresher.phase = .sleeping u →
    u ≤ s.refresher.now + DEFAULT_RETRY_INTERVAL_SECONDS

/-- The event sets the flag no later than any that clears it. -/
theorem Told.exited_cons {earlier : List LifecycleEvent} (he : e ≠ .entered)
    (h : ∃ later l, earlier = later ++ .exit :: l ∧ .entered ∉ later) :
    ∃ later l, e :: earlier = later ++ .exit :: l ∧ .entered ∉ later := by
  obtain ⟨later, l, rfl, hlater⟩ := h
  exact ⟨e :: later, l, rfl, by simp [hlater, he.symm]⟩

/-- A step of the thread sleeps for one retry interval at most. -/
theorem sleeps_of_step {r r' : Refresher} {e : RefresherEvent} (hst : RefresherStep P r e r')
    (h : ∀ u, r.phase = .sleeping u → u ≤ r.now + DEFAULT_RETRY_INTERVAL_SECONDS) :
    ∀ u, r'.phase = .sleeping u → u ≤ r'.now + DEFAULT_RETRY_INTERVAL_SECONDS := by
  have hfails : ∀ e u, (r.fails e).phase = .sleeping u →
      u ≤ (r.fails e).now + DEFAULT_RETRY_INTERVAL_SECONDS := by
    intro e u hu
    rw [Refresher.fails] at hu
    split at hu
    · exact le_of_eq (Phase.sleeping.inj hu).symm
    · cases hu
  cases hst with
  | pass ht => exact fun u hu => le_trans (h u hu) (by simpa using ht)
  | @calculated env jitter _ _ =>
      rw [Refresher.calculates]
      cases r.duration P env jitter >>= P.eventWait with
      | ok t => exact fun u hu => (by cases hu)
      | error e => exact hfails e
  | woke _ _ => exact fun u hu => (by cases hu)
  | attempted _ => exact fun u hu => (by cases hu)
  | @returned since result _ =>
      cases result with
      | ok x => exact fun u hu => (by cases hu)
      | error e => exact hfails e
  | slept _ _ => exact fun u hu => (by cases hu)
  | stopped _ => exact fun u hu => (by cases hu)

theorem told (h : Run (lifecycle P) es s) : Told es s := by
  refine h.invariant (P := Told) ?_ ?_
  · rintro s ⟨hphase, -, hflag, -, hcaller⟩
    refine ⟨by simp, ?_, ?_, ?_, ?_, ?_⟩
    · simp [hcaller]
    · simp [hcaller]
    · simp [hcaller]
    · simp [hflag]
    · simp [hphase]
  · intro es s e s' _ ih hst
    cases hst with
    | thread hstep _ =>
        exact ⟨by simpa using ih.started, ih.entering, ih.setting, ih.joining,
          fun h => Told.exited_cons (by simp) (ih.exited h), sleeps_of_step hstep ih.sleeping⟩
    | enter _ _ =>
        exact ⟨fun _ => rfl, fun _ => rfl, by simp, by simp,
          fun h => Told.exited_cons (by simp) (ih.exited h), ih.sleeping⟩
    | entered hcaller =>
        exact ⟨fun _ => ih.entering hcaller, by simp, by simp, by simp, by simp, ih.sleeping⟩
    | enterRaises _ =>
        exact ⟨by simpa using ih.started, ih.entering, ih.setting, ih.joining,
          fun h => Told.exited_cons (by simp) (ih.exited h), ih.sleeping⟩
    | exit _ =>
        exact ⟨by simpa using ih.started, by simp, fun _ => rfl, by simp,
          fun _ => ⟨[], es, rfl, by simp⟩, ih.sleeping⟩
    | woken hcaller =>
        exact ⟨by simpa using ih.started, by simp, by simp, fun _ => ⟨ih.setting hcaller, rfl⟩,
          fun h => Told.exited_cons (by simp) (ih.exited h), ih.sleeping⟩
    | exited _ _ _ =>
        exact ⟨by simpa using ih.started, by simp, by simp, by simp,
          fun h => Told.exited_cons (by simp) (ih.exited h), ih.sleeping⟩
    | exitRaises _ _ =>
        exact ⟨by simpa using ih.started, by simp, by simp, by simp,
          fun h => Told.exited_cons (by simp) (ih.exited h), ih.sleeping⟩

/-! ### Leaving the manager -/

variable {later earlier : List LifecycleEvent}

/-- **What happens once the flag is set and those who wait are woken.** -/
theorem exit_stops (henter : .enter ∈ earlier)
    (h : Run (lifecycle P) (later ++ .woken :: earlier) s) :
    later.countP LifecycleEvent.isAttempt ≤ 1 ∧ later.countP LifecycleEvent.isStep ≤ 4 ∧
      .thread .woke ∉ later := by
  obtain ⟨s₀, hearlier, hlater⟩ := Run.split h
  have htold := told hearlier
  have hstopping : Stopping s₀ := by
    obtain ⟨s₁, -, hwoken⟩ := Run.last hearlier
    cases hwoken with
    | woken _ =>
        obtain ⟨hflag, hwoken⟩ := htold.joining rfl
        exact ⟨htold.started (List.mem_cons_of_mem _ henter), hflag, hwoken, by simp⟩
  obtain ⟨-, hattempts⟩ := Run.ranked (fun s => s.refresher.phase.attempts)
    LifecycleEvent.isAttempt hstopping (fun _ _ _ hs hst => ⟨hs.step hst, (hs.ranked hst).2⟩) hlater
  obtain ⟨-, hsteps⟩ := Run.ranked (fun s => s.refresher.phase.left)
    LifecycleEvent.isStep hstopping (fun _ _ _ hs hst => ⟨hs.step hst, (hs.ranked hst).1⟩) hlater
  have hwoke : Stopping s ∧ .thread .woke ∉ later := by
    refine hlater.invariant (P := fun es s => Stopping s ∧ .thread .woke ∉ es) ?_ ?_
    · rintro s rfl
      exact ⟨hstopping, by simp⟩
    · rintro es s e s' - ih hst
      refine ⟨ih.1.step hst, ?_⟩
      rintro (_ | ⟨_, hmem⟩)
      · cases hst with
        | thread _ hallows => exact absurd (ih.1.woken.symm.trans hallows.2) (by simp)
      · exact ih.2 hmem
  have hone : s₀.refresher.phase.attempts ≤ 1 := by
    cases s₀.refresher.phase <;> simp [Phase.attempts]
  have hfour : s₀.refresher.phase.left ≤ 4 := by
    cases s₀.refresher.phase <;> simp [Phase.left]
  exact ⟨by omega, by omega, hwoke.2⟩

/-- **Once `__exit__` has returned**, the thread is gone for good. -/
theorem exited_is_final (h : Run (lifecycle P) (later ++ .exited :: earlier) s) :
    ∃ s₀, Run (lifecycle P) (.exited :: earlier) s₀ ∧ s.refresher.files = s₀.refresher.files ∧
      later.countP LifecycleEvent.isStep = 0 ∧ .enter ∉ later := by
  obtain ⟨s₀, hearlier, hlater⟩ := Run.split h
  refine ⟨s₀, hearlier, ?_⟩
  have hgone : s₀.started = true ∧ ∃ raised, s₀.refresher.phase = .ended raised := by
    obtain ⟨s₁, -, hexited⟩ := Run.last hearlier
    cases hexited with
    | exited _ hstarted hphase => exact ⟨hstarted, _, hphase⟩
  suffices hgone : s.started = true ∧ (∃ raised, s.refresher.phase = .ended raised) ∧
      s.refresher.files = s₀.refresher.files ∧ later.countP LifecycleEvent.isStep = 0 ∧
      .enter ∉ later from hgone.2.2
  refine hlater.invariant (P := fun es s => s.started = true ∧
    (∃ raised, s.refresher.phase = .ended raised) ∧ s.refresher.files = s₀.refresher.files ∧
    es.countP LifecycleEvent.isStep = 0 ∧ .enter ∉ es) ?_ ?_
  · rintro s rfl
    exact ⟨hgone.1, hgone.2, rfl, rfl, by simp⟩
  · rintro es s e s' - ⟨hstarted, ⟨raised, hphase⟩, hfiles, hcount, henter⟩ hst
    have hnot : ∀ p, s.refresher.phase = p → (∀ raised, p ≠ .ended raised) → False :=
      fun p hp hne => hne raised (hp.symm.trans hphase)
    cases hst with
    | thread hstep _ =>
        cases hstep with
        | pass _ => exact ⟨hstarted, ⟨raised, hphase⟩, hfiles,
            by simpa [LifecycleEvent.isStep] using hcount, by simpa using henter⟩
        | calculated h _ => exact (hnot _ h (by simp)).elim
        | woke h _ => exact (hnot _ h (by simp)).elim
        | attempted h => exact (hnot _ h (by simp)).elim
        | returned h => exact (hnot _ h (by simp)).elim
        | slept h _ => exact (hnot _ h (by simp)).elim
        | stopped h =>
            rcases h with h | ⟨u, h⟩
            · exact (hnot _ h (by simp)).elim
            · exact (hnot _ h (by simp)).elim
    | enter _ hnew => exact absurd (hstarted.symm.trans hnew) (by simp)
    | _ => exact ⟨hstarted, ⟨raised, hphase⟩, hfiles, by simpa [LifecycleEvent.isStep] using hcount,
        by simpa using henter⟩

/-- **The thread stops when told to, and not of itself.** -/
theorem stopped_by_exit (h : Run (lifecycle P) (.thread .stopped :: es) s) :
    ∃ later earlier, es = later ++ .exit :: earlier ∧ .entered ∉ later := by
  obtain ⟨s₀, hes, hstopped⟩ := Run.last h
  cases hstopped with
  | thread _ hallows => exact (told hes).exited hallows.2

end

/-! ### The way out -/

/-- The time that passes. -/
def elapsed : List LifecycleEvent → ℚ
  | [] => 0
  | .thread (.pass t) :: es => t + elapsed es
  | _ :: es => elapsed es

section
variable {P : TokenManager} {s s' : Lifecycle} {e : LifecycleEvent} {es : List LifecycleEvent}
  {env : ServerEnv} {d : ℚ}

/-- From the end of `es`, `__exit__` can return within `d` seconds, with every refresh answered by
`env`. -/
def CanExit (P : TokenManager) (env : ServerEnv) (d : ℚ) (es : List LifecycleEvent) : Prop :=
  ∃ later s, Run (lifecycle P) (.exited :: later ++ es) s ∧
    (∀ env', .thread (.attempted env') ∈ later → env' = env) ∧ elapsed later ≤ d

theorem elapsed_append (later : List LifecycleEvent) (e : LifecycleEvent) :
    elapsed (later ++ [e]) = elapsed later + elapsed [e] := by
  induction later with
  | nil => simp [elapsed]
  | cons a later ih =>
      have hcons : ∀ l, elapsed (a :: l) = elapsed [a] + elapsed l := by
        intro l
        cases a with
        | thread e => cases e <;> simp [elapsed]
        | _ => simp [elapsed]
      rw [List.cons_append, hcons, ih, hcons later, add_assoc]

theorem CanExit.after (h : CanExit P env d (e :: es))
    (he : ∀ env', e = .thread (.attempted env') → env' = env) :
    CanExit P env (d + elapsed [e]) es := by
  obtain ⟨later, s, hrun, hattempts, hle⟩ := h
  refine ⟨later ++ [e], s, by simpa using hrun, fun env' hmem => ?_, ?_⟩
  · rcases List.mem_append.mp hmem with hmem | hmem
    · exact hattempts env' hmem
    · exact he env' (List.mem_singleton.mp hmem).symm
  · rw [elapsed_append]
    linarith

theorem CanExit.retry (h : CanExit P env 0 es) :
    CanExit P env DEFAULT_RETRY_INTERVAL_SECONDS es := by
  obtain ⟨later, s, hrun, hattempts, hle⟩ := h
  exact ⟨later, s, hrun, hattempts, le_trans hle (by norm_num [DEFAULT_RETRY_INTERVAL_SECONDS])⟩

/-- The caller is in `join`, for a thread that was told to stop. -/
structure Leaving (P : TokenManager) (es : List LifecycleEvent) (s : Lifecycle) : Prop where
  run : Run (lifecycle P) es s
  started : s.started = true
  caller : s.caller = .joining

/-- The thread takes a step. -/
theorem Leaving.step (h : Leaving P es s) {e : RefresherEvent} {r : Refresher}
    (hst : RefresherStep P s.refresher e r) (hallows : s.allows e) :
    Leaving P (.thread e :: es) { s with refresher := r } :=
  ⟨h.run.step (.thread hst hallows), h.started, h.caller⟩

theorem Leaving.canExit_of_ended (h : Leaving P es s) {raised : Option Exc}
    (hphase : s.refresher.phase = .ended raised) : CanExit P env 0 es :=
  ⟨[], _, h.run.step (.exited h.caller h.started hphase), by simp, le_refl _⟩

theorem Leaving.canExit_of_looping (h : Leaving P es s)
    (hphase : s.refresher.phase = .looping ∨ ∃ u, s.refresher.phase = .waiting u) :
    CanExit P env 0 es := by
  have hstop := h.step (.stopped hphase) ⟨h.started, ((told h.run).joining h.caller).1⟩
  have hexit : CanExit P env 0 (.thread .stopped :: es) := hstop.canExit_of_ended rfl
  simpa [elapsed] using hexit.after (by simp)

theorem Leaving.canExit_of_sleeping (h : Leaving P es s) {u : ℚ}
    (hphase : s.refresher.phase = .sleeping u) :
    CanExit P env DEFAULT_RETRY_INTERVAL_SECONDS es := by
  have hu := (told h.run).sleeping u hphase
  have hpass := h.step (.pass (t := DEFAULT_RETRY_INTERVAL_SECONDS)
    (by norm_num [DEFAULT_RETRY_INTERVAL_SECONDS])) trivial
  have hslept := hpass.step (.slept hphase hu) h.started
  have hexit : CanExit P env 0 (.thread .slept :: .thread (.pass _) :: es) :=
    hslept.canExit_of_looping (.inl rfl)
  simpa [elapsed] using (hexit.after (by simp)).after (by simp)

theorem Leaving.canExit_of_attempted (h : Leaving P es s) {since : ℚ} {r : Except Exc Unit}
    (hphase : s.refresher.phase = .attempted since r) :
    CanExit P env DEFAULT_RETRY_INTERVAL_SECONDS es := by
  have hreturned := h.step (.returned hphase) h.started
  have hexit : CanExit P env DEFAULT_RETRY_INTERVAL_SECONDS (.thread .returned :: es) := by
    cases r with
    | ok u => exact (hreturned.canExit_of_looping (.inl rfl)).retry
    | error e =>
        rcases Bool.eq_false_or_eq_true (handled e) with he | he
        · exact hreturned.canExit_of_sleeping
            (u := s.refresher.now + DEFAULT_RETRY_INTERVAL_SECONDS)
            (by simp [Refresher.returns, Refresher.fails, he])
        · have hended : (s.refresher.returns (.error e)).phase = .ended (some e) := by
            simp [Refresher.returns, Refresher.fails, he]
          exact (hreturned.canExit_of_ended hended).retry
  simpa [elapsed] using hexit.after (by simp)

/-- **`__exit__` returns.**  From every state with its caller in `join`, whatever the libraries answer
a refresh under way, the thread can end and `join` return, with no sleep beyond one retry
interval. -/
theorem exit_returns (henter : .enter ∈ es) (h : Run (lifecycle P) es s)
    (hcaller : s.caller = .joining) (env : ServerEnv) :
    CanExit P env DEFAULT_RETRY_INTERVAL_SECONDS es := by
  have hleaving : Leaving P es s := ⟨h, (told h).started henter, hcaller⟩
  cases hphase : s.refresher.phase with
  | looping => exact (hleaving.canExit_of_looping (.inl hphase)).retry
  | waiting u => exact (hleaving.canExit_of_looping (.inr ⟨u, hphase⟩)).retry
  | attempting since =>
      have hattempt : RefresherStep P s.refresher (.attempted env) _ := .attempted hphase
      have hattempted := hleaving.step hattempt hleaving.started
      have hexit : CanExit P env DEFAULT_RETRY_INTERVAL_SECONDS (.thread (.attempted env) :: es) :=
        hattempted.canExit_of_attempted rfl
      simpa [elapsed] using hexit.after (fun env' he => by cases he; rfl)
  | attempted since r => exact hleaving.canExit_of_attempted hphase
  | sleeping u => exact hleaving.canExit_of_sleeping hphase
  | ended raised => exact (hleaving.canExit_of_ended hphase).retry

end

/-! ### A run of the toy libraries -/

/-- The manager is left while its first refresh begins. -/
theorem leaving_run : ∃ s, Run (lifecycle toyManager)
    [.woken, .exit, .thread .woke, .thread (.calculated (toyAttempt 48 true) 0), .entered, .enter] s ∧
      s.caller = .joining ∧ s.started = true ∧ s.refresher.phase = .attempting 1 := by
  have hduration : (⟨fun _ => none, 1, .looping⟩ : Refresher).duration toyManager
      (toyAttempt 48 true) 0 = .ok (.finite 0) := by
    rw [Refresher.duration, evalBody_calculate rfl]
    rfl
  have hcalculated : RefresherStep toyManager ⟨fun _ => none, 1, .looping⟩
      (.calculated (toyAttempt 48 true) 0) _ := .calculated rfl toyManager_draws.1
  rw [calculates_of_duration (P := toyManager) hduration rfl, add_zero] at hcalculated
  have h := Run.init (S := lifecycle toyManager)
    (s := ⟨⟨fun _ => none, 1, .looping⟩, false, false, false, .outside⟩) ⟨rfl, rfl, rfl, rfl, rfl⟩
  have h := h.step (.enter rfl rfl)
  have h := h.step (.entered rfl)
  have h := h.step (.thread hcalculated ⟨rfl, rfl⟩)
  have h := h.step (.thread (.woke rfl (le_refl _)) ⟨rfl, rfl⟩)
  have h := h.step (.exit rfl)
  have h := h.step (.woken rfl)
  exact ⟨_, h, rfl, rfl, rfl⟩

/-- The history of that run. -/
def leavingEvents : List LifecycleEvent :=
  [.exit, .thread .woke, .thread (.calculated (toyAttempt 48 true) 0), .entered, .enter]

/-- The refresh does its work after all, -/
theorem leaving_stops : ∃ later s, Run (lifecycle toyManager) (later ++ .woken :: leavingEvents) s ∧
    later.countP LifecycleEvent.isAttempt = 1 ∧ later.countP LifecycleEvent.isStep ≤ 4 ∧
      .thread .woke ∉ later := by
  obtain ⟨s, h, hcaller, hstarted, hphase⟩ := leaving_run
  have hattempt : RefresherStep toyManager s.refresher (.attempted (toyAttempt 48 true)) _ :=
    .attempted hphase
  have h : Run (lifecycle toyManager)
      ([.thread (.attempted (toyAttempt 48 true))] ++ .woken :: leavingEvents) _ :=
    h.step (.thread hattempt hstarted)
  have henter : LifecycleEvent.enter ∈ leavingEvents := by simp [leavingEvents]
  exact ⟨_, _, h, rfl, (exit_stops henter h).2⟩

/-- and `__exit__` returns, -/
theorem leaving_returns : CanExit toyManager (toyAttempt 48 false) DEFAULT_RETRY_INTERVAL_SECONDS
    (.woken :: leavingEvents) := by
  obtain ⟨s, h, hcaller, -, -⟩ := leaving_run
  have henter : LifecycleEvent.enter ∈ .woken :: leavingEvents := by simp [leavingEvents]
  exact exit_returns henter h hcaller _

/-- after which the files stay. -/
theorem left_is_final : ∃ earlier s,
    Run (lifecycle toyManager) ([.thread (.pass 1)] ++ .exited :: earlier) s ∧
      s.refresher.files .attestationToken = some [84, 48] ∧
      ∃ s₀, Run (lifecycle toyManager) (.exited :: earlier) s₀ ∧
        s.refresher.files = s₀.refresher.files := by
  obtain ⟨s, h, hcaller, hstarted, hphase⟩ := leaving_run
  have hflag := ((told h).joining hcaller).1
  have hidentity : attemptIdentity toyManager.audience (toyAttempt 48 true) =
      ⟨toyEcdsa 48, toyMldsa 48, [84, 48]⟩ := toyAttempt_identity 48
  obtain ⟨r, hattempt, htoken, hattempted⟩ : ∃ r,
      RefresherStep toyManager s.refresher (.attempted (toyAttempt 48 true)) r ∧
        r.files .attestationToken = some [84, 48] ∧ r.phase = .attempted 1 (.ok ()) := by
    have h := attempts_of_succeeds (P := toyManager) s.refresher 1 (toyAttempt_filesReplaced 48 true)
    rw [hidentity] at h
    exact ⟨_, .attempted hphase, h⟩
  have h := h.step (.thread hattempt hstarted)
  have h := h.step (.thread (.returned hattempted) hstarted)
  have h := h.step (.thread (.stopped (.inl rfl)) ⟨hstarted, hflag⟩)
  have h := h.step (.exited hcaller hstarted rfl)
  have h : Run (lifecycle toyManager) ([.thread (.pass 1)] ++ .exited :: _) _ :=
    h.step (.thread (.pass (t := 1) (by norm_num)) trivial)
  obtain ⟨s₀, h₀, hfiles, -, -⟩ := exited_is_final h
  exact ⟨_, _, h, htoken, s₀, h₀, hfiles⟩

end PromptEncryption.Server
