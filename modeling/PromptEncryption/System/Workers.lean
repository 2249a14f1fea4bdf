import PromptEncryption.Support.Readers
import PromptEncryption.System.Snapshots

/-!
# System — the workers of a Gunicorn server

`run_gunicorn_app` (`server/wsgi.py`) starts the `TokenManager`'s refresher thread in the master and
then lets Gunicorn fork the workers: thread 0 of process 0 refreshes the files, again and again, and
the workers, each with its own copy of `_lock` as it was at the fork, read them
(`gunicornRoles`).

* `workers_free_iff`: in every run, no worker's lock is held by nobody exactly when every worker was
  forked while the refresher did not hold the lock; and then every call gets the lock.
* `snapshot_together_iff`: a worker's snapshot is of one refresh where, and only where, the three
  files had been replaced equally often when it read them.
* `forked_while_refreshing`, `straddling_snapshot`: runs in which a worker is born with the lock held,
  and in which a refresh runs between a worker's reads.
-/

namespace PromptEncryption.Server
open Python Programs Runs

/-- The calls in process 0, the master, are the refresher's, in its thread 0: `refresh`, and the
reading of the token that says when.  The workers' threads have other names, and do not refresh. -/
def gunicornRoles : Roles ManagerCall
  | 0, t, j => t = 0 ∧ (j = .refresh ∨ j = .attestationToken)
  | _ + 1, t, j => t ≠ 0 ∧ j ≠ .refresh

abbrev ServerFleet := Fleet File Bytes Exc Question Answer ManagerCall ManagerResult

abbrev ServerEvent := FleetEvent File Bytes Exc Question Answer ManagerCall ManagerResult

theorem gunicornRoles_disjoint {p t : Nat} {j i : ManagerCall} (hp : p ≠ 0)
    (h : gunicornRoles p t j) : ¬ gunicornRoles 0 t i := by
  cases p with
  | zero => exact absurd rfl hp
  | succ p => exact fun h0 => h.1 h0.1

/-! ### The calls and the lock -/

theorem lockFree_readFile (f : File) : LockFreeBody (readFile f) := by
  refine .bind (.tryCatch (.readRaw f) fun e => .lift _) fun content => ?_
  cases content with
  | none => exact .lift _
  | some b => exact trivial

theorem lockFree_writeFile (f : File) (b : Bytes) : LockFreeBody (writeFile f b) :=
  .tryCatch (.replace f b) fun _ => .lift _

theorem lockFree_readToken : LockFreeBody readToken := by
  refine .bind (.tryCatch (.readRaw _) fun e => ?_) fun content => trivial
  by_cases h : e.isinstance .fileNotFoundError = true
  · rw [if_pos h]
    exact trivial
  · rw [if_neg h]
    exact .lift _

theorem lockFree_generateKeyPair : LockFreeBody generateKeyPair :=
  .bind (.ask _) fun _ => .bind (lockFree_writeFile _ _) fun _ =>
    .bind (lockFree_writeFile _ _) fun _ => .bind (.ask _) fun _ =>
      .bind (lockFree_writeFile _ _) fun _ => .bind (.ask _) fun _ =>
        .bind (lockFree_writeFile _ _) fun _ => trivial

/-- Every call gives back the lock it takes. -/
theorem manager_disciplined (audience : String) (answers : Answers) (j : ManagerCall) :
    Disciplined ((manager audience answers).prog j) false := by
  cases j with
  | refresh =>
      exact LockFreeBody.disciplined (.bind lockFree_generateKeyPair fun _ =>
        .bind (lockFree_readFile _) fun _ => .bind (lockFree_readFile _) fun _ =>
          .bind (.ask _) fun _ => lockFree_writeFile _ _)
  | snapshot =>
      exact LockFreeBody.disciplined (.bind (lockFree_readFile _) fun _ =>
        .bind (lockFree_readFile _) fun _ => .bind lockFree_readToken fun _ => trivial)
  | publicKey => exact LockFreeBody.disciplined (lockFree_readFile _)
  | pqcPublicKey => exact LockFreeBody.disciplined (lockFree_readFile _)
  | attestationToken => exact LockFreeBody.disciplined lockFree_readToken

/-! ### Workers born with the lock held -/

/-- The calls of `TokenManager`, any step of which may fail. -/
def failingManager (audience : String) (answers : Answers) :
    Setting File Bytes Exc Question Answer ManagerCall ManagerResult :=
  { manager audience answers with mayFail := fun _ => True }

section
variable {audience : String} {answers : Answers} {init : Store → Prop} {es : List ServerEvent}
  {fl : ServerFleet}

/-- **A lock held by nobody.**  In every run, whatever fails in it, no process has a lock that is
held by none of its threads exactly when every worker was forked while the refresher did not hold
the lock; and where that is so, every call of a worker that asks for the lock can get it. -/
theorem workers_free_iff
    (h : Run ((failingManager audience answers).fleet gunicornRoles init) es fl) :
    ((∀ w, ¬ Orphaned fl w) ↔ ∀ w lock, .fork w lock ∈ es → lock = none) ∧
      ((∀ w lock, .fork w lock ∈ es → lock = none) → ∀ w worker u j q,
        fl.processes w = some worker → worker.threads u = some (j, .acquire q) →
        CanAcquire (failingManager audience answers) gunicornRoles init es w u (j, .acquire q)) := by
  have hprog : ∀ j, Disciplined ((failingManager audience answers).prog j) false :=
    manager_disciplined audience answers
  have hroles : ∀ p t j i, p ≠ 0 → gunicornRoles p t j → ¬ gunicornRoles 0 t i :=
    fun _ _ _ _ => gunicornRoles_disjoint
  have hiff : (∀ w, ¬ Orphaned fl w) ↔ ∀ w lock, .fork w lock ∈ es → lock = none := by
    constructor
    · intro hfree w lock hfork
      cases lock with
      | none => rfl
      | some t => exact absurd ((orphaned_iff hprog hroles h w).mpr ⟨t, hfork⟩) (hfree w)
    · intro hforks w horphan
      obtain ⟨t, hfork⟩ := (orphaned_iff hprog hroles h w).mp horphan
      cases hforks w _ hfork
  refine ⟨hiff, fun hforks w worker u j q hw hu => ?_⟩
  have : Nonempty Exc := ⟨⟨.runtimeError, []⟩⟩
  exact exists_acquires hprog hroles (fun _ _ => .inl trivial) h (hiff.mpr hforks w) hw hu

end

/-- The master before it forks. -/
def toyMaster : ServerFleet :=
  ⟨toyStore, fun p => if p = 0 then some ⟨none, fun _ => none⟩ else none⟩

theorem toyMaster_init : toyMaster.files = toyStore ∧
    toyMaster.processes 0 = some ⟨none, fun _ => none⟩ ∧
      ∀ p, p ≠ 0 → toyMaster.processes p = none :=
  ⟨rfl, rfl, fun _ hp => if_neg hp⟩

/-- The refresher reads the token, begins a refresh, and Gunicorn forks a worker. -/
theorem forked_while_refreshing : ∃ es fl w,
    Run ((failingManager Client.DEFAULT_AUDIENCE toyAnswers).fleet gunicornRoles (· = toyStore))
      es fl ∧ Orphaned fl w := by
  have h := Run.init
    (S := (failingManager Client.DEFAULT_AUDIENCE toyAnswers).fleet gunicornRoles (· = toyStore))
    toyMaster_init
  have h := h.step (.run (p := 0) rfl (fun _ => ⟨rfl, .inr rfl⟩)
    (.start (t := 0) (j := .attestationToken) rfl))
  have h := h.step (.run (p := 0) rfl (by simp) (.acquire (t := 0) rfl rfl))
  have h := h.step (.run (p := 0) rfl (by simp) (.read (t := 0) rfl))
  have h := h.step (.run (p := 0) rfl (by simp) (.release (t := 0) rfl rfl))
  have h := h.step (.run (p := 0) rfl (by simp) (.finish (t := 0) (r := .bytes (.ok [84, 48])) rfl))
  have h := h.step (.run (p := 0) rfl (fun _ => ⟨rfl, .inl rfl⟩)
    (.start (t := 0) (j := .refresh) rfl))
  have h := h.step (.run (p := 0) rfl (by simp) (.acquire (t := 0) rfl rfl))
  have h := h.step (.fork (c := 1) rfl rfl)
  exact ⟨_, _, 1, h, _, 0, rfl, rfl, rfl⟩

/-- A worker forked before the refresh, whose thread asks for the lock. -/
theorem forked_before_refreshing : ∃ es fl,
    Run ((failingManager Client.DEFAULT_AUDIENCE toyAnswers).fleet gunicornRoles (· = toyStore))
      es fl ∧ (∀ w, ¬ Orphaned fl w) ∧
      CanAcquire (failingManager Client.DEFAULT_AUDIENCE toyAnswers) gunicornRoles (· = toyStore) es
        1 1 (.snapshot, (failingManager Client.DEFAULT_AUDIENCE toyAnswers).prog .snapshot) := by
  have h := Run.init
    (S := (failingManager Client.DEFAULT_AUDIENCE toyAnswers).fleet gunicornRoles (· = toyStore))
    toyMaster_init
  have h := h.step (.fork (c := 1) rfl rfl)
  have h := h.step (.run (p := 0) rfl (fun _ => ⟨rfl, .inl rfl⟩)
    (.start (t := 0) (j := .refresh) rfl))
  have h := h.step (.run (p := 0) rfl (by simp) (.acquire (t := 0) rfl rfl))
  have h := h.step (.run (p := 1) rfl (fun _ => ⟨Nat.one_ne_zero, by simp⟩)
    (.start (t := 1) (j := .snapshot) rfl))
  obtain ⟨hiff, hacquire⟩ := workers_free_iff h
  refine ⟨_, _, h, hiff.mpr ?hforks, hacquire ?hforks 1 _ 1 _ _ rfl rfl⟩
  intro w lock hfork
  simp only [List.mem_cons, List.not_mem_nil, reduceCtorEq, or_false, false_or,
    FleetEvent.fork.injEq] at hfork
  exact hfork.2

/-! ### The refresher's files -/

section
variable {audience : String} {answers : Answers} {m : List ManagerEvent} {n : Nat} {i : Identity}
  {rest : List Refresh} {f : File}

/-- The refresh wrote the whole of an identity it made. -/
def Whole (answers : Answers) (audience : String) (r : Refresh) : Prop :=
  ∃ i : Identity, Produced answers audience i ∧ ∀ f, r.wrote f = some (i.content f)

/-- Every refresh is whole but for the newest, which is where it has written the token; and what the
files were replaced by is what the refreshes wrote. -/
structure Ordered (answers : Answers) (audience : String) (m : List ManagerEvent) : Prop where
  older : ∀ r ∈ (refreshes m).tail, Whole answers audience r
  newest : ∀ r ∈ refreshes m, r.wrote .attestationToken ≠ none → Whole answers audience r
  replaced : ∀ f, written f m = (refreshes m).filterMap (·.wrote f)

/-- No refresh is under way. -/
structure AtRest (answers : Answers) (audience : String) (m : List ManagerEvent) : Prop where
  whole : ∀ r ∈ refreshes m, Whole answers audience r
  replaced : ∀ f, written f m = (refreshes m).filterMap (·.wrote f)

/-- A refresh after those of `rest` has written the first `n` files of `i`. -/
structure Underway (answers : Answers) (audience : String) (m : List ManagerEvent) (n : Nat)
    (i : Identity) (rest : List Refresh) : Prop where
  refreshes : refreshes m = ⟨0, Store.overwrite (fun _ => none) n i, false⟩ :: rest
  older : ∀ r ∈ rest, Whole answers audience r
  replaced : ∀ f, written f m =
    (Store.overwrite (fun _ => none) n i f).toList ++ rest.filterMap (·.wrote f)

theorem AtRest.ordered (h : AtRest answers audience m) : Ordered answers audience m :=
  ⟨fun r hr => h.whole r (List.mem_of_mem_tail hr), fun r hr _ => h.whole r hr, h.replaced⟩

/-- What neither writes nor takes or gives back the lock for a refresh. -/
theorem AtRest.other (h : AtRest answers audience m) {e : ManagerEvent}
    (hrefreshes : refreshes (e :: m) = refreshes m)
    (hwritten : ∀ f, written f (e :: m) = written f m) :
    AtRest answers audience (e :: m) :=
  ⟨by rw [hrefreshes]; exact h.whole, fun f => by rw [hwritten, hrefreshes]; exact h.replaced f⟩

theorem AtRest.acquire (h : AtRest answers audience m) (i : Identity) :
    Underway answers audience (⟨0, .refresh, .acquire⟩ :: m) 0 i (refreshes m) :=
  ⟨rfl, h.whole, h.replaced⟩

theorem filterMap_wrote (r : Refresh) :
    (r :: rest).filterMap (·.wrote f) = (r.wrote f).toList ++ rest.filterMap (·.wrote f) := by
  rw [List.filterMap_cons]
  cases r.wrote f <;> rfl

theorem Underway.ordered (h : Underway answers audience m n i rest)
    (hn : n ≤ 4 ∨ Produced answers audience i) : Ordered answers audience m := by
  refine ⟨by rw [h.refreshes]; exact h.older, fun r hr htoken => ?_, fun f => ?_⟩
  · rw [h.refreshes] at hr
    rcases List.mem_cons.mp hr with rfl | hr
    · have hwrote : 4 < n := by
        by_contra hle
        exact htoken (if_neg hle)
      refine ⟨i, hn.resolve_left (by omega), fun f => if_pos ?_⟩
      have hindex : f.index ≤ 4 := by cases f <;> simp [File.index]
      omega
    · exact h.older r hr
  · rw [h.refreshes, filterMap_wrote]
    exact h.replaced f

/-- What is known of the identity may grow. -/
theorem Underway.agree (h : Underway answers audience m n i rest) (i' : Identity)
    (hi : ∀ f : File, f.index < n → i'.content f = i.content f) :
    Underway answers audience m n i' rest := by
  have hstore : Store.overwrite (fun _ => none) n i' = Store.overwrite (fun _ => none) n i := by
    funext f
    by_cases hf : f.index < n
    · simp [Store.overwrite, hf, hi f hf]
    · simp [Store.overwrite, hf]
  exact ⟨by rw [hstore]; exact h.refreshes, h.older, fun f => by rw [hstore]; exact h.replaced f⟩

theorem Underway.ask (h : Underway answers audience m n i rest) {q : Question}
    {a : Except Exc (Answer q)} :
    Underway answers audience (⟨0, .refresh, .ask q a⟩ :: m) n i rest :=
  ⟨h.refreshes, h.older, h.replaced⟩

theorem Underway.read (h : Underway answers audience m n i rest) {g : File}
    {a : Except Exc (Option Bytes)} :
    Underway answers audience (⟨0, .refresh, .read g a⟩ :: m) n i rest :=
  ⟨h.refreshes, h.older, h.replaced⟩

/-- The refresh writes its next file. -/
theorem Underway.write (h : Underway answers audience m n i rest) (hf : f.index = n) :
    Underway answers audience (⟨0, .refresh, .write f (i.content f) (.ok ())⟩ :: m) (n + 1) i
      rest := by
  subst hf
  refine ⟨?_, h.older, fun g => ?_⟩
  · rw [← Store.overwrite_next]
    have hrecord := @record_write 0 rest f (i.content f)
      (Store.overwrite (fun _ => none) f.index i) false
    rw [← h.refreshes] at hrecord
    exact hrecord
  · by_cases hg : f = g
    · subst hg
      have hnew : written f (⟨0, .refresh, .write f (i.content f) (.ok ())⟩ :: m) =
          i.content f :: written f m := if_pos rfl
      rw [hnew, h.replaced f]
      simp [Store.overwrite]
    · have hold : written g (⟨0, .refresh, .write f (i.content f) (.ok ())⟩ :: m) =
          written g m := if_neg hg
      rw [hold, h.replaced g, ← Store.overwrite_next, Function.update_of_ne (Ne.symm hg)]

theorem Underway.release (h : Underway answers audience m 5 i rest)
    (hi : Produced answers audience i) :
    AtRest answers audience (⟨0, .refresh, .release⟩ :: m) := by
  have hrefreshes : Server.refreshes (⟨0, .refresh, .release⟩ :: m) =
      ⟨0, Store.overwrite (fun _ => none) 5 i, true⟩ :: rest := by
    have hrecord := @record_release 0 rest (Store.overwrite (fun _ => none) 5 i) false
    rw [← h.refreshes] at hrecord
    exact hrecord
  refine ⟨fun r hr => ?_, fun f => ?_⟩
  · rw [hrefreshes] at hr
    rcases List.mem_cons.mp hr with rfl | hr
    · refine ⟨i, hi, fun f => if_pos ?_⟩
      cases f <;> simp [File.index]
    · exact h.older r hr
  · rw [hrefreshes, filterMap_wrote]
    exact h.replaced f

/-- **A refresh, alone with the files**, passes only through ordered ones, and ends whole. -/
theorem refresh_along (s : Store) (h : AtRest answers audience m) :
    Along (manager audience answers) 0 .refresh (Ordered answers audience) (AtRest answers audience)
      ((manager audience answers).prog .refresh) s m := by
  have never {P : Prop} : (manager audience answers).mayFail .refresh → P := False.elim
  have h₀ := h.acquire ⟨⟨[], []⟩, ⟨[], []⟩, []⟩
  refine ⟨h₀.ordered (.inl (by omega)), fun ecdsa hecdsa => ?_, never⟩
  have h₁ := (h₀.ask (q := .generateEcdsa) (a := .ok ecdsa)).agree ⟨ecdsa, ⟨[], []⟩, []⟩
    fun f hf => absurd hf (by omega)
  refine ⟨h₁.ordered (.inl (by omega)), ?_, never⟩
  have h₂ := h₁.write (f := .privateKey) rfl
  refine ⟨h₂.ordered (.inl (by omega)), ?_, never⟩
  have h₃ := h₂.write (f := .publicKey) rfl
  refine ⟨h₃.ordered (.inl (by omega)), fun pqc hpqc => ?_, never⟩
  have h₄ := (h₃.ask (q := .generateMldsa) (a := .ok pqc)).agree ⟨ecdsa, pqc, []⟩ fun f hf => by
    cases f with
    | privateKey => rfl
    | publicKey => rfl
    | _ => simp [File.index] at hf
  refine ⟨h₄.ordered (.inl (by omega)), ?_, never⟩
  have h₅ := h₄.write (f := .pqcPrivateKey) rfl
  refine ⟨h₅.ordered (.inl (by omega)), fun _ _ => ?_, never⟩
  have h₅ := h₅.ask (q := .serializePublicKeyset) (a := .ok ())
  refine ⟨h₅.ordered (.inl (by omega)), ?_, never⟩
  have h₆ := h₅.write (f := .pqcPublicKey) rfl
  refine ⟨h₆.ordered (.inl (by omega)), ?_, never⟩
  -- both public keys are read back
  have h₇ := h₆.read (g := .publicKey) (a := .ok (some ecdsa.pub))
  refine ⟨h₇.ordered (.inl (by omega)), ?_, never⟩
  have h₈ := h₇.read (g := .pqcPublicKey) (a := .ok (some pqc.pub))
  refine ⟨h₈.ordered (.inl (by omega)), fun token htoken => ?_, never⟩
  have hproduced : Produced answers audience ⟨ecdsa, pqc, token⟩ := ⟨hecdsa, hpqc, htoken⟩
  have h₉ := (h₈.ask (q := .fetchToken (fingerprints ecdsa pqc) audience) (a := .ok token)).agree
    ⟨ecdsa, pqc, token⟩ fun f hf => by
      cases f with
      | attestationToken => simp [File.index] at hf
      | _ => rfl
  refine ⟨h₉.ordered (.inl (by omega)), ?_, never⟩
  have h₁₀ := h₉.write (f := .attestationToken) rfl
  refine ⟨h₁₀.ordered (.inr hproduced), ?_⟩
  have h₁₁ := h₁₀.release hproduced
  exact ⟨h₁₁.ordered, h₁₁⟩

theorem attestationToken_along (s : Store) (h : AtRest answers audience m) :
    Along (manager audience answers) 0 .attestationToken (Ordered answers audience)
      (AtRest answers audience) ((manager audience answers).prog .attestationToken) s m := by
  have never {P : Prop} : (manager audience answers).mayFail .attestationToken → P := False.elim
  have h₁ := h.other (e := ⟨0, .attestationToken, .acquire⟩) rfl fun _ => rfl
  have h₂ := h₁.other
    (e := ⟨0, .attestationToken, .read .attestationToken (.ok (s .attestationToken))⟩) rfl
    fun _ => rfl
  have h₃ := h₂.other (e := ⟨0, .attestationToken, .release⟩) rfl fun _ => rfl
  exact ⟨h₁.ordered, ⟨h₂.ordered, h₃.ordered, h₃⟩, never⟩

/-- What a call returns of what it has read. -/
def ReturnsRead : ManagerCall → ManagerResult → List (File × Option Bytes) → Prop
  | .snapshot, .snapshot (.ok triple), obs => ∃ token,
      obs = [(.attestationToken, token), (.pqcPublicKey, some triple.2.1),
        (.publicKey, some triple.1)] ∧ triple.2.2 = token.getD []
  | _, _, _ => True

theorem readFile_readsTo {j : ManagerCall}
    {Θ : Except Exc Bytes → List (File × Option Bytes) → Prop}
    {obs : List (File × Option Bytes)} (hnew : ∀ o, (f, o) ∉ obs)
    (hok : ∀ b, Θ (.ok b) ((f, some b) :: obs)) (herror : ∀ e obs, Θ (.error e) obs) :
    ReadsTo (manager audience answers) j Θ (readFile f) obs := by
  refine ⟨hnew, fun o => ?_, False.elim⟩
  cases o with
  | none => exact herror _ _
  | some b => exact hok b

theorem readToken_readsTo {j : ManagerCall}
    {Θ : Except Exc Bytes → List (File × Option Bytes) → Prop} {obs : List (File × Option Bytes)}
    (hnew : ∀ o, (.attestationToken, o) ∉ obs)
    (hok : ∀ o, Θ (.ok (o.getD [])) ((.attestationToken, o) :: obs)) :
    ReadsTo (manager audience answers) j Θ readToken obs :=
  ⟨hnew, hok, False.elim⟩

/-- A body under the lock reads what the body reads. -/
theorem section_readsTo {j : ManagerCall} {α : Type} {g : Except Exc α → ManagerResult}
    {x : Action α} {Θ : ManagerResult → List (File × Option Bytes) → Prop}
    (hx : ReadsTo (manager audience answers) j (fun r obs => Θ (g r) obs) x []) :
    ReadsTo (manager audience answers) j Θ (Prog.map g (withLock x)) [] := by
  rw [map_withLock]
  exact readsTo_bind.mpr (readsTo_bind.mpr hx)

/-- **A worker's call** returns what it has read. -/
theorem worker_reads {j : ManagerCall} (hj : j ≠ .refresh) :
    ReadsTo (manager audience answers) j (ReturnsRead j) ((manager audience answers).prog j) [] := by
  cases j with
  | refresh => exact absurd rfl hj
  | snapshot =>
      refine section_readsTo (readsTo_bind.mpr ?_)
      refine readFile_readsTo (by simp) (fun pub => ?_) fun _ _ => trivial
      refine readsTo_bind.mpr (readFile_readsTo (by simp) (fun pqcPub => ?_) fun _ _ => trivial)
      exact readsTo_bind.mpr (readToken_readsTo (by simp) fun token => ⟨token, rfl, rfl⟩)
  | publicKey =>
      exact section_readsTo (readFile_readsTo (by simp) (fun _ => trivial) fun _ _ => trivial)
  | pqcPublicKey =>
      exact section_readsTo (readFile_readsTo (by simp) (fun _ => trivial) fun _ _ => trivial)
  | attestationToken => exact section_readsTo (readToken_readsTo (by simp) fun _ => trivial)

/-- The refresher is the one writer. -/
theorem gunicorn_oneWriter : OneWriter (manager audience answers) gunicornRoles
    (Ordered answers audience) (AtRest answers audience) ReturnsRead where
  disciplined := manager_disciplined audience answers
  roles _ _ _ _ := gunicornRoles_disjoint
  one _ _ h := h.1
  along j hj es s h := by
    rcases hj.2 with rfl | rfl
    · exact refresh_along s h
    · exact attestationToken_along s h
  rest _ h := h.ordered
  starts j es h := h.other (by cases j <;> rfl) fun _ => rfl
  ends j r es h := h.other (by cases j <;> rfl) fun _ => rfl
  reads p t j hp h := by
    cases p with
    | zero => exact absurd rfl hp
    | succ p => exact worker_reads h.2

end

/-! ### Snapshots of one refresh -/

section
variable {audience : String} {answers : Answers} {s₀ : Store} {m : List ManagerEvent}

/-- The triple was made by one refresh: an earlier server's, which left the initial files, or one of
`rs`, which wrote the whole of it. -/
def Together (answers : Answers) (audience : String) (s₀ : Store) (rs : List Refresh)
    (triple : Bytes × Bytes × Bytes) : Prop :=
  ∃ i : Identity, Produced answers audience i ∧ triple = i.triple ∧
    (Holds s₀ triple ∨ ∃ r ∈ rs, ∀ f, r.wrote f = some (i.content f))

/-- The three files had been replaced equally often when thread `t` of process `w` read them; and
where never, one refresh had left them. -/
structure ReadTogether (answers : Answers) (audience : String) (s₀ : Store)
    (es : List ServerEvent) (w t : Nat) : Prop where
  pqcPublicKey : seen .pqcPublicKey w t es = seen .publicKey w t es
  attestationToken : seen .attestationToken w t es = seen .publicKey w t es
  initial : seen .publicKey w t es = 0 →
    ∃ i : Identity, Produced answers audience i ∧ Holds s₀ i.triple

/-- No file holds again what it held before; a missing file reads as empty. -/
def Renewing (s₀ : Store) (m : List ManagerEvent) : Prop :=
  ∀ f, ((contents s₀ f m).map (·.getD [])).Nodup

/-- What was written to a file, by the number of the refresh. -/
theorem reverse_filterMap_wrote {rs : List Refresh} {f : File}
    (h : ∀ r ∈ rs.tail, Whole answers audience r) (k : Nat) :
    (rs.filterMap (·.wrote f)).reverse[k]? = rs.reverse[k]?.bind (·.wrote f) := by
  cases rs with
  | nil => rfl
  | cons r rest =>
      have hwhole : ∀ r ∈ rest, r.wrote f = some ((r.wrote f).getD []) := by
        intro r hr
        obtain ⟨i, -, hi⟩ := h r hr
        rw [hi f]
        rfl
      have hrest : rest.filterMap (·.wrote f) = rest.map fun r => (r.wrote f).getD [] :=
        (List.filterMap_congr hwhole).trans (congrFun List.filterMap_eq_map rest)
      rw [filterMap_wrote, List.reverse_append, List.reverse_cons, hrest, ← List.map_reverse]
      by_cases hk : k < rest.length
      · rw [List.getElem?_append_left (by simpa using hk),
          List.getElem?_append_left (by simpa using hk), List.getElem?_map]
        obtain ⟨r', hr'⟩ : ∃ r', rest.reverse[k]? = some r' :=
          ⟨_, List.getElem?_eq_getElem (by simpa using hk)⟩
        rw [hr']
        exact (hwhole r' (List.mem_reverse.mp (List.mem_of_getElem? hr'))).symm
      · -- the newest refresh
        rw [List.getElem?_append_right (by simpa using hk),
          List.getElem?_append_right (by simpa using hk), List.length_map, List.length_reverse]
        cases hw : r.wrote f with
        | none => cases k - rest.length <;> simp [hw]
        | some b => cases k - rest.length <;> simp [hw]

theorem Ordered.contents_succ (h : Ordered answers audience m) (f : File) (k : Nat) :
    (contents s₀ f m)[k + 1]? = ((refreshes m).reverse[k]?.bind (·.wrote f)).map some := by
  rw [contents, List.getElem?_cons_succ, List.getElem?_map, h.replaced f,
    reverse_filterMap_wrote h.older k]

theorem Renewing.index_eq (h : Renewing s₀ m) {f : File} {k k' : Nat} {o o' : Option Bytes}
    (hk : (contents s₀ f m)[k]? = some o) (hk' : (contents s₀ f m)[k']? = some o')
    (ho : o.getD [] = o'.getD []) : k = k' := by
  have hlen : k < ((contents s₀ f m).map (·.getD [])).length := by
    rw [List.length_map]
    exact (List.getElem?_eq_some_iff.mp hk).1
  refine (List.getElem?_inj hlen (h f)).mp ?_
  rw [List.getElem?_map, List.getElem?_map, hk, hk']
  exact congrArg some ho

/-- Files that had been replaced equally often are of one refresh. -/
theorem Ordered.together (h : Ordered answers audience m) {k : Nat}
    (hs₀ : k = 0 → ∃ i : Identity, Produced answers audience i ∧ Holds s₀ i.triple)
    {pub pqcPub : Bytes} {token : Option Bytes}
    (hpub : (contents s₀ .publicKey m)[k]? = some (some pub))
    (hpqc : (contents s₀ .pqcPublicKey m)[k]? = some (some pqcPub))
    (htoken : (contents s₀ .attestationToken m)[k]? = some token) :
    Together answers audience s₀ (refreshes m) (pub, pqcPub, token.getD []) := by
  cases k with
  | zero =>
      obtain ⟨i, hi, hholds⟩ := hs₀ rfl
      have h₁ : i.ecdsa.pub = pub := Option.some.inj (hholds.1.symm.trans (Option.some.inj hpub))
      have h₂ : i.pqc.pub = pqcPub := Option.some.inj (hholds.2.1.symm.trans (Option.some.inj hpqc))
      have h₃ : some i.token = token := hholds.2.2.symm.trans (Option.some.inj htoken)
      subst h₁ h₂ h₃
      exact ⟨i, hi, rfl, .inl hholds⟩
  | succ k =>
      rw [h.contents_succ, Option.map_eq_some_iff] at hpub hpqc htoken
      obtain ⟨_, hpub, ⟨⟩⟩ := hpub
      obtain ⟨_, hpqc, ⟨⟩⟩ := hpqc
      obtain ⟨c, htoken, rfl⟩ := htoken
      obtain ⟨r, hr, hpub⟩ := Option.bind_eq_some_iff.mp hpub
      rw [hr] at hpqc htoken
      have hmem : r ∈ refreshes m := List.mem_reverse.mp (List.mem_of_getElem? hr)
      have hwrote : r.wrote .attestationToken = some c := htoken
      obtain ⟨i, hi, hall⟩ := h.newest r hmem (by rw [hwrote]; simp)
      obtain rfl : i.ecdsa.pub = pub := Option.some.inj ((hall .publicKey).symm.trans hpub)
      obtain rfl : i.pqc.pub = pqcPub := Option.some.inj ((hall .pqcPublicKey).symm.trans hpqc)
      obtain rfl : i.token = c := Option.some.inj ((hall .attestationToken).symm.trans hwrote)
      exact ⟨i, hi, rfl, .inr ⟨r, hmem, hall⟩⟩

/-- The files of one refresh had been replaced equally often. -/
theorem Together.exists_index (h : Ordered answers audience m) {triple : Bytes × Bytes × Bytes}
    (ht : Together answers audience s₀ (refreshes m) triple) :
    ∃ k : ℕ, (contents s₀ .publicKey m)[k]? = some (some triple.1) ∧
      (contents s₀ .pqcPublicKey m)[k]? = some (some triple.2.1) ∧
      (contents s₀ .attestationToken m)[k]? = some (some triple.2.2) ∧
      (k = 0 → ∃ i : Identity, Produced answers audience i ∧ Holds s₀ i.triple) := by
  obtain ⟨i, hi, rfl, hholds | ⟨r, hr, hall⟩⟩ := ht
  · exact ⟨0, congrArg some hholds.1, congrArg some hholds.2.1, congrArg some hholds.2.2,
      fun _ => ⟨i, hi, hholds⟩⟩
  · obtain ⟨k, hk⟩ : ∃ k : ℕ, (refreshes m).reverse[k]? = some r :=
      List.getElem?_of_mem (List.mem_reverse.mpr hr)
    have hcontent (f : File) : (contents s₀ f m)[k + 1]? = some (some (i.content f)) := by
      rw [h.contents_succ, hk]
      exact congrArg (Option.map some) (hall f)
    exact ⟨k + 1, hcontent .publicKey, hcontent .pqcPublicKey, hcontent .attestationToken, by simp⟩

/-- **Snapshots of workers.**  In every run, a snapshot that a worker's thread is returned is of one
refresh where the three files had been replaced equally often when the thread read them; and where
no file holds again what it held before, only there. -/
theorem snapshot_together_iff {es : List ServerEvent} {fl : ServerFleet}
    (h : Run ((manager audience answers).fleet gunicornRoles (· = s₀)) es fl)
    {later earlier : List ServerEvent} {w t : Nat} (hw : w ≠ 0) {triple : Bytes × Bytes × Bytes}
    (hes : es = later ++ .run w ⟨t, .snapshot, .finish (.snapshot (.ok triple))⟩ :: earlier) :
    (ReadTogether answers audience s₀ earlier w t →
      Together answers audience s₀ (refreshes (masterEvents earlier)) triple) ∧
    (Renewing s₀ (masterEvents earlier) →
      Together answers audience s₀ (refreshes (masterEvents earlier)) triple →
      ReadTogether answers audience s₀ earlier w t) := by
  have hall := (readers_rule gunicorn_oneWriter ⟨fun r hr => absurd hr List.not_mem_nil,
    fun _ => rfl⟩ h).2
  obtain ⟨hordered, hresult⟩ := always_iff.mp hall later _ earlier hes
  obtain ⟨obs, ⟨token, rfl, htriple⟩, hmatch⟩ := hresult w t .snapshot _ hw rfl
  have hpub := hmatch .publicKey (some triple.1) (by simp)
  have hpqc := hmatch .pqcPublicKey (some triple.2.1) (by simp)
  have htoken := hmatch .attestationToken token (by simp)
  constructor
  · rintro ⟨h₁, h₂, hs₀⟩
    rw [h₁] at hpqc
    rw [h₂] at htoken
    have htogether := hordered.together hs₀ hpub hpqc htoken
    rwa [← htriple] at htogether
  · intro hnew ht
    obtain ⟨k, h₁, h₂, h₃, hs₀⟩ := Together.exists_index hordered ht
    have hk := hnew.index_eq hpub h₁ rfl
    exact ⟨(hnew.index_eq hpqc h₂ rfl).trans hk.symm,
      (hnew.index_eq htoken h₃ htriple.symm).trans hk.symm, fun hzero => hs₀ (hk.symm.trans hzero)⟩

end

/-! ### Runs of the toy libraries -/

/-- What the master's refresher does to make the identity numbered 49, the newest first. -/
def masterRefresh : List ServerEvent :=
  [.release, .write .attestationToken [84, 49] (.ok ()),
    .ask (.fetchToken (toyNonces 49) Client.DEFAULT_AUDIENCE) (.ok [84, 49]),
    .read .pqcPublicKey (.ok (some (toyMldsa 49).pub)),
    .read .publicKey (.ok (some (toyEcdsa 49).pub)), .write .pqcPublicKey (toyMldsa 49).pub (.ok ()),
    .ask .serializePublicKeyset (.ok ()), .write .pqcPrivateKey (toyMldsa 49).priv (.ok ()),
    .ask .generateMldsa (.ok (toyMldsa 49)), .write .publicKey (toyEcdsa 49).pub (.ok ()),
    .write .privateKey (toyEcdsa 49).priv (.ok ()), .ask .generateEcdsa (.ok (toyEcdsa 49)),
    .acquire, .start].map fun act => .run 0 ⟨0, .refresh, act⟩

abbrev toyFleet : System ServerFleet ServerEvent :=
  (manager Client.DEFAULT_AUDIENCE toyAnswers).fleet gunicornRoles (· = toyStore)

/-- Steps of the master leave the other processes as they were. -/
theorem exists_master {es : List ServerEvent} {fl fl' : ServerFleet} {files : Store}
    (h : Run toyFleet es fl') (hfiles : ∀ f, fl'.files f = files f)
    (hothers : ∀ p, p ≠ 0 → fl'.processes p = fl.processes p) :
    ∃ master, Run toyFleet es ⟨files, Function.update fl.processes 0 master⟩ := by
  obtain rfl : fl'.files = files := funext hfiles
  have hprocesses : Function.update fl.processes 0 (fl'.processes 0) = fl'.processes := by
    funext p
    by_cases hp : p = 0
    · subst hp
      exact Function.update_self ..
    · exact (Function.update_of_ne hp _ _).trans (hothers p hp).symm
  refine ⟨fl'.processes 0, ?_⟩
  rwa [hprocesses]

theorem masterRefresh_run {es : List ServerEvent} {fl : ServerFleet} (h : Run toyFleet es fl)
    (hmaster : fl.processes 0 = some ⟨none, fun _ => none⟩) :
    ∃ master, Run toyFleet (masterRefresh ++ es)
      ⟨toyFiles 49, Function.update fl.processes 0 master⟩ := by
  have h := h.step (.run (p := 0) hmaster (fun _ => ⟨rfl, .inl rfl⟩)
    (.start (t := 0) (j := .refresh) rfl))
  have h := h.step (.run (p := 0) rfl (by simp) (.acquire (t := 0) rfl rfl))
  have h := h.step (.run (p := 0) rfl (by simp) (.ask (t := 0) (a := toyEcdsa 49) rfl (.inr rfl)))
  have h := h.step (.run (p := 0) rfl (by simp) (.write (t := 0) rfl))
  have h := h.step (.run (p := 0) rfl (by simp) (.write (t := 0) rfl))
  have h := h.step (.run (p := 0) rfl (by simp) (.ask (t := 0) (a := toyMldsa 49) rfl (.inr rfl)))
  have h := h.step (.run (p := 0) rfl (by simp) (.write (t := 0) rfl))
  have h := h.step (.run (p := 0) rfl (by simp) (.ask (t := 0) (a := ()) rfl trivial))
  have h := h.step (.run (p := 0) rfl (by simp) (.write (t := 0) rfl))
  have h := h.step (.run (p := 0) rfl (by simp) (.read (t := 0) rfl))
  have h := h.step (.run (p := 0) rfl (by simp) (.read (t := 0) rfl))
  have h := h.step (.run (p := 0) rfl (by simp)
    (.ask (t := 0) (a := ([84, 49] : Bytes)) rfl (.inr ⟨rfl, rfl⟩)))
  have h := h.step (.run (p := 0) rfl (by simp) (.write (t := 0) rfl))
  have h := h.step (.run (p := 0) rfl (by simp) (.release (t := 0) rfl rfl))
  exact exists_master h (fun f => by cases f <;> rfl) fun p hp => by simp [hp]

/-- A worker reads the first public key, and the other two files after a refresh. -/
theorem straddling_run : ∃ earlier fl, Run toyFleet (.run 1 ⟨1, .snapshot, .finish (.snapshot
    (.ok ((toyEcdsa 48).pub, (toyMldsa 49).pub, [84, 49])))⟩ :: earlier) fl := by
  have h := Run.init (S := toyFleet) toyMaster_init
  have h := h.step (.fork (c := 1) rfl rfl)
  have h := h.step (.run (p := 1) rfl (fun _ => ⟨Nat.one_ne_zero, by simp⟩)
    (.start (t := 1) (j := .snapshot) rfl))
  have h := h.step (.run (p := 1) rfl (by simp) (.acquire (t := 1) rfl rfl))
  have h := h.step (.run (p := 1) rfl (by simp) (.read (t := 1) rfl))
  obtain ⟨master, h⟩ := masterRefresh_run h rfl
  have h := h.step (.run (p := 1) rfl (by simp) (.read (t := 1) rfl))
  have h := h.step (.run (p := 1) rfl (by simp) (.read (t := 1) rfl))
  have h := h.step (.run (p := 1) rfl (by simp) (.release (t := 1) rfl rfl))
  have h := h.step (.run (p := 1) rfl (by simp) (.finish (t := 1)
    (r := .snapshot (.ok ((toyEcdsa 48).pub, (toyMldsa 49).pub, [84, 49]))) rfl))
  exact ⟨_, _, h⟩

theorem toyIdentity_produced :
    Produced toyAnswers Client.DEFAULT_AUDIENCE (toyIdentity 48) :=
  ⟨.inl rfl, .inl rfl, .inl ⟨rfl, rfl⟩⟩

/-- No one refresh makes the first key pair and the second token. -/
theorem not_together {s₀ : Store} {rs : List Refresh} :
    ¬ Together toyAnswers Client.DEFAULT_AUDIENCE s₀ rs
      ((toyEcdsa 48).pub, (toyMldsa 49).pub, [84, 49]) := by
  rintro ⟨i, hi, htriple, -⟩
  have hpub : i.ecdsa.pub = [2, 48] := (congrArg (·.1) htriple).symm
  have htoken : i.token = [84, 49] := (congrArg (·.2.2) htriple).symm
  rcases hi.token with ⟨-, h⟩ | ⟨h, -⟩
  · cases htoken.symm.trans h
  · have heq : calculateFingerprint i.ecdsa.pub = calculateFingerprint [2, 49] :=
      (List.cons.inj h).1
    rw [hpub] at heq
    cases toy_fingerprint_inj _ List.mem_cons_self _
      (List.mem_cons_of_mem _ List.mem_cons_self) heq

/-- A whole refresh runs between two reads of a worker's snapshot. -/
theorem straddling_snapshot : ∃ earlier fl triple,
    Run ((manager Client.DEFAULT_AUDIENCE toyAnswers).fleet gunicornRoles (· = toyStore))
      (.run 1 ⟨1, .snapshot, .finish (.snapshot (.ok triple))⟩ :: earlier) fl ∧
    Produced toyAnswers Client.DEFAULT_AUDIENCE (toyIdentity 48) ∧
    Holds toyStore (toyIdentity 48).triple ∧
    ¬ Together toyAnswers Client.DEFAULT_AUDIENCE toyStore (refreshes (masterEvents earlier))
      triple := by
  obtain ⟨earlier, fl, h⟩ := straddling_run
  exact ⟨earlier, fl, _, h, toyIdentity_produced, ⟨rfl, rfl, rfl⟩, not_together⟩

/-- A worker's snapshot, taken after a refresh. -/
theorem worker_snapshot : ∃ earlier fl,
    Run toyFleet
      (.run 1 ⟨1, .snapshot, .finish (.snapshot (.ok (toyIdentity 49).triple))⟩ :: earlier) fl ∧
    Together toyAnswers Client.DEFAULT_AUDIENCE toyStore (refreshes (masterEvents earlier))
      (toyIdentity 49).triple := by
  have h := Run.init (S := toyFleet) toyMaster_init
  have h := h.step (.fork (c := 1) rfl rfl)
  have h := h.step (.run (p := 1) rfl (fun _ => ⟨Nat.one_ne_zero, by simp⟩)
    (.start (t := 1) (j := .snapshot) rfl))
  obtain ⟨master, h⟩ := masterRefresh_run h rfl
  have h := h.step (.run (p := 1) rfl (by simp) (.acquire (t := 1) rfl rfl))
  have h := h.step (.run (p := 1) rfl (by simp) (.read (t := 1) rfl))
  have h := h.step (.run (p := 1) rfl (by simp) (.read (t := 1) rfl))
  have h := h.step (.run (p := 1) rfl (by simp) (.read (t := 1) rfl))
  have h := h.step (.run (p := 1) rfl (by simp) (.release (t := 1) rfl rfl))
  have h := h.step (.run (p := 1) rfl (by simp) (.finish (t := 1)
    (r := .snapshot (.ok (toyIdentity 49).triple)) rfl))
  exact ⟨_, _, h, (snapshot_together_iff h Nat.one_ne_zero (List.nil_append _).symm).1
    ⟨rfl, rfl, fun hnone => by cases hnone⟩⟩

end PromptEncryption.Server
