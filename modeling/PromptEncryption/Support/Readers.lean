import PromptEncryption.Support.Processes

/-!
# Support — one writer, and readers in other processes

Processes (`Processes.lean`) in which one thread of process 0 replaces files and the other processes
only read them.  The lock of a process keeps nothing from the others, so a reader may find the files
in any state the writer leaves them in between two steps.

* `Along`: what the writer's program passes through, alone with the files.
* `ReadsTo`: what a reader's program returns of what it has read, whatever that is.
* `readers_rule`: along every run the writer is where `Along` says, and what a reader read of a file
  is what the file held after as many replacements as there had been when it read it (`contents`,
  `seen`).
-/

namespace Programs
open Runs

section
variable {F V E Q : Type} {A : Q → Type} {J ρ σ : Type} [DecidableEq F]

/-! ### What was written, and what was read -/

/-- The values a file was replaced by, the newest first. -/
def written (f : F) : List (Event F V E Q A J ρ) → List V
  | ⟨_, _, .write g v (.ok _)⟩ :: es => if g = f then v :: written f es else written f es
  | _ :: es => written f es
  | [] => []

/-- What a file held, the oldest first. -/
def contents (s₀ : Files F V) (f : F) (es : List (Event F V E Q A J ρ)) : List (Option V) :=
  s₀ f :: (written f es).reverse.map some

/-- What process 0 did. -/
def masterEvents (es : List (FleetEvent F V E Q A J ρ)) : List (Event F V E Q A J ρ) :=
  es.filterMap fun
    | .run 0 e => some e
    | _ => none

/-- Thread `t` of process `p` reads the file. -/
def readsFile (f : F) (p t : Nat) : FleetEvent F V E Q A J ρ → Bool
  | .run q ⟨u, _, .read g _⟩ => q = p && u = t && g = f
  | _ => false

/-- How often the file had been replaced when thread `t` of process `p` last read it. -/
def seen (f : F) (p t : Nat) : List (FleetEvent F V E Q A J ρ) → Nat
  | [] => 0
  | e :: es => if readsFile f p t e then (written f (masterEvents es)).length else seen f p t es

/-! ### The writer and the readers -/

variable (S : Setting F V E Q A J ρ)

/-- Alone with the files, the program passes only through states as `I` says, and ends as `Φ`
says. -/
def Along (t : Nat) (j : J) (I Φ : List (Event F V E Q A J ρ) → Prop) :
    Prog F V E Q A σ → Files F V → List (Event F V E Q A J ρ) → Prop
  | .ret _, _, es => Φ es
  | .acquire p, s, es => I (⟨t, j, .acquire⟩ :: es) ∧ Along t j I Φ p s (⟨t, j, .acquire⟩ :: es)
  | .release p, s, es => I (⟨t, j, .release⟩ :: es) ∧ Along t j I Φ p s (⟨t, j, .release⟩ :: es)
  | .read f k, s, es =>
      (I (⟨t, j, .read f (.ok (s f))⟩ :: es) ∧
        Along t j I Φ (k (.ok (s f))) s (⟨t, j, .read f (.ok (s f))⟩ :: es)) ∧
      (S.mayFail j → ∀ e, I (⟨t, j, .read f (.error e)⟩ :: es) ∧
        Along t j I Φ (k (.error e)) s (⟨t, j, .read f (.error e)⟩ :: es))
  | .write f v k, s, es =>
      (I (⟨t, j, .write f v (.ok ())⟩ :: es) ∧
        Along t j I Φ (k (.ok ())) (Function.update s f (some v))
          (⟨t, j, .write f v (.ok ())⟩ :: es)) ∧
      (S.mayFail j → ∀ e, I (⟨t, j, .write f v (.error e)⟩ :: es) ∧
        Along t j I Φ (k (.error e)) s (⟨t, j, .write f v (.error e)⟩ :: es))
  | .ask q k, s, es =>
      (∀ a, S.answers q a → I (⟨t, j, .ask q (.ok a)⟩ :: es) ∧
        Along t j I Φ (k (.ok a)) s (⟨t, j, .ask q (.ok a)⟩ :: es)) ∧
      (S.mayFail j → ∀ e, I (⟨t, j, .ask q (.error e)⟩ :: es) ∧
        Along t j I Φ (k (.error e)) s (⟨t, j, .ask q (.error e)⟩ :: es))

/-- Whatever it reads, each file once, the program replaces nothing and returns as `Φ` says of what
it has read, the newest first. -/
def ReadsTo (j : J) (Φ : σ → List (F × Option V) → Prop) :
    Prog F V E Q A σ → List (F × Option V) → Prop
  | .ret r, obs => Φ r obs
  | .acquire p, obs => ReadsTo j Φ p obs
  | .release p, obs => ReadsTo j Φ p obs
  | .read f k, obs => (∀ o, (f, o) ∉ obs) ∧ (∀ o, ReadsTo j Φ (k (.ok o)) ((f, o) :: obs)) ∧
      (S.mayFail j → ∀ e, ReadsTo j Φ (k (.error e)) obs)
  | .write _ _ _, _ => False
  | .ask q k, obs => (∀ a, S.answers q a → ReadsTo j Φ (k (.ok a)) obs) ∧
      (S.mayFail j → ∀ e, ReadsTo j Φ (k (.error e)) obs)

variable {S} in
omit [DecidableEq F] in
/-- **Sequencing.** -/
theorem readsTo_bind {τ : Type} {j : J} {Φ : τ → List (F × Option V) → Prop}
    {p : Prog F V E Q A σ} {k : σ → Prog F V E Q A τ} {obs : List (F × Option V)} :
    ReadsTo S j Φ (p.bind k) obs ↔ ReadsTo S j (fun r obs => ReadsTo S j Φ (k r) obs) p obs := by
  induction p generalizing obs with
  | ret r => exact Iff.rfl
  | acquire p ih => exact ih
  | release p ih => exact ih
  | read f h ih =>
      exact and_congr_right fun _ => and_congr (forall_congr' fun _ => ih _)
        (forall₂_congr fun _ _ => ih _)
  | write f v h _ => exact Iff.rfl
  | ask q h ih => exact and_congr (forall₂_congr fun _ _ => ih _) (forall₂_congr fun _ _ => ih _)

/-- Thread 0 of process 0 alone replaces files, each of its calls as `I` and `Φ` say from where a
call may start; the other processes read. -/
structure OneWriter (R : Roles J) (I : List (Event F V E Q A J ρ) → Prop)
    (Rest : List (Event F V E Q A J ρ) → Prop) (Φ : J → ρ → List (F × Option V) → Prop) : Prop where
  disciplined : ∀ j, Disciplined (S.prog j) false
  roles : ∀ p t j i, p ≠ 0 → R p t j → ¬ R 0 t i
  one : ∀ t j, R 0 t j → t = 0
  along : ∀ j, R 0 0 j → ∀ es s, Rest es → Along S 0 j I Rest (S.prog j) s es
  rest : ∀ es, Rest es → I es
  starts : ∀ j es, Rest es → Rest (⟨0, j, .start⟩ :: es)
  ends : ∀ j r es, Rest es → Rest (⟨0, j, .finish r⟩ :: es)
  reads : ∀ p t j, p ≠ 0 → R p t j → ReadsTo S j (Φ j) (S.prog j) []

variable {S} {R : Roles J} {I Rest : List (Event F V E Q A J ρ) → Prop}
  {Φ : J → ρ → List (F × Option V) → Prop} {s₀ : Files F V} {f : F}
  {es : List (FleetEvent F V E Q A J ρ)} {fl fl' : Fleet F V E Q A J ρ}

/-- What was read is what the file held after as many replacements as had been seen. -/
def Matches (s₀ : Files F V) (es : List (FleetEvent F V E Q A J ρ)) (p t : Nat)
    (obs : List (F × Option V)) : Prop :=
  ∀ f o, (f, o) ∈ obs → (contents s₀ f (masterEvents es))[seen f p t es]? = some o

/-- The writer is on its way, the files hold what was last written, and every reader has read what
was there. -/
structure Shared (S : Setting F V E Q A J ρ) (I Rest : List (Event F V E Q A J ρ) → Prop)
    (Φ : J → ρ → List (F × Option V) → Prop) (s₀ : Files F V)
    (es : List (FleetEvent F V E Q A J ρ)) (fl : Fleet F V E Q A J ρ) : Prop where
  writer : I (masterEvents es)
  idle : ∀ {pr}, fl.processes 0 = some pr → pr.threads 0 = none → Rest (masterEvents es)
  busy : ∀ {pr j q}, fl.processes 0 = some pr → pr.threads 0 = some (j, q) →
    Along S 0 j I Rest q fl.files (masterEvents es)
  files : ∀ f, (contents s₀ f (masterEvents es))[(written f (masterEvents es)).length]? =
    some (fl.files f)
  readers : ∀ {p pr t j q}, p ≠ 0 → fl.processes p = some pr → pr.threads t = some (j, q) →
    ∃ obs, ReadsTo S j (Φ j) q obs ∧ Matches s₀ es p t obs

omit [DecidableEq F] in
@[simp] theorem masterEvents_run {e : Event F V E Q A J ρ} :
    masterEvents (.run 0 e :: es) = e :: masterEvents es := rfl

omit [DecidableEq F] in
theorem masterEvents_other {p : Nat} (hp : p ≠ 0) {e : Event F V E Q A J ρ} :
    masterEvents (.run p e :: es) = masterEvents es := by
  cases p with
  | zero => exact absurd rfl hp
  | succ p => rfl

omit [DecidableEq F] in
@[simp] theorem masterEvents_fork {c : Nat} {l : Option Nat} :
    masterEvents (.fork c l :: es) = masterEvents es := rfl

/-- What a file held stays what it held. -/
theorem contents_cons {e : Event F V E Q A J ρ} {m : List (Event F V E Q A J ρ)} {k : Nat}
    {o : Option V} (h : (contents s₀ f m)[k]? = some o) :
    (contents s₀ f (e :: m))[k]? = some o := by
  have hprefix : contents s₀ f m <+: contents s₀ f (e :: m) := by
    obtain ⟨t, j, act⟩ := e
    cases act with
    | write g v a =>
        cases a with
        | error e => exact List.prefix_rfl
        | ok u =>
            by_cases hg : g = f
            · refine ⟨[some v], ?_⟩
              simp [contents, written, hg]
            · refine ⟨[], ?_⟩
              simp [contents, written, hg]
    | _ => exact List.prefix_rfl
  obtain ⟨rest, hrest⟩ := hprefix
  rw [← hrest, List.getElem?_append_left (List.getElem?_eq_some_iff.mp h).1]
  exact h

/-- What one thread of another process does, the others have not seen. -/
theorem Matches.other {p t : Nat} {obs : List (F × Option V)} {fe : FleetEvent F V E Q A J ρ}
    (h : Matches s₀ es p t obs) (hfe : ∀ f, readsFile f p t fe = false)
    (hm : masterEvents (fe :: es) = masterEvents es ∨
      ∃ e, masterEvents (fe :: es) = e :: masterEvents es) :
    Matches s₀ (fe :: es) p t obs := by
  intro f o ho
  have hseen : seen f p t (fe :: es) = seen f p t es := by rw [seen, hfe]; rfl
  rw [hseen]
  rcases hm with hm | ⟨e, hm⟩
  · rw [hm]
    exact h f o ho
  · rw [hm]
    exact contents_cons (h f o ho)

/-! ### A step of the writer -/

variable {st st' : Pool F V E Q A J ρ} {e : Event F V E Q A J ρ}
  {m : List (Event F V E Q A J ρ)}

/-- The files go on holding what was last written. -/
theorem Step.written_last (h : Step S st e st')
    (hfiles : ∀ f, (contents s₀ f m)[(written f m).length]? = some (st.files f)) (f : F) :
    (contents s₀ f (e :: m))[(written f (e :: m)).length]? = some (st'.files f) := by
  cases h with
  | @write t j g v k _ =>
      by_cases hg : g = f
      · subst hg
        have hlen : (written g (⟨t, j, .write g v (.ok ())⟩ :: m)).length =
            (contents s₀ g m).length := by simp [written, contents]
        have hcontents : contents s₀ g (⟨t, j, .write g v (.ok ())⟩ :: m) =
            contents s₀ g m ++ [some v] := by simp [written, contents]
        have hupdate : Function.update st.files g (some v) g = some v := Function.update_self ..
        rw [hlen, hcontents, List.getElem?_concat_length]
        exact congrArg some hupdate.symm
      · have hwritten : written f (⟨t, j, .write g v (.ok ())⟩ :: m) = written f m := if_neg hg
        have hupdate : Function.update st.files g (some v) f = st.files f :=
          Function.update_of_ne (fun h => hg h.symm) ..
        rw [contents, hwritten]
        exact (hfiles f).trans (congrArg some hupdate.symm)
  | _ => exact hfiles f

/-- The writer takes a step of its program. -/
theorem OneWriter.step (hW : OneWriter S R I Rest Φ) (h : Step S st e st')
    (hR : e.act = .start → R 0 e.thread e.job) (ht : e.thread = 0)
    (hidle : st.threads 0 = none → Rest m)
    (hbusy : ∀ {j q}, st.threads 0 = some (j, q) → Along S 0 j I Rest q st.files m) :
    I (e :: m) ∧ (st'.threads 0 = none → Rest (e :: m)) ∧
      ∀ {j q}, st'.threads 0 = some (j, q) → Along S 0 j I Rest q st'.files (e :: m) := by
  -- where the program goes on to `q`, from `I`
  have goes {st'' : Pool F V E Q A J ρ} {j : J} {q : Prog F V E Q A ρ}
      (hth : st''.threads = Function.update st.threads 0 (some (j, q))) (hI : I (e :: m))
      (hq : Along S 0 j I Rest q st''.files (e :: m)) :
      I (e :: m) ∧ (st''.threads 0 = none → Rest (e :: m)) ∧
        ∀ {i q'}, st''.threads 0 = some (i, q') → Along S 0 i I Rest q' st''.files (e :: m) := by
    have hself : st''.threads 0 = some (j, q) := by rw [hth, Function.update_self]
    refine ⟨hI, fun hn => (by cases hn.symm.trans hself), fun {i q'} h' => ?_⟩
    cases hself.symm.trans h'
    exact hq
  cases h with
  | @start t j hn =>
      subst ht
      have hrest := hW.starts j m (hidle hn)
      exact goes rfl (hW.rest _ hrest) (hW.along j (hR rfl) _ _ hrest)
  | acquire hp _ => subst ht; exact goes rfl (hbusy hp).1 (hbusy hp).2
  | release hp _ => subst ht; exact goes rfl (hbusy hp).1 (hbusy hp).2
  | read hp => subst ht; exact goes rfl (hbusy hp).1.1 (hbusy hp).1.2
  | readFault hp hf =>
      subst ht
      exact goes rfl ((hbusy hp).2 hf _).1 ((hbusy hp).2 hf _).2
  | write hp => subst ht; exact goes rfl (hbusy hp).1.1 (hbusy hp).1.2
  | writeFault hp hf =>
      subst ht
      exact goes rfl ((hbusy hp).2 hf _).1 ((hbusy hp).2 hf _).2
  | ask hp ha =>
      subst ht
      exact goes rfl ((hbusy hp).1 _ ha).1 ((hbusy hp).1 _ ha).2
  | askFault hp hf =>
      subst ht
      exact goes rfl ((hbusy hp).2 hf _).1 ((hbusy hp).2 hf _).2
  | @finish t j r hp =>
      subst ht
      have hrest := hW.ends j r m (hbusy hp)
      refine ⟨hW.rest _ hrest, fun _ => hrest, fun {i q'} h' => ?_⟩
      have hself : Function.update st.threads 0 none 0 = none := Function.update_self ..
      cases hself.symm.trans h'

/-! ### A step of a reader -/

/-- A reader takes a step of its program: it replaces nothing, and what it reads is there. -/
theorem OneWriter.read (hW : OneWriter S R I Rest Φ) (h : Step S st e st') {p : Nat} (hp : p ≠ 0)
    (hR : e.act = .start → R p e.thread e.job)
    (hfiles : ∀ f, (contents s₀ f (masterEvents es))[(written f (masterEvents es)).length]? =
      some (st.files f))
    (hreads : ∀ {t j q}, st.threads t = some (j, q) →
      ∃ obs, ReadsTo S j (Φ j) q obs ∧ Matches s₀ es p t obs) :
    st'.files = st.files ∧ ∀ {t j q}, st'.threads t = some (j, q) →
      ∃ obs, ReadsTo S j (Φ j) q obs ∧ Matches s₀ (.run p e :: es) p t obs := by
  have hm : masterEvents (.run p e :: es) = masterEvents es := masterEvents_other hp
  -- the other threads have not seen it
  have others {t : Nat} (ht : t ≠ e.thread) {j : J} {q : Prog F V E Q A ρ}
      (hq : st'.threads t = some (j, q)) :
      ∃ obs, ReadsTo S j (Φ j) q obs ∧ Matches s₀ (.run p e :: es) p t obs := by
    rw [h.others ht] at hq
    obtain ⟨obs, hobs, hmatch⟩ := hreads hq
    refine ⟨obs, hobs, hmatch.other (fun f => ?_) (.inl hm)⟩
    obtain ⟨u, i, act⟩ := e
    cases act with
    | read g a => simp [readsFile, Ne.symm ht]
    | _ => rfl
  -- where the program goes on to `q`, having read nothing
  have goes {t : Nat} {j : J} {q : Prog F V E Q A ρ} {obs : List (F × Option V)}
      (hth : st'.threads = Function.update st.threads t (some (j, q)))
      (hquiet : ∀ f, readsFile f p t (.run p e) = false)
      (hq : ReadsTo S j (Φ j) q obs) (hmatch : Matches s₀ es p t obs) (ht : t = e.thread) :
      ∀ {u i q'}, st'.threads u = some (i, q') →
        ∃ obs, ReadsTo S i (Φ i) q' obs ∧ Matches s₀ (.run p e :: es) p u obs := by
    intro u i q' h'
    by_cases hu : u = t
    · subst hu
      rw [hth, Function.update_self] at h'
      cases h'
      exact ⟨obs, hq, hmatch.other hquiet (.inl hm)⟩
    · exact others (ht ▸ hu) h'
  cases h with
  | start _ =>
      refine ⟨rfl, goes rfl (fun _ => rfl) (hW.reads _ _ _ hp (hR rfl)) ?_ rfl⟩
      exact fun f o ho => absurd ho List.not_mem_nil
  | acquire hq _ =>
      obtain ⟨obs, hobs, hmatch⟩ := hreads hq
      exact ⟨rfl, goes rfl (fun _ => rfl) hobs hmatch rfl⟩
  | release hq _ =>
      obtain ⟨obs, hobs, hmatch⟩ := hreads hq
      exact ⟨rfl, goes rfl (fun _ => rfl) hobs hmatch rfl⟩
  | @read t j f k hq =>
      obtain ⟨obs, ⟨hnew, hobs, -⟩, hmatch⟩ := hreads hq
      refine ⟨rfl, fun {u i q'} h' => ?_⟩
      by_cases hu : u = t
      · subst hu
        have hself : Function.update st.threads u (some (j, k (.ok (st.files f)))) u = some _ :=
          Function.update_self ..
        cases hself.symm.trans h'
        refine ⟨_, hobs _, fun g o ho => ?_⟩
        rw [hm, seen]
        rcases List.mem_cons.mp ho with ho | ho
        · cases ho
          rw [if_pos (by simp [readsFile])]
          exact hfiles f
        · -- each file is read once
          have hg : g ≠ f := fun hg => hnew o (hg ▸ ho)
          rw [if_neg (by simp [readsFile, Ne.symm hg])]
          exact hmatch g o ho
      · exact others hu h'
  | @readFault t j f k e hq hf =>
      obtain ⟨obs, ⟨hnew, -, hobs⟩, hmatch⟩ := hreads hq
      refine ⟨rfl, fun {u i q'} h' => ?_⟩
      by_cases hu : u = t
      · subst hu
        have hself : Function.update st.threads u (some (j, k (.error e))) u = some _ :=
          Function.update_self ..
        cases hself.symm.trans h'
        refine ⟨obs, hobs hf e, fun g o ho => ?_⟩
        have hg : g ≠ f := fun hg => hnew o (hg ▸ ho)
        rw [hm, seen, if_neg (by simp [readsFile, Ne.symm hg])]
        exact hmatch g o ho
      · exact others hu h'
  | write hq =>
      obtain ⟨obs, hobs, -⟩ := hreads hq
      exact hobs.elim
  | writeFault hq _ =>
      obtain ⟨obs, hobs, -⟩ := hreads hq
      exact hobs.elim
  | ask hq ha =>
      obtain ⟨obs, hobs, hmatch⟩ := hreads hq
      exact ⟨rfl, goes rfl (fun _ => rfl) (hobs.1 _ ha) hmatch rfl⟩
  | askFault hq hf =>
      obtain ⟨obs, hobs, hmatch⟩ := hreads hq
      exact ⟨rfl, goes rfl (fun _ => rfl) (hobs.2 hf _) hmatch rfl⟩
  | @finish t j r hq =>
      refine ⟨rfl, fun {u i q'} h' => ?_⟩
      by_cases hu : u = t
      · subst hu
        have hself : Function.update st.threads u none u = none := Function.update_self ..
        cases hself.symm.trans h'
      · exact others hu h'

/-! ### Every run -/

/-- **The step lemma.** -/
theorem Shared.step (hW : OneWriter S R I Rest Φ) (hsound : FleetSound R es fl)
    (h : Shared S I Rest Φ s₀ es fl) {fe : FleetEvent F V E Q A J ρ}
    (hst : FleetStep S R fl fe fl') : Shared S I Rest Φ s₀ (fe :: es) fl' := by
  cases hst with
  | @run p pr e pool hpr hR hstep =>
      -- the readers of a process other than `p`
      have readers {p' : Nat} {pr' : Process F V E Q A J ρ} {t : Nat} {j : J}
          {q : Prog F V E Q A ρ} (hp' : p' ≠ 0) (hne : p' ≠ p)
          (hpr' : Function.update fl.processes p (some pool.process) p' = some pr')
          (hq : pr'.threads t = some (j, q)) (hm : masterEvents (.run p e :: es) = masterEvents es ∨
            ∃ e', masterEvents (.run p e :: es) = e' :: masterEvents es) :
          ∃ obs, ReadsTo S j (Φ j) q obs ∧ Matches s₀ (.run p e :: es) p' t obs := by
        rw [Function.update_of_ne hne] at hpr'
        obtain ⟨obs, hobs, hmatch⟩ := h.readers hp' hpr' hq
        refine ⟨obs, hobs, hmatch.other (fun f => ?_) hm⟩
        obtain ⟨u, i, act⟩ := e
        cases act with
        | read g a => simp [readsFile, Ne.symm hne]
        | _ => rfl
      by_cases hp : p = 0
      · subst hp
        have ht : e.thread = 0 := by
          by_cases he : e.act = .start
          · exact hW.one _ _ (hR he)
          · obtain ⟨⟨j, q⟩, hjq⟩ := Option.ne_none_iff_exists'.mp (hstep.active he)
            exact hW.one _ _ ((hsound.sound hpr).sane _ j q hjq).1
        have hself : Function.update fl.processes 0 (some pool.process) 0 = some pool.process :=
          Function.update_self ..
        obtain ⟨hI, hidle, hbusy⟩ := hW.step hstep hR ht (h.idle hpr) (h.busy hpr)
        refine ⟨hI, fun {pr'} hpr' hn => ?_, fun {pr' j q} hpr' hq => ?_,
          hstep.written_last h.files, fun {p' pr' t j q} hp' hpr' hq =>
            readers hp' hp' hpr' hq (.inr ⟨e, rfl⟩)⟩
        · cases hself.symm.trans hpr'
          exact hidle hn
        · cases hself.symm.trans hpr'
          exact hbusy hq
      · have hm : masterEvents (.run p e :: es) = masterEvents es := masterEvents_other hp
        obtain ⟨hfiles, hreads⟩ := hW.read hstep hp hR h.files (h.readers hp hpr)
        refine ⟨hm ▸ h.writer, fun {pr'} hpr' hn => ?_, fun {pr' j q} hpr' hq => ?_, fun f => ?_,
          fun {p' pr' t j q} hp' hpr' hq => ?_⟩
        · rw [hm]
          exact h.idle ((Function.update_of_ne (Ne.symm hp) ..).symm.trans hpr') hn
        · have hbusy := h.busy ((Function.update_of_ne (Ne.symm hp) ..).symm.trans hpr') hq
          rw [hm]
          change Along S 0 j I Rest q pool.files _
          rwa [hfiles]
        · rw [hm]
          exact (h.files f).trans (congrArg (fun s : Files F V => some (s f)) hfiles.symm)
        · by_cases hne : p' = p
          · subst hne
            cases (Function.update_self ..).symm.trans hpr'
            exact hreads hq
          · exact readers hp' hne hpr' hq (.inl hm)
  | @fork c pr hpr hc =>
      have hne : 0 ≠ c := fun h0 => by rw [← h0, hpr] at hc; cases hc
      refine ⟨h.writer, fun {pr'} hpr' hn => ?_, fun {pr' j q} hpr' hq => ?_, h.files,
        fun {p' pr' t j q} hp' hpr' hq => ?_⟩
      · exact h.idle ((Function.update_of_ne hne ..).symm.trans hpr') hn
      · exact h.busy ((Function.update_of_ne hne ..).symm.trans hpr') hq
      · by_cases hpc : p' = c
        · subst hpc
          cases (Function.update_self ..).symm.trans hpr'
          cases hq
        · obtain ⟨obs, hobs, hmatch⟩ :=
            h.readers hp' ((Function.update_of_ne hpc ..).symm.trans hpr') hq
          exact ⟨obs, hobs, hmatch.other (fun _ => rfl) (.inl rfl)⟩

/-- **The rule of one writer.**  Along every run the writer passes only through states as `I` says,
and a reader's result is as `Φ` says of what it read, each file as it was after as many
replacements as the reader had seen. -/
theorem readers_rule (hW : OneWriter S R I Rest Φ) (hrest : Rest [])
    (h : Run (S.fleet R (· = s₀)) es fl) : Shared S I Rest Φ s₀ es fl ∧
      Always (fun fe earlier => I (masterEvents earlier) ∧
        ∀ p t j r, p ≠ 0 → fe = .run p ⟨t, j, .finish r⟩ →
          ∃ obs, Φ j r obs ∧ Matches s₀ earlier p t obs) es := by
  refine h.invariant (P := fun es fl => Shared S I Rest Φ s₀ es fl ∧
    Always (fun fe earlier => I (masterEvents earlier) ∧
      ∀ p t j r, p ≠ 0 → fe = .run p ⟨t, j, .finish r⟩ →
        ∃ obs, Φ j r obs ∧ Matches s₀ earlier p t obs) es) ?_ ?_
  · rintro fl ⟨rfl, h0, hnone⟩
    refine ⟨⟨hW.rest _ hrest, fun _ _ => hrest, fun {pr j q} hpr hq => ?_, fun f => rfl,
      fun {p pr t j q} hp hpr => ?_⟩, trivial⟩
    · cases h0.symm.trans hpr
      cases hq
    · cases (hnone p hp).symm.trans hpr
  · rintro es fl fe fl' hrun ⟨hshared, hres⟩ hst
    have hsound := fleet_sound hW.disciplined hW.roles hrun
    refine ⟨hshared.step hW hsound hst, ⟨hshared.writer, ?_⟩, hres⟩
    rintro p t j r hp rfl
    cases hst with
    | run hpr hR hstep =>
        cases hstep with
        | finish hq => exact hshared.readers hp hpr hq

end

end Programs
