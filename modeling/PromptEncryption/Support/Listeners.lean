import Mathlib.Data.List.Induction
import Mathlib.Logic.Function.Basic
import PromptEncryption.Support.Runs

/-!
# Support — servers that serve one request on a connection

A server with workers, each with its own state of the application (`Server`).  Clients send requests
on their connections; an idle worker accepts a connection, reads one request off it, answers it with
the application and closes the connection.  A connection is accepted once.

* `sentOn_eq`: what is served on a connection is what was sent on it, in order, up to what is
  unread.
* `servedOn_length_le_one`: at most one request is served on a connection.
* `served_fresh`: when a request is served, the state of the application comes from requests on
  other connections only.
-/

namespace Listeners
open Runs

variable {Sock Req Out σ : Type*}

/-- What a worker does. -/
inductive Phase (Sock : Type*) where
  | idle
  | reading (s : Sock)
  | answered (s : Sock)

structure Worker (Sock σ : Type*) where
  app : σ
  phase : Phase Sock

/-- The connections accepted so far, the requests not read yet of each, and the workers. -/
structure Server (Sock Req σ : Type*) where
  accepted : List Sock
  unread : Sock → List Req
  workers : Nat → Worker Sock σ

inductive Event (Sock Req Out : Type*) where
  | sent (s : Sock) (r : Req)
  | accepted (w : Nat) (s : Sock)
  | served (w : Nat) (s : Sock) (r : Req) (o : Out)
  | closed (w : Nat) (s : Sock)

/-- What the workers do, after one has changed. -/
theorem phase_update {workers : Nat → Worker Sock σ} {w x : Nat} {worker : Worker Sock σ}
    {p : Phase Sock} (h : (Function.update workers w worker x).phase = p) :
    x = w ∧ worker.phase = p ∨ x ≠ w ∧ (workers x).phase = p := by
  by_cases hx : x = w
  · rw [hx, Function.update_self] at h
    exact .inl ⟨hx, h⟩
  · rw [Function.update_of_ne hx] at h
    exact .inr ⟨hx, h⟩

section
variable [DecidableEq Sock]

inductive ServerStep (call : Sock → σ → Req → Out × σ) :
    Server Sock Req σ → Event Sock Req Out → Server Sock Req σ → Prop where
  | sent {sv : Server Sock Req σ} {s : Sock} {r : Req} :
      ServerStep call sv (.sent s r)
        { sv with unread := Function.update sv.unread s (sv.unread s ++ [r]) }
  /-- The connection is a new one. -/
  | accepted {sv : Server Sock Req σ} {w : Nat} {s : Sock} :
      (sv.workers w).phase = .idle → s ∉ sv.accepted →
      ServerStep call sv (.accepted w s)
        { sv with
          accepted := s :: sv.accepted
          workers := Function.update sv.workers w ⟨(sv.workers w).app, .reading s⟩ }
  | served {sv : Server Sock Req σ} {w : Nat} {s : Sock} {r : Req} {rest : List Req} {o : Out}
      {a : σ} :
      (sv.workers w).phase = .reading s → sv.unread s = r :: rest →
      call s (sv.workers w).app r = (o, a) →
      ServerStep call sv (.served w s r o)
        { sv with
          unread := Function.update sv.unread s rest
          workers := Function.update sv.workers w ⟨a, .answered s⟩ }
  | closed {sv : Server Sock Req σ} {w : Nat} {s : Sock} :
      (sv.workers w).phase = .answered s →
      ServerStep call sv (.closed w s)
        { sv with workers := Function.update sv.workers w ⟨(sv.workers w).app, .idle⟩ }

/-- The server; `start` is the state of the application in each worker. -/
def oneShot (start : σ) (call : Sock → σ → Req → Out × σ) :
    System (Server Sock Req σ) (Event Sock Req Out) where
  init sv := sv = ⟨[], fun _ => [], fun _ => ⟨start, .idle⟩⟩
  step := ServerStep call

/-! ### The requests of one connection -/

/-- The requests sent on a connection, the first one first. -/
def sentOn (s : Sock) : List (Event Sock Req Out) → List Req
  | [] => []
  | .sent t r :: es => if t = s then sentOn s es ++ [r] else sentOn s es
  | .accepted _ _ :: es | .served _ _ _ _ :: es | .closed _ _ :: es => sentOn s es

/-- The requests served on a connection, with their answers, the first one first. -/
def servedOn (s : Sock) : List (Event Sock Req Out) → List (Req × Out)
  | [] => []
  | .served _ t r o :: es => if t = s then servedOn s es ++ [(r, o)] else servedOn s es
  | .accepted _ _ :: es | .sent _ _ :: es | .closed _ _ :: es => servedOn s es

variable {start : σ} {call : Sock → σ → Req → Out × σ} {es : List (Event Sock Req Out)}
  {sv : Server Sock Req σ}

/-- **In order.**  Nothing is lost, served twice or served out of order before it is unread. -/
theorem sentOn_eq (h : Run (oneShot start call) es sv) (s : Sock) :
    sentOn s es = (servedOn s es).map Prod.fst ++ sv.unread s := by
  induction h with
  | init hinit =>
      rw [show _ = _ from hinit]
      rfl
  | step _ hst ih =>
      cases hst with
      | @sent t r =>
          simp only [sentOn, servedOn]
          by_cases ht : t = s
          · subst ht
            rw [if_pos rfl, Function.update_self, ih, List.append_assoc]
          · rw [if_neg ht, Function.update_of_ne (Ne.symm ht), ih]
      | @served w t r rest o a _ hunread _ =>
          simp only [sentOn, servedOn]
          by_cases ht : t = s
          · subst ht
            rw [if_pos rfl, Function.update_self, ih, hunread]
            simp
          · rw [if_neg ht, Function.update_of_ne (Ne.symm ht), ih]
      | accepted _ _ => exact ih
      | closed _ => exact ih

/-! ### One request for each -/

/-- The states of the application after requests on the connections of a list. -/
inductive Reached (start : σ) (call : Sock → σ → Req → Out × σ) : List Sock → σ → Prop where
  | start : Reached start call [] start
  | call {ss : List Sock} {a a' : σ} {s : Sock} {r : Req} {o : Out} :
      Reached start call ss a → call s a r = (o, a') → Reached start call (s :: ss) a'

/-- Every request the worker's application has had came on a connection it was served on. -/
def Foreign (start : σ) (call : Sock → σ → Req → Out × σ) (es : List (Event Sock Req Out))
    (worker : Worker Sock σ) : Prop :=
  ∃ ss, Reached start call ss worker.app ∧ ∀ s ∈ ss, servedOn s es ≠ []

/-- A connection that is read was accepted and has had no request served, and one worker reads
it. -/
structure OneEach (start : σ) (call : Sock → σ → Req → Out × σ) (es : List (Event Sock Req Out))
    (sv : Server Sock Req σ) : Prop where
  once : ∀ s, (servedOn s es).length ≤ 1
  served : ∀ s, servedOn s es ≠ [] → s ∈ sv.accepted
  reading : ∀ w s, (sv.workers w).phase = .reading s → s ∈ sv.accepted ∧ servedOn s es = []
  answered : ∀ w s, (sv.workers w).phase = .answered s → servedOn s es ≠ []
  alone : ∀ w w' s, (sv.workers w).phase = .reading s → (sv.workers w').phase = .reading s → w = w'
  foreign : ∀ w, Foreign start call es (sv.workers w)

theorem OneEach.init : OneEach start call ([] : List (Event Sock Req Out))
    ⟨[], fun _ => [], fun _ => ⟨start, .idle⟩⟩ where
  once _ := Nat.zero_le 1
  served _ h := absurd rfl h
  reading _ _ h := nomatch h
  answered _ _ h := nomatch h
  alone _ _ _ h _ := nomatch h
  foreign _ := ⟨[], .start, fun _ h => nomatch h⟩

theorem OneEach.accept (h : OneEach start call es sv) {w : Nat} {s : Sock}
    (hnew : s ∉ sv.accepted) :
    OneEach start call (.accepted w s :: es)
      { sv with
        accepted := s :: sv.accepted
        workers := Function.update sv.workers w ⟨(sv.workers w).app, .reading s⟩ } := by
  -- only the accepting worker reads the new connection
  have hother : ∀ x t, (sv.workers x).phase = .reading t → t ≠ s := by
    rintro x _ hx rfl
    exact hnew (h.reading x _ hx).1
  refine ⟨h.once, fun t ht => List.mem_cons_of_mem s (h.served t ht), fun x t hx => ?_,
    fun x t hx => ?_, fun u v t hu hv => ?_, ?_⟩
  · rcases phase_update hx with ⟨-, hphase⟩ | ⟨-, hphase⟩
    · obtain rfl : s = t := Phase.reading.inj hphase
      exact ⟨List.mem_cons_self, not_not.mp fun hne => hnew (h.served s hne)⟩
    · exact ⟨List.mem_cons_of_mem s (h.reading x t hphase).1, (h.reading x t hphase).2⟩
  · rcases phase_update hx with ⟨-, hphase⟩ | ⟨-, hphase⟩
    · cases hphase
    · exact h.answered x t hphase
  · rcases phase_update hu with ⟨huw, hu⟩ | ⟨-, hu⟩
    · rcases phase_update hv with ⟨hvw, -⟩ | ⟨-, hv⟩
      · exact huw.trans hvw.symm
      · exact absurd (Phase.reading.inj hu).symm (hother v t hv)
    · rcases phase_update hv with ⟨-, hv⟩ | ⟨-, hv⟩
      · exact absurd (Phase.reading.inj hv).symm (hother u t hu)
      · exact h.alone u v t hu hv
  · exact (Function.forall_update_iff sv.workers fun _ => Foreign start call es).mpr
      ⟨h.foreign w, fun x _ => h.foreign x⟩

theorem OneEach.serve (h : OneEach start call es sv) {w : Nat} {s : Sock} {r : Req}
    {rest : List Req} {o : Out} {a : σ} (hphase : (sv.workers w).phase = .reading s)
    (hcall : call s (sv.workers w).app r = (o, a)) :
    OneEach start call (.served w s r o :: es)
      { sv with
        unread := Function.update sv.unread s rest
        workers := Function.update sv.workers w ⟨a, .answered s⟩ } := by
  obtain ⟨hacc, hnone⟩ := h.reading w s hphase
  have hself : servedOn s (.served w s r o :: es) = [(r, o)] := by
    rw [servedOn, if_pos rfl, hnone, List.nil_append]
  have hother : ∀ t, t ≠ s → servedOn t (.served w s r o :: es) = servedOn t es :=
    fun t ht => if_neg (Ne.symm ht)
  have hgrows : ∀ t, servedOn t es ≠ [] → servedOn t (.served w s r o :: es) ≠ [] := by
    intro t ht
    by_cases hts : t = s
    · exact absurd (hts ▸ hnone) ht
    · rwa [hother t hts]
  refine ⟨fun t => ?_, fun t ht => ?_, fun x t hx => ?_, fun x t hx => ?_, fun u v t hu hv => ?_,
    ?_⟩
  · by_cases hts : t = s
    · rw [hts, hself]
      exact Nat.le_refl 1
    · rw [hother t hts]
      exact h.once t
  · by_cases hts : t = s
    · exact hts ▸ hacc
    · rw [hother t hts] at ht
      exact h.served t ht
  · rcases phase_update hx with ⟨-, hreads⟩ | ⟨hxw, hreads⟩
    · cases hreads
    · have hts : t ≠ s := by
        rintro rfl
        exact hxw (h.alone x w t hreads hphase)
      rw [hother t hts]
      exact h.reading x t hreads
  · rcases phase_update hx with ⟨-, hanswered⟩ | ⟨-, hanswered⟩
    · obtain rfl : s = t := Phase.answered.inj hanswered
      rw [hself]
      exact List.cons_ne_nil _ _
    · exact hgrows t (h.answered x t hanswered)
  · rcases phase_update hu with ⟨-, hu⟩ | ⟨-, hu⟩
    · cases hu
    · rcases phase_update hv with ⟨-, hv⟩ | ⟨-, hv⟩
      · cases hv
      · exact h.alone u v t hu hv
  · refine (Function.forall_update_iff sv.workers fun _ => Foreign start call _).mpr
      ⟨?_, fun x _ => ?_⟩
    · obtain ⟨ss, hss, hserved⟩ := h.foreign w
      refine ⟨s :: ss, hss.call hcall, List.forall_mem_cons.mpr ⟨?_, fun t ht => ?_⟩⟩
      · rw [hself]
        exact List.cons_ne_nil _ _
      · exact hgrows t (hserved t ht)
    · obtain ⟨ss, hss, hserved⟩ := h.foreign x
      exact ⟨ss, hss, fun t ht => hgrows t (hserved t ht)⟩

theorem OneEach.close (h : OneEach start call es sv) (w : Nat) (s : Sock) :
    OneEach start call (.closed w s :: es)
      { sv with workers := Function.update sv.workers w ⟨(sv.workers w).app, .idle⟩ } := by
  have hphase : ∀ x p, p ≠ Phase.idle → (Function.update sv.workers w
      ⟨(sv.workers w).app, .idle⟩ x).phase = p → (sv.workers x).phase = p := by
    intro x p hp hx
    rcases phase_update hx with ⟨-, hx⟩ | ⟨-, hx⟩
    · exact absurd hx.symm hp
    · exact hx
  refine ⟨h.once, h.served, fun x t ht => h.reading x t (hphase x _ nofun ht),
    fun x t ht => h.answered x t (hphase x _ nofun ht),
    fun u v t hu hv => h.alone u v t (hphase u _ nofun hu) (hphase v _ nofun hv), ?_⟩
  exact (Function.forall_update_iff sv.workers fun _ => Foreign start call es).mpr
    ⟨h.foreign w, fun x _ => h.foreign x⟩

theorem oneEach (h : Run (oneShot start call) es sv) : OneEach start call es sv := by
  refine h.invariant (P := OneEach start call) ?_ ?_
  · rintro _ rfl
    exact .init
  · intro es sv e sv' _ hinv hst
    cases hst with
    | sent => exact ⟨hinv.once, hinv.served, hinv.reading, hinv.answered, hinv.alone,
        hinv.foreign⟩
    | accepted _ hnew => exact hinv.accept hnew
    | served hphase _ hcall => exact hinv.serve hphase hcall
    | closed _ => exact hinv.close _ _

theorem servedOn_length_le_one (h : Run (oneShot start call) es sv) (s : Sock) :
    (servedOn s es).length ≤ 1 := (oneEach h).once s

/-- A connection is closed after its request. -/
theorem servedOn_of_closed (h : Run (oneShot start call) es sv) {w : Nat} {s : Sock}
    (he : .closed w s ∈ es) : servedOn s es ≠ [] := by
  induction h with
  | init _ => cases he
  | @step es sv sv' e hr hst ih =>
      rcases List.mem_cons.mp he with rfl | he
      · cases hst with
        | closed hphase => exact (oneEach hr).answered w s hphase
      · have hmem := ih he
        cases e with
        | served w' t r o =>
            by_cases ht : t = s
            · rw [servedOn, if_pos ht]
              exact fun hnil => List.cons_ne_nil _ _ (List.append_eq_nil_iff.mp hnil).2
            · rwa [servedOn, if_neg ht]
        | sent _ _ | accepted _ _ | closed _ _ => exact hmem

/-- A client may send any requests on a connection before the worker reads the first. -/
theorem exists_sent (start : σ) (call : Sock → σ → Req → Out × σ) (s : Sock) (requests : List Req) :
    ∃ (es : List (Event Sock Req Out)) (sv : Server Sock Req σ), Run (oneShot start call) es sv ∧
      sentOn s es = requests ∧ sv.unread s = requests ∧ sv.workers 0 = ⟨start, .reading s⟩ := by
  induction requests using List.reverseRecOn with
  | nil =>
      have hinit : Run (oneShot start call) [] ⟨[], fun _ => [], fun _ => ⟨start, .idle⟩⟩ :=
        .init rfl
      have hstep : ServerStep call ⟨[], fun _ => [], fun _ => ⟨start, .idle⟩⟩ (.accepted 0 s) _ :=
        .accepted rfl List.not_mem_nil
      refine ⟨_, _, hinit.step hstep, rfl, rfl, ?_⟩
      simp only [Function.update_self]
  | append_singleton requests r ih =>
      obtain ⟨es, sv, h, hsent, hunread, hworker⟩ := ih
      have hstep : ServerStep call sv (.sent s r) _ := .sent
      refine ⟨_, _, h.step hstep, ?_, ?_, hworker⟩
      · rw [sentOn, if_pos rfl, hsent]
      · exact (Function.update_self _ _ _).trans (by rw [hunread])

/-- The server can be done with any connection on which there is a request. -/
theorem exists_closed (start : σ) (call : Sock → σ → Req → Out × σ) (s : Sock) (first : Req)
    (following : List Req) :
    ∃ (es : List (Event Sock Req Out)) (sv : Server Sock Req σ), Run (oneShot start call) es sv ∧
      sentOn s es = first :: following ∧ .closed 0 s ∈ es := by
  obtain ⟨es, sv, h, hsent, hunread, hworker⟩ := exists_sent start call s (first :: following)
  have hserve : ServerStep call sv (.served 0 s first (call s (sv.workers 0).app first).1) _ :=
    .served (by rw [hworker]) hunread rfl
  refine ⟨_, _, (h.step hserve).step (ServerStep.closed (w := 0) ?_), hsent, List.mem_cons_self⟩
  simp only [Function.update_self]

/-- **No request finds a trace of its connection.**  Every answer is the application's in a state
reached by requests on other connections. -/
theorem served_fresh (h : Run (oneShot start call) es sv) {w : Nat} {s : Sock} {r : Req} {o : Out}
    (he : .served w s r o ∈ es) :
    ∃ ss a a', Reached start call ss a ∧ s ∉ ss ∧ call s a r = (o, a') := by
  induction h with
  | init _ => cases he
  | @step es sv sv' e hr hst ih =>
      rcases List.mem_cons.mp he with rfl | he
      · cases hst with
        | served hphase _ hcall =>
            have hinv := oneEach hr
            obtain ⟨ss, hss, hserved⟩ := hinv.foreign w
            exact ⟨ss, _, _, hss, fun hs => hserved s hs (hinv.reading w s hphase).2, hcall⟩
      · exact ih he

theorem mem_of_servedOn {s : Sock} {r : Req} {o : Out} (h : (r, o) ∈ servedOn s es) :
    ∃ w, .served w s r o ∈ es := by
  induction es with
  | nil => cases h
  | cons e es ih =>
      cases e with
      | served w t r' o' =>
          by_cases ht : t = s
          · rw [servedOn, if_pos ht] at h
            rcases List.mem_append.mp h with h | h
            · obtain ⟨w', hw'⟩ := ih h
              exact ⟨w', List.mem_cons_of_mem _ hw'⟩
            · obtain ⟨rfl, rfl⟩ := Prod.mk.inj (List.mem_singleton.mp h)
              exact ⟨w, ht ▸ List.mem_cons_self⟩
          · rw [servedOn, if_neg ht] at h
            obtain ⟨w', hw'⟩ := ih h
            exact ⟨w', List.mem_cons_of_mem _ hw'⟩
      | sent _ _ | accepted _ _ | closed _ _ =>
          obtain ⟨w', hw'⟩ := ih h
          exact ⟨w', List.mem_cons_of_mem _ hw'⟩

end

end Listeners
