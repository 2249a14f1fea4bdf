import PromptEncryption.Support.Ledgers
import PromptEncryption.System.Signatures

/-!
# System — what the threads of a process see

Any number of threads of one process, each a call of `TokenManager`: `refresh`, which succeeds,
`get_identity_snapshot`, or one of the three getters (`manager`).  A step is one read, one
replacement of a file, one answer, or the taking or giving back of the lock; no step fails.

The ledger kept is the list of refreshes, each with what it has written and whether it has given the
lock back (`refreshes`).

* `snapshot_of_last_refresh`: in every run, a snapshot is the keys and the token that the last
  refresh complete when the snapshot took the lock made together, or those the files held
  initially.
-/

namespace PromptEncryption.Server
open Python Programs Runs

/-! ### The calls -/

/-- A call of `TokenManager`. -/
inductive ManagerCall where
  | refresh
  | snapshot
  | publicKey
  | pqcPublicKey
  | attestationToken

inductive ManagerResult where
  | refreshed (r : Except Exc Unit)
  | snapshot (r : Except Exc (Bytes × Bytes × Bytes))
  | bytes (r : Except Exc Bytes)

/-- The threads of a process; no step of theirs fails. -/
def manager (audience : String) (answers : Answers) :
    Setting File Bytes Exc Question Answer ManagerCall ManagerResult where
  prog
    | .refresh => Prog.map .refreshed (refresh audience)
    | .snapshot => Prog.map .snapshot getIdentitySnapshot
    | .publicKey => Prog.map .bytes getPublicKey
    | .pqcPublicKey => Prog.map .bytes getPqcPublicKey
    | .attestationToken => Prog.map .bytes getAttestationToken
  answers := answers
  mayFail _ := False

abbrev ManagerEvent := Event File Bytes Exc Question Answer ManagerCall ManagerResult

/-! ### The refreshes of a history -/

/-- A refresh: who runs it, what it has written, and whether it has given the lock back. -/
structure Refresh where
  thread : Nat
  wrote : Store
  complete : Bool

/-- What a refresh's steps add to the list of refreshes, the newest first. -/
def note : ManagerEvent → List Refresh → List Refresh
  | ⟨t, .refresh, .acquire⟩, rs => ⟨t, fun _ => none, false⟩ :: rs
  | ⟨t, .refresh, .write f b (.ok ())⟩, r :: rs =>
      if r.thread = t then { r with wrote := Function.update r.wrote f (some b) } :: rs else r :: rs
  | ⟨t, .refresh, .release⟩, r :: rs =>
      if r.thread = t then { r with complete := true } :: rs else r :: rs
  | _, rs => rs

def refreshLedger :
    Ledger File Bytes Exc Question Answer ManagerCall ManagerResult (List Refresh) where
  empty := []
  record := note
  start t j rs := by cases j <;> rfl
  finish t j r rs := by cases j <;> rfl

/-- The refreshes of a history. -/
def refreshes (es : List ManagerEvent) : List Refresh := refreshLedger.of es

/-- The last refresh that has given the lock back. -/
def lastComplete (rs : List Refresh) : Option Refresh := rs.find? (·.complete)

/-- Two key pairs that were generated, and a token fetched for them. -/
structure Produced (answers : Answers) (audience : String) (i : Identity) : Prop where
  ecdsa : answers .generateEcdsa i.ecdsa
  pqc : answers .generateMldsa i.pqc
  token : answers (.fetchToken (fingerprints i.ecdsa i.pqc) audience) i.token

/-- The public keys and the token. -/
def Identity.triple (i : Identity) : Bytes × Bytes × Bytes := (i.ecdsa.pub, i.pqc.pub, i.token)

/-- The files hold the triple. -/
def Holds (s : Store) (triple : Bytes × Bytes × Bytes) : Prop :=
  s .publicKey = some triple.1 ∧ s .pqcPublicKey = some triple.2.1 ∧
    s .attestationToken = some triple.2.2

/-- The triple the last complete refresh made, all of whose files it wrote; the initial one where
none is complete. -/
def Latest (answers : Answers) (audience : String) (initial : Bytes × Bytes × Bytes)
    (rs : List Refresh) (triple : Bytes × Bytes × Bytes) : Prop :=
  match lastComplete rs with
  | none => triple = initial
  | some r => ∃ i : Identity, Produced answers audience i ∧ (∀ f, r.wrote f = some (i.content f)) ∧
      triple = i.triple

/-! ### Every section -/

section
variable {answers : Answers} {audience : String} {initial : Bytes × Bytes × Bytes}

/-- What the free lock owns: files that hold the latest triple. -/
def Owned (answers : Answers) (audience : String) (initial : Bytes × Bytes × Bytes)
    (rs : List Refresh) (s : Store) : Prop :=
  ∃ triple, Latest answers audience initial rs triple ∧ Holds s triple

/-- What a call returns, from the refreshes before it took the lock. -/
def Returns (answers : Answers) (audience : String) (initial : Bytes × Bytes × Bytes) :
    ManagerCall → List Refresh → ManagerResult → Prop
  | .refresh, _, r => r = .refreshed (.ok ())
  | .snapshot, rs, r => ∃ triple, Latest answers audience initial rs triple ∧
      r = .snapshot (.ok triple)
  | .publicKey, rs, r => ∃ triple, Latest answers audience initial rs triple ∧
      r = .bytes (.ok triple.1)
  | .pqcPublicKey, rs, r => ∃ triple, Latest answers audience initial rs triple ∧
      r = .bytes (.ok triple.2.1)
  | .attestationToken, rs, r => ∃ triple, Latest answers audience initial rs triple ∧
      r = .bytes (.ok triple.2.2)

variable {t : Nat} {j : ManagerCall} {s : Store} {rs : List Refresh} {f : File} {b : Bytes}

@[simp] theorem record_acquire :
    refreshLedger.record ⟨t, .refresh, .acquire⟩ rs = ⟨t, fun _ => none, false⟩ :: rs := rfl

@[simp] theorem record_write {wrote : Store} {complete : Bool} :
    refreshLedger.record ⟨t, .refresh, .write f b (.ok ())⟩ (⟨t, wrote, complete⟩ :: rs) =
      ⟨t, Function.update wrote f (some b), complete⟩ :: rs := if_pos rfl

@[simp] theorem record_release {wrote : Store} {complete : Bool} :
    refreshLedger.record ⟨t, .refresh, .release⟩ (⟨t, wrote, complete⟩ :: rs) =
      ⟨t, wrote, true⟩ :: rs := if_pos rfl

@[simp] theorem record_read {a : Except Exc (Option Bytes)} :
    refreshLedger.record ⟨t, j, .read f a⟩ rs = rs := by
  cases j <;> rfl

@[simp] theorem record_ask {q : Question} {a : Except Exc (Answer q)} :
    refreshLedger.record ⟨t, j, .ask q a⟩ rs = rs := by
  cases j <;> rfl

theorem record_other (h : j ≠ .refresh) {act : Act File Bytes Exc Question Answer ManagerResult} :
    refreshLedger.record ⟨t, j, act⟩ rs = rs := by
  cases j with
  | refresh => exact absurd rfl h
  | _ => rfl

/-- Reading a file that exists. -/
theorem inside_readFile {Φ : Except Exc Bytes → Store → List Refresh → Prop} (hs : s f = some b)
    (h : Φ (.ok b) s rs) :
    Inside refreshLedger (manager audience answers) t j Φ (readFile f) s rs := by
  refine ⟨?_, fun hf => hf.elim⟩
  rw [hs, record_read]
  exact h

theorem inside_readToken {Φ : Except Exc Bytes → Store → List Refresh → Prop}
    (hs : s .attestationToken = some b) (h : Φ (.ok b) s rs) :
    Inside refreshLedger (manager audience answers) t j Φ readToken s rs := by
  refine ⟨?_, fun hf => hf.elim⟩
  rw [hs, record_read]
  exact h

/-- **A refresh** leaves the files of its own. -/
theorem refresh_section :
    ∃ q, (manager audience answers).prog .refresh = .acquire (underLock q) ∧ ∀ t rs s,
      Inside refreshLedger (manager audience answers) t .refresh
        (fun r s' rs' => Owned answers audience initial
            (refreshLedger.record ⟨t, .refresh, .release⟩ rs') s' ∧ r = .refreshed (.ok ())) q s
        (refreshLedger.record ⟨t, .refresh, .acquire⟩ rs) := by
  refine ⟨_, map_withLock, ?_⟩
  intro t rs s
  have never {P : Prop} : (manager audience answers).mayFail .refresh → P := False.elim
  refine ⟨fun ecdsa hecdsa => ?_, never⟩
  refine ⟨?_, never⟩  -- the private key
  refine ⟨?_, never⟩  -- the public key
  refine ⟨fun pqc hpqc => ?_, never⟩
  refine ⟨?_, never⟩  -- the ML-DSA private keyset
  refine ⟨fun _ _ => ?_, never⟩
  refine ⟨?_, never⟩  -- the ML-DSA public keyset
  refine ⟨?_, never⟩  -- both are read back
  refine ⟨?_, never⟩
  refine ⟨fun token htoken => ?_, never⟩
  refine ⟨?_, never⟩  -- the token
  refine ⟨⟨(⟨ecdsa, pqc, token⟩ : Identity).triple, ?_, rfl, rfl, rfl⟩, rfl⟩
  simp only [record_acquire, record_ask, record_write, record_read, record_release]
  exact ⟨⟨ecdsa, pqc, token⟩, ⟨hecdsa, hpqc, htoken⟩, fun f => by cases f <;> rfl, rfl⟩

/-- **A call that only reads** leaves the files and the refreshes as they are: it is enough to say
what it returns from files that hold a triple. -/
theorem reading_section {j : ManagerCall} {α : Type} {g : Except Exc α → ManagerResult}
    {x : Action α} (hj : j ≠ .refresh) (hprog : (manager audience answers).prog j =
      Prog.map g (withLock x)) (value : Bytes × Bytes × Bytes → α)
    (hx : ∀ t s rs triple (Φ : Except Exc α → Store → List Refresh → Prop), Holds s triple →
      Φ (.ok (value triple)) s rs →
      Inside refreshLedger (manager audience answers) t j Φ x s rs) :
    ∃ q, (manager audience answers).prog j = .acquire (underLock q) ∧ ∀ t rs s,
      Owned answers audience initial rs s →
      Inside refreshLedger (manager audience answers) t j
        (fun r s' rs' => Owned answers audience initial
            (refreshLedger.record ⟨t, j, .release⟩ rs') s' ∧
          ∃ triple, Latest answers audience initial rs triple ∧ r = g (.ok (value triple))) q s
        (refreshLedger.record ⟨t, j, .acquire⟩ rs) := by
  refine ⟨_, hprog.trans map_withLock, ?_⟩
  rintro t rs s ⟨triple, hlatest, hholds⟩
  rw [record_other hj]
  refine inside_bind.mpr (hx t s rs triple _ hholds ?_)
  refine ⟨⟨triple, ?_, hholds⟩, triple, hlatest, rfl⟩
  rwa [record_other hj]

/-- Every call is one section under the lock. -/
theorem manager_sections :
    Sections refreshLedger (manager audience answers) (Owned answers audience initial)
      (Returns answers audience initial) := by
  intro j
  cases j with
  | refresh =>
      obtain ⟨q, hprog, hq⟩ := @refresh_section answers audience initial
      exact ⟨q, hprog, fun t rs s _ => hq t rs s⟩
  | snapshot =>
      refine reading_section (by simp) rfl id fun t s rs triple Φ h hΦ => ?_
      refine inside_bind.mpr (inside_readFile h.1 ?_)
      refine inside_bind.mpr (inside_readFile h.2.1 ?_)
      exact inside_bind.mpr (inside_readToken h.2.2 hΦ)
  | publicKey =>
      exact reading_section (by simp) rfl (fun triple => triple.1)
        fun t s rs triple Φ h hΦ => inside_readFile h.1 hΦ
  | pqcPublicKey =>
      exact reading_section (by simp) rfl (fun triple => triple.2.1)
        fun t s rs triple Φ h hΦ => inside_readFile h.2.1 hΦ
  | attestationToken =>
      exact reading_section (by simp) rfl (fun triple => triple.2.2)
        fun t s rs triple Φ h hΦ => inside_readToken h.2.2 hΦ

/-- **Every call, in every run, returns what the last complete refresh made.** -/
theorem call_returns {s₀ : Store} (hs₀ : Holds s₀ initial) {es : List ManagerEvent}
    {st : Pool File Bytes Exc Question Answer ManagerCall ManagerResult}
    (h : Run ((manager audience answers).system (· = s₀)) es st) {later earlier : List ManagerEvent}
    {t : Nat} {j : ManagerCall} {r : ManagerResult}
    (hes : es = later ++ ⟨t, j, .finish r⟩ :: earlier) :
    ∃ before, AcquiredAt t j earlier before ∧
      Returns answers audience initial j (refreshes before) r := by
  have hinit : ∀ s, s = s₀ → Owned answers audience initial refreshLedger.empty s := by
    rintro s rfl
    exact ⟨initial, rfl, hs₀⟩
  have hall := (section_rule manager_sections hinit h).2
  exact always_iff.mp hall later _ earlier hes r rfl

/-- **Snapshots are not torn.**  In every run from files that hold a triple, every snapshot that is
returned is the triple that the last refresh complete when the snapshot took the lock made and
wrote, or the initial one. -/
theorem snapshot_of_last_refresh {s₀ : Store} (hs₀ : Holds s₀ initial) {es : List ManagerEvent}
    {st : Pool File Bytes Exc Question Answer ManagerCall ManagerResult}
    (h : Run ((manager audience answers).system (· = s₀)) es st) {later earlier : List ManagerEvent}
    {t : Nat} {r : ManagerResult} (hes : es = later ++ ⟨t, .snapshot, .finish r⟩ :: earlier) :
    ∃ before triple, AcquiredAt t .snapshot earlier before ∧
      Latest answers audience initial (refreshes before) triple ∧ r = .snapshot (.ok triple) := by
  obtain ⟨before, hacq, triple, hlatest, rfl⟩ := call_returns hs₀ h hes
  exact ⟨before, triple, hacq, hlatest, rfl⟩

end

/-! ### A run of the toy libraries -/

/-- A refresh, and a snapshot that waits for it. -/
theorem snapshot_run : ∃ earlier st,
    Run ((manager Client.DEFAULT_AUDIENCE toyAnswers).system (· = toyStore))
      (⟨0, .snapshot, .finish (.snapshot (.ok (toyIdentity 49).triple))⟩ :: earlier) st := by
  have h := Run.init (S := (manager Client.DEFAULT_AUDIENCE toyAnswers).system (· = toyStore))
    (s := ⟨toyStore, none, fun _ => none⟩) ⟨rfl, rfl, fun _ => rfl⟩
  have h := h.step (.start (t := 0) (j := .snapshot) rfl)
  have h := h.step (.start (t := 1) (j := .refresh) rfl)
  have h := h.step (.acquire (t := 1) rfl rfl)
  have h := h.step (.ask (t := 1) (a := toyEcdsa 49) rfl (.inr rfl))
  have h := h.step (.write (t := 1) rfl)
  have h := h.step (.write (t := 1) rfl)
  have h := h.step (.ask (t := 1) (a := toyMldsa 49) rfl (.inr rfl))
  have h := h.step (.write (t := 1) rfl)
  have h := h.step (.ask (t := 1) (a := ()) rfl trivial)
  have h := h.step (.write (t := 1) rfl)
  have h := h.step (.read (t := 1) rfl)
  have h := h.step (.read (t := 1) rfl)
  have h := h.step (.ask (t := 1) (a := ([84, 49] : Bytes)) rfl (.inr ⟨rfl, rfl⟩))
  have h := h.step (.write (t := 1) rfl)
  have h := h.step (.release (t := 1) rfl rfl)
  have h := h.step (.acquire (t := 0) rfl rfl)
  have h := h.step (.read (t := 0) rfl)
  have h := h.step (.read (t := 0) rfl)
  have h := h.step (.read (t := 0) rfl)
  have h := h.step (.release (t := 0) rfl rfl)
  have h := h.step (.finish (t := 0) (r := .snapshot (.ok (toyIdentity 49).triple)) rfl)
  exact ⟨_, _, h⟩

/-- The theorem, at that run. -/
theorem snapshot_after_refresh : ∃ earlier before triple,
    AcquiredAt 0 .snapshot (earlier : List ManagerEvent) before ∧
      Latest toyAnswers Client.DEFAULT_AUDIENCE (toyIdentity 48).triple (refreshes before) triple ∧
      ManagerResult.snapshot (.ok (toyIdentity 49).triple) = .snapshot (.ok triple) := by
  obtain ⟨earlier, st, h⟩ := snapshot_run
  exact ⟨earlier, snapshot_of_last_refresh ⟨rfl, rfl, rfl⟩ h (List.nil_append _).symm⟩

end PromptEncryption.Server
