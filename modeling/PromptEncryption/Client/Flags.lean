import PromptEncryption.Client.Attested

/-!
# Client — what `is_attested` says

`connect()` sets `is_attested`, and nothing resets it: not `close()`, not the `except` clause of a
`connect()` or a revalidation whose handshake failed, and not a response that ends the connection or
is lost with it.

* `flag_truthful`: along every run in which nothing closes the socket of an object whose flag is set,
  the flag is set only where a socket is held on which a handshake has succeeded and none has failed
  since (`Standing`).
* `closed_attested`: after `close()`, after a reconnection that fails and after a response that is
  lost, the flag is set on an object without a socket.
-/

namespace PromptEncryption.Client
open Python Scripts Runs

/-! ### Handshakes on a socket -/

/-- Since the log was `L`, a handshake on the socket had `validate` return, and returned. -/
def HandshakeSince (L : List Obs) (k : Nat) (s : Conn) : Prop :=
  ∃ new response tlsEkm reading, s.log = new ++ L ∧
    .validated (some k) response tlsEkm ∈ new ∧ .attested (some k) reading ∈ new

section
variable (P : Settings)

/-- The handshake of a `connect()` raises, on the socket `k` it has opened. -/
inductive ConnectFails : Nat → Conn → List (Sigma ConnAnswer) → Nat → Prop
  | intro {depth k : Nat} {s s₁ s₂ : Conn} {before as after : List (Sigma ConnAnswer)} {e : Exc}
      (hsuper : play superConnect s before = some (.ok (), s₁)) (hsock : s₁.sock = some k)
      (hraises : play (performAttestationHandshake P .connect (connect P depth)) s₁ as =
        some (.error e, s₂)) :
      ConnectFails (depth + 1) s (before ++ (as ++ after)) k

/-- The handshake of a `revalidate_session()` raises, on the socket `k` held. -/
inductive RevalidationFails : Nat → Conn → List (Sigma ConnAnswer) → Nat → Prop
  | intro {depth k : Nat} {s s₁ : Conn} {as after : List (Sigma ConnAnswer)} {e : Exc}
      (hsock : s.sock = some k)
      (hraises : play (performAttestationHandshake P .revalidateSession (connect P depth)) s as =
        some (.error e, s₁)) :
      RevalidationFails depth s (⟨.strike .between, none⟩ :: (as ++ after)) k

/-- **A handshake on the socket `k` fails in the call**: that of a `connect()` or of a
`revalidate_session()`, by itself or inside a `request()`. -/
inductive FailedOn (s : Conn) : Event → Nat → Prop
  | connect {depth k : Nat} {answers : List (Sigma ConnAnswer)} {r : Except Exc Unit}
      (h : ConnectFails P depth s answers k) : FailedOn s ⟨.connect, depth, answers, r⟩ k
  | revalidateSession {depth k : Nat} {answers : List (Sigma ConnAnswer)} {r : Except Exc Unit}
      (h : RevalidationFails P depth s answers k) :
      FailedOn s ⟨.revalidateSession, depth, answers, r⟩ k
  | revalidates {depth k : Nat} {s₁ : Conn} {before as : List (Sigma ConnAnswer)}
      {r : Except Exc Unit} (hdue : play (revalidationDue P) s before = some (.ok true, s₁))
      (h : RevalidationFails P depth s₁ as k) :
      FailedOn s ⟨.request, depth,
        ⟨.strike .between, none⟩ :: (before ++ ⟨.strike .between, none⟩ :: as), r⟩ k
  | reopens {depth k : Nat} {due : Bool} {s₁ s₂ : Conn}
      {before between as : List (Sigma ConnAnswer)} {r : Except Exc Unit}
      (hdue : play (revalidationDue P) s before = some (.ok due, s₁))
      (hrevalidates : play (revalidateIf P (Client.connect P depth) due) s₁ between =
        some (.ok (), s₂))
      (hstarts : P.cannotSend s₂.http = false) (hclosed : s₂.sock = none)
      (h : ConnectFails P depth s₂.starts as k) :
      FailedOn s ⟨.request, depth, ⟨.strike .between, none⟩ :: (before ++ (between ++
        ⟨.strike .between, none⟩ :: ⟨.strike .sending, none⟩ :: as)), r⟩ k

/-- **The socket `k` stands attested**: in a call of the history a handshake on it succeeded, and in
no call since has one failed. -/
inductive Standing : List Event → Conn → Nat → Prop
  | attested {es : List Event} {s s' : Conn} {e : Event} {k : Nat} (h : Run (connection P) es s)
      (hst : (connection P).step s e s') (hsince : HandshakeSince s.log k s')
      (hnone : ¬ FailedOn P s e k) : Standing (e :: es) s' k
  | kept {es : List Event} {s s' : Conn} {e : Event} {k : Nat} (h : Standing es s k)
      (hst : (connection P).step s e s') (hnone : ¬ FailedOn P s e k) : Standing (e :: es) s' k

end

/-! ### What may happen -/

/-- What is raised is derived from `Exception`. -/
def Exceptional : (q : ConnQuestion) → ConnAnswer q → Prop
  | .strike _, a => ∀ e, a = some e → e.isinstance .exception = true
  | .response _, a => ∀ e, a.1.data = .error e → e.isinstance .exception = true
  | _, _ => True

/-- The socket held is not lost: no `close()` takes effect, the `except` clause of no handshake is
entered, no response ends the connection or is struck by a `ConnectionError`, and `super().connect()`
does not raise once it has assigned the socket. -/
def KeepsSocket : (q : ConnQuestion) → ConnAnswer q → Prop
  | .strike .sockAssigned, a => a = none
  | .strike (.closing .connect), _ => False
  | .strike (.closing .revalidateSession), _ => False
  | .strike (.closing _), a => a ≠ none
  | .strike .responding, a => ∀ e, a = some e → e.isinstance .connectionError = false
  | .response _, a => a.2 = false
  | _, _ => True

/-- An answer to a call on an object whose flag is `flag`. -/
def Harmless (flag : Bool) (q : ConnQuestion) (a : ConnAnswer q) : Prop :=
  Exceptional q a ∧ (flag = true → KeepsSocket q a)

/-- **What may happen to an object**: `Exception`s, and where its flag is set nothing that loses the
socket. -/
def Unharmed (s : Conn) (e : Event) : Prop := ∀ a ∈ e.answers, Harmless s.isAttested a.1 a.2

/-- What a call leaves: the flag is as true as before, or a handshake on the socket held succeeded. -/
structure FlagKept (s s' : Conn) : Prop where
  grown : s.log <:+ s'.log
  flag : s'.isAttested = true →
    s.isAttested = true ∧ s'.sock = s.sock ∨ ∃ k, s'.sock = some k ∧ HandshakeSince s.log k s'

section
variable {P : Settings} {s s₁ s₂ : Conn} {flag : Bool}

theorem HandshakeSince.later {L : List Obs} {k : Nat} (h : HandshakeSince L k s)
    (hlog : s.log <:+ s₁.log) : HandshakeSince L k s₁ := by
  obtain ⟨new, response, tlsEkm, reading, hs, hvalidated, hattested⟩ := h
  obtain ⟨newer, hnewer⟩ := hlog
  refine ⟨newer ++ new, response, tlsEkm, reading, ?_, List.mem_append_right _ hvalidated,
    List.mem_append_right _ hattested⟩
  rw [← hnewer, hs, List.append_assoc]

theorem HandshakeSince.earlier {L : List Obs} {k : Nat} (h : HandshakeSince s.log k s₁)
    (hlog : L <:+ s.log) : HandshakeSince L k s₁ := by
  obtain ⟨new, response, tlsEkm, reading, hs, hvalidated, hattested⟩ := h
  obtain ⟨older, holder⟩ := hlog
  refine ⟨new ++ older, response, tlsEkm, reading, ?_, List.mem_append_left _ hvalidated,
    List.mem_append_left _ hattested⟩
  rw [hs, ← holder, List.append_assoc]

theorem FlagKept.of_same (hlog : s.log <:+ s₁.log) (hflag : s₁.isAttested = s.isAttested)
    (hsock : s₁.sock = s.sock) : FlagKept s s₁ :=
  ⟨hlog, fun h => .inl ⟨hflag ▸ h, hsock⟩⟩

theorem FlagKept.refl : FlagKept s s := .of_same List.suffix_rfl rfl rfl

/-- An unset flag is true. -/
theorem FlagKept.of_unset (hlog : s.log <:+ s₁.log) (hflag : ¬ s₁.isAttested = true) :
    FlagKept s s₁ := ⟨hlog, fun h => absurd h hflag⟩

theorem FlagKept.trans (h : FlagKept s s₁) (h' : FlagKept s₁ s₂) : FlagKept s s₂ := by
  refine ⟨h.grown.trans h'.grown, fun hflag => ?_⟩
  rcases h'.flag hflag with ⟨hflag₁, hsock₁⟩ | ⟨k, hk, hsince⟩
  · rcases h.flag hflag₁ with ⟨hflag₀, hsock⟩ | ⟨k, hk, hsince⟩
    · exact .inl ⟨hflag₀, hsock₁.trans hsock⟩
    · exact .inr ⟨k, hsock₁.trans hk, hsince.later h'.grown⟩
  · exact .inr ⟨k, hk, hsince.earlier h.grown⟩

end

/-! ### A handshake on a socket -/

/-- The exporter raises where there is no socket. -/
def RefusesNone (P : Settings) : Prop :=
  ∀ length label context, ∃ e, P.ekmExporterFn none length label context = .error e

section
variable {P : Settings} {C : (q : ConnQuestion) → ConnAnswer q → Prop} {s : Conn}
variable {self_connect : Method Unit}

/-- Inside a call: the log has grown, and the flag is what it was. -/
structure Unflagged (s s' : Conn) : Prop where
  grown : s.log <:+ s'.log
  flag : s'.isAttested = s.isAttested

theorem Unflagged.observe {s' : Conn} (h : Unflagged s s') (o : Obs) : Unflagged s (s'.observe o) :=
  ⟨h.grown.trans (List.suffix_cons o s'.log), h.flag⟩

/-- The handshake on `k` has had `validate` return since the log was that of `s`. -/
structure ValidatedSince (s : Conn) (k : Nat) (s' : Conn) : Prop where
  flag : s'.isAttested = s.isAttested
  held : s'.sock = some k
  since : ∃ new response tlsEkm, s'.log = new ++ s.log ∧ .validated (some k) response tlsEkm ∈ new

/-- What a handshake on the socket `k` leaves. -/
structure HandshakeDone (s : Conn) (k : Nat) (s' : Conn) : Prop where
  flag : s'.isAttested = s.isAttested
  held : s'.sock = some k
  since : HandshakeSince s.log k s'

theorem HandshakeSince.grown {L : List Obs} {k : Nat} {s' : Conn} (h : HandshakeSince L k s') :
    L <:+ s'.log := by
  obtain ⟨new, -, -, -, hlog, -⟩ := h
  exact ⟨new, hlog.symm⟩

/-- **A handshake on a socket**: it returns with `validate` having returned on that socket, or raises
an `Exception`. -/
theorem handshake_on (hP : P.Ordinary) (hnone : RefusesNone P)
    (hC : ∀ q a, C q a → Exceptional q a) {c : Caller} {k : Nat} (hsock : s.sock = some k) :
    Meets C (performAttestationHandshake P c self_connect) (fun _ => HandshakeDone s k)
      (fun e s' => e.isinstance .exception = true ∧ Unflagged s s') s := by
  have hstruck : ∀ {p e}, C (.strike p) (some e) → e.isinstance .exception = true := fun h =>
    hC _ _ h _ rfl
  have hstart : s.sock = some k ∧ Unflagged s s := ⟨hsock, List.suffix_rfl, rfl⟩
  refine performAttestationHandshake_meets (I := fun s' => s'.sock = some k ∧ Unflagged s s')
    (J := fun s' => (s'.sock = some k ∨ s'.sock = none) ∧ Unflagged s s')
    (V := ValidatedSince s k) ?_ (fun s' e h he => ⟨hstruck he, h.2.grown, h.2.flag⟩)
    (fun s' e h he => ⟨he hP, h.2⟩) (fun s' e h _ => ⟨rfl, h.2⟩)
    ?_ ?_ ?_ ?_ ?_ ?_ ?_ hstart
  · rintro s' e (h | h) he
    · exact ⟨hstruck he, h.2⟩
    · exact ⟨hstruck he, h.2⟩
  · intro s' body h
    refine superRequest_meets (I := fun s' => s'.sock = some k ∧ Unflagged s s')
      (fun _ _ h he => ⟨hstruck he, h.2⟩) (fun _ _ h he => ⟨he, h.2⟩)
      (fun _ h => ⟨h.1, h.2.grown, h.2.flag⟩) ?_
      (fun _ _ h _ => ⟨h.1, h.2.observe _⟩) (fun _ _ h he => ⟨hstruck he, h.2⟩) h
    -- there is a socket: the request opens no connection
    intro s'' h hno
    cases h.1.symm.trans hno
  · intro s' r ends e h hr he
    exact ⟨processAttestationResponse_raises hP.decodes (hC _ _ hr) e he, h.2.grown, h.2.flag⟩
  · intro s' r ends h _
    refine ⟨?_, h.2.grown, h.2.flag⟩
    cases ends with
    | true => exact .inr rfl
    | false => exact .inl h.1
  · rintro s' nonce response tlsEkm ⟨hheld | hlost, h⟩ hekm -
    · obtain ⟨new, hlog⟩ := h.grown
      refine ⟨h.flag, hheld, .validated s'.sock response tlsEkm :: new, response, tlsEkm, ?_, ?_⟩
      · exact congrArg _ hlog.symm
      · rw [hheld]
        exact List.mem_cons_self
    · obtain ⟨e, he⟩ := hnone EKM_LENGTH EKM_LABEL nonce
      rw [hlost, he] at hekm
      cases hekm
  · rintro s' e ⟨hflag, -, new, response, tlsEkm, hlog, -⟩ he
    exact ⟨hstruck he, ⟨new, hlog.symm⟩, hflag⟩
  · rintro s' e reading ⟨hflag, -, new, response, tlsEkm, hlog, -⟩ - he
    exact ⟨hstruck he, ⟨new, hlog.symm⟩, hflag⟩
  · rintro s' reading ⟨hflag, hheld, new, response, tlsEkm, hlog, hvalidated⟩ -
    refine ⟨hflag, hheld, .attested s'.sock reading :: new, response, tlsEkm, reading,
      congrArg _ hlog, List.mem_cons_of_mem _ hvalidated, ?_⟩
    rw [hheld]
    exact List.mem_cons_self

end

/-! ### What a call keeps -/

section
variable {P : Settings} {flag : Bool} {s : Conn} {depth : Nat}

/-- The `except` clause of a handshake is not entered where the flag is set. -/
theorem clause_flag {c : Closer} {e : Exc} {s₁ : Conn} {Φ : Unit → Conn → Prop}
    (hc : c = .connect ∨ c = .revalidateSession) (hflag : s.isAttested = true → flag = true)
    (h : Unflagged s s₁) :
    Meets (Harmless flag) (do close c; lift (.error e) : Method Unit) Φ (fun _ => FlagKept s) s₁ := by
  by_cases hset : s.isAttested = true
  · have hnot : ∀ a, ¬ Harmless flag (.strike (.closing c)) a := by
      rintro a ⟨-, hkeeps⟩
      rcases hc with rfl | rfl
      · exact hkeeps (hflag hset)
      · exact hkeeps (hflag hset)
    exact meets_bind.mpr (meets_close.mpr ⟨fun h => (hnot _ h).elim, fun _ h => (hnot _ h).elim⟩)
  · have hunset : ¬ s₁.isAttested = true := by rwa [h.flag]
    have hkept : FlagKept s s₁ := .of_unset h.grown hunset
    have hshut : FlagKept s s₁.shut := .of_unset h.grown hunset
    exact closing_meets (fun _ _ => hkept) (fun _ _ => hshut) hshut

/-- A `close()` that is called otherwise takes no effect where the flag is set. -/
theorem close_flag {c : Closer} (hc : c = .request ∨ c = .user)
    (hflag : s.isAttested = true → flag = true) :
    Meets (Harmless flag) (close c) (fun _ => FlagKept s) (fun _ => FlagKept s) s := by
  refine meets_close.mpr ⟨fun hclosing => ?_, fun _ _ => .refl⟩
  by_cases hset : s.isAttested = true
  · have hno : (none : Option Exc) ≠ none := by
      rcases hc with rfl | rfl
      · exact hclosing.2 (hflag hset)
      · exact hclosing.2 (hflag hset)
    exact absurd rfl hno
  · have hshut : FlagKept s s.shut := .of_unset List.suffix_rfl hset
    exact ⟨fun _ => hshut, fun _ _ => hshut⟩

/-- **`connect()` keeps the flag true.** -/
theorem connect_flag (hP : P.Ordinary) (hnone : RefusesNone P)
    (hflag : s.isAttested = true → flag = true) :
    Meets (Harmless flag) (connect P depth) (fun _ => FlagKept s) (fun _ => FlagKept s) s := by
  cases depth with
  | zero => exact meets_error.mpr .refl
  | succ depth =>
      simp only [connect, connectWith, meets_bind]
      refine meets_superConnect.mpr ⟨fun _ => ⟨fun _ => ?_, fun e he => ?_⟩, fun _ _ => .refl⟩
      swap
      · -- the new socket is left unattested
        refine .of_unset List.suffix_rfl fun hset => ?_
        cases he.2 (hflag hset)
      have hhandshake : Meets (Harmless flag)
          (performAttestationHandshake P .connect (connect P depth))
          (fun _ => HandshakeDone s.opens s.opened)
          (fun e s' => e.isinstance .exception = true ∧ Unflagged s.opens s') s.opens :=
        handshake_on hP hnone (fun _ _ h => h.1) rfl
      refine meets_tryExcept.mpr (hhandshake.mono ?_ ?_)
      · rintro - s₁ ⟨hset, hheld, hsince⟩
        refine meets_strikeAt.mpr ⟨fun _ => meets_modify.mpr ?_, fun _ _ => ?_⟩
        · have hlater : HandshakeSince s.log s.opened (s₁.marks.observe .connected) :=
            hsince.later (List.suffix_cons _ _)
          exact meets_observe.mpr ⟨hlater.grown, fun _ => .inr ⟨_, hheld, hlater⟩⟩
        · exact ⟨hsince.grown, fun _ => .inr ⟨_, hheld, hsince⟩⟩
      · rintro e s₁ ⟨he, h⟩
        rw [if_pos he]
        exact clause_flag (.inl rfl) hflag ⟨h.grown, h.flag⟩

theorem revalidateSession_flag (hP : P.Ordinary) (hnone : RefusesNone P)
    (hflag : s.isAttested = true → flag = true) :
    Meets (Harmless flag) (revalidateSession P (connect P depth)) (fun _ => FlagKept s)
      (fun _ => FlagKept s) s := by
  simp only [revalidateSession, meets_bind]
  refine meets_strikeAt.mpr ⟨fun _ => meets_getState.mpr ?_, fun _ _ => .refl⟩
  refine meets_raiseIf.mpr ⟨fun hopen => ?_, fun _ => .refl⟩
  cases hsock : s.sock with
  | none => exact absurd hsock hopen
  | some k =>
      have hhandshake : Meets (Harmless flag)
          (performAttestationHandshake P .revalidateSession (connect P depth))
          (fun _ => HandshakeDone s k)
          (fun e s' => e.isinstance .exception = true ∧ Unflagged s s') s :=
        handshake_on hP hnone (fun _ _ h => h.1) hsock
      refine meets_tryExcept.mpr (meets_bind.mpr (hhandshake.mono ?_ ?_))
      · rintro - s₁ ⟨hset, hheld, hsince⟩
        refine meets_strikeAt.mpr ⟨fun _ => ?_, fun e he => ?_⟩
        · exact ⟨hsince.grown, fun _ => .inr ⟨k, hheld, hsince⟩⟩
        · rw [if_pos (he.1 e rfl)]
          exact clause_flag (.inr rfl) hflag ⟨hsince.grown, hset⟩
      · rintro e s₁ ⟨he, h⟩
        rw [if_pos he]
        exact clause_flag (.inr rfl) hflag h

/-- What `request` finds out before it revalidates. -/
structure DueChecked (s : Conn) (due : Bool) (s' : Conn) : Prop where
  due : due = true → s.isAttested = true
  grown : s.log <:+ s'.log
  flag : s'.isAttested = s.isAttested
  sock : s'.sock = s.sock

theorem revalidationDue_flag {C : (q : ConnQuestion) → ConnAnswer q → Prop}
    {Ψ : Exc → Conn → Prop} : Meets C (revalidationDue P) (DueChecked s) Ψ s := by
  refine meets_revalidationDue.mpr ⟨fun _ => ?_, fun hset _ reading _ => ?_⟩
  · exact ⟨fun hno => (by cases hno), List.suffix_rfl, rfl, rfl⟩
  · exact ⟨fun _ => hset, List.suffix_cons _ _, rfl, rfl⟩

/-- The revalidation of a request, where it is due only with the flag set. -/
theorem revalidateIf_flag (hP : P.Ordinary) (hnone : RefusesNone P) {due : Bool}
    (hdue : due = true → flag = true) :
    Meets (Harmless flag) (revalidateIf P (connect P depth) due) (fun _ s' => FlagKept s s' ∧
      (due = false → s' = s)) (fun _ => FlagKept s) s := by
  cases due with
  | false => exact meets_pure.mpr ⟨.refl, fun _ => rfl⟩
  | true =>
      refine meets_bind.mpr (meets_strikeAt.mpr ⟨fun _ => meets_tryExcept.mpr ?_, fun _ _ => .refl⟩)
      refine (revalidateSession_flag hP hnone fun _ => hdue rfl).mono ?_ ?_
      · exact fun _ s₁ h => ⟨h, fun hno => (by cases hno)⟩
      · intro e s₁ h
        split
        · refine meets_bind.mpr ((close_flag (.inl rfl) fun _ => hdue rfl).mono ?_ ?_)
          · exact fun _ s₂ h₂ => meets_error.mpr (h.trans h₂)
          · exact fun _ s₂ h₂ => h.trans h₂
        · exact h

/-- **`request()` keeps the flag true.** -/
theorem request_flag (hP : P.Ordinary) (hnone : RefusesNone P)
    (hflag : s.isAttested = true → flag = true) :
    Meets (Harmless flag) (request P (connect P depth)) (fun _ => FlagKept s) (fun _ => FlagKept s)
      s := by
  simp only [request, meets_bind]
  refine meets_strikeAt.mpr ⟨fun _ => ?_, fun _ _ => .refl⟩
  refine revalidationDue_flag.mono (fun due s₁ h₁ => ?_) fun _ _ => id
  have hchecked : FlagKept s s₁ := .of_same h₁.grown h₁.flag h₁.sock
  refine (revalidateIf_flag hP hnone fun hdue => hflag (h₁.due hdue)).mono ?_
    fun _ _ h => hchecked.trans h
  rintro - s₂ ⟨h₂, hsame⟩
  have hkept : FlagKept s s₂ := hchecked.trans h₂
  refine meets_strikeAt.mpr ⟨fun _ => ?_, fun _ _ => hkept⟩
  -- a connection is opened by the request at most where none was held
  have hstart : FlagKept s s₂ ∧ (s₂.sock = none → s₂.isAttested = true → flag = true) := by
    refine ⟨hkept, fun _ hset => ?_⟩
    cases due with
    | true => exact hflag (h₁.due rfl)
    | false => exact hflag (h₁.flag ▸ hsame rfl ▸ hset)
  refine superRequest_meets (I := fun s' => FlagKept s s' ∧
    (s'.sock = none → s'.isAttested = true → flag = true)) (fun _ _ h _ => h.1) (fun _ _ h _ => h.1)
    (fun s' h => ⟨h.1.trans (.of_same List.suffix_rfl rfl rfl), h.2⟩) ?_
    (fun s' k h _ => h.1.trans (.of_same (List.suffix_cons _ _) rfl rfl)) (fun _ _ h _ => h) hstart
  intro s' h hclosed
  refine (connect_flag hP hnone (h.2 hclosed)).mono (fun _ s'' h' => ?_) fun _ _ h' => h.1.trans h'
  refine ⟨h.1.trans h', fun hno hset => ?_⟩
  rcases h'.flag hset with ⟨hset', -⟩ | ⟨k, hk, -⟩
  · exact h.2 hclosed hset'
  · cases hno.symm.trans hk

/-- **The step lemma.**  Every harmless call keeps the flag true. -/
theorem call_flag (hP : P.Ordinary) (hnone : RefusesNone P) (call : Call) :
    Meets (Harmless s.isAttested) (call.method P depth) (fun _ => FlagKept s) (fun _ => FlagKept s)
      s := by
  cases call with
  | connect => exact connect_flag hP hnone id
  | request => exact request_flag hP hnone id
  | revalidateSession => exact revalidateSession_flag hP hnone id
  | close => exact close_flag (.inr rfl) id
  | response =>
      refine meets_bind.mpr (getresponse_meets (fun _ received hr => ?_) (fun _ _ => .refl) ?_)
      · obtain ⟨r, ends⟩ := received
        refine meets_pure.mpr ⟨List.suffix_rfl, fun hset => .inl ⟨hset, ?_⟩⟩
        obtain rfl : ends = false := hr.2 hset
        rfl
      · -- a `ConnectionError` closes the connection: the flag is not set
        intro e e' _ he' hlost
        refine .of_unset List.suffix_rfl fun hset => ?_
        rw [he'.2 hset e' rfl] at hlost
        cases hlost
  | peerClose => exact meets_pure.mpr .refl

end

/-! ### A handshake that fails -/

section
variable {P : Settings} {s s' : Conn} {depth k : Nat} {answers : List (Sigma ConnAnswer)}
variable {ρ : Type} {r : ρ} {g : Except Exc Unit → Script Conn ConnQuestion ConnAnswer ρ}

/-- What follows a call raises what the call raises. -/
def Reraises (g : Except Exc Unit → Script Conn ConnQuestion ConnAnswer ρ) : Prop :=
  ∀ e, ∃ r, g (.error e) = .ret r

theorem reraises_orRaise {α : Type} {f : Unit → Method α} : Reraises (orRaise f) :=
  fun _ => ⟨_, rfl⟩

theorem Reraises.bind {f : Unit → Method Unit} (h : Reraises g) :
    Reraises fun r => Script.bind (orRaise f r) g := h

/-- An `except` clause that closes the connection asks whether that fails, and leaves the flag. -/
theorem clause_play {c : Closer} {e : Exc}
    (h : play (Script.bind (do close c; lift (.error e) : Method Unit) g) s answers = some (r, s')) :
    (∃ struck, ⟨.strike (.closing c), struck⟩ ∈ answers) ∧
      (Reraises g → s'.isAttested = s.isAttested) := by
  refine ⟨play_ask_mem h, fun hg => ?_⟩
  have hclause : Meets (fun _ _ => True) (do close c; lift (.error e) : Method Unit)
      (fun _ _ => False) (fun _ s' => s'.isAttested = s.isAttested) s :=
    closing_meets (fun _ _ => rfl) (fun _ _ => rfl) rfl
  have hrest : wp (fun _ _ => True) (Script.bind (do close c; lift (.error e) : Method Unit) g)
      (fun _ s' => s'.isAttested = s.isAttested) s := by
    refine wp_bind.mpr (wp_mono ?_ hclause)
    rintro (e' | a) s₁ hpost
    · obtain ⟨r', hr'⟩ := hg e'
      rw [hr']
      exact hpost
    · exact hpost.elim
  have hend := wp_play hrest (fun _ _ => trivial) h
  exact hend

theorem handshake_exception (hP : P.Ordinary) (hnone : RefusesNone P) {c : Caller}
    {self_connect : Method Unit} {e : Exc} (hsock : s.sock = some k)
    (hanswers : ∀ a ∈ answers, Exceptional a.1 a.2)
    (hraises : play (performAttestationHandshake P c self_connect) s answers = some (.error e, s')) :
    e.isinstance .exception = true ∧ s'.isAttested = s.isAttested :=
  have h := ((handshake_on hP hnone (fun _ _ => id) hsock).play hanswers hraises).2 e rfl
  ⟨h.1, h.2.flag⟩

/-- The `except` clause of a `connect()` is entered. -/
theorem ConnectFails.closes (hP : P.Ordinary) (hnone : RefusesNone P)
    (h : ConnectFails P depth s answers k) (hanswers : ∀ a ∈ answers, Exceptional a.1 a.2)
    (hplay : play (Script.bind (connect P depth) g) s answers = some (r, s')) :
    (∃ struck, ⟨.strike (.closing .connect), struck⟩ ∈ answers) ∧
      (Reraises g → s'.isAttested = s.isAttested) := by
  obtain ⟨hsuper, hsock, hraises⟩ := h
  obtain ⟨-, hrest⟩ := List.forall_mem_append.mp hanswers
  obtain ⟨has, -⟩ := List.forall_mem_append.mp hrest
  obtain ⟨he, hflag⟩ := handshake_exception hP hnone hsock has hraises
  have hopens : Meets (fun _ _ => True) superConnect (fun _ s' => s'.isAttested = s.isAttested)
      (fun _ _ => True) s :=
    meets_superConnect.mpr ⟨fun _ => ⟨fun _ => rfl, fun _ _ => trivial⟩, fun _ _ => trivial⟩
  have hopened := (hopens.play (fun _ _ => trivial) hsuper).1 () rfl
  have hhandshake := (play_bind_bind hsuper).symm.trans hplay
  have hclause := (play_caught hraises he).symm.trans
    ((congrArg (play · _ _) (Script.bind_assoc _ _ g)).symm.trans hhandshake)
  obtain ⟨⟨struck, hmem⟩, hkept⟩ := clause_play hclause
  refine ⟨⟨struck, List.mem_append_right _ (List.mem_append_right _ hmem)⟩, fun hg => ?_⟩
  exact (hkept hg.bind).trans (hflag.trans hopened)

/-- The `except` clause of a `revalidate_session()` is entered. -/
theorem RevalidationFails.closes (hP : P.Ordinary) (hnone : RefusesNone P)
    (h : RevalidationFails P depth s answers k) (hanswers : ∀ a ∈ answers, Exceptional a.1 a.2)
    (hplay : play (Script.bind (revalidateSession P (connect P depth)) g) s answers = some (r, s')) :
    (∃ struck, ⟨.strike (.closing .revalidateSession), struck⟩ ∈ answers) ∧
      (Reraises g → s'.isAttested = s.isAttested) := by
  cases h with
  | @intro _ _ s₁ as after e hsock hraises =>
      obtain ⟨-, hrest⟩ := List.forall_mem_cons.mp hanswers
      obtain ⟨has, -⟩ := List.forall_mem_append.mp hrest
      obtain ⟨he, hflag⟩ := handshake_exception hP hnone hsock has hraises
      have hopen : play (lift (raiseIf (s.sock = none)
          ⟨promptEncryptionError, [.text "Cannot revalidate: Socket is closed."]⟩) : Method Unit) s
          [] = some (.ok (), s) := by
        rw [raiseIf, if_neg (by rw [hsock]; exact Option.some_ne_none k)]
        rfl
      have hget : play (getState : Method Conn) s [] = some (.ok s, s) := rfl
      have hchecks := (play_bind_bind play_strikeAt).symm.trans hplay
      have htry := (play_bind_bind hopen).symm.trans ((play_bind_bind hget).symm.trans hchecks)
      obtain ⟨⟨struck, hmem⟩, hkept⟩ := clause_play
        ((play_caught (play_raised hraises) he).symm.trans htry)
      exact ⟨⟨struck, List.mem_cons_of_mem _ (List.mem_append_right _ hmem)⟩,
        fun hg => (hkept hg).trans hflag⟩

/-- **A handshake fails only where an `except` clause is entered**, and the flag is not set in such a
call. -/
theorem FailedOn.closes (hP : P.Ordinary) (hnone : RefusesNone P) {e : Event}
    (h : FailedOn P s e k) (hanswers : ∀ a ∈ e.answers, Exceptional a.1 a.2)
    (hst : (connection P).step s e s') :
    (∃ c struck, (c = .connect ∨ c = .revalidateSession) ∧
      ⟨.strike (.closing c), struck⟩ ∈ e.answers) ∧
      (s'.isAttested = true → s.isAttested = true) := by
  have hret : Reraises (Script.ret (σ := Conn) (A := ConnAnswer) : Except Exc Unit → _) :=
    fun e => ⟨_, rfl⟩
  cases h with
  | connect h =>
      have hplay := (congrArg (play · s _) (Script.bind_ret _)).trans hst
      obtain ⟨⟨struck, hmem⟩, hkept⟩ := h.closes hP hnone hanswers hplay
      exact ⟨⟨.connect, struck, .inl rfl, hmem⟩, fun hset => hkept hret ▸ hset⟩
  | revalidateSession h =>
      have hplay := (congrArg (play · s _) (Script.bind_ret _)).trans hst
      obtain ⟨⟨struck, hmem⟩, hkept⟩ := h.closes hP hnone hanswers hplay
      exact ⟨⟨.revalidateSession, struck, .inr rfl, hmem⟩, fun hset => hkept hret ▸ hset⟩
  | revalidates hdue h =>
      obtain ⟨-, hrest⟩ := List.forall_mem_cons.mp hanswers
      obtain ⟨hbefore, hrest⟩ := List.forall_mem_append.mp hrest
      obtain ⟨-, has⟩ := List.forall_mem_cons.mp hrest
      have hchecked := (play_bind hdue).symm.trans (play_strikeAt_bind.symm.trans hst)
      have htry := (play_bind_bind play_strikeAt).symm.trans hchecked
      obtain ⟨⟨struck, hmem⟩, -⟩ := h.closes hP hnone has
        ((congrArg (play · _ _) (Script.bind_assoc _ _ _)).symm.trans htry)
      have hset := (revalidationDue_flag (C := Exceptional) (Ψ := fun _ _ => True)).play hbefore hdue
      exact ⟨⟨.revalidateSession, struck, .inr rfl, List.mem_cons_of_mem _
        (List.mem_append_right _ (List.mem_cons_of_mem _ hmem))⟩, fun _ => (hset.1 true rfl).due rfl⟩
  | @reopens depth _ due s₁ s₂ before between as r hdue hrevalidates hstarts hclosed h =>
      obtain ⟨-, hrest⟩ := List.forall_mem_cons.mp hanswers
      obtain ⟨hbefore, hrest⟩ := List.forall_mem_append.mp hrest
      obtain ⟨-, hrest⟩ := List.forall_mem_append.mp hrest
      obtain ⟨-, hrest⟩ := List.forall_mem_cons.mp hrest
      obtain ⟨-, has⟩ := List.forall_mem_cons.mp hrest
      have hchecked := (play_bind hdue).symm.trans (play_strikeAt_bind.symm.trans hst)
      have hsends := play_strikeAt_bind.symm.trans ((play_bind hrevalidates).symm.trans hchecked)
      have hstarted := (play_bind (play_putrequest hstarts)).symm.trans
        (play_strikeAt_bind.symm.trans hsends)
      obtain ⟨⟨struck, hmem⟩, hkept⟩ := h.closes hP hnone has
        ((play_autoOpen_bind (s := s₂.starts) hclosed).symm.trans hstarted)
      refine ⟨⟨.connect, struck, .inl rfl, List.mem_cons_of_mem _ (List.mem_append_right _
        (List.mem_append_right _ (List.mem_cons_of_mem _ (List.mem_cons_of_mem _ hmem))))⟩, ?_⟩
      intro hset
      have hset₂ : s₂.isAttested = true := hkept reraises_orRaise ▸ hset
      have hcheck := ((revalidationDue_flag (C := Exceptional) (Ψ := fun _ _ => True)).play hbefore
        hdue).1 due rfl
      cases due with
      | true => exact hcheck.due rfl
      | false =>
          have hpure : Meets (fun _ _ => True) (revalidateIf P (Client.connect P depth) false)
              (fun _ s' => s' = s₁) (fun _ _ => False) s₁ := meets_pure.mpr rfl
          have hsame := (hpure.play (fun _ _ => trivial) hrevalidates).1 () rfl
          rw [← hcheck.flag, ← hsame]
          exact hset₂

end

/-! ### Every run -/

/-- **The flag is true** along every run of harmless calls. -/
theorem flag_truthful {P : Settings} {s : Conn} {es : List Event} (hP : P.Ordinary)
    (hnone : RefusesNone P) (h : Run ((connection P).restrict Unharmed) es s)
    (hflag : s.isAttested = true) : ∃ k, s.sock = some k ∧ Standing P es s k := by
  refine h.invariant
    (P := fun es s => s.isAttested = true → ∃ k, s.sock = some k ∧ Standing P es s k) ?_ ?_ hflag
  · intro s h₀ hset
    obtain rfl : s = {} := h₀
    cases hset
  · rintro es s e s' hrun ih ⟨hst, hharmless⟩ hset
    have hkept : FlagKept s s' :=
      (call_flag hP hnone e.call).play_ends (Φ := fun _ => FlagKept s) hharmless hst
    have hno : ∀ k, ¬ FailedOn P s e k := by
      intro k hfailed
      obtain ⟨⟨c, struck, hc, hmem⟩, hset₀⟩ :=
        hfailed.closes hP hnone (fun a ha => (hharmless a ha).1) hst
      have hkeeps := (hharmless _ hmem).2 (hset₀ hset)
      rcases hc with rfl | rfl
      · exact hkeeps
      · exact hkeeps
    rcases hkept.flag hset with ⟨hset₀, hsock⟩ | ⟨k, hk, hsince⟩
    · obtain ⟨k, hk, hstanding⟩ := ih hset₀
      exact ⟨k, hsock.trans hk, .kept hstanding hst (hno k)⟩
    · exact ⟨k, hk, .attested hrun.of_restrict hst hsince (hno k)⟩

/-! ### Two runs -/

/-- An exporter that raises where there is no socket. -/
def refusingExporter : Option Nat → Nat → Bytes → Bytes → Except Exc Bytes
  | none, _, _, _ => .error ⟨.typeError, [.text "Socket cannot be None"]⟩
  | some _, _, _, _ => .ok []

def refusingSettings : Settings := { sampleSettings with ekmExporterFn := refusingExporter }

theorem refusingSettings_ordinary : refusingSettings.Ordinary where
  decodes := sampleSettings_ordinary.decodes
  libs := sampleSettings_ordinary.libs
  exports sock _ _ _ := by
    cases sock with
    | none => exact .error rfl
    | some k => exact .ok

theorem refusingSettings_refuses : RefusesNone refusingSettings := fun _ _ _ => ⟨_, rfl⟩

/-- A `connect()` in which nothing fails, at the reading 1. -/
def attestedConnect : Event :=
  ⟨.connect, 1, connectAnswers sampleNonce ⟨.ok [], 200, none⟩ 1, .ok ()⟩

theorem attestedConnect_exceptional : ∀ a ∈ attestedConnect.answers, Exceptional a.1 a.2 := by
  simp only [attestedConnect, connectAnswers, handshakeAnswers, requestAnswers,
    List.forall_mem_append, List.forall_mem_cons]
  simp [Exceptional]

/-- The connection after it. -/
def attestedConn : Conn :=
  ((Conn.opens {}).attests 0 (refusingSettings.J.requestToJson (attestationRequest sampleNonce))
    sampleResponse [] 1).marks.observe .connected

/-- A `request()` that follows at the reading 2. -/
def freshRequest : Event := ⟨.request, 1, freshAnswers 2, .ok ()⟩

/-- The connection after both. -/
def requestedConn : Conn :=
  (attestedConn.observe (.checked 2)).starts.observe (.sent .application 0)

theorem attestedConnect_step :
    (connection refusingSettings).step {} attestedConnect attestedConn :=
  play_connect rfl rfl rfl sampleResponse_valid

theorem freshRequest_step :
    (connection refusingSettings).step attestedConn freshRequest requestedConn :=
  play_request rfl rfl rfl (by decide +kernel) (by decide +kernel)

theorem freshRequest_harmless : ∀ a ∈ freshRequest.answers, Harmless true a.1 a.2 := by
  simp only [freshRequest, freshAnswers, requestAnswers, List.forall_mem_append,
    List.forall_mem_cons]
  simp [Harmless, Exceptional, KeepsSocket]

theorem freshRequest_truthful :
    ∃ k, requestedConn.sock = some k ∧
      Standing refusingSettings [freshRequest, attestedConnect] requestedConn k := by
  have hconnect : Unharmed {} attestedConnect := fun a ha =>
    ⟨attestedConnect_exceptional a ha, fun hno => (by cases hno)⟩
  have hrun : Run ((connection refusingSettings).restrict Unharmed)
      [freshRequest, attestedConnect] requestedConn :=
    .step (.step (.init rfl) ⟨attestedConnect_step, hconnect⟩)
      ⟨freshRequest_step, freshRequest_harmless⟩
  exact flag_truthful refusingSettings_ordinary refusingSettings_refuses hrun rfl

/-- A `close()`. -/
def userClose : Event :=
  ⟨.close, 1, [⟨.strike (.closing .user), none⟩, ⟨.strike (.closed .user), none⟩], .ok ()⟩

/-- A `connect()` whose attestation is answered 401. -/
def refusedConnect : Event :=
  ⟨.connect, 1, [⟨.strike .superConnect, none⟩, ⟨.strike .sockAssigned, none⟩,
      ⟨.strike (.unvalidated .connect), none⟩, ⟨.tokenBytes, sampleNonce⟩] ++
    (requestAnswers (.unvalidated .connect) ++
      [⟨.strike (.unvalidated .connect), none⟩,
        ⟨.response (.unvalidated .connect), (⟨.ok [], 401, none⟩, false)⟩,
        ⟨.strike (.closing .connect), none⟩, ⟨.strike (.closed .connect), none⟩]),
    .error ⟨attestationHandshakeError, [.text "Connection error reading response"]⟩⟩

/-- The peer has gone when the response is read. -/
def remoteDisconnected : Exc :=
  ⟨.derived "RemoteDisconnected" (.derived "ConnectionResetError" .connectionError),
    [.text "Remote end closed connection without response"]⟩

/-- A response that is struck by it. -/
def lostResponse : Event :=
  ⟨.response, 1, [⟨.strike .responding, some remoteDisconnected⟩, ⟨.strike .responding, none⟩,
    ⟨.strike .responding, none⟩], .error remoteDisconnected⟩

/-- After `close()`, after a reconnection that fails and after a response that is lost, the flag is set
without a socket. -/
theorem closed_attested :
    (∃ s, Run (connection refusingSettings) [userClose, attestedConnect] s ∧
      s.isAttested = true ∧ s.sock = none) ∧
    (∃ s, Run (connection refusingSettings) [refusedConnect, attestedConnect] s ∧
      s.isAttested = true ∧ s.sock = none) ∧
    (∃ s, Run (connection refusingSettings) [lostResponse, freshRequest, attestedConnect] s ∧
      s.isAttested = true ∧ s.sock = none) ∧
    ∀ e ∈ [userClose, refusedConnect, lostResponse, freshRequest, attestedConnect],
      ∀ a ∈ e.answers, Exceptional a.1 a.2 := by
  have hrun : Run (connection refusingSettings) [attestedConnect] attestedConn :=
    .step (.init rfl) attestedConnect_step
  refine ⟨⟨_, .step hrun rfl, rfl, rfl⟩, ⟨_, .step hrun rfl, rfl, rfl⟩,
    ⟨_, .step (.step hrun freshRequest_step) rfl, rfl, rfl⟩, ?_⟩
  simp only [List.forall_mem_cons]
  refine ⟨?_, ?_, ?_, ?_, attestedConnect_exceptional, fun _ hno => (by cases hno)⟩
  · simp [userClose, Exceptional]
  · simp [refusedConnect, requestAnswers, Exceptional]
  · have hlost : remoteDisconnected.isinstance .exception = true := rfl
    simpa [lostResponse, Exceptional] using hlost
  · exact fun a ha => (freshRequest_harmless a ha).1

end PromptEncryption.Client
