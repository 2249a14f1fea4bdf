import PromptEncryption.Support.Bytes
import PromptEncryption.Support.Numbers
import PromptEncryption.Support.Runs

/-!
# Ekm — exporting keying material

`export_keying_material` of `ekm/exporter.py` and of the C extension below it (`ekm/_ekm.c`), over the
objects of a Python process: a socket is unwrapped by `_sslobj` as long as there is one, and the
`SSL *` of what is left is handed to OpenSSL, which is a parameter (`OpenSsl`), as is the allocation of
the result.

The extension holds a buffer of the context while it runs; the buffers held are counted.

* `returns_iff`: a call comes to an end exactly where the unwrapping does.
* `returned_ok_iff`, `raises_exception`: what it returns, and that it raises nothing but an `Exception`.
* `buffers_released_iff`: over any calls, every buffer is released exactly if no call was for an
  `_SSLSocket` without an `SSL *`.
-/

namespace PromptEncryption.Ekm
open Python Runs

/-! ### Objects -/

/-- A reference to an object; `none` is `None`. -/
abbrev Value := Option Nat

/-- What is asked of an object. -/
structure Obj where
  typeName : String
  /-- `type(obj).__module__`. -/
  typeModule : String
  /-- `obj._sslobj`, where there is such an attribute. -/
  sslobj : Option Value
  /-- The `SSL *` of an instance of `_ssl._SSLSocket`; it can be `NULL`. -/
  ssl : Option (Option Nat)

abbrev Heap := Nat → Obj

def Heap.obj (h : Heap) : Value → Obj
  | none => ⟨"NoneType", "builtins", none, none⟩
  | some a => h a

/-! ### The C extension -/

structure OpenSsl where
  /-- `SSL_export_keying_material`, at an `SSL *`, a length, a label and a context; `none` where it does
  not return 1. -/
  exportKeyingMaterial : Nat → Nat → Bytes → Option Bytes → Option Bytes
  /-- What `PyBytes_FromStringAndSize(NULL, n)` raises, for a size that is not negative. -/
  allocationFault : Nat → Option Exc

/-- What is raised is an `Exception`. -/
def OpenSsl.Ordinary (L : OpenSsl) : Prop :=
  ∀ n e, L.allocationFault n = some e → e.isinstance .exception = true

abbrev systemError : ExcClass := .derived "SystemError" .exception

/-- The buffers a `Py_buffer` of the context counts for. -/
def bufferOf (context : Option Bytes) : Nat := if context.isSome then 1 else 0

/-- A Python integer that is a `Py_ssize_t`. -/
def IsSsize (n : ℤ) : Prop := -2 ^ 63 ≤ n ∧ n < 2 ^ 63

instance (n : ℤ) : Decidable (IsSsize n) := inferInstanceAs (Decidable (_ ∧ _))

/-- `PyArg_ParseTuple(args, "O!ns#|z*:export_keying_material", …)`: the `SSL *` of the object, and the
buffers held. -/
def parseArgs (o : Obj) (length : ℤ) (context : Option Bytes) (buffers : Nat) :
    Except Exc (Option Nat × Nat) :=
  match o.ssl with
  | none => .error ⟨.typeError, [.text "export_keying_material() argument 1 must be _ssl._SSLSocket, not ",
      .text o.typeName]⟩
  | some ssl =>
      if IsSsize length then .ok (ssl, buffers + bufferOf context)
      else .error ⟨.overflowError, [.text "Python int too large to convert to C ssize_t"]⟩

def notConnected : Exc :=
  ⟨.valueError, [.text "SSLSocket is not connected (no SSL object found)"]⟩

def exportFailed : Exc := ⟨.runtimeError, [.text "OpenSSL SSL_export_keying_material failed"]⟩

/-- From the allocation of the result to `out`. -/
def exportInto (L : OpenSsl) (ssl : Nat) (outLength : ℤ) (label : Bytes) (context : Option Bytes) :
    Except Exc Bytes :=
  if outLength < 0 then
    .error ⟨systemError, [.text "Negative size passed to PyBytes_FromStringAndSize"]⟩
  else
    match L.allocationFault outLength.toNat with
    | some e => .error e
    | none =>
        match L.exportKeyingMaterial ssl outLength.toNat label context with
        | none => .error exportFailed
        | some ekm => .ok ekm

/-- `ekm_export_keying_material`: the result, and the buffers held after it. -/
def ekmExportKeyingMaterial (L : OpenSsl) (o : Obj) (outLength : ℤ) (label : Bytes)
    (context : Option Bytes) (buffers : Nat) : Except Exc Bytes × Nat :=
  match parseArgs o outLength context buffers with
  | .error e => (.error e, buffers)
  -- returns without `PyBuffer_Release`
  | .ok (none, held) => (.error notConnected, held)
  | .ok (some ssl, held) => (exportInto L ssl outLength label context, held - bufferOf context)

/-! ### The function -/

/-- `while hasattr(internal_sock, "_sslobj")`, for so many turns. -/
def unwrap (h : Heap) : Nat → Value → Option Value
  | 0, _ => none
  | n + 1, v =>
      match (h.obj v).sslobj with
      | none => some v
      | some w => unwrap h n w

/-- From the check of the module on. -/
def exportFrom (L : OpenSsl) (o : Obj) (length : ℤ) (label : Bytes) (context : Option Bytes)
    (buffers : Nat) : Except Exc Bytes × Nat :=
  if o.typeModule ≠ "_ssl" then
    (.error ⟨.typeError, [.text "Provided object of type ", .text o.typeName,
      .text " does not appear to be a valid SSL socket object."]⟩, buffers)
  else ekmExportKeyingMaterial L o length label context buffers

/-- `export_keying_material`; `none` where the loop takes more turns. -/
def exportKeyingMaterial (L : OpenSsl) (h : Heap) (turns : Nat) (sock : Value) (length : ℤ)
    (label : Bytes) (context : Option Bytes) (buffers : Nat) : Option (Except Exc Bytes × Nat) :=
  if sock = none then
    some (.error ⟨.typeError, [.text "Socket cannot be None"]⟩, buffers)
  else
    (unwrap h turns sock).map fun internalSock =>
      exportFrom L (h.obj internalSock) length label context buffers

/-! ### Unwrapping -/

/-- The innermost object. -/
inductive Unwraps (h : Heap) : Value → Value → Prop where
  | done {v} : (h.obj v).sslobj = none → Unwraps h v v
  | more {v w x} : (h.obj v).sslobj = some w → Unwraps h w x → Unwraps h v x

section
variable {L : OpenSsl} {h : Heap} {v w x sock inner : Value} {n turns buffers : Nat} {length : ℤ}
  {label ekm : Bytes} {context : Option Bytes} {r : Except Exc Bytes × Nat}

theorem unwraps_of_unwrap (hn : unwrap h n v = some x) : Unwraps h v x := by
  induction n generalizing v with
  | zero => cases hn
  | succ n ih =>
      rw [unwrap] at hn
      split at hn
      · obtain rfl := Option.some.inj hn
        exact .done ‹_›
      · exact .more ‹_› (ih hn)

theorem Unwraps.unwrap (hx : Unwraps h v x) : ∃ n, Ekm.unwrap h n v = some x := by
  induction hx with
  | done hnone => exact ⟨1, by rw [Ekm.unwrap, hnone]⟩
  | more hsome _ ih =>
      obtain ⟨n, hn⟩ := ih
      exact ⟨n + 1, by rw [Ekm.unwrap, hsome]; exact hn⟩

/-- There is one innermost object at most. -/
theorem Unwraps.unique (hw : Unwraps h v w) (hx : Unwraps h v x) : w = x := by
  induction hw with
  | done hnone =>
      cases hx with
      | done _ => rfl
      | more hsome _ => cases hnone.symm.trans hsome
  | more hsome _ ih =>
      cases hx with
      | done hnone => cases hnone.symm.trans hsome
      | more hsome' hx =>
          cases hsome.symm.trans hsome'
          exact ih hx

/-- The call comes to `r`. -/
def Returns (L : OpenSsl) (h : Heap) (sock : Value) (length : ℤ) (label : Bytes)
    (context : Option Bytes) (buffers : Nat) (r : Except Exc Bytes × Nat) : Prop :=
  ∃ turns, exportKeyingMaterial L h turns sock length label context buffers = some r

/-- **What a call comes to.** -/
theorem returns_of_unwraps (hsock : sock ≠ none) (hx : Unwraps h sock x) :
    Returns L h sock length label context buffers r ↔
      r = exportFrom L (h.obj x) length label context buffers := by
  constructor
  · rintro ⟨turns, hr⟩
    rw [exportKeyingMaterial, if_neg hsock] at hr
    obtain ⟨y, hy, rfl⟩ := Option.map_eq_some_iff.mp hr
    rw [hx.unique (unwraps_of_unwrap hy)]
  · rintro rfl
    obtain ⟨turns, hturns⟩ := hx.unwrap
    exact ⟨turns, by rw [exportKeyingMaterial, if_neg hsock, hturns]; rfl⟩

/-- **A call comes to an end exactly where the unwrapping does.** -/
theorem returns_iff : (∃ r, Returns L h sock length label context buffers r) ↔
    sock = none ∨ ∃ x, Unwraps h sock x := by
  constructor
  · rintro ⟨r, turns, hr⟩
    rw [exportKeyingMaterial] at hr
    split at hr
    · exact .inl ‹_›
    · obtain ⟨x, hx, -⟩ := Option.map_eq_some_iff.mp hr
      exact .inr ⟨x, unwraps_of_unwrap hx⟩
  · rintro (rfl | ⟨x, hx⟩)
    · exact ⟨_, 0, rfl⟩
    · by_cases hsock : sock = none
      · subst hsock
        exact ⟨_, 0, rfl⟩
      · exact ⟨_, (returns_of_unwraps hsock hx).mpr rfl⟩

/-- The innermost object of a call that returns, unless it is for `None`. -/
theorem Returns.unwraps (hr : Returns L h sock length label context buffers r) (hsock : sock ≠ none) :
    ∃ x, Unwraps h sock x ∧ r = exportFrom L (h.obj x) length label context buffers := by
  obtain ⟨x, hx⟩ := (returns_iff.mp ⟨r, hr⟩).resolve_left hsock
  exact ⟨x, hx, (returns_of_unwraps hsock hx).mp hr⟩

theorem returns_none : Returns L h none length label context buffers r ↔
    r = (.error ⟨.typeError, [.text "Socket cannot be None"]⟩, buffers) := by
  constructor
  · rintro ⟨turns, hr⟩
    exact (Option.some.inj hr).symm
  · rintro rfl
    exact ⟨0, rfl⟩

/-! ### What is returned -/

theorem parseArgs_eq_ok {o : Obj} {ssl : Option Nat} {held : Nat} :
    parseArgs o length context buffers = .ok (ssl, held) ↔
      o.ssl = some ssl ∧ IsSsize length ∧ held = buffers + bufferOf context := by
  cases hssl : o.ssl with
  | none => simp [parseArgs, hssl]
  | some s =>
      by_cases hlength : IsSsize length
      · simp [parseArgs, hssl, hlength, eq_comm]
      · simp [parseArgs, hssl, hlength]

theorem exportInto_eq_ok {ssl : Nat} : exportInto L ssl length label context = .ok ekm ↔
    0 ≤ length ∧ L.allocationFault length.toNat = none ∧
      L.exportKeyingMaterial ssl length.toNat label context = some ekm := by
  by_cases hlength : length < 0
  · simp [exportInto, hlength]
  · cases hfault : L.allocationFault length.toNat with
    | some e => simp [exportInto, hlength, hfault]
    | none =>
        cases hexport : L.exportKeyingMaterial ssl length.toNat label context with
        | none => simp [exportInto, hlength, hfault, hexport]
        | some b => simp [exportInto, hlength, hfault, hexport, not_lt.mp hlength]

/-- The object is an `_ssl._SSLSocket` with this `SSL *`, or with none. -/
structure IsSslSocket (o : Obj) (ssl : Option Nat) : Prop where
  typeModule : o.typeModule = "_ssl"
  ssl : o.ssl = some ssl

theorem exportFrom_eq_ok {o : Obj} : (exportFrom L o length label context buffers).1 = .ok ekm ↔
    ∃ ssl, IsSslSocket o (some ssl) ∧ IsSsize length ∧ 0 ≤ length ∧
      L.allocationFault length.toNat = none ∧
      L.exportKeyingMaterial ssl length.toNat label context = some ekm := by
  by_cases hmodule : o.typeModule = "_ssl"
  · rw [exportFrom, if_neg (not_not.mpr hmodule), ekmExportKeyingMaterial]
    constructor
    · intro hr
      split at hr
      · cases hr
      · cases hr
      · obtain ⟨hssl, hlength, -⟩ := parseArgs_eq_ok.mp ‹_›
        exact ⟨_, ⟨hmodule, hssl⟩, hlength, exportInto_eq_ok.mp hr⟩
    · rintro ⟨ssl, ho, hlength, hr⟩
      rw [parseArgs_eq_ok.mpr ⟨ho.ssl, hlength, rfl⟩]
      exact exportInto_eq_ok.mpr hr
  · rw [exportFrom, if_pos hmodule]
    simp only [reduceCtorEq, false_iff]
    rintro ⟨ssl, ho, -⟩
    exact hmodule ho.typeModule

/-- **The keying material** is OpenSSL's, for the `SSL *` of the innermost object. -/
theorem returned_ok_iff : (∃ held, Returns L h sock length label context buffers (.ok ekm, held)) ↔
    sock ≠ none ∧ ∃ x ssl, Unwraps h sock x ∧ IsSslSocket (h.obj x) (some ssl) ∧ IsSsize length ∧
      0 ≤ length ∧ L.allocationFault length.toNat = none ∧
      L.exportKeyingMaterial ssl length.toNat label context = some ekm := by
  constructor
  · rintro ⟨held, hr⟩
    have hsock : sock ≠ none := by
      rintro rfl
      cases returns_none.mp hr
    obtain ⟨x, hx, heq⟩ := hr.unwraps hsock
    obtain ⟨ssl, hssl⟩ := exportFrom_eq_ok.mp (congrArg Prod.fst heq).symm
    exact ⟨hsock, x, ssl, hx, hssl⟩
  · rintro ⟨hsock, x, ssl, hx, hssl⟩
    have hok : (exportFrom L (h.obj x) length label context buffers).1 = .ok ekm :=
      exportFrom_eq_ok.mpr ⟨ssl, hssl⟩
    exact ⟨_, (returns_of_unwraps hsock hx).mpr (Prod.ext hok.symm rfl)⟩

theorem exportInto_raises (hL : L.Ordinary) {ssl : Nat} :
    Raises .exception (exportInto L ssl length label context) := by
  intro e he
  rw [exportInto] at he
  split at he
  · cases he
    rfl
  · split at he
    · cases he
      exact hL _ _ ‹_›
    · split at he
      · cases he
        rfl
      · cases he

theorem exportFrom_raises (hL : L.Ordinary) {o : Obj} :
    Raises .exception (exportFrom L o length label context buffers).1 := by
  intro e he
  rw [exportFrom] at he
  split at he
  · cases he
    rfl
  · rw [ekmExportKeyingMaterial] at he
    split at he
    · rename_i hargs
      rw [parseArgs] at hargs
      split at hargs
      · cases hargs
        cases he
        rfl
      · split at hargs
        · cases hargs
        · cases hargs
          cases he
          rfl
    · cases he
      rfl
    · exact exportInto_raises hL e he

/-- **What is raised** is an `Exception`, so that it closes a client's connection and does not pass a
server's handler. -/
theorem raises_exception (hL : L.Ordinary) {e : Exc} {held : Nat}
    (hr : Returns L h sock length label context buffers (.error e, held)) :
    e.isinstance .exception = true := by
  by_cases hsock : sock = none
  · subst hsock
    cases returns_none.mp hr
    rfl
  · obtain ⟨x, -, heq⟩ := hr.unwraps hsock
    exact exportFrom_raises hL e (congrArg Prod.fst heq).symm

/-! ### The buffers -/

theorem ekm_held {o : Obj} : (ekmExportKeyingMaterial L o length label context buffers).2 =
    if o.ssl = some none ∧ IsSsize length then buffers + bufferOf context else buffers := by
  rw [ekmExportKeyingMaterial]
  split
  · rename_i hargs
    rw [if_neg]
    rintro ⟨hssl, hlength⟩
    rw [parseArgs_eq_ok.mpr ⟨hssl, hlength, rfl⟩] at hargs
    cases hargs
  · obtain ⟨hssl, hlength, rfl⟩ := parseArgs_eq_ok.mp ‹_›
    exact (if_pos ⟨hssl, hlength⟩).symm
  · obtain ⟨hssl, -, rfl⟩ := parseArgs_eq_ok.mp ‹_›
    rw [if_neg (by simp [hssl])]
    exact Nat.add_sub_cancel ..

end

/-- A call of `export_keying_material`. -/
structure Call where
  heap : Heap
  sock : Value
  length : ℤ
  label : Bytes
  context : Option Bytes

/-- The buffers held, over calls on any objects. -/
def extension (L : OpenSsl) : System Nat Call where
  init buffers := buffers = 0
  step buffers c buffers' :=
    ∃ x, Returns L c.heap c.sock c.length c.label c.context buffers (x, buffers')

/-- A call with a context, on an `_SSLSocket` without an `SSL *`. -/
def Call.OnUnconnected (c : Call) : Prop :=
  c.context ≠ none ∧ c.sock ≠ none ∧ IsSsize c.length ∧
    ∃ x, Unwraps c.heap c.sock x ∧ IsSslSocket (c.heap.obj x) none

section
variable {L : OpenSsl} {buffers buffers' : Nat} {c : Call} {cs : List Call}

/-- **One call.** -/
theorem extension_step (h : (extension L).step buffers c buffers') :
    c.OnUnconnected ∧ buffers' = buffers + 1 ∨ ¬ c.OnUnconnected ∧ buffers' = buffers := by
  obtain ⟨x, hr⟩ := h
  by_cases hsock : c.sock = none
  · rw [hsock] at hr
    cases returns_none.mp hr
    exact .inr ⟨fun h => h.2.1 hsock, rfl⟩
  obtain ⟨y, hy, heq⟩ := hr.unwraps hsock
  have hheld : buffers' = (exportFrom L (c.heap.obj y) c.length c.label c.context buffers).2 :=
    congrArg Prod.snd heq
  have hunconnected : c.OnUnconnected ↔ c.context ≠ none ∧ IsSsize c.length ∧
      IsSslSocket (c.heap.obj y) none := by
    constructor
    · rintro ⟨hcontext, -, hlength, z, hz, hssl⟩
      exact ⟨hcontext, hlength, hy.unique hz ▸ hssl⟩
    · rintro ⟨hcontext, hlength, hssl⟩
      exact ⟨hcontext, hsock, hlength, y, hy, hssl⟩
  rw [hunconnected, hheld, exportFrom]
  by_cases hmodule : (c.heap.obj y).typeModule = "_ssl"
  · rw [if_neg (not_not.mpr hmodule), ekm_held]
    by_cases hssl : (c.heap.obj y).ssl = some none ∧ IsSsize c.length
    · rw [if_pos hssl]
      cases hcontext : c.context with
      | none => exact .inr ⟨fun h => h.1 rfl, rfl⟩
      | some b => exact .inl ⟨⟨by simp, hssl.2, hmodule, hssl.1⟩, rfl⟩
    · rw [if_neg hssl]
      exact .inr ⟨fun h => hssl ⟨h.2.2.ssl, h.2.1⟩, rfl⟩
  · rw [if_pos hmodule]
    exact .inr ⟨fun h => hmodule h.2.2.typeModule, rfl⟩

/-- **The buffers of the contexts.**  Over any calls on any objects, every buffer is released exactly if
no call with a context was for an `_SSLSocket` without an `SSL *`: there the extension returns before
its `PyBuffer_Release`. -/
theorem buffers_released_iff (h : Run (extension L) cs buffers) :
    buffers = 0 ↔ ∀ c ∈ cs, ¬ c.OnUnconnected := by
  refine h.invariant (P := fun cs buffers => buffers = 0 ↔ ∀ c ∈ cs, ¬ c.OnUnconnected) ?_ ?_
  · rintro buffers rfl
    simp
  · rintro cs buffers c buffers' - ih hst
    rcases extension_step hst with ⟨hc, rfl⟩ | ⟨hc, rfl⟩
    · simp [hc]
    · simp [hc, ih]

end

/-! ### A call on an unconnected socket -/

/-- An `ssl.SSLSocket` with its `_ssl._SSLSocket`, another `_SSLSocket` without an `SSL *`, and a closed
`SSLSocket`. -/
def sampleHeap : Heap
  | 0 => ⟨"SSLSocket", "ssl", some (some 1), none⟩
  | 1 => ⟨"_SSLSocket", "_ssl", none, some (some 7)⟩
  | 2 => ⟨"_SSLSocket", "_ssl", none, some none⟩
  | _ => ⟨"SSLSocket", "ssl", some none, none⟩

def sampleOpenSsl : OpenSsl where
  exportKeyingMaterial _ length _ _ := some (List.replicate length 0)
  allocationFault _ := none

theorem buffer_kept : ∃ cs buffers, Run (extension sampleOpenSsl) cs buffers ∧ cs.length = 2 ∧
    ¬ ∀ c ∈ cs, ¬ c.OnUnconnected := by
  have h := Run.init (S := extension sampleOpenSsl) (s := 0) rfl
  have hfirst : (extension sampleOpenSsl).step 0 ⟨sampleHeap, some 0, 32, [], some []⟩ 0 :=
    ⟨_, 2, rfl⟩
  have hsecond : (extension sampleOpenSsl).step 0 ⟨sampleHeap, some 2, 32, [], some []⟩ 1 :=
    ⟨_, 1, rfl⟩
  have h := (h.step hfirst).step hsecond
  exact ⟨_, 1, h, rfl, fun hnone => absurd ((buffers_released_iff h).mpr hnone) (by decide)⟩

end PromptEncryption.Ekm
