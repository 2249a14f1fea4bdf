import Mathlib.Data.List.Dedup
import Mathlib.Data.List.Infix
import Mathlib.Data.Rat.Defs
import Mathlib.Order.Basic

/-!
# Support — Python values and exceptions

The part of Python's data model that programs over decoded JSON rest on: the values
`json.loads` returns, their truth value, `==` and `in` against a string, and the exceptions a
statement may raise.

An exception class is its name and its base class (`ExcClass`), so `except C` is a walk up the
bases (`ExcClass.issubclass`) and the hierarchy is open.  An exception carries its message as the
pieces of the f-string that made it (`Piece`); the values interpolated into it are kept, not
rendered.

A body that may raise is an `Except Exc`.  Three judgements are closed under the ways bodies are
put together:
* `x = .ok a`: the body returns (`bind_eq_ok`, `raiseIf_eq_ok`, `wrapAs_eq_ok`, `forM_eq_ok`);
* `RaisesOnly c x`: every exception the body raises is of class `c`;
* `Raises c x`: every exception the body raises is an instance of `c`.
-/

namespace Python

/-! ### Values -/

/-- A Python `float`. -/
inductive Float where
  | finite (q : ℚ)
  | inf (negative : Bool)
  | nan
  deriving DecidableEq

/-- A value `json.loads` can return. -/
inductive Json where
  | none
  | bool (b : Bool)
  | int (n : ℤ)
  | float (x : Float)
  | str (s : String)
  | list (xs : List Json)
  | dict (kvs : List (String × Json))

/-- The items of a `dict`; a key's value is the first one listed for it. -/
abbrev Dict := List (String × Json)

/-- `d.get(key, default)`. -/
def dictGetD (d : Dict) (key : String) (default : Json) : Json :=
  (d.lookup key).getD default

/-- `d.get(key)`. -/
def dictGet (d : Dict) (key : String) : Json := dictGetD d key .none

namespace Json

/-- `type(v).__name__`. -/
def typeName : Json → String
  | .none => "NoneType"
  | .bool _ => "bool"
  | .int _ => "int"
  | .float _ => "float"
  | .str _ => "str"
  | .list _ => "list"
  | .dict _ => "dict"

/-- `bool(v)`. -/
def truthy : Json → Bool
  | .none => false
  | .bool b => b
  | .int n => n != 0
  | .float x => x != .finite 0
  | .str s => s != ""
  | .list xs => !xs.isEmpty
  | .dict kvs => !kvs.isEmpty

/-- `v == s`, for a string `s`. -/
def eqStr (s : String) : Json → Bool
  | .str t => t == s
  | _ => false

@[simp] theorem eqStr_eq_true {s : String} {v : Json} : v.eqStr s = true ↔ v = .str s := by
  cases v <;> simp [eqStr]

/-- `isinstance(v, bool) and v`. -/
def isTrue : Json → Bool
  | .bool b => b
  | _ => false

@[simp] theorem isTrue_eq_true {v : Json} : v.isTrue = true ↔ v = .bool true := by
  cases v <;> simp [isTrue]

/-- `v`'s items, if it is a mapping. -/
def asDict : Json → Option Dict
  | .dict d => some d
  | _ => Option.none

/-- `v`'s text, if it is a string. -/
def asStr : Json → Option String
  | .str s => some s
  | _ => Option.none

theorem asDict_eq_some {v : Json} {d : Dict} : v.asDict = some d ↔ v = .dict d := by
  cases v <;> simp [asDict]

theorem asStr_eq_some {v : Json} {s : String} : v.asStr = some s ↔ v = .str s := by
  cases v <;> simp [asStr]

/-- Reading every element of a list with the inverse of `mk`. -/
theorem mapM_eq_some {α : Type} {read : Json → Option α} {mk : α → Json}
    (hread : ∀ {v a}, read v = some a ↔ v = mk a) {xs : List Json} {as : List α} :
    xs.mapM read = some as ↔ xs = as.map mk := by
  induction xs generalizing as with
  | nil => cases as <;> simp
  | cons v xs ih =>
      simp only [List.mapM_cons, Option.bind_eq_bind, Option.bind_eq_some_iff, Option.pure_def,
        Option.some.injEq, hread, ih]
      constructor
      · rintro ⟨a, rfl, as, rfl, rfl⟩; rfl
      · intro h
        cases as with
        | nil => cases h
        | cons a as =>
            obtain ⟨rfl, rfl⟩ := List.cons.inj h
            exact ⟨a, rfl, as, rfl, rfl⟩

/-- A `set` of strings, sorted into a list. -/
def sorted (xs : List String) : Json := .list ((xs.dedup.mergeSort (· ≤ ·)).map .str)

end Json

/-! ### Exceptions -/

/-- An exception class. -/
inductive ExcClass where
  | baseException
  | derived (name : String) (base : ExcClass)
  deriving DecidableEq, Repr

namespace ExcClass

/-- `issubclass(c, d)`. -/
def issubclass (d : ExcClass) : ExcClass → Bool
  | .baseException => d == .baseException
  | .derived n b => d == .derived n b || issubclass d b

@[simp] theorem issubclass_self (c : ExcClass) : issubclass c c = true := by
  cases c <;> simp [issubclass]

abbrev exception : ExcClass := .derived "Exception" .baseException
abbrev keyboardInterrupt : ExcClass := .derived "KeyboardInterrupt" .baseException
abbrev osError : ExcClass := .derived "OSError" .exception
abbrev fileNotFoundError : ExcClass := .derived "FileNotFoundError" .osError
abbrev connectionError : ExcClass := .derived "ConnectionError" .osError
abbrev typeError : ExcClass := .derived "TypeError" .exception
abbrev valueError : ExcClass := .derived "ValueError" .exception
abbrev unicodeDecodeError : ExcClass := .derived "UnicodeDecodeError" .valueError
abbrev jsonDecodeError : ExcClass := .derived "JSONDecodeError" .valueError
abbrev runtimeError : ExcClass := .derived "RuntimeError" .exception
abbrev recursionError : ExcClass := .derived "RecursionError" .runtimeError

end ExcClass

/-- A piece of an f-string: literal text, `{v}`, `{v!r}`, or a byte string. -/
inductive Piece where
  | text (s : String)
  | str (v : Json)
  | repr (v : Json)
  | bytes (b : List UInt8)

/-- A raised exception. -/
structure Exc where
  cls : ExcClass
  msg : List Piece := []

/-- `isinstance(e, c)`. -/
def Exc.isinstance (e : Exc) (c : ExcClass) : Bool := c.issubclass e.cls

/-! ### Bodies that may raise -/

section Bodies
variable {α β : Type} {x : Except Exc α} {c : ExcClass}

/-- `if p: raise e`. -/
def raiseIf (p : Prop) [Decidable p] (e : Exc) : Except Exc Unit := if p then .error e else .ok ()

/-- `try: x  except c as e: raise f(e) from e`. -/
def wrapAs (c : ExcClass) (f : Exc → Exc) : Except Exc α → Except Exc α
  | .ok a => .ok a
  | .error e => if e.isinstance c then .error (f e) else .error e

/-- `s in v`, for a string `s`. -/
def isIn (s : String) : Json → Except Exc Bool
  | .str t => .ok (decide (s.toList <:+: t.toList))
  | .list xs => .ok (xs.any (Json.eqStr s))
  | .dict kvs => .ok (kvs.any (fun kv => kv.1 == s))
  | v => .error ⟨.typeError, [.text "argument of type '", .text v.typeName,
      .text "' is not iterable"]⟩

@[simp] theorem bind_eq_ok {f : α → Except Exc β} {b : β} :
    (x >>= f) = .ok b ↔ ∃ a, x = .ok a ∧ f a = .ok b := by
  cases x <;> simp [bind, Except.bind]

@[simp] theorem bind_eq_error {f : α → Except Exc β} {e : Exc} :
    (x >>= f) = .error e ↔ x = .error e ∨ ∃ a, x = .ok a ∧ f a = .error e := by
  cases x <;> simp [bind, Except.bind]

@[simp] theorem exists_unit {p : Unit → Prop} : (∃ u, p u) ↔ p () :=
  ⟨fun ⟨(), h⟩ => h, fun h => ⟨(), h⟩⟩

@[simp] theorem pure_eq_ok {a b : α} : (pure a : Except Exc α) = .ok b ↔ a = b := by
  simp [pure, Except.pure]

@[simp] theorem raiseIf_eq_ok {p : Prop} [Decidable p] {e : Exc} :
    raiseIf p e = .ok () ↔ ¬ p := by
  unfold raiseIf; split <;> simp_all

@[simp] theorem raiseIf_eq_error {p : Prop} [Decidable p] {e e' : Exc} :
    raiseIf p e = .error e' ↔ p ∧ e = e' := by
  unfold raiseIf; split <;> simp_all

@[simp] theorem wrapAs_eq_ok {f : Exc → Exc} {a : α} : wrapAs c f x = .ok a ↔ x = .ok a := by
  cases x with
  | ok b => simp [wrapAs]
  | error e => simp only [wrapAs]; split <;> simp

theorem wrapAs_eq_error {f : Exc → Exc} {e : Exc} :
    wrapAs c f x = .error e ↔
      ∃ e', x = .error e' ∧ e = if e'.isinstance c then f e' else e' := by
  cases x with
  | ok b => simp [wrapAs]
  | error e' =>
      simp only [wrapAs, Except.error.injEq, exists_eq_left']
      split <;> simp only [Except.error.injEq] <;> exact eq_comm

/-- A loop whose body may raise returns when every iteration does. -/
theorem forM_eq_ok {f : α → Except Exc Unit} {xs : List α} :
    forM xs f = .ok () ↔ ∀ a ∈ xs, f a = .ok () := by
  induction xs with
  | nil => simp
  | cons a xs ih => rw [List.forM_cons, bind_eq_ok, exists_unit, ih, List.forall_mem_cons]

/-- Every exception `x` raises is of class `c`. -/
def RaisesOnly (c : ExcClass) (x : Except Exc α) : Prop := ∀ e, x = .error e → e.cls = c

namespace RaisesOnly

theorem ok {a : α} : RaisesOnly c (.ok a : Except Exc α) := fun _ h => by cases h

theorem pure {a : α} : RaisesOnly c (Pure.pure a : Except Exc α) := ok

theorem bind {f : α → Except Exc β} (hx : RaisesOnly c x) (hf : ∀ a, RaisesOnly c (f a)) :
    RaisesOnly c (x >>= f) := by
  intro e h
  rcases bind_eq_error.mp h with h | ⟨a, -, h⟩
  · exact hx e h
  · exact hf a e h

theorem raiseIf {p : Prop} [Decidable p] {m : List Piece} :
    RaisesOnly c (Python.raiseIf p ⟨c, m⟩) := by
  intro e h
  obtain ⟨-, rfl⟩ := raiseIf_eq_error.mp h
  rfl

/-- A `try` whose handler catches everything its body raises. -/
theorem wrapAs {d : ExcClass} {f : Exc → Exc} (hx : RaisesOnly d x)
    (hf : ∀ e, (f e).cls = c) : RaisesOnly c (wrapAs d f x) := by
  intro e h
  obtain ⟨e', h', rfl⟩ := wrapAs_eq_error.mp h
  have hd : e'.isinstance d = true := by simp [Exc.isinstance, hx e' h']
  rw [if_pos hd]
  exact hf e'

theorem forM {f : α → Except Exc Unit} {xs : List α} (hf : ∀ a, RaisesOnly c (f a)) :
    RaisesOnly c (ForM.forM xs f) := by
  induction xs with
  | nil => exact pure
  | cons a xs ih => rw [List.forM_cons]; exact bind (hf a) (fun _ => ih)

end RaisesOnly

/-- A body that raises only `c` either returns or raises an exception of class `c`. -/
theorem RaisesOnly.error_of_ne_ok {x : Except Exc Unit} (h : RaisesOnly c x)
    (hx : x ≠ .ok ()) : ∃ m, x = .error ⟨c, m⟩ := by
  cases x with
  | ok a => exact absurd rfl hx
  | error e => obtain ⟨d, m⟩ := e; obtain rfl : d = c := h _ rfl; exact ⟨m, rfl⟩

/-- Every exception `x` raises is an instance of `c`. -/
def Raises (c : ExcClass) (x : Except Exc α) : Prop :=
  ∀ e, x = .error e → e.isinstance c = true

namespace Raises

theorem ok {a : α} : Raises c (.ok a : Except Exc α) := fun _ h => by cases h

theorem error {e : Exc} (h : e.isinstance c = true) : Raises c (.error e : Except Exc α) := by
  intro e' he
  cases he
  exact h

theorem bind {f : α → Except Exc β} (hx : Raises c x) (hf : ∀ a, Raises c (f a)) :
    Raises c (x >>= f) := by
  intro e h
  rcases bind_eq_error.mp h with h | ⟨a, -, h⟩
  · exact hx e h
  · exact hf a e h

theorem raiseIf {p : Prop} [Decidable p] {e : Exc} (h : e.isinstance c = true) :
    Raises c (Python.raiseIf p e) := by
  intro e' he
  obtain ⟨-, rfl⟩ := raiseIf_eq_error.mp he
  exact h

theorem wrapAs {d : ExcClass} {f : Exc → Exc} (hx : Raises c x)
    (hf : ∀ e, e.isinstance c = true → (f e).isinstance c = true) :
    Raises c (Python.wrapAs d f x) := by
  intro e h
  obtain ⟨e', h', rfl⟩ := wrapAs_eq_error.mp h
  split
  · exact hf e' (hx e' h')
  · exact hx e' h'

theorem isIn {s : String} {v : Json} : Raises .exception (Python.isIn s v) := by
  cases v <;> first | exact ok | exact error rfl

end Raises

theorem RaisesOnly.raises {d : ExcClass} (h : RaisesOnly d x) (hd : c.issubclass d = true) :
    Raises c x := fun e he => by rw [Exc.isinstance, h e he, hd]

end Bodies

end Python
