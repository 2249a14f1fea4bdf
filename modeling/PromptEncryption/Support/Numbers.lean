import Mathlib.Tactic.Linarith
import PromptEncryption.Support.Rounding

/-!
# Support — Python numbers

The arithmetic of `int` and `float` on decoded JSON values, at any rounding of what an operation on
`float`s returns.  Floats are rationals, the infinities and `nan`.  A `bool` is the `int` it stands
for; what is no number raises `TypeError`, and an `int` beyond the floats raises `OverflowError` where
it meets one.

* `Number.sub_mul_eq_ok`, `Number.addFloat_eq_ok`: when the arithmetic returns, and what.
* `IsTime.sub_mul`, `IsTime.addFloat`: between times, and not rounded, this is the arithmetic of ℚ.
-/

namespace Python

abbrev ExcClass.overflowError : ExcClass :=
  .derived "OverflowError" (.derived "ArithmeticError" .exception)

/-! ### Floats -/

namespace Float

def neg : Float → Float
  | .finite q => .finite (-q)
  | .inf n => .inf !n
  | .nan => .nan

section
variable (ρ : Rounding)

/-- `x + y`. -/
def add : Float → Float → Float
  | .finite p, .finite q => ρ (p + q)
  | .nan, _ => .nan
  | _, .nan => .nan
  | .inf m, .inf n => if m = n then .inf m else .nan
  | .inf m, .finite _ => .inf m
  | .finite _, .inf n => .inf n

/-- `x - y`. -/
def sub (x y : Float) : Float := x.add ρ y.neg

/-- An infinity of sign `n`, times `q`. -/
def infMul (n : Bool) (q : ℚ) : Float := if q = 0 then .nan else .inf (xor n (decide (q < 0)))

/-- `x * y`. -/
def mul : Float → Float → Float
  | .finite p, .finite q => ρ (p * q)
  | .nan, _ => .nan
  | _, .nan => .nan
  | .inf m, .inf n => .inf (xor m n)
  | .inf m, .finite q => infMul m q
  | .finite p, .inf n => infMul n p

end

/-- `x > 0.0`. -/
def IsPos : Float → Prop
  | .finite q => 0 < q
  | .inf n => n = false
  | .nan => False

instance : DecidablePred IsPos := fun x => by
  cases x <;> unfold IsPos <;> infer_instance

/-- `max(0.0, x)`. -/
def maxZero (x : Float) : Float := if x.IsPos then x else .finite 0

@[simp] theorem isPos_finite {q : ℚ} : (Float.finite q).IsPos ↔ 0 < q := Iff.rfl

@[simp] theorem isPos_maxZero {x : Float} : x.maxZero.IsPos ↔ x.IsPos := by
  unfold maxZero
  by_cases h : x.IsPos
  · rw [if_pos h]
  · rw [if_neg h]
    simp [h]

theorem maxZero_of_not_isPos {x : Float} (h : ¬ x.IsPos) : x.maxZero = .finite 0 := if_neg h

theorem maxZero_finite (q : ℚ) : (Float.finite q).maxZero = .finite (max 0 q) := by
  by_cases h : 0 < q
  · rw [maxZero, if_pos (isPos_finite.mpr h), max_eq_right h.le]
  · rw [maxZero_of_not_isPos (mt isPos_finite.mp h), max_eq_left (not_lt.mp h)]

@[simp] theorem sub_finite {p q : ℚ} : (Float.finite p).sub .finite (.finite q) = .finite (p - q) :=
  congrArg Float.finite (sub_eq_add_neg p q).symm

end Float

/-! ### Numbers -/

inductive Number where
  | int (n : ℤ)
  | float (x : Float)

namespace Number

/-- From here on an `int` is beyond the floats. -/
@[irreducible] def FLOAT_BOUND : Nat := 2 ^ 1024 - 2 ^ 970

theorem two_pow_lt_sub {a b c : Nat} (hab : a < b) (hbc : b < c) : 2 ^ a < 2 ^ c - 2 ^ b := by
  have hlt : 2 ^ a < 2 ^ b := Nat.pow_lt_pow_right (by omega) hab
  have hle : 2 ^ (b + 1) ≤ 2 ^ c := Nat.pow_le_pow_right (by omega) hbc
  rw [Nat.pow_succ] at hle
  omega

theorem lt_FLOAT_BOUND {n : Nat} (h : n ≤ 2 ^ 64) : n < FLOAT_BOUND := by
  have hlt : 2 ^ 64 < FLOAT_BOUND := by
    unfold FLOAT_BOUND
    exact @two_pow_lt_sub 64 970 1024 (by omega) (by omega)
  exact lt_of_le_of_lt h hlt

section
variable (ρ : Rounding)

/-- The `float` an operand is converted to. -/
def toFloat : Number → Except Exc Float
  | .int n =>
      if n.natAbs < FLOAT_BOUND then .ok (ρ n)
      else .error ⟨.overflowError, [.text "int too large to convert to float"]⟩
  | .float x => .ok x

/-- `x - y`. -/
def sub : Number → Number → Except Exc Number
  | .int m, .int n => .ok (.int (m - n))
  | x, y => do
      let p ← x.toFloat ρ
      let q ← y.toFloat ρ
      return .float (p.sub ρ q)

/-- `x * c`, for a `float`. -/
def mulFloat (c : Float) (x : Number) : Except Exc Float := do
  let p ← x.toFloat ρ
  return p.mul ρ c

/-- `x + y`, for a `float`. -/
def addFloat (x : Number) (y : Float) : Except Exc Float := do
  let p ← x.toFloat ρ
  return p.add ρ y

/-- The number as a `float`, where it can be converted to one. -/
def value : Number → Float
  | .int n => ρ n
  | .float x => x

/-- `x - y` as a `float`, where it can be converted to one. -/
def difference : Number → Number → Float
  | .int m, .int n => ρ (m - n : ℤ)
  | x, y => (x.value ρ).sub ρ (y.value ρ)

/-- `y + (x - y) * c`, where it can be computed. -/
def mark (c : Float) (x y : Number) : Float := (y.value ρ).add ρ ((difference ρ x y).mul ρ c)

end

/-- The number can be converted to a `float`. -/
def Fits : Number → Prop
  | .int n => n.natAbs < FLOAT_BOUND
  | .float _ => True

/-- What of `x - y` is converted to a `float` can be: the difference of two `int`s, or each number
by itself. -/
def DifferenceFits : Number → Number → Prop
  | .int m, .int n => (m - n).natAbs < FLOAT_BOUND
  | x, y => x.Fits ∧ y.Fits

section
variable {ρ : Rounding} {x y : Number} {c p q : Float}

theorem toFloat_eq_ok : x.toFloat ρ = .ok p ↔ x.Fits ∧ p = x.value ρ := by
  cases x with
  | int n =>
      rw [toFloat, Fits, value]
      split
      · simp [*, eq_comm]
      · simp [*]
  | float x => simp [toFloat, Fits, value, eq_comm]

theorem mulFloat_eq_ok : x.mulFloat ρ c = .ok p ↔ x.Fits ∧ p = (x.value ρ).mul ρ c := by
  simp only [mulFloat, bind_eq_ok, toFloat_eq_ok, pure_eq_ok]
  constructor
  · rintro ⟨_, ⟨hx, rfl⟩, rfl⟩
    exact ⟨hx, rfl⟩
  · rintro ⟨hx, rfl⟩
    exact ⟨_, ⟨hx, rfl⟩, rfl⟩

/-- `x + p`. -/
theorem addFloat_eq_ok : x.addFloat ρ p = .ok q ↔ x.Fits ∧ q = (x.value ρ).add ρ p := by
  simp only [addFloat, bind_eq_ok, toFloat_eq_ok, pure_eq_ok]
  constructor
  · rintro ⟨_, ⟨hx, rfl⟩, rfl⟩
    exact ⟨hx, rfl⟩
  · rintro ⟨hx, rfl⟩
    exact ⟨_, ⟨hx, rfl⟩, rfl⟩

/-- `(x - y) * c`. -/
theorem sub_mul_eq_ok : (∃ n, x.sub ρ y = .ok n ∧ n.mulFloat ρ c = .ok p) ↔
    DifferenceFits x y ∧ p = (difference ρ x y).mul ρ c := by
  have hfloats : ∀ x y : Number,
      (∃ n, ((do let p ← x.toFloat ρ
                 let q ← y.toFloat ρ
                 return .float (p.sub ρ q)) : Except Exc Number) = .ok n ∧
        n.mulFloat ρ c = .ok p) ↔
        (x.Fits ∧ y.Fits) ∧ p = ((x.value ρ).sub ρ (y.value ρ)).mul ρ c := by
    intro x y
    simp only [bind_eq_ok, pure_eq_ok, toFloat_eq_ok, mulFloat_eq_ok]
    constructor
    · rintro ⟨_, ⟨_, ⟨hx, rfl⟩, _, ⟨hy, rfl⟩, rfl⟩, -, rfl⟩
      exact ⟨⟨hx, hy⟩, rfl⟩
    · rintro ⟨⟨hx, hy⟩, rfl⟩
      exact ⟨_, ⟨_, ⟨hx, rfl⟩, _, ⟨hy, rfl⟩, rfl⟩, trivial, rfl⟩
  cases x with
  | int m =>
      cases y with
      | int n =>
          constructor
          · rintro ⟨_, ⟨⟩, h⟩
            exact mulFloat_eq_ok.mp h
          · exact fun h => ⟨_, rfl, mulFloat_eq_ok.mpr h⟩
      | float y => exact hfloats (.int m) (.float y)
  | float x => exact hfloats (.float x) y

end

end Number

namespace Json

/-- The number a value is. -/
def number : Json → Option Number
  | .bool b => some (.int (if b then 1 else 0))
  | .int n => some (.int n)
  | .float x => some (.float x)
  | _ => Option.none

/-- `v - w`. -/
def sub (ρ : Rounding) (v w : Json) : Except Exc Number :=
  match v.number, w.number with
  | some x, some y => x.sub ρ y
  | _, _ => .error ⟨.typeError, [.text "unsupported operand type(s) for -: '", .text v.typeName,
      .text "' and '", .text w.typeName, .text "'"]⟩

/-- `v + y`, for a `float`. -/
def addFloat (ρ : Rounding) (v : Json) (y : Float) : Except Exc Float :=
  match v.number with
  | some x => x.addFloat ρ y
  | Option.none => .error ⟨.typeError, [.text "unsupported operand type(s) for +: '",
      .text v.typeName, .text "' and 'float'"]⟩

end Json

/-! ### Times -/

/-- The value is the time `q`: a finite number, an `int` at most half of what a float can be. -/
inductive IsTime : Json → ℚ → Prop where
  | int (n : ℤ) (h : 2 * n.natAbs < Number.FLOAT_BOUND) : IsTime (.int n) n
  | float (q : ℚ) : IsTime (.float (.finite q)) q

/-- An `int` of a clock. -/
theorem isTime_int {n : ℤ} (h : n.natAbs ≤ 2 ^ 63) : IsTime (.int n) n :=
  .int n (Number.lt_FLOAT_BOUND (by omega))

section
variable {v w : Json} {p q : ℚ}

theorem IsTime.truthy (h : IsTime v q) : v.truthy = true ↔ q ≠ 0 := by
  cases h with
  | int n h => simp [Json.truthy]
  | float q => simp [Json.truthy]

/-- A time is a number, and the `float` it is converted to is not rounded. -/
theorem IsTime.number (h : IsTime v q) :
    ∃ x, v.number = some x ∧ x.Fits ∧ x.value .finite = .finite q := by
  cases h with
  | int n h => exact ⟨.int n, rfl, Nat.lt_of_le_of_lt (by omega) h, rfl⟩
  | float q => exact ⟨.float (.finite q), rfl, trivial, rfl⟩

theorem IsTime.addFloat (h : IsTime v q) :
    v.addFloat .finite (.finite p) = .ok (.finite (q + p)) := by
  obtain ⟨x, hx, hfits, hvalue⟩ := h.number
  rw [Json.addFloat, hx]
  exact Number.addFloat_eq_ok.mpr ⟨hfits, by rw [hvalue]; rfl⟩

/-- The difference of two times, not rounded. -/
theorem IsTime.difference (hv : IsTime v p) (hw : IsTime w q) :
    ∃ x y, v.number = some x ∧ w.number = some y ∧ x.DifferenceFits y ∧
      Number.difference .finite x y = .finite (p - q) := by
  cases hv with
  | int m hm =>
      cases hw with
      | int n hn =>
          have hle : (m - n).natAbs ≤ m.natAbs + n.natAbs := Int.natAbs_sub_le m n
          refine ⟨.int m, .int n, rfl, rfl, Nat.lt_of_le_of_lt hle (by omega), ?_⟩
          rw [Number.difference, Int.cast_sub]
      | float q =>
          exact ⟨.int m, .float (.finite q), rfl, rfl, ⟨Nat.lt_of_le_of_lt (by omega) hm, trivial⟩,
            Float.sub_finite⟩
  | float p =>
      cases hw with
      | int n hn =>
          exact ⟨.float (.finite p), .int n, rfl, rfl, ⟨trivial, Nat.lt_of_le_of_lt (by omega) hn⟩,
            Float.sub_finite⟩
      | float q =>
          exact ⟨.float (.finite p), .float (.finite q), rfl, rfl, ⟨trivial, trivial⟩,
            Float.sub_finite⟩

/-- The difference of two times, scaled. -/
theorem IsTime.sub_mul (hv : IsTime v p) (hw : IsTime w q) {c : ℚ} :
    (v.sub .finite w >>= Number.mulFloat .finite (.finite c)) = .ok (.finite ((p - q) * c)) := by
  obtain ⟨x, y, hx, hy, hfits, hdifference⟩ := hv.difference hw
  have hmul : (Float.finite (p - q)).mul .finite (.finite c) = .finite ((p - q) * c) := rfl
  rw [Json.sub, hx, hy, bind_eq_ok]
  exact Number.sub_mul_eq_ok.mpr ⟨hfits, by rw [hdifference, hmul]⟩

end

end Python
