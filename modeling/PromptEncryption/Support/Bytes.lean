import Mathlib.Data.List.Basic

/-!
# Support — byte strings

Byte strings, their lower-case hexadecimal text, UTF-8, and SHA-256 (FIPS 180-4).

* `utf8_decode_encode`, `utf8_encode_decode`: decoding and encoding are inverse where decoding
  succeeds, so text and bytes determine each other (`utf8_encode_inj`).
* `length_sha256`: a digest has 32 bytes.  Nothing else is said of the digest: that two of them
  agree only on equal inputs is an assumption on the inputs at hand, never a fact.
-/

/-- A byte string. -/
abbrev Bytes := List UInt8

namespace Bytes

/-! ### Text -/

/-- `s.encode("utf-8")`. -/
def encodeUtf8 (s : String) : Bytes := s.toByteArray.data.toList

/-- `b.decode("utf-8")`; `none` where Python raises `UnicodeDecodeError`. -/
def decodeUtf8 (b : Bytes) : Option String := String.fromUTF8? ⟨b.toArray⟩

theorem utf8_encode_decode {b : Bytes} {s : String} (h : decodeUtf8 b = some s) :
    encodeUtf8 s = b := by
  unfold decodeUtf8 String.fromUTF8? at h
  split at h
  · cases h; rfl
  · cases h

theorem utf8_decode_encode (s : String) : decodeUtf8 (encodeUtf8 s) = some s := by
  unfold decodeUtf8 String.fromUTF8? encodeUtf8
  exact dif_pos s.isValidUTF8

theorem utf8_encode_inj {s t : String} (h : encodeUtf8 s = encodeUtf8 t) : s = t :=
  Option.some.inj (by rw [← utf8_decode_encode s, h, utf8_decode_encode])

/-- The hexadecimal digit of `n % 16`. -/
def hexDigit (n : Nat) : Char := ("0123456789abcdef".toList).getD (n % 16) '0'

/-- `b.hex()`. -/
def hex (b : Bytes) : String :=
  String.ofList (b.flatMap fun x => [hexDigit (x.toNat / 16), hexDigit x.toNat])

theorem hexDigit_inj {m n : Nat} (h : hexDigit m = hexDigit n) : m % 16 = n % 16 := by
  have hall : ∀ m < 16, ∀ n < 16, hexDigit m = hexDigit n → m = n := by decide
  refine hall _ (Nat.mod_lt m (by decide)) _ (Nat.mod_lt n (by decide)) ?_
  simpa [hexDigit] using h

/-- Byte strings with the same hexadecimal text are the same. -/
theorem hex_inj {b c : Bytes} (h : hex b = hex c) : b = c := by
  have hlist := String.ofList_injective h
  clear h
  induction b generalizing c with
  | nil => cases c with
    | nil => rfl
    | cons y c => simp at hlist
  | cons x b ih => cases c with
    | nil => simp at hlist
    | cons y c =>
        simp only [List.flatMap_cons, List.cons_append, List.nil_append, List.cons.injEq] at hlist
        obtain ⟨h₁, h₂, hrest⟩ := hlist
        have hhigh := hexDigit_inj h₁
        have hlow := hexDigit_inj h₂
        have hx := x.toNat_lt
        have hy := y.toNat_lt
        have hxy : x = y := UInt8.toNat_inj.mp (by omega)
        rw [hxy, ih hrest]

/-- The `k` low bytes of `n`, most significant first. -/
def bigEndian : Nat → Nat → Bytes
  | 0, _ => []
  | k + 1, n => bigEndian k (n / 256) ++ [UInt8.ofNat (n % 256)]

@[simp] theorem length_bigEndian (k n : Nat) : (bigEndian k n).length = k := by
  induction k generalizing n with
  | zero => rfl
  | succ k ih => simp [bigEndian, ih]

/-! ### SHA-256 -/

namespace Sha256

/-- `K`, the constants of the 64 rounds. -/
def roundConstants : List Nat := [
  0x428a2f98, 0x71374491, 0xb5c0fbcf, 0xe9b5dba5, 0x3956c25b, 0x59f111f1, 0x923f82a4, 0xab1c5ed5,
  0xd807aa98, 0x12835b01, 0x243185be, 0x550c7dc3, 0x72be5d74, 0x80deb1fe, 0x9bdc06a7, 0xc19bf174,
  0xe49b69c1, 0xefbe4786, 0x0fc19dc6, 0x240ca1cc, 0x2de92c6f, 0x4a7484aa, 0x5cb0a9dc, 0x76f988da,
  0x983e5152, 0xa831c66d, 0xb00327c8, 0xbf597fc7, 0xc6e00bf3, 0xd5a79147, 0x06ca6351, 0x14292967,
  0x27b70a85, 0x2e1b2138, 0x4d2c6dfc, 0x53380d13, 0x650a7354, 0x766a0abb, 0x81c2c92e, 0x92722c85,
  0xa2bfe8a1, 0xa81a664b, 0xc24b8b70, 0xc76c51a3, 0xd192e819, 0xd6990624, 0xf40e3585, 0x106aa070,
  0x19a4c116, 0x1e376c08, 0x2748774c, 0x34b0bcb5, 0x391c0cb3, 0x4ed8aa4a, 0x5b9cca4f, 0x682e6ff3,
  0x748f82ee, 0x78a5636f, 0x84c87814, 0x8cc70208, 0x90befffa, 0xa4506ceb, 0xbef9a3f7, 0xc67178f2]

/-- The chaining value, eight 32-bit words. -/
structure State where
  a : Nat
  b : Nat
  c : Nat
  d : Nat
  e : Nat
  f : Nat
  g : Nat
  h : Nat

def initial : State :=
  ⟨0x6a09e667, 0xbb67ae85, 0x3c6ef372, 0xa54ff53a, 0x510e527f, 0x9b05688c, 0x1f83d9ab, 0x5be0cd19⟩

/-- Addition of 32-bit words. -/
def add (x y : Nat) : Nat := (x + y) % 0x100000000

/-- Rotation of a 32-bit word to the right. -/
def rotr (n x : Nat) : Nat := (x >>> n) ||| ((x <<< (32 - n)) % 0x100000000)

def bigSigma₀ (x : Nat) : Nat := rotr 2 x ^^^ rotr 13 x ^^^ rotr 22 x
def bigSigma₁ (x : Nat) : Nat := rotr 6 x ^^^ rotr 11 x ^^^ rotr 25 x
def sigma₀ (x : Nat) : Nat := rotr 7 x ^^^ rotr 18 x ^^^ (x >>> 3)
def sigma₁ (x : Nat) : Nat := rotr 17 x ^^^ rotr 19 x ^^^ (x >>> 10)
def ch (x y z : Nat) : Nat := (x &&& y) ^^^ ((0xffffffff - x) &&& z)
def maj (x y z : Nat) : Nat := (x &&& y) ^^^ (x &&& z) ^^^ (y &&& z)

/-- The next word of the message schedule; the words so far are listed newest first. -/
def nextWord (ws : List Nat) : Nat :=
  add (add (sigma₁ (ws.getD 1 0)) (ws.getD 6 0)) (add (sigma₀ (ws.getD 14 0)) (ws.getD 15 0))

/-- The schedule, extended by `n` words. -/
def extend : Nat → List Nat → List Nat
  | 0, ws => ws
  | n + 1, ws => extend n (nextWord ws :: ws)

/-- One round, at its constant and its word of the schedule. -/
def round (s : State) (kw : Nat × Nat) : State :=
  let t₁ := add (add s.h (bigSigma₁ s.e)) (add (ch s.e s.f s.g) (add kw.1 kw.2))
  let t₂ := add (bigSigma₀ s.a) (maj s.a s.b s.c)
  ⟨add t₁ t₂, s.a, s.b, s.c, add s.d t₁, s.e, s.f, s.g⟩

/-- The compression function, at a block of sixteen words. -/
def compress (s : State) (block : List Nat) : State :=
  let r := (roundConstants.zip (extend 48 block.reverse).reverse).foldl round s
  ⟨add s.a r.a, add s.b r.b, add s.c r.c, add s.d r.d,
    add s.e r.e, add s.f r.f, add s.g r.g, add s.h r.h⟩

/-- The message, a one bit, zeros, and the message's length in bits: whole blocks of 64 bytes. -/
def pad (m : Bytes) : Bytes :=
  m ++ 0x80 :: List.replicate ((119 - m.length % 64) % 64) 0 ++ bigEndian 8 (8 * m.length)

/-- The first `n` big-endian 32-bit words of `b`. -/
def words : Nat → Bytes → List Nat
  | n + 1, b₀ :: b₁ :: b₂ :: b₃ :: rest =>
      (b₀.toNat * 0x1000000 + b₁.toNat * 0x10000 + b₂.toNat * 0x100 + b₃.toNat) :: words n rest
  | _, _ => []

/-- The first `n` blocks of sixteen words. -/
def blocks : Nat → List Nat → List (List Nat)
  | 0, _ => []
  | n + 1, ws => ws.take 16 :: blocks n (ws.drop 16)

/-- The bytes of a chaining value. -/
def State.digest (s : State) : Bytes :=
  bigEndian 4 s.a ++ bigEndian 4 s.b ++ bigEndian 4 s.c ++ bigEndian 4 s.d ++
    bigEndian 4 s.e ++ bigEndian 4 s.f ++ bigEndian 4 s.g ++ bigEndian 4 s.h

end Sha256

open Sha256 in
/-- `hashlib.sha256(m).digest()`. -/
def sha256 (m : Bytes) : Bytes :=
  let p := pad m
  ((blocks (p.length / 64) (words (p.length / 4) p)).foldl compress initial).digest

@[simp] theorem length_sha256 (m : Bytes) : (sha256 m).length = 32 := by
  simp [sha256, Sha256.State.digest]

-- The digest of `abc` begins `ba7816bf`.
example : (sha256 [97, 98, 99]).take 4 = [0xba, 0x78, 0x16, 0xbf] := by decide +kernel

end Bytes
