import Mathlib.Logic.Function.Basic

/-!
# Support — regular files by path

A file system as the regular files it holds, each with its content and its mode, and what the system
calls on a path do: `openTruncate`, `setContent`, `rename`, `unlink`.

* `AgreesOff p`: two file systems that differ at most at `p`.
* `rename_setContent_openTruncate`: what a file is that is written under another name and renamed.
-/

namespace FileSystems

structure RegularFile (D M : Type*) where
  content : D
  mode : M
  deriving DecidableEq

/-- The regular files, by path. -/
abbrev FileSystem (P D M : Type*) := P → Option (RegularFile D M)

/-- The file systems differ at most at `p`. -/
def AgreesOff {P D M : Type*} (p : P) (fs fs' : FileSystem P D M) : Prop := ∀ q, q ≠ p → fs' q = fs q

section
variable {P D M : Type*} {fs : FileSystem P D M} {p : P}

theorem AgreesOff.refl : AgreesOff p fs fs := fun _ _ => rfl

end

section
variable {P D M : Type*} [DecidableEq P]

/-- `open(p, O_WRONLY | O_CREAT | O_TRUNC, mode)`: a file that exists keeps its mode. -/
def openTruncate (fs : FileSystem P D M) (p : P) (empty : D) (mode : M) : FileSystem P D M :=
  Function.update fs p (some ⟨empty, (fs p).elim mode RegularFile.mode⟩)

/-- What was written to the file at `p`. -/
def setContent (fs : FileSystem P D M) (p : P) (content : D) : FileSystem P D M :=
  Function.update fs p ((fs p).map fun f => ⟨content, f.mode⟩)

/-- `rename(p, q)`. -/
def rename (fs : FileSystem P D M) (p q : P) : FileSystem P D M :=
  Function.update (Function.update fs q (fs p)) p none

/-- `unlink(p)`. -/
def unlink (fs : FileSystem P D M) (p : P) : FileSystem P D M := Function.update fs p none

variable {fs fs' : FileSystem P D M} {p q : P}

theorem AgreesOff.update (h : AgreesOff p fs fs') {f : Option (RegularFile D M)} :
    AgreesOff p fs (Function.update fs' p f) :=
  fun q hq => (Function.update_of_ne hq f fs').trans (h q hq)

/-- Unlinking the path undoes what differs there. -/
theorem AgreesOff.unlink (h : AgreesOff p fs fs') : unlink fs' p = unlink fs p := by
  funext q
  by_cases hq : q = p
  · subst hq
    rw [FileSystems.unlink, FileSystems.unlink, Function.update_self, Function.update_self]
  · rw [FileSystems.unlink, FileSystems.unlink, Function.update_of_ne hq, Function.update_of_ne hq,
      h q hq]

theorem unlink_of_none (h : fs p = none) : unlink fs p = fs := by
  rw [unlink, ← h, Function.update_eq_self]

@[simp] theorem unlink_self : unlink fs p p = none := by
  rw [unlink, Function.update_self]

theorem unlink_of_ne (h : q ≠ p) : unlink fs p q = fs q := by
  rw [unlink, Function.update_of_ne h]

theorem rename_source : rename fs p q p = none := by
  rw [rename, Function.update_self]

theorem rename_target (h : q ≠ p) : rename fs p q q = fs p := by
  rw [rename, Function.update_of_ne h, Function.update_self]

theorem rename_of_ne {r : P} (hp : r ≠ p) (hq : r ≠ q) : rename fs p q r = fs r := by
  rw [rename, Function.update_of_ne hp, Function.update_of_ne hq]

/-- **A file written under another name and renamed** has the content written, and the mode of a file
that was left under that name. -/
theorem rename_setContent_openTruncate {empty content : D} {mode : M} (h : q ≠ p) :
    rename (setContent (openTruncate fs p empty mode) p content) p q q =
      some ⟨content, (fs p).elim mode RegularFile.mode⟩ := by
  rw [rename_target h, setContent, Function.update_self, openTruncate, Function.update_self]
  rfl

end

end FileSystems
