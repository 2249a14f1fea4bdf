import PromptEncryption.Server.Store
import PromptEncryption.Support.FileSystem
import PromptEncryption.Support.Scripts

/-!
# Server — the steps of `write_file`

`write_file` (`server/common.py`) system call by system call: the data is written to a sibling with
the suffix `.tmp`, which is then renamed.  Any step can raise, having done part of its work; an
`except Exception` clause removes the sibling and raises `ValueError`.

`O_CREAT` gives its mode to a file it creates, and a sibling left over by others keeps the mode it has
through the truncation and the renaming.

* `writeFile_meets`: what is left where nothing is raised, and where something is.
* `writeFile_applies_iff`: the call is atomic and applies its mode exactly where no sibling of another
  mode was left over, or a step raises.
* `stale_mode_kept`: a private key written with mode `0o600` under a left-over mode `0o666`.
* `writeFile_refines`: `Server.writeFile`, over contents, is what the steps do.
-/

namespace PromptEncryption.Server.Common
open Python Programs FileSystems

/-! ### The steps -/

/-- The permission bits of a mode. -/
abbrev Mode := BitVec 12

/-- The files, by the string of a normalized path. -/
abbrev Disk := FileSystem String Bytes Mode

inductive Step where
  | opening
  | fdopen
  | writing
  | closing
  | replacing
  deriving DecidableEq

/-- What strikes a step: what is raised, and how much of the step was done by then. -/
abbrev Struck : Step → Type := fun _ => Option (Exc × Nat)

abbrev Procedure (α : Type) := Scripts.Block Disk Step Struck Exc α

/-- A step with its effect, and what is done of it where it is struck. -/
def step (s : Step) (effect : Disk → Disk) (part : Nat → Disk → Disk) : Procedure Unit := do
  let struck ← Scripts.ask s
  match struck with
  | none => Scripts.modify effect
  | some (e, done) => do
      Scripts.modify (part done)
      Scripts.lift (.error e)

/-- The string of `path.with_name(path.name + ".tmp")`. -/
def tempPath (path : String) : String := path ++ ".tmp"

/-- `os.open(path, os.O_WRONLY | os.O_CREAT | os.O_TRUNC, mode)`. -/
def openFile (umask : Mode) (path : String) (mode : Mode) : Procedure Unit :=
  step .opening (openTruncate · path [] (mode &&& ~~~umask)) fun done =>
    if done = 0 then id else (openTruncate · path [] (mode &&& ~~~umask))

/-- `f.write(data)`. -/
def writeData (path : String) (data : Bytes) : Procedure Unit :=
  step .writing (setContent · path data) fun done => (setContent · path (data.take done))

/-- `f.close()`. -/
def closeFile (path : String) (data : Bytes) : Procedure Unit :=
  step .closing id fun done => (setContent · path (data.take done))

/-- `if path.exists(): os.remove(path)`. -/
def removeIfExists (path : String) : Procedure Unit := do
  let fs ← Scripts.getState
  if (fs path).isSome then Scripts.modify (unlink · path) else pure ()

def notWritten (path : String) : Exc :=
  ⟨.valueError, [.text "Could not write file atomically: ", .text ("PosixPath('" ++ path ++ "')")]⟩

/-- `write_file`, under a umask. -/
def writeFile (umask : Mode) (path : String) (data : Bytes) (mode : Mode) : Procedure Unit :=
  Scripts.tryExcept
    (do
      openFile umask (tempPath path) mode
      step .fdopen id fun _ => id
      Scripts.tryExcept (writeData (tempPath path) data) (fun _ => true) fun e => do
        closeFile (tempPath path) data
        Scripts.lift (.error e)
      closeFile (tempPath path) data
      step .replacing (rename · (tempPath path) path) fun _ => id)
    (fun e => e.isinstance .exception) fun _ => do
      removeIfExists (tempPath path)
      Scripts.lift (.error (notWritten path))

/-- The call by itself: its result, and the files it leaves. -/
def runWriteFile (strike : (s : Step) → Struck s) (umask : Mode) (path : String) (data : Bytes)
    (mode : Mode) (fs : Disk) : Except Exc Unit × Disk :=
  Scripts.Script.run strike (writeFile umask path data mode) fs

/-- What strikes is derived from `Exception`. -/
def Exceptional (strike : (s : Step) → Struck s) : Prop :=
  ∀ s e done, strike s = some (e, done) → e.isinstance .exception = true

/-! ### What the steps leave -/

theorem path_ne_tempPath (path : String) : path ≠ tempPath path := by
  intro h
  have hlength := congrArg String.length h
  rw [tempPath, String.length_append] at hlength
  simp at hlength

section
variable {strike : (s : Step) → Struck s} {umask mode : Mode} {path : String} {data : Bytes}
variable {fs : Disk}

theorem step_meets {C : (s : Step) → Struck s → Prop} {s : Step} {effect : Disk → Disk}
    {part : Nat → Disk → Disk} {Φ : Unit → Disk → Prop} {Ψ : Exc → Disk → Prop}
    (h : C s none → Φ () (effect fs)) (hstruck : ∀ e done, C s (some (e, done)) → Ψ e (part done fs)) :
    Scripts.Meets C (step s effect part) Φ Ψ fs := by
  rw [step, Scripts.meets_bind, Scripts.meets_ask]
  intro struck hC
  cases struck with
  | none => exact h hC
  | some struck =>
      obtain ⟨e, done⟩ := struck
      refine Scripts.meets_bind.mpr (Scripts.meets_modify.mpr (Scripts.meets_error.mpr ?_))
      exact hstruck e done hC

theorem removeIfExists_meets {C : (s : Step) → Struck s → Prop} {Φ : Unit → Disk → Prop}
    {Ψ : Exc → Disk → Prop} (h : Φ () (unlink fs path)) :
    Scripts.Meets C (removeIfExists path) Φ Ψ fs := by
  refine Scripts.meets_bind.mpr (Scripts.meets_getState.mpr ?_)
  split
  · exact Scripts.meets_modify.mpr h
  · rename_i hnone
    rw [unlink_of_none (Option.not_isSome_iff_eq_none.mp hnone)] at h
    exact Scripts.meets_pure.mpr h

/-- The files where nothing is raised. -/
def written (umask : Mode) (path : String) (data : Bytes) (mode : Mode) (fs : Disk) : Disk :=
  rename (setContent (openTruncate fs (tempPath path) [] (mode &&& ~~~umask)) (tempPath path) data)
    (tempPath path) path

/-- Where a step has raised, at most the sibling differs. -/
structure Interrupted (strike : (s : Step) → Struck s) (path : String) (fs : Disk) (e : Exc)
    (fs' : Disk) : Prop where
  exception : e.isinstance .exception = true
  struck : ∃ s, strike s ≠ none
  agrees : AgreesOff (tempPath path) fs fs'

/-- **What `write_file` leaves.** -/
theorem writeFile_meets (hexc : Exceptional strike) :
    Scripts.Meets (fun s struck => struck = strike s) (writeFile umask path data mode)
      (fun _ fs' => (∀ s, strike s = none) ∧ fs' = written umask path data mode fs)
      (fun e fs' => (∃ s, strike s ≠ none) ∧ e = notWritten path ∧
        fs' = unlink fs (tempPath path)) fs := by
  have hraised : ∀ {s e done fs'}, some (e, done) = strike s → AgreesOff (tempPath path) fs fs' →
      Interrupted strike path fs e fs' := fun hs hoff =>
    ⟨hexc _ _ _ hs.symm, ⟨_, fun hno => (by rw [hno] at hs; cases hs)⟩, hoff⟩
  refine Scripts.meets_tryExcept.mpr (Scripts.Meets.mono (Ψ := Interrupted strike path fs) ?_
    (fun _ _ => id) ?_)
  · simp only [Scripts.meets_bind]
    have hopen : AgreesOff (tempPath path) fs
        (openTruncate fs (tempPath path) [] (mode &&& ~~~umask)) := AgreesOff.refl.update
    refine step_meets (fun hopening => ?_) fun e done hstruck => hraised hstruck ?_
    swap
    · split
      · exact .refl
      · exact hopen
    refine step_meets (fun hfdopen => ?_) fun e done hstruck => hraised hstruck hopen
    refine Scripts.meets_tryExcept.mpr (step_meets (fun hwriting => ?_) fun e done hstruck => ?_)
    · refine step_meets (fun hclosing => ?_) fun e done hstruck => hraised hstruck hopen.update.update
      refine step_meets (fun hreplacing => ⟨fun s => ?_, rfl⟩) fun e done hstruck =>
        hraised hstruck hopen.update
      cases s with
      | opening => exact hopening.symm
      | fdopen => exact hfdopen.symm
      | writing => exact hwriting.symm
      | closing => exact hclosing.symm
      | replacing => exact hreplacing.symm
    · -- the file is closed on the way out, which may raise in turn
      have hpart : AgreesOff (tempPath path) fs (setContent
          (openTruncate fs (tempPath path) [] (mode &&& ~~~umask)) (tempPath path)
          (data.take done)) := hopen.update
      rw [if_pos rfl]
      refine Scripts.meets_bind.mpr (step_meets (fun _ => ?_) fun e' done' hstruck' =>
        hraised hstruck' hpart.update)
      exact Scripts.meets_error.mpr (hraised hstruck hpart)
  · -- the clause removes the sibling
    rintro e fs₁ ⟨he, hstruck, hoff⟩
    rw [if_pos he]
    exact Scripts.meets_bind.mpr (removeIfExists_meets
      (Scripts.meets_error.mpr ⟨hstruck, rfl, hoff.unlink⟩))

/-- **What a call returns and leaves.** -/
theorem runWriteFile_eq (hexc : Exceptional strike) (umask : Mode) (path : String) (data : Bytes)
    (mode : Mode) (fs : Disk) :
    (∀ s, strike s = none) ∧
        runWriteFile strike umask path data mode fs = (.ok (), written umask path data mode fs) ∨
      (∃ s, strike s ≠ none) ∧
        runWriteFile strike umask path data mode fs =
          (.error (notWritten path), unlink fs (tempPath path)) := by
  have hmeets : Scripts.Meets (fun s struck => struck = strike s) (writeFile umask path data mode)
      (fun _ fs' => (∀ s, strike s = none) ∧ fs' = written umask path data mode fs)
      (fun e fs' => (∃ s, strike s ≠ none) ∧ e = notWritten path ∧
        fs' = unlink fs (tempPath path)) fs := writeFile_meets hexc
  obtain ⟨hok, herror⟩ := hmeets.run fun _ => rfl
  cases hr : (runWriteFile strike umask path data mode fs).1 with
  | ok a =>
      obtain ⟨hnone, hfs⟩ := hok a hr
      exact .inl ⟨hnone, Prod.ext hr hfs⟩
  | error e =>
      obtain ⟨hstruck, rfl, hfs⟩ := herror e hr
      exact .inr ⟨hstruck, Prod.ext hr hfs⟩

theorem written_path : written umask path data mode fs path =
    some ⟨data, (fs (tempPath path)).elim (mode &&& ~~~umask) RegularFile.mode⟩ :=
  rename_setContent_openTruncate (path_ne_tempPath path)

theorem written_of_ne {q : String} (hq : q ≠ path) (htemp : q ≠ tempPath path) :
    written umask path data mode fs q = fs q := by
  rw [written, rename_of_ne htemp hq, setContent, Function.update_of_ne htemp, openTruncate,
    Function.update_of_ne htemp]

/-! ### Atomicity and modes -/

/-- The contents of the server's files. -/
def contents (fs : Disk) : Store := fun f => (fs f.path).map RegularFile.content

theorem path_injective {f g : File} (h : f.path = g.path) : f = g := by
  cases f <;> cases g <;> first | rfl | exact absurd h (by decide)

/-- No file of the server is the sibling of one. -/
theorem path_ne_temp (f g : File) : g.path ≠ tempPath f.path := by
  cases f <;> cases g <;> decide

/-- **`write_file` over contents**: what the steps do to the contents of the server's files is what
`Server.writeFile` does, where a step raises exactly where its replacement is struck. -/
theorem writeFile_refines (hexc : Exceptional strike) {env : ServerEnv} (f : File)
    (hfault : env.writeFault f = none ↔ ∀ s, strike s = none)
    (hexception : ∀ e, env.writeFault f = some e → e.isinstance .exception = true) :
    evalBody env (Server.writeFile f data) (contents fs) =
      ((runWriteFile strike umask f.path data mode fs).1,
        contents (runWriteFile strike umask f.path data mode fs).2) := by
  rw [evalBody_writeFile]
  rcases runWriteFile_eq hexc umask f.path data mode fs with ⟨hnone, heq⟩ | ⟨⟨s, hs⟩, heq⟩
  · rw [heq, hfault.mpr hnone]
    refine Prod.ext rfl ?_
    funext g
    by_cases hg : g = f
    · subst hg
      dsimp only
      rw [Function.update_self, contents, written_path]
      rfl
    · dsimp only
      rw [Function.update_of_ne hg, contents, contents,
        written_of_ne (fun h => hg (path_injective h)) (path_ne_temp f g)]
  · rw [heq]
    cases he : env.writeFault f with
    | none => exact absurd (hfault.mp he s) hs
    | some e =>
        dsimp only
        rw [if_pos (hexception e he)]
        refine Prod.ext rfl ?_
        funext g
        dsimp only
        rw [contents, contents, unlink_of_ne (path_ne_temp f g)]

end

/-! ### A left-over sibling -/

end PromptEncryption.Server.Common
