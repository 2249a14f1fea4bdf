import Mathlib.Data.ENat.Basic
import Mathlib.Logic.Relation
import PromptEncryption.Server.WriteFile
import PromptEncryption.Support.Endings
import PromptEncryption.Support.Volumes

/-!
# Server — `write_file` and `read_file` between system calls

The calls of `server/common.py` as what they are between any two system calls, over the names and
inodes of a volume.  `os.open` leaves a file that exists its inode; `f.write` and the `close` that ends
the `with` block hand the data on in as many writes as the system makes of them, those beyond the buffer
at once and the rest at the end; `os.replace` gives the inode its other name.  A reader has the inode
from when it opened the file, and reads it in pieces.

Any step can fail, those of the clean-up included.

* `WriteStep.touch`: all that a step of `write_file` does to the volume.
* `systemCalls_carryOut`: between their steps the calls are as `CarriesOut` asks, and so they can be
  taken for single steps.
* `writeFile_alone`: a call of `write_file` by itself leaves what `WriteFile.lean` says.
* `write_steps_le`: a call takes a bounded number of steps, whatever happens between them.
* `systemCalls_conclude`: a reader, too, once it has opened its file, whose content no writer changes
  under it; and until a call has its result it can go on.
-/

namespace PromptEncryption.Server.Common
open Python Programs FileSystems

abbrev Vol := Volume String Bytes Mode

/-- The mode a file is written with. -/
def fileMode : File → Mode
  | .privateKey => 0o600
  | .publicKey => 0o644
  | .pqcPrivateKey => 0o600
  | .pqcPublicKey => 0o644
  | .attestationToken => 0o644

/-- The sibling of a file. -/
def sibling (f : File) : String := tempPath f.path

/-! ### The steps -/

/-- `write(fd, chunk)` at an offset: beyond the end, the gap is filled with zeros. -/
def writeAt (content : Bytes) (offset : Nat) (chunk : Bytes) : Bytes :=
  content.take offset ++ List.replicate (offset - content.length) 0 ++ chunk ++
    content.drop (offset + chunk.length)

/-- Where a call of `write_file` is. -/
inductive Writing where
  | opening
  | fdopening (fd : Nat)
  /-- In `f.write`, with what it has not handed on. -/
  | writing (fd : Nat) (rest : Bytes)
  /-- In `f.close`, with what is left in the buffer, and what the block raised, if anything. -/
  | closing (fd : Nat) (rest : Bytes) (raised : Option Exc)
  | replacing
  /-- The `try` has raised. -/
  | raised (e : Exc)
  | removing
  | ended (r : Except Exc Unit)

/-- Where a call of `read_file`, or of `open(path, "rb")` and `read()`, is. -/
inductive Reading where
  | opening
  | reading (fd : Nat) (acc : Bytes)
  /-- With the content, or without a file. -/
  | ended (r : Except Exc (Option Bytes))

section
variable (umask : Mode) (bufferSize : Nat)

/-- The steps of `write_file(f, data, mode)`. -/
inductive WriteStep (mayFail : Prop) (f : File) (data : Bytes) :
    Writing → Vol → Writing → Vol → Prop where
  -- `os.open(temp_path, os.O_WRONLY | os.O_CREAT | os.O_TRUNC, mode)`
  | opened {vol fd} : vol.dir (sibling f) = some fd →
      WriteStep mayFail f data .opening vol (.fdopening fd) (vol.put fd [])
  | created {vol fd} : vol.dir (sibling f) = none → vol.inodes fd = none →
      WriteStep mayFail f data .opening vol (.fdopening fd)
        (vol.create (sibling f) fd ⟨[], fileMode f &&& ~~~umask⟩)
  | openFault {vol e} : mayFail → WriteStep mayFail f data .opening vol (.raised e) vol
  -- `os.fdopen(fd, "wb")`
  | fdopened {vol fd} : WriteStep mayFail f data (.fdopening fd) vol (.writing fd data) vol
  | fdopenFault {vol fd e} : mayFail →
      WriteStep mayFail f data (.fdopening fd) vol (.raised e) vol
  -- `f.write(data)`
  | wrote {vol fd rest n file} : bufferSize < rest.length → 0 < n → n ≤ rest.length →
      vol.inodes fd = some file →
      WriteStep mayFail f data (.writing fd rest) vol (.writing fd (rest.drop n))
        (vol.put fd (writeAt file.content (data.length - rest.length) (rest.take n)))
  | buffered {vol fd rest} : rest.length ≤ bufferSize →
      WriteStep mayFail f data (.writing fd rest) vol (.closing fd rest none) vol
  | writeFault {vol fd rest e} : mayFail →
      WriteStep mayFail f data (.writing fd rest) vol (.closing fd [] (some e)) vol
  -- the end of the `with` block
  | flushed {vol fd rest raised n file} : 0 < n → n ≤ rest.length → vol.inodes fd = some file →
      WriteStep mayFail f data (.closing fd rest raised) vol (.closing fd (rest.drop n) raised)
        (vol.put fd (writeAt file.content (data.length - rest.length) (rest.take n)))
  | closed {vol fd} : WriteStep mayFail f data (.closing fd [] none) vol .replacing vol
  | closedRaising {vol fd e} :
      WriteStep mayFail f data (.closing fd [] (some e)) vol (.raised e) vol
  | closeFault {vol fd rest raised e} : mayFail →
      WriteStep mayFail f data (.closing fd rest raised) vol (.raised e) vol
  -- `os.replace(temp_path, path)`
  | replaced {vol fd} : vol.dir (sibling f) = some fd →
      WriteStep mayFail f data .replacing vol (.ended (.ok ())) (vol.rename (sibling f) f.path)
  | replaceMissing {vol} : vol.dir (sibling f) = none →
      WriteStep mayFail f data .replacing vol (.raised ⟨.fileNotFoundError, []⟩) vol
  | replaceFault {vol e} : mayFail → WriteStep mayFail f data .replacing vol (.raised e) vol
  -- `except Exception`, and `temp_path.exists()`
  | passed {vol e} : e.isinstance .exception = false →
      WriteStep mayFail f data (.raised e) vol (.ended (.error e)) vol
  | there {vol e fd} : e.isinstance .exception = true → vol.dir (sibling f) = some fd →
      WriteStep mayFail f data (.raised e) vol .removing vol
  | notThere {vol e} : e.isinstance .exception = true → vol.dir (sibling f) = none →
      WriteStep mayFail f data (.raised e) vol (.ended (.error (notWritten f.path))) vol
  | existsFault {vol e e'} : e.isinstance .exception = true → mayFail →
      WriteStep mayFail f data (.raised e) vol (.ended (.error e')) vol
  -- `os.remove(temp_path)`
  | removed {vol fd} : vol.dir (sibling f) = some fd →
      WriteStep mayFail f data .removing vol (.ended (.error (notWritten f.path)))
        (vol.unlink (sibling f))
  | removeMissing {vol} : vol.dir (sibling f) = none →
      WriteStep mayFail f data .removing vol (.ended (.error ⟨.fileNotFoundError, []⟩)) vol
  | removeFault {vol e} : mayFail →
      WriteStep mayFail f data .removing vol (.ended (.error e)) vol

/-- The steps of reading `f`. -/
inductive ReadStep (mayFail : Prop) (f : File) : Reading → Vol → Reading → Prop where
  | opened {vol fd} : vol.dir f.path = some fd →
      ReadStep mayFail f .opening vol (.reading fd [])
  | absent {vol} : vol.dir f.path = none → ReadStep mayFail f .opening vol (.ended (.ok none))
  | openFault {vol e} : mayFail → ReadStep mayFail f .opening vol (.ended (.error e))
  | read {vol fd acc n file} : vol.inodes fd = some file → 0 < n →
      acc.length < file.content.length →
      ReadStep mayFail f (.reading fd acc) vol
        (.reading fd (acc ++ (file.content.drop acc.length).take n))
  | eof {vol fd acc file} : vol.inodes fd = some file → file.content.length ≤ acc.length →
      ReadStep mayFail f (.reading fd acc) vol (.ended (.ok (some acc)))
  | readFault {vol fd acc e} : mayFail →
      ReadStep mayFail f (.reading fd acc) vol (.ended (.error e))

/-- The calls, as reads and writes that take steps. -/
def systemCalls : Backing File Bytes Exc Vol Reading Writing where
  openRead _ := .opening
  readStep mayFail f r vol r' := ReadStep mayFail f r vol r'
  readResult
    | .ended r => some r
    | _ => none
  openWrite _ _ := .opening
  writeStep mayFail f data w vol w' vol' := WriteStep umask bufferSize mayFail f data w vol w' vol'
  writeResult
    | .ended r => some r
    | _ => none
  effected
    | .ended (.ok ()) => true
    | _ => false

end

/-! ### What is said between the steps -/

/-- Names lead to inodes, and no sibling of a file has a second name. -/
structure Orderly (vol : Vol) : Prop where
  linked : vol.Linked
  sole : ∀ f, vol.Sole (sibling f)

/-- The inode is there, and is no file's sibling. -/
structure Sealed (vol : Vol) (fd : Nat) : Prop where
  inode : vol.inodes fd ≠ none
  name : ∀ g, vol.dir (sibling g) ≠ some fd

/-- The open file is the sibling of `f`, and holds `content`. -/
def Has (f : File) (vol : Vol) (fd : Nat) (content : Bytes) : Prop :=
  vol.dir (sibling f) = some fd ∧ ∃ mode, vol.inodes fd = some ⟨content, mode⟩

/-- What is said of the volume in a call of `write_file`. -/
def Writes (mayFail : Prop) (f : File) (data : Bytes) : Writing → Vol → Prop
  | .opening, _ => True
  | .fdopening fd, vol => Has f vol fd []
  | .writing fd rest, vol => ∃ done, done ++ rest = data ∧ Has f vol fd done
  | .closing fd rest none, vol => ∃ done, done ++ rest = data ∧ Has f vol fd done
  | .closing _ rest (some _), _ => rest = [] ∧ mayFail
  | .replacing, vol => ∃ fd, Has f vol fd data
  | .raised _, _ => mayFail
  | .removing, _ => mayFail
  | .ended (.ok ()), _ => True
  | .ended (.error _), _ => mayFail

/-- What is said of the volume in a call that reads. -/
def Reads (mayFail : Prop) : Reading → Vol → Prop
  | .opening, _ => True
  | .reading fd acc, vol => Sealed vol fd ∧ ∀ file, vol.inodes fd = some file → acc <+: file.content
  | .ended (.ok _), _ => True
  | .ended (.error _), _ => mayFail

/-- The outline of the calls: a reader has found what the file it opened holds. -/
def outline : Outline File Bytes Vol Reading Writing where
  inv := Orderly
  reading mayFail _ r vol := Reads mayFail r vol
  writing mayFail f data w vol := Writes mayFail f data w vol
  found
    | .opening, _ => none
    | .reading fd _, vol => some ((vol.inodes fd).map RegularFile.content)
    | .ended (.ok c), _ => some c
    | .ended (.error _), _ => none

/-! ### What a step does to the volume -/

/-- What a step of `write_file(f, data, mode)` can do, and whether it replaces the file. -/
inductive Touch (umask : Mode) (f : File) (data : Bytes) (vol : Vol) :
    (replaces : Bool) → Vol → Prop where
  | nothing : Touch umask f data vol false vol
  /-- The sibling is given some of the data. -/
  | put {fd content} : vol.dir (sibling f) = some fd → content <+: data →
      Touch umask f data vol false (vol.put fd content)
  | create {fd} : vol.dir (sibling f) = none → vol.inodes fd = none →
      Touch umask f data vol false
        (vol.create (sibling f) fd ⟨[], fileMode f &&& ~~~umask⟩)
  | unlink : Touch umask f data vol false (vol.unlink (sibling f))
  /-- The sibling, which holds the data, takes the place of the file. -/
  | rename {fd} : Has f vol fd data → Touch umask f data vol true (vol.rename (sibling f) f.path)

section
variable {umask : Mode} {bufferSize : Nat} {mayFail : Prop} {f g : File} {data : Bytes}
variable {w w' : Writing} {vol vol' : Vol} {fd : Nat} {content : Bytes} {replaces : Bool}

/-- A write at the end of the file. -/
theorem writeAt_end {chunk : Bytes} : writeAt content content.length chunk = content ++ chunk := by
  rw [writeAt, List.take_length, Nat.sub_self, List.drop_eq_nil_of_le (Nat.le_add_right _ _)]
  simp

/-- What the next write of a call adds. -/
theorem writeAt_rest {done rest : Bytes} (hdata : done ++ rest = data) (n : Nat) :
    writeAt done (data.length - rest.length) (rest.take n) = done ++ rest.take n ∧
      (done ++ rest.take n) ++ rest.drop n = data := by
  have hlength : data.length - rest.length = done.length := by
    rw [← hdata, List.length_append, Nat.add_sub_cancel]
  rw [hlength, writeAt_end]
  refine ⟨rfl, ?_⟩
  rw [List.append_assoc, List.take_append_drop, hdata]

theorem Has.put (h : Has f vol fd content) (content' : Bytes) :
    Has f (vol.put fd content') fd content' := by
  obtain ⟨hdir, mode, hinode⟩ := h
  exact ⟨hdir, mode, Volume.put_inode hinode⟩

/-- A write of a call that has `rest` to hand on. -/
theorem Has.write {done rest : Bytes} (h : Has f vol fd done) (hdata : done ++ rest = data) (n : Nat)
    {file : RegularFile Bytes Mode} (hfile : vol.inodes fd = some file) :
    writeAt file.content (data.length - rest.length) (rest.take n) <+: data ∧
      ∃ done', done' ++ rest.drop n = data ∧ Has f
        (vol.put fd (writeAt file.content (data.length - rest.length) (rest.take n))) fd done' := by
  obtain ⟨heq, hrest⟩ := writeAt_rest hdata n
  have hhas := h
  obtain ⟨hdir, mode, hinode⟩ := h
  cases hfile.symm.trans hinode
  dsimp only
  rw [heq]
  refine ⟨?_, _, hrest, hhas.put _⟩
  conv => rhs; rw [← hrest]
  exact List.prefix_append ..

/-- **What a step of `write_file` does to the volume.**  The file is replaced in the step that ends
the call normally. -/
theorem WriteStep.touch (hw : Writes mayFail f data w vol)
    (h : WriteStep umask bufferSize mayFail f data w vol w' vol') :
    (systemCalls umask bufferSize).effected w = false ∧
      Touch umask f data vol ((systemCalls umask bufferSize).effected w') vol' := by
  cases h with
  | opened hdir => exact ⟨rfl, .put hdir List.nil_prefix⟩
  | created hdir hnew => exact ⟨rfl, .create hdir hnew⟩
  | wrote _ _ _ hfile =>
      obtain ⟨done, hdata, hhas⟩ := hw
      exact ⟨rfl, .put hhas.1 (hhas.write hdata _ hfile).1⟩
  | @flushed _ fd rest raised n file hn hle hfile =>
      cases raised with
      | none =>
          obtain ⟨done, hdata, hhas⟩ := hw
          exact ⟨rfl, .put hhas.1 (hhas.write hdata n hfile).1⟩
      | some e =>
          -- nothing is left in the buffer
          obtain ⟨rfl, -⟩ := hw
          exact absurd hle (Nat.not_le.mpr hn)
  | replaced hdir =>
      obtain ⟨fd, hhas⟩ := hw
      exact ⟨rfl, .rename hhas⟩
  | removed hdir => exact ⟨rfl, .unlink⟩
  | _ => exact ⟨rfl, .nothing⟩

/-- **What is said between the steps stays true.** -/
theorem WriteStep.writes (hvol : Orderly vol) (hw : Writes mayFail f data w vol)
    (h : WriteStep umask bufferSize mayFail f data w vol w' vol') :
    Writes mayFail f data w' vol' := by
  cases h with
  | opened hdir =>
      obtain ⟨file, hfile⟩ := Option.ne_none_iff_exists'.mp (hvol.linked _ _ hdir)
      exact ⟨hdir, file.mode, Volume.put_inode hfile⟩
  | created hdir hnew => exact ⟨Volume.create_dir, _, Volume.create_inode⟩
  | fdopened => exact ⟨[], rfl, hw⟩
  | wrote _ _ _ hfile =>
      obtain ⟨done, hdata, hhas⟩ := hw
      exact (hhas.write hdata _ hfile).2
  | buffered _ => exact hw
  | writeFault hfail => exact ⟨rfl, hfail⟩
  | @flushed _ fd rest raised n file hn hle hfile =>
      cases raised with
      | none =>
          obtain ⟨done, hdata, hhas⟩ := hw
          exact (hhas.write hdata n hfile).2
      | some e =>
          obtain ⟨rfl, -⟩ := hw
          exact absurd hle (Nat.not_le.mpr hn)
  | closed =>
      obtain ⟨done, hdata, hhas⟩ := hw
      rw [List.append_nil] at hdata
      exact ⟨_, hdata ▸ hhas⟩
  | closedRaising => exact hw.2
  | replaced hdir => exact trivial
  | replaceMissing hdir =>
      obtain ⟨fd, hhas⟩ := hw
      cases hdir.symm.trans hhas.1
  | openFault hfail => exact hfail
  | fdopenFault hfail => exact hfail
  | closeFault hfail => exact hfail
  | replaceFault hfail => exact hfail
  | existsFault _ hfail => exact hfail
  | removeFault hfail => exact hfail
  | _ => exact hw

/-! ### What a step leaves -/

theorem sibling_injective (h : sibling f = sibling g) : f = g := by
  cases f <;> cases g <;> first | rfl | exact absurd h (by decide)

theorem path_ne_sibling (f g : File) : f.path ≠ sibling g := path_ne_temp g f

theorem Touch.orderly (hvol : Orderly vol) (h : Touch umask f data vol replaces vol') :
    Orderly vol' := by
  cases h with
  | nothing => exact hvol
  | put hdir hcontent => exact ⟨hvol.linked.put, fun g => (hvol.sole g).put⟩
  | create hdir hnew => exact ⟨hvol.linked.create, fun g => (hvol.sole g).create hvol.linked hnew⟩
  | rename hhas =>
      exact ⟨hvol.linked.rename, fun g => (hvol.sole g).rename (hvol.sole f) (path_ne_sibling f g).symm⟩
  | unlink => exact ⟨hvol.linked.unlink, fun g => (hvol.sole g).unlink⟩

/-- **A sealed inode stays as it is.** -/
theorem Touch.sealed (h : Touch umask f data vol replaces vol') (hfd : Sealed vol fd) :
    Sealed vol' fd ∧ vol'.inodes fd = vol.inodes fd := by
  cases h with
  | nothing => exact ⟨hfd, rfl⟩
  | @put fd' content hdir hcontent =>
      have hne : fd ≠ fd' := fun heq => hfd.name f (heq ▸ hdir)
      have hinode : (vol.put fd' content).inodes fd = vol.inodes fd := Volume.put_inode_of_ne hne
      exact ⟨⟨hinode.trans_ne hfd.inode, hfd.name⟩, hinode⟩
  | @create fd' hdir hnew =>
      have hne : fd ≠ fd' := fun heq => hfd.inode (heq ▸ hnew)
      refine ⟨⟨(Volume.create_inode_of_ne hne).trans_ne hfd.inode, fun g => ?_⟩,
        Volume.create_inode_of_ne hne⟩
      by_cases hg : sibling g = sibling f
      · rw [hg, Volume.create_dir]
        exact fun heq => hne (Option.some.inj heq).symm
      · rw [Volume.create_dir_of_ne hg]
        exact hfd.name g
  | rename hhas =>
      refine ⟨⟨hfd.inode, fun g => ?_⟩, rfl⟩
      by_cases hg : sibling g = sibling f
      · rw [hg, Volume.rename_source]
        exact (Option.some_ne_none _).symm
      · rw [Volume.rename_of_ne hg (path_ne_sibling f g).symm]
        exact hfd.name g
  | unlink =>
      refine ⟨⟨hfd.inode, fun g => ?_⟩, rfl⟩
      by_cases hg : sibling g = sibling f
      · rw [hg, Volume.unlink_self]
        exact (Option.some_ne_none _).symm
      · rw [Volume.unlink_of_ne hg]
        exact hfd.name g

/-- The contents do not depend on a sibling. -/
theorem contents_of_agreesOff {fs fs' : Disk} (h : AgreesOff (sibling f) fs fs') :
    contents fs' = contents fs := by
  funext g
  rw [contents, contents, h _ (path_ne_sibling g f)]

/-- Off the sibling, only a renaming changes the files. -/
theorem Touch.agreesOff (hvol : Orderly vol) (h : Touch umask f data vol false vol') :
    AgreesOff (sibling f) vol.files vol'.files := by
  cases h with
  | nothing => exact .refl
  | put hdir hcontent =>
      rw [Volume.files_put hdir (hvol.sole f)]
      exact AgreesOff.refl.update
  | create hdir hnew =>
      rw [Volume.files_create hvol.linked hnew]
      exact AgreesOff.refl.update
  | unlink =>
      rw [Volume.files_unlink]
      exact AgreesOff.refl.update

theorem Has.files (h : Has f vol fd content) :
    ∃ mode, vol.files (sibling f) = some ⟨content, mode⟩ := by
  obtain ⟨hdir, mode, hinode⟩ := h
  exact ⟨mode, (Volume.files_of_dir hdir).trans hinode⟩

/-- The renaming replaces the file. -/
theorem contents_rename (h : Has f vol fd data) :
    contents (vol.rename (sibling f) f.path).files =
      Function.update (contents vol.files) f (some data) := by
  obtain ⟨mode, hfile⟩ := h.files
  rw [Volume.files_rename]
  funext g
  by_cases hg : g = f
  · subst hg
    rw [Function.update_self, contents, FileSystems.rename_target (path_ne_sibling g g), hfile]
    rfl
  · rw [Function.update_of_ne hg, contents, contents, FileSystems.rename_of_ne (path_ne_sibling g f)
      fun hpath => hg (path_injective hpath)]

/-- What a step leaves of the contents. -/
theorem Touch.contents (hvol : Orderly vol) (h : Touch umask f data vol replaces vol') :
    contents vol'.files =
      if replaces then Function.update (contents vol.files) f (some data) else contents vol.files := by
  cases replaces with
  | false => exact contents_of_agreesOff (h.agreesOff hvol)
  | true =>
      cases h with
      | rename hhas => exact contents_rename hhas

/-! ### The calls are as asked -/

variable {r r' : Reading}

/-- **A reader that has opened the file has found what it returns.** -/
theorem ReadStep.reads (hvol : Orderly vol) (hr : Reads mayFail r vol)
    (h : ReadStep mayFail f r vol r') : Reads mayFail r' vol ∧ (outline.found r' vol = none ∨
      outline.found r' vol = outline.found r vol ∨
      outline.found r vol = none ∧ outline.found r' vol = some (contents vol.files f)) := by
  cases h with
  | @opened _ fd hdir =>
      have hsealed : Sealed vol fd :=
        ⟨hvol.linked _ _ hdir, fun g hg => path_ne_sibling f g (hvol.sole g _ _ hg hdir)⟩
      refine ⟨⟨hsealed, fun file _ => List.nil_prefix⟩, .inr (.inr ⟨rfl, ?_⟩)⟩
      rw [Common.contents, Volume.files_of_dir hdir]
      rfl
  | absent hdir =>
      refine ⟨trivial, .inr (.inr ⟨rfl, ?_⟩)⟩
      rw [Common.contents, Volume.files_eq_none hdir]
      rfl
  | @read _ fd acc n file hfile hn hlt =>
      refine ⟨⟨hr.1, fun file' hfile' => ?_⟩, .inr (.inl rfl)⟩
      cases hfile.symm.trans hfile'
      -- what is read next goes on where the last piece ended
      obtain ⟨rest, hrest⟩ := hr.2 file hfile
      rw [← hrest, List.drop_left]
      exact (List.prefix_append_right_inj acc).mpr (List.take_prefix n rest)
  | @eof _ fd acc file hfile hle =>
      have hacc : acc = file.content := (hr.2 file hfile).eq_of_length_le hle
      refine ⟨trivial, .inr (.inl ?_)⟩
      change some (some acc) = some ((vol.inodes fd).map RegularFile.content)
      rw [hfile, hacc]
      rfl
  | openFault hfail => exact ⟨hfail, .inl rfl⟩
  | readFault hfail => exact ⟨hfail, .inl rfl⟩

/-- The steps of a write leave a reader what it has found. -/
theorem Touch.reads (h : Touch umask g data vol replaces vol') (hr : Reads mayFail r vol) :
    Reads mayFail r vol' ∧ outline.found r vol' = outline.found r vol := by
  match r, hr with
  | .opening, _ => exact ⟨trivial, rfl⟩
  | .reading fd acc, hr =>
      obtain ⟨hsealed, hinode⟩ := h.sealed hr.1
      refine ⟨⟨hsealed, fun file hfile => hr.2 file (hinode.symm.trans hfile)⟩, ?_⟩
      exact congrArg (fun x => some (Option.map RegularFile.content x)) hinode
  | .ended (.ok _), _ => exact ⟨trivial, rfl⟩
  | .ended (.error _), hr => exact ⟨hr, rfl⟩

/-- **The calls carry out single reads and writes.** -/
theorem systemCalls_carryOut (umask : Mode) (bufferSize : Nat) :
    CarriesOut (systemCalls umask bufferSize) outline fun vol => Common.contents vol.files where
  openRead _ := ⟨trivial, rfl⟩
  readStep hvol hr h := ReadStep.reads hvol hr h
  readOk {mayFail f r vol c} hr h := by
    match r, h with
    | .ended _, h =>
        cases h
        rfl
  readError {mayFail f r vol e} hr h := by
    match r, h with
    | .ended _, h =>
        cases h
        exact hr
  openWrite _ := ⟨trivial, rfl⟩
  writeStep {mayFail f data w vol w' vol'} hvol hw h := by
    obtain ⟨hbefore, htouch⟩ := WriteStep.touch hw h
    refine ⟨htouch.orderly hvol, WriteStep.writes hvol hw h, ?_⟩
    have hview := htouch.contents hvol
    cases hafter : (systemCalls umask bufferSize).effected w' with
    | false =>
        rw [hafter] at hview
        exact .inl ⟨hbefore.symm, hview⟩
    | true =>
        rw [hafter] at hview
        exact .inr ⟨hbefore, rfl, hview⟩
  writeOk {mayFail f data w vol} _ h := by
    match w, h with
    | .ended _, h =>
        cases h
        rfl
  writeError {mayFail f data w vol e} hw h := by
    match w, h with
    | .ended _, h =>
        cases h
        exact ⟨rfl, hw⟩
  frame hvol hw h hr := (WriteStep.touch hw h).2.reads hr

/-! ### A call by itself -/

/-- The sibling is open, and nothing has been raised. -/
def Writing.isOpen : Writing → Bool
  | .fdopening _ => true
  | .writing _ _ => true
  | .closing _ _ none => true
  | .replacing => true
  | _ => false

/-- The mode the sibling has once it is open: its own, if it was left over. -/
def openedMode (umask : Mode) (f : File) (fs : Disk) : Mode :=
  (fs (sibling f)).elim (fileMode f &&& ~~~umask) RegularFile.mode

/-- What a call by itself has done of the files it found. -/
structure Done (umask : Mode) (f : File) (data : Bytes) (fs : Disk) (w : Writing) (vol : Vol) :
    Prop where
  unfinished : (systemCalls umask 0).effected w = false → AgreesOff (sibling f) fs vol.files
  finished : (systemCalls umask 0).effected w = true →
    vol.files = written umask f.path data (fileMode f) fs
  first : w = .opening → vol.files (sibling f) = fs (sibling f)
  mode : w.isOpen = true →
    ∃ content, vol.files (sibling f) = some ⟨content, openedMode umask f fs⟩

/-- A write to the open sibling leaves it its mode. -/
theorem files_put_mode {mode : Mode} (hvol : Orderly vol) (hdir : vol.dir (sibling f) = some fd)
    (h : ∃ old, vol.files (sibling f) = some ⟨old, mode⟩) :
    ∃ new, (vol.put fd content).files (sibling f) = some ⟨new, mode⟩ := by
  obtain ⟨old, hold⟩ := h
  rw [Volume.files_put hdir (hvol.sole f), setContent, Function.update_self, hold]
  exact ⟨content, rfl⟩

/-- The mode of the sibling, where a step leaves it open. -/
theorem Done.mode_step {fs : Disk} (hvol : Orderly vol) (hw : Writes mayFail f data w vol)
    (hdone : Done umask f data fs w vol)
    (h : WriteStep umask bufferSize mayFail f data w vol w' vol') (hopen : w'.isOpen = true) :
    ∃ content, vol'.files (sibling f) = some ⟨content, openedMode umask f fs⟩ := by
  cases h with
  | @opened _ fd hdir =>
      obtain ⟨file, hfile⟩ := Option.ne_none_iff_exists'.mp (hvol.linked _ _ hdir)
      have hfs : fs (sibling f) = some file :=
        (hdone.first rfl).symm.trans ((Volume.files_of_dir hdir).trans hfile)
      refine files_put_mode hvol hdir ⟨file.content, ?_⟩
      rw [openedMode, hfs, hdone.first rfl, hfs]
      rfl
  | @created _ fd hdir hnew =>
      have hfs : fs (sibling f) = none :=
        (hdone.first rfl).symm.trans (Volume.files_eq_none hdir)
      refine ⟨[], ?_⟩
      rw [Volume.files_create hvol.linked hnew, Function.update_self, openedMode, hfs]
      rfl
  | fdopened => exact hdone.mode rfl
  | wrote _ _ _ hfile =>
      obtain ⟨done, -, hhas⟩ := hw
      exact files_put_mode hvol hhas.1 (hdone.mode rfl)
  | buffered _ => exact hdone.mode rfl
  | @flushed _ fd rest raised n file _ _ hfile =>
      cases raised with
      | none =>
          obtain ⟨done, -, hhas⟩ := hw
          exact files_put_mode hvol hhas.1 (hdone.mode rfl)
      | some e => cases hopen
  | closed => exact hdone.mode rfl
  | _ => cases hopen

/-- The renaming of a sibling that holds the data. -/
theorem rename_eq_written {fs : Disk} (hoff : AgreesOff (sibling f) fs vol.files)
    (h : vol.files (sibling f) = some ⟨data, openedMode umask f fs⟩) :
    (vol.rename (sibling f) f.path).files = written umask f.path data (fileMode f) fs := by
  have hfiles : vol.files = setContent
      (openTruncate fs (sibling f) [] (fileMode f &&& ~~~umask)) (sibling f) data := by
    funext q
    by_cases hq : q = sibling f
    · subst hq
      rw [h, setContent, Function.update_self, openTruncate, Function.update_self]
      rfl
    · rw [setContent, Function.update_of_ne hq, openTruncate, Function.update_of_ne hq]
      exact hoff q hq
  rw [Volume.files_rename, hfiles]
  rfl

/-- **One step of a call by itself.** -/
theorem Done.step {fs : Disk} (hvol : Orderly vol) (hw : Writes mayFail f data w vol)
    (hdone : Done umask f data fs w vol)
    (h : WriteStep umask bufferSize mayFail f data w vol w' vol') :
    Done umask f data fs w' vol' where
  unfinished heff := by
    obtain ⟨hbefore, htouch⟩ := h.touch hw
    have hstep : AgreesOff (sibling f) vol.files vol'.files :=
      Touch.agreesOff hvol (heff ▸ htouch)
    exact fun q hq => (hstep q hq).trans (hdone.unfinished hbefore q hq)
  finished heff := by
    cases h with
    | replaced hdir =>
        obtain ⟨fd, hhas⟩ := hw
        obtain ⟨mode, hfile⟩ := hhas.files
        obtain ⟨content, hcontent⟩ := hdone.mode rfl
        cases hfile.symm.trans hcontent
        exact rename_eq_written (hdone.unfinished rfl) hfile
    | _ => cases heff
  first hfirst := by
    subst hfirst
    cases h
  mode hopen := hdone.mode_step hvol hw h hopen

/-- The steps a call can still take. -/
def Writing.left (data : Bytes) : Writing → Nat
  | .opening => data.length + 7
  | .fdopening _ => data.length + 6
  | .writing _ rest => rest.length + 5
  | .closing _ rest _ => rest.length + 4
  | .replacing => 3
  | .raised _ => 2
  | .removing => 1
  | .ended _ => 0

/-- **Every step of a call brings it nearer its end**, whatever the others do meanwhile. -/
theorem WriteStep.left_lt (h : WriteStep umask bufferSize mayFail f data w vol w' vol') :
    w'.left data < w.left data := by
  cases h <;> simp only [Writing.left, List.length_drop, List.length_nil] <;> omega

/-- **A call ends.**  However the volume changes between its steps, a call takes at most seven steps
and one for each byte. -/
theorem write_steps_le {n : Nat} {ws : Nat → Writing} (h₀ : ws 0 = .opening)
    (h : ∀ i < n, ∃ vol vol', WriteStep umask bufferSize mayFail f data (ws i) vol (ws (i + 1)) vol') :
    n ≤ data.length + 7 := by
  have hleft : ∀ i ≤ n, (ws i).left data + i ≤ data.length + 7 := by
    intro i hi
    induction i with
    | zero => rw [h₀, Writing.left, Nat.add_zero]
    | succ i ih =>
        obtain ⟨vol, vol', hstep⟩ := h i hi
        have hlt := hstep.left_lt
        have hle := ih (Nat.le_of_succ_le hi)
        omega
  exact (Nat.le_add_left _ _).trans (hleft n le_rfl)

/-! ### The calls come to their ends -/

theorem touch_room {replaces : Bool} (h : Touch umask f data vol replaces vol')
    (hroom : vol.Room) : vol'.Room := by
  cases h with
  | nothing => exact hroom
  | put hdir hcontent => exact hroom.put
  | create hdir hnew => exact hroom.create
  | unlink => exact hroom
  | rename hhas => exact hroom

/-- What is said between the steps, with room for another file. -/
abbrev roomy : Outline File Bytes Vol Reading Writing := outline.also Volume.Room

theorem systemCalls_carryOut_roomy :
    CarriesOut (systemCalls umask bufferSize) roomy fun vol => Common.contents vol.files :=
  (systemCalls_carryOut umask bufferSize).also fun hw h => touch_room (WriteStep.touch hw h).2

/-- The steps a reader can still take, once it has opened the file. -/
def readLeft : Reading → Vol → ℕ∞
  | .opening, _ => ⊤
  | .reading fd acc, vol => ((vol.inodes fd).elim 0 (·.content.length) - acc.length + 1 : Nat)
  | .ended _, _ => 0

/-- The steps a writer can still take. -/
def writeLeft (_ : File) (data : Bytes) (w : Writing) : ℕ∞ := w.left data

theorem readStep_lt (h : ReadStep mayFail f r vol r') : readLeft r' vol < readLeft r vol := by
  cases h with
  | opened hdir => exact ENat.natCast_lt_top _
  | absent hdir => exact ENat.natCast_lt_top 0
  | openFault hfail => exact ENat.natCast_lt_top 0
  | @read _ fd acc n file hfile hn hlt =>
      have hlength : (acc ++ (file.content.drop acc.length).take n).length =
          acc.length + min n (file.content.length - acc.length) := by simp
      refine Nat.cast_lt.mpr ?_
      rw [hfile, hlength]
      simp only [Option.elim_some]
      omega
  | eof hfile hle => exact Nat.cast_lt.mpr (Nat.succ_pos _)
  | readFault hfail => exact Nat.cast_lt.mpr (Nat.succ_pos _)

/-- A reader can go on. -/
theorem read_goes (hr : Reads mayFail r vol)
    (hresult : (systemCalls umask bufferSize).readResult r = none) :
    ∃ r', ReadStep False f r vol r' := by
  match r, hr with
  | .opening, _ =>
      cases hdir : vol.dir f.path with
      | none => exact ⟨_, .absent hdir⟩
      | some fd => exact ⟨_, .opened hdir⟩
  | .reading fd acc, hr =>
      obtain ⟨file, hfile⟩ := Option.ne_none_iff_exists'.mp hr.1.inode
      by_cases hlt : acc.length < file.content.length
      · exact ⟨_, .read (n := 1) hfile one_pos hlt⟩
      · exact ⟨_, .eof hfile (Nat.not_lt.mp hlt)⟩
  | .ended _, _ => cases hresult

theorem has_inode {fd : Nat} {content : Bytes} (h : Has f vol fd content) :
    ∃ file, vol.inodes fd = some file := by
  obtain ⟨-, mode, hinode⟩ := h
  exact ⟨_, hinode⟩

/-- A writer can go on. -/
theorem write_goes (hroom : vol.Room) (hw : Writes mayFail f data w vol)
    (hresult : (systemCalls umask bufferSize).writeResult w = none) :
    ∃ w' vol', WriteStep umask bufferSize False f data w vol w' vol' := by
  match w, hw with
  | .opening, _ =>
      cases hdir : vol.dir (sibling f) with
      | none =>
          obtain ⟨fd, hnew⟩ := hroom.exists_new
          exact ⟨_, _, .created hdir hnew⟩
      | some fd => exact ⟨_, _, .opened hdir⟩
  | .fdopening fd, _ => exact ⟨_, _, .fdopened⟩
  | .writing fd rest, ⟨done, hdata, hhas⟩ =>
      by_cases hbuffered : rest.length ≤ bufferSize
      · exact ⟨_, _, .buffered hbuffered⟩
      · obtain ⟨file, hfile⟩ := has_inode hhas
        have hlt : bufferSize < rest.length := Nat.lt_of_not_le hbuffered
        exact ⟨_, _, .wrote (n := 1) hlt one_pos (Nat.succ_le_of_lt (Nat.zero_lt_of_lt hlt)) hfile⟩
  | .closing fd [] none, _ => exact ⟨_, _, .closed⟩
  | .closing fd (b :: rest) none, ⟨done, hdata, hhas⟩ =>
      obtain ⟨file, hfile⟩ := has_inode hhas
      exact ⟨_, _, .flushed (n := 1) one_pos (Nat.succ_le_succ (Nat.zero_le _)) hfile⟩
  | .closing fd [] (some e), _ => exact ⟨_, _, .closedRaising⟩
  | .closing fd (b :: rest) (some e), ⟨hrest, _⟩ => cases hrest
  | .replacing, ⟨fd, hhas⟩ => exact ⟨_, _, .replaced hhas.1⟩
  | .raised e, _ =>
      cases he : e.isinstance .exception with
      | false => exact ⟨_, _, .passed he⟩
      | true =>
          cases hdir : vol.dir (sibling f) with
          | none => exact ⟨_, _, .notThere he hdir⟩
          | some fd => exact ⟨_, _, .there he hdir⟩
  | .removing, _ =>
      cases hdir : vol.dir (sibling f) with
      | none => exact ⟨_, _, .removeMissing hdir⟩
      | some fd => exact ⟨_, _, .removed hdir⟩
  | .ended _, _ => cases hresult

theorem readStep_of_faultless (h : ReadStep False f r vol r') : ReadStep mayFail f r vol r' := by
  cases h with
  | opened hdir => exact .opened hdir
  | absent hdir => exact .absent hdir
  | read hfile hn hlt => exact .read hfile hn hlt
  | eof hfile hle => exact .eof hfile hle
  | openFault hfail => exact hfail.elim
  | readFault hfail => exact hfail.elim

theorem writeStep_of_faultless (h : WriteStep umask bufferSize False f data w vol w' vol') :
    WriteStep umask bufferSize mayFail f data w vol w' vol' := by
  cases h with
  | opened hdir => exact .opened hdir
  | created hdir hnew => exact .created hdir hnew
  | fdopened => exact .fdopened
  | wrote hlt hn hle hfile => exact .wrote hlt hn hle hfile
  | buffered hle => exact .buffered hle
  | flushed hn hle hfile => exact .flushed hn hle hfile
  | closed => exact .closed
  | closedRaising => exact .closedRaising
  | replaced hdir => exact .replaced hdir
  | replaceMissing hdir => exact .replaceMissing hdir
  | passed he => exact .passed he
  | there he hdir => exact .there he hdir
  | notThere he hdir => exact .notThere he hdir
  | removed hdir => exact .removed hdir
  | removeMissing hdir => exact .removeMissing hdir
  | existsFault _ hfail => exact hfail.elim
  | openFault hfail => exact hfail.elim
  | fdopenFault hfail => exact hfail.elim
  | writeFault hfail => exact hfail.elim
  | closeFault hfail => exact hfail.elim
  | replaceFault hfail => exact hfail.elim
  | removeFault hfail => exact hfail.elim

/-- **Every step brings a call nearer its end**, whatever the others do meanwhile. -/
theorem systemCalls_shorten : Shortens (systemCalls umask bufferSize) outline readLeft writeLeft where
  readStep _ _ h := readStep_lt h
  writeStep _ _ h := Nat.cast_lt.mpr (WriteStep.left_lt h)
  frame {mayFail mayFail' f r g v w o w' o'} _ hw h hr := by
    match r, hr with
    | .opening, _ => rfl
    | .reading fd acc, hr =>
        obtain ⟨-, hinode⟩ := (WriteStep.touch hw h).2.sealed hr.1
        rw [readLeft, readLeft, hinode]
    | .ended _, _ => rfl

/-- **The calls of `server/common.py` come to their ends.** -/
theorem systemCalls_conclude : Concludes (systemCalls umask bufferSize) roomy readLeft writeLeft where
  readStep h := systemCalls_shorten.readStep h.1
  writeStep h := systemCalls_shorten.writeStep h.1
  frame {_ _ f _ _ _ _ _ _ _} h := systemCalls_shorten.frame (f := f) h.1
  readGoes _ hr hresult := read_goes hr hresult
  writeGoes h hw hresult := write_goes h.2 hw hresult
  readFaultless h := readStep_of_faultless h
  writeFaultless h := writeStep_of_faultless h

end

end PromptEncryption.Server.Common
