import PromptEncryption.Support.FileSystem

/-!
# Support — names and inodes

A volume as its directory and its inodes: a path names an inode, and an open file is an inode, which
stays what it is when its name is given to another (`rename`) or taken away (`unlink`).

`Volume.files` is the volume as the files a path leads to.

* `files_create`, `files_put`, `files_rename`, `files_unlink`: on a path whose inode has no other
  name (`Sole`), the calls do to `files` what `FileSystem.lean` says they do.
-/

namespace FileSystems

structure Volume (P D M : Type*) where
  dir : P → Option Nat
  inodes : Nat → Option (RegularFile D M)

namespace Volume

section
variable {P D M : Type*}

/-- The file a path leads to. -/
def files (vol : Volume P D M) : FileSystem P D M := fun p => (vol.dir p).bind vol.inodes

/-- A name is the name of an inode. -/
def Linked (vol : Volume P D M) : Prop := ∀ p i, vol.dir p = some i → vol.inodes i ≠ none

/-- The inode that `p` names, if any, has no other name. -/
def Sole (vol : Volume P D M) (p : P) : Prop :=
  ∀ q i, vol.dir p = some i → vol.dir q = some i → q = p

/-- What is written to an open file. -/
def put (vol : Volume P D M) (i : Nat) (content : D) : Volume P D M where
  dir := vol.dir
  inodes := Function.update vol.inodes i ((vol.inodes i).map fun file => ⟨content, file.mode⟩)

variable {vol : Volume P D M} {p q : P} {i j : Nat} {content : D}

/-- An inode that is new is named by nothing. -/
theorem Linked.ne_of_new (h : vol.Linked) (hi : vol.inodes i = none) : vol.dir q ≠ some i :=
  fun hq => h q i hq hi

/-- There is room for another inode, and for any number of them. -/
def Room (vol : Volume P D M) : Prop := ∃ n, ∀ i, n ≤ i → vol.inodes i = none

theorem Room.exists_new (h : vol.Room) : ∃ i, vol.inodes i = none := by
  obtain ⟨n, hn⟩ := h
  exact ⟨n, hn n (Nat.le_refl n)⟩

theorem Room.put (h : vol.Room) : (vol.put i content).Room := by
  obtain ⟨n, hn⟩ := h
  refine ⟨n, fun j hj => ?_⟩
  by_cases hji : j = i
  · subst hji
    exact (Function.update_self ..).trans (congrArg _ (hn j hj))
  · exact (Function.update_of_ne hji ..).trans (hn j hj)

theorem Sole.put (h : vol.Sole p) : (vol.put i content).Sole p := h

theorem files_of_dir (h : vol.dir p = some i) : vol.files p = vol.inodes i := by
  rw [files, h]
  rfl

theorem files_eq_none (h : vol.dir p = none) : vol.files p = none := by
  rw [files, h]
  rfl

theorem put_inode {file : RegularFile D M} (h : vol.inodes i = some file) :
    (vol.put i content).inodes i = some ⟨content, file.mode⟩ := by
  rw [put]
  exact (Function.update_self ..).trans (congrArg _ h)

theorem put_inode_of_ne (h : j ≠ i) : (vol.put i content).inodes j = vol.inodes j :=
  Function.update_of_ne h _ _

theorem Linked.put (h : vol.Linked) : (vol.put i content).Linked := by
  intro p j hp
  by_cases hj : j = i
  · subst hj
    obtain ⟨file, hfile⟩ := Option.ne_none_iff_exists'.mp (h p j hp)
    rw [put_inode hfile]
    exact Option.some_ne_none _
  · rw [put_inode_of_ne hj]
    exact h p j hp

end

section
variable {P D M : Type*} [DecidableEq P]

/-- `open(p, O_CREAT)` where `p` does not exist: the new file is the inode `i`. -/
def create (vol : Volume P D M) (p : P) (i : Nat) (file : RegularFile D M) : Volume P D M where
  dir := Function.update vol.dir p (some i)
  inodes := Function.update vol.inodes i (some file)

/-- `rename(p, q)`. -/
def rename (vol : Volume P D M) (p q : P) : Volume P D M :=
  { vol with dir := Function.update (Function.update vol.dir q (vol.dir p)) p none }

/-- `unlink(p)`. -/
def unlink (vol : Volume P D M) (p : P) : Volume P D M :=
  { vol with dir := Function.update vol.dir p none }

variable {vol : Volume P D M} {p q r : P} {i j : Nat} {file : RegularFile D M} {content : D}

theorem create_inode : (vol.create p i file).inodes i = some file := Function.update_self ..

theorem create_inode_of_ne (h : j ≠ i) : (vol.create p i file).inodes j = vol.inodes j :=
  Function.update_of_ne h _ _

theorem create_dir : (vol.create p i file).dir p = some i := Function.update_self ..

theorem create_dir_of_ne (h : q ≠ p) : (vol.create p i file).dir q = vol.dir q :=
  Function.update_of_ne h _ _

theorem rename_source : (vol.rename p q).dir p = none := Function.update_self ..

theorem rename_target (h : q ≠ p) : (vol.rename p q).dir q = vol.dir p := by
  rw [rename]
  exact (Function.update_of_ne h _ _).trans (Function.update_self ..)

theorem rename_of_ne (hp : r ≠ p) (hq : r ≠ q) : (vol.rename p q).dir r = vol.dir r := by
  rw [rename]
  exact (Function.update_of_ne hp _ _).trans (Function.update_of_ne hq _ _)

theorem unlink_self : (vol.unlink p).dir p = none := Function.update_self ..

theorem unlink_of_ne (h : q ≠ p) : (vol.unlink p).dir q = vol.dir q := Function.update_of_ne h _ _

/-! ### The calls and the files -/

theorem files_create (h : vol.Linked) (hi : vol.inodes i = none) :
    (vol.create p i file).files = Function.update vol.files p (some file) := by
  funext q
  by_cases hq : q = p
  · subst hq
    rw [files_of_dir create_dir, create_inode, Function.update_self]
  · rw [Function.update_of_ne hq]
    cases hd : vol.dir q with
    | none => rw [files_eq_none hd, files_eq_none ((create_dir_of_ne hq).trans hd)]
    | some j =>
        have hj : j ≠ i := fun hji => h.ne_of_new hi (hji ▸ hd)
        rw [files_of_dir hd, files_of_dir ((create_dir_of_ne hq).trans hd), create_inode_of_ne hj]

theorem files_put (hp : vol.dir p = some i) (hsole : vol.Sole p) :
    (vol.put i content).files = setContent vol.files p content := by
  funext q
  by_cases hq : q = p
  · subst hq
    have hput : (vol.put i content).files q = (vol.put i content).inodes i := files_of_dir hp
    rw [hput, setContent, Function.update_self, files_of_dir hp]
    exact Function.update_self ..
  · rw [setContent, Function.update_of_ne hq]
    cases hd : vol.dir q with
    | none =>
        have hput : (vol.put i content).files q = none := files_eq_none hd
        rw [hput, files_eq_none hd]
    | some j =>
        have hj : j ≠ i := fun hji => hq (hsole q i hp (hji ▸ hd))
        have hput : (vol.put i content).files q = (vol.put i content).inodes j := files_of_dir hd
        rw [hput, files_of_dir hd, put_inode_of_ne hj]

theorem files_rename : (vol.rename p q).files = FileSystems.rename vol.files p q := by
  funext r
  by_cases hr : r = p
  · subst hr
    rw [files_eq_none rename_source, FileSystems.rename_source]
  · by_cases hq : r = q
    · subst hq
      rw [FileSystems.rename_target hr]
      exact congrArg (Option.bind · vol.inodes) (rename_target hr)
    · rw [FileSystems.rename_of_ne hr hq]
      exact congrArg (Option.bind · vol.inodes) (rename_of_ne hr hq)

theorem files_unlink : (vol.unlink p).files = FileSystems.unlink vol.files p := by
  funext r
  by_cases hr : r = p
  · subst hr
    rw [files_eq_none unlink_self, FileSystems.unlink_self]
  · rw [FileSystems.unlink_of_ne hr]
    exact congrArg (Option.bind · vol.inodes) (unlink_of_ne hr)

/-! ### Names -/

theorem Linked.create (h : vol.Linked) : (vol.create p i file).Linked := by
  intro q j hq
  by_cases hj : j = i
  · subst hj
    rw [create_inode]
    exact Option.some_ne_none _
  · rw [create_inode_of_ne hj]
    by_cases hqp : q = p
    · subst hqp
      exact absurd (Option.some.inj (create_dir.symm.trans hq)).symm hj
    · exact h q j ((create_dir_of_ne hqp).symm.trans hq)

theorem Linked.unlink (h : vol.Linked) : (vol.unlink p).Linked := by
  intro q i hq
  by_cases hqp : q = p
  · subst hqp
    cases unlink_self.symm.trans hq
  · exact h q i ((unlink_of_ne hqp).symm.trans hq)

theorem Linked.rename (h : vol.Linked) : (vol.rename p q).Linked := by
  intro r i hr
  by_cases hrp : r = p
  · subst hrp
    cases rename_source.symm.trans hr
  · by_cases hrq : r = q
    · subst hrq
      exact h p i ((rename_target hrp).symm.trans hr)
    · exact h r i ((rename_of_ne hrp hrq).symm.trans hr)

/-- A new file has one name, and no other file gets a second. -/
theorem Sole.create (h : vol.Sole r) (hlinked : vol.Linked) (hi : vol.inodes i = none) :
    (vol.create p i file).Sole r := by
  intro q j hr hq
  have hname : ∀ {s}, (vol.create p i file).dir s = some i → s = p := fun {s} hs => by
    by_contra hne
    exact hlinked.ne_of_new hi ((create_dir_of_ne hne).symm.trans hs)
  by_cases hj : j = i
  · subst hj
    exact (hname hq).trans (hname hr).symm
  · have hold : ∀ {s}, (vol.create p i file).dir s = some j → vol.dir s = some j := fun {s} hs => by
      by_cases hsp : s = p
      · subst hsp
        exact absurd (Option.some.inj (create_dir.symm.trans hs)).symm hj
      · exact (create_dir_of_ne hsp).symm.trans hs
    exact h q j (hold hr) (hold hq)

theorem Sole.unlink (h : vol.Sole r) : (vol.unlink p).Sole r := by
  intro q i hr hq
  have hold : ∀ {s}, (vol.unlink p).dir s = some i → vol.dir s = some i := fun {s} hs => by
    by_cases hsp : s = p
    · subst hsp
      cases unlink_self.symm.trans hs
    · exact (unlink_of_ne hsp).symm.trans hs
  exact h q i (hold hr) (hold hq)

theorem Room.create (h : vol.Room) : (vol.create p i file).Room := by
  obtain ⟨n, hn⟩ := h
  refine ⟨max n (i + 1), fun j hj => ?_⟩
  have hji : j ≠ i := fun hji => by omega
  exact (create_inode_of_ne hji).trans (hn j (Nat.le_trans (Nat.le_max_left ..) hj))

/-- A name that no renaming touches stays the only one: what is renamed was another's. -/
theorem Sole.rename (h : vol.Sole r) (hp : vol.Sole p) (hrq : r ≠ q) : (vol.rename p q).Sole r := by
  intro s i hr hs
  by_cases hrp : r = p
  · subst hrp
    cases rename_source.symm.trans hr
  · have hr' : vol.dir r = some i := (rename_of_ne hrp hrq).symm.trans hr
    by_cases hsp : s = p
    · subst hsp
      cases rename_source.symm.trans hs
    · by_cases hsq : s = q
      · subst hsq
        -- the inode renamed had no other name
        exact absurd (hp r i ((rename_target hsp).symm.trans hs) hr') hrp
      · exact h s i hr' ((rename_of_ne hsp hsq).symm.trans hs)

end

end Volume

end FileSystems
