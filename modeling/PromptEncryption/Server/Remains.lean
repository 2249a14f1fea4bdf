import PromptEncryption.Server.SystemCalls
import PromptEncryption.Support.Outputs

/-!
# Server — what is left of the files at any moment

What holds of a volume between any two system calls of `write_file`, and so of what a process leaves
that ends there: `Preserved`, against the volume it found.

* `Preserved.touch`: a step of `write_file` keeps it, where what is written is as `G` says.
-/

namespace PromptEncryption.Server.Common
open Python Programs FileSystems

/-- A mode has no bit that `f` is not written with. -/
def WithinMode (f : File) (mode : Mode) : Prop := mode &&& ~~~fileMode f = 0

/-- The files and their siblings have no mode beyond their own. -/
def ModesKept (vol : Vol) : Prop :=
  ∀ f file, vol.files f.path = some file ∨ vol.files (sibling f) = some file → WithinMode f file.mode

/-- The volume against what it was at first, where what is written is as `G` says. -/
structure Preserved (G : File → Bytes → Prop) (vol₀ vol : Vol) : Prop where
  contents : ∀ f, Intact G (contents vol₀.files) f (contents vol.files f)
  siblings : ∀ f file, vol.files (sibling f) = some file →
    vol₀.files (sibling f) = some file ∨ ∃ data, G f data ∧ file.content <+: data
  modes : ModesKept vol
  others : ∀ p, (∀ f, p ≠ File.path f ∧ p ≠ sibling f) → vol.files p = vol₀.files p

section
variable {G : File → Bytes → Prop} {umask : Mode} {f : File} {data : Bytes} {vol₀ vol vol' : Vol}

theorem withinMode_masked : WithinMode f (fileMode f &&& ~~~umask) := by
  rw [WithinMode]
  ext i hi
  simp only [BitVec.getElem_and, BitVec.getElem_not]
  cases (fileMode f)[i] <;> simp

/-- What a step of a write leaves of the sibling. -/
theorem Touch.sibling_cases (hvol : Orderly vol) (h : Touch umask f data vol false vol')
    {file : RegularFile Bytes Mode}
    (hfile : vol'.files (sibling f) = some file) :
    vol.files (sibling f) = some file ∨ file.content <+: data ∧
      ((∃ old, vol.files (sibling f) = some old ∧ file.mode = old.mode) ∨
        file.mode = fileMode f &&& ~~~umask) := by
  cases h with
  | nothing => exact .inl hfile
  | put hdir hcontent =>
      rw [Volume.files_put hdir (hvol.sole f), setContent, Function.update_self] at hfile
      obtain ⟨old, hold, rfl⟩ := Option.map_eq_some_iff.mp hfile
      exact .inr ⟨hcontent, .inl ⟨old, hold, rfl⟩⟩
  | create hdir hnew =>
      rw [Volume.files_create hvol.linked hnew, Function.update_self] at hfile
      cases hfile
      exact .inr ⟨List.nil_prefix, .inr rfl⟩
  | unlink =>
      rw [Volume.files_unlink, FileSystems.unlink_self] at hfile
      cases hfile

/-- **A step of a write preserves the volume.** -/
theorem Preserved.touch {replaces : Bool} (h : Preserved G vol₀ vol) (hvol : Orderly vol)
    (hG : G f data)
    (ht : Touch umask f data vol replaces vol') : Preserved G vol₀ vol' := by
  cases replaces with
  | false =>
      have hoff := ht.agreesOff hvol
      have hsibling : ∀ {g}, g ≠ f → vol'.files (sibling g) = vol.files (sibling g) := fun hg =>
        hoff _ fun heq => hg (sibling_injective heq)
      refine ⟨fun g => ?_, fun g file hfile => ?_, fun g file hfile => ?_, fun p hp => ?_⟩
      · rw [contents_of_agreesOff hoff]
        exact h.contents g
      · by_cases hg : g = f
        · subst hg
          rcases Touch.sibling_cases hvol ht hfile with hold | ⟨hcontent, -⟩
          · exact h.siblings g file hold
          · exact .inr ⟨data, hG, hcontent⟩
        · exact h.siblings g file ((hsibling hg).symm.trans hfile)
      · rcases hfile with hfile | hfile
        · exact h.modes g file (.inl ((hoff _ (path_ne_sibling g f)).symm.trans hfile))
        · by_cases hg : g = f
          · subst hg
            rcases Touch.sibling_cases hvol ht hfile with hold | ⟨-, ⟨old, hold, hmode⟩ | hmode⟩
            · exact h.modes g file (.inr hold)
            · exact hmode ▸ h.modes g old (.inr hold)
            · exact hmode ▸ withinMode_masked
          · exact h.modes g file (.inr ((hsibling hg).symm.trans hfile))
      · exact (hoff p (hp f).2).trans (h.others p hp)
  | true =>
      cases ht with
      | rename hhas =>
          obtain ⟨mode, hfile₀⟩ := hhas.files
          have hrename : (vol.rename (sibling f) f.path).files = _ := Volume.files_rename
          have hpath : (vol.rename (sibling f) f.path).files f.path = some ⟨data, mode⟩ := by
            rw [hrename, FileSystems.rename_target (path_ne_sibling f f), hfile₀]
          have hnone : (vol.rename (sibling f) f.path).files (sibling f) = none := by
            rw [hrename, FileSystems.rename_source]
          have hother : ∀ {p}, p ≠ sibling f → p ≠ f.path →
              (vol.rename (sibling f) f.path).files p = vol.files p := fun hp hp' => by
            rw [hrename, FileSystems.rename_of_ne hp hp']
          have hsibling : ∀ {g}, g ≠ f → (vol.rename (sibling f) f.path).files (sibling g) =
              vol.files (sibling g) := fun {g} hg =>
            hother (fun heq => hg (sibling_injective heq)) (path_ne_sibling f g).symm
          refine ⟨fun g => ?_, fun g file hfile => ?_, fun g file hfile => ?_, fun p hp => ?_⟩
          · rw [contents_rename hhas]
            refine (Function.forall_update_iff _ fun g c => Intact G _ g c).mpr ⟨?_, ?_⟩ g
            · exact .inr ⟨data, hG, rfl⟩
            · exact fun g _ => h.contents g
          · by_cases hg : g = f
            · subst hg
              cases hnone.symm.trans hfile
            · exact h.siblings g file ((hsibling hg).symm.trans hfile)
          · by_cases hg : g = f
            · subst hg
              rcases hfile with hfile | hfile
              · cases hpath.symm.trans hfile
                exact h.modes g _ (.inr hfile₀)
              · cases hnone.symm.trans hfile
            · rcases hfile with hfile | hfile
              · have hne : g.path ≠ f.path := fun heq => hg (path_injective heq)
                exact h.modes g file
                  (.inl ((hother (path_ne_sibling g f) hne).symm.trans hfile))
              · exact h.modes g file (.inr ((hsibling hg).symm.trans hfile))
          · exact (hother (hp f).2 (hp f).1).trans (h.others p hp)

end

end PromptEncryption.Server.Common
