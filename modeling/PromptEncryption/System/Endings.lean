import PromptEncryption.System.Crashes

/-!
# System — every call comes to its end

The threads of the server between system calls, once no new call is made.  A call waits for one thing
only, the lock of `TokenManager`, and its holder waits for none.

* `calls_end`: from any moment on, the calls under way stop, in whatever order their threads go and
  whatever fails; and without a fault all of them come to their ends, and the lock is free.
-/

namespace PromptEncryption.Server
open Python Programs Runs FileSystems
open Common (Vol WriteStep systemCalls Orderly)

/-! ### Every run -/

section
variable {audience : String} {answers : Answers} {umask : Common.Mode} {bufferSize : Nat} {vol₀ : Vol}

/-- **Every call comes to its end.**  From any moment of any run of the server's threads, the threads
stop without new calls, in whatever order they go and whatever fails.  Where the libraries answer and
there is room for another file, without a fault they come to where every call has ended and the lock is
free. -/
theorem calls_end (hvol₀ : Orderly vol₀) {es : List FineServerEvent} {st : FineServer}
    (h : Run ((server audience answers).fine (systemCalls umask bufferSize) (· = vol₀)) es st) :
    (∀ s : Nat → FineServer, s 0 = st → ∃ n,
      ¬ GoesOn (server audience answers) (systemCalls umask bufferSize) (s n) (s (n + 1))) ∧
    (vol₀.Room → (∀ q, ∃ a, answers q a) → ∃ st', Relation.ReflTransGen
      (GoesOn (server audience answers).faultless (systemCalls umask bufferSize)) st st' ∧
        st'.AtRest) := by
  constructor
  · intro s hs
    have hacc := comes_to_stop (Common.systemCalls_carryOut umask bufferSize)
      Common.systemCalls_shorten server_guarded (fun vol (hvol : vol = vol₀) => hvol ▸ hvol₀) h
    by_contra hall
    refine not_acc_iff_exists_descending_chain.mpr ⟨s, hs, fun n => ?_⟩ hacc
    exact of_not_not fun hn => hall ⟨n, hn⟩
  · intro hroom hanswers
    exact comes_to_rest Common.systemCalls_carryOut_roomy Common.systemCalls_conclude server_guarded
      hanswers (fun vol (hvol : vol = vol₀) => hvol ▸ ⟨hvol₀, hroom⟩) h

end

/-! ### A run of the toy libraries -/

/-- `toyAnswers`, with a token for any other nonces as well. -/
def toyService : Answers
  | .fetchToken ns audience, token => toyAnswers (.fetchToken ns audience) token ∨ token = [84]
  | q, a => toyAnswers q a

theorem toyService_answers (q : Question) : ∃ a, toyService q a := by
  cases q with
  | generateEcdsa => exact ⟨toyEcdsa 48, .inl rfl⟩
  | generateMldsa => exact ⟨toyMldsa 48, .inl rfl⟩
  | serializePublicKeyset => exact ⟨(), trivial⟩
  | signEcdsa key payload => exact ⟨_, rfl⟩
  | signMldsa key payload => exact ⟨_, rfl⟩
  | fetchToken ns audience => exact ⟨[84], .inr rfl⟩

/-- A refresh that holds the lock, in the middle of a write, and a snapshot that waits for it. -/
theorem waiting_run : ∃ (es : List FineServerEvent) (st : FineServer),
    Run ((server Client.DEFAULT_AUDIENCE toyService).fine (systemCalls 0o022 8192) (· = toyVolume))
      es st ∧ st.lock = some 0 ∧ st.threads 1 ≠ none := by
  have hcreated : WriteStep 0o022 8192 True .privateKey [1, 49] .opening toyVolume
      (.fdopening 5) (toyVolume.create (Common.sibling .privateKey) 5 ⟨[], 0o600⟩) :=
    .created (by decide) rfl
  have h := Run.init (S := (server Client.DEFAULT_AUDIENCE toyService).fine (systemCalls 0o022 8192)
    (· = toyVolume)) (s := ⟨toyVolume, none, fun _ => none⟩) ⟨rfl, rfl, fun _ => rfl⟩
  have h := h.step (.start (t := 0) (j := .manager .refresh) rfl)
  have h := h.step (.acquire (t := 0) rfl rfl)
  have h := h.step (.start (t := 1) (j := .manager .snapshot) rfl)
  have h := h.step (.ask (t := 0) (a := toyEcdsa 49) rfl (.inr rfl))
  have h := h.step (.openWrite (t := 0) rfl)
  have h := h.step (.writeStep (t := 0) rfl hcreated rfl)
  exact ⟨_, _, h, rfl, Option.some_ne_none _⟩

/-- The two calls come to their ends. -/
theorem waiting_ends : ∃ st st' : FineServer, st.lock = some 0 ∧ st.threads 1 ≠ none ∧
    Relation.ReflTransGen (GoesOn (server Client.DEFAULT_AUDIENCE toyService).faultless
      (systemCalls 0o022 8192)) st st' ∧ st'.AtRest := by
  obtain ⟨es, st, h, hlock, hwaiting⟩ := waiting_run
  obtain ⟨-, hends⟩ := calls_end toyVolume_orderly h
  obtain ⟨st', hsteps, hrest⟩ := hends toyVolume_room toyService_answers
  exact ⟨st, st', hlock, hwaiting, hsteps, hrest⟩

end PromptEncryption.Server
