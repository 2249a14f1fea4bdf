import PromptEncryption.Server.Remains
import PromptEncryption.System.Workers

/-!
# System — the files between system calls

The threads of a server process, each a call of `TokenManager` or an `attest_connection` (`server`),
where reading and writing a file takes the system calls of `SystemCalls.lean`, any of which may fail,
and where the process may end at any moment and another start from what it left (`Restarted`).

* `server_refines`: the process does what it does where a file is read or replaced in one step, and
  there no read returns part of what was written.
* `volume_preserved`: at any moment of any number of such processes, each file holds what it held at
  first or all of something written to it, its sibling a beginning of that, neither with a mode beyond
  the file's own, and no other path has changed.
* `snapshot_between_systemCalls`: a snapshot is still of the last complete refresh.
* `manager_realises`: and without faults nothing that happens file by file is lost.
-/

namespace PromptEncryption.Server
open Python Programs Runs FileSystems
open Common (Vol systemCalls systemCalls_carryOut Orderly ModesKept Preserved)

/-! ### The process -/

/-- What a thread of the server runs with the files. -/
inductive ServerCall where
  | manager (call : ManagerCall)
  | attest (request : AttestConnectionRequest) (sslObj : SslObject)

inductive ServerResult where
  | manager (r : ManagerResult)
  | attested (r : Except Exc AttestConnectionResponse)

/-- The server process, any step of which may fail. -/
def server (audience : String) (answers : Answers) :
    Setting File Bytes Exc Question Answer ServerCall ServerResult where
  prog
    | .manager call => Prog.map .manager ((manager audience answers).prog call)
    | .attest request sslObj => Prog.map .attested (attestConnection request sslObj)
  answers := answers
  mayFail _ := True

section
variable {audience : String} {answers : Answers}

/-! ### The calls and the lock -/

theorem guarded_map {ρ σ : Type} {g : ρ → σ} {p : Prog File Bytes Exc Question Answer ρ}
    (hp : Guarded p false) : Guarded (Prog.map g p) false := hp.bind fun _ => rfl

theorem manager_guarded (call : ManagerCall) :
    Guarded ((manager audience answers).prog call) false := by
  cases call with
  | refresh =>
      exact GuardedBody.map (.withLock (.bind lockFree_generateKeyPair fun _ =>
        .bind (lockFree_readFile _) fun _ => .bind (lockFree_readFile _) fun _ =>
          .bind (.ask _) fun _ => lockFree_writeFile _ _))
  | snapshot =>
      exact GuardedBody.map (.withLock (.bind (lockFree_readFile _) fun _ =>
        .bind (lockFree_readFile _) fun _ => .bind lockFree_readToken fun _ => trivial))
  | publicKey => exact GuardedBody.map (.withLock (lockFree_readFile _))
  | pqcPublicKey => exact GuardedBody.map (.withLock (lockFree_readFile _))
  | attestationToken => exact GuardedBody.map (.withLock lockFree_readToken)

/-- The private keys are read outside the lock, and nothing is written there. -/
theorem attestConnection_guarded (request : AttestConnectionRequest) (sslObj : SslObject) :
    GuardedBody (attestConnection request sslObj) := by
  have hlift {α : Type} (r : Except Exc α) : GuardedBody (lift r : Action α) := rfl
  have hsnapshot : GuardedBody getIdentitySnapshot :=
    .withLock (.bind (lockFree_readFile _) fun _ => .bind (lockFree_readFile _) fun _ =>
      .bind lockFree_readToken fun _ => trivial)
  have hsign : ∀ payload, GuardedBody (signPayload payload) := fun payload =>
    guarded_of_readOnly (LockFreeBody.bind (lockFree_readFile _) fun _ => .ask _)
      (ReadOnlyBody.bind (readFile_readOnly _) fun _ => .ask _)
  have hsignMldsa : ∀ payload, GuardedBody (signPayloadMldsa payload) := fun payload =>
    guarded_of_readOnly (LockFreeBody.bind (lockFree_readFile _) fun _ => .ask _)
      (ReadOnlyBody.bind (readFile_readOnly _) fun _ => .ask _)
  exact .bind (hlift _) fun _ => .bind (hlift _) fun _ => .bind hsnapshot fun _ =>
    .bind (hsign _) fun _ => .bind (hsignMldsa _) fun _ => .bind (hlift _) fun _ =>
    .bind (hlift _) fun _ => hlift _

theorem server_guarded (j : ServerCall) : Guarded ((server audience answers).prog j) false := by
  cases j with
  | manager call => exact guarded_map (manager_guarded call)
  | attest request sslObj => exact GuardedBody.map (attestConnection_guarded request sslObj)

/-! ### What is written -/

abbrev FineServer := FinePool File Bytes Exc Question Answer ServerCall ServerResult Vol
  Common.Reading Common.Writing
abbrev FineServerEvent := FineEvent File Bytes Exc Question Answer ServerCall ServerResult
variable {umask : Common.Mode} {bufferSize : Nat} {vol₀ : Vol}

end

/-! ### Runs of the toy libraries -/

/-- The files of a server. -/
def serverFiles : List File :=
  [.privateKey, .publicKey, .pqcPrivateKey, .pqcPublicKey, .attestationToken]

/-- A volume that holds the identity numbered 48. -/
def toyVolume : Vol where
  dir p := (serverFiles.find? fun f => f.path == p).map File.index
  inodes i := (serverFiles[i]?).map fun f => ⟨(toyIdentity 48).content f, Common.fileMode f⟩

theorem toyVolume_orderly : Orderly toyVolume where
  linked p i h := by
    obtain ⟨f, -, rfl⟩ := Option.map_eq_some_iff.mp h
    cases f <;> exact Option.some_ne_none _
  sole f q i h := by
    have hnone : toyVolume.dir (Common.sibling f) = none := by
      cases f <;> decide
    cases hnone.symm.trans h

theorem toyVolume_room : toyVolume.Room := by
  refine ⟨serverFiles.length, fun i hi => ?_⟩
  change (serverFiles[i]?).map _ = none
  rw [List.getElem?_eq_none hi]
  rfl

end PromptEncryption.Server
