import ResourceLocks.Protocol.TripWire
import ResourceLocks.Session.Command

/-!
# Sessions

A `Session` is a state of the protocol together with what its names stand for. Every thread has a
**worker**: its present identity, the guards it keeps, and, while it has something to do, a
**task** that says what happens when the call under way returns.

A task ends with an **ending**. Either an outcome is reported under the thread's name, or the name
goes to a new thread, whose identity was never used before, with a clear flag and no guards.
-/

namespace ResourceLocks

namespace Session

open Protocol

/-- A finite map from names, in the order of the names. -/
abbrev Names (α : Type) := Ledger .sorted String α

/-! ## Workers -/

/-- How a task ends. -/
inductive Ending (K : Type) [Key K] where
  /-- An outcome is reported. -/
  | report (o : Outcome K)
  /-- Another thread takes the name. -/
  | respawn

/-- The ending after a comparison has failed on the way to it. -/
def Ending.tripped {K : Type} [Key K] : Ending K → Ending K
  | .report _ => .report (.panicked .comparison)
  | .respawn => .respawn

/-- What happens when a call returns. -/
inductive Task (K : Type) [Key K] where
  /-- Its reply is reported; a guard is kept under the name that is given with its half. -/
  | calling (keep : Option (String × Half))
  /-- More guards are dropped, one after the other, and then the task ends. -/
  | dropping (rest : List Half) (ending : Ending K)

/-- What a session knows about a named thread. -/
structure Worker (K : Type) [Key K] where
  /-- Its identity. -/
  id : ThreadId
  /-- The guards it keeps, by name. -/
  guards : Names Half := .empty
  /-- What it has to do. -/
  task : Option (Task K) := none

/-- The number of guards that a thread keeps or is about to drop. -/
def Worker.guardCount {K : Type} [Key K] (w : Worker K) : Nat :=
  match w.task with
  | some (.dropping rest _) => w.guards.size + rest.length
  | _ => w.guards.size

end Session

/-! ## Sessions -/

open Protocol Session

/-- A state of the protocol and the meaning of names. -/
structure Session (b : Backing) (K : Type) [Key K] where
  /-- The registries and locks made so far. -/
  layout : Layout K := {}
  /-- The state of the protocol. -/
  state : State b K := .initial
  /-- The threads. -/
  workers : Names (Worker K) := .empty
  /-- The providers and their clones. -/
  providers : Names RegistryId := .empty
  /-- The providers that were made with a registry of their own. -/
  founders : Names RegistryId := .empty
  /-- The locks. -/
  locks : Names LockId := .empty
  /-- The number of registries made so far. -/
  registryCount : Nat := 0
  /-- The number of locks made so far. -/
  lockCount : Nat := 0
  /-- The names of all threads there have been, in the order of their identities. -/
  bearers : List String := []
  /-- The comparison of keys fails where the wire is armed. -/
  fragile : Bool := false
  /-- The trip wire is set. -/
  armed : Bool := false
  /-- The tasks that have ended since the last report, with their outcomes. -/
  finished : List (String × Outcome K) := []

namespace Session

variable {b : Backing} {K : Type} [Key K]

/-- The resources of all locks of a registry, ascending. -/
def resourcesOf (s : Session b K) (g : RegistryId) : List K :=
  ascending <| (List.range s.lockCount).flatMap fun l =>
    let plan := s.layout.locks.get l
    if plan.registry = g then plan.resources.items else []

/-- The name of a thread by its identity. -/
def nameOf (s : Session b K) (t : ThreadId) : String := s.bearers.getD t ""

/-- The name that stands for a lock now. -/
def lockName? (s : Session b K) (l : LockId) : Option String :=
  (s.locks.entries.find? fun e => e.2 = l).map Prod.fst

/-! ### Changes -/

/-- A worker changed. -/
def setWorker (s : Session b K) (name : String) (w : Worker K) : Session b K :=
  { s with workers := s.workers.insert name w }

/-- The name given to a new thread. -/
def spawn (s : Session b K) (name : String) : Session b K :=
  { s.setWorker name { id := s.bearers.length } with bearers := s.bearers ++ [name] }

/-- The thread of a name, which is started by its first use. -/
def summon (s : Session b K) (name : String) : Session b K × Worker K :=
  match s.workers.get? name with
  | some w => (s, w)
  | none => (s.spawn name, { id := s.bearers.length })

/-- A thread that is doing nothing makes a call and has a task for its return. -/
def call (s : Session b K) (name : String) (w : Worker K) (c : Call K) (task : Task K) :
    Session b K :=
  match s.state.next? s.layout (.call w.id c) with
  | some state => { s.setWorker name { w with task := some task } with state }
  | none => s

/-- A task ended. -/
def finish (s : Session b K) (name : String) (w : Worker K) : Ending K → Session b K
  | .report o =>
    { s.setWorker name { w with task := none } with finished := s.finished ++ [(name, o)] }
  | .respawn => { s.spawn name with finished := s.finished ++ [(name, .done)] }

/-- Guards dropped one after the other, and then an ending. -/
def dropAll (s : Session b K) (name : String) (w : Worker K) (ending : Ending K) :
    List Half → Session b K
  | [] => s.finish name w ending
  | h :: rest => s.call name w (.dropGuard h) (.dropping rest ending)

/-- A worker whose call has returned goes on; without a reply, the call has failed. -/
def resume (s : Session b K) (name : String) (w : Worker K) (task : Task K) (last : Option Reply) :
    Session b K :=
  match task, last with
  | .calling _, none => s.finish name w (.report (.panicked .comparison))
  | .calling (some (guardName, half)), some .guard =>
    let kept := { w with guards := w.guards.insert guardName half }
    s.dropAll name kept (.report (.reply .guard)) (w.guards.get? guardName).toList
  | .calling _, some r => s.finish name w (.report (.reply r))
  | .dropping rest ending, none => s.dropAll name w ending.tripped rest
  | .dropping rest ending, some _ => s.dropAll name w ending rest

end Session

end ResourceLocks
