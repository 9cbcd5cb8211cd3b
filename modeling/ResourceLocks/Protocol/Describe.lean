import ResourceLocks.Describe
import ResourceLocks.Protocol.State

/-!
# Descriptions of providers, locks and guards, and the wording of the log

Each is written out field by field. The identity of a lock is not part of its plan; whoever asks
for a description says how it is to be shown.
-/

namespace ResourceLocks.Protocol

variable {K : Type} [Key K] [Describe K]

/-- A provider with its backing and its settings. -/
def describeProvider (b : Backing) (settings : Settings) : String :=
  "LockProvider \x7b backing: " ++ Text.quote b.name
    ++ ", config: " ++ settings.toConfig.describe ++ " \x7d"

namespace LockPlan

/-- A lock with its identity and its resources. -/
def describe (p : LockPlan K) (id : String) : String :=
  "MultiReadWriteLock \x7b id: " ++ id ++ ", resources: " ++ p.resources.describe ++ " \x7d"

/-- One half of a lock with its identity, its kind and its resources. -/
def describeHalf (p : LockPlan K) (id : String) (kind : Kind) : String :=
  "MultiLock \x7b id: " ++ id ++ ", kind: " ++ kind.describe
    ++ ", resources: " ++ p.resources.describe ++ " \x7d"

/-- A guard of one half of a lock. -/
def describeGuard (p : LockPlan K) (id : String) (kind : Kind) : String :=
  "MultiLockGuard \x7b lock: " ++ p.describeHalf id kind ++ " \x7d"

omit [Describe K] in
/-- One half of a lock in short. -/
def titleHalf (p : LockPlan K) (kind : Kind) : String :=
  "MultiLock[" ++ kind.name ++ ": " ++ toString p.resources.size ++ " resources]"

omit [Describe K] in
/-- A guard in short. -/
def titleGuard (p : LockPlan K) (kind : Kind) : String :=
  "Guard[" ++ p.titleHalf kind ++ "]"

end LockPlan

namespace Event

/-- How important an event is. -/
def level : Event → String
  | created _ | finished .. | released _ => "DEBUG"
  | rolledBack .. | guardFailed _ => "WARN"

/-- What an event says. -/
def message : Event → String
  | created _ => "Created multi-resource lock"
  | finished .. => "Lock acquisition finished"
  | released _ => "Lock released"
  | rolledBack .. => "Rolling back exclusive claim after failed drain"
  | guardFailed _ => "Guard drop failed to unlock"

end Event

end ResourceLocks.Protocol
