import ResourceLocks.Session.Settle

/-!
# What commands do

`Session.perform` carries out one command. An act of a thread may make a call of the protocol; the
session settles then, a call that has not returned goes on in the background, and the thread is
busy until it returns. The three commands that are not acts are about a thread that may be busy.

The first use of a name for a thread starts the thread, except that nobody waits for a thread that
was never named.
-/

namespace ResourceLocks.Session

open Protocol

variable {b : Backing} {K : Type} [Key K]

/-! ## Outcomes of calls -/

/-- The outcome of the task that a worker has ended since the last report, or that it waits. -/
def collect (s : Session b K) (name : String) : Outcome K × Session b K :=
  match s.finished.find? fun e => e.1 = name with
  | some (_, o) => (o, { s with finished := s.finished.filter fun e => e.1 ≠ name })
  | none => (.waiting, s)

/-- A call made and followed until the session is at rest. -/
def follow (s : Session b K) (name : String) (w : Worker K) (c : Call K)
    (keep : Option (String × Half) := none) : Outcome K × Session b K :=
  (s.call name w c (.calling keep)).settle.collect name

/-- All guards of a worker dropped in the order of their names, and then an ending. -/
def dropGuards (s : Session b K) (name : String) (w : Worker K) (ending : Ending K) :
    Outcome K × Session b K :=
  (s.dropAll name { w with guards := .empty } ending w.guards.values).settle.collect name

/-! ## Commands on providers, halves and guards -/

/-- A provider with a new registry. -/
def newProvider (s : Session b K) (name : String) (settings : Settings) : Session b K :=
  { s with
    layout := { s.layout with settings := s.layout.settings.set s.registryCount settings }
    providers := s.providers.insert name s.registryCount
    founders := s.founders.insert name s.registryCount
    registryCount := s.registryCount + 1 }

/-- A new lock over the resources of a request, or the failure to arrange them. -/
def newLock (s : Session b K) (w : Worker K) (g : RegistryId) (name : String)
    (request : List (Option K)) : Outcome K × Session b K :=
  if s.armed && s.fragile && b.comparesOthers (request.filterMap id) then
    (.panicked .comparison, { s with armed := false })
  else
    let plan : LockPlan K := ⟨g, .ofOptions b request⟩
    (.lock plan,
      { s with
        layout := { s.layout with locks := s.layout.locks.set s.lockCount plan }
        state := s.state.note w.id (.created s.lockCount)
        locks := s.locks.insert name s.lockCount
        lockCount := s.lockCount + 1 })

/-- A provider used. -/
def useProvider (s : Session b K) (name : String) (w : Worker K) (g : RegistryId) :
    ProviderUse K → Outcome K × Session b K
  | .clone other =>
    (.provider (s.layout.settings.get g), { s with providers := s.providers.insert other g })
  | .newLock lock (some request) => s.newLock w g lock request
  | .status (some r) => s.follow name w (.ask (.status g r))
  | .isExclusiveFree (some rs) => s.follow name w (.ask (.isExclusiveFree g rs))
  | .isSharedFree (some rs) => s.follow name w (.ask (.isSharedFree g rs))
  | .counts => s.follow name w (.ask (.counts g))
  | .newLock _ none => (.complaint .resources, s)
  | .status none | .isExclusiveFree none | .isSharedFree none => (.complaint .command, s)

/-- One half of a lock used. -/
def useHalf (s : Session b K) (name : String) (w : Worker K) (h : Half) :
    HalfUse → Outcome K × Session b K
  | .acquire entry guardName inBackground =>
    let s := (s.call name w (.acquire h entry) (.calling (some (guardName, h)))).settle
    (if inBackground then s else s.waitFor name).collect name
  | .unlock => s.follow name w (.unlock h)
  | .isHeld => s.follow name w (.ask (.isHeld h))
  | .state =>
    match s.follow name w (.ask (.isHeld h)) with
    | (.reply (.answer held), s) => (.state (.ofHeld held), s)
    | other => other
  | .newCondition => (.failed .conditionUnsupported, s)
  | .describe => (.half (s.layout.locks.get h.lock) h.kind, s)

/-- A guard used. -/
def useGuard (s : Session b K) (name : String) (w : Worker K) (guardName : String) (h : Half) :
    GuardUse → Outcome K × Session b K
  | .drop => s.follow name { w with guards := w.guards.erase guardName } (.dropGuard h)
  | .unlock => s.follow name { w with guards := w.guards.erase guardName } (.unlock h)
  | .unlockHalf => s.follow name w (.unlock h)
  | .describe => (.guard (s.layout.locks.get h.lock) h.kind, s)

/-! ## All commands -/

/-- An act of a thread that is not busy. -/
def enact (s : Session b K) (name : String) (w : Worker K) : Act K → Outcome K × Session b K
  | .newProvider provider config =>
    match Settings.ofConfig (config.getD {}) with
    | .error e => (.failed e, s)
    | .ok settings => (.provider settings, s.newProvider provider settings)
  | .withProvider provider use =>
    match s.providers.get? provider with
    | none => (.complaint .provider, s)
    | some g => s.useProvider name w g use
  | .withHalf lock kind use =>
    match s.locks.get? lock, kind, use with
    | none, _, _ => (.complaint .lock, s)
    | some _, none, _ => (.complaint .kind, s)
    | some _, some _, none => (.complaint .command, s)
    | some l, some kind, some use => s.useHalf name w ⟨l, kind⟩ use
  | .withGuard guardName use =>
    match w.guards.get? guardName with
    | none => (.complaint .guard, s)
    | some h => s.useGuard name w guardName h use
  | .interruptSelf => (.done, { s with state := s.state.setInterrupted w.id true })
  | .isSelfInterrupted => (.answer (s.state.isInterrupted w.id), s)
  | .takeInterrupt =>
    (.answer (s.state.isInterrupted w.id), { s with state := s.state.setInterrupted w.id false })
  | .isSelf target => (.answer (target = name), (s.summon target).1)
  | .panic => s.dropGuards name w (.report (.panicked .scripted))
  | .respawn => s.dropGuards name w .respawn
  | .setWire armed => (.answer s.armed, { s with armed })

/-- A command carried out. -/
def perform (s : Session b K) : Command K → Outcome K × Session b K
  | .act name a =>
    let (s, w) := s.summon name
    if w.task.isSome then (.busy, s) else s.enact name w a
  | .interrupt target awaited =>
    let (s, w) := s.summon target
    let s := { s with state := s.state.setInterrupted w.id true }
    (.done, if awaited then s.waitFor target else s)
  | .isInterrupted target =>
    let (s, w) := s.summon target
    (.answer (s.state.isInterrupted w.id), s)
  | .await target =>
    match s.workers.get? target with
    | none => (.complaint .thread, s)
    | some _ => (.done, s.waitFor target)

/-- One step of a session: what was reported before is forgotten, and a command carried out. -/
def step (s : Session b K) (c : Command K) : Outcome K × Session b K :=
  { s with finished := [], state := { s.state with log := [] } }.perform c

/-! ## Views of a session -/

/-- The names of the threads that wait for a call to return, in the order of the names. -/
def waiting (s : Session b K) : List String :=
  (s.workers.entries.filter fun e => e.2.task.isSome).map Prod.fst

/-- For every provider that has a registry of its own, the resources of its locks that are not
available, with their statuses as a thread sees them that owns nothing. -/
def taken (s : Session b K) : List (String × List (K × ResourceStatus)) :=
  s.founders.entries.map fun (name, g) =>
    (name, (s.resourcesOf g).filterMap fun r =>
      let status := (s.state.registries.get g).status r s.bearers.length
      if status.isAvailable then none else some (r, status))

/-- The events since the last report, by the name of the thread, in the order they happened. -/
def events (s : Session b K) : Names (List Event) :=
  s.state.log.foldl (fun es e =>
    let name := s.nameOf e.thread
    es.insert name (e.event :: (es.get? name).getD [])) .empty

end ResourceLocks.Session
