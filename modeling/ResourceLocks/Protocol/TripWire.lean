import ResourceLocks.Protocol.Step

/-!
# A comparison that fails

The order of the keys is code of the caller's, and may fail. A **trip wire** makes it fail once: the
first comparison of two different keys ends the call of the thread that makes it.

Only the sorted backing compares keys. A search goes through the keys of a ledger in ascending
order up to the first that is not smaller, so it compares different keys exactly when the ledger's
first key is another one than the key searched for (`Ledger.comparesOthers`).

`State.trip?` is the state in which such a call ends instead of taking its next step. The thread
leaves every monitor it is inside. Resources are handled one by one, so those before the failing
one stay recorded or cleared, and nobody is notified. Only a claim that is complete is withdrawn,
and that is written to the log.
-/

namespace ResourceLocks

variable {b : Backing} {K V : Type} [Key K]

/-! ## Searches that compare different keys -/

/-- The search for a key compares it with another key. -/
def Ledger.comparesOthers (l : Ledger b K V) (k : K) : Bool :=
  match b, l.keys with
  | .sorted, a :: _ => decide (a ≠ k)
  | _, _ => false

/-- The arrangement of a request compares different keys: sorting cannot order them otherwise. -/
def Backing.comparesOthers (b : Backing) (ks : List K) : Bool :=
  match b, ks with
  | .sorted, a :: ks => ks.any fun k => decide (k ≠ a)
  | _, _ => false

namespace Protocol.Registry

/-- The search for a resource in the ledger of a monitor compares it with another one. -/
def comparesOthers (g : Registry b K) (m : Monitor) (r : K) : Bool :=
  match m with
  | .owner => g.owners.comparesOthers r
  | .holder => g.holders.comparesOthers r

/-- The test whether resources are free compares different ones before it is decided. -/
def testTrips (g : Registry b K) (m : Monitor) : List K → Bool
  | [] => false
  | r :: rs => g.comparesOthers m r || (g.isFree m [r] && g.testTrips m rs)

/-- A change made for one resource after the other, up to the first whose search compares it with
another one; `none` if there is no such resource. -/
def tripAmong (m : Monitor) (change : Registry b K → K → Registry b K) (g : Registry b K) :
    List K → Option (Registry b K)
  | [] => none
  | r :: rs => if g.comparesOthers m r then some g else tripAmong m change (change g r) rs

/-- The registry with an acquisition recorded up to the resource at which a comparison fails. -/
def recordTrip? (g : Registry b K) (m : Monitor) (rs : List K) (t : ThreadId) :
    Option (Registry b K) :=
  g.tripAmong m (fun g r => g.record m [r] t) rs

/-- The registry with an acquisition cleared up to the resource at which a comparison fails. -/
def clearTrip? (g : Registry b K) (m : Monitor) (rs : List K) (t : ThreadId) :
    Option (Registry b K) :=
  g.tripAmong m (fun g r => g.clear m [r] t) rs

end Protocol.Registry

namespace Protocol.State

/-! ## Calls that end -/

/-- The call of a thread ended outside all monitors. -/
def abandon (s : State b K) (t : ThreadId) : State b K := s.setActivity t (.ready none)

/-- The ending of a writer's call at its test for readers: it leaves the holder monitor and
withdraws its claim. -/
def abandonDraining (L : Layout K) (s : State b K) (t : ThreadId) (h : Half) : State b K :=
  let g := L.registry h
  let s := (s.exit g .holder).note t (.rolledBack h true)
  let s := s.setRegistry g ((s.registries.get g).clear .owner (L.resources h).items t)
  (s.notifyAll L g .owner).abandon t

/-- The ending of an acquisition whose next step compares different keys. -/
def acquireTrip? (L : Layout K) (s : State b K) (t : ThreadId) (a : Acquisition)
    (stage : AcquireStage) : Option (State b K) :=
  let g := L.registry a.half
  let r := s.registries.get g
  let rs := (L.resources a.half).items
  match stage with
  | .testing .owner =>
    if r.testTrips .owner rs then some ((s.exit g .owner).abandon t) else none
  | .testing .holder =>
    if r.testTrips .holder rs then some (s.abandonDraining L t a.half) else none
  | .recordingIn .owner =>
    (r.recordTrip? .owner rs t).map fun r => ((s.setRegistry g r).exit g .owner).abandon t
  | .recordingIn .holder =>
    (r.recordTrip? .holder rs t).map fun r =>
      (((s.setRegistry g r).exit g .holder).exit g .owner).abandon t
  | .unclaiming _ =>
    (r.clearTrip? .owner rs t).map fun r => ((s.setRegistry g r).exit g .owner).abandon t
  | _ => none

/-- The ending of a release whose next step compares different keys. -/
def releaseTrip? (L : Layout K) (s : State b K) (t : ThreadId) (r : Release)
    (stage : ReleaseStage) : Option (State b K) :=
  let g := L.registry r.half
  let m := Monitor.ofKind r.half.kind
  match stage with
  | .clearing =>
    ((s.registries.get g).clearTrip? m (L.resources r.half).items t).map fun r =>
      ((s.setRegistry g r).exit g m).abandon t
  | _ => none

/-- The ending of a question whose next step compares different keys. -/
def queryTrip? (s : State b K) (t : ThreadId) (q : Query K) (stage : QueryStage) :
    Option (State b K) :=
  match q, stage with
  | .status g r, .reading =>
    let registry := s.registries.get g
    if registry.comparesOthers .holder r || registry.comparesOthers .owner r then
      some (((s.exit g .holder).exit g .owner).abandon t)
    else none
  | .isExclusiveFree g rs, .reading =>
    if (s.registries.get g).testTrips .owner rs then some ((s.exit g .owner).abandon t) else none
  | .isSharedFree g rs, .reading =>
    if (s.registries.get g).testTrips .holder rs then some ((s.exit g .holder).abandon t) else none
  | _, _ => none

/-- The state in which the call of a thread ends if its next step compares different keys and the
comparison fails. -/
def trip? (L : Layout K) (s : State b K) (t : ThreadId) : Option (State b K) :=
  match s.activity t with
  | .ready _ => none
  | .acquiring a stage => s.acquireTrip? L t a stage
  | .releasing r stage => s.releaseTrip? L t r stage
  | .asking q stage => s.queryTrip? t q stage

end Protocol.State

end ResourceLocks
