import Mathlib.Data.Option.Basic
import ResourceLocks.Proofs.Ledger.Likeness
import ResourceLocks.Proofs.Protocol.Run
import ResourceLocks.Protocol.Describe

/-!
# The backing changes no behaviour

A program asks for registries and locks without saying how they are stored (`Request`). Under one
backing the resources of a lock come in the order of the request, under the other in ascending
order, and the ledgers keep their entries accordingly. Nothing that happens depends on it: of two
programs that differ in the backing only, everything that one can do the other can do as well, and
after it every thread does the same, knows the same and has been told the same
(`State.run?_backings`).

The proof follows the protocol step by step (`State.Matches.next?`). What has to agree between the
two layouts is which resources a half covers, not how they are listed (`Layout.Alike`); what has to
agree between the two states is what is found in every ledger, and all the rest outright
(`State.Matches`).
-/

namespace ResourceLocks.Protocol

variable {b b' : Backing} {K : Type} [Key K]

/-! ## Programs without a backing -/

/-- What is asked for when a lock is made. Identifiers may be missing. -/
structure Request (K : Type) where
  /-- The registry. -/
  registry : RegistryId
  /-- The identifiers, in any order and with any repetitions. -/
  keys : List (Option K)

/-- The layout of what is asked for, under a backing. -/
def Layout.ofRequests (b : Backing) (settings : Table RegistryId Settings)
    (requests : Table LockId (Request K)) : Layout K where
  settings := settings
  locks := requests.map fun q => ⟨q.registry, .ofOptions b q.keys⟩

/-- Two layouts that differ at most in the order in which they list the resources of a lock. -/
structure Layout.Alike (L L' : Layout K) : Prop where
  /-- The settings are the same. -/
  settings : L'.settings = L.settings
  /-- A half belongs to the same registry. -/
  registry : ∀ h, L'.registry h = L.registry h
  /-- A half covers the same resources. -/
  resources : ∀ h r, r ∈ (L.resources h).items ↔ r ∈ (L'.resources h).items

section ofRequests

variable (settings : Table RegistryId Settings) (requests : Table LockId (Request K))

/-- A half covers the resources that its lock was requested for. -/
theorem Layout.mem_resources_ofRequests {h : Half} {r : K} :
    r ∈ (Layout.ofRequests b settings requests).resources h ↔
      some r ∈ (requests.get h.lock).keys := by
  simp [ofRequests, resources]

/-- The backing only orders the resources of a lock. -/
theorem Layout.alike_ofRequests :
    (Layout.ofRequests b settings requests).Alike (Layout.ofRequests b' settings requests) where
  settings := rfl
  registry h := by
    simp [ofRequests, registry]
  resources h r := by
    rw [← ResourceSet.mem_def, ← ResourceSet.mem_def, mem_resources_ofRequests,
      mem_resources_ofRequests]

end ofRequests

/-- A request with a missing and a repeated identifier under the two backings. -/
example : ((Layout.ofRequests .hash (.const .standard)
      (.const ⟨0, [some 3, none, some 1, some 3]⟩)).resources ⟨0, .read⟩).items = [3, 1] ∧
    ((Layout.ofRequests .sorted (.const .standard)
      (.const ⟨0, [some 3, none, some 1, some 3]⟩)).resources ⟨0, .read⟩).items = [1, 3] := by
  decide

/-- Halves of layouts that are alike list their resources in permuted orders. -/
theorem Layout.Alike.perm {L L' : Layout K} (layouts : L.Alike L') (h : Half) :
    (L.resources h).items.Perm (L'.resources h).items :=
  (List.perm_ext_iff_of_nodup (L.resources h).nodup (L'.resources h).nodup).2
    (layouts.resources h)

/-! ## Registries -/

/-- The same is found in the ledgers of both registries, and the same threads are inside. -/
structure Registry.Alike (g : Registry b K) (g' : Registry b' K) : Prop where
  /-- Every resource has the same owner. -/
  owners : g.owners.Alike g'.owners
  /-- Every resource has the same counts. -/
  holders : g.holders.Alike g'.holders
  /-- The same thread is inside each monitor. -/
  inside : ∀ m, g'.inside m = g.inside m

namespace Registry.Alike

variable {g : Registry b K} {g' : Registry b' K} {rs rs' : List K}

/-- Registries stay alike when the same thread is put inside a monitor. -/
theorem setInside (alike : g.Alike g') (m : Monitor) (who : Option ThreadId) :
    (g.setInside m who).Alike (g'.setInside m who) := by
  obtain ⟨owners, holders, inside⟩ := alike
  cases m with
  | owner =>
    refine ⟨owners, holders, fun m => ?_⟩
    cases m with
    | owner => rfl
    | holder => exact inside .holder
  | holder =>
    refine ⟨owners, holders, fun m => ?_⟩
    cases m with
    | owner => exact inside .owner
    | holder => rfl

/-- The same resources are free in registries that are alike. -/
theorem isFree_eq (alike : g.Alike g') (same : ∀ r, r ∈ rs ↔ r ∈ rs') (m : Monitor) :
    g.isFree m rs = g'.isFree m rs' := by
  cases m with
  | owner => exact Owners.isFree_eq alike.owners same
  | holder => exact Holders.isFree_eq alike.holders same

/-- Registries stay alike when the same acquisition is recorded. -/
theorem record (alike : g.Alike g') (same : ∀ r, r ∈ rs ↔ r ∈ rs') (nodup : rs.Nodup)
    (nodup' : rs'.Nodup) (m : Monitor) (t : ThreadId) :
    (g.record m rs t).Alike (g'.record m rs' t) := by
  obtain ⟨owners, holders, inside⟩ := alike
  cases m with
  | owner => exact ⟨Owners.alike_claim owners same t, holders, inside⟩
  | holder => exact ⟨owners, Holders.alike_hold holders same nodup nodup' t, inside⟩

/-- Registries stay alike when the same acquisition is cleared. -/
theorem clear (alike : g.Alike g') (same : ∀ r, r ∈ rs ↔ r ∈ rs') (nodup : rs.Nodup)
    (nodup' : rs'.Nodup) (m : Monitor) (t : ThreadId) :
    (g.clear m rs t).Alike (g'.clear m rs' t) := by
  obtain ⟨owners, holders, inside⟩ := alike
  cases m with
  | owner => exact ⟨Owners.alike_withdraw owners same, holders, inside⟩
  | holder => exact ⟨owners, Holders.alike_release holders same nodup nodup' t, inside⟩

/-- Resources have the same statuses in registries that are alike. -/
theorem status_eq (alike : g.Alike g') (r : K) (me : ThreadId) :
    g.status r me = g'.status r me := by
  rw [status, status, alike.owners r, Holders.holdsOn_eq alike.holders]

/-- Registries that are alike have the same counts. -/
theorem counts_eq (alike : g.Alike g') : g.counts = g'.counts := by
  unfold counts
  rw [alike.owners.size_eq, alike.holders.size_eq, Holders.totalHolds, Holders.totalHolds,
    alike.holders.sumBy_eq]

end Registry.Alike

/-! ## States -/

namespace State

/-- The registries of two states are alike, and all else is the same. -/
structure Matches (s : State b K) (s' : State b' K) : Prop where
  /-- The registries are alike. -/
  registries : ∀ g, (s.registries.get g).Alike (s'.registries.get g)
  /-- The same threads hold every half, and are inside its mutex. -/
  holds : s'.holds = s.holds
  /-- Every thread does the same, has the same flag and got the same reply. -/
  threads : s'.threads = s.threads
  /-- The same events were logged. -/
  log : s'.log = s.log
  /-- The clock shows the same. -/
  now : s'.now = s.now

/-- At the start the states match. -/
theorem matches_initial : (initial : State b K).Matches (initial : State b' K) := by
  refine ⟨fun g => ⟨fun r => ?_, fun r => ?_, fun m => ?_⟩, rfl, rfl, rfl, rfl⟩
  · simp [initial]
  · simp [initial]
  · cases m <;> rfl

namespace Matches

variable {L L' : Layout K} {s : State b K} {s' : State b' K}

/-- In states that match every thread does the same. -/
theorem activity_eq (same : s.Matches s') (t : ThreadId) : s'.activity t = s.activity t := by
  rw [activity, activity, same.threads]

/-- In states that match every interrupt flag is the same. -/
theorem isInterrupted_eq (same : s.Matches s') (t : ThreadId) :
    s'.isInterrupted t = s.isInterrupted t := by
  rw [isInterrupted, isInterrupted, same.threads]

/-- In states that match the same threads hold the same halves. -/
theorem isHeldBy_iff (same : s.Matches s') (h : Half) (t : ThreadId) :
    s'.IsHeldBy h t ↔ s.IsHeldBy h t := by
  rw [IsHeldBy, IsHeldBy, same.holds]

/-- **Every question is answered alike.** -/
theorem answer_eq (same : s.Matches s') (t : ThreadId) (q : Query K) :
    s'.answer t q = s.answer t q := by
  cases q with
  | status g r => exact congrArg Reply.status ((same.registries g).status_eq r t).symm
  | isExclusiveFree g rs =>
    exact congrArg Reply.answer ((same.registries g).isFree_eq (fun _ => Iff.rfl) .owner).symm
  | isSharedFree g rs =>
    exact congrArg Reply.answer ((same.registries g).isFree_eq (fun _ => Iff.rfl) .holder).symm
  | counts g => exact congrArg Reply.counts (same.registries g).counts_eq.symm
  | isHeld h => simp only [answer, same.isHeldBy_iff]

/-! ### Changes to one part -/

/-- States still match when a thread goes on in the same way. -/
theorem setActivity (same : s.Matches s') (t : ThreadId) (A : Activity K) :
    (s.setActivity t A).Matches (s'.setActivity t A) := by
  obtain ⟨registries, holds, threads, log, now⟩ := same
  refine ⟨registries, holds, ?_, log, now⟩
  simp only [State.setActivity, threads]

/-- States still match when the same flag is set or cleared. -/
theorem setInterrupted (same : s.Matches s') (t : ThreadId) (f : Bool) :
    (s.setInterrupted t f).Matches (s'.setInterrupted t f) := by
  obtain ⟨registries, holds, threads, log, now⟩ := same
  refine ⟨registries, holds, ?_, log, now⟩
  simp only [State.setInterrupted, threads]

/-- States still match when registries are changed that stay alike. -/
theorem setRegistry (same : s.Matches s') (g : RegistryId) {r : Registry b K} {r' : Registry b' K}
    (alike : r.Alike r') : (s.setRegistry g r).Matches (s'.setRegistry g r') := by
  obtain ⟨registries, holds, threads, log, now⟩ := same
  refine ⟨fun g' => ?_, holds, threads, log, now⟩
  simp only [State.setRegistry, Table.get_set]
  split
  · exact alike
  · exact registries g'

/-- States still match when the same monitor is left. -/
theorem exit (same : s.Matches s') (g : RegistryId) (m : Monitor) :
    (s.exit g m).Matches (s'.exit g m) :=
  same.setRegistry g ((same.registries g).setInside m none)

/-- States still match when the same hold set is changed. -/
theorem setHolds (same : s.Matches s') (h : Half) (hs : HoldSet) :
    (s.setHolds h hs).Matches (s'.setHolds h hs) := by
  obtain ⟨registries, holds, threads, log, now⟩ := same
  refine ⟨registries, ?_, threads, log, now⟩
  simp only [State.setHolds, holds]

/-- States still match when the same event is logged. -/
theorem note (same : s.Matches s') (t : ThreadId) (e : Event) :
    (s.note t e).Matches (s'.note t e) := by
  obtain ⟨registries, holds, threads, log, now⟩ := same
  refine ⟨registries, holds, threads, ?_, now⟩
  simp only [State.note, log]

/-- States still match when the sleepers of the same monitor are notified. -/
theorem notifyAll (same : s.Matches s') (layouts : L.Alike L') (g : RegistryId) (m : Monitor) :
    (s.notifyAll L g m).Matches (s'.notifyAll L' g m) := by
  obtain ⟨registries, holds, threads, log, now⟩ := same
  refine ⟨registries, holds, ?_, log, now⟩
  have hnotify : (Thread.notify L' g m : Thread K → Thread K) = Thread.notify L g m := by
    funext th
    simp only [Thread.notify, layouts.registry]
  simp only [State.notifyAll, threads, hnotify]

/-- States still match when the same mutex is left. -/
theorem exitMutex (same : s.Matches s') (h : Half) (hs : HoldSet) :
    (s.exitMutex h hs).Matches (s'.exitMutex h hs) :=
  same.setHolds h _

/-- States still match when the same acquisition is cleared and its sleepers are notified. -/
theorem clear (same : s.Matches s') (layouts : L.Alike L') (h : Half) (m : Monitor)
    (t : ThreadId) :
    ((s.setRegistry (L.registry h)
        ((s.registries.get (L.registry h)).clear m (L.resources h).items t)).notifyAll L
          (L.registry h) m).Matches
      ((s'.setRegistry (L.registry h)
        ((s'.registries.get (L.registry h)).clear m (L'.resources h).items t)).notifyAll L'
          (L.registry h) m) := by
  have alike := (same.registries (L.registry h)).clear (layouts.resources h)
    (L.resources h).nodup (L'.resources h).nodup m t
  exact (same.setRegistry (L.registry h) alike).notifyAll layouts (L.registry h) m

/-! ### Steps

A step that one program can take the other can take as well, and the states after it match. -/

/-- The same monitor can be entered in states that match. -/
theorem enter? (same : s.Matches s') (g : RegistryId) (m : Monitor) (t : ThreadId) :
    Option.Rel Matches (s.enter? g m t) (s'.enter? g m t) := by
  unfold State.enter?
  rw [(same.registries g).inside m]
  cases (s.registries.get g).inside m with
  | none => exact .some (same.setRegistry g ((same.registries g).setInside m (some t)))
  | some u => exact .none

/-- The same mutex can be entered in states that match. -/
theorem enterMutex? (same : s.Matches s') (h : Half) (t : ThreadId) :
    Option.Rel Matches (s.enterMutex? h t) (s'.enterMutex? h t) := by
  unfold State.enterMutex?
  rw [same.holds]
  cases (s.holds.get h).mutex with
  | none => exact .some (same.setHolds h _)
  | some u => exact .none

/-- What is done after a move that both programs can make. -/
theorem then_setActivity {x : Option (State b K)} {y : Option (State b' K)}
    (moves : Option.Rel Matches x y) (t : ThreadId) (A : Activity K) :
    Option.Rel Matches (x.map (·.setActivity t A)) (y.map (·.setActivity t A)) := by
  cases moves with
  | none => exact .none
  | some same => exact .some (same.setActivity t A)

/-- An acquisition takes the same step in states that match. -/
theorem acquireStep? (same : s.Matches s') (layouts : L.Alike L') (t : ThreadId) (a : Acquisition)
    (stage : AcquireStage) :
    Option.Rel Matches (s.acquireStep? L t a stage) (s'.acquireStep? L' t a stage) := by
  have hregistry := layouts.registry a.half
  have halike := same.registries (L.registry a.half)
  have hresources := layouts.resources a.half
  cases stage with
  | begin | joining => exact then_setActivity (same.enterMutex? a.half t) t _
  | looking =>
    simp only [State.acquireStep?, same.isHeldBy_iff, same.holds]
    split <;> exact .some ((same.exitMutex a.half _).setActivity t _)
  | approaching m | taken m =>
    simp only [State.acquireStep?, same.isInterrupted_eq]
    split
    · exact .some ((same.setInterrupted t false).setActivity t _)
    · exact .some (same.setActivity t _)
  | entering m =>
    simp only [State.acquireStep?, hregistry]
    have henter := same.enter? (L.registry a.half) m t
    generalize s.enter? (L.registry a.half) m t = x at henter
    generalize s'.enter? (L.registry a.half) m t = y at henter
    cases henter with
    | some entered => exact .some (entered.setActivity t _)
    | none =>
      dsimp only
      split
      · exact .some (same.setActivity t _)
      · exact .none
  | testing m =>
    simp only [State.acquireStep?, hregistry, halike.isFree_eq hresources]
    exact .some (same.setActivity t _)
  | settling m =>
    simp only [State.acquireStep?, Layout.interval, layouts.settings, hregistry, same.now]
    split
    · exact .some (same.setActivity t _)
    · exact .some ((same.exit _ m).setActivity t _)
  | asleep m notified wakeAt =>
    simp only [State.acquireStep?]
    split
    · exact .some (same.setActivity t _)
    · exact .none
  | woken m =>
    simp only [State.acquireStep?, hregistry]
    exact then_setActivity (same.enter? _ m t) t _
  | returning v =>
    simp only [State.acquireStep?, hregistry]
    exact then_setActivity (same.enter? _ .owner t) t _
  | recordingIn m =>
    simp only [State.acquireStep?, hregistry]
    have hrecord := halike.record hresources (L.resources a.half).nodup
      (L'.resources a.half).nodup m t
    exact .some ((same.setRegistry _ hrecord).setActivity t _)
  | claimed =>
    simp only [State.acquireStep?, hregistry]
    exact .some ((same.exit _ .owner).setActivity t _)
  | leaving m v =>
    simp only [State.acquireStep?, hregistry]
    exact .some ((same.exit _ m).setActivity t _)
  | withdrawing v => exact .some ((same.note t _).setActivity t _)
  | unclaiming v =>
    simp only [State.acquireStep?, hregistry]
    exact .some ((same.clear layouts a.half .owner t).setActivity t _)
  | noting =>
    simp only [State.acquireStep?, same.holds]
    exact .some ((same.exitMutex a.half _).setActivity t _)
  | concluding v =>
    cases v with
    | acquired | refused => exact .some ((same.note t _).setActivity t _)
    | interrupted => exact .some (same.setActivity t _)

/-- A release takes the same step in states that match. -/
theorem releaseStep? (same : s.Matches s') (layouts : L.Alike L') (t : ThreadId) (r : Release)
    (stage : ReleaseStage) :
    Option.Rel Matches (s.releaseStep? L t r stage) (s'.releaseStep? L' t r stage) := by
  have hregistry := layouts.registry r.half
  cases stage with
  | begin => exact then_setActivity (same.enterMutex? r.half t) t _
  | looking =>
    simp only [State.releaseStep?, same.isHeldBy_iff, same.holds]
    split
    · exact .some ((same.exitMutex r.half _).setActivity t _)
    · split
      · exact .some (((same.exitMutex r.half _).note t _).setActivity t _)
      · exact .some ((same.exitMutex r.half _).setActivity t _)
  | entering =>
    simp only [State.releaseStep?, hregistry]
    exact then_setActivity (same.enter? _ _ t) t _
  | clearing =>
    simp only [State.releaseStep?, hregistry]
    exact .some ((same.clear layouts r.half _ t).setActivity t _)
  | leaving =>
    simp only [State.releaseStep?, hregistry]
    exact .some ((same.exit _ _).setActivity t _)
  | concluding => exact .some ((same.note t _).setActivity t _)

/-- A question takes the same step in states that match. -/
theorem queryStep? (same : s.Matches s') (t : ThreadId) (q : Query K) (stage : QueryStage) :
    Option.Rel Matches (s.queryStep? t q stage) (s'.queryStep? t q stage) := by
  have hanswer := same.answer_eq t q
  cases q with
  | status g r | counts g =>
    cases stage with
    | begin => exact then_setActivity (same.enter? g .owner t) t _
    | descending => exact then_setActivity (same.enter? g .holder t) t _
    | reading =>
      simp only [State.queryStep?, hanswer]
      exact .some (same.setActivity t _)
    | leavingHolder a => exact .some ((same.exit g .holder).setActivity t _)
    | leavingOwner a => exact .some ((same.exit g .owner).setActivity t _)
  | isExclusiveFree g rs =>
    cases stage with
    | begin => exact then_setActivity (same.enter? g .owner t) t _
    | reading =>
      simp only [State.queryStep?, hanswer]
      exact .some (same.setActivity t _)
    | leavingOwner a => exact .some ((same.exit g .owner).setActivity t _)
    | _ => exact .none
  | isSharedFree g rs =>
    cases stage with
    | begin => exact then_setActivity (same.enter? g .holder t) t _
    | reading =>
      simp only [State.queryStep?, hanswer]
      exact .some (same.setActivity t _)
    | leavingHolder a => exact .some ((same.exit g .holder).setActivity t _)
    | _ => exact .none
  | isHeld h =>
    cases stage with
    | begin => exact then_setActivity (same.enterMutex? h t) t _
    | reading =>
      simp only [State.queryStep?, hanswer, same.holds]
      exact .some ((same.exitMutex h _).setActivity t _)
    | _ => exact .none

/-- Every thread takes the same step in states that match. -/
theorem step? (same : s.Matches s') (layouts : L.Alike L') (t : ThreadId) :
    Option.Rel Matches (s.step? L t) (s'.step? L' t) := by
  unfold State.step?
  rw [same.activity_eq]
  cases s.activity t with
  | ready last => exact .none
  | acquiring a stage => exact same.acquireStep? layouts t a stage
  | releasing r stage => exact same.releaseStep? layouts t r stage
  | asking q stage => exact same.queryStep? t q stage

/-- **Whatever happens in one program can happen in the other one**, with the same outcome. -/
theorem next? (same : s.Matches s') (layouts : L.Alike L') (α : Action K) :
    Option.Rel Matches (s.next? L α) (s'.next? L' α) := by
  cases α with
  | call t c =>
    simp only [State.next?, same.activity_eq, same.now]
    split
    · exact .some (same.setActivity t _)
    · exact .none
  | step t => exact same.step? layouts t
  | expire t =>
    simp only [State.next?, State.expire?, same.activity_eq, same.now]
    split
    · split
      · split
        · exact .some (same.setActivity t _)
        · exact .none
      · exact .none
    · exact .none
  | rouse t =>
    simp only [State.next?, State.rouse?, same.activity_eq, same.now]
    split
    · split
      · exact .some (same.setActivity t _)
      · exact .none
    · exact .none
  | interrupt t => exact .some (same.setInterrupted t true)
  | clearFlag t =>
    simp only [State.next?, same.activity_eq]
    split
    · exact .some (same.setInterrupted t false)
    · exact .none
  | pass nanos =>
    obtain ⟨registries, holds, threads, log, now⟩ := same
    refine .some ⟨registries, holds, threads, log, ?_⟩
    simp only [now]

/-- **Runs**: one program can carry out a list of actions exactly when the other one can. -/
theorem run? (same : s.Matches s') (layouts : L.Alike L') (αs : List (Action K)) :
    Option.Rel Matches (s.run? L αs) (s'.run? L' αs) := by
  induction αs generalizing s s' with
  | nil => exact .some same
  | cons α αs ih =>
    have hnext := same.next? layouts α
    unfold State.run?
    generalize s.next? L α = x at hnext
    generalize s'.next? L' α = y at hnext
    cases hnext with
    | none => exact .none
    | some same' => exact ih same'

end Matches

/-! ## Programs that differ in the backing -/

/-- No thread can tell the two programs in their states from one another, neither by what it does
and is told nor by what it could do or ask next. -/
structure Indistinguishable (L : Layout K) (s : State b K) (L' : Layout K) (s' : State b' K) :
    Prop where
  /-- Every thread is at the same point of the same call, asleep or awake, or got the same reply. -/
  activity : ∀ t, s'.activity t = s.activity t
  /-- Every interrupt flag is the same. -/
  flag : ∀ t, s'.isInterrupted t = s.isInterrupted t
  /-- The same threads hold the same halves. -/
  held : ∀ h t, s'.IsHeldBy h t ↔ s.IsHeldBy h t
  /-- The same can happen next. -/
  able : ∀ α, (s'.next? L' α).isSome = (s.next? L α).isSome
  /-- Every question would be answered alike: statuses, free lists, counts and holds. -/
  answers : ∀ t q, s'.answer t q = s.answer t q
  /-- Every resource has the same owner. -/
  owned : ∀ g r, s'.owner? g r = s.owner? g r
  /-- Every thread has as many holds on every resource. -/
  counted : ∀ g r t, s'.holdCount g r t = s.holdCount g r t
  /-- The same events were logged in the same order. -/
  log : s'.log = s.log

/-- Matching states are indistinguishable under layouts that are alike. -/
theorem Matches.indistinguishable {L L' : Layout K} {s : State b K} {s' : State b' K}
    (same : s.Matches s') (layouts : L.Alike L') : Indistinguishable L s L' s' where
  activity := same.activity_eq
  flag := same.isInterrupted_eq
  held := same.isHeldBy_iff
  able α := by
    have hnext := same.next? layouts α
    generalize s.next? L α = x at hnext
    generalize s'.next? L' α = y at hnext
    cases hnext <;> rfl
  answers := same.answer_eq
  owned g r := ((same.registries g).owners r).symm
  counted g r t := by
    rw [holdCount, holdCount, Holders.count, Holders.count, (same.registries g).holders r]
  log := same.log

/-- **The backing changes no behaviour.** Whatever registries and locks a program asks for, it can
carry out the same actions under either backing, and after them the two programs cannot be told from
one another. The halves cover the same resources in permuted orders, so that even their short
descriptions are the same. -/
theorem run?_backings (settings : Table RegistryId Settings)
    (requests : Table LockId (Request K)) (αs : List (Action K)) :
    (∀ h, ((Layout.ofRequests .hash settings requests).resources h).items.Perm
        ((Layout.ofRequests .sorted settings requests).resources h).items) ∧
      (∀ l k, ((Layout.ofRequests .sorted settings requests).locks.get l).titleHalf k =
        ((Layout.ofRequests .hash settings requests).locks.get l).titleHalf k) ∧
      Option.Rel (fun (s : State .hash K) (s' : State .sorted K) =>
          Indistinguishable (.ofRequests .hash settings requests) s
            (.ofRequests .sorted settings requests) s')
        (initial.run? (.ofRequests .hash settings requests) αs)
        (initial.run? (.ofRequests .sorted settings requests) αs) := by
  have layouts : (Layout.ofRequests .hash settings requests).Alike
      (Layout.ofRequests .sorted settings requests) := Layout.alike_ofRequests settings requests
  refine ⟨layouts.perm, fun l k => ?_, ?_⟩
  · have hsize := (layouts.perm ⟨l, k⟩).length_eq
    unfold LockPlan.titleHalf ResourceSet.size
    rw [show ((Layout.ofRequests .hash settings requests).locks.get l).resources.items.length =
      ((Layout.ofRequests .sorted settings requests).locks.get l).resources.items.length from hsize]
  · have starts : (initial : State .hash K).Matches (initial : State .sorted K) := matches_initial
    have hrun := starts.run? layouts αs
    generalize (initial : State .hash K).run? _ αs = x at hrun
    generalize (initial : State .sorted K).run? _ αs = y at hrun
    cases hrun with
    | none => exact .none
    | some same => exact .some (same.indistinguishable layouts)

end State

end ResourceLocks.Protocol
