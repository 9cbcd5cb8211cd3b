import ResourceLocks.Proofs.Protocol.Acquisition
import ResourceLocks.Proofs.Protocol.Courses
import ResourceLocks.Proofs.Protocol.Draining
import ResourceLocks.Proofs.Protocol.Standstill

/-!
# When a half is granted

A half is **grantable** (`State.Grantable`) when no write half over a resource of it is on record,
be it held, draining, or about to be withdrawn or released, and, if it is a write half itself, no
read half over one either. Other read halves do not matter to a read half. Where nobody is inside
the monitors, that decides every acquisition whose thread is on its own
(`State.Reachable.grantsExactly`):

* a half that is grantable is granted to every way of waiting, by the same effects and without a
  sleep;
* one that is not is refused to who cannot wait, with `tryLock` and with a timeout of zero alike,
  by the same effects, which leave all records as they were;
* no way of waiting ever obtains it while no other thread takes a step
  (`State.Calling.grantable_of_isHeldBy`): what stands in its way stays on record.

A thread that is inside the mutex of the hold set leaves it with its next step, and changes nothing
of this (`State.Vacates`).
-/

namespace ResourceLocks.Protocol

variable {b : Backing} {K : Type} [Key K]

namespace State

variable {L : Layout K} {s s' u v : State b K} {t w : ThreadId} {h h' : Half} {g : RegistryId}
  {r : K} {entry : EntryPoint} {αs : List (Action K)} {reply : Reply}

/-! ## Grantable halves -/

/-- A write half over the resource is on record. -/
def IsClaimed (L : Layout K) (s : State b K) (g : RegistryId) (r : K) : Prop :=
  ∃ h t, Covers L .write g r h ∧ s.OnRecord h t

/-- A read half over the resource is on record. -/
def IsShared (L : Layout K) (s : State b K) (g : RegistryId) (r : K) : Prop :=
  ∃ h t, Covers L .read g r h ∧ s.OnRecord h t

/-- Nothing that is on record stands in the way of the half. -/
def Grantable (L : Layout K) (s : State b K) (h : Half) : Prop :=
  ∀ r ∈ L.resources h, ¬ s.IsClaimed L (L.registry h) r ∧
    (h.kind = .write → ¬ s.IsShared L (L.registry h) r)

/-- A resource has an owner exactly when it is claimed. -/
theorem Invariant.owner?_eq_none_iff (inv : s.Invariant L) :
    s.owner? g r = none ↔ ¬ s.IsClaimed L g r := by
  rw [Option.eq_none_iff_forall_ne_some, IsClaimed, exists_comm, not_exists]
  exact forall_congr' fun t => (inv.owner_iff g r t).not

/-- There are holds on a resource exactly when it is shared. -/
theorem Invariant.holdCount_eq_zero_iff (inv : s.Invariant L) :
    (∀ t, s.holdCount g r t = 0) ↔ ¬ s.IsShared L g r := by
  constructor
  · rintro none ⟨h, t, covers, recorded⟩
    exact absurd (none t) (inv.holdCount_pos covers recorded).ne'
  · intro unshared t
    have count := inv.count g r t
    have empty : s.shares L g r t = ∅ :=
      Set.eq_empty_of_forall_notMem fun h mem => unshared ⟨h, t, mem⟩
    rw [empty, Set.encard_empty] at count
    exact_mod_cast count

/-- **A half is grantable exactly when its resources are free in the ledgers**, in that of owners
for a read half and in both for a write half. -/
theorem Invariant.grantable_iff (inv : s.Invariant L) :
    s.Grantable L h ↔
      (s.registries.get (L.registry h)).owners.isFree (L.resources h).items = true ∧
      (h.kind = .write →
        (s.registries.get (L.registry h)).holders.isFree (L.resources h).items = true) := by
  have unowned : (s.registries.get (L.registry h)).owners.isFree (L.resources h).items = true ↔
      ∀ r ∈ L.resources h, ¬ s.IsClaimed L (L.registry h) r := by
    rw [Owners.isFree_iff]
    exact forall₂_congr fun r _ => inv.owner?_eq_none_iff
  have unshared : (s.registries.get (L.registry h)).holders.isFree (L.resources h).items = true ↔
      ∀ r ∈ L.resources h, ¬ s.IsShared L (L.registry h) r := by
    rw [(inv.tidy _).isFree_iff]
    exact forall₂_congr fun r _ => inv.holdCount_eq_zero_iff
  rw [unowned, unshared]
  constructor
  · intro grantable
    exact ⟨fun r hr => (grantable r hr).1, fun write r hr => (grantable r hr).2 write⟩
  · rintro ⟨unclaimed, unshared⟩ r hr
    exact ⟨unclaimed r hr, fun write => unshared write r hr⟩

/-! ## What stands in the way stays there -/

/-- While no other thread takes a step, an acquisition leaves on record what is on record, its own
half apart. -/
theorem Calling.keepsRecord (calling : s.Calling L t (.acquire h entry) αs s')
    (alone : ∀ w, w ≠ t → .step w ∉ αs) (recorded : s.OnRecord h' w) (other : h' ≠ h ∨ w ≠ t) :
    s'.OnRecord h' w := by
  refine calling.induction
    (P := fun αs u => (∀ w, w ≠ t → .step w ∉ αs) → u.OnRecord h' w) ?_ ?_ alone
  · intro _
    obtain ⟨-, s₁, -, rfl, first, -⟩ := calling.start
    exact onRecord_of_next? calling.reachable.invariant first recorded nofun
  · intro αs α u v before next nocall ih alone
    have recorded' := ih fun w hw mem => alone w hw (List.mem_append_left _ mem)
    refine onRecord_of_next? before.reachable'.invariant next recorded' ?_
    rintro rfl clearing
    obtain rfl : w = t := by
      by_contra hw
      exact alone w hw (by simp)
    obtain ⟨stage, here⟩ | ⟨reply, here⟩ := before.acquiring.cases_activity
    · rw [here] at clearing
      cases stage with
      | unclaiming verdict =>
        cases clearing
        exact other.elim (absurd rfl) (absurd rfl)
      | _ => cases clearing
    · rw [here] at clearing
      cases clearing

/-- While no other thread takes a step, a half over a resource that is claimed is not put on
record. -/
theorem Calling.not_onRecord (calling : s.Calling L t (.acquire h entry) αs s')
    (alone : ∀ w, w ≠ t → .step w ∉ αs) (absent : ¬ s.IsHeldBy h t) (hr : r ∈ L.resources h)
    (covers : Covers L .write (L.registry h) r h') (recorded : s.OnRecord h' w)
    (other : h' ≠ h ∨ w ≠ t) : ¬ s'.OnRecord h t := by
  refine calling.induction
    (P := fun αs u => (∀ w, w ≠ t → .step w ∉ αs) → ¬ u.OnRecord h t) ?_ ?_ alone
  · rintro - (held | pending)
    · exact absent held
    · rw [activity_after_self] at pending
      cases pending
  · intro αs α u v before next nocall ih alone recorded'
    have alone' : ∀ w, w ≠ t → .step w ∉ αs :=
      fun w hw mem => alone w hw (List.mem_append_left _ mem)
    have inv := before.reachable'.invariant
    have absent' := ih alone'
    -- The resource has an owner before the step, so the step records nothing over it.
    have owned : u.owner? (L.registry h) r = some w :=
      (inv.owner_iff _ r w).2 ⟨h', covers, before.keepsRecord alone' recorded other⟩
    obtain ⟨e, A', mine, step, turn, rfl⟩ | bystands := turn_or_bystands next t
    · rw [turn.onRecord_after inv] at recorded'
      cases e with
      | record m h₁ =>
        obtain ⟨rfl, -⟩ | recorded' := recorded'
        · have free := turn.free_of_record inv ⟨rfl, rfl, hr⟩
          rw [owned] at free
          cases free
        · exact absent' recorded'
      | clear m h₁ => exact absent' recorded'.2
      | _ => exact absent' recorded'
    · refine absent' ?_
      unfold OnRecord at recorded' ⊢
      rwa [bystands.held, bystands.alike.pending?] at recorded'

/-- **What is not grantable is not obtained** by a thread that no other one helps, in whatever way
it waits. -/
theorem Calling.grantable_of_isHeldBy (calling : s.Calling L t (.acquire h entry) αs s')
    (alone : ∀ w, w ≠ t → .step w ∉ αs) (absent : ¬ s.IsHeldBy h t) (held : s'.IsHeldBy h t) :
    s.Grantable L h := by
  have inv := calling.reachable.invariant
  have inv' := calling.reachable'.invariant
  obtain ⟨last, -, ready, -⟩ := calling.start
  have others : ∀ {h' w}, s.OnRecord h' w → h' ≠ h ∨ w ≠ t := by
    rintro h' w recorded
    by_contra same
    obtain ⟨rfl, rfl⟩ : h' = h ∧ w = t := by simpa only [not_or, not_not] using same
    exact absent ((onRecord_iff_of_ready ready).1 recorded)
  intro r hr
  constructor
  · rintro ⟨h', w, covers, recorded⟩
    exact calling.not_onRecord alone absent hr covers recorded (others recorded) (.inl held)
  · rintro write ⟨h', w, covers, recorded⟩
    have kept := calling.keepsRecord alone recorded (others recorded)
    have none := inv'.drained h t write (.inl held) r hr w
    exact absurd none (inv'.holdCount_pos covers kept).ne'

/-! ## Who cannot wait -/

end State

/-- An acquisition in that manner that starts at an instant cannot wait: it is not meant to, or has
no time to. -/
def Manner.IsHasty (now : Instant) : Manner → Prop
  | lock | lockInterruptibly => False
  | tryLock => True
  | tryLockFor timeout => timeout.toNanos = 0 ∧ now < Instant.limit

/-- Who cannot wait has no time left at any time. -/
theorem Manner.IsHasty.isSpent {now : Instant} {m : Manner} (hasty : m.IsHasty now) :
    (m.patience now).IsSpent now := by
  refine m.patience_cases (P := fun m p => m.IsHasty now → p.IsSpent now) nofun nofun
    (fun _ _ _ => rfl) ?_ ?_ hasty
  · rintro timeout deadline sum ⟨zero, -⟩
    obtain ⟨-, rfl⟩ := Instant.add?_eq_some_iff.1 sum
    intro nanos interval
    rw [zero, Nat.add_zero]
    exact if_pos (Nat.le_add_right now nanos)
  · rintro timeout sum ⟨zero, early⟩
    rw [Instant.add?_eq_none_iff, zero, Nat.add_zero] at sum
    exact absurd early sum

namespace State

variable {L : Layout K} {s s' : State b K} {t w : ThreadId} {h : Half}

/-! ## The mutex of the hold set -/

/-- Who is inside a mutex leaves it with its next turn. -/
theorem Turn.mutexLeft?_eq {A A' : Activity K} {e : Effect} (turn : s.Turn L t A e A')
    (inside : A.mutex? = some h) : e.mutexLeft? = some h := by
  cases turn with
  | call | expire | rouse => cases inside
  | acquire turn =>
    cases turn with
    | alreadyHeld | look | join => exact inside
    | _ => cases inside
  | release turn =>
    cases turn with
    | part | notHeld | dropFailed => exact inside
    | _ => cases inside
  | @ask q stage e A' turn =>
    obtain ⟨rfl, rfl⟩ : q = .isHeld h ∧ stage = .reading := by
      cases q <;> cases stage <;> simp_all [Activity.mutex?]
    cases turn with
    | leaveMutex h' asked =>
      cases asked
      rfl
    | readHolders g looks | readOwners g looks => cases looks

/-- The thread inside the mutex of a half's hold set, if there is one, takes the step with which it
leaves; nothing else happens. -/
inductive Vacates (L : Layout K) (s : State b K) (h : Half) : State b K → Prop where
  /-- Nobody is inside. -/
  | already (free : (s.holds.get h).mutex = none) : Vacates L s h s
  /-- A thread is inside and leaves. -/
  | leaves (w : ThreadId) (s' : State b K) (inside : (s.holds.get h).mutex = some w)
    (next : s.next? L (.step w) = some s') : Vacates L s h s'

/-- A mutex can be vacated. -/
theorem Reachable.exists_vacates (reachable : Reachable L s) (h : Half) :
    ∃ s', s.Vacates L h s' := by
  cases inside : (s.holds.get h).mutex with
  | none => exact ⟨s, .already inside⟩
  | some w =>
    obtain ⟨s', next⟩ := reachable.canStep_of_mutex inside
    exact ⟨s', .leaves w s' inside next⟩

/-- What is to be said of a mutex that has been vacated, for a thread that is doing nothing. -/
structure Vacated (L : Layout K) (s : State b K) (h : Half) (t : ThreadId) (s' : State b K) :
    Prop where
  /-- The state can be reached. -/
  reachable : Reachable L s'
  /-- Nobody is inside the mutex. -/
  mutex : (s'.holds.get h).mutex = none
  /-- Nothing has changed in the registries. -/
  registries : s'.registries = s.registries
  /-- What is on record is so still. -/
  onRecord : ∀ h' w, s'.OnRecord h' w ↔ s.OnRecord h' w
  /-- The thread does what it did. -/
  activity : s'.activity t = s.activity t
  /-- The thread holds what it held. -/
  held : ∀ h', s'.IsHeldBy h' t ↔ s.IsHeldBy h' t
  /-- The flag of the thread is as it was. -/
  flag : s'.isInterrupted t = s.isInterrupted t

/-- When a mutex has been vacated nothing else has changed for a thread that is doing nothing. -/
theorem Vacates.vacated {last : Option Reply} (vacates : s.Vacates L h s')
    (reachable : Reachable L s) (ready : s.activity t = .ready last) : s.Vacated L h t s' := by
  cases vacates with
  | already free =>
    exact ⟨reachable, free, rfl, fun _ _ => Iff.rfl, rfl, fun _ => Iff.rfl, rfl⟩
  | leaves w s' inside next =>
    have inv := reachable.invariant
    have inside' := (inv.mutex_iff h w).1 inside
    have hw : t ≠ w := by
      rintro rfl
      rw [ready] at inside'
      cases inside'
    obtain ⟨e, A', turn, rfl⟩ := turn_of_step next
    have left := turn.mutexLeft?_eq inside'
    have mutex : ((s.after L w e A').holds.get h).mutex = none := by
      have entered : e ≠ .enterMutex h := by
        rintro rfl
        cases left
      rw [holds_after, Effect.mutex_apply, if_neg entered, if_pos left]
    have activity : (s.after L w e A').activity t = s.activity t :=
      (alike_after L s e A' hw).eq_of_awake (by simp [ready])
    have registries : (s.after L w e A').registries = s.registries := by
      cases e with
      | exitMutex h' noted => cases noted <;> rfl
      | join | part => rfl
      | _ => cases left
    have onRecord : ∀ h' x, (s.after L w e A').OnRecord h' x ↔ s.OnRecord h' x := by
      intro h' x
      rw [turn.onRecord_after inv]
      cases e with
      | exitMutex | join | part => exact Iff.rfl
      | _ => cases left
    have flag : (s.after L w e A').isInterrupted t = s.isInterrupted t := by
      rw [isInterrupted_after, Effect.isInterrupted_apply, if_neg (fun heeds => hw heeds.2)]
    exact ⟨reachable.next _ next, mutex, registries, onRecord, activity,
      fun h' => isHeldBy_after_of_ne L s e A' h' hw, flag⟩

/-! ## The condition under which a half is granted -/

/-- What is to be said of the acquisition of a half by a thread on its own. -/
structure GrantsExactly (L : Layout K) (s : State b K) (t : ThreadId) (h : Half) : Prop where
  /-- A half that is grantable is granted in every way of waiting, without a sleep. The effects are
  the same for all of them. -/
  granted : s.Grantable L h → ∀ entry,
    s.Completes L t (.acquire h entry) (Solo.granting L h) (entry.reply true)
  /-- It is on record and held then. -/
  gains : s.Grantable L h → ∀ entry αs s' reply,
    s.Performs L t (.acquire h entry) αs s' reply → s.Gains L t h s'
  /-- A half that is not grantable is refused to who cannot wait. The effects are the same whether
  no wait was meant or there was no time for one. -/
  refused : ¬ s.Grantable L h → ∃ es, ∀ entry : EntryPoint, entry.manner.IsHasty s.now →
    s.Completes L t (.acquire h entry) es (entry.reply false)
  /-- All records are as they were then. -/
  unchanged : ¬ s.Grantable L h → ∀ entry αs s' reply, entry.manner.IsHasty s.now →
    s.Performs L t (.acquire h entry) αs s' reply → s.SameRecords s'
  /-- In no way of waiting a half is obtained that is not grantable, unless another thread takes a
  step. -/
  only : ∀ entry αs s', s.Calling L t (.acquire h entry) αs s' → (∀ w, w ≠ t → .step w ∉ αs) →
    s'.IsHeldBy h t → s.Grantable L h

variable {last : Option Reply}

/-- Who cannot wait is refused what is not grantable, with effects that change no record. -/
theorem Reachable.exists_refusing (reachable : Reachable L s) (clear : s.IsClear L h)
    (ready : s.activity t = .ready last) (absent : ¬ s.IsHeldBy h t)
    (blocked : ¬ s.Grantable L h) :
    ∃ es, (∀ entry : EntryPoint, entry.manner.IsHasty s.now →
        ¬ s.Heeds t ⟨h, entry, entry.manner.patience s.now⟩ →
        s.Completes L t (.acquire h entry) es (entry.reply false)) ∧
      ∀ nanos, s.SameRecords (Effect.applyAll L t (s.later nanos) es) := by
  rw [reachable.invariant.grantable_iff, not_and_or, Bool.not_eq_true] at blocked
  by_cases owned : (s.registries.get (L.registry h)).owners.isFree (L.resources h).items = false
  · refine ⟨Solo.barring L h, fun entry hasty heedless => ?_, fun nanos => ?_⟩
    · exact (Solo.refused_owned clear absent heedless hasty.isSpent owned).completes ready
    · exact Solo.sameRecords_barring.of_later
  · have shared := blocked.resolve_left owned
    rw [Bool.not_eq_false] at owned
    obtain ⟨write, shared⟩ := Classical.not_imp.1 shared
    rw [Bool.not_eq_true] at shared
    refine ⟨Solo.withdrawing L h, fun entry hasty heedless => ?_, fun nanos => ?_⟩
    · exact (Solo.refused_shared write clear absent heedless hasty.isSpent owned
        shared).completes ready
    · exact (Solo.sameRecords_withdrawing (s := s.later nanos) owned).of_later

/-- Where nobody is in the way a half is granted exactly if it can be. -/
theorem Reachable.grantsExactly_of_isClear (reachable : Reachable L s) (clear : s.IsClear L h)
    (ready : s.activity t = .ready last) (absent : ¬ s.IsHeldBy h t)
    (calm : s.isInterrupted t = false) : s.GrantsExactly L t h := by
  have heedless : ∀ a, ¬ s.Heeds t a := fun a heeds => by
    rw [heeds.2] at calm
    cases calm
  have granted : s.Grantable L h → ∀ entry,
      s.Completes L t (.acquire h entry) (Solo.granting L h) (entry.reply true) := by
    intro grantable entry
    obtain ⟨unowned, unshared⟩ := reachable.invariant.grantable_iff.1 grantable
    exact (Solo.granted clear absent (heedless _) unowned unshared).completes ready
  constructor
  · exact granted
  · intro grantable entry αs s' reply performs
    obtain ⟨-, rfl⟩ := (granted grantable entry).eq performs
    have gains := Solo.gains_granting (L := L) (t := t) (h := h)
      (s := s.later (Action.elapsed αs))
    exact ⟨gains.owners, gains.holders, gains.held⟩
  · intro blocked
    obtain ⟨es, completes, -⟩ := reachable.exists_refusing clear ready absent blocked
    exact ⟨es, fun entry hasty => completes entry hasty (heedless _)⟩
  · intro blocked entry αs s' reply hasty performs
    obtain ⟨es, completes, same⟩ := reachable.exists_refusing clear ready absent blocked
    obtain ⟨-, rfl⟩ := (completes entry hasty (heedless _)).eq performs
    exact (same _).setActivity
  · intro entry αs s' calling alone held
    exact calling.grantable_of_isHeldBy alone absent held

/-- **A half is granted exactly when it is grantable**, whatever the way of waiting. For every
reachable state in which nobody is inside a monitor of the half's registry, and every thread that
is doing nothing, does not hold the half and is not interrupted: once the mutex of the hold set has
been vacated, which changes no ledger and nothing about the half being grantable, the half is
granted to the thread on its own if it is grantable, and refused or waited for if not. -/
theorem Reachable.grantsExactly (reachable : Reachable L s)
    (monitors : ∀ m, (s.registries.get (L.registry h)).inside m = none)
    (ready : s.activity t = .ready last) (absent : ¬ s.IsHeldBy h t)
    (calm : s.isInterrupted t = false) :
    ∃ s', s.Vacates L h s' ∧ s'.registries = s.registries ∧
      (s'.Grantable L h ↔ s.Grantable L h) ∧ s'.GrantsExactly L t h := by
  obtain ⟨s', vacates⟩ := reachable.exists_vacates h
  have vacated := vacates.vacated reachable ready
  have clear : s'.IsClear L h := ⟨vacated.registries ▸ monitors, vacated.mutex⟩
  refine ⟨s', vacates, vacated.registries, ?_, ?_⟩
  · simp only [Grantable, IsClaimed, IsShared, vacated.onRecord]
  · exact vacated.reachable.grantsExactly_of_isClear clear (vacated.activity.trans ready)
      (mt (vacated.held h).1 absent) (vacated.flag.trans calm)

/-- Of two halves in a queue, one that cannot be granted and one that can. -/
theorem grantsExactly_sleepersBehindReader :
    (¬ (finish .threeLocks sleepersBehindReader : State .hash Nat).Grantable .threeLocks
        ⟨1, .read⟩ ∧
      ∃ s', (finish .threeLocks sleepersBehindReader : State .hash Nat).Vacates .threeLocks
          ⟨1, .read⟩ s' ∧
        s'.registries = (finish .threeLocks sleepersBehindReader : State .hash Nat).registries ∧
        (s'.Grantable .threeLocks ⟨1, .read⟩ ↔ (finish .threeLocks sleepersBehindReader :
          State .hash Nat).Grantable .threeLocks ⟨1, .read⟩) ∧
        s'.GrantsExactly .threeLocks 3 ⟨1, .read⟩) ∧
    (finish .threeLocks sleepersBehindReader : State .hash Nat).Grantable .threeLocks
        ⟨2, .write⟩ ∧
      ∃ s', (finish .threeLocks sleepersBehindReader : State .hash Nat).Vacates .threeLocks
          ⟨2, .write⟩ s' ∧
        s'.registries = (finish .threeLocks sleepersBehindReader : State .hash Nat).registries ∧
        (s'.Grantable .threeLocks ⟨2, .write⟩ ↔ (finish .threeLocks sleepersBehindReader :
          State .hash Nat).Grantable .threeLocks ⟨2, .write⟩) ∧
        s'.GrantsExactly .threeLocks 3 ⟨2, .write⟩ := by
  have reachable := reachable_finish (b := .hash) (L := .threeLocks) sleepersBehindReader
  have blocked : ¬ (finish .threeLocks sleepersBehindReader : State .hash Nat).Grantable
      .threeLocks ⟨1, .read⟩ :=
    mt reachable.invariant.grantable_iff.1 (by decide +kernel)
  have grantable : (finish .threeLocks sleepersBehindReader : State .hash Nat).Grantable
      .threeLocks ⟨2, .write⟩ :=
    reachable.invariant.grantable_iff.2 (by decide +kernel)
  have monitors : ∀ m, ((finish .threeLocks sleepersBehindReader :
      State .hash Nat).registries.get 0).inside m = none := by
    intro m
    cases m <;> decide +kernel
  have ready : (finish .threeLocks sleepersBehindReader : State .hash Nat).activity 3 =
      .ready none := by
    decide +kernel
  refine ⟨⟨blocked, ?_⟩, grantable, ?_⟩
  · exact reachable.grantsExactly monitors ready (by decide +kernel) (by decide +kernel)
  · exact reachable.grantsExactly monitors ready (by decide +kernel) (by decide +kernel)

end State

end ResourceLocks.Protocol
