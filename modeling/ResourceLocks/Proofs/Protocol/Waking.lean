import ResourceLocks.Proofs.Protocol.Frame

/-!
# No lost wake-up

A thread that finds its resources taken falls asleep at the monitor in which it looked. From there
on only a notification or its own time limit wakes it, so that it must not sleep on unnoticed when
its resources have become free.

A thread is **held up** at a monitor from the moment it finds a resource taken in the ledger there
until it is notified (`Activity.heldUp?`): inside the monitor on the way to sleep, and then asleep.
In every reachable state such a thread has a resource that **is taken** in that ledger
(`State.Reachable.isTaken_of_heldUp?`):

* recording only makes more resources taken (`State.IsTaken.apply`);
* clearing notifies everyone who is asleep at the monitor (`State.Turn.heldUp?_of_ne`), and happens
  inside the monitor, where no thread on the way to sleep can be at the same time.

`State.Reachable.no_lost_wakeup` is the result for sleepers.
-/

namespace ResourceLocks.Protocol

variable {b : Backing} {K : Type} [Key K]

/-- The monitor at which a thread is held up, and the half that it acquires. -/
def Activity.heldUp? : Activity K → Option (Monitor × Half)
  | .acquiring a (.taken m) | .acquiring a (.settling m) | .acquiring a (.asleep m false _) =>
    some (m, a.half)
  | _ => none

section heldUp

variable {A B : Activity K} {m : Monitor} {h : Half}

/-- A thread that is held up is inside the monitor, or asleep and not notified. -/
theorem Activity.heldUp?_cases {L : Layout K} (heldUp : A.heldUp? = some (m, h)) :
    A.IsInside L (L.registry h) m ∨
      ∃ a wakeAt, A = .acquiring a (.asleep m false wakeAt) ∧ a.half = h := by
  cases A with
  | acquiring a stage =>
    cases stage with
    | taken m' | settling m' =>
      cases heldUp
      exact .inl ⟨rfl, by simp [AcquireStage.isInside]⟩
    | asleep m' notified wakeAt =>
      cases notified with
      | false =>
        cases heldUp
        exact .inr ⟨a, wakeAt, rfl, rfl⟩
      | true => cases heldUp
    | _ => cases heldUp
  | _ => cases heldUp

omit [Key K] in
/-- A thread that is held up has not just been notified. -/
theorem Activity.Alike.eq_of_heldUp? (alike : A.Alike B) (heldUp : B.heldUp? = some (m, h)) :
    B = A := by
  obtain same | ⟨a, m', notified, wakeAt, rfl, rfl⟩ := alike
  · exact same
  · cases heldUp

end heldUp

/-! ## Taken resources -/

namespace State

/-- A resource is recorded in the ledger of a monitor: it has an owner, or somebody has a hold on
it. -/
def IsTaken (s : State b K) (m : Monitor) (g : RegistryId) (r : K) : Prop :=
  match m with
  | .owner => ∃ t, s.owner? g r = some t
  | .holder => ∃ t, 0 < s.holdCount g r t

variable {L : Layout K} {s s' : State b K} {t u : ThreadId}

/-- The test for free resources fails exactly when one of them is taken. -/
theorem Invariant.isFree_eq_false_iff (inv : s.Invariant L) {g : RegistryId} {m : Monitor}
    {rs : List K} :
    (s.registries.get g).isFree m rs = false ↔ ∃ r ∈ rs, s.IsTaken m g r := by
  rw [Bool.eq_false_iff, ne_eq]
  cases m with
  | owner =>
    have hfree : (s.registries.get g).isFree .owner rs = true ↔ ∀ r ∈ rs, s.owner? g r = none :=
      Owners.isFree_iff
    rw [hfree]
    simp only [IsTaken, not_forall, exists_prop, ← ne_eq, Option.ne_none_iff_exists']
  | holder =>
    have hfree : (s.registries.get g).isFree .holder rs = true ↔
        ∀ r ∈ rs, ∀ t, s.holdCount g r t = 0 := (inv.tidy g).isFree_iff
    rw [hfree]
    simp only [IsTaken, not_forall, exists_prop, Nat.pos_iff_ne_zero, ne_eq]

/-- A taken resource stays taken unless the ledger is cleared. -/
theorem IsTaken.apply {m : Monitor} {g : RegistryId} {r : K} (taken : s.IsTaken m g r)
    {e : Effect} (noclear : ∀ h, e = .clear m h → L.registry h ≠ g) :
    (e.apply L t s).IsTaken m g r := by
  cases m with
  | owner =>
    obtain ⟨u, owned⟩ := taken
    unfold IsTaken
    rw [Effect.owner?_apply]
    cases e with
    | record m' h =>
      cases m' with
      | owner =>
        by_cases mine : L.registry h = g ∧ r ∈ L.resources h
        · exact ⟨t, if_pos mine⟩
        · exact ⟨u, (if_neg mine).trans owned⟩
      | holder => exact ⟨u, owned⟩
    | clear m' h =>
      cases m' with
      | owner =>
        have other : ¬ (L.registry h = g ∧ r ∈ L.resources h) := fun mine =>
          noclear h rfl mine.1
        exact ⟨u, (if_neg other).trans owned⟩
      | holder => exact ⟨u, owned⟩
    | _ => exact ⟨u, owned⟩
  | holder =>
    obtain ⟨u, counted⟩ := taken
    refine ⟨u, ?_⟩
    rw [Effect.holdCount_apply]
    cases e with
    | record m' h =>
      cases m' with
      | owner => exact counted
      | holder => exact Nat.add_pos_left counted _
    | clear m' h =>
      cases m' with
      | owner => exact counted
      | holder =>
        have other : ¬ (L.registry h = g ∧ r ∈ L.resources h ∧ u = t) := fun mine =>
          noclear h rfl mine.1
        dsimp only
        rw [if_neg other]
        exact counted
    | _ => exact counted

/-- What changes only flags and the clock leaves resources taken. -/
theorem IsTaken.undisturbed {m : Monitor} {g : RegistryId} {r : K} (taken : s.IsTaken m g r)
    (same : s.Undisturbed s') : s'.IsTaken m g r := by
  unfold IsTaken owner? holdCount at taken ⊢
  rw [same.registries]
  exact taken

/-! ## Threads that are held up -/

namespace Turn

variable {A A' : Activity K} {e : Effect} {m : Monitor} {h : Half}

/-- A thread that is held up was so before, or finds its resources taken now. -/
theorem heldUp?_after (turn : s.Turn L t A e A') (heldUp : A'.heldUp? = some (m, h)) :
    (∀ m' h', e ≠ .clear m' h') ∧ (A.heldUp? = some (m, h) ∨
      (s.registries.get (L.registry h)).isFree m (L.resources h).items = false) := by
  cases turn with
  | call last c => cases c <;> cases heldUp
  | @acquire a stage e A' turn =>
    cases turn with
    | taken m' taken =>
      cases heldUp
      exact ⟨nofun, .inr taken⟩
    | settle m' =>
      cases heldUp
      exact ⟨nofun, .inl rfl⟩
    | sleep m' length =>
      cases heldUp
      exact ⟨nofun, .inl rfl⟩
    | heed m' | barred m' | enter m' | free m' =>
      cases hk : a.half.kind <;> cases m' <;> rw [hk] at heldUp <;> cases heldUp
    | record m' => cases m' <;> cases heldUp
    | leave m' v =>
      cases hk : a.half.kind <;> cases m' <;> cases v <;> rw [hk] at heldUp <;> cases heldUp
    | _ => cases heldUp
  | release turn => cases turn <;> cases heldUp
  | ask turn => cases turn <;> cases heldUp
  | expire a m' =>
    cases hk : a.half.kind <;> cases m' <;> rw [hk] at heldUp <;> cases heldUp
  | rouse a m' => cases heldUp

end Turn

/-- **Clearing notifies** everyone who is asleep at the monitor. -/
theorem activity_after_clear {a : Acquisition} {m : Monitor} {notified : Bool}
    {wakeAt : Option Instant} {h : Half} {A' : Activity K} (hu : u ≠ t)
    (asleep : s.activity u = .acquiring a (.asleep m notified wakeAt))
    (registry : L.registry a.half = L.registry h) :
    (s.after L t (.clear m h) A').activity u = .acquiring a (.asleep m true wakeAt) := by
  have asleep' : (s.threads.get u).activity = .acquiring a (.asleep m notified wakeAt) := asleep
  rw [after, activity_setActivity_of_ne _ _ hu]
  simp [Effect.apply, activity, notifyAll, setRegistry, Thread.notify, asleep', registry]

/-- A thread that is held up was so before the turn of another thread, and that turn did not clear
the ledger of the monitor. -/
theorem Turn.heldUp?_of_ne {e : Effect} {A' : Activity K} {m : Monitor} {h : Half}
    (turn : s.Turn L t (s.activity t) e A') (inv : s.Invariant L) (hu : u ≠ t)
    (heldUp : ((s.after L t e A').activity u).heldUp? = some (m, h)) :
    (s.activity u).heldUp? = some (m, h) ∧
      ∀ h', e = .clear m h' → L.registry h' ≠ L.registry h := by
  have same := (alike_after L s e A' hu).eq_of_heldUp? heldUp
  have before := heldUp
  rw [same] at before
  refine ⟨before, ?_⟩
  rintro h' rfl registry
  obtain inside | ⟨a, wakeAt, asleep, rfl⟩ := Activity.heldUp?_cases (L := L) before
  · -- Both threads would be inside the monitor.
    obtain ⟨inside', -⟩ := turn.requires (inv.fits t)
    rw [registry] at inside'
    exact hu (inv.inside_unique inside inside')
  · rw [activity_after_clear hu asleep registry.symm] at heldUp
    cases heldUp

/-- **A thread that is held up has a resource that is taken.** -/
theorem Reachable.isTaken_of_heldUp? (reachable : Reachable L s) {m : Monitor} {h : Half}
    (heldUp : (s.activity t).heldUp? = some (m, h)) :
    ∃ r ∈ L.resources h, s.IsTaken m (L.registry h) r := by
  induction reachable with
  | initial => cases heldUp
  | @next s s' α reachable next ih =>
    have inv := reachable.invariant
    obtain ⟨u, e, A', -, -, turn, rfl⟩ | ⟨-, same⟩ := next?_cases next
    · have before : (∃ r ∈ L.resources h, s.IsTaken m (L.registry h) r) ∧
          ∀ h', e = .clear m h' → L.registry h' ≠ L.registry h := by
        by_cases ht : t = u
        · subst ht
          rw [activity_after_self] at heldUp
          obtain ⟨noclear, known | taken⟩ := turn.heldUp?_after heldUp
          · exact ⟨ih known, fun h' he => absurd he (noclear m h')⟩
          · exact ⟨inv.isFree_eq_false_iff.1 taken, fun h' he => absurd he (noclear m h')⟩
        · obtain ⟨known, noclear⟩ := turn.heldUp?_of_ne inv ht heldUp
          exact ⟨ih known, noclear⟩
      obtain ⟨⟨r, hr, taken⟩, noclear⟩ := before
      exact ⟨r, hr, taken.apply noclear⟩
    · rw [same.activity] at heldUp
      obtain ⟨r, hr, taken⟩ := ih heldUp
      exact ⟨r, hr, taken.undisturbed same⟩

/-! ## Sleepers -/

/-- A sleeper that has not been notified has a resource that is taken. -/
theorem Reachable.isTaken_of_asleep (reachable : Reachable L s) {a : Acquisition} {m : Monitor}
    {wakeAt : Option Instant} (asleep : s.activity t = .acquiring a (.asleep m false wakeAt)) :
    ∃ r ∈ L.resources a.half, s.IsTaken m (L.registry a.half) r := by
  refine reachable.isTaken_of_heldUp? (t := t) ?_
  rw [asleep]
  rfl

/-- Only a writer sleeps at the holder monitor. -/
theorem Invariant.write_of_asleep (inv : s.Invariant L) {a : Acquisition} {notified : Bool}
    {wakeAt : Option Instant}
    (asleep : s.activity t = .acquiring a (.asleep .holder notified wakeAt)) :
    a.half.kind = .write := by
  have fits := inv.fits t
  rw [asleep] at fits
  exact fits

/-- A sleeper whose resources are all free after something has happened has been notified by it:
somebody cleared a half in the ledger at which it sleeps. -/
theorem Reachable.notified_of_freed (reachable : Reachable L s) {α : Action K} {a : Acquisition}
    {m : Monitor} {wakeAt : Option Instant} (next : s.next? L α = some s')
    (asleep : s.activity t = .acquiring a (.asleep m false wakeAt))
    (freed : ∀ r ∈ L.resources a.half, ¬ s'.IsTaken m (L.registry a.half) r) :
    s'.activity t = .acquiring a (.asleep m true wakeAt) ∧
      ∃ u h, α = .step u ∧ (s.activity u).clearing? = some h ∧ m = .ofKind h.kind ∧
        L.registry h = L.registry a.half := by
  obtain ⟨r, hr, taken⟩ := reachable.isTaken_of_asleep asleep
  obtain ⟨u, e, A', -, step, turn, rfl⟩ | ⟨-, same⟩ := next?_cases next
  · have cleared : ∃ h, e = .clear m h ∧ L.registry h = L.registry a.half := by
      by_contra none
      refine freed r hr (taken.apply fun h he registry => none ⟨h, he, registry⟩)
    obtain ⟨h, rfl, registry⟩ := cleared
    have clearing := turn.clearing?_eq
    have ht : t ≠ u := by
      rintro rfl
      rw [asleep] at clearing
      cases clearing
    obtain ⟨-, hm⟩ := turn.requires (reachable.invariant.fits u)
    obtain rfl | nothing := step
    · exact ⟨activity_after_clear ht asleep registry.symm, u, h, rfl, clearing, hm, registry⟩
    · cases nothing
  · exact absurd (taken.undisturbed same) (freed r hr)

/-- **No wake-up is lost.** A thread that is asleep at a monitor and has not been notified has a
resource that is taken: one with an owner if it sleeps at the owner monitor, one with a shared hold
if it is a writer that waits for readers. So the very step after which its resources are all free
has notified it, by releasing a half or withdrawing a claim. -/
theorem Reachable.no_lost_wakeup (reachable : Reachable L s) :
    (∀ (t : ThreadId) (a : Acquisition) (wakeAt : Option Instant),
      s.activity t = .acquiring a (.asleep .owner false wakeAt) →
      ∃ r ∈ L.resources a.half, ∃ u, s.owner? (L.registry a.half) r = some u) ∧
    (∀ (t : ThreadId) (a : Acquisition) (wakeAt : Option Instant),
      s.activity t = .acquiring a (.asleep .holder false wakeAt) →
      a.half.kind = .write ∧
        ∃ r ∈ L.resources a.half, ∃ u, 0 < s.holdCount (L.registry a.half) r u) ∧
    (∀ (α : Action K) (s' : State b K) (t : ThreadId) (a : Acquisition) (m : Monitor)
      (wakeAt : Option Instant), s.next? L α = some s' →
      s.activity t = .acquiring a (.asleep m false wakeAt) →
      (∀ r ∈ L.resources a.half, ¬ s'.IsTaken m (L.registry a.half) r) →
      s'.activity t = .acquiring a (.asleep m true wakeAt) ∧
        ∃ u h, α = .step u ∧ (s.activity u).clearing? = some h ∧ m = .ofKind h.kind ∧
          L.registry h = L.registry a.half) := by
  refine ⟨?_, ?_, ?_⟩
  · intro t a wakeAt asleep
    exact reachable.isTaken_of_asleep asleep
  · intro t a wakeAt asleep
    exact ⟨reachable.invariant.write_of_asleep asleep, reachable.isTaken_of_asleep asleep⟩
  · intro α s' t a m wakeAt next asleep freed
    exact reachable.notified_of_freed next asleep freed

/-- A run after which a writer sleeps until a reader leaves, and another reader sleeps until the
writer is through. -/
def sleepersBehindReader : List (Action Nat) :=
  Action.follow 0 (.acquire ⟨0, .read⟩ { manner := .lock }) 13
    ++ Action.follow 1 (.acquire ⟨1, .write⟩ { manner := .lock }) 12
    ++ Action.follow 2 (.acquire ⟨1, .read⟩ { manner := .lock }) 7

/-- The same run, and the first reader is about to clear its hold. -/
def readerAboutToLeave : List (Action Nat) :=
  sleepersBehindReader ++ Action.follow 0 (.unlock ⟨0, .read⟩) 3

/-- A reader sleeps behind a writer that waits for another reader. -/
theorem no_lost_wakeup_readerAboutToLeave :
    (finish .threeLocks readerAboutToLeave : State .hash Nat).activity 2 =
        .acquiring ⟨⟨1, .read⟩, { manner := .lock }, .endless⟩ (.asleep .owner false none) ∧
      (∃ r ∈ Layout.threeLocks.resources ⟨1, .read⟩, ∃ u,
        (finish .threeLocks readerAboutToLeave : State .hash Nat).owner? 0 r = some u) ∧
      (finish .threeLocks readerAboutToLeave : State .hash Nat).activity 1 =
        .acquiring ⟨⟨1, .write⟩, { manner := .lock }, .endless⟩ (.asleep .holder false none) ∧
      (∃ r ∈ Layout.threeLocks.resources ⟨1, .write⟩, ∃ u,
        0 < (finish .threeLocks readerAboutToLeave : State .hash Nat).holdCount 0 r u) ∧
      (finish .threeLocks (readerAboutToLeave ++ [.step 0]) : State .hash Nat).activity 1 =
        .acquiring ⟨⟨1, .write⟩, { manner := .lock }, .endless⟩ (.asleep .holder true none) := by
  have reader : (finish .threeLocks readerAboutToLeave : State .hash Nat).activity 2 =
      .acquiring ⟨⟨1, .read⟩, { manner := .lock }, .endless⟩ (.asleep .owner false none) := by
    decide +kernel
  have writer : (finish .threeLocks readerAboutToLeave : State .hash Nat).activity 1 =
      .acquiring ⟨⟨1, .write⟩, { manner := .lock }, .endless⟩ (.asleep .holder false none) := by
    decide +kernel
  have step : (finish .threeLocks readerAboutToLeave : State .hash Nat).next? .threeLocks
      (.step 0) = some (finish .threeLocks (readerAboutToLeave ++ [.step 0])) := by
    decide +kernel
  have free : ((finish .threeLocks (readerAboutToLeave ++ [.step 0]) :
      State .hash Nat).registries.get 0).isFree .holder [2, 3] = true := by
    decide +kernel
  obtain ⟨owners, holders, freed⟩ :=
    (reachable_finish (b := .hash) (L := .threeLocks) readerAboutToLeave).no_lost_wakeup
  refine ⟨reader, owners 2 _ _ reader, writer, (holders 1 _ _ writer).2, ?_⟩
  refine (freed _ _ 1 _ _ _ step writer fun r hr taken => ?_).1
  have inv := (reachable_finish (b := .hash) (L := .threeLocks)
    (readerAboutToLeave ++ [.step 0])).invariant
  have blocked := inv.isFree_eq_false_iff.2 ⟨r, hr, taken⟩
  exact Bool.false_ne_true (blocked.symm.trans free)

end State

end ResourceLocks.Protocol
