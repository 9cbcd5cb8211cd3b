import ResourceLocks.Proofs.Protocol.Release
import ResourceLocks.Proofs.Protocol.Solo

/-!
# The courses of calls

What a call does when its thread is on its own and nobody else is inside the monitors of its half's
registry or the mutex of its hold set (`State.IsClear`). There are few courses, each a list of
effects:

* an acquisition of a half that is free is **granted** (`Solo.granting`, `Solo.granted`);
* one that finds an owner gives up at the owner monitor if it cannot wait (`Solo.barring`,
  `Solo.refused_owned`), and a writer that finds holders withdraws its claim
  (`Solo.withdrawing`, `Solo.refused_shared`);
* one of a half that is held already fails after its first look (`Solo.looking`,
  `Solo.alreadyHeld`);
* a release ends a hold (`Solo.releasing`, `Solo.released`) or fails after its first look
  (`Solo.notHeld`);
* a question is answered from the ledgers as they are (`Solo.asking`, `Solo.answered`).

The courses do not depend on the way of waiting: that only decides whether an acquisition that
finds its resources taken gives up (`Patience.IsSpent`).
-/

namespace ResourceLocks.Protocol

variable {b : Backing} {K : Type} [Key K]

/-- There is no time left to wait, now or later. -/
def Patience.IsSpent (p : Patience) (now : Instant) : Prop :=
  ∀ nanos interval, p.sleep? (now + nanos) interval = none

/-- Nobody is inside a monitor of a half's registry or the mutex of its hold set. -/
structure State.IsClear (L : Layout K) (s : State b K) (h : Half) : Prop where
  /-- Nobody is inside a monitor of the registry. -/
  monitors : ∀ m, (s.registries.get (L.registry h)).inside m = none
  /-- Nobody is inside the mutex. -/
  mutex : (s.holds.get h).mutex = none

section records

variable {s s' : State b K} {t : ThreadId} {nanos : Nat} {A : Activity K}

/-- The clock is not among the records. -/
theorem State.SameRecords.of_later (same : (s.later nanos).SameRecords s') : s.SameRecords s' :=
  ⟨same.owners, same.holders, same.held⟩

/-- The records are the same at a later time. -/
theorem State.SameRecords.later (same : s.SameRecords s') : s.SameRecords (s'.later nanos) :=
  ⟨same.owners, same.holders, same.held⟩

/-- Neither is what a thread is doing. -/
theorem State.SameRecords.setActivity (same : s.SameRecords s') :
    s.SameRecords (s'.setActivity t A) :=
  ⟨same.owners, same.holders, same.held⟩

end records

/-- The effect changes no ledger and no hold set. -/
def Effect.keepsRecords : Effect → Bool
  | .record .. | .clear .. | .join _ | .part _ => false
  | _ => true

/-- Effects that change no ledger and no hold set leave all records as they are. -/
theorem Effect.sameRecords_applyAll {L : Layout K} {t : ThreadId} {s : State b K}
    {es : List Effect} (keeps : es.all Effect.keepsRecords = true) :
    s.SameRecords (Effect.applyAll L t s es) := by
  induction es generalizing s with
  | nil => exact ⟨fun _ => rfl, fun _ => rfl, fun _ _ => Iff.rfl⟩
  | cons e es ih =>
    rw [List.all_cons, Bool.and_eq_true] at keeps
    have first : s.SameRecords (e.apply L t s) := by
      constructor
      · intro g
        rw [Effect.owners_apply]
        cases e with
        | record | clear => cases keeps.1
        | _ => rfl
      · intro g
        rw [Effect.holders_apply]
        cases e with
        | record | clear => cases keeps.1
        | _ => rfl
      · intro h u
        rw [Effect.isHeldBy_apply]
        cases e with
        | join | part => cases keeps.1
        | _ => exact Iff.rfl
    have rest := ih (s := e.apply L t s) keeps.2
    exact ⟨fun g => (rest.owners g).trans (first.owners g),
      fun g => (rest.holders g).trans (first.holders g),
      fun h u => (rest.held h u).trans (first.held h u)⟩

namespace Solo

/-! ## Effects of the courses -/

section effects

variable (L : Layout K) (h : Half)

/-- A call looks into the hold set. -/
def looking (h : Half) : List Effect := [.enterMutex h, .exitMutex h none]

/-- A thread goes up to a monitor and enters it. -/
def entering (m : Monitor) : List Effect := [.nothing, .enter (L.registry h) m]

/-- A thread joins a hold set and reports it. -/
def joining (h : Half) : List Effect := [.enterMutex h, .join h, .note (.finished h true)]

/-- A half is acquired. -/
def granting : List Effect :=
  match h.kind with
  | .read =>
    looking h ++ (entering L h .owner ++ .nothing :: (entering L h .holder ++
      .record .holder h :: .exit (L.registry h) .holder :: .exit (L.registry h) .owner ::
        joining h))
  | .write =>
    looking h ++ (entering L h .owner ++ .nothing :: .record .owner h ::
      .exit (L.registry h) .owner :: (entering L h .holder ++ .nothing ::
        .exit (L.registry h) .holder :: joining h))

/-- An acquisition gives up at the owner monitor. -/
def barring : List Effect :=
  looking h ++ (entering L h .owner ++
    [.nothing, .nothing, .nothing, .exit (L.registry h) .owner, .note (.finished h false)])

/-- A writer claims, finds holders, and withdraws its claim. -/
def withdrawing : List Effect :=
  looking h ++ (entering L h .owner ++ .nothing :: .record .owner h ::
    .exit (L.registry h) .owner :: (entering L h .holder ++
      [.nothing, .nothing, .nothing, .exit (L.registry h) .holder, .note (.rolledBack h false),
        .enter (L.registry h) .owner, .clear .owner h, .exit (L.registry h) .owner,
        .note (.finished h false)]))

/-- A half is released. -/
def releasing : List Effect :=
  [.enterMutex h, .part h, .enter (L.registry h) (.ofKind h.kind), .clear (.ofKind h.kind) h,
    .exit (L.registry h) (.ofKind h.kind), .note (.released h)]

/-- A question is answered. -/
def asking : Query K → List Effect
  | .status g _ | .counts g =>
    [.enter g .owner, .enter g .holder, .nothing, .exit g .holder, .exit g .owner]
  | .isExclusiveFree g _ => [.enter g .owner, .nothing, .exit g .owner]
  | .isSharedFree g _ => [.enter g .holder, .nothing, .exit g .holder]
  | .isHeld h => looking h

end effects

variable {L : Layout K} {t : ThreadId} {s : State b K} {es : List Effect} {A' : Activity K}
  {a : Acquisition} {h : Half} {m : Monitor}

/-! ## Parts of a course -/

namespace Path

/-- Who heeds no interrupt now heeds none later. -/
theorem calm_later (calm : ¬ s.Heeds t a) (nanos : Nat) (B : Activity K) :
    ¬ ((s.later nanos).setActivity t B).Heeds t a := by
  unfold State.Heeds
  rw [State.isInterrupted_setActivity]
  exact calm

/-- An acquisition looks into the hold set and does not find its thread. -/
theorem look (mutex : (s.holds.get a.half).mutex = none) (absent : ¬ s.IsHeldBy a.half t)
    (rest : Path L t (Effect.applyAll L t s (looking a.half))
      (.acquiring a (.approaching .owner)) es A') :
    Path L t s (.acquiring a .begin) (looking a.half ++ es) A' := by
  refine .step (fun _ _ => .begin mutex) rfl (.step (fun _ _ => .look ?_) rfl rest)
  exact mt (Effect.isHeldBy_apply L t s (.enterMutex a.half) a.half t).1 absent

/-- An acquisition enters a monitor. -/
theorem goIn (calm : ¬ s.Heeds t a)
    (free : (s.registries.get (L.registry a.half)).inside m = none)
    (rest : Path L t (Effect.applyAll L t s (entering L a.half m))
      (.acquiring a (.entered a.half.kind m)) es A') :
    Path L t s (.acquiring a (.approaching m)) (entering L a.half m ++ es) A' := by
  refine .step (fun n B => .approach m (calm_later calm n B)) rfl ?_
  refine .step (fun _ _ => .enter m free) ?_ rest
  exact AcquireStage.isAsleep_entered a.half.kind m

/-- An acquisition finds its resources free. -/
theorem findFree
    (free : (s.registries.get (L.registry a.half)).isFree m (L.resources a.half).items = true)
    (rest : Path L t s (.acquiring a (.free a.half.kind m)) es A') :
    Path L t s (.acquiring a (.testing m)) (.nothing :: es) A' :=
  .step (fun _ _ => .free m free) (AcquireStage.isAsleep_free a.half.kind m) rest

/-- An acquisition finds its resources taken, and has no time left to wait. -/
theorem giveUp (calm : ¬ s.Heeds t a) (spent : a.patience.IsSpent s.now)
    (taken : (s.registries.get (L.registry a.half)).isFree m (L.resources a.half).items = false)
    (rest : Path L t (Effect.applyAll L t s [.nothing, .nothing, .nothing])
      (.acquiring a (.leaving m .refused)) es A') :
    Path L t s (.acquiring a (.testing m)) (.nothing :: .nothing :: .nothing :: es) A' := by
  refine .step (fun _ _ => .taken m taken) rfl ?_
  refine .step (fun n B => .settle m (calm_later calm n B)) rfl ?_
  exact .step (fun n _ => .refuse m (spent n _)) rfl rest

/-- A thread joins the hold set, reports it and returns. -/
theorem join (mutex : (s.holds.get a.half).mutex = none) :
    Path L t s (.acquiring a .joining) (joining a.half)
      (.ready (some (a.reply .acquired))) := by
  refine .step (fun _ _ => .approachMutex mutex) rfl ?_
  refine .step (fun _ _ => .join) rfl ?_
  exact .step (fun _ _ => .conclude .acquired) rfl (.here ..)

end Path

/-! ## Acquisitions -/

/-- **An acquisition of a half that is free is granted.** -/
theorem granted (clear : s.IsClear L a.half) (absent : ¬ s.IsHeldBy a.half t)
    (calm : ¬ s.Heeds t a)
    (unowned : (s.registries.get (L.registry a.half)).owners.isFree
      (L.resources a.half).items = true)
    (unshared : a.half.kind = .write →
      (s.registries.get (L.registry a.half)).holders.isFree (L.resources a.half).items = true) :
    Path L t s (.acquiring a .begin) (granting L a.half) (.ready (some (a.reply .acquired))) := by
  obtain ⟨⟨lock, kind⟩, entry, patience⟩ := a
  obtain ⟨monitors, mutex⟩ := clear
  cases kind with
  | read =>
    refine .look mutex absent (.goIn ?_ ?_ (.findFree ?_ (.goIn ?_ ?_ ?_)))
    · simpa [Effect.applyAll, looking, State.Heeds, Effect.isInterrupted_apply] using calm
    · simp [Effect.applyAll, looking, Effect.inside_apply, monitors]
    · simpa [Effect.applyAll, looking, entering, Registry.isFree, Effect.owners_apply] using unowned
    · simpa [Effect.applyAll, looking, entering, State.Heeds, Effect.isInterrupted_apply] using calm
    · simp [Effect.applyAll, looking, entering, Effect.inside_apply, monitors]
    refine .step (fun _ _ => .record .holder) rfl ?_
    refine .step (fun _ _ => .leave .holder .acquired) rfl ?_
    refine .step (fun _ _ => .leave .owner .acquired) rfl (.join ?_)
    simp [Effect.applyAll, looking, entering, Effect.mutex_apply, Effect.mutexLeft?]
  | write =>
    refine .look mutex absent (.goIn ?_ ?_ (.findFree ?_ ?_))
    · simpa [Effect.applyAll, looking, State.Heeds, Effect.isInterrupted_apply] using calm
    · simp [Effect.applyAll, looking, Effect.inside_apply, monitors]
    · simpa [Effect.applyAll, looking, entering, Registry.isFree, Effect.owners_apply] using unowned
    refine .step (fun _ _ => .record .owner) rfl ?_
    refine .step (fun _ _ => .claim) rfl (.goIn ?_ ?_ (.findFree ?_ ?_))
    · simpa [Effect.applyAll, looking, entering, State.Heeds, Effect.isInterrupted_apply] using calm
    · simp [Effect.applyAll, looking, entering, Effect.inside_apply, monitors]
    · simpa [Effect.applyAll, looking, entering, Registry.isFree, Effect.holders_apply]
        using unshared rfl
    refine .step (fun _ _ => .leave .holder .acquired) rfl (.join ?_)
    simp [Effect.applyAll, looking, entering, Effect.mutex_apply, Effect.mutexLeft?]

/-- **An acquisition that finds an owner and cannot wait is refused.** -/
theorem refused_owned (clear : s.IsClear L a.half) (absent : ¬ s.IsHeldBy a.half t)
    (calm : ¬ s.Heeds t a) (spent : a.patience.IsSpent s.now)
    (owned : (s.registries.get (L.registry a.half)).owners.isFree
      (L.resources a.half).items = false) :
    Path L t s (.acquiring a .begin) (barring L a.half) (.ready (some (a.reply .refused))) := by
  obtain ⟨⟨lock, kind⟩, entry, patience⟩ := a
  obtain ⟨monitors, mutex⟩ := clear
  refine .look mutex absent (.goIn ?_ ?_ ?_)
  · simpa [Effect.applyAll, looking, State.Heeds, Effect.isInterrupted_apply] using calm
  · simp [Effect.applyAll, looking, Effect.inside_apply, monitors]
  refine .giveUp ?_ ?_ ?_ ?_
  · simpa [Effect.applyAll, looking, entering, State.Heeds, Effect.isInterrupted_apply] using calm
  · simpa [Effect.applyAll, looking, entering] using spent
  · simpa [Effect.applyAll, looking, entering, Registry.isFree, Effect.owners_apply] using owned
  refine .step (fun _ _ => .leave .owner .refused) rfl ?_
  exact .step (fun _ _ => .conclude .refused) rfl (.here ..)

/-- **A writer that finds holders and cannot wait withdraws its claim.** -/
theorem refused_shared (write : a.half.kind = .write) (clear : s.IsClear L a.half)
    (absent : ¬ s.IsHeldBy a.half t) (calm : ¬ s.Heeds t a) (spent : a.patience.IsSpent s.now)
    (unowned : (s.registries.get (L.registry a.half)).owners.isFree
      (L.resources a.half).items = true)
    (shared : (s.registries.get (L.registry a.half)).holders.isFree
      (L.resources a.half).items = false) :
    Path L t s (.acquiring a .begin) (withdrawing L a.half) (.ready (some (a.reply .refused))) := by
  obtain ⟨⟨lock, kind⟩, entry, patience⟩ := a
  obtain ⟨monitors, mutex⟩ := clear
  obtain rfl : kind = .write := write
  refine .look mutex absent (.goIn ?_ ?_ (.findFree ?_ ?_))
  · simpa [Effect.applyAll, looking, State.Heeds, Effect.isInterrupted_apply] using calm
  · simp [Effect.applyAll, looking, Effect.inside_apply, monitors]
  · simpa [Effect.applyAll, looking, entering, Registry.isFree, Effect.owners_apply] using unowned
  refine .step (fun _ _ => .record .owner) rfl ?_
  refine .step (fun _ _ => .claim) rfl (.goIn ?_ ?_ (.giveUp ?_ ?_ ?_ ?_))
  · simpa [Effect.applyAll, looking, entering, State.Heeds, Effect.isInterrupted_apply] using calm
  · simp [Effect.applyAll, looking, entering, Effect.inside_apply, monitors]
  · simpa [Effect.applyAll, looking, entering, State.Heeds, Effect.isInterrupted_apply] using calm
  · simpa [Effect.applyAll, looking, entering] using spent
  · simpa [Effect.applyAll, looking, entering, Registry.isFree, Effect.holders_apply] using shared
  refine .step (fun _ _ => .leave .holder .refused) rfl ?_
  refine .step (fun _ _ => .withdraw .refused) rfl ?_
  refine .step (fun _ _ => .goBack .refused ?_) rfl ?_
  · simp [State.later, State.setActivity, Effect.applyAll, looking, entering, Effect.inside_apply]
  refine .step (fun _ _ => .unclaim .refused) rfl ?_
  refine .step (fun _ _ => .leave .owner .refused) rfl ?_
  exact .step (fun _ _ => .conclude .refused) rfl (.here ..)

/-- **An acquisition of a half that the thread holds fails at its first look.** -/
theorem alreadyHeld (mutex : (s.holds.get a.half).mutex = none) (held : s.IsHeldBy a.half t) :
    Path L t s (.acquiring a .begin) (looking a.half)
      (.ready (some (.failed (.alreadyHeld a.half.kind)))) := by
  refine .step (fun _ _ => .begin mutex) rfl ?_
  refine .step (fun _ _ => .alreadyHeld ?_) rfl (.here ..)
  exact (Effect.isHeldBy_apply L t s (.enterMutex a.half) a.half t).2 held

/-! ## Releases -/

/-- **A release of a half that the thread holds ends the hold.** -/
theorem released (clear : s.IsClear L h) (held : s.IsHeldBy h t) :
    Path L t s (.releasing ⟨h, false⟩ .begin) (releasing L h) (.ready (some .done)) := by
  obtain ⟨monitors, mutex⟩ := clear
  refine .step (fun _ _ => .begin mutex) rfl ?_
  refine .step (fun _ _ => .part ?_) rfl ?_
  · exact (Effect.isHeldBy_apply L t s (.enterMutex h) h t).2 held
  refine .step (fun _ _ => .enter ?_) rfl ?_
  · simp [State.later, State.setActivity, Effect.inside_apply, monitors]
  refine .step (fun _ _ => .clear) rfl ?_
  refine .step (fun _ _ => .leave) rfl ?_
  exact .step (fun _ _ => .conclude) rfl (.here ..)

/-- **A release of a half that the thread does not hold fails at its first look.** -/
theorem notHeld (mutex : (s.holds.get h).mutex = none) (absent : ¬ s.IsHeldBy h t) :
    Path L t s (.releasing ⟨h, false⟩ .begin) (looking h)
      (.ready (some (.failed (.notHeld h.kind)))) := by
  refine .step (fun _ _ => .begin mutex) rfl ?_
  refine .step (fun _ _ => .notHeld ?_ rfl) rfl (.here ..)
  exact mt (Effect.isHeldBy_apply L t s (.enterMutex h) h t).1 absent

/-! ## Questions -/

/-- An answer depends on ledgers and hold sets alone. -/
theorem answer_eq {s' : State b K} (same : s.SameRecords s') (q : Query K) :
    s'.answer t q = s.answer t q := by
  obtain ⟨owners, holders, held⟩ := same
  cases q with
  | status g r => simp only [State.answer, Registry.status, owners, holders]
  | isExclusiveFree g rs => simp only [State.answer, Registry.isFree, owners]
  | isSharedFree g rs => simp only [State.answer, Registry.isFree, holders]
  | counts g => simp only [State.answer, Registry.counts, owners, holders]
  | isHeld h => simp only [State.answer, held]

namespace Path

variable {q : Query K} {g : RegistryId} {s₀ : State b K}

/-- A question is answered inside the holder monitor. -/
theorem readHolders (looks : q.LooksIn g .holder) (same : s₀.SameRecords s)
    (rest : Path L t s (.asking q (.leavingHolder (s₀.answer t q))) es A') :
    Path L t s (.asking q .reading) (.nothing :: es) A' := by
  refine .step (fun nanos B => ?_) rfl rest
  have answer : ((s.later nanos).setActivity t B).answer t q = s₀.answer t q :=
    answer_eq same.later.setActivity q
  rw [← answer]
  exact .readHolders g looks

/-- A question is answered inside the owner monitor alone. -/
theorem readOwners (looks : q.LooksIn g .owner) (other : ¬ q.LooksIn g .holder)
    (same : s₀.SameRecords s)
    (rest : Path L t s (.asking q (.leavingOwner (s₀.answer t q))) es A') :
    Path L t s (.asking q .reading) (.nothing :: es) A' := by
  refine .step (fun nanos B => ?_) rfl rest
  have answer : ((s.later nanos).setActivity t B).answer t q = s₀.answer t q :=
    answer_eq same.later.setActivity q
  rw [← answer]
  exact .readOwners g looks other

end Path

/-- **A question is answered from the ledgers as they are.** -/
theorem answered {q : Query K}
    (monitors : ∀ g m, q.LooksIn g m → (s.registries.get g).inside m = none)
    (mutex : ∀ h, q = .isHeld h → (s.holds.get h).mutex = none) :
    Path L t s (.asking q .begin) (asking q) (.ready (some (s.answer t q))) := by
  cases q with
  | status g r | counts g =>
    refine .step (fun _ _ => .descend g rfl rfl (monitors g .owner rfl)) rfl ?_
    refine .step (fun _ _ => .reach g rfl rfl ?_) rfl ?_
    · simp [State.later, State.setActivity, Effect.inside_apply, monitors g .holder rfl]
    have same : s.SameRecords (Effect.applyAll L t s [.enter g .owner, .enter g .holder]) :=
      Effect.sameRecords_applyAll rfl
    refine .readHolders (g := g) rfl same ?_
    refine .step (fun _ _ => .ascend g _ rfl rfl) rfl ?_
    exact .step (fun _ _ => .leaveOwner g _ rfl) rfl (.here ..)
  | isExclusiveFree g rs =>
    have other : ¬ (Query.isExclusiveFree g rs).LooksIn g .holder := by
      rintro ⟨-, hm⟩
      cases hm
    refine .step (fun _ _ => .enter g .owner ⟨rfl, rfl⟩ (fun _ looks => looks.2)
      (monitors g .owner ⟨rfl, rfl⟩)) rfl ?_
    have same : s.SameRecords (Effect.applyAll L t s [.enter g .owner]) :=
      Effect.sameRecords_applyAll rfl
    refine .readOwners (g := g) ⟨rfl, rfl⟩ other same ?_
    exact .step (fun _ _ => .leaveOwner g _ ⟨rfl, rfl⟩) rfl (.here ..)
  | isSharedFree g rs =>
    have other : ¬ (Query.isSharedFree g rs).LooksIn g .owner := by
      rintro ⟨-, hm⟩
      cases hm
    refine .step (fun _ _ => .enter g .holder ⟨rfl, rfl⟩ (fun _ looks => looks.2)
      (monitors g .holder ⟨rfl, rfl⟩)) rfl ?_
    have same : s.SameRecords (Effect.applyAll L t s [.enter g .holder]) :=
      Effect.sameRecords_applyAll rfl
    refine .readHolders (g := g) ⟨rfl, rfl⟩ same ?_
    exact .step (fun _ _ => .leaveHolder g _ other ⟨rfl, rfl⟩) rfl (.here ..)
  | isHeld h =>
    refine .step (fun _ _ => .enterMutex h rfl (mutex h rfl)) rfl ?_
    refine .step (fun nanos B => ?_) rfl (.here ..)
    have answer : (((Effect.apply L t s (.enterMutex h)).later nanos).setActivity t B).answer t
        (.isHeld h) = s.answer t (.isHeld h) := by
      have same : s.SameRecords (Effect.applyAll L t s [.enterMutex h]) :=
        Effect.sameRecords_applyAll rfl
      exact answer_eq same.later.setActivity (.isHeld h)
    rw [← answer]
    exact .leaveMutex h rfl

/-! ## What the courses do to the ledgers -/

end Solo

namespace State

/-- A half has been put on record for a thread and joined by it. -/
structure Gains (L : Layout K) (s : State b K) (t : ThreadId) (h : Half) (s' : State b K) :
    Prop where
  /-- The resources of a write half are claimed. -/
  owners : ∀ g, (s'.registries.get g).owners =
    if h.kind = .write ∧ L.registry h = g
    then (s.registries.get g).owners.claim (L.resources h).items t
    else (s.registries.get g).owners
  /-- The resources of a read half have one more hold. -/
  holders : ∀ g, (s'.registries.get g).holders =
    if h.kind = .read ∧ L.registry h = g
    then (s.registries.get g).holders.hold (L.resources h).items t
    else (s.registries.get g).holders
  /-- The thread holds the half. -/
  held : ∀ h' u, s'.IsHeldBy h' u ↔ (h' = h ∧ u = t) ∨ s.IsHeldBy h' u

/-- A half has been taken off the record for a thread and left by it. -/
structure Loses (L : Layout K) (s : State b K) (t : ThreadId) (h : Half) (s' : State b K) :
    Prop where
  /-- The claim of a write half is withdrawn. -/
  owners : ∀ g, (s'.registries.get g).owners =
    if h.kind = .write ∧ L.registry h = g
    then (s.registries.get g).owners.withdraw (L.resources h).items
    else (s.registries.get g).owners
  /-- The resources of a read half have one hold less. -/
  holders : ∀ g, (s'.registries.get g).holders =
    if h.kind = .read ∧ L.registry h = g
    then (s.registries.get g).holders.release (L.resources h).items t
    else (s.registries.get g).holders
  /-- The thread does not hold the half any more. -/
  held : ∀ h' u, s'.IsHeldBy h' u ↔ ¬ (h' = h ∧ u = t) ∧ s.IsHeldBy h' u

end State

namespace Solo

variable {L : Layout K} {t : ThreadId} {s : State b K} {h : Half}

/-- What is granted is on record and held. -/
theorem gains_granting : s.Gains L t h (Effect.applyAll L t s (granting L h)) := by
  obtain ⟨lock, kind⟩ := h
  constructor
  · intro g
    cases kind <;>
      simp [Effect.applyAll, granting, looking, entering, joining, Effect.owners_apply]
  · intro g
    cases kind <;>
      simp [Effect.applyAll, granting, looking, entering, joining, Effect.holders_apply]
  · intro h' u
    cases kind <;>
      simp [Effect.applyAll, granting, looking, entering, joining, Effect.isHeldBy_apply]

/-- What is released is on record and held no more. -/
theorem loses_releasing : s.Loses L t h (Effect.applyAll L t s (releasing L h)) := by
  obtain ⟨lock, kind⟩ := h
  constructor
  · intro g
    cases kind <;> simp [Effect.applyAll, releasing, Monitor.ofKind, Effect.owners_apply]
  · intro g
    cases kind <;> simp [Effect.applyAll, releasing, Monitor.ofKind, Effect.holders_apply]
  · intro h' u
    cases kind <;> simp [Effect.applyAll, releasing, Monitor.ofKind, Effect.isHeldBy_apply]

/-- A look changes nothing. -/
theorem sameRecords_looking : s.SameRecords (Effect.applyAll L t s (looking h)) :=
  Effect.sameRecords_applyAll rfl

/-- Giving up at the owner monitor changes nothing. -/
theorem sameRecords_barring : s.SameRecords (Effect.applyAll L t s (barring L h)) :=
  Effect.sameRecords_applyAll rfl

/-- A claim that is withdrawn is undone. -/
theorem sameRecords_withdrawing
    (unowned : (s.registries.get (L.registry h)).owners.isFree (L.resources h).items = true) :
    s.SameRecords (Effect.applyAll L t s (withdrawing L h)) := by
  constructor
  · intro g
    have undone := Owners.withdraw_claim (L.resources h).nodup (Owners.isFree_iff.1 unowned) t
    by_cases hg : L.registry h = g
    · subst hg
      simpa [Effect.applyAll, withdrawing, looking, entering, Effect.owners_apply] using undone
    · simp [Effect.applyAll, withdrawing, looking, entering, Effect.owners_apply, hg]
  · intro g
    simp [Effect.applyAll, withdrawing, looking, entering, Effect.holders_apply]
  · intro h' u
    simp [Effect.applyAll, withdrawing, looking, entering, Effect.isHeldBy_apply]

/-- A question changes nothing. -/
theorem sameRecords_asking (q : Query K) : s.SameRecords (Effect.applyAll L t s (asking q)) := by
  refine Effect.sameRecords_applyAll ?_
  cases q <;> rfl

end Solo

end ResourceLocks.Protocol
