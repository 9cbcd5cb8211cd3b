import ResourceLocks.Proofs.Protocol.Turn

/-!
# What a turn does to where a thread stands

For every view of an activity in `Proofs.Protocol.Position` one lemma: how it changes in a turn, in
terms of the effect of the turn alone. Together with the lemmas of `Proofs.Protocol.Effect`, which
say what the effect does to the shared state, they carry the invariant of the protocol.

* A thread is inside the monitors and the mutex that it has entered and not left
  (`Turn.isInside_iff`, `Turn.mutex?_eq`).
* A half becomes pending when it is recorded and when its hold set is left; it is pending no longer
  when it is cleared and when its hold set is joined (`Turn.pending?_shifts`).
* What is found free of owners or holders was found so before or is so now (`Turn.unowned?_after`,
  `Turn.drained?_after`).
* `Effect.Requires` is what has to be the case for an effect (`Turn.requires`): a ledger is changed
  from inside its monitor, what is recorded has been found without owners, what is joined for
  writing has been found without holders.
-/

namespace ResourceLocks.Protocol

variable {b : Backing} {K : Type} [Key K]

/-- The mutex that a thread is inside after an effect. -/
def Effect.mutexAfter (e : Effect) (before : Option Half) : Option Half :=
  match e with
  | .enterMutex h => some h
  | _ => if e.mutexLeft?.isSome then none else before

/-- How an effect changes the half that is pending. -/
def Effect.Shifts (e : Effect) (before after : Option Half) : Prop :=
  match e with
  | .record _ h | .part h => before = none ∧ after = some h
  | .clear _ h | .join h => before = some h ∧ after = none
  | _ => after = before

/-- What has to be the case for an effect of a thread in an activity. -/
def Effect.Requires (L : Layout K) (s : State b K) (t : ThreadId) (A : Activity K) : Effect → Prop
  | .enter g m => (s.registries.get g).inside m = none
  | .exit g m => A.IsInside L g m
  | .record m h =>
    A.IsInside L (L.registry h) m ∧ m = .ofKind h.kind ∧ A.unowned? = some h ∧ A.absent? = some h
  | .clear m h => A.IsInside L (L.registry h) m ∧ m = .ofKind h.kind
  | .enterMutex h => (s.holds.get h).mutex = none ∧ A.mutex? = none
  | .exitMutex h _ => A.mutex? = some h
  | .join h => A.mutex? = some h ∧ (h.kind = .write → A.drained? = some h)
  | .part h => A.mutex? = some h ∧ s.IsHeldBy h t
  | .nothing | .heed | .note _ => True

variable {L : Layout K} {s : State b K} {t : ThreadId}

/-- The mutex that an effect leaves is the one that the thread is inside. -/
theorem Effect.Requires.mutex?_eq {e : Effect} {A : Activity K} {h : Half}
    (req : e.Requires L s t A) (left : e.mutexLeft? = some h) : A.mutex? = some h := by
  cases e with
  | exitMutex h' noted =>
    cases left
    exact req
  | join h' | part h' =>
    cases left
    exact req.1
  | _ => cases left

/-- A thread is inside the mutex that it has entered and not left. -/
theorem Effect.Requires.mutexAfter_eq_some_iff {e : Effect} {A : Activity K} {h : Half}
    (req : e.Requires L s t A) :
    e.mutexAfter A.mutex? = some h ↔
      e = .enterMutex h ∨ (A.mutex? = some h ∧ e.mutexLeft? ≠ some h) := by
  unfold Effect.mutexAfter
  cases hleft : e.mutexLeft? with
  | none =>
    cases e with
    | enterMutex h' => simp [req.2]
    | _ => simp
  | some h' =>
    have hmine : A.mutex? = some h' := req.mutex?_eq hleft
    cases e with
    | enterMutex h' => cases hleft
    | _ => simp [hmine]

/-! ## Acquisitions -/

namespace AcquireTurn

variable {a : Acquisition} {stage : AcquireStage} {e : Effect} {A' : Activity K}

/-- A turn of an acquisition leads to a stage that fits its kind. -/
theorem fits (turn : AcquireTurn L s t a stage e A') (fits : stage.Fits a.half.kind) : A'.Fits := by
  cases turn with
  | heed m | barred m => exact AcquireStage.fits_givingUp _ m nofun
  | enter m => exact AcquireStage.fits_entered _ m
  | free m => exact AcquireStage.fits_free _ m
  | record m => exact AcquireStage.fits_recorded fits
  | leave m v => exact AcquireStage.fits_left fits
  | heedInside m | refuse m =>
    cases m with
    | owner => exact .inr nofun
    | holder => exact .inl fits
  | taken m | settle m | sleep m | wake m | reenter m => cases m <;> exact fits
  | withdraw v | goBack v => exact fits
  | unclaim v => exact .inr fits.2
  | _ => trivial

/-- An acquisition is inside the monitors that it has entered and not left. -/
theorem isInside_iff (turn : AcquireTurn L s t a stage e A') (fits : stage.Fits a.half.kind)
    {g : RegistryId} {m : Monitor} :
    A'.IsInside L g m ↔
      e = .enter g m ∨ ((Activity.acquiring a stage).IsInside L g m ∧ e ≠ .exit g m) := by
  cases turn with
  | conclude v => cases v <;> simp [Activity.IsInside, AcquireStage.isInside, Effect.conclude]
  | claim =>
    -- A reader would stay inside the owner monitor here, but readers claim nothing.
    have hk : a.half.kind = .write := fits
    simp only [Activity.IsInside, AcquireStage.isInside, AcquireStage.isBehind_iff, hk]
    grind
  | _ =>
    simp only [Activity.IsInside, AcquireStage.isInside_givingUp, AcquireStage.isInside_free,
      AcquireStage.isInside_entered, AcquireStage.isInside_left, AcquireStage.isInside_recorded]
    grind [AcquireStage.isInside, AcquireStage.isBehind_iff]

/-- An acquisition is inside the mutex that it has entered and not left. -/
theorem mutex?_eq (turn : AcquireTurn L s t a stage e A') :
    A'.mutex? = e.mutexAfter (Activity.acquiring a stage : Activity K).mutex? := by
  cases turn with
  | conclude v => cases v <;> rfl
  | heed m | barred m | enter m | free m | record m | leave m v =>
    simp only [Activity.mutex?, AcquireStage.isInMutex_givingUp, AcquireStage.isInMutex_entered,
      AcquireStage.isInMutex_free, AcquireStage.isInMutex_recorded, AcquireStage.isInMutex_left]
    rfl
  | _ => rfl

/-- What is pending of an acquisition begins with its record and ends with the hold set. -/
theorem pending?_shifts (turn : AcquireTurn L s t a stage e A') (fits : stage.Fits a.half.kind) :
    e.Shifts (Activity.acquiring a stage : Activity K).pending? A'.pending? := by
  cases turn with
  | conclude v => cases v <;> rfl
  | leave m v =>
    simp only [Effect.Shifts, Activity.pending?]
    rw [AcquireStage.isPending_left fits]
  | claim =>
    have hk : a.half.kind = .write := fits
    simp [Effect.Shifts, Activity.pending?, AcquireStage.isPending, hk]
  | unclaim v =>
    have hk : a.half.kind = .write := fits.1
    simp [Effect.Shifts, Activity.pending?, AcquireStage.isPending, hk]
  | barred m | enter m | free m =>
    simp only [Effect.Shifts, Activity.pending?, AcquireStage.isPending_givingUp,
      AcquireStage.isPending_entered, AcquireStage.isPending_free, ne_eq, reduceCtorEq,
      not_false_eq_true]
  | heed m | record m =>
    simp only [Effect.Shifts, Activity.pending?, AcquireStage.isPending_givingUp,
      AcquireStage.isPending_recorded, ne_eq, reduceCtorEq, not_false_eq_true]
    simp [AcquireStage.isPending]
  | _ => simp [Effect.Shifts, Activity.pending?, AcquireStage.isPending]

/-- What is found free of owners was found so before, or is so now. -/
theorem unowned?_after (turn : AcquireTurn L s t a stage e A') (fits : stage.Fits a.half.kind)
    {h : Half} (unowned : A'.unowned? = some h) :
    e.isRecord = false ∧
      ((Activity.acquiring a stage : Activity K).unowned? = some h ∨
        (s.registries.get (L.registry h)).isFree .owner (L.resources h).items = true) := by
  cases turn with
  | conclude v => cases unowned
  | heed m | barred m | record m | leave m v =>
    simp only [Activity.unowned?, AcquireStage.isUnowned_givingUp, AcquireStage.isUnowned_recorded,
      AcquireStage.isUnowned_left] at unowned
    cases unowned
  | enter m | approach m =>
    simp only [Activity.unowned?, AcquireStage.isUnowned_entered] at unowned
    exact ⟨rfl, .inl unowned⟩
  | free m free =>
    cases m with
    | owner =>
      simp only [Activity.unowned?, Option.ite_none_right_eq_some, Option.some.injEq] at unowned
      obtain ⟨-, rfl⟩ := unowned
      exact ⟨rfl, .inr free⟩
    | holder =>
      have hk : a.half.kind = .write := fits
      simp [Activity.unowned?, hk, AcquireStage.free, AcquireStage.isUnowned] at unowned
  | claim =>
    have hk : a.half.kind = .write := fits
    simp [Activity.unowned?, hk, AcquireStage.isUnowned] at unowned
  | _ => simp [Activity.unowned?, AcquireStage.isUnowned] at unowned

/-- What is found free of holders was found so before, or is so now. -/
theorem drained?_after (turn : AcquireTurn L s t a stage e A') (fits : stage.Fits a.half.kind)
    {h : Half} (drained : A'.drained? = some h) :
    e.isRecord = false ∧
      ((Activity.acquiring a stage : Activity K).drained? = some h ∨
        (s.registries.get (L.registry h)).isFree .holder (L.resources h).items = true) := by
  cases turn with
  | conclude v => cases drained
  | heed m | barred m | enter m =>
    simp only [Activity.drained?, AcquireStage.isDrained_givingUp, AcquireStage.isDrained_entered]
      at drained
    cases drained
  | record m =>
    simp only [Activity.drained?, AcquireStage.isDrained_recorded fits] at drained
    cases drained
  | leave m v =>
    simp only [Activity.drained?, AcquireStage.isDrained_left fits] at drained
    exact ⟨rfl, .inl drained⟩
  | free m free =>
    simp only [Activity.drained?, AcquireStage.isDrained_free, decide_eq_true_eq,
      Option.ite_none_right_eq_some, Option.some.injEq] at drained
    obtain ⟨⟨-, rfl⟩, rfl⟩ := drained
    exact ⟨rfl, .inr free⟩
  | approachMutex => exact ⟨rfl, .inl drained⟩
  | _ => simp [Activity.drained?, AcquireStage.isDrained] at drained

/-- A half that the thread is known not to hold was known so before, or is seen so now. -/
theorem absent?_after (turn : AcquireTurn L s t a stage e A') {h : Half}
    (absent : A'.absent? = some h) :
    e.isJoin = false ∧
      ((Activity.acquiring a stage : Activity K).absent? = some h ∨ ¬ s.IsHeldBy h t) := by
  have hh : a.half = h := by
    cases A' with
    | acquiring a' stage' =>
      have ha : a' = a := by cases turn <;> rfl
      simp only [Activity.absent?, Option.ite_none_right_eq_some, Option.some.injEq] at absent
      rw [← ha, absent.2]
    | ready last => cases absent
    | releasing r stage' => cases turn
    | asking q stage' => cases turn
  subst hh
  cases turn with
  | begin | alreadyHeld | join => simp [Activity.absent?, AcquireStage.isAbsent] at absent
  | conclude v => cases absent
  | look notHeld => exact ⟨rfl, .inr notHeld⟩
  | _ => exact ⟨rfl, .inl rfl⟩

/-- A half that the thread has just joined it joins now. -/
theorem joined?_after (turn : AcquireTurn L s t a stage e A') {h : Half}
    (joined : A'.joined? = some h) : e = .join h := by
  cases turn with
  | join =>
    cases joined
    rfl
  | heed m | barred m => cases hk : a.half.kind <;> cases m <;> rw [hk] at joined <;> cases joined
  | enter m | free m => cases hk : a.half.kind <;> cases m <;> rw [hk] at joined <;> cases joined
  | record m => cases m <;> cases joined
  | leave m v =>
    cases hk : a.half.kind <;> cases m <;> cases v <;> rw [hk] at joined <;> cases joined
  | _ => cases joined

/-- An acquisition is where its effect takes it to be. -/
theorem requires (turn : AcquireTurn L s t a stage e A') (fits : stage.Fits a.half.kind) :
    e.Requires L s t (.acquiring a stage) := by
  cases turn with
  | begin free | approachMutex free => exact ⟨free, rfl⟩
  | enter _ free | reenter _ free | goBack _ free => exact free
  | alreadyHeld | look => rfl
  | sleep m | leave m => exact ⟨rfl, by simp [AcquireStage.isInside]⟩
  | claim => exact ⟨rfl, rfl⟩
  | record m => exact ⟨⟨rfl, by simp [AcquireStage.isInside]⟩, fits, rfl, rfl⟩
  | unclaim v => exact ⟨⟨rfl, rfl⟩, by rw [fits.1]; rfl⟩
  | join => exact ⟨rfl, fun hk => by simp [Activity.drained?, AcquireStage.isDrained, hk]⟩
  | conclude v => cases v <;> trivial
  | _ => trivial

end AcquireTurn

/-! ## Releases -/

namespace ReleaseTurn

variable {r : Release} {stage : ReleaseStage} {e : Effect} {A' : Activity K}

/-- A release is inside the monitors that it has entered and not left. -/
theorem isInside_iff (turn : ReleaseTurn L s t r stage e A') {g : RegistryId} {m : Monitor} :
    A'.IsInside L g m ↔
      e = .enter g m ∨ ((Activity.releasing r stage).IsInside L g m ∧ e ≠ .exit g m) := by
  cases turn <;> simp [Activity.IsInside, eq_comm]

/-- A release is inside the mutex that it has entered and not left. -/
theorem mutex?_eq (turn : ReleaseTurn L s t r stage e A') :
    A'.mutex? = e.mutexAfter (Activity.releasing r stage : Activity K).mutex? := by
  cases turn <;> rfl

/-- What is pending of a release begins with the hold set and ends when it is cleared. -/
theorem pending?_shifts (turn : ReleaseTurn L s t r stage e A') :
    e.Shifts (Activity.releasing r stage : Activity K).pending? A'.pending? := by
  cases turn with
  | part | clear => exact ⟨rfl, rfl⟩
  | _ => rfl

/-- A release does not hold its half after it has parted from the hold set. -/
theorem absent?_after (turn : ReleaseTurn L s t r stage e A') {h : Half}
    (absent : A'.absent? = some h) :
    e.isJoin = false ∧
      (e = .part h ∨ (Activity.releasing r stage : Activity K).absent? = some h) := by
  cases turn with
  | part =>
    cases absent
    exact ⟨rfl, .inl rfl⟩
  | enter | clear | leave => exact ⟨rfl, .inr absent⟩
  | _ => cases absent

/-- A release is where its effect takes it to be. -/
theorem requires (turn : ReleaseTurn L s t r stage e A') :
    e.Requires L s t (.releasing r stage) := by
  cases turn with
  | begin free => exact ⟨free, rfl⟩
  | enter free => exact free
  | part held => exact ⟨rfl, held⟩
  | notHeld | dropFailed => rfl
  | clear => exact ⟨⟨rfl, rfl, .inl rfl⟩, rfl⟩
  | leave => exact ⟨rfl, rfl, .inr rfl⟩
  | conclude => trivial

end ReleaseTurn

/-! ## Questions -/

namespace AskTurn

variable {q : Query K} {stage : QueryStage} {e : Effect} {A' : Activity K}

/-- A question is inside the monitors that it has entered and not left. -/
theorem isInside_iff (turn : AskTurn s t q stage e A') {g : RegistryId} {m : Monitor} :
    A'.IsInside L g m ↔
      e = .enter g m ∨ ((Activity.asking q stage).IsInside L g m ∧ e ≠ .exit g m) := by
  have registry {g₀ m₀ m₁} (looks : q.LooksIn g₀ m₀) (looks' : q.LooksIn g m₁) : g₀ = g :=
    looks.registry_eq looks'
  cases turn with
  | enterMutex h asked | leaveMutex h asked =>
    subst asked
    simp [Activity.IsInside, Query.LooksIn]
  | _ => cases m <;> simp [Activity.IsInside, Query.isInside] <;> grind

/-- A question is inside the mutex that it has entered and not left. -/
theorem mutex?_eq (turn : AskTurn s t q stage e A') :
    A'.mutex? = e.mutexAfter (Activity.asking q stage).mutex? := by
  cases turn with
  | enterMutex h asked | leaveMutex h asked =>
    subst asked
    rfl
  | descend g looks | reach g looks | enter g _ looks | readHolders g looks | readOwners g looks
  | ascend g _ looks | leaveHolder g _ _ looks | leaveOwner g _ looks =>
    -- Only questions about hold sets are answered inside a mutex.
    cases q with
    | isHeld h => cases looks
    | _ => rfl

/-- A question records nothing. -/
theorem pending?_shifts (turn : AskTurn s t q stage e A') : e.Shifts none A'.pending? := by
  cases turn <;> rfl

/-- A question is where its effect takes it to be. -/
theorem requires (turn : AskTurn s t q stage e A') : e.Requires L s t (.asking q stage) := by
  cases turn with
  | descend _ _ _ free | reach _ _ _ free | enter _ _ _ _ free => exact free
  | enterMutex h asked free =>
    subst asked
    exact ⟨free, rfl⟩
  | readHolders | readOwners => trivial
  | ascend g _ _ looks | leaveHolder g _ _ looks => exact ⟨looks, rfl⟩
  | leaveOwner g _ looks => exact ⟨looks, rfl⟩
  | leaveMutex h asked =>
    subst asked
    rfl

end AskTurn

/-! ## All turns -/

namespace State.Turn

variable {A A' : Activity K} {e : Effect}

/-- Every turn leads to a stage that fits its kind. -/
theorem fits (turn : s.Turn L t A e A') (hf : A.Fits) : A'.Fits := by
  cases turn with
  | call last c => cases c <;> trivial
  | acquire turn => exact turn.fits hf
  | release turn => cases turn <;> trivial
  | ask turn => cases turn <;> trivial
  | expire a m => exact AcquireStage.fits_givingUp _ m nofun
  | rouse a m => cases m <;> exact hf

/-- **Monitors**: a thread is inside those that it has entered and not left. -/
theorem isInside_iff (turn : s.Turn L t A e A') (hf : A.Fits) {g : RegistryId} {m : Monitor} :
    A'.IsInside L g m ↔ e = .enter g m ∨ (A.IsInside L g m ∧ e ≠ .exit g m) := by
  cases turn with
  | call last c =>
    cases c <;> simp [Call.start, Activity.IsInside, AcquireStage.isInside, Query.isInside]
  | acquire turn => exact turn.isInside_iff hf
  | release turn => exact turn.isInside_iff
  | ask turn => exact turn.isInside_iff
  | expire a m' =>
    simp only [Activity.IsInside, AcquireStage.isInside_givingUp]
    simp [AcquireStage.isInside]
  | rouse a m' => simp [Activity.IsInside, AcquireStage.isInside]

/-- **Mutexes**: a thread is inside the one that it has entered and not left. -/
theorem mutex?_eq (turn : s.Turn L t A e A') :
    A'.mutex? = e.mutexAfter A.mutex? := by
  cases turn with
  | call last c =>
    cases c with
    | ask q => cases q <;> rfl
    | _ => rfl
  | acquire turn => exact turn.mutex?_eq
  | release turn => exact turn.mutex?_eq
  | ask turn => exact turn.mutex?_eq
  | expire a m =>
    simp only [Activity.mutex?, AcquireStage.isInMutex_givingUp]
    rfl
  | rouse a m => rfl

/-- **Pending halves**: recording and parting make one, clearing and joining settle it. -/
theorem pending?_shifts (turn : s.Turn L t A e A') (hf : A.Fits) :
    e.Shifts A.pending? A'.pending? := by
  cases turn with
  | call last c => cases c <;> rfl
  | acquire turn => exact turn.pending?_shifts hf
  | release turn => exact turn.pending?_shifts
  | ask turn => exact turn.pending?_shifts
  | expire a m =>
    simp only [Effect.Shifts, Activity.pending?, AcquireStage.isPending_givingUp, ne_eq,
      reduceCtorEq, not_false_eq_true]
  | rouse a m => simp [Effect.Shifts, Activity.pending?, AcquireStage.isPending]

/-- What is found free of owners was found so before, or is so now. -/
theorem unowned?_after (turn : s.Turn L t A e A') (hf : A.Fits) {h : Half}
    (unowned : A'.unowned? = some h) :
    e.isRecord = false ∧
      (A.unowned? = some h ∨
        (s.registries.get (L.registry h)).isFree .owner (L.resources h).items = true) := by
  cases turn with
  | call last c => cases c <;> cases unowned
  | acquire turn => exact turn.unowned?_after hf unowned
  | release turn => cases turn <;> cases unowned
  | ask turn => cases turn <;> cases unowned
  | expire a m =>
    simp only [Activity.unowned?, AcquireStage.isUnowned_givingUp] at unowned
    cases unowned
  | rouse a m => cases unowned

/-- What is found free of holders was found so before, or is so now. -/
theorem drained?_after (turn : s.Turn L t A e A') (hf : A.Fits) {h : Half}
    (drained : A'.drained? = some h) :
    e.isRecord = false ∧
      (A.drained? = some h ∨
        (s.registries.get (L.registry h)).isFree .holder (L.resources h).items = true) := by
  cases turn with
  | call last c => cases c <;> cases drained
  | acquire turn => exact turn.drained?_after hf drained
  | release turn => cases turn <;> cases drained
  | ask turn => cases turn <;> cases drained
  | expire a m =>
    simp only [Activity.drained?, AcquireStage.isDrained_givingUp] at drained
    cases drained
  | rouse a m => cases drained

/-- A half that the thread is known not to hold was known so before, is seen so now, or is left
now. -/
theorem absent?_after (turn : s.Turn L t A e A') {h : Half} (absent : A'.absent? = some h) :
    e.isJoin = false ∧ (e = .part h ∨ A.absent? = some h ∨ ¬ s.IsHeldBy h t) := by
  cases turn with
  | call last c => cases c <;> cases absent
  | acquire turn =>
    obtain ⟨nojoin, known⟩ := turn.absent?_after absent
    exact ⟨nojoin, .inr known⟩
  | release turn =>
    obtain ⟨nojoin, left | known⟩ := turn.absent?_after absent
    · exact ⟨nojoin, .inl left⟩
    · exact ⟨nojoin, .inr (.inl known)⟩
  | ask turn => cases turn <;> cases absent
  | expire a m =>
    simp only [Activity.absent?, AcquireStage.isAbsent_givingUp, ne_eq, reduceCtorEq,
      not_false_eq_true, if_true] at absent
    exact ⟨rfl, .inr (.inl absent)⟩
  | rouse a m => exact ⟨rfl, .inr (.inl absent)⟩

/-- A half that the thread has just joined it joins now. -/
theorem joined?_after (turn : s.Turn L t A e A') {h : Half} (joined : A'.joined? = some h) :
    e = .join h := by
  cases turn with
  | call last c => cases c <;> cases joined
  | acquire turn => exact turn.joined?_after joined
  | release turn => cases turn <;> cases joined
  | ask turn => cases turn <;> cases joined
  | expire a m => cases hk : a.half.kind <;> cases m <;> rw [hk] at joined <;> cases joined
  | rouse a m => cases joined

/-- What an effect requires is the case in a turn. -/
theorem requires (turn : s.Turn L t A e A') (hf : A.Fits) : e.Requires L s t A := by
  cases turn with
  | acquire turn => exact turn.requires hf
  | release turn => exact turn.requires
  | ask turn => exact turn.requires
  | _ => trivial

end State.Turn

end ResourceLocks.Protocol
