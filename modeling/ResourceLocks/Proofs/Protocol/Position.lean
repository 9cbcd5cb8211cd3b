import ResourceLocks.Protocol.Step

/-!
# Where a thread stands

The stage of a call says more than which step comes next. This file reads off it

* which monitors the thread is inside (`Activity.IsInside`) and which mutex (`Activity.mutex?`);
* the **pending** half (`Activity.pending?`): the half whose holds or claim are in a ledger for the
  thread while the thread is not in its hold set, because it has yet to join it, has left it
  already, or is about to withdraw;
* the half whose resources the thread has found without owners and has not recorded yet
  (`Activity.unowned?`), and the write half whose resources it has found without holders
  (`Activity.drained?`);
* the half that the thread cannot hold, having found so or having left it (`Activity.absent?`), and
  the half that it has just joined (`Activity.joined?`).

`AcquireStage.Fits` says which stages an acquisition of a kind can be in at all: only a writer waits
in the holder monitor, only a writer withdraws. `Activity.Alike` relates an activity to itself
after a notification; nothing that is read off a stage depends on it.
-/

namespace ResourceLocks.Protocol

variable {K : Type}

/-! ## Acquisitions -/

namespace AcquireStage

/-- A thread about to enter a monitor is inside another one: a reader goes to the holder monitor
from inside the owner monitor. -/
def isBehind (k : Kind) (m m' : Monitor) : Bool := k = .read && m = .holder && m' = .owner

/-- Only a reader on its way to the holder monitor is inside another monitor, the owner monitor. -/
theorem isBehind_iff {k : Kind} {m m' : Monitor} :
    isBehind k m m' = true ↔ k = .read ∧ m = .holder ∧ m' = .owner := by
  simp [isBehind, and_assoc]

/-- The thread is inside a monitor. -/
def isInside (k : Kind) : AcquireStage → Monitor → Bool
  | approaching m, m' | entering m, m' | asleep m _ _, m' | woken m, m' => isBehind k m m'
  | testing m, m' | taken m, m' | settling m, m' | recordingIn m, m' | leaving m _, m' =>
    m' = m || isBehind k m m'
  | claimed, m' | unclaiming _, m' => m' = .owner
  | begin, _ | looking, _ | withdrawing _, _ | returning _, _ | joining, _ | noting, _
  | concluding _, _ => false

/-- The thread is inside the mutex of the hold set. -/
def isInMutex : AcquireStage → Bool
  | looking | noting => true
  | _ => false

/-- The acquisition is in a ledger, and the thread not yet in the hold set. -/
def isPending (k : Kind) : AcquireStage → Bool
  | approaching m | entering m | testing m | taken m | settling m | asleep m _ _ | woken m =>
    k = .write && m = .holder
  | leaving m v => k = .write && m = .holder || k = .read && v = .acquired
  | claimed | withdrawing _ | returning _ | unclaiming _ | joining | noting => true
  | begin | looking | recordingIn _ | concluding _ => false

/-- The resources were found without owners, and the acquisition is not in a ledger yet. -/
def isUnowned (k : Kind) : AcquireStage → Bool
  | approaching m | entering m => k = .read && m = .holder
  | recordingIn _ => true
  | _ => false

/-- A writer has found the resources without holders, and is not yet in the hold set. -/
def isDrained (k : Kind) : AcquireStage → Bool
  | leaving m v => k = .write && m = .holder && v = .acquired
  | joining | noting => k = .write
  | _ => false

/-- The thread has looked into the hold set, and has not joined it since. -/
def isAbsent : AcquireStage → Bool
  | begin | looking | concluding .acquired => false
  | _ => true

/-- An acquisition of a kind can be in the stage. -/
def Fits (k : Kind) : AcquireStage → Prop
  | testing .holder | taken .holder | settling .holder | asleep .holder _ _ | woken .holder
  | claimed => k = .write
  | recordingIn m => m = .ofKind k
  | leaving .holder v => k = .write ∨ v = .acquired
  | leaving .owner v => k = .read ∨ v ≠ .acquired
  | withdrawing v | returning v | unclaiming v => k = .write ∧ v ≠ .acquired
  | _ => True

section sleepers

variable {k : Kind} {m m' : Monitor}

/-- Who sleeps is inside no monitor: a reader sleeps at the owner monitor alone. -/
theorem isInside_asleep {notified : Bool} {wakeAt : Option Instant}
    (fits : (asleep m notified wakeAt).Fits k) :
    (asleep m notified wakeAt).isInside k m' = false := by
  cases k <;> cases m <;> simp_all [Fits, isInside, isBehind]

/-- Nor is who has just been woken. -/
theorem isInside_woken (fits : (woken m).Fits k) : (woken m).isInside k m' = false := by
  cases k <;> cases m <;> simp_all [Fits, isInside, isBehind]

end sleepers

/-! ### The stages that follow

The rules of the protocol name the next stage by a function of kind and monitor. These lemmas say
where the thread then stands, so that nothing else has to unfold those functions. -/

section following

variable (k : Kind) (m m' : Monitor) (v : Verdict)

/-- Who gives up before a monitor is inside what it was inside of. -/
@[simp] theorem isInside_givingUp : (givingUp k m v).isInside k m' = isBehind k m m' := by
  cases k <;> cases m <;> cases m' <;> rfl

/-- Who has entered a monitor is inside it, and still inside the one it came from. -/
@[simp] theorem isInside_entered :
    (entered k m).isInside k m' = (decide (m' = m) || isBehind k m m') := by
  cases k <;> cases m <;> cases m' <;> rfl

/-- Who has found its resources free has not left the monitor. -/
@[simp] theorem isInside_free :
    (free k m).isInside k m' = (decide (m' = m) || isBehind k m m') := by
  cases k <;> cases m <;> cases m' <;> rfl

/-- Who has recorded its acquisition has not left the monitor. -/
@[simp] theorem isInside_recorded :
    (recorded m).isInside k m' = (decide (m' = m) || isBehind k m m') := by
  cases k <;> cases m <;> cases m' <;> rfl

/-- Who has left a monitor is inside the one it came from, at most. -/
@[simp] theorem isInside_left : (left k m v).isInside k m' = isBehind k m m' := by
  cases k <;> cases m <;> cases m' <;> cases v <;> rfl

/-- Who gives up is in no mutex. -/
@[simp] theorem isInMutex_givingUp : (givingUp k m v).isInMutex = false := by
  cases k <;> cases m <;> rfl

/-- Who has entered a monitor is in no mutex. -/
@[simp] theorem isInMutex_entered : (entered k m).isInMutex = false := by
  cases k <;> cases m <;> rfl

/-- Who has found its resources free is in no mutex. -/
@[simp] theorem isInMutex_free : (free k m).isInMutex = false := by
  cases k <;> cases m <;> rfl

/-- Who has recorded its acquisition is in no mutex. -/
@[simp] theorem isInMutex_recorded : (recorded m).isInMutex = false := by
  cases m <;> rfl

/-- Who has left a monitor is in no mutex. -/
@[simp] theorem isInMutex_left : (left k m v).isInMutex = false := by
  cases k <;> cases m <;> cases v <;> rfl

variable {v} in
/-- To give up changes nothing in a ledger. -/
theorem isPending_givingUp (hv : v ≠ .acquired) :
    (givingUp k m v).isPending k = (entering m).isPending k := by
  cases k <;> cases m <;> simp [givingUp, isPending, hv]

/-- To enter a monitor changes nothing in a ledger. -/
@[simp] theorem isPending_entered : (entered k m).isPending k = (entering m).isPending k := by
  cases k <;> cases m <;> rfl

/-- To find resources free changes nothing in a ledger. -/
@[simp] theorem isPending_free : (free k m).isPending k = (testing m).isPending k := by
  cases k <;> cases m <;> rfl

/-- What is recorded is in a ledger. -/
@[simp] theorem isPending_recorded : (recorded m).isPending k = true := by
  cases k <;> cases m <;> rfl

variable {k m v} in
/-- To leave a monitor changes nothing in a ledger. -/
theorem isPending_left (fits : (leaving m v).Fits k) :
    (left k m v).isPending k = (leaving m v).isPending k := by
  cases k <;> cases m <;> cases v <;> simp_all [Fits, left, isPending]

/-- Who gives up does not rely on having found no owners. -/
@[simp] theorem isUnowned_givingUp : (givingUp k m v).isUnowned k = false := by
  cases k <;> cases m <;> rfl

/-- To enter a monitor loses nothing of what was found in the one before. -/
@[simp] theorem isUnowned_entered : (entered k m).isUnowned k = (entering m).isUnowned k := by
  cases k <;> cases m <;> rfl

/-- What is recorded does not rely any more on having found no owners. -/
@[simp] theorem isUnowned_recorded : (recorded m).isUnowned k = false := by
  cases m <;> rfl

/-- Who has left a monitor does not rely on having found no owners. -/
@[simp] theorem isUnowned_left : (left k m v).isUnowned k = false := by
  cases k <;> cases m <;> cases v <;> rfl

/-- Who gives up has not drained. -/
@[simp] theorem isDrained_givingUp : (givingUp k m v).isDrained k = false := by
  cases k <;> cases m <;> simp [givingUp, isDrained]

/-- Who is about to look has not drained. -/
@[simp] theorem isDrained_entered : (entered k m).isDrained k = false := by
  cases k <;> cases m <;> rfl

/-- A writer has drained when it finds its resources free in the holder monitor. -/
@[simp] theorem isDrained_free : (free k m).isDrained k = decide (k = .write ∧ m = .holder) := by
  cases k <;> cases m <;> rfl

variable {k m} in
/-- A claim that was just recorded has yet to be drained. -/
theorem isDrained_recorded (fits : (recordingIn m).Fits k) : (recorded m).isDrained k = false := by
  cases k <;> cases m <;> simp_all [Fits, recorded, isDrained, Monitor.ofKind]

variable {k m v} in
/-- To leave the holder monitor loses nothing of what was found there. -/
theorem isDrained_left (fits : (leaving m v).Fits k) :
    (left k m v).isDrained k = (leaving m v).isDrained k := by
  cases k <;> cases m <;> cases v <;> simp_all [Fits, left, isDrained]

variable {v} in
/-- Who gives up has not joined the hold set. -/
theorem isAbsent_givingUp (hv : v ≠ .acquired) : (givingUp k m v).isAbsent = true := by
  cases k <;> cases m <;> simp [givingUp, isAbsent, hv]

/-- Who has entered a monitor has not joined the hold set. -/
@[simp] theorem isAbsent_entered : (entered k m).isAbsent = true := by
  cases k <;> cases m <;> rfl

/-- Who has found its resources free has not joined the hold set. -/
@[simp] theorem isAbsent_free : (free k m).isAbsent = true := by
  cases k <;> cases m <;> rfl

/-- Who has recorded its acquisition has not joined the hold set. -/
@[simp] theorem isAbsent_recorded : (recorded m).isAbsent = true := by
  cases m <;> rfl

/-- Who has left a monitor has not joined the hold set. -/
@[simp] theorem isAbsent_left : (left k m v).isAbsent = true := by
  cases k <;> cases m <;> cases v <;> rfl

variable {v} in
/-- To give up leads to a stage of the same kind. -/
theorem fits_givingUp (hv : v ≠ .acquired) : (givingUp k m v).Fits k := by
  cases k <;> cases m <;> simp [givingUp, Fits, hv]

/-- To enter a monitor leads to a stage of the same kind. -/
theorem fits_entered : (entered k m).Fits k := by
  cases k <;> cases m <;> simp [entered, Fits, Monitor.ofKind]

/-- To find resources free leads to a stage of the same kind. -/
theorem fits_free : (free k m).Fits k := by
  cases k <;> cases m <;> simp [free, Fits, Monitor.ofKind]

variable {k m} in
/-- To record an acquisition leads to a stage of the same kind. -/
theorem fits_recorded (fits : (recordingIn m).Fits k) : (recorded m).Fits k := by
  cases k <;> cases m <;> simp_all [recorded, Fits, Monitor.ofKind]

variable {k m v} in
/-- To leave a monitor leads to a stage of the same kind. -/
theorem fits_left (fits : (leaving m v).Fits k) : (left k m v).Fits k := by
  cases k <;> cases m <;> cases v <;> simp_all [left, Fits]

end following

end AcquireStage

/-! ## Questions -/

namespace Query

/-- The question is answered from the ledger of a monitor. -/
def LooksIn (q : Query K) (g : RegistryId) (m : Monitor) : Prop :=
  match q with
  | .status g' _ | .counts g' => g' = g
  | .isExclusiveFree g' _ => g' = g ∧ m = .owner
  | .isSharedFree g' _ => g' = g ∧ m = .holder
  | .isHeld _ => False

/-- A question is answered from one registry. -/
theorem LooksIn.registry_eq {q : Query K} {g g' : RegistryId} {m m' : Monitor}
    (looks : q.LooksIn g m) (looks' : q.LooksIn g' m') : g = g' := by
  cases q with
  | status g₀ r | counts g₀ => exact looks.symm.trans looks'
  | isExclusiveFree g₀ rs | isSharedFree g₀ rs => exact looks.1.symm.trans looks'.1
  | isHeld h => cases looks

/-- The thread that asks the question is inside a monitor of the registry it looks into. -/
def isInside (stage : QueryStage) (m : Monitor) : Bool :=
  match stage, m with
  | .descending, .owner | .reading, _ | .leavingHolder _, _ | .leavingOwner _, .owner => true
  | _, _ => false

end Query

/-! ## Activities -/

namespace Activity

/-- The thread is inside a monitor of a registry. -/
def IsInside [Key K] (L : Layout K) (A : Activity K) (g : RegistryId) (m : Monitor) : Prop :=
  match A with
  | .ready _ => False
  | .acquiring a stage => L.registry a.half = g ∧ stage.isInside a.half.kind m = true
  | .releasing r stage =>
    L.registry r.half = g ∧ m = .ofKind r.half.kind ∧ (stage = .clearing ∨ stage = .leaving)
  | .asking q stage => q.LooksIn g m ∧ Query.isInside stage m = true

/-- The half whose mutex the thread is inside. -/
def mutex? : Activity K → Option Half
  | .acquiring a stage => if stage.isInMutex then some a.half else none
  | .releasing r .looking => some r.half
  | .asking (.isHeld h) .reading => some h
  | _ => none

/-- The half that is in a ledger for the thread although the thread is not in its hold set. -/
def pending? : Activity K → Option Half
  | .acquiring a stage => if stage.isPending a.half.kind then some a.half else none
  | .releasing r .entering | .releasing r .clearing => some r.half
  | _ => none

/-- The half whose resources the thread has found without owners. -/
def unowned? : Activity K → Option Half
  | .acquiring a stage => if stage.isUnowned a.half.kind then some a.half else none
  | _ => none

/-- The write half whose resources the thread has found without holders. -/
def drained? : Activity K → Option Half
  | .acquiring a stage => if stage.isDrained a.half.kind then some a.half else none
  | _ => none

/-- The half that the thread cannot hold. -/
def absent? : Activity K → Option Half
  | .acquiring a stage => if stage.isAbsent then some a.half else none
  | .releasing r .entering | .releasing r .clearing | .releasing r .leaving
  | .releasing r .concluding => some r.half
  | _ => none

/-- The half that the thread has just joined. -/
def joined? : Activity K → Option Half
  | .acquiring a (.concluding .acquired) => some a.half
  | _ => none

/-- An acquisition is in a stage that its kind can be in. -/
def Fits : Activity K → Prop
  | .acquiring a stage => stage.Fits a.half.kind
  | _ => True

end Activity

/-! ### What the views have to do with each other -/

section views

variable {A : Activity K} {h : Half}

/-- A half that is pending is not held. -/
theorem Activity.absent?_of_pending? (hp : A.pending? = some h) : A.absent? = some h := by
  cases A with
  | ready last => cases hp
  | acquiring a stage =>
    cases stage with
    | concluding v => simp [Activity.pending?, AcquireStage.isPending] at hp
    | begin | looking | recordingIn m => simp [Activity.pending?, AcquireStage.isPending] at hp
    | _ =>
      simp only [Activity.pending?, Option.ite_none_right_eq_some] at hp
      simp [Activity.absent?, AcquireStage.isAbsent, hp.2]
  | releasing r stage =>
    cases stage with
    | entering | clearing => exact hp
    | _ => cases hp
  | asking q stage => cases hp

/-- A half whose resources were found free of owners is still to be recorded. -/
theorem Activity.pending?_of_unowned? (hu : A.unowned? = some h) : A.pending? = none := by
  cases A with
  | acquiring a stage =>
    simp only [Activity.unowned?, Option.ite_none_right_eq_some, Option.some.injEq] at hu
    obtain ⟨hu, rfl⟩ := hu
    cases stage with
    | approaching m | entering m =>
      simp only [AcquireStage.isUnowned, Bool.and_eq_true, decide_eq_true_eq] at hu
      simp [Activity.pending?, AcquireStage.isPending, hu.1]
    | recordingIn m => rfl
    | _ => simp [AcquireStage.isUnowned] at hu
  | _ => cases hu

/-- Who has found resources without owners is inside the owner monitor. -/
theorem Activity.isInside_of_unowned? [Key K] {L : Layout K} (hf : A.Fits)
    (hu : A.unowned? = some h) : A.IsInside L (L.registry h) .owner := by
  cases A with
  | acquiring a stage =>
    simp only [Activity.unowned?, Option.ite_none_right_eq_some, Option.some.injEq] at hu
    obtain ⟨hu, rfl⟩ := hu
    refine ⟨rfl, ?_⟩
    cases stage with
    | approaching m | entering m =>
      simp only [AcquireStage.isUnowned, Bool.and_eq_true, decide_eq_true_eq] at hu
      simp [AcquireStage.isInside, AcquireStage.isBehind, hu.1, hu.2]
    | recordingIn m =>
      have hm : m = .ofKind a.half.kind := hf
      cases hk : a.half.kind <;>
        simp [AcquireStage.isInside, AcquireStage.isBehind, hm, hk, Monitor.ofKind]
    | _ => simp [AcquireStage.isUnowned] at hu
  | _ => cases hu

/-- A writer that has found its resources without holders has claimed them. -/
theorem Activity.pending?_of_drained? (hd : A.drained? = some h) :
    h.kind = .write ∧ A.pending? = some h := by
  cases A with
  | acquiring a stage =>
    simp only [Activity.drained?, Option.ite_none_right_eq_some, Option.some.injEq] at hd
    obtain ⟨hd, rfl⟩ := hd
    cases stage with
    | leaving m v =>
      simp only [AcquireStage.isDrained, Bool.and_eq_true, decide_eq_true_eq] at hd
      simp [Activity.pending?, AcquireStage.isPending, hd.1.1, hd.1.2]
    | joining | noting =>
      simp only [AcquireStage.isDrained, decide_eq_true_eq] at hd
      simp [Activity.pending?, AcquireStage.isPending, hd]
    | _ => simp [AcquireStage.isDrained] at hd
  | _ => cases hd

end views

/-! ### Notifications -/

/-- The same activity, but for a notification. -/
def Activity.Alike (A B : Activity K) : Prop :=
  B = A ∨ ∃ a m notified wakeAt,
    A = .acquiring a (.asleep m notified wakeAt) ∧ B = .acquiring a (.asleep m true wakeAt)

namespace Activity.Alike

variable {A B : Activity K}

/-- Without a notification an activity is the same. -/
theorem refl (A : Activity K) : Alike A A := .inl rfl

/-- A notification moves nobody into a monitor or out of one. -/
theorem isInside [Key K] {L : Layout K} (h : Alike A B) {g : RegistryId} {m : Monitor} :
    B.IsInside L g m ↔ A.IsInside L g m := by
  obtain rfl | ⟨a, m, n, w, rfl, rfl⟩ := h <;> rfl

/-- A notification moves nobody into a mutex or out of one. -/
theorem mutex? (h : Alike A B) : B.mutex? = A.mutex? := by
  obtain rfl | ⟨a, m, n, w, rfl, rfl⟩ := h <;> rfl

/-- A notification changes nothing about what is pending. -/
theorem pending? (h : Alike A B) : B.pending? = A.pending? := by
  obtain rfl | ⟨a, m, n, w, rfl, rfl⟩ := h <;> rfl

/-- A notification changes nothing about what was found unowned. -/
theorem unowned? (h : Alike A B) : B.unowned? = A.unowned? := by
  obtain rfl | ⟨a, m, n, w, rfl, rfl⟩ := h <;> rfl

/-- A notification changes nothing about what was drained. -/
theorem drained? (h : Alike A B) : B.drained? = A.drained? := by
  obtain rfl | ⟨a, m, n, w, rfl, rfl⟩ := h <;> rfl

/-- A notification changes nothing about what cannot be held. -/
theorem absent? (h : Alike A B) : B.absent? = A.absent? := by
  obtain rfl | ⟨a, m, n, w, rfl, rfl⟩ := h <;> rfl

/-- A notification changes nothing about what was just joined. -/
theorem joined? (h : Alike A B) : B.joined? = A.joined? := by
  obtain rfl | ⟨a, m, n, w, rfl, rfl⟩ := h <;> rfl

/-- A notification keeps a sleeper in its stage. -/
theorem fits (h : Alike A B) : B.Fits ↔ A.Fits := by
  obtain rfl | ⟨a, m, n, w, rfl, rfl⟩ := h
  · rfl
  · cases m <;> rfl

/-- A notification changes nothing about who does not sleep. -/
theorem eq_of_awake (h : Alike A B) (awake : ∀ a m n w, A ≠ .acquiring a (.asleep m n w)) :
    B = A := by
  obtain same | ⟨a, m, n, w, hA, -⟩ := h
  · exact same
  · exact absurd hA (awake a m n w)

end Activity.Alike

end ResourceLocks.Protocol
