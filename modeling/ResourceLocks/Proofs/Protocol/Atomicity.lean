import ResourceLocks.Proofs.Protocol.Frame
import ResourceLocks.Proofs.Protocol.Interrupts
import ResourceLocks.Proofs.Protocol.Phases

/-!
# Calls take effect at once

Every run of calls that wait as long as it takes, and of releases, is a run of the coarse protocol,
step by step (`State.run?_phaseAtomic`). The ledgers of both are equal all the time, and every call
returns the same. A coarse step is taken at the step of the thread that reads or changes the ledger,
and its check is true then (`State.Checks`):

* **A reader** has looked at the owners in one monitor when it adds its holds in another one. It has
  stayed inside the owner monitor, so that nobody has claimed anything since
  (`Invariant.unowned`).
* **A writer** claims what it has found free without leaving the monitor, and it is done with the
  look at the holders that finds none: from then on its claim keeps readers away.
* **A release** parts from the hold set first and clears the ledger later. In between the half is
  still on record, and nobody but the thread itself looks whether it is held.

All other steps have no shadow (`State.Mirrors.silent`).
-/

namespace ResourceLocks.Protocol

variable {b : Backing} {K : Type} [Key K]

/-! ## Plain calls -/

/-- The thread is in no call but one that waits as long as it takes, or releases. -/
def Activity.IsPlain : Activity K → Prop
  | .ready _ => True
  | .acquiring a stage =>
    a.entry = { manner := .lock } ∧ a.patience = .endless ∧
      ∀ v, stage.verdict? = some v → v = .acquired
  | .releasing r _ => r.byGuard = false
  | .asking _ _ => False

omit [Key K] in
/-- A notification keeps a call plain. -/
theorem Activity.Alike.isPlain {A B : Activity K} (alike : A.Alike B) (plain : A.IsPlain) :
    B.IsPlain := by
  obtain rfl | ⟨a, m, notified, wakeAt, rfl, rfl⟩ := alike
  · exact plain
  · exact ⟨plain.1, plain.2.1, nofun⟩

omit [Key K] in
/-- A notification leaves a call in its phase. -/
theorem Activity.Alike.phase {A B : Activity K} (alike : A.Alike B) : B.phase = A.phase := by
  obtain rfl | ⟨a, m, notified, wakeAt, rfl, rfl⟩ := alike <;> rfl

omit [Key K] in
/-- A plain call starts in the phase of its coarse call. -/
theorem Call.isPlain_start {c : Call K} {c' : PlainCall} (plain : c.plain? = some c')
    (now : Instant) : (c.start now).IsPlain ∧ (c.start now).phase = c'.phase := by
  cases c with
  | acquire h entry =>
    simp only [Call.plain?, Option.ite_none_right_eq_some, Option.some.injEq] at plain
    obtain ⟨rfl, rfl⟩ := plain
    exact ⟨⟨rfl, rfl, nofun⟩, rfl⟩
  | unlock h =>
    cases plain
    exact ⟨rfl, rfl⟩
  | dropGuard h | ask q => cases plain

/-- The effect changes no ledger. -/
def Effect.isQuiet : Effect → Bool
  | .record .. | .clear .. => false
  | _ => true

/-- A quiet effect changes nothing that is on record. -/
theorem Effect.onRecordAfter_of_quiet (e : Effect) (quiet : e.isQuiet = true) (t : ThreadId)
    (h : Half) (u : ThreadId) (before : Prop) : e.onRecordAfter t h u before = before := by
  cases e with
  | record m h | clear m h => cases quiet
  | _ => rfl

namespace State

variable {L : Layout K} {s s' u v : State b K} {p p' : Phases b K} {t : ThreadId} {h : Half}
  {α : Action K} {αs αs₁ αs₂ : List (Action K)} {a : Acquisition} {r : Release}
  {stage : AcquireStage} {e : Effect} {A A' : Activity K} {m : Monitor}

/-- A plain acquisition is neither refused nor interrupted. -/
theorem Turn.verdict_of_plain {stage' : AcquireStage}
    (turn : s.Turn L t (.acquiring a stage) e (.acquiring a stage'))
    (plain : (Activity.acquiring a stage : Activity K).IsPlain) (v : Verdict)
    (verdict : stage'.verdict? = some v) : v = .acquired := by
  obtain ⟨-, patience, before⟩ := plain
  cases v with
  | acquired => rfl
  | interrupted =>
    obtain ⟨stage'', hA, interrupted, -⟩ | ⟨r, hA, -⟩ := turn.interrupted_iff
    · cases hA
      obtain interrupted | rfl := interrupted.1 verdict
      · exact before _ interrupted
      · obtain ⟨a', stage₁, stage₂, hA, heeds, -⟩ := turn.of_heed
        cases hA
        have impatient := heeds.1
        rw [patience] at impatient
        cases impatient
    · cases hA
  | refused =>
    cases turn with
    | acquire turn =>
      obtain refused | impatient := turn.hasEnd_of_refused verdict
      · exact before _ refused
      · rw [patience] at impatient
        cases impatient
    | expire a m deadline bounded =>
      rw [patience] at bounded
      cases bounded
    | rouse => cases verdict

/-- The turns of plain calls lead to plain calls. -/
theorem Turn.isPlain (turn : s.Turn L t A e A') (plain : A.IsPlain)
    (busy : ∀ last, A ≠ .ready last) : A'.IsPlain := by
  cases A with
  | ready last => exact absurd rfl (busy last)
  | acquiring a stage =>
    obtain ⟨stage', rfl, -⟩ | ⟨r, rfl, -⟩ := turn.interrupted_iff
    · exact ⟨plain.1, plain.2.1, turn.verdict_of_plain plain⟩
    · trivial
  | releasing r stage =>
    cases turn with
    | release turn =>
      cases turn with
      | notHeld | dropFailed | conclude => trivial
      | _ => exact plain
  | asking q stage => cases plain

/-- A run of plain calls consists of plain calls. -/
theorem isPlain_of_next? (next : s.next? L α = some s') (plain : ∀ t, (s.activity t).IsPlain)
    (call : ∀ t c, α = .call t c → c.plain?.isSome = true) (t : ThreadId) :
    (s'.activity t).IsPlain := by
  by_cases hcall : ∃ c, α = .call t c
  · obtain ⟨c, rfl⟩ := hcall
    obtain ⟨c', plain'⟩ := Option.isSome_iff_exists.1 (call t c rfl)
    obtain ⟨last, -, rfl⟩ := next?_call next
    rw [activity_after_self]
    exact (Call.isPlain_start plain' s.now).1
  · obtain ⟨e, A', mine, -, turn, rfl⟩ | bystands := turn_or_bystands next t
    · rw [activity_after_self]
      refine turn.isPlain (plain t) fun last ready => ?_
      exact turnOf?_ne_of_ready next ready (fun c hc => hcall ⟨c, hc⟩) mine
    · exact bystands.alike.isPlain (plain t)

/-! ## States that mirror one another -/

/-- What a turn does to the ledgers and the phases, the coarse protocol has to do as well; and it
has to hold what is on record then and not being drained. -/
theorem Mirrors.after (mirrors : s.Mirrors p) (inv : s.Invariant L)
    (turn : s.Turn L t (s.activity t) e A')
    (owners : ∀ g, p'.owners.get g = ((e.apply L t s).registries.get g).owners)
    (holders : ∀ g, p'.holders.get g = ((e.apply L t s).registries.get g).holders)
    (phase : ∀ u, p'.phase.get u = if u = t then A'.phase else p.phase.get u)
    (others : ∀ h u, u ≠ t → p'.held.get (h, u) = p.held.get (h, u))
    (mine : ∀ h, p'.held.get (h, t) = true ↔
      e.onRecordAfter t h t (s.OnRecord h t) ∧ A'.phase ≠ .draining h) :
    (s.after L t e A').Mirrors p' := by
  refine ⟨owners, holders, ?_, ?_⟩
  · intro h u
    by_cases hu : u = t
    · subst hu
      rw [mine, turn.onRecord_after inv, activity_after_self]
    · rw [others h u hu, mirrors.held, turn.onRecord_after_of_ne inv hu,
        (alike_after L s e A' hu).phase]
  · intro u
    rw [phase]
    by_cases hu : u = t
    · subst hu
      rw [if_pos rfl, activity_after_self]
    · rw [if_neg hu, mirrors.phase, (alike_after L s e A' hu).phase]

/-- An effect that changes no ledger. -/
theorem Mirrors.apply_of_quiet (mirrors : s.Mirrors p) (quiet : e.isQuiet = true) (g : RegistryId) :
    p.owners.get g = ((e.apply L t s).registries.get g).owners ∧
      p.holders.get g = ((e.apply L t s).registries.get g).holders := by
  rw [Effect.owners_apply, Effect.holders_apply, mirrors.owners, mirrors.holders]
  cases e with
  | record m h | clear m h => cases quiet
  | _ => exact ⟨rfl, rfl⟩

/-- **A turn that changes no ledger and no phase has no shadow.** -/
theorem Mirrors.silent (mirrors : s.Mirrors p) (inv : s.Invariant L)
    (turn : s.Turn L t (s.activity t) e A') (quiet : e.isQuiet = true)
    (phase : A'.phase = (s.activity t).phase) : (s.after L t e A').Mirrors p := by
  refine mirrors.after inv turn (fun g => (mirrors.apply_of_quiet quiet g).1)
    (fun g => (mirrors.apply_of_quiet quiet g).2) ?_ (fun h u _ => rfl) ?_
  · intro u
    by_cases hu : u = t
    · subst hu
      rw [if_pos rfl, mirrors.phase, phase]
    · rw [if_neg hu]
  · intro h
    rw [mirrors.held, phase, e.onRecordAfter_of_quiet quiet]

/-- A turn that changes no ledger takes its thread to another phase, in which it drains nothing. -/
theorem Mirrors.goTo (mirrors : s.Mirrors p) (inv : s.Invariant L)
    (turn : s.Turn L t (s.activity t) e A') (quiet : e.isQuiet = true)
    (before : ∀ h, (s.activity t).phase ≠ .draining h) (after : ∀ h, A'.phase ≠ .draining h) :
    (s.after L t e A').Mirrors (p.goTo t A'.phase) := by
  refine mirrors.after inv turn (fun g => (mirrors.apply_of_quiet quiet g).1)
    (fun g => (mirrors.apply_of_quiet quiet g).2) (fun u => Phases.phase_goTo ..)
    (fun h u _ => rfl) ?_
  intro h
  rw [Phases.held_goTo, mirrors.held, e.onRecordAfter_of_quiet quiet]
  simp [before h, after h]

/-- A thread in another phase of the coarse protocol drains nothing. -/
theorem Mirrors.not_draining {φ : Phase} (mirrors : s.Mirrors p) (phase : p.phase.get t = φ)
    (other : ∀ h, φ ≠ .draining h) (h : Half) : (s.activity t).phase ≠ .draining h := by
  rw [← mirrors.phase, phase]
  exact other h

/-- What is no turn has no shadow. -/
theorem Mirrors.of_undisturbed (mirrors : s.Mirrors p) (same : s.Undisturbed s') :
    s'.Mirrors p := by
  refine ⟨?_, ?_, ?_, ?_⟩
  · rw [same.registries]
    exact mirrors.owners
  · rw [same.registries]
    exact mirrors.holders
  · intro h t
    rw [mirrors.held, OnRecord, OnRecord, IsHeldBy, IsHeldBy, same.holds, same.activity]
  · intro t
    rw [mirrors.phase, same.activity]

/-! ## Steps that take effect -/

omit [Key K] in
/-- A plain acquisition returns that it is done. -/
theorem reply_of_plain (plain : (Activity.acquiring a stage : Activity K).IsPlain) :
    a.reply .acquired = .done := by
  obtain ⟨entry, -, -⟩ := plain
  rw [Acquisition.reply, entry]
  rfl

/-- The coarse protocol records in the same ledger. -/
theorem Mirrors.apply_record (mirrors : s.Mirrors p) (h : Half) (t : ThreadId) (g : RegistryId) :
    (p.record L h t).owners.get g =
        (((Effect.record (.ofKind h.kind) h).apply L t s).registries.get g).owners ∧
      (p.record L h t).holders.get g =
        (((Effect.record (.ofKind h.kind) h).apply L t s).registries.get g).holders := by
  rw [Phases.record, Phases.owners_change, Phases.holders_change, Effect.owners_apply,
    Effect.holders_apply, mirrors.owners, mirrors.holders]
  cases h.kind <;> simp [Monitor.ofKind]

/-- The coarse protocol clears the same ledger. -/
theorem Mirrors.apply_clear (mirrors : s.Mirrors p) (h : Half) (t : ThreadId) (g : RegistryId) :
    (p.clear L h t).owners.get g =
        (((Effect.clear (.ofKind h.kind) h).apply L t s).registries.get g).owners ∧
      (p.clear L h t).holders.get g =
        (((Effect.clear (.ofKind h.kind) h).apply L t s).registries.get g).holders := by
  rw [Phases.clear, Phases.owners_change, Phases.holders_change, Effect.owners_apply,
    Effect.holders_apply, mirrors.owners, mirrors.holders]
  cases h.kind <;> simp [Monitor.ofKind]

/-- **What an acquisition has found without owners has none still** when it is recorded. -/
theorem Mirrors.free_of_recordingIn (mirrors : s.Mirrors p) (inv : s.Invariant L)
    (here : s.activity t = .acquiring a (.recordingIn m)) :
    m = .ofKind a.half.kind ∧ p.phase.get t = .acquiring a.half ∧ ¬ s.OnRecord a.half t ∧
      ¬ p.held.get (a.half, t) = true ∧
      (p.owners.get (L.registry a.half)).isFree (L.resources a.half).items = true := by
  have turn : s.Turn L t (s.activity t) (.record m a.half) (.acquiring a (.recorded m)) := by
    rw [here]
    exact .acquire (.record m)
  obtain ⟨-, rfl, unowned, absent⟩ := turn.requires (inv.fits t)
  have unrecorded : ¬ s.OnRecord a.half t := inv.not_onRecord unowned absent
  refine ⟨rfl, ?_, unrecorded, ?_, ?_⟩
  · rw [mirrors.phase, here]
    rfl
  · exact fun held => unrecorded ((mirrors.held a.half t).1 held).1
  · rw [mirrors.owners, Owners.isFree_iff]
    exact fun r hr => inv.unowned a.half t unowned r (ResourceSet.mem_def.2 hr)

/-- **A reader registers**, and has acquired its half. -/
theorem Mirrors.register (mirrors : s.Mirrors p) (inv : s.Invariant L)
    (plain : (s.activity t).IsPlain) (here : s.activity t = .acquiring a (.recordingIn m))
    (read : a.half.kind = .read) :
    ∃ p', p.step? L t = some p' ∧
      (s.after L t (.record m a.half) (.acquiring a (.recorded m))).Mirrors p' := by
  obtain ⟨rfl, phase, -, unheld, free⟩ := mirrors.free_of_recordingIn inv here
  have turn : s.Turn L t (s.activity t) (.record (.ofKind a.half.kind) a.half)
      (.acquiring a (.recorded (.ofKind a.half.kind))) := by
    rw [here]
    exact .acquire (.record _)
  have phase' : (Activity.acquiring a (.recorded (.ofKind a.half.kind)) : Activity K).phase =
      .ready (some .done) := by
    rw [here] at plain
    rw [read, ← reply_of_plain plain]
    rfl
  refine ⟨((p.record L a.half t).setHeld a.half t true).goTo t (.ready (some .done)), ?_, ?_⟩
  · simp [Phases.step?, phase, unheld, free, read]
  · refine mirrors.after inv turn (fun g => (mirrors.apply_record a.half t g).1)
      (fun g => (mirrors.apply_record a.half t g).2) ?_ ?_ ?_
    · intro u
      rw [Phases.phase_goTo, phase']
      simp [Phases.record]
    · intro h u hu
      rw [Phases.held_goTo, Phases.held_setHeld, if_neg fun both => hu both.2]
      simp [Phases.record]
    · intro h
      have waiting := mirrors.not_draining phase (by simp) h
      rw [Phases.held_goTo, Phases.held_setHeld, phase', Effect.onRecordAfter]
      by_cases hh : h = a.half
      · simp [hh]
      · simp [hh, Phases.record, mirrors.held, waiting]

/-- **A writer claims**, and has its readers to wait for. -/
theorem Mirrors.claim (mirrors : s.Mirrors p) (inv : s.Invariant L)
    (here : s.activity t = .acquiring a (.recordingIn m)) (write : a.half.kind = .write) :
    ∃ p', p.step? L t = some p' ∧
      (s.after L t (.record m a.half) (.acquiring a (.recorded m))).Mirrors p' := by
  obtain ⟨rfl, phase, unrecorded, unheld, free⟩ := mirrors.free_of_recordingIn inv here
  have turn : s.Turn L t (s.activity t) (.record (.ofKind a.half.kind) a.half)
      (.acquiring a (.recorded (.ofKind a.half.kind))) := by
    rw [here]
    exact .acquire (.record _)
  have phase' : (Activity.acquiring a (.recorded (.ofKind a.half.kind)) : Activity K).phase =
      .draining a.half := by
    rw [write]
    rfl
  refine ⟨(p.record L a.half t).goTo t (.draining a.half), ?_, ?_⟩
  · simp [Phases.step?, phase, unheld, free, write]
  · refine mirrors.after inv turn (fun g => (mirrors.apply_record a.half t g).1)
      (fun g => (mirrors.apply_record a.half t g).2) ?_ ?_ ?_
    · intro u
      rw [Phases.phase_goTo, phase']
      simp [Phases.record]
    · intro h u _
      simp [Phases.record]
    · intro h
      have waiting := mirrors.not_draining phase (by simp) h
      rw [Phases.held_goTo, phase', Effect.onRecordAfter, Phases.record, Phases.held_change,
        mirrors.held]
      by_cases hh : h = a.half
      · simp [hh, unrecorded]
      · simp [hh, Ne.symm hh, waiting]

/-- **A writer finds its readers gone**, and has acquired its half. -/
theorem Mirrors.complete (mirrors : s.Mirrors p) (inv : s.Invariant L)
    (plain : (s.activity t).IsPlain) (here : s.activity t = .acquiring a (.testing .holder))
    (free :
      (s.registries.get (L.registry a.half)).isFree .holder (L.resources a.half).items = true) :
    ∃ p', p.step? L t = some p' ∧
      (s.after L t .nothing (.acquiring a (.free a.half.kind .holder))).Mirrors p' := by
  have write : a.half.kind = .write := by
    have fits := inv.fits t
    rw [here] at fits
    exact fits
  have turn : s.Turn L t (s.activity t) .nothing (.acquiring a (.free a.half.kind .holder)) := by
    rw [here]
    exact .acquire (.free .holder free)
  have phase : p.phase.get t = .draining a.half := by
    rw [mirrors.phase, here]
    simp [Activity.phase, AcquireStage.verdict?, AcquireStage.isPending, write]
  have phase' : (Activity.acquiring a (.free a.half.kind .holder) : Activity K).phase =
      .ready (some .done) := by
    rw [here] at plain
    rw [write, ← reply_of_plain plain]
    rfl
  have gone : (p.holders.get (L.registry a.half)).isFree (L.resources a.half).items = true := by
    rw [mirrors.holders]
    exact free
  have recorded : s.OnRecord a.half t := by
    right
    rw [here]
    simp [Activity.pending?, AcquireStage.isPending, write]
  refine ⟨(p.setHeld a.half t true).goTo t (.ready (some .done)), ?_, ?_⟩
  · simp [Phases.step?, phase, gone]
  · refine mirrors.after inv turn (fun g => (mirrors.apply_of_quiet rfl g).1)
      (fun g => (mirrors.apply_of_quiet rfl g).2) ?_ ?_ ?_
    · intro u
      rw [Phases.phase_goTo, phase']
      simp
    · intro h u hu
      rw [Phases.held_goTo, Phases.held_setHeld, if_neg fun both => hu both.2]
    · intro h
      rw [Phases.held_goTo, Phases.held_setHeld, phase', Effect.onRecordAfter_of_quiet _ rfl]
      by_cases hh : h = a.half
      · simp [hh, recorded]
      · simp [hh, Ne.symm hh, mirrors.held, ← mirrors.phase, phase]

/-- **A release clears its ledger**, and is done. -/
theorem Mirrors.unlock (mirrors : s.Mirrors p) (inv : s.Invariant L)
    (here : s.activity t = .releasing r .clearing) :
    ∃ p', p.step? L t = some p' ∧
      (s.after L t (.clear (.ofKind r.half.kind) r.half) (.releasing r .leaving)).Mirrors p' := by
  have turn : s.Turn L t (s.activity t) (.clear (.ofKind r.half.kind) r.half)
      (.releasing r .leaving) := by
    rw [here]
    exact .release .clear
  have phase : p.phase.get t = .releasing r.half := by
    rw [mirrors.phase, here]
    rfl
  have waiting := mirrors.not_draining phase (by simp)
  have phase' : (Activity.releasing r .leaving : Activity K).phase = .ready (some .done) := rfl
  have held : p.held.get (r.half, t) = true := by
    refine (mirrors.held r.half t).2 ⟨.inr ?_, waiting r.half⟩
    rw [here]
    rfl
  refine ⟨((p.clear L r.half t).setHeld r.half t false).goTo t (.ready (some .done)), ?_, ?_⟩
  · simp [Phases.step?, phase, held]
  · refine mirrors.after inv turn (fun g => (mirrors.apply_clear r.half t g).1)
      (fun g => (mirrors.apply_clear r.half t g).2) ?_ ?_ ?_
    · intro u
      rw [Phases.phase_goTo, phase']
      simp [Phases.clear]
    · intro h u hu
      rw [Phases.held_goTo, Phases.held_setHeld, if_neg fun both => hu both.2]
      simp [Phases.clear]
    · intro h
      rw [Phases.held_goTo, Phases.held_setHeld, phase', Effect.onRecordAfter]
      by_cases hh : h = r.half
      · simp [hh]
      · simp [hh, Phases.clear, mirrors.held, waiting]

/-- Between calls, and until the hold set is left, what is held is what the hold set says. -/
theorem Mirrors.held_iff (mirrors : s.Mirrors p) (pending : (s.activity t).pending? = none)
    (waiting : ∀ h, (s.activity t).phase ≠ .draining h) (h : Half) :
    p.held.get (h, t) = true ↔ s.IsHeldBy h t := by
  rw [mirrors.held, OnRecord, pending]
  simp [waiting]

/-- **An acquisition finds its half held**, and fails. -/
theorem Mirrors.refuseHeld (mirrors : s.Mirrors p) (inv : s.Invariant L)
    (here : s.activity t = .acquiring a .looking) (holder : s.IsHeldBy a.half t) :
    ∃ p', p.step? L t = some p' ∧
      (s.after L t (.exitMutex a.half none)
        (.ready (some (.failed (.alreadyHeld a.half.kind))))).Mirrors p' := by
  have turn : s.Turn L t (s.activity t) (.exitMutex a.half none)
      (.ready (some (.failed (.alreadyHeld a.half.kind)))) := by
    rw [here]
    exact .acquire (.alreadyHeld holder)
  have phase : p.phase.get t = .acquiring a.half := by
    rw [mirrors.phase, here]
    rfl
  have waiting := mirrors.not_draining phase (by simp)
  have held : p.held.get (a.half, t) = true :=
    (mirrors.held_iff (by rw [here]; rfl) waiting a.half).2 holder
  refine ⟨p.goTo t (.ready (some (.failed (.alreadyHeld a.half.kind)))), ?_, ?_⟩
  · simp [Phases.step?, phase, held]
  · exact mirrors.goTo inv turn rfl waiting (by simp [Activity.phase])

/-- **A release finds its half not held**, and fails. -/
theorem Mirrors.refuseNotHeld (mirrors : s.Mirrors p) (inv : s.Invariant L)
    (plain : (s.activity t).IsPlain) (here : s.activity t = .releasing r .looking)
    (absent : ¬ s.IsHeldBy r.half t) :
    ∃ p', p.step? L t = some p' ∧
      (s.after L t (.exitMutex r.half none)
        (.ready (some (.failed (.notHeld r.half.kind))))).Mirrors p' := by
  have direct : r.byGuard = false := by
    rw [here] at plain
    exact plain
  have turn : s.Turn L t (s.activity t) (.exitMutex r.half none)
      (.ready (some (.failed (.notHeld r.half.kind)))) := by
    rw [here]
    exact .release (.notHeld absent direct)
  have phase : p.phase.get t = .releasing r.half := by
    rw [mirrors.phase, here]
    rfl
  have waiting := mirrors.not_draining phase (by simp)
  have unheld : ¬ p.held.get (r.half, t) = true := fun held =>
    absent ((mirrors.held_iff (by rw [here]; rfl) waiting r.half).1 held)
  refine ⟨p.goTo t (.ready (some (.failed (.notHeld r.half.kind)))), ?_, ?_⟩
  · simp [Phases.step?, phase, unheld]
  · exact mirrors.goTo inv turn rfl waiting (by simp [Activity.phase])

/-! ## Actions and their shadows -/

/-- What happens in the coarse protocol, if anything, leads to a state that mirrors the next one. -/
def Follows (L : Layout K) (p : Phases b K) (β? : Option PhaseAction) (s' : State b K) : Prop :=
  match β? with
  | none => s'.Mirrors p
  | some β => ∃ p', p.next? L β = some p' ∧ s'.Mirrors p'

/-- A step that takes effect is followed by a step of the phases. -/
theorem Follows.of_effect (effect : s.takesEffect L t = true)
    (steps : ∃ p', p.step? L t = some p' ∧ s'.Mirrors p') :
    Follows L p (s.shadow? L (.step t)) s' := by
  have hshadow : s.shadow? L (.step t) = some (.step t) := if_pos effect
  rw [hshadow]
  exact steps

/-- A step that does not take effect has no shadow. -/
theorem Mirrors.follows_silent (mirrors : s.Mirrors p) (inv : s.Invariant L)
    (turn : s.Turn L t A e A') (here : s.activity t = A) (silent : s.takesEffect L t = false)
    (quiet : e.isQuiet = true) (phase : A'.phase = A.phase) :
    Follows L p (s.shadow? L (.step t)) (s.after L t e A') := by
  have hshadow : s.shadow? L (.step t) = none := if_neg (by simp [silent])
  rw [hshadow]
  subst here
  exact mirrors.silent inv turn quiet phase

omit [Key K] in
/-- Who has come to a verdict counts as having returned with its reply. -/
theorem phase_of_verdict {v : Verdict} (verdict : stage.verdict? = some v) :
    (Activity.acquiring a stage : Activity K).phase = .ready (some (a.reply v)) := by
  simp only [Activity.phase, verdict]

omit [Key K] in
/-- Stages with one verdict and one record are in one phase. -/
theorem phase_congr {stage' : AcquireStage} (verdict : stage'.verdict? = stage.verdict?)
    (pending : stage'.isPending a.half.kind = stage.isPending a.half.kind) :
    (Activity.acquiring a stage' : Activity K).phase =
      (Activity.acquiring a stage : Activity K).phase := by
  simp only [Activity.phase, verdict, pending]

/-- A plain acquisition heeds no interrupts. -/
theorem not_heeds_of_plain (plain : (Activity.acquiring a stage : Activity K).IsPlain) :
    ¬ s.Heeds t a := by
  rintro ⟨heeds, -⟩
  rw [plain.2.1] at heeds
  cases heeds

/-- The steps of an acquisition and their shadows. -/
theorem Mirrors.follows_acquire (mirrors : s.Mirrors p) (inv : s.Invariant L)
    (plain : (s.activity t).IsPlain) (here : s.activity t = .acquiring a stage)
    (turn : AcquireTurn L s t a stage e A') :
    Follows L p (s.shadow? L (.step t)) (s.after L t e A') := by
  have turn' : s.Turn L t (.acquiring a stage) e A' := .acquire turn
  have plain' : (Activity.acquiring a stage : Activity K).IsPlain := here ▸ plain
  have fits : stage.Fits a.half.kind := by
    have fits := inv.fits t
    rw [here] at fits
    exact fits
  cases turn with
  -- The steps that take effect.
  | alreadyHeld holder =>
    exact .of_effect (by simp [takesEffect, here, holder]) (mirrors.refuseHeld inv here holder)
  | record m =>
    refine .of_effect (by simp [takesEffect, here]) ?_
    cases hk : a.half.kind with
    | read => exact mirrors.register inv plain here hk
    | write => exact mirrors.claim inv here hk
  | free m free =>
    cases m with
    | owner =>
      have verdict : (AcquireStage.free a.half.kind .owner).verdict? = none := by simp
      exact mirrors.follows_silent inv turn' here (by simp [takesEffect, here]) rfl
        (phase_congr verdict (AcquireStage.isPending_free ..))
    | holder =>
      exact .of_effect (by simp [takesEffect, here, free]) (mirrors.complete inv plain here free)
  -- The steps that a plain call does not take.
  | heed m heeds | heedInside m heeds => exact absurd heeds (not_heeds_of_plain plain')
  | barred m _ hasty =>
    rw [plain'.2.1] at hasty
    cases hasty
  | refuse m expired =>
    rw [plain'.2.1] at expired
    cases expired
  | unclaim v => exact absurd (plain'.2.2 v rfl) fits.2
  -- The steps that have no shadow.
  | look absent =>
    exact mirrors.follows_silent inv turn' here (by simp [takesEffect, here, absent]) rfl
      (phase_congr rfl (by simp [AcquireStage.isPending]))
  | taken m taken =>
    refine mirrors.follows_silent inv turn' here ?_ rfl rfl
    cases m <;> simp [takesEffect, here, taken]
  | enter m =>
    exact mirrors.follows_silent inv turn' here (by simp [takesEffect, here]) rfl
      (phase_congr (AcquireStage.verdict?_entered ..) (AcquireStage.isPending_entered ..))
  | claim =>
    have write : a.half.kind = .write := fits
    exact mirrors.follows_silent inv turn' here (by simp [takesEffect, here]) rfl
      (phase_congr rfl (by simp [AcquireStage.isPending, write]))
  | leave m v =>
    refine mirrors.follows_silent inv turn' here (by simp [takesEffect, here]) rfl ?_
    rw [phase_of_verdict (AcquireStage.verdict?_left ..)]
    rfl
  | conclude v =>
    refine mirrors.follows_silent inv turn' here (by simp [takesEffect, here]) ?_ rfl
    cases v <;> rfl
  | _ => exact mirrors.follows_silent inv turn' here (by simp [takesEffect, here]) rfl rfl

/-- The steps of a release and their shadows. -/
theorem Mirrors.follows_release {stage : ReleaseStage} (mirrors : s.Mirrors p) (inv : s.Invariant L)
    (plain : (s.activity t).IsPlain) (here : s.activity t = .releasing r stage)
    (turn : ReleaseTurn L s t r stage e A') :
    Follows L p (s.shadow? L (.step t)) (s.after L t e A') := by
  have turn' : s.Turn L t (.releasing r stage) e A' := .release turn
  cases turn with
  | notHeld absent =>
    exact .of_effect (by simp [takesEffect, here, absent])
      (mirrors.refuseNotHeld inv plain here absent)
  | clear => exact .of_effect (by simp [takesEffect, here]) (mirrors.unlock inv here)
  | dropFailed absent dropped =>
    rw [here] at plain
    have direct : r.byGuard = false := plain
    rw [direct] at dropped
    cases dropped
  | part holder =>
    exact mirrors.follows_silent inv turn' here (by simp [takesEffect, here, holder]) rfl rfl
  | _ => exact mirrors.follows_silent inv turn' here (by simp [takesEffect, here]) rfl rfl

/-- A call starts as its coarse call does. -/
theorem Mirrors.follows_call {c : Call K} {last : Option Reply} (mirrors : s.Mirrors p)
    (inv : s.Invariant L) (ready : s.activity t = .ready last) (plain : c.plain?.isSome = true) :
    Follows L p (s.shadow? L (.call t c)) (s.after L t .nothing (c.start s.now)) := by
  obtain ⟨c', hc'⟩ := Option.isSome_iff_exists.1 plain
  have hshadow : s.shadow? L (.call t c) = some (.call t c') := by
    rw [shadow?, hc']
    rfl
  have turn : s.Turn L t (s.activity t) .nothing (c.start s.now) := ready ▸ .call last c
  have idle : p.phase.get t = .ready last := by
    rw [mirrors.phase, ready]
    rfl
  have phase : (c.start s.now).phase = c'.phase := (Call.isPlain_start hc' s.now).2
  rw [hshadow]
  refine ⟨p.goTo t c'.phase, by simp only [Phases.next?, idle], ?_⟩
  rw [← phase]
  refine mirrors.goTo inv turn rfl (mirrors.not_draining idle (by simp)) ?_
  rw [phase]
  cases c' <;> simp [PlainCall.phase]

/-- Nobody gives up at a deadline. -/
theorem expire?_of_plain (plain : (s.activity t).IsPlain) : s.expire? t = none := by
  unfold expire?
  split
  · rename_i a m here
    rw [here] at plain
    rw [plain.2.1]
  · rfl

/-- To be woken has no shadow. -/
theorem Mirrors.of_rouse (mirrors : s.Mirrors p) (inv : s.Invariant L)
    (next : s.rouse? t = some s') : s'.Mirrors p := by
  unfold rouse? at next
  split at next
  · rename_i a m notified wakeAt here
    split at next
    · rename_i due
      cases next
      have turn : s.Turn L t (s.activity t) .nothing (.acquiring a (.woken m)) := by
        rw [here]
        exact .rouse a m notified wakeAt due
      refine mirrors.silent inv turn rfl ?_
      rw [here]
      rfl
    · cases next
  · cases next

/-- **Every action has a coarse action as its shadow, or none**, and what it leads to is
mirrored. -/
theorem Mirrors.follows (mirrors : s.Mirrors p) (inv : s.Invariant L)
    (plain : ∀ t, (s.activity t).IsPlain) (next : s.next? L α = some s')
    (call : ∀ t c, α = .call t c → c.plain?.isSome = true) :
    Follows L p (s.shadow? L α) s' := by
  cases α with
  | call t c =>
    obtain ⟨last, ready, rfl⟩ := next?_call next
    exact mirrors.follows_call inv ready (call t c rfl)
  | step t =>
    simp only [next?, step?] at next
    cases here : s.activity t with
    | ready last =>
      rw [here] at next
      cases next
    | acquiring a stage =>
      rw [here] at next
      obtain ⟨e, A', turn, rfl⟩ := acquireTurn_of_step next
      exact mirrors.follows_acquire inv (plain t) here turn
    | releasing r stage =>
      rw [here] at next
      obtain ⟨e, A', turn, rfl⟩ := releaseTurn_of_step next
      exact mirrors.follows_release inv (plain t) here turn
    | asking q stage =>
      have plain' := plain t
      rw [here] at plain'
      cases plain'
  | expire t =>
    rw [next?, expire?_of_plain (plain t)] at next
    cases next
  | rouse t => exact mirrors.of_rouse inv next
  | interrupt t | clearFlag t | pass nanos =>
    obtain ⟨w, e, A', mine, -⟩ | ⟨-, same⟩ := next?_cases next
    · cases mine
    · exact mirrors.of_undisturbed same

/-! ## Runs and their shadows -/

/-- What follows a step is a run of one action at most. -/
theorem Follows.exists_run {β? : Option PhaseAction} (follows : Follows L p β? s') :
    ∃ p', p.run? L β?.toList = some p' ∧ s'.Mirrors p' := by
  cases β? with
  | none => exact ⟨p, rfl, follows⟩
  | some β =>
    obtain ⟨p', next, mirrors⟩ := follows
    exact ⟨p', by simp [Phases.run?, next], mirrors⟩

/-- At the start the phases mirror the state. -/
theorem mirrors_initial : (initial : State b K).Mirrors (Phases.initial : Phases b K) where
  owners g := rfl
  holders g := rfl
  held h t := by simp [Phases.initial, OnRecord, IsHeldBy, initial, activity, Activity.pending?]
  phase t := rfl

/-- In a run of plain calls all calls under way are plain. -/
theorem isPlain_of_run? (plain : ∀ t, (s.activity t).IsPlain) (run : s.run? L αs = some s')
    (calls : ∀ t c, .call t c ∈ αs → c.plain?.isSome = true) : ∀ t, (s'.activity t).IsPlain := by
  induction αs generalizing s with
  | nil =>
    cases run
    exact plain
  | cons α αs ih =>
    obtain ⟨u, first, rest⟩ := run?_cons_eq_some.1 run
    refine ih (isPlain_of_next? first plain ?_) rest fun t c hc => calls t c (by simp [hc])
    rintro t c rfl
    exact calls t c (by simp)

/-- **The shadow of a run is a run of the coarse protocol.** -/
theorem Mirrors.run (mirrors : s.Mirrors p) (reachable : Reachable L s)
    (plain : ∀ t, (s.activity t).IsPlain) (run : s.run? L αs = some s')
    (calls : ∀ t c, .call t c ∈ αs → c.plain?.isSome = true) :
    ∃ p', p.run? L (s.shadow L αs) = some p' ∧ s'.Mirrors p' := by
  induction αs generalizing s p with
  | nil =>
    cases run
    exact ⟨p, rfl, mirrors⟩
  | cons α αs ih =>
    obtain ⟨u, first, rest⟩ := run?_cons_eq_some.1 run
    have call : ∀ t c, α = .call t c → c.plain?.isSome = true := by
      rintro t c rfl
      exact calls t c (by simp)
    obtain ⟨q, start, mirrors'⟩ :=
      (mirrors.follows reachable.invariant plain first call).exists_run
    obtain ⟨p', onward, mirrors''⟩ := ih mirrors' (reachable.next α first)
      (isPlain_of_next? first plain call) rest fun t c hc => calls t c (by simp [hc])
    refine ⟨p', ?_, mirrors''⟩
    simp only [shadow, first]
    rw [Phases.run?_append, start]
    exact onward

/-- What a thread that takes effect has checked is true of the ledgers as they are: nobody owns what
it acquires, nobody holds what it has claimed. -/
structure Checks (L : Layout K) (s : State b K) (t : ThreadId) : Prop where
  /-- An acquisition that does not fail. -/
  unowned : ∀ h, (s.activity t).phase = .acquiring h → ¬ s.OnRecord h t →
    ∀ r ∈ L.resources h, s.owner? (L.registry h) r = none
  /-- A write acquisition that has claimed its resources. -/
  drained : ∀ h, (s.activity t).phase = .draining h →
    ∀ r ∈ L.resources h, ∀ u, s.holdCount (L.registry h) r u = 0

/-- Where the phases take a step the thread has found what it looks for. -/
theorem Mirrors.checks (mirrors : s.Mirrors p) (inv : s.Invariant L)
    (step : p.step? L t = some p') : s.Checks L t := by
  refine ⟨?_, ?_⟩
  · intro h acquiring unrecorded r hr
    rw [← mirrors.phase] at acquiring
    have absent : ¬ p.held.get (h, t) = true := fun held =>
      unrecorded ((mirrors.held h t).1 held).1
    have free := Phases.free_of_acquiring step acquiring absent
    rw [mirrors.owners] at free
    exact Owners.isFree_iff.1 free r (ResourceSet.mem_def.1 hr)
  · intro h draining r hr
    rw [← mirrors.phase] at draining
    have free := Phases.free_of_draining step draining
    rw [mirrors.holders] at free
    exact (inv.tidy _).isFree_iff.1 free r (ResourceSet.mem_def.1 hr)

/-- A run takes place in phases: along with it goes a run of the coarse protocol. -/
structure PhaseAtomic (L : Layout K) (αs : List (Action K)) (s : State b K) : Prop where
  /-- The shadow of the run is a run of the coarse protocol, and leads to a state that mirrors the
  last one. -/
  coarse : ∃ p, Phases.initial.run? L ((initial : State b K).shadow L αs) = some p ∧ s.Mirrors p
  /-- Wherever the run is cut, its shadow is cut as well, and the states there mirror one another:
  all ledgers are the same, and what has been returned to every thread. -/
  midway : ∀ αs₁ αs₂ (u : State b K), αs = αs₁ ++ αs₂ → initial.run? L αs₁ = some u →
    (initial : State b K).shadow L αs = (initial : State b K).shadow L αs₁ ++ u.shadow L αs₂ ∧
      ∃ p, Phases.initial.run? L ((initial : State b K).shadow L αs₁) = some p ∧ u.Mirrors p
  /-- Every action has one coarse action as its shadow, or none. -/
  follows : ∀ αs₁ α αs₂ (u v : State b K) p, αs = αs₁ ++ α :: αs₂ →
    initial.run? L αs₁ = some u → u.next? L α = some v →
    Phases.initial.run? L ((initial : State b K).shadow L αs₁) = some p →
    Follows L p (u.shadow? L α) v
  /-- The ledgers change in actions with a shadow only. -/
  still : ∀ αs₁ α αs₂ (u v : State b K), αs = αs₁ ++ α :: αs₂ → initial.run? L αs₁ = some u →
    u.next? L α = some v → u.shadow? L α = none →
    ∀ g, (v.registries.get g).owners = (u.registries.get g).owners ∧
      (v.registries.get g).holders = (u.registries.get g).holders
  /-- What a coarse step checks is true when it is taken. -/
  checks : ∀ αs₁ t αs₂ (u v : State b K), αs = αs₁ ++ .step t :: αs₂ →
    initial.run? L αs₁ = some u → u.next? L (.step t) = some v → u.takesEffect L t = true →
    u.Checks L t

/-- **Calls that wait as long as it takes, and releases, take effect in atomic phases**, whatever
the other threads do between their steps. -/
theorem run?_phaseAtomic (run : (initial : State b K).run? L αs = some s)
    (calls : ∀ t c, .call t c ∈ αs → c.plain?.isSome = true) : s.PhaseAtomic L αs := by
  have plain₀ : ∀ t, ((initial : State b K).activity t).IsPlain := fun t => trivial
  have before : ∀ αs₁ αs₂ (u : State b K), αs = αs₁ ++ αs₂ → initial.run? L αs₁ = some u →
      (∀ t, (u.activity t).IsPlain) ∧ u.Invariant L ∧
        ∃ p, Phases.initial.run? L ((initial : State b K).shadow L αs₁) = some p ∧
          u.Mirrors p := by
    intro αs₁ αs₂ u split run₁
    have calls₁ : ∀ t c, .call t c ∈ αs₁ → c.plain?.isSome = true := fun t c hc =>
      calls t c (by simp [split, hc])
    exact ⟨isPlain_of_run? plain₀ run₁ calls₁, (Reachable.initial.run run₁).invariant,
      mirrors_initial.run .initial plain₀ run₁ calls₁⟩
  have follows : ∀ αs₁ α αs₂ (u v : State b K) p, αs = αs₁ ++ α :: αs₂ →
      initial.run? L αs₁ = some u → u.next? L α = some v →
      Phases.initial.run? L ((initial : State b K).shadow L αs₁) = some p →
      u.Invariant L ∧ u.Mirrors p ∧ Follows L p (u.shadow? L α) v := by
    intro αs₁ α αs₂ u v p split run₁ next coarse
    obtain ⟨plain, inv, q, coarse', mirrors⟩ := before αs₁ (α :: αs₂) u split run₁
    obtain rfl : q = p := Option.some.inj (coarse'.symm.trans coarse)
    refine ⟨inv, mirrors, mirrors.follows inv plain next ?_⟩
    rintro t c rfl
    exact calls t c (by simp [split])
  refine ⟨?_, ?_, ?_, ?_, ?_⟩
  · exact mirrors_initial.run .initial plain₀ run calls
  · intro αs₁ αs₂ u split run₁
    exact ⟨split ▸ shadow_append run₁ αs₂, (before αs₁ αs₂ u split run₁).2.2⟩
  · intro αs₁ α αs₂ u v p split run₁ next coarse
    exact (follows αs₁ α αs₂ u v p split run₁ next coarse).2.2
  · intro αs₁ α αs₂ u v split run₁ next silent g
    obtain ⟨-, -, p, coarse, -⟩ := before αs₁ (α :: αs₂) u split run₁
    obtain ⟨-, mirrors, follow⟩ := follows αs₁ α αs₂ u v p split run₁ next coarse
    rw [silent] at follow
    have mirrors' : v.Mirrors p := follow
    rw [← mirrors.owners, ← mirrors.holders, ← mirrors'.owners, ← mirrors'.holders]
    exact ⟨rfl, rfl⟩
  · intro αs₁ t αs₂ u v split run₁ next effect
    obtain ⟨-, -, p, coarse, -⟩ := before αs₁ (.step t :: αs₂) u split run₁
    obtain ⟨inv, mirrors, follow⟩ := follows αs₁ (.step t) αs₂ u v p split run₁ next coarse
    have hshadow : u.shadow? L (.step t) = some (.step t) := if_pos effect
    rw [hshadow] at follow
    obtain ⟨p', step, -⟩ := follow
    exact mirrors.checks inv step

/-- A reader acquires its half; a writer claims what it holds in part, and falls asleep until it has
released it. -/
def drainedReader : List (Action Nat) :=
  Action.follow 0 (.acquire ⟨0, .read⟩ { manner := .lock }) 13
    ++ Action.follow 1 (.acquire ⟨1, .write⟩ { manner := .lock }) 12
    ++ Action.follow 0 (.unlock ⟨0, .read⟩) 6 ++ List.replicate 7 (.step 1)

/-- A writer that waits for a reader: the two calls and the release take effect in three steps. -/
theorem run?_phaseAtomic_drainedReader :
    (∀ t c, .call t c ∈ drainedReader → c.plain?.isSome = true) ∧
      (finish .threeLocks drainedReader : State .hash Nat).PhaseAtomic .threeLocks drainedReader ∧
      (initial : State .hash Nat).shadow .threeLocks drainedReader =
        [.call 0 (.lock ⟨0, .read⟩), .step 0, .call 1 (.lock ⟨1, .write⟩), .step 1,
          .call 0 (.unlock ⟨0, .read⟩), .step 0, .step 1] ∧
      (finish .threeLocks drainedReader : State .hash Nat).activity 1 = .ready (some .done) := by
  have calls : ∀ t c, .call t c ∈ drainedReader → c.plain?.isSome = true := by
    intro t c hc
    simp only [drainedReader, Action.follow, List.mem_append, List.mem_cons, List.mem_replicate,
      Action.call.injEq, reduceCtorEq, and_false, or_false] at hc
    obtain (⟨rfl, rfl⟩ | ⟨rfl, rfl⟩) | ⟨rfl, rfl⟩ := hc <;> rfl
  have run : (initial : State .hash Nat).run? .threeLocks drainedReader =
      some (finish .threeLocks drainedReader) := by decide +kernel
  exact ⟨calls, run?_phaseAtomic run calls, by decide +kernel, by decide +kernel⟩

end State

end ResourceLocks.Protocol
