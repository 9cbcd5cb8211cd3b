import Mathlib.Data.Set.Card
import ResourceLocks.Proofs.Protocol.Standing

/-!
# The invariant of the protocol

A half is **on record** for a thread that holds it, and for a thread for which it is pending: a
claim that is being drained, recorded or rolled back, holds that have been added and not joined, a
release that has left the hold set and not cleared its ledger (`State.OnRecord`). The ledgers say
neither more nor less than that, and this is what the operations need that never look at what they
overwrite or clear.

`State.Invariant` lists what holds in every reachable state, each field resting on the ones before
it:

1. monitors and mutexes: who is inside is where it says (`inside_iff`, `mutex_iff`);
2. hold sets: what a thread has seen there is still so (`absent`, `joined`);
3. owners: a resource is owned by the thread for which a write half over it is on record
   (`owner_iff`), and there is at most one such half (`unique`);
4. holders: a count is the number of read halves on record (`count`), and there is no entry without
   holds (`tidy`);
5. the two looks at a ledger: what was found without owners has none until it is recorded
   (`unowned`), what was found without holders has none until it is released (`drained`).

`State.Invariant.turn` is the step, `State.Reachable.invariant` the result.
-/

namespace ResourceLocks.Protocol

variable {b : Backing} {K : Type} [Key K]

/-! ## What is on record -/

/-- The half is of a kind and a registry, and covers a resource. -/
def Covers (L : Layout K) (k : Kind) (g : RegistryId) (r : K) (h : Half) : Prop :=
  h.kind = k ∧ L.registry h = g ∧ r ∈ L.resources h

instance (L : Layout K) (k : Kind) (g : RegistryId) (r : K) (h : Half) :
    Decidable (Covers L k g r h) :=
  inferInstanceAs (Decidable (_ ∧ _ ∧ _))

section covers

variable {L : Layout K} {k : Kind} {g : RegistryId} {r : K} {h h' : Half}

/-- A half that covers a resource is not one that does not. -/
theorem Covers.ne (covers : Covers L k g r h) (other : ¬ Covers L k g r h') : h ≠ h' := by
  rintro rfl
  exact other covers

variable (s : State b K) (t u : ThreadId)

/-- To record a write half makes the thread the owner of what it covers. -/
theorem State.owner?_apply_record :
    ((Effect.record (.ofKind h.kind) h).apply L t s).owner? g r =
      if Covers L .write g r h then some t else s.owner? g r := by
  rw [Effect.owner?_apply]
  cases hk : h.kind <;> simp [Covers, Monitor.ofKind, hk]

/-- To clear a write half leaves what it covers without an owner. -/
theorem State.owner?_apply_clear :
    ((Effect.clear (.ofKind h.kind) h).apply L t s).owner? g r =
      if Covers L .write g r h then none else s.owner? g r := by
  rw [Effect.owner?_apply]
  cases hk : h.kind <;> simp [Covers, Monitor.ofKind, hk]

/-- To record a read half adds one hold on what it covers. -/
theorem State.holdCount_apply_record :
    ((Effect.record (.ofKind h.kind) h).apply L t s).holdCount g r u =
      s.holdCount g r u + if Covers L .read g r h ∧ u = t then 1 else 0 := by
  rw [Effect.holdCount_apply]
  cases hk : h.kind <;> simp [Covers, Monitor.ofKind, hk, and_assoc]

/-- To clear a read half takes one hold on what it covers. -/
theorem State.holdCount_apply_clear :
    ((Effect.clear (.ofKind h.kind) h).apply L t s).holdCount g r u =
      s.holdCount g r u - if Covers L .read g r h ∧ u = t then 1 else 0 := by
  rw [Effect.holdCount_apply]
  cases hk : h.kind <;> simp [Covers, Monitor.ofKind, hk, and_assoc]

end covers

namespace State

/-- The half is in a ledger for the thread, which holds it or has it pending. -/
def OnRecord (s : State b K) (h : Half) (t : ThreadId) : Prop :=
  s.IsHeldBy h t ∨ (s.activity t).pending? = some h

/-- The thread holds the half, or has found its resources without holders and is about to join. -/
def HasDrained (s : State b K) (h : Half) (t : ThreadId) : Prop :=
  s.IsHeldBy h t ∨ (s.activity t).drained? = some h

/-- The read halves over a resource of a registry that are on record for a thread. -/
def shares (L : Layout K) (s : State b K) (g : RegistryId) (r : K) (t : ThreadId) : Set Half :=
  {h | Covers L .read g r h ∧ s.OnRecord h t}

end State

/-- What an effect of a thread makes of a half being on record. -/
def Effect.onRecordAfter (e : Effect) (t : ThreadId) (h : Half) (u : ThreadId) (before : Prop) :
    Prop :=
  match e with
  | .record _ h' => (h = h' ∧ u = t) ∨ before
  | .clear _ h' => ¬ (h = h' ∧ u = t) ∧ before
  | _ => before

namespace State

/-! ## The invariant -/

/-- What holds in every reachable state. -/
structure Invariant (L : Layout K) (s : State b K) : Prop where
  /-- Acquisitions are in stages that their kind can be in. -/
  fits : ∀ t, (s.activity t).Fits
  /-- Inside a monitor is the thread that has entered and not left it. -/
  inside_iff : ∀ g m t, (s.registries.get g).inside m = some t ↔ (s.activity t).IsInside L g m
  /-- Inside a mutex is the thread that has entered and not left it. -/
  mutex_iff : ∀ h t, (s.holds.get h).mutex = some t ↔ (s.activity t).mutex? = some h
  /-- What a thread cannot hold it does not hold. -/
  absent : ∀ h t, (s.activity t).absent? = some h → ¬ s.IsHeldBy h t
  /-- What a thread has joined it holds. -/
  joined : ∀ h t, (s.activity t).joined? = some h → s.IsHeldBy h t
  /-- A resource is owned by the thread for which a write half over it is on record. -/
  owner_iff : ∀ g r t,
    s.owner? g r = some t ↔ ∃ h, Covers L .write g r h ∧ s.OnRecord h t
  /-- There is at most one write half over a resource on record. -/
  unique : ∀ g r h h' t t', Covers L .write g r h → Covers L .write g r h' → s.OnRecord h t →
    s.OnRecord h' t' → h = h' ∧ t = t'
  /-- The ledgers of holders have no entry without holds. -/
  tidy : ∀ g, (s.registries.get g).holders.Tidy
  /-- A count is the number of read halves over the resource on record. -/
  count : ∀ g r t, (s.holdCount g r t : ℕ∞) = (s.shares L g r t).encard
  /-- What was found without owners has none. -/
  unowned : ∀ h t, (s.activity t).unowned? = some h →
    ∀ r ∈ L.resources h, s.owner? (L.registry h) r = none
  /-- What was found without holders has none. -/
  drained : ∀ h t, h.kind = .write → s.HasDrained h t →
    ∀ r ∈ L.resources h, ∀ u, s.holdCount (L.registry h) r u = 0

variable {L : Layout K} {s : State b K} {t u : ThreadId} {h : Half}

/-- A writer that has found its resources without holders has its claim on record. -/
theorem HasDrained.onRecord (drained : s.HasDrained h t) : s.OnRecord h t := by
  obtain held | hd := drained
  · exact .inl held
  · exact .inr (Activity.pending?_of_drained? hd).2

namespace Invariant

/-- Two threads are not inside one monitor. -/
theorem inside_unique (inv : s.Invariant L) {g : RegistryId} {m : Monitor}
    (ht : (s.activity t).IsInside L g m) (hu : (s.activity u).IsInside L g m) : t = u := by
  rw [← inv.inside_iff] at ht hu
  exact Option.some.inj (ht.symm.trans hu)

/-- A half that is pending is not held as well. -/
theorem not_isHeldBy_of_pending? (inv : s.Invariant L) (hp : (s.activity t).pending? = some h) :
    ¬ s.IsHeldBy h t :=
  inv.absent h t (Activity.absent?_of_pending? hp)

/-- What a thread is about to record is not on record for it. -/
theorem not_onRecord (inv : s.Invariant L) (hu : (s.activity t).unowned? = some h)
    (ha : (s.activity t).absent? = some h) : ¬ s.OnRecord h t := by
  rintro (held | hp)
  · exact inv.absent h t ha held
  · rw [Activity.pending?_of_unowned? hu] at hp
    cases hp

/-- A resource without an owner is covered by no write half on record. -/
theorem not_onRecord_of_owner?_eq_none (inv : s.Invariant L) {g : RegistryId} {r : K}
    (none : s.owner? g r = none) (covers : Covers L .write g r h) : ¬ s.OnRecord h t := by
  intro rec
  have owned := (inv.owner_iff g r t).2 ⟨h, covers, rec⟩
  rw [none] at owned
  cases owned

/-- A read half on record shows in the count of every resource it covers. -/
theorem holdCount_pos (inv : s.Invariant L) {g : RegistryId} {r : K}
    (covers : Covers L .read g r h) (rec : s.OnRecord h t) : 0 < s.holdCount g r t := by
  have hcount := inv.count g r t
  have hne : (s.shares L g r t).encard ≠ 0 := by
    rw [Set.encard_ne_zero]
    exact ⟨h, covers, rec⟩
  rw [← hcount, Nat.cast_ne_zero] at hne
  omega

end Invariant

/-- Nothing is on record at the start. -/
theorem not_onRecord_initial : ¬ (initial : State b K).OnRecord h t := by
  rintro (held | hp)
  · cases held
  · cases hp

/-- The invariant holds at the start. -/
theorem invariant_initial : (initial : State b K).Invariant L where
  fits t := trivial
  inside_iff g m t := by
    refine iff_of_false ?_ id
    cases m <;> exact nofun
  mutex_iff h t := iff_of_false nofun nofun
  absent h t := nofun
  joined h t := nofun
  owner_iff g r t := by
    refine iff_of_false ?_ ?_
    · rw [owner?, initial, Table.get_const, Ledger.get?_empty]
      exact nofun
    · rintro ⟨h, -, rec⟩
      exact not_onRecord_initial rec
  unique g r h h' t t' _ _ rec := absurd rec not_onRecord_initial
  tidy g := Holders.tidy_empty
  count g r t := by
    have hempty : (initial : State b K).shares L g r t = ∅ :=
      Set.eq_empty_of_forall_notMem fun h hh => not_onRecord_initial hh.2
    rw [hempty, Set.encard_empty, holdCount, initial, Table.get_const, Holders.count_empty]
    rfl
  unowned h t := nofun
  drained h t _ drained := absurd drained.onRecord not_onRecord_initial

/-! ## One turn

One theorem for each field. The thread whose turn it is stands where its turn puts it; every other
thread stands where it stood. -/

namespace Turn

variable {e : Effect} {A' : Activity K}

/-- A turn leads to a stage that fits its kind. -/
theorem fits_after (turn : s.Turn L t (s.activity t) e A') (inv : s.Invariant L) (u : ThreadId) :
    ((s.after L t e A').activity u).Fits := by
  by_cases hu : u = t
  · subst hu
    rw [activity_after_self]
    exact turn.fits (inv.fits u)
  · rw [(alike_after L s e A' hu).fits]
    exact inv.fits u

/-- After a turn the monitors are still occupied by those who are inside by their stage. -/
theorem inside_iff_after (turn : s.Turn L t (s.activity t) e A') (inv : s.Invariant L)
    (g : RegistryId) (m : Monitor) (u : ThreadId) :
    ((s.after L t e A').registries.get g).inside m = some u ↔
      ((s.after L t e A').activity u).IsInside L g m := by
  have hreq := turn.requires (inv.fits t)
  rw [registries_after, Effect.inside_apply]
  by_cases hu : u = t
  · subst hu
    rw [activity_after_self, turn.isInside_iff (inv.fits u), ← inv.inside_iff]
    by_cases henter : e = .enter g m
    · simp [henter]
    · by_cases hexit : e = .exit g m <;> simp [henter, hexit]
  · rw [(alike_after L s e A' hu).isInside, ← inv.inside_iff]
    by_cases henter : e = .enter g m
    · rw [henter] at hreq
      have hfree : (s.registries.get g).inside m = none := hreq
      simp [henter, hfree, Ne.symm hu]
    · by_cases hexit : e = .exit g m
      · rw [hexit] at hreq
        have hmine : (s.registries.get g).inside m = some t := (inv.inside_iff g m t).2 hreq
        simp [hexit, hmine, Ne.symm hu]
      · simp [henter, hexit]

/-- After a turn the mutexes are still occupied by those who are inside by their stage. -/
theorem mutex_iff_after (turn : s.Turn L t (s.activity t) e A') (inv : s.Invariant L)
    (h : Half) (u : ThreadId) :
    ((s.after L t e A').holds.get h).mutex = some u ↔
      ((s.after L t e A').activity u).mutex? = some h := by
  have hreq := turn.requires (inv.fits t)
  rw [holds_after, Effect.mutex_apply]
  by_cases hu : u = t
  · subst hu
    rw [activity_after_self, turn.mutex?_eq, hreq.mutexAfter_eq_some_iff, ← inv.mutex_iff]
    by_cases henter : e = .enterMutex h
    · simp [henter]
    · by_cases hleft : e.mutexLeft? = some h <;> simp [henter, hleft]
  · rw [(alike_after L s e A' hu).mutex?, ← inv.mutex_iff]
    by_cases henter : e = .enterMutex h
    · rw [henter] at hreq
      simp [henter, hreq.1, Ne.symm hu]
    · by_cases hleft : e.mutexLeft? = some h
      · have hmine : (s.holds.get h).mutex = some t :=
          (inv.mutex_iff h t).2 (hreq.mutex?_eq hleft)
        simp [henter, hleft, hmine, Ne.symm hu]
      · simp [henter, hleft]

/-- After a turn who has found that it does not hold a half does not hold it. -/
theorem absent_after (turn : s.Turn L t (s.activity t) e A') (inv : s.Invariant L)
    (h : Half) (u : ThreadId) (absent : ((s.after L t e A').activity u).absent? = some h) :
    ¬ (s.after L t e A').IsHeldBy h u := by
  by_cases hu : u = t
  · subst hu
    rw [activity_after_self] at absent
    rw [isHeldBy_after]
    obtain ⟨nojoin, known⟩ := turn.absent?_after absent
    rcases known with rfl | known | known
    · rw [Effect.isHeldBy_apply]
      intro held
      exact held.1 ⟨rfl, rfl⟩
    · intro held
      exact inv.absent h u known (Effect.isHeldBy_of_apply L u s nojoin held)
    · intro held
      exact known (Effect.isHeldBy_of_apply L u s nojoin held)
  · rw [(alike_after L s e A' hu).absent?] at absent
    rw [isHeldBy_after_of_ne L s e A' h hu]
    exact inv.absent h u absent

/-- After a turn who has just joined a hold set holds the half. -/
theorem joined_after (turn : s.Turn L t (s.activity t) e A') (inv : s.Invariant L)
    (h : Half) (u : ThreadId) (joined : ((s.after L t e A').activity u).joined? = some h) :
    (s.after L t e A').IsHeldBy h u := by
  by_cases hu : u = t
  · subst hu
    rw [activity_after_self] at joined
    obtain rfl := turn.joined?_after joined
    rw [isHeldBy_after, Effect.isHeldBy_apply]
    exact .inl ⟨rfl, rfl⟩
  · rw [(alike_after L s e A' hu).joined?] at joined
    rw [isHeldBy_after_of_ne L s e A' h hu]
    exact inv.joined h u joined

/-- **What is on record** changes when a half is recorded or cleared, and not when a thread joins a
hold set or parts from it. -/
theorem onRecord_after (turn : s.Turn L t (s.activity t) e A') (inv : s.Invariant L)
    (h : Half) (u : ThreadId) :
    (s.after L t e A').OnRecord h u ↔ e.onRecordAfter t h u (s.OnRecord h u) := by
  unfold OnRecord Effect.onRecordAfter
  rw [isHeldBy_after, Effect.isHeldBy_apply]
  have hshift := turn.pending?_shifts (inv.fits t)
  have hreq := turn.requires (inv.fits t)
  by_cases hu : u = t
  · subst hu
    rw [activity_after_self]
    cases e with
    | record m h' =>
      obtain ⟨hbefore, hafter⟩ := hshift
      rw [hbefore, hafter]
      grind
    | clear m h' =>
      obtain ⟨hbefore, hafter⟩ := hshift
      have hnot : ¬ s.IsHeldBy h' u := inv.not_isHeldBy_of_pending? hbefore
      rw [hbefore, hafter]
      grind
    | join h' =>
      obtain ⟨hbefore, hafter⟩ := hshift
      rw [hbefore, hafter]
      grind
    | part h' =>
      obtain ⟨hbefore, hafter⟩ := hshift
      have held : s.IsHeldBy h' u := hreq.2
      rw [hbefore, hafter]
      grind
    | _ =>
      rw [show A'.pending? = _ from hshift]
  · rw [(alike_after L s e A' hu).pending?]
    cases e with
    | _ => simp [hu]

/-- A claim is recorded where no resource has an owner. -/
theorem free_of_record {m : Monitor} {h' : Half}
    (turn : s.Turn L t (s.activity t) (.record m h') A') (inv : s.Invariant L) {k : Kind}
    {g : RegistryId} {r : K} (covers : Covers L k g r h') : s.owner? g r = none := by
  obtain ⟨-, rfl, hr⟩ := covers
  exact inv.unowned h' t (turn.requires (inv.fits t)).2.2.1 r hr

/-- After a turn an owner is still one who has a write half on record. -/
theorem owner_iff_after (turn : s.Turn L t (s.activity t) e A') (inv : s.Invariant L)
    (g : RegistryId) (r : K) (u : ThreadId) :
    (s.after L t e A').owner? g r = some u ↔
      ∃ h, Covers L .write g r h ∧ (s.after L t e A').OnRecord h u := by
  simp only [owner?_after, turn.onRecord_after inv]
  cases e with
  | record m h' =>
    obtain ⟨-, rfl, -, -⟩ := turn.requires (inv.fits t)
    rw [owner?_apply_record]
    by_cases hcovers : Covers L .write g r h'
    · rw [if_pos hcovers]
      constructor
      · intro hu
        exact ⟨h', hcovers, .inl ⟨rfl, (Option.some.inj hu).symm⟩⟩
      · rintro ⟨h, covers, ⟨-, rfl⟩ | rec⟩
        · rfl
        · have free := turn.free_of_record inv hcovers
          exact absurd rec (inv.not_onRecord_of_owner?_eq_none free covers)
    · rw [if_neg hcovers, inv.owner_iff]
      refine exists_congr fun h => and_congr_right fun covers => ?_
      have hne : h ≠ h' := covers.ne hcovers
      simp [Effect.onRecordAfter, hne]
  | clear m h' =>
    obtain ⟨hpending, -⟩ := turn.pending?_shifts (inv.fits t)
    obtain ⟨-, rfl⟩ := turn.requires (inv.fits t)
    rw [owner?_apply_clear]
    by_cases hcovers : Covers L .write g r h'
    · rw [if_pos hcovers]
      refine iff_of_false nofun ?_
      -- The only claim on the resource is the one that is cleared.
      rintro ⟨h, covers, hother, rec⟩
      exact hother (inv.unique g r h h' u t covers hcovers rec (.inr hpending))
    · rw [if_neg hcovers, inv.owner_iff]
      refine exists_congr fun h => and_congr_right fun covers => ?_
      have hne : h ≠ h' := covers.ne hcovers
      simp [Effect.onRecordAfter, hne]
  | _ =>
    rw [Effect.owner?_apply]
    exact inv.owner_iff g r u

/-- After a turn a resource still has one write half on record at most. -/
theorem unique_after (turn : s.Turn L t (s.activity t) e A') (inv : s.Invariant L)
    (g : RegistryId) (r : K) (h h' : Half) (u u' : ThreadId) (covers : Covers L .write g r h)
    (covers' : Covers L .write g r h') (rec : (s.after L t e A').OnRecord h u)
    (rec' : (s.after L t e A').OnRecord h' u') : h = h' ∧ u = u' := by
  rw [turn.onRecord_after inv] at rec rec'
  cases e with
  | record m h₀ =>
    rcases rec with ⟨rfl, rfl⟩ | rec
    · rcases rec' with ⟨rfl, rfl⟩ | rec'
      · exact ⟨rfl, rfl⟩
      · have free := turn.free_of_record inv covers
        exact absurd rec' (inv.not_onRecord_of_owner?_eq_none free covers')
    · rcases rec' with ⟨rfl, rfl⟩ | rec'
      · have free := turn.free_of_record inv covers'
        exact absurd rec (inv.not_onRecord_of_owner?_eq_none free covers)
      · exact inv.unique g r h h' u u' covers covers' rec rec'
  | clear m h₀ => exact inv.unique g r h h' u u' covers covers' rec.2 rec'.2
  | _ => exact inv.unique g r h h' u u' covers covers' rec rec'

/-- A turn that neither records nor clears a share of the thread leaves its shares alone. -/
theorem shares_after (turn : s.Turn L t (s.activity t) e A') (inv : s.Invariant L)
    {g : RegistryId} {r : K} {u : ThreadId}
    (other : ∀ m h', e = .record m h' ∨ e = .clear m h' → ¬ (Covers L .read g r h' ∧ u = t)) :
    (s.after L t e A').shares L g r u = s.shares L g r u := by
  ext h
  refine and_congr_right fun covers => ?_
  rw [turn.onRecord_after inv]
  have hother : ∀ h', ¬ (Covers L .read g r h' ∧ u = t) → ¬ (h = h' ∧ u = t) := by
    rintro h' hnot ⟨rfl, hu⟩
    exact hnot ⟨covers, hu⟩
  cases e with
  | record m h' => exact or_iff_right (hother h' (other m h' (.inl rfl)))
  | clear m h' => exact and_iff_right (hother h' (other m h' (.inr rfl)))
  | _ => exact Iff.rfl

/-- A share that is recorded is a new one. -/
theorem shares_after_record {m : Monitor} {h' : Half}
    (turn : s.Turn L t (s.activity t) (.record m h') A') (inv : s.Invariant L) {g : RegistryId}
    {r : K} (covers : Covers L .read g r h') :
    h' ∉ s.shares L g r t ∧
      (s.after L t (.record m h') A').shares L g r t = insert h' (s.shares L g r t) := by
  obtain ⟨-, -, hfound, habsent⟩ := turn.requires (inv.fits t)
  refine ⟨fun hmem => inv.not_onRecord hfound habsent hmem.2, ?_⟩
  ext h
  rw [Set.mem_insert_iff]
  unfold shares
  simp only [Set.mem_ofPred_eq, turn.onRecord_after inv, Effect.onRecordAfter, and_true]
  constructor
  · rintro ⟨hcovers, rfl | rec⟩
    · exact .inl rfl
    · exact .inr ⟨hcovers, rec⟩
  · rintro (rfl | ⟨hcovers, rec⟩)
    · exact ⟨covers, .inl rfl⟩
    · exact ⟨hcovers, .inr rec⟩

/-- A share that is cleared is an old one. -/
theorem shares_after_clear {m : Monitor} {h' : Half}
    (turn : s.Turn L t (s.activity t) (.clear m h') A') (inv : s.Invariant L) {g : RegistryId}
    {r : K} (covers : Covers L .read g r h') :
    h' ∉ (s.after L t (.clear m h') A').shares L g r t ∧
      s.shares L g r t = insert h' ((s.after L t (.clear m h') A').shares L g r t) := by
  obtain ⟨hpending, -⟩ := turn.pending?_shifts (inv.fits t)
  have hrec : s.OnRecord h' t := .inr hpending
  unfold shares
  simp only [turn.onRecord_after inv, Effect.onRecordAfter, and_true]
  refine ⟨fun hmem => hmem.2.1 rfl, ?_⟩
  ext h
  rw [Set.mem_insert_iff]
  simp only [Set.mem_ofPred_eq]
  constructor
  · rintro ⟨hcovers, rec⟩
    by_cases hh : h = h'
    · exact .inl hh
    · exact .inr ⟨hcovers, hh, rec⟩
  · rintro (rfl | ⟨hcovers, -, rec⟩)
    · exact ⟨covers, hrec⟩
    · exact ⟨hcovers, rec⟩

/-- After a turn holds are still as many as read halves on record. -/
theorem count_after (turn : s.Turn L t (s.activity t) e A') (inv : s.Invariant L)
    (g : RegistryId) (r : K) (u : ThreadId) :
    ((s.after L t e A').holdCount g r u : ℕ∞) = ((s.after L t e A').shares L g r u).encard := by
  have hcount := inv.count g r u
  rw [holdCount_after]
  cases e with
  | record m h' =>
    obtain ⟨-, rfl, -, -⟩ := turn.requires (inv.fits t)
    rw [holdCount_apply_record]
    by_cases hmine : Covers L .read g r h' ∧ u = t
    · obtain ⟨covers, rfl⟩ := hmine
      obtain ⟨hnot, hshares⟩ := turn.shares_after_record inv covers
      rw [hshares, Set.encard_insert_of_notMem hnot, ← hcount, if_pos ⟨covers, rfl⟩]
      push_cast
      rfl
    · rw [turn.shares_after inv, if_neg hmine, Nat.add_zero, hcount]
      rintro _ _ (he | he) <;> cases he
      exact hmine
  | clear m h' =>
    obtain ⟨-, rfl⟩ := turn.requires (inv.fits t)
    rw [holdCount_apply_clear]
    by_cases hmine : Covers L .read g r h' ∧ u = t
    · obtain ⟨covers, rfl⟩ := hmine
      obtain ⟨hnot, hshares⟩ := turn.shares_after_clear inv covers
      rw [hshares, Set.encard_insert_of_notMem hnot] at hcount
      rw [if_pos ⟨covers, rfl⟩, ENat.natCast_sub, hcount, Nat.cast_one]
      exact (ENat.addLECancellable_of_ne_top ENat.one_ne_top).add_tsub_cancel_right
    · rw [turn.shares_after inv, if_neg hmine, Nat.sub_zero, hcount]
      rintro _ _ (he | he) <;> cases he
      exact hmine
  | _ =>
    rw [turn.shares_after inv, Effect.holdCount_apply]
    · exact hcount
    · rintro _ _ (he | he) <;> cases he

/-- After a turn what a thread relies on to be unowned is unowned. -/
theorem unowned_after (turn : s.Turn L t (s.activity t) e A') (inv : s.Invariant L)
    (h : Half) (u : ThreadId) (unowned : ((s.after L t e A').activity u).unowned? = some h)
    (r : K) (hr : r ∈ L.resources h) : (s.after L t e A').owner? (L.registry h) r = none := by
  -- The owner of the resource is none before the turn, and the turn records nothing here.
  have before : s.owner? (L.registry h) r = none ∧
      ∀ m h', e = .record m h' → L.registry h' ≠ L.registry h ∨ h'.kind = .read := by
    by_cases hu : u = t
    · subst hu
      rw [activity_after_self] at unowned
      obtain ⟨norecord, found | free⟩ := turn.unowned?_after (inv.fits u) unowned
      · refine ⟨inv.unowned h u found r hr, ?_⟩
        rintro m h' rfl
        cases norecord
      · refine ⟨Owners.isFree_iff.1 free r hr, ?_⟩
        rintro m h' rfl
        cases norecord
    · rw [(alike_after L s e A' hu).unowned?] at unowned
      refine ⟨inv.unowned h u unowned r hr, ?_⟩
      rintro m h' rfl
      obtain ⟨hin, rfl, -, -⟩ := turn.requires (inv.fits t)
      cases hk : h'.kind with
      | read => exact .inr rfl
      | write =>
        refine .inl fun hg => hu ?_
        rw [hk, hg] at hin
        exact inv.inside_unique (Activity.isInside_of_unowned? (inv.fits u) unowned) hin
  obtain ⟨none, norecord⟩ := before
  rw [owner?_after]
  cases e with
  | record m h' =>
    obtain ⟨-, rfl, -, -⟩ := turn.requires (inv.fits t)
    rw [owner?_apply_record, if_neg, none]
    rintro ⟨hk, hg, -⟩
    rcases norecord _ h' rfl with hother | hread
    · exact hother hg
    · rw [hk] at hread
      cases hread
  | clear m h' =>
    obtain ⟨-, rfl⟩ := turn.requires (inv.fits t)
    rw [owner?_apply_clear, none, ite_self]
  | _ =>
    rw [Effect.owner?_apply]
    exact none

/-- Who has found resources without holders has found them so before or finds them so now. -/
theorem hasDrained_after (turn : s.Turn L t (s.activity t) e A') (inv : s.Invariant L)
    {h : Half} {u : ThreadId} (hk : h.kind = .write) (drained : (s.after L t e A').HasDrained h u) :
    s.HasDrained h u ∨
      (e.isRecord = false ∧ ∀ r ∈ L.resources h, ∀ v, s.holdCount (L.registry h) r v = 0) := by
  have hreq := turn.requires (inv.fits t)
  rcases drained with held | found
  · rw [isHeldBy_after, Effect.isHeldBy_apply] at held
    cases e with
    | join h' =>
      rcases held with ⟨rfl, rfl⟩ | held
      · exact .inl (.inr (hreq.2 hk))
      · exact .inl (.inl held)
    | part h' => exact .inl (.inl held.2)
    | _ => exact .inl (.inl held)
  · by_cases hu : u = t
    · subst hu
      rw [activity_after_self] at found
      obtain ⟨norecord, found | free⟩ := turn.drained?_after (inv.fits u) found
      · exact .inl (.inr found)
      · exact .inr ⟨norecord, (inv.tidy _).isFree_iff.1 free⟩
    · rw [(alike_after L s e A' hu).drained?] at found
      exact .inl (.inr found)

/-- After a turn what a writer has drained has no holders. -/
theorem drained_after (turn : s.Turn L t (s.activity t) e A') (inv : s.Invariant L)
    (h : Half) (u : ThreadId) (hk : h.kind = .write) (drained : (s.after L t e A').HasDrained h u)
    (r : K) (hr : r ∈ L.resources h) (v : ThreadId) :
    (s.after L t e A').holdCount (L.registry h) r v = 0 := by
  have hbefore : s.holdCount (L.registry h) r v = 0 := by
    rcases turn.hasDrained_after inv hk drained with before | ⟨-, zero⟩
    · exact inv.drained h u hk before r hr v
    · exact zero r hr v
  rw [holdCount_after]
  cases e with
  | record m h' =>
    obtain ⟨-, rfl, -, -⟩ := turn.requires (inv.fits t)
    rw [holdCount_apply_record, hbefore, if_neg]
    rintro ⟨hcovers, rfl⟩
    rcases turn.hasDrained_after inv hk drained with before | ⟨norecord, -⟩
    · -- A reader records its holds where no writer has a claim.
      have free := turn.free_of_record inv hcovers
      exact inv.not_onRecord_of_owner?_eq_none free ⟨hk, rfl, hr⟩ before.onRecord
    · cases norecord
  | clear m h' =>
    obtain ⟨-, rfl⟩ := turn.requires (inv.fits t)
    rw [holdCount_apply_clear, hbefore, Nat.zero_sub]
  | _ =>
    rw [Effect.holdCount_apply]
    exact hbefore

end Turn

/-- **One turn keeps the invariant.** -/
theorem Invariant.turn {e : Effect} {A' : Activity K} (inv : s.Invariant L)
    (turn : s.Turn L t (s.activity t) e A') : (s.after L t e A').Invariant L where
  fits := turn.fits_after inv
  inside_iff := turn.inside_iff_after inv
  mutex_iff := turn.mutex_iff_after inv
  absent := turn.absent_after inv
  joined := turn.joined_after inv
  owner_iff := turn.owner_iff_after inv
  unique := turn.unique_after inv
  tidy := Effect.tidy_apply L t inv.tidy e
  count := turn.count_after inv
  unowned := turn.unowned_after inv
  drained := turn.drained_after inv

/-! ## Every run -/

/-- What changes only flags and the clock keeps the invariant. -/
theorem Invariant.undisturbed {s' : State b K} (inv : s.Invariant L) (same : s.Undisturbed s') :
    s'.Invariant L := by
  obtain ⟨registries, holds, activity⟩ := same
  have held : ∀ h t, s'.IsHeldBy h t ↔ s.IsHeldBy h t := fun h t => by
    rw [IsHeldBy, IsHeldBy, holds]
  have owner : ∀ g r, s'.owner? g r = s.owner? g r := fun g r => by
    rw [owner?, owner?, registries]
  have count : ∀ g r t, s'.holdCount g r t = s.holdCount g r t := fun g r t => by
    rw [holdCount, holdCount, registries]
  exact {
    fits := by
      simpa only [activity] using inv.fits
    inside_iff := by
      simpa only [activity, registries] using inv.inside_iff
    mutex_iff := by
      simpa only [activity, holds] using inv.mutex_iff
    absent := by
      simpa only [activity, held] using inv.absent
    joined := by
      simpa only [activity, held] using inv.joined
    owner_iff := by
      simpa only [owner, OnRecord, activity, held] using inv.owner_iff
    unique := by
      simpa only [OnRecord, activity, held] using inv.unique
    tidy := by
      simpa only [registries] using inv.tidy
    count := by
      simpa only [count, shares, OnRecord, activity, held] using inv.count
    unowned := by
      simpa only [activity, owner] using inv.unowned
    drained := by
      simpa only [HasDrained, activity, held, count] using inv.drained }

/-- **Every reachable state satisfies the invariant.** -/
theorem Reachable.invariant (reachable : Reachable L s) : s.Invariant L := by
  induction reachable with
  | initial => exact invariant_initial
  | next α _ next inv =>
    obtain ⟨t, e, A', -, -, turn, rfl⟩ | ⟨-, same⟩ := next?_cases next
    · exact inv.turn turn
    · exact inv.undisturbed same

end State

end ResourceLocks.Protocol
