import ResourceLocks.Proofs.Ledger.Totals
import ResourceLocks.Proofs.Protocol.Waking

/-!
# Draining

A writer claims its resources while readers may still hold some of them, and waits for these to
leave. That the wait can end rests on the claim keeping new readers out.

* **One turn** (`State.Turn.holdsOn_after`): the holds on a resource become one more when a reader
  records them and one less when a reader takes them back. A reader records holds on resources
  without an owner only: it has looked for owners from inside the owner monitor and has not left it
  since, so that no claim can have come between.
* **What is on record stays so** (`State.onRecord_of_next?`) until its thread clears it, be it that
  the half is released or that a claim is withdrawn.
* So **a claim drains** (`State.Reachable.drains`): from the moment it is recorded until it is
  cleared, the holds on each of its resources only become fewer, and once the writer has found none
  there are none.
-/

namespace ResourceLocks.Protocol

variable {b : Backing} {K : Type} [Key K]

/-! ## Holds on a resource -/

/-- The number of shared holds on a resource in a registry, those of all threads together. -/
def State.holdsOn (s : State b K) (g : RegistryId) (r : K) : Nat :=
  (s.registries.get g).holders.holdsOn r

/-- There are no holds on a resource exactly when no thread has one. -/
theorem State.holdsOn_eq_zero_iff {s : State b K} {g : RegistryId} {r : K} :
    s.holdsOn g r = 0 ↔ ∀ t, s.holdCount g r t = 0 :=
  Holders.holdsOn_eq_zero_iff

namespace Effect

variable {L : Layout K} {t : ThreadId} {s : State b K} {g : RegistryId} {r : K} {h : Half}

/-- To record a read half adds one hold on what it covers. -/
theorem holdsOn_apply_record :
    ((record (.ofKind h.kind) h).apply L t s).holdsOn g r =
      s.holdsOn g r + if Covers L .read g r h then 1 else 0 := by
  unfold State.holdsOn
  rw [holders_apply]
  cases hk : h.kind with
  | write => simp [Covers, Monitor.ofKind, hk]
  | read =>
    by_cases hg : L.registry h = g
    · have hhold := Holders.holdsOn_hold (s.registries.get g).holders (L.resources h).nodup t r
      simp [Covers, Monitor.ofKind, hk, hg, hhold, ResourceSet.mem_def]
    · simp [Covers, Monitor.ofKind, hk, hg]

/-- To clear a read half takes one hold on what it covers, if the thread has any. -/
theorem holdsOn_apply_clear :
    ((clear (.ofKind h.kind) h).apply L t s).holdsOn g r +
        (if Covers L .read g r h then min (s.holdCount g r t) 1 else 0) = s.holdsOn g r := by
  unfold State.holdsOn State.holdCount
  rw [holders_apply]
  cases hk : h.kind with
  | write => simp [Covers, Monitor.ofKind, hk]
  | read =>
    by_cases hg : L.registry h = g
    · have hrelease :=
        Holders.holdsOn_release (s.registries.get g).holders (L.resources h).nodup t r
      simpa [Covers, Monitor.ofKind, hk, hg, ResourceSet.mem_def] using hrelease
    · simp [Covers, Monitor.ofKind, hk, hg]

end Effect

namespace State

variable {L : Layout K} {s s' : State b K} {t : ThreadId} {h : Half}

/-- What a turn does to the holds on a resource. -/
inductive HoldsChange (L : Layout K) (s : State b K) (t : ThreadId) (e : Effect) (g : RegistryId)
    (r : K) (s' : State b K) : Prop where
  /-- They stay the same. -/
  | same (same : s'.holdsOn g r = s.holdsOn g r)
  /-- A reader records a hold on a resource that has no owner. -/
  | more (h : Half) (covers : Covers L .read g r h) (records : e = .record .holder h)
    (unowned : s.owner? g r = none) (unowned' : s'.owner? g r = none)
    (more : s'.holdsOn g r = s.holdsOn g r + 1)
  /-- A reader takes a hold back. -/
  | less (h : Half) (covers : Covers L .read g r h) (clears : e = .clear .holder h)
    (less : s'.holdsOn g r + 1 = s.holdsOn g r)

/-- **What a turn does to the holds on a resource**, with its reason. -/
theorem Turn.holdsOn_after {e : Effect} {A' : Activity K}
    (turn : s.Turn L t (s.activity t) e A') (inv : s.Invariant L) (g : RegistryId) (r : K) :
    s.HoldsChange L t e g r (s.after L t e A') := by
  have hafter : (s.after L t e A').holdsOn g r = (e.apply L t s).holdsOn g r := rfl
  cases e with
  | record m h =>
    obtain ⟨-, rfl, -, -⟩ := turn.requires (inv.fits t)
    rw [Effect.holdsOn_apply_record] at hafter
    by_cases covers : Covers L .read g r h
    · have free := turn.free_of_record inv covers
      have hkind : h.kind = .read := covers.1
      refine .more h covers (by rw [hkind]; rfl) free ?_ (by rw [hafter, if_pos covers])
      rw [owner?_after, owner?_apply_record, if_neg, free]
      rintro ⟨write, -⟩
      rw [hkind] at write
      cases write
    · exact .same (by rw [hafter, if_neg covers, Nat.add_zero])
  | clear m h =>
    have recorded : s.OnRecord h t := .inr (turn.pending?_shifts (inv.fits t)).1
    obtain ⟨-, rfl⟩ := turn.requires (inv.fits t)
    have hclear := Effect.holdsOn_apply_clear (L := L) (t := t) (s := s) (g := g) (r := r) (h := h)
    by_cases covers : Covers L .read g r h
    · have hpos : 0 < s.holdCount g r t := inv.holdCount_pos covers recorded
      have hkind : h.kind = .read := covers.1
      refine .less h covers (by rw [hkind]; rfl) ?_
      rw [if_pos covers, Nat.min_eq_right hpos] at hclear
      exact hclear
    · rw [if_neg covers, Nat.add_zero] at hclear
      exact .same (hafter.trans hclear)
  | _ => exact .same (by rw [hafter, holdsOn, holdsOn, Effect.holders_apply])

/-! ## Resources with an owner -/

/-- **The holds on a resource that has an owner do not grow**, whether it has the owner before or
after what happens. -/
theorem Invariant.holdsOn_le_of_owned (inv : s.Invariant L) {α : Action K} {g : RegistryId} {r : K}
    (next : s.next? L α = some s') (owned : s.owner? g r ≠ none ∨ s'.owner? g r ≠ none) :
    s'.holdsOn g r ≤ s.holdsOn g r := by
  obtain ⟨u, e, A', -, -, turn, rfl⟩ | ⟨-, undisturbed⟩ := next?_cases next
  · cases turn.holdsOn_after inv g r with
    | same same => exact same.le
    | more h covers records unowned unowned' =>
      rcases owned with owned | owned
      · exact absurd unowned owned
      · exact absurd unowned' owned
    | less h covers clears less => omega
  · rw [holdsOn, holdsOn, undisturbed.registries]

/-- The holds on a resource become fewer one by one, each with the step of a reader that clears a
half over the resource. -/
theorem Invariant.clears_of_holdsOn_lt (inv : s.Invariant L) {α : Action K} {g : RegistryId}
    {r : K} (next : s.next? L α = some s') (fewer : s'.holdsOn g r < s.holdsOn g r) :
    s'.holdsOn g r + 1 = s.holdsOn g r ∧
      ∃ u h, α = .step u ∧ (s.activity u).clearing? = some h ∧ Covers L .read g r h := by
  obtain ⟨u, e, A', -, step, turn, rfl⟩ | ⟨-, undisturbed⟩ := next?_cases next
  · cases turn.holdsOn_after inv g r with
    | same same => omega
    | more h covers records unowned unowned' more => omega
    | less h covers clears less =>
      subst clears
      exact ⟨less, u, h, step.resolve_right nofun, turn.clearing?_eq, covers⟩
  · rw [holdsOn, holdsOn, undisturbed.registries] at fewer
    exact absurd fewer (lt_irrefl _)

/-! ## Claims -/

/-- **What is on record stays so** unless its thread clears it. -/
theorem onRecord_of_next? {α : Action K} (inv : s.Invariant L) (next : s.next? L α = some s')
    (recorded : s.OnRecord h t) (keeps : α = .step t → (s.activity t).clearing? ≠ some h) :
    s'.OnRecord h t := by
  obtain ⟨u, e, A', -, step, turn, rfl⟩ | ⟨-, same⟩ := next?_cases next
  · rw [turn.onRecord_after inv]
    cases e with
    | clear m h' =>
      refine ⟨?_, recorded⟩
      rintro ⟨rfl, rfl⟩
      exact keeps (step.resolve_right nofun) turn.clearing?_eq
    | record m h' => exact .inr recorded
    | _ => exact recorded
  · unfold OnRecord IsHeldBy at recorded ⊢
    rw [same.holds, same.activity]
    exact recorded

/-- In a run from the state the thread does not clear the half: it neither releases it nor withdraws
a claim of it. -/
def Retains (L : Layout K) (s : State b K) (h : Half) (t : ThreadId) (αs : List (Action K)) :
    Prop :=
  ∀ αs₁ αs₂ u, αs = αs₁ ++ .step t :: αs₂ → s.run? L αs₁ = some u →
    (u.activity t).clearing? ≠ some h

/-- What is to be said of the holds on resources that are claimed. -/
structure Drains (L : Layout K) (s : State b K) : Prop where
  /-- Where a resource has an owner before something happens or after it, the holds on it do not
  become more. -/
  shut : ∀ α s' g r, s.next? L α = some s' → s.owner? g r ≠ none ∨ s'.owner? g r ≠ none →
    s'.holdsOn g r ≤ s.holdsOn g r
  /-- Where they become fewer, it is by one, in the step of a reader that clears a half over the
  resource. -/
  leaves : ∀ α s' g r, s.next? L α = some s' → s'.holdsOn g r < s.holdsOn g r →
    s'.holdsOn g r + 1 = s.holdsOn g r ∧
      ∃ u h, α = .step u ∧ (s.activity u).clearing? = some h ∧ Covers L .read g r h
  /-- A claim that is on record stays so in a run until its thread clears it; so long the thread
  owns its resources, and the holds on each of them do not become more. -/
  claim : ∀ αs s' h t, h.kind = .write → s.OnRecord h t → s.run? L αs = some s' →
    s.Retains L h t αs → s'.OnRecord h t ∧ ∀ r ∈ L.resources h,
      s'.owner? (L.registry h) r = some t ∧
        s'.holdsOn (L.registry h) r ≤ s.holdsOn (L.registry h) r
  /-- Once the writer has found its resources without holds, or holds its half, there are none on
  any of them, and none until its thread clears the claim. -/
  drained : ∀ αs s' h t, h.kind = .write → s.HasDrained h t → s.run? L αs = some s' →
    s.Retains L h t αs → ∀ r ∈ L.resources h, s'.holdsOn (L.registry h) r = 0

/-- A claim in a run in which its thread does not clear it. -/
theorem Reachable.claim_of_run? (reachable : Reachable L s) {αs : List (Action K)}
    (write : h.kind = .write) (recorded : s.OnRecord h t) (run : s.run? L αs = some s')
    (retains : s.Retains L h t αs) :
    s'.OnRecord h t ∧ ∀ r ∈ L.resources h, s'.holdsOn (L.registry h) r ≤ s.holdsOn (L.registry h) r
    := by
  refine run?_induction (P := fun u => u.OnRecord h t ∧ ∀ r ∈ L.resources h,
    u.holdsOn (L.registry h) r ≤ s.holdsOn (L.registry h) r) ⟨recorded, fun _ _ => le_rfl⟩ ?_ run
  rintro αs₁ α αs₂ u v split before next - ⟨recorded', fewer⟩
  have inv := (reachable.run before).invariant
  have kept : v.OnRecord h t := by
    refine onRecord_of_next? inv next recorded' ?_
    rintro rfl
    exact retains αs₁ αs₂ u split before
  refine ⟨kept, fun r hr => ?_⟩
  have owned : u.owner? (L.registry h) r = some t :=
    (inv.owner_iff _ r t).2 ⟨h, ⟨write, rfl, hr⟩, recorded'⟩
  have step := inv.holdsOn_le_of_owned next (.inl (by rw [owned]; exact nofun))
  exact step.trans (fewer r hr)

/-- **A claim shuts readers out.** In every reachable state, the holds on a resource do not become
more in a step before or after which the resource has an owner. So from the moment a writer has
claimed its resources until it releases or withdraws them, the holds on each of them only become
fewer; and once it has found none, there are none. -/
theorem Reachable.drains (reachable : Reachable L s) : s.Drains L where
  shut α s' g r next owned := reachable.invariant.holdsOn_le_of_owned next owned
  leaves α s' g r next fewer := reachable.invariant.clears_of_holdsOn_lt next fewer
  claim := by
    intro αs s' h t write recorded run retains
    obtain ⟨kept, fewer⟩ := reachable.claim_of_run? write recorded run retains
    refine ⟨kept, fun r hr => ⟨?_, fewer r hr⟩⟩
    exact ((reachable.run run).invariant.owner_iff _ r t).2 ⟨h, ⟨write, rfl, hr⟩, kept⟩
  drained := by
    intro αs s' h t write drained run retains r hr
    have none : s.holdsOn (L.registry h) r = 0 :=
      holdsOn_eq_zero_iff.2 (reachable.invariant.drained h t write drained r hr)
    have fewer := (reachable.claim_of_run? write drained.onRecord run retains).2 r hr
    omega

/-- A reader that holds a resource another thread has claimed takes its hold back; the writer is
then woken and completes its acquisition. -/
def lastReaderLeaves : List (Action Nat) := .step 0 :: .step 0 :: List.replicate 7 (.step 1)

/-- The last reader leaves a resource that a writer drains, and the writer gets its half. -/
theorem drains_readerAboutToLeave :
    (finish .threeLocks readerAboutToLeave : State .hash Nat).owner? 0 2 = some 1 ∧
      (finish .threeLocks readerAboutToLeave : State .hash Nat).holdsOn 0 2 = 1 ∧
      (finish .threeLocks readerAboutToLeave : State .hash Nat).Drains .threeLocks ∧
      (finish .threeLocks (readerAboutToLeave ++ lastReaderLeaves) :
        State .hash Nat).IsHeldBy ⟨1, .write⟩ 1 ∧
      (finish .threeLocks (readerAboutToLeave ++ lastReaderLeaves) :
        State .hash Nat).holdsOn 0 2 = 0 :=
  ⟨by decide +kernel, by decide +kernel, (reachable_finish readerAboutToLeave).drains,
    by decide +kernel, by decide +kernel⟩

end State

end ResourceLocks.Protocol
