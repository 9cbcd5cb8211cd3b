import ResourceLocks.Proofs.Config.Interval
import ResourceLocks.Session.Perform

/-!
# The settings of providers

A provider has a configuration whose interval is **in range** (`Config.IsInRange`), in whatever way
it was made (`Session.keepsIntervals`): with a configuration that was given, which is refused if it
is not in range, without one, or as a clone of another provider, whose registry it shares then.
-/

namespace ResourceLocks

/-! ## Settings -/

/-- The interval of settings is in range. -/
theorem Settings.inRange (settings : Settings) : settings.toConfig.IsInRange :=
  settings.toConfig.isLegal_iff.1 settings.legal

/-- Settings are made of a configuration that is in range. -/
theorem Settings.ofConfig_of_inRange {c : Config} (inRange : c.IsInRange) :
    ∃ settings : Settings, settings.toConfig = c ∧ Settings.ofConfig c = .ok settings :=
  ⟨⟨c, c.isLegal_iff.2 inRange⟩, rfl, dif_pos (c.isLegal_iff.2 inRange)⟩

/-- None are made of another one. -/
theorem Settings.ofConfig_of_not_inRange {c : Config} (illegal : ¬ c.IsInRange) :
    Settings.ofConfig c = .error c.outOfRange :=
  dif_neg fun legal => illegal (c.isLegal_iff.1 legal)

/-! ## Providers -/

namespace Session

open Protocol

variable {b : Backing} {K : Type} [Key K]

/-- How providers come to their settings. -/
structure KeepsIntervals (s : Session b K) : Prop where
  /-- The interval of every registry is in range. -/
  inRange : ∀ g, (s.layout.settings.get g).toConfig.IsInRange
  /-- So is that of a provider for which no configuration is given. -/
  standard : ({} : Config).IsInRange
  /-- Who makes a provider gets one with the configuration that is given, if that is in range. -/
  made : ∀ name w provider config, (Option.getD config {}).IsInRange →
    ∃ settings g s', settings.toConfig = config.getD {} ∧
      s.enact name w (.newProvider provider config) = (.provider settings, s') ∧
      s'.providers.get? provider = some g ∧ s'.layout.settings.get g = settings
  /-- If not, there is no provider. -/
  refused : ∀ name w provider config, ¬ (Option.getD config {}).IsInRange →
    s.enact name w (.newProvider provider config) = (.failed (config.getD {}).outOfRange, s)
  /-- A clone has the registry of what it was cloned from, and its settings. -/
  cloned : ∀ name w provider g other, s.providers.get? provider = some g →
    ∃ s', s.enact name w (.withProvider provider (.clone other)) =
        (.provider (s.layout.settings.get g), s') ∧
      s'.providers.get? other = some g ∧ s'.layout = s.layout

/-- **Every provider has an interval in range**, in whatever way it was made. -/
theorem keepsIntervals (s : Session b K) : s.KeepsIntervals where
  inRange g := (s.layout.settings.get g).inRange
  standard := Settings.standard.inRange
  made name w provider config inRange := by
    obtain ⟨settings, same, made⟩ := Settings.ofConfig_of_inRange inRange
    refine ⟨settings, s.registryCount, s.newProvider provider settings, same, ?_, ?_, ?_⟩
    · rw [enact, made]
    · rw [newProvider, Ledger.get?_insert, if_pos rfl]
    · exact Table.get_set_self ..
  refused name w provider config illegal := by
    rw [enact, Settings.ofConfig_of_not_inRange illegal]
  cloned name w provider g other registered := by
    refine ⟨{ s with providers := s.providers.insert other g }, ?_, ?_, rfl⟩
    · rw [enact, registered]
      rfl
    · rw [Ledger.get?_insert, if_pos rfl]

end Session

end ResourceLocks
