import ResourceLocks.Config.Document
import ResourceLocks.Proofs.Config.Interval
import ResourceLocks.Proofs.Toml.Lines

/-!
# Configurations survive their documents

Three ranges meet where a configuration is written and read again: its interval is any number of
64 bits, the integers of a document have 64 bits with sign, and the legal intervals go from 1 to
1000. `Config.keepsInDocument` says how they meet, for every configuration.

* **Written**: there is a document exactly if the interval is below 2⁶³. It is flat, with one line
  for each field (`Config.lines`).
* **Read again** (`Config.ofDocument_written`): the document stands for the same configuration, of
  which reading asks what validation asks of any other.
* **Legal** (`Config.inRange_of_ofDocument`): what is read from any text, or loaded from any file,
  is legal. So it is below 2⁶³ as well, and the round trip is open to it.
-/

namespace ResourceLocks.Config

variable {c : Config} {text : String}

/-! ## Writing -/

/-- The lines of the document of a configuration. -/
def lines (c : Config) (small : c.intervalMs.toNat < UInt64.size / 2) : List Toml.Line :=
  [{ key := "interrupt_check_interval_ms"
     item := .integer c.intervalMs.toNat
     text := Nat.toDigits 10 c.intervalMs.toNat
     keyed := by decide
     bare := List.all_eq_true.1 (by decide)
     written := .integer small },
   { key := "yield_on_release"
     item := .boolean c.yieldOnRelease
     text := (toString c.yieldOnRelease).toList
     keyed := by decide
     bare := List.all_eq_true.1 (by decide)
     written := .boolean c.yieldOnRelease }]

/-- Where the interval is small enough, the document is that of the lines. -/
theorem toDocument?_of_small (small : c.intervalMs.toNat < UInt64.size / 2) :
    c.toDocument? = some (String.ofList ((c.lines small).flatMap Toml.Line.chars)) := by
  have first : "interrupt_check_interval_ms = ".toList =
      "interrupt_check_interval_ms".toList ++ [' ', '=', ' '] := by decide
  have second : "\nyield_on_release = ".toList =
      '\n' :: "yield_on_release".toList ++ [' ', '=', ' '] := by decide
  rw [toDocument?, if_pos small, Option.some_inj, ← String.toList_inj, String.toList_ofList]
  simp only [lines, List.flatMap_cons, List.flatMap_nil, Toml.Line.chars, String.toList_append,
    first, second, Nat.toString_eq_ofList_toDigits, String.toList_ofList, List.append_assoc,
    List.cons_append, List.nil_append, List.append_nil]
  rfl

/-- **There is a document exactly if the interval is below 2⁶³.** -/
theorem toDocument?_isSome_iff : c.toDocument?.isSome ↔ c.intervalMs.toNat < UInt64.size / 2 := by
  rw [toDocument?]
  split
  · rename_i small
    exact iff_of_true rfl small
  · rename_i large
    exact iff_of_false nofun large

/-- What is written has an interval of 63 bits. -/
theorem small_of_toDocument? (written : c.toDocument? = some text) :
    c.intervalMs.toNat < UInt64.size / 2 :=
  toDocument?_isSome_iff.1 (Option.isSome_of_eq_some written)

/-! ## Reading -/

/-- The entries of a document are read as the configuration that was written. -/
theorem ofEntries?_lines (small : c.intervalMs.toNat < UInt64.size / 2) :
    ofEntries? ((c.lines small).map Toml.Line.entry) = some c := by
  have interval : intervalOfItem? (.integer c.intervalMs.toNat) = some c.intervalMs := by
    rw [intervalOfItem?, if_pos (Int.natCast_nonneg _), Int.toNat_natCast, UInt64.ofNat_toNat]
  have first : ((c.lines small).map Toml.Line.entry).lookup "interrupt_check_interval_ms" =
      some (.integer c.intervalMs.toNat) := rfl
  have second : ((c.lines small).map Toml.Line.entry).lookup "yield_on_release" =
      some (.boolean c.yieldOnRelease) := rfl
  simp only [ofEntries?, entryOr, first, second, interval, yieldOfItem?, Option.bind_eq_bind,
    Option.bind_some]

/-- **What was written is read as the same configuration**, and is accepted if that is legal. -/
theorem ofDocument_written (written : c.toDocument? = some text) :
    ofDocument text = (c.validate.map fun _ => c).mapError .illegal := by
  have small := small_of_toDocument? written
  rw [toDocument?_of_small small] at written
  cases written
  have distinct : ((c.lines small).map fun l => l.entry.1).Nodup :=
    show ["interrupt_check_interval_ms", "yield_on_release"].Nodup by decide
  simp only [ofDocument, Toml.parse?_lines _ distinct, Option.bind_some, ofEntries?_lines small]
  cases c.validate <;> rfl

/-- **What is read is legal**, whatever it is read from. -/
theorem inRange_of_ofDocument (read : ofDocument text = .ok c) : c.IsInRange := by
  unfold ofDocument at read
  split at read
  · cases read
  · split at read
    · rename_i legal
      cases read
      exact validate_eq_ok_iff.1 legal
    · cases read

/-- A file is read as its text. -/
theorem load_file (text : String) :
    load (.file text.toUTF8) = (ofDocument text).mapError .unusable := by
  have same : String.fromUTF8? text.toUTF8 = some text := dif_pos text.isValidUTF8
  unfold load
  simp only [Source.text, same]
  cases ofDocument text <;> rfl

/-- What is loaded is read from a text. -/
theorem exists_of_load {source : Source} (loaded : load source = .ok c) :
    ∃ text, source.text = .ok text ∧ ofDocument text = .ok c := by
  unfold load at loaded
  split at loaded
  · cases loaded
  · rename_i text found
    split at loaded
    · cases loaded
    · rename_i c' read
      cases loaded
      exact ⟨text, found, read⟩

/-! ## Round trips -/

/-- There is a document of the configuration, and it is read as the configuration, also out of a
file. -/
def ReadsBack (c : Config) : Prop :=
  ∃ text, c.toDocument? = some text ∧ ofDocument text = .ok c ∧ load (.file text.toUTF8) = .ok c

/-- A configuration in range reads back. -/
theorem IsInRange.readsBack (inRange : c.IsInRange) : c.ReadsBack := by
  have small : c.intervalMs.toNat < UInt64.size / 2 := Nat.lt_of_le_of_lt inRange.2 (by decide)
  obtain ⟨text, written⟩ := Option.isSome_iff_exists.1 (toDocument?_isSome_iff.2 small)
  have read : ofDocument text = .ok c := by
    rw [ofDocument_written written, validate_eq_ok_iff.2 inRange]
    rfl
  exact ⟨text, written, read, by rw [load_file, read]; rfl⟩

/-- What becomes of a configuration in documents. -/
structure KeepsInDocument (c : Config) : Prop where
  /-- It can be written exactly if its interval is below 2⁶³. -/
  writable : c.toDocument?.isSome ↔ c.intervalMs.toNat < UInt64.size / 2
  /-- What was written is read as the same configuration if the interval is legal. -/
  restored : ∀ text, c.toDocument? = some text →
    1 ≤ c.intervalMs.toNat ∧ c.intervalMs.toNat ≤ 1000 → ofDocument text = .ok c
  /-- It is refused as a configuration out of range if not. -/
  refused : ∀ text, c.toDocument? = some text →
    ¬ (1 ≤ c.intervalMs.toNat ∧ c.intervalMs.toNat ≤ 1000) →
    ofDocument text = .error (.illegal c.outOfRange)
  /-- Read from whatever text, it passes validation and its own written form is read as itself. -/
  read : ∀ text, ofDocument text = .ok c → c.validate = .ok () ∧ c.ReadsBack
  /-- So it is when it was loaded, from whatever source. -/
  loaded : ∀ source, load source = .ok c → c.validate = .ok () ∧ c.ReadsBack

/-- **Configurations survive their documents exactly when they are legal.** -/
theorem keepsInDocument (c : Config) : c.KeepsInDocument where
  writable := toDocument?_isSome_iff
  restored text written inRange := by
    rw [ofDocument_written written, validate_eq_ok_iff.2 inRange]
    rfl
  refused text written illegal := by
    rw [ofDocument_written written, validate_of_not_inRange illegal]
    rfl
  read text read :=
    have inRange := inRange_of_ofDocument read
    ⟨validate_eq_ok_iff.2 inRange, inRange.readsBack⟩
  loaded source loaded := by
    obtain ⟨text, -, read⟩ := exists_of_load loaded
    have inRange := inRange_of_ofDocument read
    exact ⟨validate_eq_ok_iff.2 inRange, inRange.readsBack⟩

end ResourceLocks.Config
