import ResourceLocks.Config
import ResourceLocks.Toml.Reader

/-!
# Configurations in files

A configuration is kept as a TOML document with two keys. Either may be missing and has its default
then; other keys are skipped. What is read is validated.

* `Config.ofDocument` reads a document, `Config.toDocument?` writes one. An interval that exceeds
  the integers of the format cannot be written.
* `Config.load` reads a file. There may be no such file, a directory in its place, or bytes that
  are no text.
-/

namespace ResourceLocks

namespace Config

/-! ## Reading -/

/-- Why a document is no configuration. -/
inductive DocumentError where
  /-- It is not well formed, or a value is not of its type. -/
  | malformed
  /-- The configuration is not legal. -/
  | illegal (e : LockError)
  deriving DecidableEq, Repr

/-- An interval in milliseconds. -/
def intervalOfItem? : Toml.Item → Option UInt64
  | .integer i => if 0 ≤ i then some (UInt64.ofNat i.toNat) else none
  | _ => none

/-- A yield flag. -/
def yieldOfItem? : Toml.Item → Option Bool
  | .boolean b => some b
  | _ => none

/-- The value of a key, read, or the default if there is no such key. -/
def entryOr {α : Type} (read : Toml.Item → Option α) (default : α) (key : String)
    (entries : Toml.Entries) : Option α :=
  match entries.lookup key with
  | none => some default
  | some item => read item

/-- The configuration of a document, whether it is legal or not. -/
def ofEntries? (entries : Toml.Entries) : Option Config := do
  let default : Config := {}
  let intervalMs ←
    entryOr intervalOfItem? default.intervalMs "interrupt_check_interval_ms" entries
  let yieldOnRelease ← entryOr yieldOfItem? default.yieldOnRelease "yield_on_release" entries
  some { intervalMs, yieldOnRelease }

/-- The legal configuration of a document. -/
def ofDocument (text : String) : Except DocumentError Config :=
  match (Toml.parse? text).bind ofEntries? with
  | none => .error .malformed
  | some c =>
    match c.validate with
    | .ok _ => .ok c
    | .error e => .error (.illegal e)

/-! ## Writing -/

/-- The document of a configuration whose interval is an integer of the format. -/
def toDocument? (c : Config) : Option String :=
  if c.intervalMs.toNat < UInt64.size / 2 then
    some <| "interrupt_check_interval_ms = " ++ toString c.intervalMs.toNat
      ++ "\nyield_on_release = " ++ toString c.yieldOnRelease ++ "\n"
  else none

/-! ## Files -/

/-- What is found where a file is looked for. -/
inductive Source where
  /-- Nothing. -/
  | missing
  /-- A directory. -/
  | directory
  /-- A file with these bytes. -/
  | file (bytes : ByteArray)

/-- Why no text can be read. -/
inductive SourceError where
  /-- There is no file. -/
  | notFound
  /-- There is a directory in its place. -/
  | isDirectory
  /-- The bytes are no text. -/
  | invalidData
  deriving DecidableEq, Repr

/-- Why no configuration can be loaded. -/
inductive LoadError where
  /-- No text can be read. -/
  | unreadable (e : SourceError)
  /-- The text is no configuration. -/
  | unusable (e : DocumentError)
  deriving DecidableEq, Repr

/-- What was being done when loading failed. -/
def LoadError.context : LoadError → String
  | unreadable _ => "Failed to read lock config file: "
  | unusable _ => "Failed to parse lock config file: "

/-- The text of a file. -/
def Source.text : Source → Except SourceError String
  | missing => .error .notFound
  | directory => .error .isDirectory
  | file bytes =>
    match String.fromUTF8? bytes with
    | some text => .ok text
    | none => .error .invalidData

/-- The configuration of a file. -/
def load (source : Source) : Except LoadError Config :=
  match source.text with
  | .error e => .error (.unreadable e)
  | .ok text =>
    match ofDocument text with
    | .error e => .error (.unusable e)
    | .ok c => .ok c

end Config

end ResourceLocks
