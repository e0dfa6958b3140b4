import Rendezvous.Time.Span
import Rendezvous.Toml.Parser

/-!
# Settings

The settings of a conductor, read from a TOML document. Every section and every field may be left
out, and what is not known is passed over. A section is a table or the array of its fields in order,
cut off anywhere or longer than needed.
-/

namespace Rendezvous

/-- The settings of a conductor. -/
structure Settings where
  /-- Where players connect to. -/
  bindAddress : String := "0.0.0.0:4711"
  /-- How long a new connection may take to say who it is. -/
  helloTimeoutSecs : UInt64 := 10
  /-- How many connections may be open at once. -/
  maxPlayers : UInt64 := 64
  /-- How long a frame from a player may be. -/
  maxFrameSize : UInt64 := 65536
  /-- The deadline of barriers that are opened without one; zero for none. -/
  defaultTimeoutSecs : UInt64 := 0
  /-- How long a command waits for its acknowledgement when nothing else is said. -/
  commandTimeoutSecs : UInt64 := 30
  /-- Where the status pages are served. -/
  httpBindAddress : String := "127.0.0.1:8711"
  /-- Whether the status pages are served. -/
  httpEnabled : Bool := true
deriving DecidableEq, Repr, Inhabited

/-- Why settings cannot be had. -/
inductive SettingsError where
  /-- The document is missing or is not text. -/
  | unreadable
  /-- The document is not TOML or a field does not hold what it should. -/
  | malformed
deriving DecidableEq, Repr, Inhabited

namespace Settings

def helloTimeout (s : Settings) : Span := .ofSecs s.helloTimeoutSecs

/-- The deadline of barriers that are opened without one. -/
def defaultTimeout (s : Settings) : Option Span :=
  if s.defaultTimeoutSecs = 0 then none else some (.ofSecs s.defaultTimeoutSecs)

def commandTimeout (s : Settings) : Span := .ofSecs s.commandTimeoutSecs

/-! ## Reading -/

/-- The values of the fields of a section. A point in time is a section without fields. -/
def slots? (names : List String) : Option Toml.Value → Option (List (Option Toml.Value))
  | none => some (names.map fun _ => none)
  | some (.table entries) => some (names.map (Toml.lookup · entries))
  | some (.arr items) => some ((List.range names.length).map (items[·]?))
  | some (.datetime _) => some (names.map fun _ => none)
  | some _ => none

/-- The value of a field, or what stands for a missing one. -/
def field {α : Type} (read : Toml.Value → Option α) (default : α) : Option Toml.Value → Option α
  | none => some default
  | some v => read v

def text? : Toml.Value → Option String
  | .str s => some s
  | _ => none

def count? : Toml.Value → Option UInt64
  | .int i => if 0 ≤ i then some (UInt64.ofNat i.toNat) else none
  | _ => none

def flag? : Toml.Value → Option Bool
  | .bool b => some b
  | _ => none

/-- Reads the settings from the entries of a document. -/
def ofEntries? (entries : List (String × Toml.Value)) : Option Settings := do
  let d : Settings := {}
  let [bind] ← slots? ["bind_address"] (Toml.lookup "server" entries) | none
  let [hello, players, size] ←
    slots? ["hello_timeout_secs", "max_players", "max_frame_size"]
      (Toml.lookup "limits" entries) | none
  let [barrier] ← slots? ["default_timeout_secs"] (Toml.lookup "barrier" entries) | none
  let [command] ← slots? ["command_timeout_secs"] (Toml.lookup "faults" entries) | none
  let [httpBind, enabled] ←
    slots? ["bind_address", "enabled"] (Toml.lookup "http" entries) | none
  return {
    bindAddress := ← field text? d.bindAddress bind
    helloTimeoutSecs := ← field count? d.helloTimeoutSecs hello
    maxPlayers := ← field count? d.maxPlayers players
    maxFrameSize := ← field count? d.maxFrameSize size
    defaultTimeoutSecs := ← field count? d.defaultTimeoutSecs barrier
    commandTimeoutSecs := ← field count? d.commandTimeoutSecs command
    httpBindAddress := ← field text? d.httpBindAddress httpBind
    httpEnabled := ← field flag? d.httpEnabled enabled }

/-- Reads the settings from the bytes of a document, if there is one. -/
def parse (document : Option (List UInt8)) : Except SettingsError Settings :=
  match document.bind fun bytes => String.fromUTF8? ⟨bytes.toArray⟩ with
  | none => .error .unreadable
  | some text =>
    match (Toml.parse? text).bind ofEntries? with
    | some s => .ok s
    | none => .error .malformed

end Settings

end Rendezvous
