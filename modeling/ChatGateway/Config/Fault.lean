import ChatGateway.Json.ReadError

/-!
# Configuration faults

Why there is no configuration to work with.

## Main definitions

* `FileFault` — why a file gives no text.
* `ConfigFault`, `ConfigFault.message` — the causes and their texts.
-/

namespace ChatGateway

/-- Why a file gives no text. -/
inductive FileFault where
  | missing
  | directory
  | withheld (reason : String)
  | notUtf8
  deriving DecidableEq, Repr

/-- The text of a file fault. -/
def FileFault.message : FileFault → String
  | missing => "No such file or directory (os error 2)"
  | directory => "Is a directory (os error 21)"
  | withheld reason => reason
  | notUtf8 => "stream did not contain valid UTF-8"

/-- Why there is no configuration. -/
inductive ConfigFault where
  /-- A text given as configuration cannot be read. -/
  | json (e : ReadError)
  /-- A file gives no text. -/
  | unreadable (path : String) (fault : FileFault)
  /-- The text of a file cannot be read as configuration. -/
  | unparsable (path : String) (e : ReadError)
  /-- An operation on files failed, told by its text. -/
  | inputOutput (text : String)
  /-- A fault found by a component outside, told by its text. -/
  | reported (text : String)
  deriving DecidableEq, Repr

/-- The text of a configuration fault. -/
def ConfigFault.message : ConfigFault → String
  | json e => "JSON error: " ++ e.message
  | unreadable path fault => "Failed to read " ++ path ++ ": " ++ fault.message
  | unparsable path e => "Failed to parse " ++ path ++ ": " ++ e.message
  | inputOutput text => "IO error: " ++ text
  | reported text => text

end ChatGateway
