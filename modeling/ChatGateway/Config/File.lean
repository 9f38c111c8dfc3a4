import ChatGateway.Config.Fault
import ChatGateway.Config.Wire
import ChatGateway.Text.Utf8

/-!
# Configuration files

A configuration may be kept in one named file, or be put together from the files
at a few known places, each laid over those before it.  A place without a file is
passed over; a file that cannot be read or parsed is a fault.

## Main definitions

* `File` — what stands at a path.
* `Config.ofFile` — the configuration of one file.
* `Config.ofPlaces` — the configuration of several places.
* `Config.places` — the known places, the weakest first.
-/

namespace ChatGateway

/-- What stands at a path. -/
inductive File where
  | missing
  | directory
  /-- The system does not let it be read, and says why. -/
  | withheld (reason : String)
  | bytes (content : List UInt8)
  deriving DecidableEq, Repr

/-- The text of a file. -/
def File.text : File → Except FileFault String
  | missing => .error .missing
  | directory => .error .directory
  | withheld reason => .error (.withheld reason)
  | bytes content =>
    match Utf8.decode? content with
    | some s => .ok s
    | none => .error .notUtf8

namespace Config

/-- The configuration of the file at a path. -/
def ofFile (path : String) (file : File) : Except ConfigFault Config :=
  match file.text with
  | .error fault => .error (.unreadable path fault)
  | .ok s =>
    match ofText s with
    | .error e => .error (.unparsable path e)
    | .ok c => .ok c

/-- Lay the files at the places over a configuration, in order. -/
def overlay (files : String → File) (c : Config) : List String → Except ConfigFault Config
  | [] => .ok c
  | path :: rest =>
    if files path = .missing then overlay files c rest
    else
      match ofFile path (files path) with
      | .error e => .error e
      | .ok other => overlay files (c.merge other) rest

/-- The configuration of the files at the places. -/
def ofPlaces (files : String → File) (paths : List String) : Except ConfigFault Config :=
  overlay files {} paths

/-- The known places, the weakest first: below the home directory, below the
directory of settings, in the current directory, and wherever a variable says. -/
def places (home settings : Option String) (env : Environment) : List String :=
  (home.map (· ++ "/.llmgate/config.json")).toList
    ++ (settings.map (· ++ "/llmgate/config.json")).toList
    ++ ["llmgate.json"]
    ++ (env.get? "LLMGATE_CONFIG_PATH").toList

end Config

end ChatGateway
