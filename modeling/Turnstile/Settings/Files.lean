import Turnstile.Fault
import Turnstile.Json.Decode
import Turnstile.Settings.Ini
import Turnstile.Settings.Json5
import Turnstile.Settings.Path
import Turnstile.Settings.Ron
import Turnstile.Settings.Toml
import Turnstile.Settings.Yaml

/-!
Settings files: their formats, the choice among files of one stem, and the entries that a file
describes. A file whose name is the stem itself says nothing of its format and hides all others.
-/

namespace Turnstile.Settings

/-! ## Errors -/

/-- Why the reading of settings breaks off. -/
inductive Breakage
  /-- an entry cannot be put at its place -/
  | misplaced (place : Setting.Misplaced)
  /-- a key is neither a text nor an integer -/
  | key
deriving DecidableEq, Repr

/-- What is said of it. -/
def Breakage.message : Breakage → String
  | .misplaced place => place.message
  | .key => "internal error: entered unreachable code"

/-- Why there are no settings. -/
inductive LayerError
  | fault (fault : Fault)
  | broken (cause : Breakage)

/-- The error of a file that is not well-formed. -/
def malformed : LayerError := .fault (.settings "the file is malformed")

/-! ## Formats -/

/-- How a settings file is written. -/
inductive FileFormat
  | toml
  | json
  | yaml
  | ini
  | ron
  | json5
deriving DecidableEq, Repr

namespace FileFormat

/-- The endings of the names of files, with the format that each stands for. -/
def endings : List (String × FileFormat) :=
  [(".toml", .toml), (".json", .json), (".yaml", .yaml), (".yml", .yaml), (".ini", .ini),
   (".ron", .ron), (".json5", .json5)]

/-- The file of a stem among files with their names, with its format. -/
def choose? (files : List (String × String)) (stem : String) : Option (FileFormat × String) :=
  if (files.lookup stem).isSome then none
  else endings.findSome? fun (ending, format) => (files.lookup (stem ++ ending)).map (format, ·)

/-- The mark that a text file may begin with. -/
def byteOrderMark : Char := '\ufeff'

/-- A text without the mark that it may begin with. -/
def dropMark (text : String) : String :=
  match text.toList with
  | c :: rest => if c = byteOrderMark then .ofList rest else text
  | [] => text

/-- The entries of a settings file. -/
def read (format : FileFormat) (text : String) : Except LayerError (List (String × Setting)) :=
  let text := dropMark text
  match format with
  | .toml => (Toml.read? text).elim (.error malformed) .ok
  | .ini => (Ini.read? text).elim (.error malformed) .ok
  | .ron => (Ron.read? text).elim (.error malformed) .ok
  | .json5 => (Json5.read? text).elim (.error malformed) .ok
  | .yaml => (Yaml.read text).mapError fun
    | .unfit .key => .broken .key
    | _ => malformed
  | .json =>
    match Json.read? text with
    | .ok (.object members) => .ok (Setting.ofMembers members)
    | _ => .error malformed

end FileFormat

end Turnstile.Settings
