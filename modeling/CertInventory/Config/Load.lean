import CertInventory.Config.Read
import CertInventory.Datum.Yaml.Unfold
import CertInventory.Outside.Failure

/-!
Loading a configuration from a file in YAML.
-/

namespace CertInventory

inductive ConfigError where
  | file (f : Failure)
  | notText
  | notYaml (path : String) (e : Yaml.ValueError)
  | notMapping (path : String)
  | refused (r : Refusal)
  deriving DecidableEq, Repr

namespace Config

def problemsText (count : Nat) : String :=
  Text.showNat count ++ (if count = 1 then " validation error" else " validation errors") ++ " for Config"

def ofText (path : String) (cs : List Char) : Except ConfigError Config :=
  match Yaml.read cs with
  | .error e => .error (.notYaml path e)
  | .ok content =>
    match (content.getD .null).opened with
    | .null => (ofDatum .null).mapError .refused
    | .map entries => (ofDatum (.map entries)).mapError .refused
    | _ => .error (.notMapping path)

def load (files : Files) (path : String) : Except ConfigError Config :=
  match files path with
  | .error f => .error (.file f)
  | .ok bytes =>
    match Text.Utf8.decode? bytes with
    | none => .error .notText
    | some cs => ofText path (Text.unifiedLines cs)

end Config

namespace ConfigError

def message? : ConfigError → Option String
  | .file f => some f.text
  | .notText => none
  | .notYaml path .malformed => some ("config " ++ path ++ ": <yaml>")
  | .notYaml _ (.refused message) => some message
  | .notYaml _ .emptyNumber => some "string index out of range"
  | .notYaml _ .tooDeep => some "maximum recursion depth exceeded"
  | .notYaml _ .unknownTruth | .notYaml _ .unmatchedTime | .notYaml _ .timeOfMap | .notYaml _ .outOfRange => none
  | .notMapping path => some ("config " ++ path ++ ": top level must be a mapping")
  | .refused (.invalid details) => some ("config validation: " ++ Config.problemsText details.length)
  | .refused .outOfRange => none

/-- Whether the time between runs falls back to its default on this error: on failures of the system and on values
that are not good. -/
def fallsBack : ConfigError → Bool
  | .file f => f.kind.isSystem || f.kind.isValue
  | .notText => true
  | .notYaml _ .malformed | .notYaml _ (.refused _) => true
  | .notYaml _ _ => false
  | .notMapping _ => true
  | .refused (.invalid _) => true
  | .refused .outOfRange => false

end ConfigError

end CertInventory
