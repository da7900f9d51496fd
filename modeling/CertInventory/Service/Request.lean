import CertInventory.Outside.Web
import CertInventory.Target.Query
import CertInventory.Text.Numeral

/-!
Requests to the service. A request names its target by a reference: a path and perhaps a query, of which scheme and
authority in front and a fragment behind are dropped. Steps that stay or lead back are taken out of the path before
its escapes are undone, which happens twice: once where the reference is taken apart and once where it is served. A
guard does not see this path itself but what it is shown of it, which is left open (`PathView`).
-/

namespace CertInventory.Service

/-- A request: its method, the reference to its target, and its headers in order. -/
structure Request where
  method : HttpMethod
  reference : String
  headers : List (String × String)
  deriving DecidableEq, Repr

def schemes : List (List Char) := ["http".toList, "https".toList]

def withoutScheme (cs : List Char) : List Char :=
  match Text.cutFirst ':' cs with
  | (name, some r) => if schemes.contains (Text.asciiLower name) then r else cs
  | _ => cs

def withoutAuthority : List Char → List Char
  | '/' :: '/' :: r => r.dropWhile (· != '/')
  | cs => cs

/-- The steps of a path that are left when `.` stays and `..` leads back; the empty step in front is never taken
back. `taken` holds the steps so far, last first. -/
def resolveSteps (taken : List (List Char)) : List (List Char) → List (List Char)
  | [] => taken.reverse
  | ['.'] :: r => resolveSteps taken r
  | ['.', '.'] :: r => resolveSteps (if taken = [[]] then taken else taken.drop 1) r
  | step :: r => resolveSteps (step :: taken) r

namespace Request

def parts (r : Request) : List Char × List Char :=
  let (reference, _) := Text.cutFirst '#' r.reference.toList
  let (path, query) := Text.cutFirst '?' reference
  (withoutAuthority (withoutScheme path), query.getD [])

def path (r : Request) : List Char :=
  let rooted := '/' :: r.parts.1.dropWhile (· == '/')
  let steps := resolveSteps [] (Text.splitAll '/' rooted)
  Query.unescapeRuns [] (Query.unescapeRuns [] (List.intercalate ['/'] steps))

def parameter? (r : Request) (name : String) : Option String := Query.last? name r.parts.2

def header? (r : Request) (name : String) : Option String :=
  (r.headers.find? fun (n, _) => Text.asciiLower n.toList == Text.asciiLower name.toList).map Prod.snd

def redirected (r : Request) (path : List Char) : Request :=
  let query := r.parts.2
  { r with reference := String.ofList (path ++ if query.isEmpty then [] else '?' :: query) }

end Request

/-- How requests show their path to a guard: as some text, or not at all where it cannot be told. -/
abbrev PathView := Request → Option (List Char)

end CertInventory.Service
