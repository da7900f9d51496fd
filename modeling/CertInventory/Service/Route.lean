import CertInventory.Service.Request

/-!
The routes of the service. A path with slashes at its end is redirected to the path without them, where that is a
route.
-/

namespace CertInventory.Service

/-- What a path asks for; `byId` carries the number as written. Pages are for people to read. -/
inductive Route where
  | page
  | health
  | latest
  | list
  | byId (id : List Char)
  | refresh
  deriving DecidableEq, Repr

namespace Route

def fixed : List (String × Route) :=
  [("/openapi.json", .page), ("/docs", .page), ("/docs/oauth2-redirect", .page), ("/redoc", .page),
    ("/health", .health), ("/api/v1/snapshot", .latest), ("/api/v1/snapshots", .list), ("/api/v1/refresh", .refresh)]

def byIdHead : List Char := "/api/v1/snapshots/".toList

def withoutLineEnd (path : List Char) : List Char := if path.getLast? = some '\n' then path.dropLast else path

def ofPath? (path : List Char) : Option Route :=
  match fixed.lookup (String.ofList (withoutLineEnd path)) with
  | some route => some route
  | none =>
    match Text.dropHead? byIdHead path with
    | some (c :: id) => if (c :: id).contains '/' then none else some (.byId (c :: id))
    | _ => none

def redirection? (path : List Char) : Option (List Char) :=
  let trimmed := Text.dropEndWhile (· == '/') path
  if path.getLast? = some '/' && (ofPath? trimmed).isSome then some trimmed else none

def method : Route → HttpMethod
  | .refresh => .post
  | _ => .get

/-- Whether a route is open to a method: to its own, and a page also to one that asks for its headers alone. -/
def accepts (route : Route) (m : HttpMethod) : Bool :=
  m == route.method || (route == .page && m == .other "HEAD")

theorem accepts_iff {route : Route} {m : HttpMethod} (h : route ≠ .page) :
    route.accepts m = true ↔ m = route.method := by
  simp [accepts, h]

end Route

end CertInventory.Service
