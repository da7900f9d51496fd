import CertInventory.Datum.Checked
import CertInventory.History.Store
import CertInventory.Service.Route

/-!
The service: it answers requests from the history and starts refreshes, one at a time. A refresh is done by a worker
that holds the lock from its start to its end, whatever becomes of it. Where a key is set, a guard opens paths under
`/api/` only to requests that carry it; it goes by the path that it is shown.
-/

namespace CertInventory.Service

/-- How far a worker is: it loads the configuration, looks at the sources, saves what it found, and lets the lock
go. -/
inductive Stage where
  | loading
  | running
  | saving (found : Snapshot)
  | releasing

/-- The service: its key, which may be empty, the history, the lock of refreshes, and the workers. -/
structure Server where
  key : String
  history : History
  locked : Bool
  workers : List Stage

/-- An answer: a document with a status, a page, a list of bad parameters, or a failure that tells nothing. -/
inductive Response where
  | reply (status : Nat) (body : Datum)
  | page
  | invalid (details : List Detail)
  | failed

namespace Response

def status : Response → Nat
  | .reply status _ => status
  | .page => 200
  | .invalid _ => 422
  | .failed => 500

def because (status : Nat) (reason : String) : Response := .reply status (.object [("detail", .text reason)])

def standing (status : Nat) (word : String) : Response := .reply status (.object [("status", .text word)])

end Response

/-- A snapshot as an answer shows it: with its summary, and with its number where that was asked for. -/
def payload (s : Snapshot) (id : Option Int) : Datum :=
  .object (s.fields ++ [("summary", (Summary.ofSnapshot s).toDatum)] ++
    match id with
    | some id => [("id", .int id)]
    | none => [])

namespace Server

def start (key : String) : Server := ⟨key, .empty, false, []⟩

def isProtected (path : List Char) : Bool := "/api/".toList.isPrefixOf path

/-- The answer of the guard to a request that it does not let pass: one that it cannot see the path of, or that asks for
a protected path without the key. Where no key is set it lets every request pass. -/
def stop? (view : PathView) (s : Server) (r : Request) : Option Response :=
  if s.key.isEmpty then none
  else
    match view r with
    | none => some .failed
    | some path =>
      if isProtected path && (r.header? "x-api-key").getD "" != s.key then
        some (.because 401 "Invalid or missing API key")
      else none

def showSnapshot (found : Except HistoryError (Option Snapshot)) (id : Option Int) (missing : String) : Response :=
  match found with
  | .error _ => .failed
  | .ok none => .because 404 missing
  | .ok (some s) => .reply 200 (payload s id)

def clampLimit (n : Int) : Int := max 1 (min 100 n)

def showList (s : Server) (limit : Int) : Response :=
  match s.history.list (clampLimit limit) with
  | .error _ => .failed
  | .ok entries =>
    if entries.all fun e => e.summary.isSendable then
      .reply 200 (.object [("snapshots", .list (entries.map HistoryEntry.toDatum))])
    else .failed

/-- A number from a request, read as text; the answer to one that cannot be read names its place. -/
def withInteger (place name text : String) (answer : Int → Response) : Response :=
  match (Datum.text text).toInteger with
  | .good n => answer n
  | .refused (.invalid details) =>
    .invalid (details.map fun d => { d with path := .field place :: .field name :: d.path })
  | .refused .outOfRange => .failed

def read (s : Server) (r : Request) : Route → Response
  | .page => .page
  | .health => .standing 200 "ok"
  | .latest => showSnapshot s.history.latest none "No snapshot yet"
  | .list =>
    match r.parameter? "limit" with
    | none => s.showList History.defaultLimit
    | some text => withInteger "query" "limit" text s.showList
  | .byId id =>
    withInteger "path" "snapshot_id" (String.ofList id) fun n =>
      showSnapshot (s.history.load n) (some n) "Snapshot not found"
  | .refresh => .because 405 "Method Not Allowed"

/-- The answer to a request for a refresh: it is refused while the lock is held, and else a worker starts. -/
def refresh (s : Server) : Response × Server :=
  if s.locked then (.because 409 "Refresh already running", s)
  else (.standing 202 "started", { s with locked := true, workers := s.workers ++ [.loading] })

def answer (s : Server) (r : Request) (route : Route) : Response × Server :=
  if !route.accepts r.method then (.because 405 "Method Not Allowed", s)
  else
    match route with
    | .refresh => s.refresh
    | route => (s.read r route, s)

/-- The answer to a request, and the service afterwards; a redirected one is left to `follow`. -/
def respondOnce (view : PathView) (s : Server) (r : Request) (follow : Request → Response × Server) :
    Response × Server :=
  match s.stop? view r with
  | some response => (response, s)
  | none =>
    match Route.ofPath? r.path with
    | some route => s.answer r route
    | none =>
      match Route.redirection? r.path with
      | none => (.because 404 "Not Found", s)
      | some path => follow (r.redirected path)

/-- The answer to a request that may be redirected so many times, and the service afterwards. -/
def respondWithin (view : PathView) (s : Server) : Nat → Request → Response × Server
  | 0, r => s.respondOnce view r fun _ => (.failed, s)
  | redirections + 1, r => s.respondOnce view r (respondWithin view s redirections)

def maxRedirections : Nat := 20

/-- The answer to a request, and the service afterwards. -/
def respond (view : PathView) (s : Server) (r : Request) : Response × Server :=
  s.respondWithin view maxRedirections r

/-- What a step of a worker comes to: each step but the last may fail. -/
inductive WorkerStep where
  | loads (ok : Bool)
  | runs (found : Option Snapshot)
  | saves (ok : Bool)
  | releases

/-- A worker's stage after a step, where the step is one that it can make. -/
def Stage.after? : Stage → WorkerStep → Option Stage
  | .loading, .loads ok => some (if ok then .running else .releasing)
  | .running, .runs (some found) => some (.saving found)
  | .running, .runs none => some .releasing
  | .saving _, .saves _ => some .releasing
  | _, _ => none

/-- The history after a worker's step: a snapshot that could be saved is there. -/
def historyAfter (h : History) : Stage → WorkerStep → History
  | .saving found, .saves true =>
    match h.save found with
    | .error _ => h
    | .ok (_, h) => h
  | _, _ => h

/-- The service after a step of the worker at a position; a step that this worker cannot make changes nothing. -/
def advance (s : Server) (position : Nat) (step : WorkerStep) : Server :=
  match s.workers[position]?, step with
  | some .releasing, .releases => { s with locked := false, workers := s.workers.eraseIdx position }
  | some stage, step =>
    match Stage.after? stage step with
    | some next =>
      { s with history := historyAfter s.history stage step, workers := s.workers.set position next }
    | none => s
  | none, _ => s

/-- The steps of a worker whose configuration loads, and whose run gives these findings, which are saved, or fails. -/
def wholeRun : Option Snapshot → List WorkerStep
  | some found => [.loads true, .runs (some found), .saves true, .releases]
  | none => [.loads true, .runs none, .releases]

/-- The service after all of these steps of the worker at a position. -/
def advanceAll (s : Server) (position : Nat) (steps : List WorkerStep) : Server :=
  steps.foldl (fun s step => s.advance position step) s

end Server

end CertInventory.Service
