import CertInventory.Certificate.Basic
import CertInventory.Target.Url

/-!
Failures that reach the program from outside: from dialling, handshakes, HTTP, files and sources. A failure has a
kind and perhaps a message and an error number; which of them are passed on as results and which break a task off
depends on the kind alone.
-/

namespace CertInventory

/-- The name that a kind of failure goes by; it is never empty. -/
structure FailureLabel where
  text : String
  nonempty : text ≠ "" := by decide
  deriving DecidableEq, Repr

/-- The kind of a failure: what it is a failure of, and the name it goes by. The few kinds with a rule of their own
for their text stand apart. -/
inductive FailureKind where
  | url
  | ssl (label : FailureLabel)
  | system (label : FailureLabel)
  | remoteDisconnected
  | badStatusLine
  | exchange (label : FailureLabel)
  | value (label : FailureLabel)
  | key
  | reading (label : FailureLabel)
  | other (label : FailureLabel)
  deriving DecidableEq, Repr

namespace FailureKind

def os : FailureKind := .system { text := "OSError" }

def connectionRefused : FailureKind := .system { text := "ConnectionRefusedError" }

def fileNotFound : FailureKind := .system { text := "FileNotFoundError" }

def timeout : FailureKind := .system { text := "TimeoutError" }

def runtime : FailureKind := .other { text := "RuntimeError" }

def invalidValue : FailureKind := .value { text := "ValueError" }

def label : FailureKind → String
  | .url => "URLError"
  | .ssl label => label.text
  | .system label => label.text
  | .remoteDisconnected => "RemoteDisconnected"
  | .badStatusLine => "BadStatusLine"
  | .exchange label => label.text
  | .value label => label.text
  | .key => "KeyError"
  | .reading label => label.text
  | .other label => label.text

theorem label_ne_empty (k : FailureKind) : k.label ≠ "" := by
  cases k with
  | url | remoteDisconnected | badStatusLine | key => decide
  | ssl l | system l | exchange l | value l | reading l | other l => exact l.nonempty

/-- Failures of connections, files, processes, time limits and the lookup of names. -/
def systemLabels : List String :=
  ["OSError", "BlockingIOError", "ChildProcessError", "ConnectionError", "BrokenPipeError", "ConnectionAbortedError",
    "ConnectionRefusedError", "ConnectionResetError", "FileExistsError", "FileNotFoundError", "InterruptedError",
    "IsADirectoryError", "NotADirectoryError", "PermissionError", "ProcessLookupError", "TimeoutError", "gaierror",
    "herror"]

def sslLabels : List String :=
  ["SSLError", "SSLZeroReturnError", "SSLWantReadError", "SSLWantWriteError", "SSLSyscallError", "SSLEOFError",
    "SSLCertVerificationError"]

def exchangeLabels : List String :=
  ["HTTPException", "NotConnected", "InvalidURL", "ImproperConnectionState", "CannotSendRequest",
    "CannotSendHeader", "ResponseNotReady"]

def valueLabels : List String := ["ValueError", "UnicodeError"]

def readingLabels : List String := ["DuplicateExtension", "UnsupportedAlgorithm"]

def aliases : List (String × String) := [("IOError", "OSError"), ("EnvironmentError", "OSError")]

/-- The kind with a name; a name that is in none of the lists is a kind of its own, and no name is that of the most
general kind. -/
def ofLabel (name : String) : FailureKind :=
  let name := (aliases.lookup name).getD name
  if h : name = "" then .other { text := "Exception" }
  else if name = "URLError" then .url
  else if name = "RemoteDisconnected" then .remoteDisconnected
  else if name = "BadStatusLine" then .badStatusLine
  else if name = "KeyError" then .key
  else if name ∈ systemLabels then .system ⟨name, h⟩
  else if name ∈ sslLabels then .ssl ⟨name, h⟩
  else if name ∈ exchangeLabels then .exchange ⟨name, h⟩
  else if name ∈ valueLabels then .value ⟨name, h⟩
  else if name ∈ readingLabels then .reading ⟨name, h⟩
  else .other ⟨name, h⟩

def ofNumber (n : Int) : FailureKind :=
  if n = 1 ∨ n = 13 then .system { text := "PermissionError" }
  else if n = 2 then fileNotFound
  else if n = 3 then .system { text := "ProcessLookupError" }
  else if n = 4 then .system { text := "InterruptedError" }
  else if n = 10 then .system { text := "ChildProcessError" }
  else if n = 11 ∨ n = 114 ∨ n = 115 then .system { text := "BlockingIOError" }
  else if n = 17 then .system { text := "FileExistsError" }
  else if n = 20 then .system { text := "NotADirectoryError" }
  else if n = 21 then .system { text := "IsADirectoryError" }
  else if n = 32 ∨ n = 108 then .system { text := "BrokenPipeError" }
  else if n = 103 then .system { text := "ConnectionAbortedError" }
  else if n = 104 then .system { text := "ConnectionResetError" }
  else if n = 110 then timeout
  else if n = 111 then connectionRefused
  else os

/-- Failures of the system: of connections, files and time limits, TLS and URLs included. -/
def isSystem : FailureKind → Bool
  | .system _ | .url | .ssl _ | .remoteDisconnected => true
  | _ => false

def isValue : FailureKind → Bool
  | .value _ => true
  | _ => false

def isHttp : FailureKind → Bool
  | .exchange _ | .badStatusLine | .remoteDisconnected => true
  | _ => false

/-- Failures that end a handshake and become its result. -/
def endsHandshake (k : FailureKind) : Bool := k.isSystem || k.isValue

/-- Failures of transport, which a revocation check reports instead of breaking off. -/
def isTransport (k : FailureKind) : Bool := k.isSystem || k.isHttp || k.isValue

end FailureKind

/-- A failure: its kind, and what it says. A failure about a file names its path. -/
structure Failure where
  kind : FailureKind
  message : Option String
  number : Option Int
  path : Option String
  deriving DecidableEq, Repr

namespace Failure

def saying (kind : FailureKind) (message : String) : Failure := ⟨kind, some message, none, none⟩

/-- A failure with an error number; a plain failure of the system takes the kind that the number stands for. -/
def numbered (kind : FailureKind) (number : Int) (message : String) : Failure :=
  ⟨if kind = .os then .ofNumber number else kind, some message, some number, none⟩

def noFile (path : String) : Failure :=
  ⟨.fileNotFound, some "No such file or directory", some 2, some path⟩

def numberedText (number : Int) (message : String) (path : Option String) : String :=
  "[Errno " ++ Text.showInt number ++ "] " ++ message ++
    match path with
    | some p => ": " ++ Text.quoted p
    | none => ""

def text (f : Failure) : String :=
  match f.message with
  | none =>
    match f.kind with
    | .ssl _ => "()"
    | _ => ""
  | some m =>
    match f.kind, f.number with
    | .url, none => "<urlopen error " ++ m ++ ">"
    | .url, some n => "<urlopen error " ++ Text.showInt n ++ ">"
    | .ssl _, _ => m
    | .key, none => Text.quoted m
    | .badStatusLine, none => if m.isEmpty then Text.quoted m else m
    | .reading _, some n => Text.showInt n
    | _, none => m
    | kind, some n =>
      if kind.isSystem then numberedText n m f.path else "(" ++ Text.showInt n ++ ", " ++ Text.quoted m ++ ")"

def report (f : Failure) : String := if f.text.isEmpty then f.kind.label else f.text

theorem report_ne_empty (f : Failure) : f.report ≠ "" := by
  unfold report
  split
  · exact f.kind.label_ne_empty
  · simp_all

/-- What the system says about a failure: its message, if it has an error number. -/
def systemMessage? (f : Failure) : Option String :=
  if f.kind.isSystem && f.kind != .url && f.number.isSome then f.message else none

end Failure

/-- What can break a task off: a failure from outside, a certificate that cannot be read, a target that is no URL, a
place that cannot be asked over HTTP, or a time beyond the calendar. -/
inductive Fault where
  | outside (f : Failure)
  | decode (f : DecodeFault)
  | target (e : UrlError)
  | noScheme (url : String)
  | outOfRange
  deriving DecidableEq, Repr

namespace Fault

def text : Fault → String
  | .outside f => f.text
  | .decode f => f.message
  | .target e => e.message
  | .noScheme url => "unknown url type: " ++ Text.quoted url
  | .outOfRange => "date value out of range"

def report : Fault → String
  | .outside f => f.report
  | f => f.text

/-- A fault always says something. -/
theorem report_ne_empty (f : Fault) : f.report ≠ "" := by
  cases f with
  | outside f => exact f.report_ne_empty
  | decode f => exact f.message_ne_empty
  | target e => exact e.message_ne_empty
  | noScheme url =>
    show "unknown url type: " ++ Text.quoted url ≠ ""
    rw [ne_eq, String.append_eq_empty_iff]
    exact fun h => absurd h.1 (by decide)
  | outOfRange =>
    show "date value out of range" ≠ ""
    decide

def encoding? : Fault → Option DecodeFault
  | .decode d => if d.isEncoding then some d else none
  | _ => none

/-- Whether a revocation check takes a fault for a failure of transport. -/
def isTransport : Fault → Bool
  | .outside f => f.kind.isTransport
  | .noScheme _ => true
  | _ => false

end Fault

abbrev Files := String → Except Failure (List UInt8)

end CertInventory
