import CertInventory.Text.Blank
import CertInventory.Text.Digit
import CertInventory.Time.Duration

/-!
Configurations: what to look at, and when to warn. A configuration is sound when its warning periods are positive
and in order, it does not refresh too often, and no address or URL in it is empty.
-/

namespace CertInventory

open Time

/-- A file with certificates, the host name they should cover, and a name to show. -/
structure FileBundle where
  path : String
  hostname : String
  name : String
  deriving DecidableEq, Repr

structure Config where
  listenAddress : String
  clusterName : String
  refreshEvery : Duration
  warnBefore : Duration
  critBefore : Duration
  checkRevocation : Bool
  external : List String
  files : List FileBundle
  deriving DecidableEq, Repr

namespace Config

def defaults : Config where
  listenAddress := ":8080"
  clusterName := ""
  refreshEvery := .ofSeconds 120
  warnBefore := .ofSeconds (720 * 3600)
  critBefore := .ofSeconds (336 * 3600)
  checkRevocation := false
  external := []
  files := []

def minRefresh : Duration := .ofSeconds 30

def isBlank (s : String) : Bool := (Text.trim s.toList).isEmpty

inductive Flaw where
  | warnNotPositive (d : Duration)
  | critNotPositive (d : Duration)
  | critNotBelowWarn (crit warn : Duration)
  | refreshTooShort (d : Duration)
  | noListenAddress
  | blankUrl (position : Nat)
  deriving DecidableEq, Repr

def Flaw.message : Flaw → String
  | .warnNotPositive d => "warnBefore must be positive, got " ++ d.text
  | .critNotPositive d => "critBefore must be positive, got " ++ d.text
  | .critNotBelowWarn crit warn => "critBefore (" ++ crit.text ++ ") must be less than warnBefore (" ++ warn.text ++ ")"
  | .refreshTooShort d => "refreshEvery must be at least 30s, got " ++ d.text
  | .noListenAddress => "listenAddr must not be empty"
  | .blankUrl position => "external[" ++ Text.showNat position ++ "].url must not be empty"

def flaw? (c : Config) : Option Flaw :=
  if c.warnBefore.micros ≤ 0 then some (.warnNotPositive c.warnBefore)
  else if c.critBefore.micros ≤ 0 then some (.critNotPositive c.critBefore)
  else if c.warnBefore.micros ≤ c.critBefore.micros then some (.critNotBelowWarn c.critBefore c.warnBefore)
  else if c.refreshEvery.micros < minRefresh.micros then some (.refreshTooShort c.refreshEvery)
  else if c.listenAddress.isEmpty then some .noListenAddress
  else (c.external.findIdx? isBlank).map .blankUrl

structure IsSound (c : Config) : Prop where
  crit_pos : 0 < c.critBefore.micros
  crit_lt_warn : c.critBefore.micros < c.warnBefore.micros
  refresh_ge : minRefresh.micros ≤ c.refreshEvery.micros
  listen_ne : c.listenAddress ≠ ""
  urls : ∀ url ∈ c.external, isBlank url = false

end Config

end CertInventory
