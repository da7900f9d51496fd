import CertInventory.Text.Case
import CertInventory.Text.Cut

/-!
What a handshake's protocol version and cipher suite say about a server: versions before TLS 1.2 are weak, broken
ciphers are named with the reason, and a cipher in CBC mode is told apart from a broken one.
-/

namespace CertInventory.Posture

def versionNames : List (String × String) :=
  [("SSLv2", "SSL 2.0"), ("SSLv3", "SSL 3.0"), ("TLSv1", "TLS 1.0"), ("TLSv1.1", "TLS 1.1"), ("TLSv1.2", "TLS 1.2"),
    ("TLSv1.3", "TLS 1.3")]

/-- The display name of a protocol version; any other text stands for itself. -/
def versionName (raw : String) : String := (versionNames.lookup raw).getD raw

def weakVersions : List String := ["SSL 2.0", "SSL 3.0", "TLS 1.0", "TLS 1.1"]

inductive Weakness where
  | rc4
  | tripleDes
  | noEncryption
  | insecure
  deriving DecidableEq, Repr

def Weakness.text : Weakness → String
  | .rc4 => "RC4"
  | .tripleDes => "3DES"
  | .noEncryption => "NULL"
  | .insecure => "insecure"

def mentions (name : List Char) (parts : List String) : Bool :=
  parts.any fun p => Text.contains p.toList name

def startsWith (name : List Char) (heads : List String) : Bool :=
  heads.any fun h => h.toList.isPrefixOf name

def endsWith (name : List Char) (tails : List String) : Bool :=
  tails.any fun t => t.toList.isSuffixOf name

/-- The weakness of a cipher with this name in capitals; the first rule that applies decides. -/
def weakness? (name : List Char) : Option Weakness :=
  if mentions name ["RC4"] then some .rc4
  else if mentions name ["3DES", "DES-CBC3", "DES_EDE3"] then some .tripleDes
  else if mentions name ["NULL"] then some .noEncryption
  else if mentions name ["EXPORT", "MD5", "_ANON_", "_DES_", "-DES-"] ||
      startsWith name ["EXP-", "ADH-", "AECDH-", "DES-"] then some .insecure
  else none

/-- Whether a cipher with this name in capitals works in CBC mode. A name that starts with `TLS_` says so; of the
others those with an authenticated mode do not, and those that end in a bare digest do. -/
def isCbc (name : List Char) : Bool :=
  if mentions name ["CBC"] then true
  else if startsWith name ["TLS_"] then false
  else if mentions name ["GCM", "CHACHA20", "CCM"] then false
  else endsWith name ["-SHA", "-SHA256", "-SHA384"]

inductive Issue where
  | weakVersion (version : String)
  | weakCipher (cipher : String) (reason : Weakness)
  | cbcCipher (cipher : String)
  deriving DecidableEq, Repr

def Issue.message : Issue → String
  | .weakVersion v => "weak TLS version: " ++ v
  | .weakCipher c r => "weak cipher: " ++ c ++ " (" ++ r.text ++ ")"
  | .cbcCipher c => "CBC-mode cipher: " ++ c

def versionIssues (version : String) : List Issue :=
  let name := versionName version
  if name ∈ weakVersions then [.weakVersion name] else []

def cipherIssues (cipher : String) : List Issue :=
  let name := Text.upper cipher.toList
  match weakness? name with
  | some reason => [.weakCipher cipher reason]
  | none => if isCbc name then [.cbcCipher cipher] else []

def issues (version cipher : String) : List Issue := versionIssues version ++ cipherIssues cipher

end CertInventory.Posture
