import CertInventory.Datum.Shown
import CertInventory.Text.Numeral

/-!
Whole numbers out of values of any kind: truth values count as zero and one, a double loses its fraction, and text
is read as a numeral.
-/

namespace CertInventory

inductive WholeError where
  | notANumber
  | infinite
  | unreadable (shown : String)
  | tooLong (digits : Nat)
  | otherKind
  deriving DecidableEq, Repr

def WholeError.message? : WholeError → Option String
  | .notANumber => some "cannot convert float NaN to integer"
  | .unreadable shown => some (Text.noIntegerMessage 10 shown)
  | .tooLong digits => some (Text.tooLongMessage digits)
  | .infinite | .otherKind => none

def Datum.whole (d : Datum) : Except WholeError Int :=
  match d with
  | .int n => .ok n
  | .bool b => .ok (if b then 1 else 0)
  | .real x =>
    match Decimal.Dyadic.ofFloat? x with
    | some d => .ok d.truncate
    | none => .error (if x.isNaN then .notANumber else .infinite)
  | .text s =>
    match Text.integerIn 10 s.toList with
    | .ok n => .ok n
    | .error (.tooLong digits) => .error (.tooLong digits)
    | .error .malformed => .error (.unreadable d.shown)
  | .scalar (.wide _) => .error (.unreadable d.shown)
  | _ => .error .otherKind

end CertInventory
