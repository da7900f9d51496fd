import CertInventory.Finding.Written
import CertInventory.Proofs.Time.Written

/-!
Findings written and read back. A finding is written as a list of slots, each a name with the value that stands under
it, if the field is written at all. Reading a slot gives the field's value again, because a field that is left out has
the default that reading puts in its place (`readSlot_unlessDefault`), and nothing is ever written under the plain
spelling of a name that has another one.
-/

namespace CertInventory

namespace Datum

/-- A field's name, and the value under it if the field is written. -/
abbrev Slot := String × Option Datum

def slotFields (slot : Slot) : List (String × Datum) := (slot.2.map fun v => (slot.1, v)).toList

theorem names_slotFields_sublist (slots : List Slot) :
    ((slots.flatMap slotFields).map Prod.fst).Sublist (slots.map Prod.fst) := by
  induction slots with
  | nil => exact .slnil
  | cons slot rest ih =>
    obtain ⟨name, v?⟩ := slot
    cases v? with
    | none => exact ih.cons name
    | some d => exact ih.cons_cons name

def slotEntries (slots : List Slot) : List (Scalar × Datum) :=
  slots.flatMap fun slot => (slot.2.map fun v => (Scalar.text slot.1, v)).toList

theorem field?_slotEntries_nil (name : String) : field? (slotEntries []) name = none := rfl

theorem field?_slotEntries_cons (slot : Slot) (rest : List Slot) (name : String) :
    field? (slotEntries (slot :: rest)) name =
      if slot.1 = name then slot.2.or (field? (slotEntries rest) name) else field? (slotEntries rest) name := by
  obtain ⟨own, v?⟩ := slot
  cases v? with
  | none => simp [slotEntries]
  | some v =>
    simp only [slotEntries, List.flatMap_cons, Option.map_some, Option.toList_some, List.singleton_append, field?,
      Option.some_or]

def unlessDefault (isDefault : Prop) [Decidable isDefault] (v : Datum) : Option Datum :=
  if isDefault then none else some v

/-- Reads the value in a slot, or takes the default where the slot is empty. -/
def readSlot {α : Type} (name : String) (default : α) (read : Datum → Checked α) : Option Datum → Checked α
  | none => .good default
  | some v => (read v).under (.field name)

theorem readSlot_some {α : Type} (name : String) (default : α) (read : Datum → Checked α) (v : Datum) :
    readSlot name default read (some v) = (read v).under (.field name) := rfl

theorem readSlot_unlessDefault {α : Type} (name : String) {isDefault : Prop} [Decidable isDefault] {default v : α}
    {read : Datum → Checked α} {d : Datum} (hdefault : isDefault → v = default) (hread : read d = .good v) :
    readSlot name default read (unlessDefault isDefault d) = .good v := by
  unfold unlessDefault
  split
  · rename_i h
    rw [hdefault h, readSlot]
  · rw [readSlot_some, hread, Checked.under]

/-- Reading a field reads the slot of its first spelling, if nothing stands under the other one. -/
theorem fieldOr_eq_readSlot {α : Type} {entries : List (Scalar × Datum)} {name other : String} (default : α)
    (read : Datum → Checked α) (hother : other = name ∨ field? entries other = none) :
    fieldOr entries name other default read = readSlot name default read (field? entries name) := by
  cases hslot : field? entries name with
  | none =>
    have hnone : field? entries other = none := by
      rcases hother with rfl | hother
      · exact hslot
      · exact hother
    simp only [fieldOr, spelled?, hslot, hnone, Option.map_none, readSlot]
  | some v => simp only [fieldOr, spelled?, hslot, readSlot]

end Datum

namespace Finding

open Datum

/-- What stands in the slot of a text, of texts, of a number, of a truth value and of a time. -/
def textSlot (v : String) : Option Datum := unlessDefault v.isEmpty (.text v)

def textsSlot (v : List String) : Option Datum := unlessDefault v.isEmpty (.texts v)

def intSlot (v : Int) : Option Datum := unlessDefault (v = 0) (.int v)

def truthSlot (v : Bool) : Option Datum := unlessDefault (v = false) (.bool true)

def timeSlot (v : Option Time.Instant) : Option Datum := v.map fun t => .text t.text

def slots (f : Finding) : List Slot :=
  [("source", some (.text f.source)), ("namespace", textSlot f.namespaceName), ("name", textSlot f.name),
    ("target", textSlot f.target), ("sni", textSlot f.serverName), ("notAfter", timeSlot f.notAfter),
    ("subject", textSlot f.subject), ("issuer", textSlot f.issuer), ("serial", textSlot f.serial),
    ("dnsNames", textsSlot f.dnsNames), ("issuerChain", textsSlot f.issuerChain),
    ("keyAlgorithm", textSlot f.keyAlgorithm), ("keySize", intSlot f.keySize),
    ("signatureAlgorithm", textSlot f.signatureAlgorithm), ("selfSigned", truthSlot f.selfSigned),
    ("chainLen", intSlot f.chainLength), ("probeOk", some (.bool f.probeOk)), ("probeError", textSlot f.probeError),
    ("tlsVersion", textSlot f.tlsVersion), ("cipherSuite", textSlot f.cipherSuite),
    ("retryCount", intSlot f.retryCount), ("chainErrors", textsSlot f.chainErrors),
    ("postureIssues", textsSlot f.postureIssues), ("revocationIssues", textsSlot f.revocationIssues),
    ("severity", some (.text f.severity.label)), ("findingType", textSlot f.findingType),
    ("notes", textSlot f.notes), ("remediation", textSlot f.remediation), ("cluster", textSlot f.cluster)]

theorem fields_eq (f : Finding) : f.fields = f.slots.flatMap slotFields := by
  have hunless (name : String) (isDefault : Prop) [Decidable isDefault] (d : Datum) :
      (if isDefault then [] else [(name, d)]) = slotFields (name, unlessDefault isDefault d) := by
    unfold unlessDefault
    split <;> rfl
  have htext (name v : String) : writtenText name v = slotFields (name, textSlot v) := hunless name _ _
  have htexts (name : String) (v : List String) : writtenTexts name v = slotFields (name, textsSlot v) :=
    hunless name _ _
  have hint (name : String) (v : Int) : writtenInt name v = slotFields (name, intSlot v) := hunless name _ _
  have htruth (name : String) (v : Bool) : writtenTruth name v = slotFields (name, truthSlot v) := by cases v <;> rfl
  have htime (name : String) (v : Option Time.Instant) : writtenTime name v = slotFields (name, timeSlot v) := by
    cases v <;> rfl
  unfold fields
  simp only [slots, List.flatMap_cons, List.flatMap_nil, htext, htexts, hint, htruth, htime, List.append_assoc,
    List.append_nil]
  rfl

theorem toDatum_eq (f : Finding) : f.toDatum = .map (slotEntries f.slots) := by
  unfold toDatum object slotEntries
  rw [fields_eq, List.map_flatMap]
  congr 2
  funext slot
  obtain ⟨name, v?⟩ := slot
  cases v? <;> rfl

theorem readSlot_textSlot (name v : String) : readSlot name "" toText (textSlot v) = .good v :=
  readSlot_unlessDefault name String.isEmpty_iff.mp rfl

theorem readItems_texts (v : List String) (start : Nat) : readItems toText start (v.map .text) = .good v := by
  induction v generalizing start with
  | nil => rfl
  | cons s rest ih =>
    rw [List.map_cons, readItems, ih]
    rfl

theorem readSlot_textsSlot (name : String) (v : List String) : readSlot name [] readTexts (textsSlot v) = .good v :=
  readSlot_unlessDefault name List.isEmpty_iff.mp (readItems_texts v 0)

theorem readSlot_intSlot (name : String) (v : Int) : readSlot name 0 toInteger (intSlot v) = .good v :=
  readSlot_unlessDefault name id rfl

theorem readSlot_truthSlot (name : String) (v : Bool) : readSlot name false toTruth (truthSlot v) = .good v := by
  cases v <;> rfl

theorem readSlot_timeSlot (name : String) (v : Option Time.Instant) :
    readSlot name none toOptionalTime (timeSlot v) = .good v := by
  cases v with
  | none => rfl
  | some t =>
    have hread : toOptionalTime (.text t.text) = .good (some t) := by
      rw [toOptionalTime, toTime_text]
      · rfl
      · simp
    rw [timeSlot, Option.map_some, readSlot, hread, Checked.under]

theorem readSeverity_label (severity : Severity) : readSeverity (.text severity.label) = .good severity := by
  cases severity <;> rfl

/-- A finding read back is the finding without what it carries for the revocation checks. -/
theorem ofDatum_toDatum (f : Finding) : ofDatum f.toDatum = .good f.withoutTransients := by
  have hslots : toRecord ofEntries f.toDatum = ofEntries (slotEntries f.slots) := by
    rw [toDatum_eq]
    rfl
  rw [ofDatum, hslots]
  -- Each field reads the slot of its name: no slot has the field's other spelling, or it is the same.
  simp only [ofEntries, requiredField, spelled?, fieldOr_eq_readSlot, slots, field?_slotEntries_cons,
    field?_slotEntries_nil, String.reduceEq, if_true, if_false, Option.or_none, Option.some_or, true_or, or_true]
  simp only [readSlot_textSlot, readSlot_textsSlot, readSlot_intSlot, readSlot_truthSlot, readSlot_timeSlot,
    readSlot_some, readSeverity_label]
  rfl

end Finding

end CertInventory
