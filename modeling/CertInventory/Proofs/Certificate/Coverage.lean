import CertInventory.Proofs.Chain.Decoding
import CertInventory.Proofs.Sample
import CertInventory.Proofs.Text.Blank
import CertInventory.Proofs.Text.Cut

/-!
Which host names a certificate covers, without labels: a DNS name covers the name that it is, and one that begins with
an asterisk and a full stop covers what has one label in the asterisk's place (`labelsMatch_iff`). Both sides are
compared in the form `CanonicalForm`, the host name also without a pair of brackets around it (`ComparedAs`), and
nothing else of a host name counts (`covers_by_compared_name`).
-/

namespace CertInventory

namespace Hostname

open Text

/-- A text and the form it is compared in: the blanks around it and the full stops behind it are gone, and it is
written in small letters. -/
def CanonicalForm (text name : List Char) : Prop :=
  ∃ before core stops behind, text = before ++ (core ++ stops ++ behind) ∧ (∀ c ∈ before, isBlank c = true) ∧
    (∀ c ∈ behind, isBlank c = true) ∧ IsTrimmed (core ++ stops) ∧ (∀ c ∈ stops, c = '.') ∧
    core.getLast? ≠ some '.' ∧ name = lower core

/-- A host name and the name it is compared as: its canonical form, or what stands in it between brackets. -/
def ComparedAs (text host : List Char) : Prop :=
  ∃ name, CanonicalForm text name ∧
    (name = '[' :: (host ++ [']']) ∨ name = host ∧ ∀ inner, name ≠ '[' :: (inner ++ [']']))

/-- A pattern fits the name that it is, and with an asterisk as its first label every name with one label in its
place. -/
def Fits (pattern host : List Char) : Prop :=
  pattern = host ∨
    ∃ label domain, '.' ∉ label ∧ pattern = '*' :: '.' :: domain ∧ host = label ++ '.' :: domain

theorem canonical_eq_iff {text name : List Char} : canonical text = name ↔ CanonicalForm text name := by
  constructor
  · rintro rfl
    obtain ⟨before, behind, htext, hbefore, hbehind, htrimmed⟩ := trim_eq_iff.mp (Eq.refl (trim text))
    obtain ⟨stops, hsplit, hstops, hlast⟩ := dropEndWhile_eq_iff.mp (Eq.refl (dropEndWhile (· == '.') (trim text)))
    rw [hsplit] at htext htrimmed
    refine ⟨before, _, stops, behind, htext, hbefore, hbehind, htrimmed, ?_, ?_, rfl⟩
    · exact fun c hc => beq_iff_eq.mp (hstops c hc)
    · exact fun hstop => absurd (hlast '.' hstop) (by decide)
  · rintro ⟨before, core, stops, behind, htext, hbefore, hbehind, htrimmed, hstops, hlast, rfl⟩
    have hcore : dropEndWhile (· == '.') (core ++ stops) = core :=
      dropEndWhile_eq_iff.mpr ⟨stops, rfl, fun c hc => beq_iff_eq.mpr (hstops c hc),
        fun c hc => beq_eq_false_iff_ne.mpr fun heq => hlast (heq ▸ hc)⟩
    rw [canonical, trim_eq_iff.mpr ⟨before, behind, htext, hbefore, hbehind, htrimmed⟩, hcore]

theorem unbracketed_bracketed (inner : List Char) : unbracketed ('[' :: (inner ++ [']'])) = inner := by
  simp [unbracketed]

theorem unbracketed_of_ne {name : List Char} (h : ∀ inner, name ≠ '[' :: (inner ++ [']'])) :
    unbracketed name = name := by
  unfold unbracketed
  split
  next r =>
    split
    next inner hr =>
      have hr : r = inner.reverse ++ [']'] := by rw [← List.reverse_cons, ← hr, List.reverse_reverse]
      exact absurd (congrArg ('[' :: ·) hr) (h inner.reverse)
    next => rfl
  next => rfl

theorem unbracketed_eq_iff {name host : List Char} : unbracketed name = host ↔
    name = '[' :: (host ++ [']']) ∨ name = host ∧ ∀ inner, name ≠ '[' :: (inner ++ [']']) := by
  constructor
  · rintro rfl
    by_cases h : ∃ inner, name = '[' :: (inner ++ [']'])
    · obtain ⟨inner, rfl⟩ := h
      exact .inl (by rw [unbracketed_bracketed])
    · have hne : ∀ inner, name ≠ '[' :: (inner ++ [']']) := not_exists.mp h
      exact .inr ⟨(unbracketed_of_ne hne).symm, hne⟩
  · rintro (rfl | ⟨rfl, hne⟩)
    · exact unbracketed_bracketed host
    · exact unbracketed_of_ne hne

theorem comparedAs_iff {text host : List Char} : ComparedAs text host ↔ unbracketed (canonical text) = host := by
  rw [unbracketed_eq_iff]
  constructor
  · rintro ⟨name, hname, h⟩
    rwa [canonical_eq_iff.mpr hname]
  · exact fun h => ⟨_, canonical_eq_iff.mp rfl, h⟩

theorem labelsMatch_cons_iff {p h : List Char} {ps hs : List (List Char)} :
    labelsMatch (p :: ps) (h :: hs) = true ↔ p :: ps = h :: hs ∨ p = ['*'] ∧ ps ≠ [] ∧ ps = hs := by
  cases ps with
  | nil => simp [labelsMatch]
  | cons q ps => simp [labelsMatch, or_comm]

/-- Matching names label by label is fitting them. -/
theorem labelsMatch_iff {pattern host : List Char} :
    labelsMatch (splitAll '.' pattern) (splitAll '.' host) = true ↔ Fits pattern host := by
  obtain ⟨h, hs, hhost⟩ := List.exists_cons_of_ne_nil (splitAll_ne_nil '.' host)
  obtain ⟨p, ps, hpattern⟩ := List.exists_cons_of_ne_nil (splitAll_ne_nil '.' pattern)
  rw [hhost, hpattern, labelsMatch_cons_iff, ← hhost, ← hpattern, splitAll_inj]
  refine or_congr_right ⟨?_, ?_⟩
  · rintro ⟨rfl, hmore, rfl⟩
    obtain ⟨_, hone | ⟨domain, rfl, rfl⟩⟩ := splitAll_eq_cons_iff.mp hpattern
    · exact absurd hone.2 hmore
    obtain ⟨hlabel, hone | ⟨domain', rfl, hsame⟩⟩ := splitAll_eq_cons_iff.mp hhost
    · exact absurd hone.2 hmore
    obtain rfl := splitAll_inj.mp hsame
    exact ⟨h, domain, hlabel, rfl, rfl⟩
  · rintro ⟨label, domain, hlabel, rfl, rfl⟩
    have hstar : splitAll '.' (['*'] ++ '.' :: domain) = ['*'] :: splitAll '.' domain :=
      splitAll_append_cons (by decide) domain
    obtain ⟨rfl, rfl⟩ := List.cons.inj (hpattern.symm.trans hstar)
    obtain ⟨rfl, rfl⟩ := List.cons.inj (hhost.symm.trans (splitAll_append_cons hlabel domain))
    exact ⟨rfl, splitAll_ne_nil '.' domain, rfl⟩

theorem matchesPattern_iff {pattern host : List Char} :
    matchesPattern pattern host = true ↔ ∃ name, CanonicalForm pattern name ∧ name ≠ [] ∧ Fits name host := by
  simp only [← canonical_eq_iff, exists_eq_left', matchesPattern, Bool.and_eq_true, labelsMatch_iff]
  simp

/-- What fits a name has as many labels as the name. -/
theorem Fits.count_eq {pattern host : List Char} (h : Fits pattern host) : pattern.count '.' = host.count '.' := by
  rcases h with rfl | ⟨label, domain, hlabel, rfl, rfl⟩
  · rfl
  · rw [List.count_append, List.count_eq_zero.mpr hlabel, Nat.zero_add]
    rfl

end Hostname

namespace Certificate

open Hostname

variable {c : Certificate} {e : Extensions}

theorem exists_addresses (he : c.extensions = .ok e) :
    ∃ as, c.addresses = .ok as ∧ ∀ a, a ∈ as ↔ .ip a ∈ e.alternativeNames := by
  refine ⟨_, by rw [addresses, he]; rfl, fun a => ?_⟩
  rw [List.mem_filterMap]
  constructor
  · rintro ⟨name, hname, ha⟩
    split at ha
    · cases ha
      exact hname
    · cases ha
  · exact fun ha => ⟨.ip a, ha, rfl⟩

theorem exists_dnsNames (he : c.extensions = .ok e) :
    ∃ names, c.dnsNames = .ok names ∧ ∀ p, p ∈ names ↔ .dns p ∈ e.alternativeNames := by
  refine ⟨_, by rw [dnsNames, he]; rfl, fun p => ?_⟩
  rw [List.mem_filterMap]
  constructor
  · rintro ⟨name, hname, hp⟩
    split at hp
    · cases hp
      exact hname
    · cases hp
  · exact fun hp => ⟨.dns p, hp, rfl⟩

section Covers

variable {hostname : String} {host : List Char} (hhost : ComparedAs hostname.toList host)
include hhost

theorem covers_of_nil (hempty : host = []) : c.covers hostname = .ok false := by
  rw [covers, comparedAs_iff.mp hhost, hempty]
  rfl

theorem exists_covers_address (he : c.extensions = .ok e) {a : Address} (ha : Address.read? host = some a) :
    ∃ answer, c.covers hostname = .ok answer ∧ (answer = true ↔ .ip a ∈ e.alternativeNames) := by
  have hnone : Address.read? [] = none := by decide
  have hne : host ≠ [] := by
    rintro rfl
    cases hnone.symm.trans ha
  obtain ⟨as, has, hmem⟩ := exists_addresses he
  refine ⟨as.contains a, ?_, by rw [List.contains_iff_mem, hmem]⟩
  simp only [covers, comparedAs_iff.mp hhost, List.isEmpty_iff, hne, if_false, ha, has, Except.map]

theorem exists_covers_name (he : c.extensions = .ok e) (hne : host ≠ []) (ha : Address.read? host = none) :
    ∃ answer, c.covers hostname = .ok answer ∧
      (answer = true ↔ ∃ p name, .dns p ∈ e.alternativeNames ∧ CanonicalForm p.toList name ∧ name ≠ [] ∧
        Fits name host) := by
  obtain ⟨names, hnames, hmem⟩ := exists_dnsNames he
  refine ⟨names.any fun n => matchesPattern n.toList host, ?_, ?_⟩
  · simp only [covers, comparedAs_iff.mp hhost, List.isEmpty_iff, hne, if_false, ha, hnames, Except.map]
  · simp only [List.any_eq_true, matchesPattern_iff, hmem, exists_and_left]

theorem covers_congr {hostname' : String} (hhost' : ComparedAs hostname'.toList host) :
    c.covers hostname' = c.covers hostname := by
  simp only [covers, comparedAs_iff.mp hhost, comparedAs_iff.mp hhost']

end Covers

/-- What a certificate with readable extensions covers, by the one name `host` that a host name is compared as: nothing
if that is empty, an address by an equal address alone, and any other name by a DNS name that fits it. All host names
compared as `host` are covered alike; a DNS name fits names with as many labels as its own, and one that does not begin
with an asterisk and a full stop fits itself alone. -/
theorem covers_by_compared_name (he : c.extensions = .ok e) (hostname : String) :
    ∃ host answer, (∀ other, ComparedAs hostname.toList other ↔ other = host) ∧ c.covers hostname = .ok answer ∧
      (host = [] → answer = false) ∧
      (∀ a, Address.read? host = some a → (answer = true ↔ .ip a ∈ e.alternativeNames)) ∧
      (host ≠ [] → Address.read? host = none →
        (answer = true ↔ ∃ p name, .dns p ∈ e.alternativeNames ∧ CanonicalForm p.toList name ∧ name ≠ [] ∧
          Fits name host)) ∧
      (∀ hostname' : String, ComparedAs hostname'.toList host → c.covers hostname' = .ok answer) ∧
      ∀ name, Fits name host → name.count '.' = host.count '.' ∧
        ((∀ domain, name ≠ '*' :: '.' :: domain) → name = host) := by
  have hhost : ComparedAs hostname.toList (unbracketed (canonical hostname.toList)) := comparedAs_iff.mpr rfl
  obtain ⟨answer, hanswer⟩ := exists_covers he hostname
  refine ⟨unbracketed (canonical hostname.toList), answer, ?_, hanswer, ?_, ?_, ?_, ?_, ?_⟩
  · exact fun other => comparedAs_iff.trans eq_comm
  · exact fun hempty => Except.ok.inj (hanswer.symm.trans (covers_of_nil hhost hempty))
  · intro a ha
    obtain ⟨_, hcovers, hiff⟩ := exists_covers_address hhost he ha
    rwa [Except.ok.inj (hanswer.symm.trans hcovers)]
  · intro hne ha
    obtain ⟨_, hcovers, hiff⟩ := exists_covers_name hhost he hne ha
    rwa [Except.ok.inj (hanswer.symm.trans hcovers)]
  · exact fun hostname' h' => (covers_congr hhost h').trans hanswer
  · intro name hfits
    refine ⟨hfits.count_eq, fun hplain => hfits.resolve_right ?_⟩
    rintro ⟨_, domain, _, hstar, _⟩
    exact hplain domain hstar

/-- A certificate with an address and two DNS names, one of them a lone asterisk. -/
def sampleNamed : Certificate :=
  { sampleCertificate "leaf" "root" false (sampleTime 0) (sampleTime 9) with
    extensions := .ok ⟨false, none, none, [.ip (.v4 1), .dns "*", .dns " *.Example.com."], [], []⟩ }

theorem covers_by_compared_name_sample :
    ∃ e, sampleNamed.extensions = .ok e ∧ sampleNamed.covers " [API.Example.COM]. " = .ok true ∧
      sampleNamed.covers "api.example.com" = .ok true := by
  obtain ⟨host, answer, hhost, hcovers, _, _, hname, hsame, _⟩ :=
    covers_by_compared_name (c := sampleNamed) rfl " [API.Example.COM]. "
  obtain rfl := (hhost "api.example.com".toList).mp (comparedAs_iff.mpr (by decide +kernel))
  have hcanonical : CanonicalForm " *.Example.com.".toList "*.example.com".toList :=
    canonical_eq_iff.mp (by decide +kernel)
  have hfits : Fits "*.example.com".toList "api.example.com".toList :=
    .inr ⟨['a', 'p', 'i'], "example.com".toList, by decide, by decide +kernel, by decide +kernel⟩
  obtain rfl := (hname (by decide +kernel) (by decide +kernel)).mpr
    ⟨_, _, List.mem_of_getLast? rfl, hcanonical, by decide +kernel, hfits⟩
  exact ⟨_, rfl, hcovers, hsame "api.example.com" (comparedAs_iff.mpr (by decide +kernel))⟩

end Certificate

end CertInventory
