import CertInventory.Proofs.Certificate.Bundle
import CertInventory.Proofs.Source.Description
import CertInventory.Source.Builtin

/-!
What the reading of files gives. A file that cannot be opened or that holds no chain of certificates gets a finding
that says why, and a file whose certificates are damaged gets one as well. Only a key of an unknown kind, where the
description of a chain comes to one, and a certificate that the loader refuses by a failure that is none of a value
break the source off, and with it go the findings of all other files (`readBundles_tells_or_breaks_off`).
-/

namespace CertInventory.Source

open Time Chain

variable {files : Files} {decode : Pem.Loader} {now : Instant} {b : FileBundle} {bs : List FileBundle} {f : Finding}
  {fs : List Finding} {fault : Fault} {d : DecodeFault} {chain : List Certificate}

/-- The file can be opened and holds the chain. -/
def Holds (files : Files) (decode : Pem.Loader) (b : FileBundle) (chain : List Certificate) : Prop :=
  ∃ bytes, files b.path = .ok bytes ∧ Pem.read decode bytes = .ok chain

/-- What breaks the reading of a file off: the first reading of its chain that fails is that of a key of an unknown
kind, or the first of its blocks that does not load is refused by a failure that is none of a value. -/
inductive BreaksOff (files : Files) (decode : Pem.Loader) (now : Instant) (b : FileBundle) : Fault → Prop where
  | unknownKey {chain : List Certificate} {d : DecodeFault} :
      Holds files decode b chain → MeetsFault now d chain → d.isEncoding = false → BreaksOff files decode now b (.decode d)
  | refused {bytes : List UInt8} {f : Failure} :
      files b.path = .ok bytes → Pem.FirstBad decode f (Pem.bodies bytes) → f.kind.isValue = false →
      BreaksOff files decode now b (.outside f)

/-- What a finding says of its file: it counts as probed if the file holds a chain, and says why not otherwise. -/
structure Tells (files : Files) (decode : Pem.Loader) (b : FileBundle) (f : Finding) : Prop where
  source : f.source = Finding.fileSource
  name : f.name = if b.name.isEmpty then b.path else b.name
  target : f.target = b.path
  serverName : f.serverName = b.hostname
  probeOk_iff : f.probeOk = true ↔ ∃ chain, Holds files decode b chain
  probeError_ne_empty : f.probeOk = false → f.probeError ≠ ""

theorem tells_of_not_holds {reason : String} (hholds : ¬ ∃ chain, Holds files decode b chain) (hreason : reason ≠ "") :
    Tells files decode b { bundleFinding b with probeOk := false, probeError := reason } where
  source := rfl
  name := rfl
  target := rfl
  serverName := rfl
  probeOk_iff := iff_of_false nofun hholds
  probeError_ne_empty _ := hreason

theorem tells_of_holds (hholds : Holds files decode b chain)
    (hfacts : f.withoutFacts =
      { bundleFinding b with probeOk := true, chainLength := chain.length }.withoutFacts) :
    Tells files decode b f := by
  have hprobed : f.probeOk = true := congrArg Finding.probeOk hfacts
  constructor
  · exact congrArg Finding.source hfacts
  · exact congrArg Finding.name hfacts
  · exact congrArg Finding.target hfacts
  · exact congrArg Finding.serverName hfacts
  · exact iff_of_true hprobed ⟨chain, hholds⟩
  · exact fun h => absurd (hprobed.symm.trans h) (by decide)

theorem readBundle_of_breaksOff (h : BreaksOff files decode now b fault) :
    readBundle files decode now b = .error fault := by
  cases h with
  | @unknownKey chain d hholds hmeets hunknown =>
    obtain ⟨bytes, hbytes, hread⟩ := hholds
    have hfails := Finding.bundling_of_meetsFault (f := bundleFinding b) hread hmeets hunknown b.hostname
    simp only [readBundle, hbytes]
    generalize (bundleFinding b).bundling decode bytes b.hostname (some now) = described at hfails ⊢
    obtain ⟨g, r⟩ := described
    obtain rfl : r = .error (.decode d) := hfails
    rfl
  | refused hbytes hbad hkind =>
    simp only [readBundle, hbytes, Finding.bundling, Pem.read_eq_unexpected_iff.mpr ⟨hkind, hbad⟩]

/-- A file of which the system says why it does not open, and which nothing breaks off, gets its finding. -/
theorem exists_readBundle (hfile : ∀ e, files b.path = .error e → e.kind.isSystem = true)
    (hgoes : ∀ fault, ¬ BreaksOff files decode now b fault) :
    ∃ f, readBundle files decode now b = .ok f ∧ Tells files decode b f := by
  unfold readBundle
  dsimp only
  cases hbytes : files b.path with
  | error e =>
    have hholds : ¬ ∃ chain, Holds files decode b chain := by
      rintro ⟨_, _, hopened, _⟩
      cases hbytes.symm.trans hopened
    dsimp only
    rw [if_pos (hfile e hbytes)]
    exact ⟨_, rfl, tells_of_not_holds hholds (readingError_ne_empty b.path e)⟩
  | ok bytes =>
    cases hread : Pem.read decode bytes with
    | error e =>
      have hholds : ¬ ∃ chain, Holds files decode b chain := by
        rintro ⟨_, _, hopened, hchain⟩
        cases hbytes.symm.trans hopened
        cases hread.symm.trans hchain
      have htold : ∀ g, e ≠ .unexpected g := by
        rintro g rfl
        obtain ⟨hkind, hbad⟩ := Pem.read_eq_unexpected_iff.mp hread
        exact hgoes _ (.refused hbytes hbad hkind)
      dsimp only
      rw [Finding.bundling_of_told hread htold]
      exact ⟨_, rfl, tells_of_not_holds hholds (Pem.BundleError.message_ne_empty htold)⟩
    | ok chain =>
      have hholds : Holds files decode b chain := ⟨bytes, hbytes, hread⟩
      have hencoding : ∀ d, MeetsFault now d chain → d.isEncoding = true := fun d hmeets =>
        (Bool.eq_false_or_eq_true _).resolve_right fun hunknown => hgoes _ (.unknownKey hholds hmeets hunknown)
      obtain ⟨g, hbundling, hfacts⟩ :=
        Finding.bundling_of_read (f := bundleFinding b) hread hencoding b.hostname
      dsimp only
      rw [hbundling]
      exact ⟨g, rfl, tells_of_holds hholds hfacts⟩

theorem readBundles_cons_of_ok (h : readBundle files decode now b = .ok f) :
    readBundles files decode now (b :: bs) = (readBundles files decode now bs).map (f :: ·) := by
  rw [readBundles, List.mapM_cons, h]
  rfl

theorem readBundles_cons_of_error (h : readBundle files decode now b = .error fault) :
    readBundles files decode now (b :: bs) = .error fault := by
  rw [readBundles, List.mapM_cons, h]
  rfl

theorem exists_readBundles (hfiles : ∀ b ∈ bs, ∀ e, files b.path = .error e → e.kind.isSystem = true)
    (hgo : ∀ b ∈ bs, ∀ fault, ¬ BreaksOff files decode now b fault) :
    ∃ fs, readBundles files decode now bs = .ok fs ∧ List.Forall₂ (Tells files decode) bs fs := by
  induction bs with
  | nil => exact ⟨[], rfl, .nil⟩
  | cons b bs ih =>
    obtain ⟨hfile, hfiles⟩ := List.forall_mem_cons.mp hfiles
    obtain ⟨hb, hbs⟩ := List.forall_mem_cons.mp hgo
    obtain ⟨f, hf, htells⟩ := exists_readBundle hfile hb
    obtain ⟨fs, hfs, hall⟩ := ih hfiles hbs
    refine ⟨f :: fs, ?_, .cons htells hall⟩
    rw [readBundles_cons_of_ok hf, hfs]
    rfl

theorem not_breaksOff_of_readBundles (h : readBundles files decode now bs = .ok fs) :
    ∀ b ∈ bs, ∀ fault, ¬ BreaksOff files decode now b fault := by
  induction bs generalizing fs with
  | nil => exact nofun
  | cons b bs ih =>
    cases hb : readBundle files decode now b with
    | error fault => cases (readBundles_cons_of_error hb).symm.trans h
    | ok f =>
      rw [readBundles_cons_of_ok hb] at h
      cases hbs : readBundles files decode now bs with
      | error fault =>
        rw [hbs] at h
        cases h
      | ok rest =>
        refine List.forall_mem_cons.mpr ⟨fun fault hbreaks => ?_, ih hbs⟩
        cases hb.symm.trans (readBundle_of_breaksOff hbreaks)

theorem readBundles_eq_error_iff (hfiles : ∀ b ∈ bs, ∀ e, files b.path = .error e → e.kind.isSystem = true) :
    readBundles files decode now bs = .error fault ↔
      FirstAmong (fun b => ∀ fault, ¬ BreaksOff files decode now b fault)
        (fun b => BreaksOff files decode now b fault) bs := by
  induction bs with
  | nil => exact iff_of_false nofun FirstAmong.not_nil
  | cons b bs ih =>
    obtain ⟨hfile, hfiles⟩ := List.forall_mem_cons.mp hfiles
    rw [FirstAmong.cons_iff, ← ih hfiles]
    by_cases hgoes : ∀ fault, ¬ BreaksOff files decode now b fault
    · obtain ⟨f, hf, _⟩ := exists_readBundle hfile hgoes
      rw [readBundles_cons_of_ok hf, or_iff_right (hgoes fault), and_iff_right hgoes]
      cases readBundles files decode now bs with
      | ok fs => exact iff_of_false nofun nofun
      | error e => simp [Except.map]
    · -- What a file breaks off with is one fault.
      obtain ⟨fault', hbreaks⟩ := not_forall_not.mp hgoes
      have hb := readBundle_of_breaksOff hbreaks
      rw [readBundles_cons_of_error hb, or_iff_left fun h => hgoes h.1]
      constructor
      · rintro ⟨⟩
        exact hbreaks
      · intro h
        obtain rfl := Except.error.inj (hb.symm.trans (readBundle_of_breaksOff h))
        rfl

/-- Every file gets its finding, in order, if nothing breaks one off; otherwise the first file that is broken off breaks
the source off with its fault, and nothing else does. -/
theorem readBundles_tells_or_breaks_off (now : Instant) (decode : Pem.Loader)
    (hfiles : ∀ b ∈ bs, ∀ e, files b.path = .error e → e.kind.isSystem = true) :
    ((∃ fs, readBundles files decode now bs = .ok fs ∧ List.Forall₂ (Tells files decode) bs fs) ↔
      ∀ b ∈ bs, ∀ fault, ¬ BreaksOff files decode now b fault) ∧
    ∀ fault, readBundles files decode now bs = .error fault ↔
      FirstAmong (fun b => ∀ fault, ¬ BreaksOff files decode now b fault)
        (fun b => BreaksOff files decode now b fault) bs := by
  refine ⟨⟨?_, exists_readBundles hfiles⟩, fun fault => readBundles_eq_error_iff hfiles⟩
  rintro ⟨fs, hfs, _⟩
  exact not_breaksOff_of_readBundles hfs

/-- Two files with a certificate each, one of which has a key of an unknown kind, a file of notes, and no other file. -/
def sampleFiles (path : String) : Except Failure (List UInt8) :=
  if path = "leaf.pem" then .ok (Pem.block [1])
  else if path = "odd.pem" then .ok (Pem.block [2])
  else if path = "notes.txt" then .ok (Pem.bytes "no certificate yet")
  else .error (.noFile path)

def sampleLeaf : Certificate := sampleCertificate "edge" "root" false (sampleTime 0) (sampleTime 9)

def sampleOddLeaf : Certificate := { sampleLeaf with publicKey := .error (.unknownKeyType "1.2.840.10045.2.127") }

def sampleDecode : Pem.Loader
  | [1] => .ok sampleLeaf
  | [2] => .ok sampleOddLeaf
  | _ => .error sampleGarbled

def sampleBundle (path : String) : FileBundle := ⟨path, "edge", ""⟩

theorem isSystem_of_sampleFiles (path : String) (e : Failure) (h : sampleFiles path = .error e) :
    e.kind.isSystem = true := by
  unfold sampleFiles at h
  split_ifs at h
  cases h
  rfl

theorem read_sampleBlock {der body : List UInt8} {c : Certificate} (hbodies : Pem.bodies (Pem.block der) = [body])
    (hpayload : Pem.payload? body = some der) (hdecode : sampleDecode der = .ok c) :
    Pem.read sampleDecode (Pem.block der) = .ok [c] := by
  simp only [Pem.read, hbodies, Pem.loadAll, Pem.load, hpayload, hdecode, Except.map]

theorem holds_sampleLeaf : Holds sampleFiles sampleDecode (sampleBundle "leaf.pem") [sampleLeaf] := by
  have hbodies : Pem.bodies (Pem.block [1]) = [[10, 65, 81, 61, 61, 10]] := by decide +kernel
  exact ⟨_, rfl, read_sampleBlock hbodies (by decide +kernel) rfl⟩

theorem holds_sampleOddLeaf : Holds sampleFiles sampleDecode (sampleBundle "odd.pem") [sampleOddLeaf] := by
  have hbodies : Pem.bodies (Pem.block [2]) = [[10, 65, 103, 61, 61, 10]] := by decide +kernel
  exact ⟨_, rfl, read_sampleBlock hbodies (by decide +kernel) rfl⟩

theorem bodies_sampleNotes : Pem.bodies (Pem.bytes "no certificate yet") = [] := by decide +kernel

theorem not_holds_sample {b : FileBundle} (hb : b = sampleBundle "missing.pem" ∨ b = sampleBundle "notes.txt") :
    ¬ ∃ chain, Holds sampleFiles sampleDecode b chain := by
  rintro ⟨chain, bytes, hopened, hread⟩
  obtain rfl | rfl := hb
  · cases hopened
  · cases hopened
    rw [Pem.read, bodies_sampleNotes] at hread
    cases hread

theorem not_breaksOff_sampleLeaf (fault : Fault) :
    ¬ BreaksOff sampleFiles sampleDecode (sampleTime 5) (sampleBundle "leaf.pem") fault := by
  obtain ⟨bytes, hopened, hread⟩ := holds_sampleLeaf
  rintro (⟨⟨_, hopened', hread'⟩, hmeets, hunknown⟩ | ⟨hopened', hbad, hkind⟩)
  · cases hopened.symm.trans hopened'
    cases hread.symm.trans hread'
    obtain ⟨c, hc, hfails⟩ := hmeets.exists_mem
    obtain rfl := List.mem_singleton.mp hc
    exact hfails.elim nofun nofun
  · cases hopened.symm.trans hopened'
    cases hread.symm.trans (Pem.read_eq_unexpected_iff.mpr ⟨hkind, hbad⟩)

theorem not_breaksOff_sample {b : FileBundle} (hb : b = sampleBundle "missing.pem" ∨ b = sampleBundle "notes.txt")
    (fault : Fault) : ¬ BreaksOff sampleFiles sampleDecode (sampleTime 5) b fault := by
  rintro (⟨hholds, _⟩ | ⟨hopened, hbad, _⟩)
  · exact not_holds_sample hb ⟨_, hholds⟩
  · obtain rfl | rfl := hb
    · cases hopened
    · cases hopened
      rw [bodies_sampleNotes] at hbad
      exact FirstAmong.not_nil hbad

theorem readBundles_tells_sample :
    (∀ b ∈ [sampleBundle "missing.pem", sampleBundle "leaf.pem", sampleBundle "notes.txt"], ∀ e,
      sampleFiles b.path = .error e → e.kind.isSystem = true) ∧
    ∃ fs, readBundles sampleFiles sampleDecode (sampleTime 5)
        [sampleBundle "missing.pem", sampleBundle "leaf.pem", sampleBundle "notes.txt"] = .ok fs ∧
      fs.map Finding.target = ["missing.pem", "leaf.pem", "notes.txt"] ∧
      fs.map Finding.probeOk = [false, true, false] := by
  have hfiles : ∀ b ∈ [sampleBundle "missing.pem", sampleBundle "leaf.pem", sampleBundle "notes.txt"], ∀ e,
      sampleFiles b.path = .error e → e.kind.isSystem = true := fun b _ => isSystem_of_sampleFiles b.path
  have hmissing := not_holds_sample (.inl rfl)
  have hnotes := not_holds_sample (.inr rfl)
  have hgo : ∀ b ∈ [sampleBundle "missing.pem", sampleBundle "leaf.pem", sampleBundle "notes.txt"], ∀ fault,
      ¬ BreaksOff sampleFiles sampleDecode (sampleTime 5) b fault :=
    List.forall_mem_cons.mpr ⟨not_breaksOff_sample (.inl rfl), List.forall_mem_cons.mpr
      ⟨not_breaksOff_sampleLeaf, List.forall_mem_singleton.mpr (not_breaksOff_sample (.inr rfl))⟩⟩
  obtain ⟨fs, hfs, htells⟩ := (readBundles_tells_or_breaks_off (sampleTime 5) sampleDecode hfiles).1.mpr hgo
  refine ⟨hfiles, fs, hfs, ?_⟩
  cases htells with
  | cons hfirst hrest =>
    cases hrest with
    | cons hsecond hrest =>
      cases hrest with
      | cons hthird hrest =>
        cases hrest
        have hunprobed := Bool.eq_false_iff.mpr (mt hfirst.probeOk_iff.mp hmissing)
        have hprobed := hsecond.probeOk_iff.mpr ⟨_, holds_sampleLeaf⟩
        have hrefused := Bool.eq_false_iff.mpr (mt hthird.probeOk_iff.mp hnotes)
        simp only [List.map_cons, List.map_nil, hfirst.target, hsecond.target, hthird.target, hunprobed, hprobed,
          hrefused, sampleBundle, and_self]

/-- A file whose key is of an unknown kind costs the finding of a file in order. -/
theorem exists_bundle_breaks_off :
    ¬ ∀ (files : Files) (decode : Pem.Loader) (now : Instant) (bs : List FileBundle),
      (∀ b ∈ bs, ∀ e, files b.path = .error e → e.kind.isSystem = true) →
      ∃ fs, readBundles files decode now bs = .ok fs ∧ List.Forall₂ (Tells files decode) bs fs := by
  intro h
  have hbreaks : BreaksOff sampleFiles sampleDecode (sampleTime 5) (sampleBundle "odd.pem") _ :=
    .unknownKey holds_sampleOddLeaf (.leafKey rfl rfl) rfl
  obtain ⟨fs, hfs, _⟩ := h sampleFiles sampleDecode (sampleTime 5) [sampleBundle "leaf.pem", sampleBundle "odd.pem"]
    fun b _ => isSystem_of_sampleFiles b.path
  exact not_breaksOff_of_readBundles hfs _ (List.mem_cons_of_mem _ List.mem_cons_self) _ hbreaks

end CertInventory.Source
