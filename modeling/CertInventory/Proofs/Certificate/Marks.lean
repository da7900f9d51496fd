import CertInventory.Proofs.Certificate.Bundle

/-!
The certificates of a bundle against the marks that begin one. Each block that is cut out takes one mark with it, and
more only where others start before its end. So the certificates that are read are at most as many as the marks, and as
many exactly where every mark has an end of its own; a block at the end of a bundle that was cut short is left out.
-/

namespace CertInventory.Pem

open Text

variable {decode : Loader} {bundle before opened body rest : List UInt8}

/-- Behind every mark that begins a certificate stands one that ends it, before the next one begins. -/
def EveryBlockEnds (bundle : List UInt8) : Prop :=
  ∀ before opened, bundle = before ++ (beginMark ++ opened) →
    ∃ body rest, opened = body ++ (endMark ++ rest) ∧ startsIn beginMark (beginMark.tail ++ (body ++ endMark)) rest = 0

theorem beginMark_eq_cons : beginMark = 0x2D :: beginMark.tail := by decide

theorem startsIn_beginMark_append (l behind : List UInt8) :
    startsIn beginMark (beginMark ++ l) behind = 1 + startsIn beginMark (beginMark.tail ++ l) behind := by
  conv_lhs => rw [beginMark_eq_cons, List.cons_append, ← beginMark_eq_cons]
  have hmark : beginMark <+: 0x2D :: (beginMark.tail ++ l ++ behind) := by
    rw [List.append_assoc, ← List.cons_append, ← beginMark_eq_cons]
    exact List.prefix_append _ _
  rw [startsIn, if_pos hmark]

theorem occurrences_block (h : startsIn beginMark before (beginMark ++ (body ++ (endMark ++ rest))) = 0) :
    occurrences beginMark (before ++ (beginMark ++ (body ++ (endMark ++ rest)))) =
      1 + startsIn beginMark (beginMark.tail ++ (body ++ endMark)) rest + occurrences beginMark rest := by
  unfold occurrences
  rw [startsIn_append, List.append_nil, h, Nat.zero_add]
  have hsplit : beginMark ++ (body ++ (endMark ++ rest)) = (beginMark ++ (body ++ endMark)) ++ rest := by
    simp only [List.append_assoc]
  rw [hsplit, startsIn_append, List.append_nil, startsIn_beginMark_append]

/-- Where the first end of a block comes after no other mark, a later end is no better. -/
theorem startsIn_of_later_end {body' rest' : List UInt8} (hbody : startsIn endMark body (endMark ++ rest) = 0)
    (hsplit : body ++ (endMark ++ rest) = body' ++ (endMark ++ rest'))
    (h : startsIn beginMark (beginMark.tail ++ (body' ++ endMark)) rest' = 0) :
    startsIn beginMark (beginMark.tail ++ (body ++ endMark)) rest = 0 := by
  obtain ⟨m, rfl, hm⟩ := exists_of_startsIn_eq_zero hbody hsplit
  rw [← List.append_assoc] at hm
  have hprefix : endMark <+: m ++ endMark := by
    apply List.prefix_of_prefix_length_le ⟨rest, rfl⟩ (hm ▸ List.prefix_append _ rest')
    rw [List.length_append]
    omega
  obtain ⟨m', hm'⟩ := hprefix
  rw [← hm', List.append_assoc] at hm
  obtain rfl : rest = m' ++ rest' := List.append_cancel_left hm
  have hwhole : beginMark.tail ++ (body ++ m ++ endMark) = beginMark.tail ++ (body ++ endMark) ++ m' := by
    simp only [List.append_assoc, hm']
  rw [hwhole, startsIn_append] at h
  omega

theorem everyBlockEnds_block (hbefore : startsIn beginMark before (beginMark ++ (body ++ (endMark ++ rest))) = 0)
    (hbody : startsIn endMark body (endMark ++ rest) = 0) :
    EveryBlockEnds (before ++ (beginMark ++ (body ++ (endMark ++ rest)))) ↔
      startsIn beginMark (beginMark.tail ++ (body ++ endMark)) rest = 0 ∧ EveryBlockEnds rest := by
  constructor
  · intro h
    constructor
    · obtain ⟨body', rest', hsplit, hstarts⟩ := h before _ rfl
      exact startsIn_of_later_end hbody hsplit hstarts
    · rintro before' opened rfl
      refine h (before ++ (beginMark ++ (body ++ (endMark ++ before')))) opened ?_
      simp only [List.append_assoc]
  · rintro ⟨hstarts, hrest⟩ before' opened hsplit
    obtain ⟨m, rfl, hm⟩ := exists_of_startsIn_eq_zero hbefore hsplit
    -- A mark starts with the block itself, or else behind the block.
    cases m with
    | nil => exact ⟨body, rest, (List.append_cancel_left hm).symm, hstarts⟩
    | cons c m =>
      rw [beginMark_eq_cons, List.cons_append, List.cons_append, ← beginMark_eq_cons] at hm
      obtain ⟨_, hm⟩ := List.cons.inj hm
      have hinner : beginMark.tail ++ (body ++ endMark) ++ rest = m ++ (beginMark ++ opened) := by
        simpa only [List.append_assoc] using hm
      obtain ⟨before', _, hbehind⟩ := exists_of_startsIn_eq_zero hstarts hinner
      exact hrest before' opened hbehind

theorem everyBlockEnds_of_occurrences_eq_zero (h : occurrences beginMark bundle = 0) : EveryBlockEnds bundle := by
  intro before opened hsplit
  exact absurd hsplit (ne_append_of_occurrences_eq_zero beginMark_ne_nil h)

theorem occurrences_pos_of_unclosed (opened : List UInt8) :
    0 < occurrences beginMark (before ++ (beginMark ++ opened)) := by
  unfold occurrences
  rw [startsIn_append, startsIn_beginMark_append]
  omega

theorem length_bodies (bundle : List UInt8) :
    (bodies bundle).length ≤ occurrences beginMark bundle ∧
    ((bodies bundle).length = occurrences beginMark bundle ↔ EveryBlockEnds bundle) := by
  fun_induction bodies bundle with
  | case1 bundle hbegin =>
    have hnone := (cutAt?_eq_none_iff beginMark_ne_nil).mp hbegin
    rw [hnone]
    exact ⟨Nat.le_refl 0, iff_of_true rfl (everyBlockEnds_of_occurrences_eq_zero hnone)⟩
  | case2 bundle before opened hbegin hend =>
    obtain ⟨rfl, -⟩ := (cutAt?_eq_some_iff beginMark_ne_nil).mp hbegin
    refine ⟨Nat.zero_le _, iff_of_false (Nat.ne_of_lt (occurrences_pos_of_unclosed opened)) fun h => ?_⟩
    obtain ⟨body, rest, hopened, _⟩ := h before opened rfl
    exact ne_append_of_occurrences_eq_zero endMark_ne_nil ((cutAt?_eq_none_iff endMark_ne_nil).mp hend) hopened
  | case3 bundle before opened hbegin body rest hend ih =>
    obtain ⟨rfl, hbefore⟩ := (cutAt?_eq_some_iff beginMark_ne_nil).mp hbegin
    obtain ⟨rfl, hbody⟩ := (cutAt?_eq_some_iff endMark_ne_nil).mp hend
    obtain ⟨hle, hiff⟩ := ih
    rw [occurrences_block hbefore, everyBlockEnds_block hbefore hbody, ← hiff, List.length_cons]
    constructor
    · omega
    · omega

theorem exists_read_eq_error_iff (decode : Loader) (bundle : List UInt8) :
    (∃ e, read decode bundle = .error e) ↔
      bodies bundle = [] ∨ ∃ body ∈ bodies bundle, ∃ f, load decode body = .error f := by
  obtain ⟨cs, hloads⟩ | ⟨f, front, body, behind, hbodies, hfront, hbad⟩ := loads_or_firstBad decode (bodies bundle)
  · have hnone : ¬ ∃ body ∈ bodies bundle, ∃ f, load decode body = .error f := by
      rintro ⟨body, hbody, f, hf⟩
      obtain ⟨c, hc⟩ := exists_load_of_loads hloads body hbody
      cases hc.symm.trans hf
    have hempty : bodies bundle = [] ↔ cs = [] := by
      rw [← List.length_eq_zero_iff, hloads.length_eq, List.length_eq_zero_iff]
    rw [or_iff_left hnone, hempty, read_of_loads hloads]
    split_ifs with hcs
    · exact iff_of_true ⟨_, rfl⟩ hcs
    · exact iff_of_false nofun hcs
  · rw [read_of_bad hbodies hfront hbad]
    exact iff_of_true ⟨_, rfl⟩ (.inr ⟨body, hbodies ▸ List.mem_append_right front List.mem_cons_self, f, hbad⟩)

theorem length_of_read {cs : List Certificate} (h : read decode bundle = .ok cs) :
    cs.length = (bodies bundle).length := by
  obtain ⟨cs', hloads⟩ | ⟨f, front, body, behind, hbodies, hfront, hbad⟩ := loads_or_firstBad decode (bodies bundle)
  · rw [read_of_loads hloads] at h
    split_ifs at h
    obtain rfl := Except.ok.inj h
    exact hloads.length_eq.symm
  · cases (read_of_bad hbodies hfront hbad).symm.trans h

/-- As many certificates are read as marks begin one, exactly where every block ends before the next one begins, and
never more. A bundle is refused where no block ends, and where one does not load. What refuses it is a failure of a
value, but where the loader refuses the first block that does not load by a failure of another kind, it is that. -/
theorem length_read_eq_iff (decode : Loader) (bundle : List UInt8) :
    (∀ cs, read decode bundle = .ok cs → cs.length ≤ occurrences beginMark bundle ∧
      (cs.length = occurrences beginMark bundle ↔ EveryBlockEnds bundle)) ∧
    ((∃ e, read decode bundle = .error e) ↔
      bodies bundle = [] ∨ ∃ body ∈ bodies bundle, ∃ f, load decode body = .error f) ∧
    ∀ f, read decode bundle = .error (.unexpected f) ↔
      f.kind.isValue = false ∧ FirstBad decode f (bodies bundle) := by
  refine ⟨fun cs hread => ?_, exists_read_eq_error_iff decode bundle, fun f => read_eq_unexpected_iff⟩
  rw [length_of_read hread]
  exact length_bodies bundle

def truncatedBundle : List UInt8 :=
  beginMark ++ (sampleBody ++ (endMark ++ (bytes "\n" ++ (beginMark ++ sampleBody))))

theorem bodies_truncatedBundle : bodies truncatedBundle = [sampleBody] := by
  have hends : startsIn endMark sampleBody endMark = 0 := by decide +kernel
  have hunclosed : bodies (bytes "\n" ++ (beginMark ++ sampleBody)) = [] := by decide +kernel
  rw [truncatedBundle, bodies_block hends, hunclosed]

theorem read_truncatedBundle :
    read sampleDecoder truncatedBundle = .ok [sampleCertificate "edge" "root" false (sampleTime 0) (sampleTime 9)] := by
  rw [read, bodies_truncatedBundle, loadAll, load_sampleBody]
  rfl

theorem length_read_eq_iff_sample :
    read sampleDecoder truncatedBundle = .ok [sampleCertificate "edge" "root" false (sampleTime 0) (sampleTime 9)] ∧
    1 ≤ occurrences beginMark truncatedBundle ∧ ¬ EveryBlockEnds truncatedBundle := by
  obtain ⟨hle, hiff⟩ := (length_read_eq_iff sampleDecoder truncatedBundle).1 _ read_truncatedBundle
  refine ⟨read_truncatedBundle, hle, fun h => ?_⟩
  have htwo : occurrences beginMark truncatedBundle = 2 := by decide +kernel
  have hone := hiff.mpr h
  rw [htwo] at hone
  cases hone

/-- A bundle whose last block was cut short reads as a shorter chain, though all its bodies are plain Base64 text. -/
theorem exists_block_dropped :
    ¬ ∀ (decode : Loader) (bundle : List UInt8) (cs : List Certificate),
      (∀ body ∈ bodies bundle, ∀ b ∈ body, isGap b = true ∨ b = 0x3D ∨ (Base64.value? (Char.ofNat b.toNat)).isSome) →
      read decode bundle = .ok cs → cs.length = occurrences beginMark bundle := by
  intro h
  have hplain : ∀ b ∈ sampleBody, isGap b = true ∨ b = 0x3D ∨ (Base64.value? (Char.ofNat b.toNat)).isSome := by
    decide +kernel
  have htwo : occurrences beginMark truncatedBundle = 2 := by decide +kernel
  have hlength := h sampleDecoder truncatedBundle _ (by
    rw [bodies_truncatedBundle, List.forall_mem_singleton]
    exact hplain) read_truncatedBundle
  rw [htwo] at hlength
  cases hlength

end CertInventory.Pem
