import CertInventory.Proofs.Target.Query
import CertInventory.Service.Route

/-!
Paths of plain characters. A reference that is such a path, with one slash in front, is the path of its request as it
stands (`path_of_plain`), since there is nothing in it to leave out, to lead back or to undo.
-/

namespace CertInventory

namespace Query

theorem percentBytes_of_plain {cs : List Char} (h : ∀ c ∈ cs, isAscii c = true ∧ c ≠ '%') :
    percentBytes cs = Text.Utf8.encode cs := by
  induction cs with
  | nil => rfl
  | cons c cs ih =>
    obtain ⟨⟨hascii, hc⟩, hrest⟩ := List.forall_mem_cons.mp h
    have hsmall : c.toNat < 0x80 := of_decide_eq_true hascii
    have hbyte : String.utf8EncodeChar c = [UInt8.ofNat c.toNat] := by
      simp only [String.utf8EncodeChar, Char.toNat_val]
      rw [if_pos (by omega)]
    rw [percentBytes_cons hc, ih hrest, Text.Utf8.encode, Text.Utf8.encode, List.flatMap_cons, hbyte,
      List.singleton_append]

theorem unescapeRuns_of_plain {cs : List Char} (h : ∀ c ∈ cs, isAscii c = true ∧ c ≠ '%') :
    unescapeRuns [] cs = cs := by
  rw [unescapeRuns_of_ascii fun c hc => (h c hc).1, List.reverse_nil, List.nil_append, percentBytes_of_plain h,
    Text.Utf8.decodeLossy_encode]

end Query

namespace Service

theorem resolveSteps_of_plain {steps : List (List Char)} (h : ∀ step ∈ steps, '.' ∉ step) (taken : List (List Char)) :
    resolveSteps taken steps = taken.reverse ++ steps := by
  induction steps generalizing taken with
  | nil => rw [resolveSteps, List.append_nil]
  | cons step steps ih =>
    obtain ⟨hstep, hrest⟩ := List.forall_mem_cons.mp h
    rw [resolveSteps]
    · rw [ih hrest, List.reverse_cons, List.append_assoc, List.singleton_append]
    · rintro rfl
      exact hstep List.mem_cons_self
    · rintro rfl
      exact hstep List.mem_cons_self

/-- A character that stands in a path as it is. -/
def IsPathChar (c : Char) : Prop := Query.isAscii c = true ∧ c ∉ ['%', '.', '#', '?', ':']

instance (c : Char) : Decidable (IsPathChar c) := inferInstanceAs (Decidable (_ ∧ _))

theorem IsPathChar.ne {c d : Char} (h : IsPathChar c) (hd : d ∈ ['%', '.', '#', '?', ':']) : c ≠ d := by
  rintro rfl
  exact h.2 hd

namespace Request

variable {r : Request} {cs : List Char}

theorem parts_of_plain (hreference : r.reference.toList = '/' :: cs) (hfirst : cs.head? ≠ some '/')
    (hplain : ∀ c ∈ cs, IsPathChar c) : r.parts = ('/' :: cs, []) := by
  have hfree {d : Char} (hd : d ∈ ['%', '.', '#', '?', ':']) (hslash : d ≠ '/') : d ∉ '/' :: cs :=
    List.not_mem_cons_of_ne_of_not_mem hslash fun hmem => (hplain d hmem).ne hd rfl
  have hscheme : withoutScheme ('/' :: cs) = '/' :: cs := by
    rw [withoutScheme, Text.cutFirst_of_not_mem (hfree (by decide) (by decide))]
  have hauthority : withoutAuthority ('/' :: cs) = '/' :: cs := by
    unfold withoutAuthority
    split
    · rename_i h
      rw [(List.cons.inj h).2] at hfirst
      exact absurd rfl hfirst
    · rfl
  rw [parts, hreference, Text.cutFirst_of_not_mem (hfree (by decide) (by decide))]
  dsimp only
  rw [Text.cutFirst_of_not_mem (hfree (by decide) (by decide))]
  dsimp only
  rw [hscheme, hauthority]
  rfl

theorem path_of_plain (hreference : r.reference.toList = '/' :: cs) (hfirst : cs.head? ≠ some '/')
    (hplain : ∀ c ∈ cs, IsPathChar c) : r.path = '/' :: cs := by
  have hrooted : '/' :: ('/' :: cs).dropWhile (· == '/') = '/' :: cs := by
    rw [List.dropWhile_cons_of_pos (by rfl)]
    cases cs with
    | nil => rfl
    | cons c cs =>
      have hstop : ¬ (c == '/') = true := fun hc => hfirst (congrArg some (beq_iff_eq.mp hc))
      exact congrArg _ (List.dropWhile_cons_of_neg hstop)
  have hdots : ∀ step ∈ Text.splitAll '/' ('/' :: cs), '.' ∉ step := by
    intro step hstep hdot
    rcases List.mem_cons.mp ((Text.sublist_of_mem_splitAll hstep).subset hdot) with hslash | hmem
    · cases hslash
    · exact (hplain _ hmem).ne (by decide) rfl
  have hjoined : List.intercalate ['/'] (Text.splitAll '/' ('/' :: cs)) = '/' :: cs := by
    rw [Text.splitAll_eq_splitOn, List.intercalate_splitOn]
  have hescapes : ∀ c ∈ '/' :: cs, Query.isAscii c = true ∧ c ≠ '%' :=
    List.forall_mem_cons.mpr ⟨by decide, fun c hc => ⟨(hplain c hc).1, (hplain c hc).ne (by decide)⟩⟩
  rw [path, parts_of_plain hreference hfirst hplain]
  dsimp only
  rw [hrooted, resolveSteps_of_plain hdots, List.reverse_nil, List.nil_append, hjoined,
    Query.unescapeRuns_of_plain hescapes, Query.unescapeRuns_of_plain hescapes]

end Request

namespace Route

/-- What stands behind the path of the snapshots is the number of one, as written. -/
theorem ofPath?_byId {id : List Char} (hne : id ≠ []) (hslash : '/' ∉ id) (hend : id.getLast? ≠ some '\n') :
    ofPath? (byIdHead ++ id) = some (.byId id) := by
  have hline : withoutLineEnd (byIdHead ++ id) = byIdHead ++ id := by
    rw [withoutLineEnd, if_neg]
    rwa [List.getLast?_append_of_ne_nil _ hne]
  have hfixed : fixed.lookup (String.ofList (byIdHead ++ id)) = none := by
    have hother : ∀ entry ∈ fixed, ¬ byIdHead <+: entry.1.toList := by decide
    rw [List.lookup_eq_none_iff]
    intro entry hentry
    rw [bne_iff_ne]
    intro h
    apply hother entry hentry
    rw [← h, String.toList_ofList]
    exact List.prefix_append _ _
  obtain ⟨c, rest, rfl⟩ := List.exists_cons_of_ne_nil hne
  rw [ofPath?, hline, hfixed]
  dsimp only
  rw [Text.dropHead?_append]
  dsimp only
  rw [List.contains_eq_mem, decide_eq_false hslash, if_neg Bool.false_ne_true]

end Route

end Service

end CertInventory
