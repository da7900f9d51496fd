import CertInventory.Proofs.Probe.Retry
import CertInventory.Proofs.Target.Url
import Mathlib.Data.Bool.AllAny

/-!
The name that is asked for and the name that is verified. Both are read from one target, but the blanks around it are
dropped for one of them alone, and so are tabs and line ends within it for the other. They are the same name exactly
where the target has the mark of a URL as it stands and no blank behind it goes to the name
(`probed_name_verified_iff`).
-/

namespace CertInventory

namespace Target

theorem countP_hostOf (s : String) :
    (hostOf s).toList.countP Query.spellsSlash = s.toList.countP Query.spellsSlash := by
  unfold hostOf
  cases h : HostPort.split s with
  | error e => rfl
  | ok hp => exact HostPort.countP_host h

theorem getD_namedBy? (query host : String) :
    (namedBy? query).getD host =
      if (Query.first? "sni" query).getD "" = "" then host else (Query.first? "sni" query).getD "" := by
  unfold namedBy?
  cases Query.first? "sni" query with
  | none => rfl
  | some name =>
    by_cases hempty : name = ""
    · simp [hempty]
    · simp [hempty]

theorem countP_getD_namedBy? (query host : String) :
    ((namedBy? query).getD host).toList.countP Query.spellsSlash ≤
      query.toList.countP Query.spellsSlash + host.toList.countP Query.spellsSlash := by
  unfold namedBy?
  cases hname : Query.first? "sni" query with
  | none => exact Nat.le_add_left _ _
  | some name =>
    dsimp only
    split
    · exact Nat.le_add_left _ _
    · exact (Query.countP_first?_le hname).trans (Nat.le_add_right _ _)

/-- A query has blanks at the very end of its target. -/
def EndsInBlank (target query : String) : Prop :=
  '#' ∉ target.toList ∧ ∃ c ∈ query.toList.getLast?, Text.isBlank c = true

/-- The blanks around a target are of no account for its authority. They are of account for its query, if that is what
stands at the end. -/
theorem exists_split_trimmed {target : String} {u : Url} {hp : HostPort} (hu : Url.split target = .ok u)
    (hscheme : u.scheme ≠ "") (hsplit : HostPort.split u.authority = .ok hp) :
    (∃ c ∈ hp.host.toList, Text.isBlank c = false) ∧
    ∃ v, Url.split (Text.trimmed target) = .ok v ∧ HostPort.split v.authority = .ok hp ∧
      (u.query = v.query ∧ ¬ EndsInBlank target u.query ∨
        EndsInBlank target u.query ∧ ∃ blanks, blanks ≠ [] ∧ (∀ c ∈ blanks, Text.isBlank c = true) ∧
          u.query = String.ofList (v.query.toList ++ blanks)) := by
  obtain ⟨scheme, authority, rest, hcut, rfl⟩ := Url.exists_isCut hu hscheme (HostPort.ne_empty_of_split hsplit)
  obtain ⟨before, behind, htarget, hbefore, hbehind, htrimmed⟩ := Text.exists_trim target.toList
  rw [htarget] at hcut
  obtain ⟨blanks, hcleaned, hblanks⟩ := Url.exists_cleaned_eq hbefore hbehind hcut
  have hfragment : '#' ∈ target.toList ↔ '#' ∈ Url.cleaned (Text.trim target.toList) ++ blanks := by
    rw [← hcleaned, ← htarget, Url.mem_cleaned_iff (by decide)]
  refine ⟨Url.exists_mem_host hcut.checked hsplit, ?_⟩
  rw [hcleaned] at hcut
  have hurl {a r : List Char} (h : Url.IsCut (Url.cleaned (Text.trim target.toList)) scheme a r) :
      Url.split (Text.trimmed target) = .ok (Url.ofCut scheme a r) := by
    apply Url.IsCut.split_eq
    rwa [Text.trimmed, String.toList_ofList]
  rcases hcut.of_append hblanks hsplit with ⟨rfl, a, rfl, hcut'⟩ | ⟨r, rfl, hr, hcut'⟩
  · refine ⟨_, hurl hcut', HostPort.split_of_trim_eq hsplit ?_, .inl ⟨rfl, ?_⟩⟩
    · rw [Url.ofCut, Url.ofCut, String.toList_ofList, String.toList_ofList, Text.trim_append_of_blank hblanks]
    · rintro ⟨-, c, hc, -⟩
      cases hc
  · refine ⟨_, hurl hcut', hsplit, ?_⟩
    dsimp only [Url.ofCut]
    rcases hcut'.queryIn_append (Url.getLast?_cleaned htrimmed) hblanks with ⟨hquery, hends⟩ | ⟨hfree, hne, hquery⟩
    · refine .inl ⟨congrArg String.ofList hquery, ?_⟩
      rintro ⟨hfree, c, hc, hblank⟩
      rw [String.toList_ofList, hquery] at hc
      rcases hends with hmem | hends
      · exact hfree (hfragment.mpr hmem)
      · exact Bool.noConfusion ((hends c hc).symm.trans hblank)
    · have hlast : blanks.getLast hne ∈ (String.ofList (Url.queryIn (r ++ blanks))).toList.getLast? := by
        rw [String.toList_ofList, hquery, List.getLast?_append_of_ne_nil _ hne]
        exact List.getLast?_eq_some_getLast hne
      refine .inr ⟨⟨mt hfragment.mp hfree, _, hlast, hblanks _ (List.getLast_mem hne)⟩, blanks, hne, hblanks, ?_⟩
      rw [hquery, String.toList_ofList]

/-- Whether a text is read as a URL. -/
def HasMark (target : String) : Prop := "://".toList <:+: target.toList

theorem contains_trimmed_iff {target : String} :
    Text.contains "://".toList (Text.trimmed target).toList = true ↔ HasMark target := by
  obtain ⟨before, behind, htarget, hbefore, hbehind, -⟩ := Text.exists_trim target.toList
  have hvisible : ∀ d ∈ "://".toList, Text.isBlank d = false := List.all_iff_forall_prop.mp (by decide)
  have hdisjoint {blanks : List Char} (h : ∀ c ∈ blanks, Text.isBlank c = true) : ∀ c ∈ blanks, c ∉ "://".toList :=
    fun c hc hmem => Bool.noConfusion ((hvisible c hmem).symm.trans (h c hc))
  have hne : "://".toList ≠ [] := by decide
  have htrimmed : (Text.trimmed target).toList = Text.trim target.toList := String.toList_ofList
  rw [Text.contains_iff_isInfix, htrimmed, HasMark, htarget, Text.isInfix_append_of_disjoint hne (hdisjoint hbefore),
    Text.isInfix_append_of_disjoint_right hne (hdisjoint hbehind), ← htarget]

theorem serverName_of_hasMark {target : String} {v : Url} {hp : HostPort} (hmark : HasMark target)
    (hv : Url.split (Text.trimmed target) = .ok v) (hsplit : HostPort.split v.authority = .ok hp) :
    serverName target = .ok ((namedBy? v.query).getD hp.host) := by
  rw [serverName, if_pos (contains_trimmed_iff.mpr hmark), hv]
  dsimp only
  rw [hostOf, hsplit]
  cases namedBy? v.query <;> rfl

/-- Where the mark of a URL is broken up by tabs or line ends, the host has slashes that no name has. -/
theorem serverName_ne_of_not_hasMark {target : String} {u : Url} {hp : HostPort} (hmark : ¬ HasMark target)
    (hu : Url.split target = .ok u) (hscheme : u.scheme ≠ "") (hsplit : HostPort.split u.authority = .ok hp) :
    serverName target ≠ .ok ((namedBy? u.query).getD hp.host) := by
  obtain ⟨scheme, authority, rest, hcut, rfl⟩ := Url.exists_isCut hu hscheme (HostPort.ne_empty_of_split hsplit)
  have hverified : (hostOf (Text.trimmed target)).toList.countP Query.spellsSlash =
      (Url.cleaned target.toList).countP Query.spellsSlash := by
    rw [countP_hostOf, Text.trimmed, String.toList_ofList, Text.countP_trim (fun c => Query.spellsSlash_of_isBlank),
      Url.countP_cleaned fun c hc => (Query.bounds_of_spellsSlash hc).1]
  rw [hcut.eq, List.countP_append, List.countP_cons_of_neg (by decide), List.countP_cons_of_pos (by rfl),
    List.countP_cons_of_pos (by rfl), List.countP_append] at hverified
  have hhost := HostPort.countP_host hsplit
  have hname := countP_getD_namedBy? (Url.ofCut scheme authority rest).query hp.host
  have hquery := (Url.queryIn_isInfix rest).sublist.countP_le (p := Query.spellsSlash)
  dsimp only [Url.ofCut] at hhost hname
  rw [String.toList_ofList] at hhost hname
  rw [serverName, if_neg (mt contains_trimmed_iff.mp hmark)]
  intro heq
  rw [Except.ok.inj heq] at hverified
  dsimp only [Url.ofCut] at hverified
  omega

theorem namedLast_names (query : List Char) {blanks : List Char} (hblanks : ∀ c ∈ blanks, Text.isBlank c = true)
    (hne : blanks ≠ []) {host : String} (hhost : ∃ c ∈ host.toList, Text.isBlank c = false) :
    (namedBy? (String.ofList (query ++ blanks))).getD host = (namedBy? (String.ofList query)).getD host ↔
      ¬ Query.NamedLast "sni" (query ++ blanks) := by
  have hpiece : '&' ∉ blanks := Text.not_mem_of_isBlank hblanks (by decide)
  have hvalue : '=' ∉ blanks := Text.not_mem_of_isBlank hblanks (by decide)
  constructor
  · intro heq hlast
    obtain ⟨value, hlong, hshort⟩ := Query.first?_append_of_namedLast
      (fun c hc => Query.isInert_of_isBlank (hblanks c hc)) hne hpiece hvalue hlast
    have hfull : String.ofList (value ++ blanks) ≠ "" := by
      rw [ne_eq, String.ofList_eq_empty_iff]
      exact List.append_ne_nil_of_right_ne_nil value hne
    rw [getD_namedBy?, getD_namedBy?, hlong, hshort, Option.getD_some, if_neg hfull] at heq
    split at heq
    · rename_i hempty
      obtain ⟨c, hc, hvisible⟩ := hhost
      rw [← heq, String.ofList_eq_empty_iff.mp hempty, String.toList_ofList] at hc
      exact Bool.noConfusion ((hblanks c hc).symm.trans hvisible)
    · have hlength := congrArg String.length heq
      rw [String.length_ofList, String.length_ofList, List.length_append] at hlength
      exact hne (List.length_eq_zero_iff.mp (by omega))
  · intro hlast
    rw [getD_namedBy?, getD_namedBy?, Query.first?_append_of_not_namedLast hpiece hvalue hlast]

/-- A target asks for another name than the one that is verified, by the blanks behind it: they are read as a part of
the name. -/
def NamesBlanks (target query : String) : Prop := EndsInBlank target query ∧ Query.NamedLast "sni" query.toList

theorem serverName_eq_iff {target : String} {u : Url} {hp : HostPort} (hu : Url.split target = .ok u)
    (hscheme : u.scheme ≠ "") (hsplit : HostPort.split u.authority = .ok hp) :
    serverName target = .ok ((namedBy? u.query).getD hp.host) ↔ HasMark target ∧ ¬ NamesBlanks target u.query := by
  by_cases hmark : HasMark target
  · obtain ⟨hhost, v, hv, hsplit', hquery⟩ := exists_split_trimmed hu hscheme hsplit
    rw [serverName_of_hasMark hmark hv hsplit', Except.ok.injEq, and_iff_right hmark]
    rcases hquery with ⟨hquery, hends⟩ | ⟨hends, blanks, hne, hblanks, hquery⟩
    · rw [hquery]
      exact iff_of_true rfl fun hnames => hends (hquery ▸ hnames.1)
    · have hnames := namedLast_names v.query.toList hblanks hne hhost
      rw [String.ofList_toList] at hnames
      rw [hquery, eq_comm, hnames, NamesBlanks, String.toList_ofList]
      exact not_congr (and_iff_right (hquery ▸ hends)).symm
  · exact iff_of_false (serverName_ne_of_not_hasMark hmark hu hscheme hsplit) fun h => hmark h.1

/-- The name that a probe asks for is the name to verify, on every network, if and only if the target has the mark of a
URL as it stands and no blank of its end is taken for a part of the name. -/
theorem probed_name_verified_iff {σ : Type} (net : Network σ) {target : String} {s : σ}
    (hdials : (Probe.run net target s).trace.dials ≠ []) :
    ∃ u hp, Url.split target = .ok u ∧ HostPort.split u.authority = .ok hp ∧
      (∀ asked ∈ (Probe.run net target s).trace.serverNames, asked = (namedBy? u.query).getD hp.host) ∧
      (serverName target = .ok ((namedBy? u.query).getD hp.host) ↔ HasMark target ∧ ¬ NamesBlanks target u.query) := by
  obtain ⟨_, _, ⟨u, hp, hu, hscheme, hsplit, rfl, rfl⟩, hasked⟩ := Probe.exists_isEndpoint_of_dials hdials
  have hne : u.scheme ≠ "" := by
    rcases hscheme with h | h <;> rw [h] <;> decide
  exact ⟨u, hp, hu, hsplit, hasked, serverName_eq_iff hu hne hsplit⟩

def sampleWary : Network Unit := ⟨fun _ s => (.ok (.error Probe.sampleAlert), s)⟩

theorem probed_name_verified_sample :
    (Probe.run sampleWary " tcp://[::1]:443/a?sni=&sni=api%2Einternal+&sni=b #c " ()).trace.dials ≠ [] ∧
      (Probe.run sampleWary " tcp://[::1]:443/a?sni=&sni=api%2Einternal+&sni=b #c " ()).trace.serverNames =
        ["api.internal "] ∧
      serverName " tcp://[::1]:443/a?sni=&sni=api%2Einternal+&sni=b #c " = .ok "api.internal " := by
  have hdials : (Probe.run sampleWary " tcp://[::1]:443/a?sni=&sni=api%2Einternal+&sni=b #c " ()).trace.dials ≠ [] := by
    decide +kernel
  have hnames : (Probe.run sampleWary " tcp://[::1]:443/a?sni=&sni=api%2Einternal+&sni=b #c " ()).trace.serverNames =
      ["api.internal "] := by
    decide +kernel
  obtain ⟨u, hp, hu, hsplit, hasked, hiff⟩ := probed_name_verified_iff sampleWary hdials
  rw [hnames] at hasked
  rw [← hasked "api.internal " (List.mem_singleton_self _)] at hiff
  refine ⟨hdials, hnames, hiff.mpr ⟨?_, ?_⟩⟩
  · exact Text.contains_iff_isInfix.mp (by decide +kernel)
  · rintro ⟨⟨hfragment, -⟩, -⟩
    exact hfragment (by decide +kernel)

/-- A space behind a target is taken for a part of the name that is asked for, and not of the one that is verified. -/
theorem exists_probed_name_unverified :
    ¬ ∀ (net : Network Unit) (target : String) (s : Unit), (Probe.run net target s).trace.dials ≠ [] →
      ∀ asked ∈ (Probe.run net target s).trace.serverNames, serverName target = .ok asked := by
  intro h
  have hverified := h sampleWary "tcp://10.0.0.5:8443?sni=api.internal " () (by decide +kernel) "api.internal "
    (by decide +kernel)
  have hname : serverName "tcp://10.0.0.5:8443?sni=api.internal " = .ok "api.internal" := by decide +kernel
  rw [hname] at hverified
  exact absurd (Except.ok.inj hverified) (by decide)

end Target

end CertInventory
