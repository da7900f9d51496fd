import CertInventory.Proofs.Probe.Retry
import CertInventory.Proofs.Target.Url
import Mathlib.Data.Bool.AllAny

/-!
Written targets. A target that is written for a plain host and a port splits into the parts that it was written from,
and an escaped name behind it comes back whatever characters it has. So the name to verify is the one that was given,
or else the host, and a probe dials the host and port and nothing else (`format_probed_as_given`).
-/

namespace CertInventory

namespace Url

/-- A character that stands in a URL as it is: no blank, no control character, and none that hides a delimiter. -/
def IsVisible (c : Char) : Prop := 0x21 ≤ c.toNat ∧ c.toNat ≤ 0x7E

instance (c : Char) : Decidable (IsVisible c) := inferInstanceAs (Decidable (_ ∧ _))

theorem IsVisible.isBlank {c : Char} (h : IsVisible c) : Text.isBlank c = false := by
  obtain ⟨hlow, hhigh⟩ := h
  rw [Bool.eq_false_iff]
  intro hblank
  have hbounds := Text.toNat_of_isBlank hblank
  omega

end Url

/-- A character of a plain host name: an ASCII letter or digit, or one of `-._`. -/
def IsHostChar (c : Char) : Prop :=
  0x61 ≤ c.toNat ∧ c.toNat ≤ 0x7A ∨ 0x41 ≤ c.toNat ∧ c.toNat ≤ 0x5A ∨ 0x30 ≤ c.toNat ∧ c.toNat ≤ 0x39 ∨
    c = '-' ∨ c = '.' ∨ c = '_'

instance (c : Char) : Decidable (IsHostChar c) := inferInstanceAs (Decidable (_ ∨ _))

namespace IsHostChar

variable {c d : Char}

theorem bounds (h : IsHostChar c) : 0x2D ≤ c.toNat ∧ c.toNat ≤ 0x7A := by
  rcases h with h | h | h | rfl | rfl | rfl
  · omega
  · omega
  · omega
  all_goals decide

theorem ne (h : IsHostChar c) (hd : ¬ IsHostChar d) : c ≠ d := by
  rintro rfl
  exact hd h

theorem hexChar : ∀ {n : Nat}, n < 10 → IsHostChar (Text.hexChar n) := by decide

theorem of_mem_decimal {n : Nat} (h : c ∈ Text.decimal n) : IsHostChar c := by
  obtain ⟨ds, hspells, htext⟩ := Text.exists_spells_decimal n
  rw [htext] at h
  obtain ⟨d, hd, rfl⟩ := List.mem_map.mp h
  exact hexChar (hspells.digit d hd)

end IsHostChar

def plainAuthority (host : List Char) (port : Nat) : List Char := host ++ ':' :: Text.decimal port

section Authority

variable {host : List Char} {port : Nat} {c : Char}

theorem mem_plainAuthority (hhost : ∀ c ∈ host, IsHostChar c) (h : c ∈ plainAuthority host port) :
    IsHostChar c ∨ c = ':' := by
  rcases List.mem_append.mp h with h | h
  · exact .inl (hhost c h)
  · rcases List.mem_cons.mp h with rfl | h
    · exact .inr rfl
    · exact .inl (.of_mem_decimal h)

theorem isVisible_of_mem_plainAuthority (hhost : ∀ c ∈ host, IsHostChar c) (h : c ∈ plainAuthority host port) :
    Url.IsVisible c := by
  obtain h | rfl := mem_plainAuthority hhost h
  · have hbounds := h.bounds
    exact ⟨by omega, by omega⟩
  · decide

theorem HostPort.split_plainAuthority (hne : host ≠ []) (hhost : ∀ c ∈ host, IsHostChar c)
    (hport : 1 ≤ port ∧ port ≤ 65535) :
    split (String.ofList (plainAuthority host port)) = .ok ⟨String.ofList host, port⟩ := by
  obtain ⟨first, r, rfl⟩ := List.exists_cons_of_ne_nil hne
  obtain ⟨hfirst, _⟩ := List.forall_mem_cons.mp hhost
  have htrim : Text.trim (plainAuthority (first :: r) port) = plainAuthority (first :: r) port :=
    Text.dropEndWhile_dropWhile_eq_self fun c hc => (isVisible_of_mem_plainAuthority hhost hc).isBlank
  have hcolon : ':' ∉ Text.decimal port := fun h => (IsHostChar.of_mem_decimal h).ne (by decide) rfl
  have hcut : cut? (plainAuthority (first :: r) port) = some (first :: r, Text.decimal port) := by
    unfold cut?
    split
    · rename_i h
      exact absurd (List.cons.inj h).1 (hfirst.ne (by decide))
    · exact Text.cutLast?_append_cons hcolon (first :: r)
  have hlength : (Text.decimal port).length ≤ 5 :=
    Text.length_decimal_le (by decide) (Nat.lt_of_le_of_lt hport.2 (by decide))
  have hrange : ¬ ((first :: r).isEmpty ∨ (port : Int) ≤ 0 ∨ 65536 ≤ (port : Int)) := by
    rintro (hempty | hlow | hhigh)
    · cases hempty
    · omega
    · omega
  rw [split, String.toList_ofList, htrim, hcut]
  dsimp only
  rw [Text.integer?_decimal (hlength.trans (by decide))]
  dsimp only
  rw [if_neg hrange, Int.toNat_natCast]

end Authority

namespace Url

theorem cleaned_of_visible {cs : List Char} (h : ∀ c ∈ cs, IsVisible c) : cleaned cs = cs := by
  have hfront : cs.dropWhile (fun c => c.toNat ≤ 0x20) = cs := by
    refine Text.dropWhile_eq_iff.mpr ⟨[], rfl, nofun, fun c hc => ?_⟩
    have hlow := (h c (List.mem_of_mem_head? hc)).1
    exact decide_eq_false (by omega)
  rw [cleaned, hfront]
  refine List.filter_eq_self.mpr fun c hc => ?_
  have hne (d : Char) (hd : ¬ IsVisible d) : c ≠ d := by
    rintro rfl
    exact hd (h c hc)
  simp only [Bool.and_eq_true, bne_iff_ne]
  exact ⟨⟨hne '\t' (by decide), hne '\r' (by decide)⟩, hne '\n' (by decide)⟩

theorem checkAuthority_of_visible {authority : List Char} (hvisible : ∀ c ∈ authority, IsVisible c)
    (hopen : '[' ∉ authority) (hclose : ']' ∉ authority) : checkAuthority authority = .ok () := by
  have hhidden : (authority.any fun c => hiddenDelimiters.contains c.toNat) = false := by
    rw [List.any_eq_false]
    intro c hc
    have hfar : ∀ n ∈ hiddenDelimiters, 0x7E < n := by decide
    rw [List.contains_iff_mem]
    exact fun h => absurd (hfar _ h) (Nat.not_lt.mpr (hvisible c hc).2)
  have hbrackets : checkBrackets authority = .ok () := by
    rw [checkBrackets, List.contains_eq_mem, List.contains_eq_mem, decide_eq_false hopen, decide_eq_false hclose]
  rw [checkAuthority, hbrackets, hhidden]
  rfl

/-- The text behind an authority that asks for a query; nothing where it is empty. -/
def behindAuthority (query : List Char) : List Char := if query = [] then [] else '?' :: query

theorem queryIn_behindAuthority {query : List Char} (hfragment : '#' ∉ query) :
    queryIn (behindAuthority query) = query := by
  unfold queryIn behindAuthority
  split_ifs with hquery
  · exact hquery.symm
  · have hfree : '#' ∉ '?' :: query := List.not_mem_cons_of_ne_of_not_mem (by decide) hfragment
    rw [Text.cutFirst_of_not_mem hfree, Text.cutFirst, if_pos rfl]
    rfl

theorem endsAuthority_of_behindAuthority (query : List Char) :
    ∀ c ∈ (behindAuthority query).head?, endsAuthority c = true := by
  unfold behindAuthority
  split_ifs
  · nofun
  · rintro c ⟨⟩
    rfl

def tcpText (authority query : List Char) : List Char :=
  "tcp".toList ++ ':' :: '/' :: '/' :: (authority ++ behindAuthority query)

theorem isVisible_of_mem_tcpText {authority query : List Char} (hauthority : ∀ c ∈ authority, IsVisible c)
    (hquery : ∀ c ∈ query, IsVisible c) : ∀ c ∈ tcpText authority query, IsVisible c := by
  have hbehind : ∀ c ∈ behindAuthority query, IsVisible c := by
    unfold behindAuthority
    split_ifs
    · nofun
    · exact List.forall_mem_cons.mpr ⟨by decide, hquery⟩
  have hscheme : ∀ c ∈ "tcp".toList, IsVisible c := List.all_iff_forall_prop.mp (by decide)
  have hslash : IsVisible '/' := by decide
  refine List.forall_mem_append.mpr ⟨hscheme, List.forall_mem_cons.mpr ⟨by decide, ?_⟩⟩
  exact List.forall_mem_cons.mpr ⟨hslash, List.forall_mem_cons.mpr ⟨hslash,
    List.forall_mem_append.mpr ⟨hauthority, hbehind⟩⟩⟩

theorem split_tcpText {host query : List Char} (hhost : ∀ c ∈ host, IsHostChar c) (port : Nat)
    (hquery : ∀ c ∈ query, IsVisible c) (hfragment : '#' ∉ query) :
    split (String.ofList (tcpText (plainAuthority host port) query)) =
      .ok ⟨"tcp", String.ofList (plainAuthority host port), String.ofList query⟩ := by
  have hmissing {d : Char} (hd : ¬ IsHostChar d ∧ d ≠ ':') : d ∉ plainAuthority host port :=
    fun h => (mem_plainAuthority hhost h).elim hd.1 hd.2
  have hvisible : ∀ c ∈ plainAuthority host port, IsVisible c :=
    fun c hc => isVisible_of_mem_plainAuthority hhost hc
  have hends : ∀ c ∈ plainAuthority host port, endsAuthority c = false := by
    intro c hc
    have hne (d : Char) (hd : ¬ IsHostChar d ∧ d ≠ ':') : c ≠ d := fun h => hmissing hd (h ▸ hc)
    simp only [endsAuthority, Bool.or_eq_false_iff, beq_eq_false_iff_ne]
    exact ⟨⟨hne '/' (by decide), hne '?' (by decide)⟩, hne '#' (by decide)⟩
  have hcut : IsCut (cleaned (String.ofList (tcpText (plainAuthority host port) query)).toList) "tcp".toList
      (plainAuthority host port) (behindAuthority query) := by
    rw [String.toList_ofList, cleaned_of_visible (isVisible_of_mem_tcpText hvisible hquery)]
    refine ⟨rfl, ⟨'t', ['c', 'p'], rfl, by decide, by decide⟩, hends, endsAuthority_of_behindAuthority query, ?_⟩
    exact checkAuthority_of_visible hvisible (hmissing (by decide)) (hmissing (by decide))
  rw [hcut.split_eq, ofCut, queryIn_behindAuthority hfragment]
  rfl

end Url

namespace Target

variable {host : String} {port : Nat}

/-- The query of a target that asks for a name; nothing where the name is empty. -/
def nameQuery (sni : String) : List Char :=
  if sni = "" then [] else Query.escape "sni".toList ++ '=' :: Query.escape sni.toList

theorem namedBy?_nameQuery (sni : String) :
    namedBy? (String.ofList (nameQuery sni)) = if sni = "" then none else some sni := by
  unfold nameQuery
  split_ifs with hsni
  · rfl
  · have hne : sni.toList ≠ [] := fun h => hsni (String.toList_eq_nil_iff.mp h)
    rw [namedBy?, Query.first?_written "sni" hne, String.ofList_toList]
    dsimp only
    rw [if_neg (mt String.isEmpty_iff.mp hsni)]

theorem mem_nameQuery {sni : String} {c : Char} (h : c ∈ nameQuery sni) : Url.IsVisible c ∧ c ≠ '#' := by
  unfold nameQuery at h
  split_ifs at h
  · cases h
  · have hwritten {cs : List Char} (hc : c ∈ Query.escape cs) : Url.IsVisible c ∧ c ≠ '#' := by
      have hvisible := Query.isWritten_of_mem_escape hc
      have hbounds := hvisible.bounds
      exact ⟨⟨by omega, hbounds.2⟩, hvisible.ne (by decide)⟩
    rcases List.mem_append.mp h with h | h
    · exact hwritten h
    · rcases List.mem_cons.mp h with rfl | h
      · decide
      · exact hwritten h

theorem hostport_eq (host : String) (port : Nat) :
    host ++ ":" ++ Text.showNat port = String.ofList (plainAuthority host.toList port) := by
  rw [← String.toList_inj]
  simp [plainAuthority, Text.showNat]

theorem format_eq (hostport sni : String) :
    format hostport sni = String.ofList (Url.tcpText hostport.toList (nameQuery sni)) := by
  rw [← String.toList_inj, String.toList_ofList, format, Url.tcpText]
  by_cases hsni : sni = ""
  · rw [if_pos (String.isEmpty_iff.mpr hsni), nameQuery, if_pos hsni, Url.behindAuthority, if_pos rfl]
    simp
  · have hname : Query.escape "sni".toList = "sni".toList := by decide
    have hquery : nameQuery sni = "sni".toList ++ '=' :: Query.escape sni.toList := by
      rw [nameQuery, if_neg hsni, hname]
    have hne : nameQuery sni ≠ [] := hquery ▸ List.append_ne_nil_of_right_ne_nil _ (List.cons_ne_nil _ _)
    rw [if_neg (mt String.isEmpty_iff.mp hsni), Url.behindAuthority, if_neg hne, hquery]
    simp

theorem contains_format (hostport sni : String) :
    Text.contains "://".toList (format hostport sni).toList = true := by
  have htext : (format hostport sni).toList = Url.tcpText hostport.toList (nameQuery sni) := by
    rw [format_eq, String.toList_ofList]
  rw [Text.contains_iff_isInfix, htext]
  exact ⟨"tcp".toList, hostport.toList ++ Url.behindAuthority (nameQuery sni), rfl⟩

section Plain

variable (hhost : ∀ c ∈ host.toList, IsHostChar c)

include hhost

theorem split_format (port : Nat) (sni : String) :
    Url.split (format (host ++ ":" ++ Text.showNat port) sni) =
      .ok ⟨"tcp", host ++ ":" ++ Text.showNat port, String.ofList (nameQuery sni)⟩ := by
  rw [format_eq, hostport_eq, String.toList_ofList]
  exact Url.split_tcpText hhost port (fun c hc => (mem_nameQuery hc).1) fun h => (mem_nameQuery h).2 rfl

theorem trimmed_format (port : Nat) (sni : String) :
    Text.trimmed (format (host ++ ":" ++ Text.showNat port) sni) = format (host ++ ":" ++ Text.showNat port) sni := by
  have hvisible : ∀ c ∈ Url.tcpText (plainAuthority host.toList port) (nameQuery sni), Url.IsVisible c :=
    Url.isVisible_of_mem_tcpText (fun c hc => isVisible_of_mem_plainAuthority hhost hc) fun c hc => (mem_nameQuery hc).1
  rw [format_eq, hostport_eq, String.toList_ofList, Text.trimmed, String.toList_ofList, Text.trim,
    Text.dropEndWhile_dropWhile_eq_self fun c hc => (hvisible c hc).isBlank]

theorem split_hostport (hne : host ≠ "") (hport : 1 ≤ port ∧ port ≤ 65535) :
    HostPort.split (host ++ ":" ++ Text.showNat port) = .ok ⟨host, port⟩ := by
  have hnil : host.toList ≠ [] := fun h => hne (String.toList_eq_nil_iff.mp h)
  rw [hostport_eq, HostPort.split_plainAuthority hnil hhost hport, String.ofList_toList]

end Plain

/-- The name to verify and the address to dial are those that a target was written for, whatever characters the name
has; without a name, the host is verified. -/
theorem format_probed_as_given (hne : host ≠ "") (hhost : ∀ c ∈ host.toList, IsHostChar c)
    (hport : 1 ≤ port ∧ port ≤ 65535) (sni : String) :
    let hostport := host ++ ":" ++ Text.showNat port
    let target := format hostport sni
    let name := if sni = "" then host else sni
    serverName target = .ok name ∧ Probe.endpoint target = .ok (hostport, name) ∧
      ∀ {σ : Type} (net : Network σ) (s : σ),
        ∃ k ≤ 2, (Probe.run net target s).trace.dials = List.replicate (k + 1) ⟨5000, "tcp", hostport⟩ := by
  intro hostport target name
  have hurl := split_format hhost port sni
  have hsplit := split_hostport hhost hne hport
  have hname := namedBy?_nameQuery sni
  have hendpoint : Probe.endpoint target = .ok (hostport, name) := by
    refine Probe.endpoint_eq_ok_iff.mpr ⟨_, _, hurl, .inr rfl, hsplit, rfl, ?_⟩
    dsimp only
    rw [hname]
    by_cases hsni : sni = ""
    · simp [name, hsni]
    · simp [name, hsni]
  refine ⟨?_, hendpoint, fun net s => Probe.dials_run (Probe.endpoint_eq_ok_iff.mp hendpoint) s⟩
  rw [serverName, trimmed_format hhost port sni, if_pos (contains_format _ sni), hurl]
  dsimp only
  rw [hname]
  by_cases hsni : sni = ""
  · simp [name, hsni, hostOf, hsplit]
  · simp [name, hsni]

/-- A host with every kind of character, the last port, and a name that is all separators and white space. -/
theorem format_probed_as_given_separators :
    format "edge-1.example_x:65535" " &=+%#;é\n" = "tcp://edge-1.example_x:65535?sni=+%26%3D%2B%25%23%3B%C3%A9%0A" ∧
    serverName "tcp://edge-1.example_x:65535?sni=+%26%3D%2B%25%23%3B%C3%A9%0A" = .ok " &=+%#;é\n" ∧
    Probe.endpoint "tcp://edge-1.example_x:65535?sni=+%26%3D%2B%25%23%3B%C3%A9%0A" =
      .ok ("edge-1.example_x:65535", " &=+%#;é\n") := by
  have hhostport : "edge-1.example_x" ++ ":" ++ Text.showNat 65535 = "edge-1.example_x:65535" := by decide +kernel
  have htarget : format "edge-1.example_x:65535" " &=+%#;é\n" =
      "tcp://edge-1.example_x:65535?sni=+%26%3D%2B%25%23%3B%C3%A9%0A" := by decide +kernel
  have hhost : ∀ c ∈ "edge-1.example_x".toList, IsHostChar c := List.all_iff_forall_prop.mp (by decide)
  obtain ⟨hname, hendpoint, _⟩ :=
    @format_probed_as_given "edge-1.example_x" 65535 (by decide) hhost (by decide) " &=+%#;é\n"
  rw [hhostport, htarget] at hname hendpoint
  exact ⟨htarget, hname, hendpoint⟩

end Target

end CertInventory
