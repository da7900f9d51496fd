import CertInventory.Proofs.Target.Address
import CertInventory.Proofs.Target.Query
import CertInventory.Proofs.Text.Numeral
import CertInventory.Target.HostPort
import CertInventory.Target.Url

/-!
Authorities with blanks behind them. Where one of them names an endpoint and is in order, so does and is the authority
without the blanks (`checkAuthority_of_append_blanks`), although blanks may count where the brackets are the wrong way
around. A host is never made of blanks alone (`exists_mem_host`).
-/

namespace CertInventory

namespace HostPort

variable {address : String} {hp : HostPort}

theorem split_eq_ok_iff : split address = .ok hp ↔
    ∃ port n, cut? (Text.trim address.toList) = some (hp.host.toList, port) ∧ Text.integer? port = some n ∧
      hp.host ≠ "" ∧ 0 < n ∧ n < 65536 ∧ hp.port = n.toNat := by
  unfold split
  cases cut? (Text.trim address.toList) with
  | none => simp
  | some cut =>
    obtain ⟨front, port⟩ := cut
    cases hport : Text.integer? port with
    | none => simp [hport]
    | some n =>
      have hempty : front.isEmpty = true ↔ String.ofList front = "" := by
        rw [List.isEmpty_iff, String.ofList_eq_empty_iff]
      simp only [hport, hempty, Option.some.injEq, Prod.mk.injEq]
      constructor
      · intro h
        split_ifs at h with hbad
        cases h
        refine ⟨port, n, ⟨String.toList_ofList.symm, rfl⟩, hport, fun h => hbad (.inl h), ?_, ?_, rfl⟩ <;> omega
      · rintro ⟨port, m, ⟨rfl, rfl⟩, hm, hne, hlow, hhigh, hnumber⟩
        obtain rfl : n = m := Option.some.inj (hport.symm.trans hm)
        have hgood : ¬ (hp.host = "" ∨ n ≤ 0 ∨ 65536 ≤ n) := by
          rintro (h | h | h)
          · exact hne h
          all_goals omega
        rw [String.ofList_toList, if_neg hgood, ← hnumber]

/-- The text of an endpoint: its port is a literal, behind a bracketed host or behind the last colon. -/
theorem exists_of_split (h : split address = .ok hp) :
    hp.host ≠ "" ∧ ∃ port n, Text.integer? port = some n ∧
      (Text.trim address.toList = '[' :: (hp.host.toList ++ ']' :: ':' :: port) ∨
        Text.trim address.toList = hp.host.toList ++ ':' :: port) := by
  obtain ⟨port, n, hcut, hport, hne, -⟩ := split_eq_ok_iff.mp h
  refine ⟨hne, port, n, hport, ?_⟩
  unfold cut? at hcut
  split at hcut
  · rename_i r htrim
    split at hcut
    · rename_i host' port' hbracket
      cases hcut
      rw [htrim, (Text.cutFirst_eq_some_iff.mp hbracket).1]
      exact .inl rfl
    · cases hcut
  · exact .inr (Text.cutLast?_eq_some_iff.mp hcut).1

/-- Blanks around an endpoint do not count. -/
theorem split_of_trim_eq (h : split address = .ok hp) {other : String}
    (htrim : Text.trim other.toList = Text.trim address.toList) : split other = .ok hp := by
  rw [split_eq_ok_iff] at h ⊢
  rwa [htrim]

theorem not_mem_port {port : List Char} {n : Int} (h : Text.integer? port = some n) {d : Char}
    (hd : Text.isWhiteSpace d = false ∧ ¬ Text.IsNumeralChar d) : d ∉ port := by
  intro hmem
  rcases Text.isNumeralChar_of_integer? h d hmem with hspace | hchar
  · exact Bool.noConfusion (hspace.symm.trans hd.1)
  · exact hd.2 hchar

theorem ne_empty_of_split (h : split address = .ok hp) : address ≠ "" := by
  rintro rfl
  cases h

/-- A host has the slashes of the whole endpoint. -/
theorem countP_host (h : split address = .ok hp) :
    hp.host.toList.countP Query.spellsSlash = address.toList.countP Query.spellsSlash := by
  obtain ⟨-, port, n, hport, htrim⟩ := exists_of_split h
  have hnone : port.countP Query.spellsSlash = 0 := by
    rw [List.countP_eq_zero]
    intro c hc hslash
    rcases Bool.or_eq_true_iff.mp hslash with hslash | hslash
    · exact not_mem_port hport (d := '/') ⟨by decide, by decide⟩ (beq_iff_eq.mp hslash ▸ hc)
    · exact not_mem_port hport (d := '%') ⟨by decide, by decide⟩ (beq_iff_eq.mp hslash ▸ hc)
  rw [← Text.countP_trim (fun c => Query.spellsSlash_of_isBlank) address.toList]
  rcases htrim with htrim | htrim
  · rw [htrim, List.countP_cons_of_neg (by decide), List.countP_append, List.countP_cons_of_neg (by decide),
      List.countP_cons_of_neg (by decide), hnone, Nat.add_zero]
  · rw [htrim, List.countP_append, List.countP_cons_of_neg (by decide), hnone, Nat.add_zero]

end HostPort

namespace Url

def behindUser (authority : List Char) : List Char :=
  match Text.cutLast? '@' authority with
  | some (_, r) => r
  | none => authority

theorem behindUser_append {m : List Char} (h : '@' ∉ m) (l : List Char) : behindUser (l ++ m) = behindUser l ++ m := by
  by_cases hl : '@' ∈ l
  · obtain ⟨before, r, hcut⟩ : ∃ before r, Text.cutLast? '@' l = some (before, r) := by
      cases hcut : Text.cutLast? '@' l with
      | none => exact absurd hl (Text.cutLast?_eq_none_iff.mp hcut)
      | some cut => exact ⟨cut.1, cut.2, rfl⟩
    obtain ⟨rfl, hr⟩ := Text.cutLast?_eq_some_iff.mp hcut
    have hmore : '@' ∉ r ++ m := fun hmem => (List.mem_append.mp hmem).elim hr h
    rw [behindUser, behindUser, hcut, List.append_assoc, List.cons_append, Text.cutLast?_append_cons hmore]
  · have hmore : '@' ∉ l ++ m := fun hmem => (List.mem_append.mp hmem).elim hl h
    rw [behindUser, behindUser, Text.cutLast?_eq_none_iff.mpr hl, Text.cutLast?_eq_none_iff.mpr hmore]

def heldBehind (r : List Char) : Except UrlError (List Char) :=
  match Text.cutFirst ']' r with
  | (host, none) | (host, some []) | (host, some (':' :: _)) => .ok host
  | _ => .error .unbalancedBrackets

/-- What stands behind a colon is of no account for what brackets hold, or it is the end of that. -/
theorem heldBehind_append (r : List Char) :
    (∃ outcome, ∀ m, heldBehind (r ++ ':' :: m) = outcome) ∨
      ∀ m, ']' ∉ m → heldBehind (r ++ ':' :: m) = .ok (r ++ ':' :: m) := by
  by_cases hclose : ']' ∈ r
  · obtain ⟨host, behind, rfl, hhost⟩ := List.eq_append_cons_of_mem hclose
    have hcut (m : List Char) :
        Text.cutFirst ']' (host ++ ']' :: behind ++ ':' :: m) = (host, some (behind ++ ':' :: m)) := by
      rw [List.append_assoc, List.cons_append, Text.cutFirst_append_cons hhost]
    left
    simp only [heldBehind, hcut]
    cases behind with
    | nil => exact ⟨.ok host, fun m => rfl⟩
    | cons c behind =>
      by_cases hc : c = ':'
      · exact ⟨.ok host, fun m => by rw [hc]; rfl⟩
      · exact ⟨.error .unbalancedBrackets, fun m => by simp [hc]⟩
  · refine .inr fun m hm => ?_
    have hmore : ']' ∉ r ++ ':' :: m := fun hmem => (List.mem_append.mp hmem).elim hclose
      (List.not_mem_cons_of_ne_of_not_mem (by decide) hm)
    rw [heldBehind, Text.cutFirst_of_not_mem hmore]

theorem bracketedHost_eq (authority : List Char) :
    bracketedHost authority =
      match Text.cutFirst '[' (behindUser authority) with
      | (_ :: _, some _) => .error .unbalancedBrackets
      | ([], some r) => heldBehind r
      | (_, none) => .ok (Text.cutFirst ':' (behindUser authority)).1 := rfl

/-- What stands behind the last colon of an authority, if it has no delimiters, is of no account for its host, unless
the brackets are the wrong way around, so that it is the end of what they hold. -/
theorem bracketedHost_append (front : List Char) :
    (∃ outcome, ∀ m, '@' ∉ m → '[' ∉ m → ']' ∉ m → bracketedHost (front ++ ':' :: m) = outcome) ∨
    ∃ inner, ∀ m, '@' ∉ m → '[' ∉ m → ']' ∉ m → bracketedHost (front ++ ':' :: m) = .ok (inner ++ ':' :: m) := by
  have hplace {m : List Char} (hat : '@' ∉ m) : behindUser (front ++ ':' :: m) = behindUser front ++ ':' :: m :=
    behindUser_append (List.not_mem_cons_of_ne_of_not_mem (by decide) hat) front
  by_cases hopen : '[' ∈ behindUser front
  · obtain ⟨before, r, hfront, hbefore⟩ := List.eq_append_cons_of_mem hopen
    have hcut {m : List Char} (hat : '@' ∉ m) :
        Text.cutFirst '[' (behindUser (front ++ ':' :: m)) = (before, some (r ++ ':' :: m)) := by
      rw [hplace hat, hfront, List.append_assoc, List.cons_append, Text.cutFirst_append_cons hbefore]
    cases before with
    | cons c before =>
      refine .inl ⟨.error .unbalancedBrackets, fun m hat _ _ => ?_⟩
      rw [bracketedHost_eq, hcut hat]
    | nil =>
      rcases heldBehind_append r with ⟨outcome, houtcome⟩ | hend
      · refine .inl ⟨outcome, fun m hat _ _ => ?_⟩
        rw [bracketedHost_eq, hcut hat]
        exact houtcome m
      · refine .inr ⟨r, fun m hat _ hm => ?_⟩
        rw [bracketedHost_eq, hcut hat]
        exact hend m hm
  · refine .inl ⟨.ok (Text.cutFirst ':' (behindUser front)).1, fun m hat hm _ => ?_⟩
    have hmore : '[' ∉ behindUser front ++ ':' :: m := fun hmem => (List.mem_append.mp hmem).elim hopen
      (List.not_mem_cons_of_ne_of_not_mem (by decide) hm)
    rw [bracketedHost_eq, hplace hat, Text.cutFirst_of_not_mem hmore, Text.fst_cutFirst_append_cons]
    cases behindUser front ++ ':' :: m <;> rfl

theorem isFutureAddress_cons (r : List Char) :
    isFutureAddress ('v' :: r) =
      match r.takeWhile (fun c => (Text.hexDigit? c).isSome), r.dropWhile (fun c => (Text.hexDigit? c).isSome) with
      | _ :: _, '.' :: _ :: _ => true
      | _, _ => false := rfl

/-- What stands behind a colon is of no account for the name of a future address version. -/
theorem isFutureAddress_append (inner m m' : List Char) :
    isFutureAddress (inner ++ ':' :: m) = isFutureAddress (inner ++ ':' :: m') := by
  have hruns (r m : List Char) :=
    Text.takeWhile_append_cons (p := fun c => (Text.hexDigit? c).isSome) (d := ':') rfl r m
  cases inner with
  | nil => rfl
  | cons c r =>
    rw [List.cons_append, List.cons_append]
    by_cases hc : c = 'v'
    · subst hc
      rw [isFutureAddress_cons, isFutureAddress_cons, (hruns r m).1, (hruns r m).2, (hruns r m').1, (hruns r m').2]
      cases r.takeWhile fun c => (Text.hexDigit? c).isSome with
      | nil => rfl
      | cons _ _ =>
        cases r.dropWhile fun c => (Text.hexDigit? c).isSome with
        | nil => rfl
        | cons d rest =>
          by_cases hd : d = '.'
          · subst hd
            cases rest <;> rfl
          · simp [hd]
    · simp [isFutureAddress, hc]

theorem not_isAddressChar_of_isBlank {c : Char} (h : Text.isBlank c = true) : ¬ Address.IsAddressChar c := by
  have hinert := Query.isInert_of_isBlank h
  rintro (hdigit | rfl | rfl)
  · rw [hinert.2.2] at hdigit
    cases hdigit
  · cases h
  · cases h

/-- Blanks behind a colon and a port can only stand in the zone of an address. -/
theorem exists_read?_of_append {inner port behind : List Char} {bits : Nat} {zone : Option String} (hport : '%' ∉ port)
    (hbehind : ∀ c ∈ behind, Text.isBlank c = true)
    (h : Address.read? (inner ++ ':' :: (port ++ behind)) = some (.v6 bits zone)) :
    ∃ shorter, Address.read? (inner ++ ':' :: port) = some (.v6 bits shorter) := by
  obtain ⟨hslash, hbits | ⟨body, z, hcs, hbody, hz, -, hbits⟩⟩ := Address.exists_of_read? h
  · cases behind with
    | nil =>
      rw [List.append_nil] at h
      exact ⟨zone, h⟩
    | cons c behind =>
      have hc : c ∈ inner ++ ':' :: (port ++ c :: behind) := by simp
      exact absurd (Address.isAddressChar_of_v6Bits? hbits c hc)
        (not_isAddressChar_of_isBlank (hbehind c List.mem_cons_self))
  · -- The port and the blanks behind it are the end of the zone.
    have hlater : '%' ∉ ':' :: (port ++ behind) :=
      List.not_mem_cons_of_ne_of_not_mem (by decide) fun hmem =>
        (List.mem_append.mp hmem).elim hport (Text.not_mem_of_isBlank hbehind (by decide))
    obtain ⟨i, rfl, rfl⟩ : ∃ i, inner = body ++ '%' :: i ∧ z = i ++ ':' :: (port ++ behind) := by
      rcases List.append_eq_append_iff.mp hcs with ⟨m, -, hm⟩ | ⟨m, rfl, hm⟩
      · exact absurd (hm ▸ List.mem_append_right m List.mem_cons_self) hlater
      · rcases List.cons_eq_append_iff.mp hm with ⟨rfl, hm⟩ | ⟨i, rfl, hz⟩
        · cases hm
        · exact ⟨i, rfl, hz⟩
    have hzone : i ++ ':' :: port <+: i ++ ':' :: (port ++ behind) := ⟨behind, by simp⟩
    have htext : body ++ '%' :: (i ++ ':' :: port) <+: body ++ '%' :: i ++ ':' :: (port ++ behind) :=
      ⟨behind, by simp⟩
    rw [List.append_assoc, List.cons_append]
    exact ⟨_, Address.read?_of_zone (fun hmem => hslash (htext.subset hmem)) (by simp) hbody
      (fun hmem => hz (hzone.subset hmem)) (by simp) hbits⟩

theorem checkBracketed_eq_ok_iff {host : List Char} (h : host.head? ≠ some 'v') :
    checkBracketed host = .ok () ↔ ∃ bits zone, Address.read? host = some (.v6 bits zone) := by
  rw [checkBracketed, if_neg h]
  cases Address.read? host with
  | none => simp
  | some a => cases a <;> simp

/-- Blanks behind a colon and a port are of no account for what brackets hold. -/
theorem checkBracketed_of_append {inner port behind : List Char} (hport : '%' ∉ port)
    (hbehind : ∀ c ∈ behind, Text.isBlank c = true)
    (h : checkBracketed (inner ++ ':' :: (port ++ behind)) = .ok ()) :
    checkBracketed (inner ++ ':' :: port) = .ok () := by
  have hhead : (inner ++ ':' :: (port ++ behind)).head? = (inner ++ ':' :: port).head? := by
    cases inner <;> rfl
  by_cases hfuture : (inner ++ ':' :: port).head? = some 'v'
  · rw [checkBracketed, hhead, if_pos hfuture, isFutureAddress_append inner (port ++ behind) port] at h
    rwa [checkBracketed, if_pos hfuture]
  · obtain ⟨bits, zone, hread⟩ := (checkBracketed_eq_ok_iff (hhead ▸ hfuture)).mp h
    exact (checkBracketed_eq_ok_iff hfuture).mpr ⟨bits, exists_read?_of_append hport hbehind hread⟩

theorem checkBrackets_of_append {front port behind : List Char} (hport : ∀ d ∈ ['@', '[', ']', '%'], d ∉ port)
    (hbehind : ∀ c ∈ behind, Text.isBlank c = true)
    (h : checkBrackets (front ++ ':' :: (port ++ behind)) = .ok ()) :
    checkBrackets (front ++ ':' :: port) = .ok () := by
  have hblank {d : Char} (hd : Text.isBlank d = false) : d ∉ behind := Text.not_mem_of_isBlank hbehind hd
  have hfree {d : Char} (hd : d ∈ ['@', '[', ']', '%']) (hd' : Text.isBlank d = false) : d ∉ port ++ behind :=
    fun hmem => (List.mem_append.mp hmem).elim (hport d hd) (hblank hd')
  have hsame {d : Char} (hd : Text.isBlank d = false) :
      (front ++ ':' :: (port ++ behind)).contains d = (front ++ ':' :: port).contains d := by
    simp [List.contains_eq_mem, hblank hd]
  unfold checkBrackets at h ⊢
  rw [hsame (by decide), hsame (by decide)] at h
  revert h
  cases (front ++ ':' :: port).contains '[' with
  | false => cases (front ++ ':' :: port).contains ']' <;> exact id
  | true =>
    cases (front ++ ':' :: port).contains ']' with
    | false => exact id
    | true =>
      intro h
      have hat := hfree (d := '@') (by decide) (by decide)
      have hopen := hfree (d := '[') (by decide) (by decide)
      have hclose := hfree (d := ']') (by decide) (by decide)
      have hport' {d : Char} (hd : d ∈ ['@', '[', ']', '%']) : d ∉ port := hport d hd
      dsimp only at h ⊢
      rcases bracketedHost_append front with ⟨outcome, hall⟩ | ⟨inner, hall⟩
      · rw [hall _ hat hopen hclose] at h
        rwa [hall port (hport' (by decide)) (hport' (by decide)) (hport' (by decide))]
      · rw [hall _ hat hopen hclose] at h
        rw [hall port (hport' (by decide)) (hport' (by decide)) (hport' (by decide))]
        exact checkBracketed_of_append (hport' (by decide)) hbehind h

theorem checkAuthority_eq_ok_iff {authority : List Char} : checkAuthority authority = .ok () ↔
    checkBrackets authority = .ok () ∧ ∀ c ∈ authority, c.toNat ∉ hiddenDelimiters := by
  have hhidden : (authority.any fun c => hiddenDelimiters.contains c.toNat) = false ↔
      ∀ c ∈ authority, c.toNat ∉ hiddenDelimiters := by
    simp only [List.any_eq_false, List.contains_iff_mem]
  unfold checkAuthority
  cases checkBrackets authority with
  | error e => exact iff_of_false nofun fun h => nomatch h.1
  | ok _ =>
    cases hany : authority.any fun c => hiddenDelimiters.contains c.toNat with
    | true => exact iff_of_false nofun fun h => Bool.noConfusion (hany.symm.trans (hhidden.mpr h.2))
    | false => exact iff_of_true rfl ⟨rfl, hhidden.mp hany⟩

/-- An authority without blanks behind its port is in order where the one with them is. -/
theorem checkAuthority_of_append {front port behind : List Char}
    (hport : ∀ d ∈ ['@', '[', ']', '%'], d ∉ port) (hbehind : ∀ c ∈ behind, Text.isBlank c = true)
    (h : checkAuthority (front ++ ':' :: (port ++ behind)) = .ok ()) :
    checkAuthority (front ++ ':' :: port) = .ok () := by
  rw [checkAuthority_eq_ok_iff] at h ⊢
  have hpart : front ++ ':' :: port <+: front ++ ':' :: (port ++ behind) := ⟨behind, by simp⟩
  exact ⟨checkBrackets_of_append hport hbehind h.1, fun c hc => h.2 c (hpart.subset hc)⟩

/-- An endpoint is a text with a colon behind which nothing stands that delimits the parts of an authority. -/
theorem exists_port {authority : List Char} {hp : HostPort} (h : HostPort.split (String.ofList authority) = .ok hp) :
    ∃ front port, authority = front ++ ':' :: port ∧ ∀ d ∈ ['@', '[', ']', '%'], d ∉ port := by
  obtain ⟨-, port, n, hport, htrim⟩ := HostPort.exists_of_split h
  obtain ⟨before, behind, hauthority, -, hbehind, -⟩ := Text.exists_trim authority
  have hfree : ∀ d ∈ ['@', '[', ']', '%'], d ∉ port ++ behind := by
    have hdelimiters : ∀ d ∈ ['@', '[', ']', '%'],
        Text.isBlank d = false ∧ Text.isWhiteSpace d = false ∧ ¬ Text.IsNumeralChar d := by
      intro d hd
      simp only [List.mem_cons, List.not_mem_nil, or_false] at hd
      rcases hd with rfl | rfl | rfl | rfl <;> exact ⟨by decide, by decide, by decide⟩
    intro d hd hmem
    obtain ⟨hblank, hother⟩ := hdelimiters d hd
    exact (List.mem_append.mp hmem).elim (HostPort.not_mem_port hport hother) (Text.not_mem_of_isBlank hbehind hblank)
  rw [String.toList_ofList] at htrim
  rcases htrim with htrim | htrim
  · refine ⟨before ++ '[' :: (hp.host.toList ++ [']']), port ++ behind, ?_, hfree⟩
    conv_lhs => rw [hauthority, htrim]
    simp
  · refine ⟨before ++ hp.host.toList, port ++ behind, ?_, hfree⟩
    conv_lhs => rw [hauthority, htrim]
    simp

theorem checkAuthority_of_append_blanks {authority behind : List Char} {hp : HostPort}
    (hsplit : HostPort.split (String.ofList authority) = .ok hp) (hbehind : ∀ c ∈ behind, Text.isBlank c = true)
    (h : checkAuthority (authority ++ behind) = .ok ()) : checkAuthority authority = .ok () := by
  obtain ⟨front, port, rfl, hport⟩ := exists_port hsplit
  rw [List.append_assoc, List.cons_append] at h
  exact checkAuthority_of_append hport hbehind h

theorem checkBracketed_of_blank {host : List Char} (hne : host ≠ []) (hhost : ∀ c ∈ host, Text.isBlank c = true) :
    checkBracketed host ≠ .ok () := by
  obtain ⟨c, r, rfl⟩ := List.exists_cons_of_ne_nil hne
  have hc : Text.isBlank c = true := hhost c List.mem_cons_self
  have hv : (c :: r).head? ≠ some 'v' := by
    rintro ⟨⟩
    cases hc
  intro h
  obtain ⟨bits, zone, hread⟩ := (checkBracketed_eq_ok_iff hv).mp h
  obtain ⟨-, hbits | ⟨body, z, hcs, -⟩⟩ := Address.exists_of_read? hread
  · exact not_isAddressChar_of_isBlank hc (Address.isAddressChar_of_v6Bits? hbits c List.mem_cons_self)
  · have hpercent : '%' ∈ c :: r := hcs ▸ List.mem_append_right body List.mem_cons_self
    cases hhost '%' hpercent

/-- A host of blanks alone is refused, also in brackets. -/
theorem exists_mem_host {authority : List Char} {hp : HostPort} (hchecked : checkAuthority authority = .ok ())
    (hsplit : HostPort.split (String.ofList authority) = .ok hp) : ∃ c ∈ hp.host.toList, Text.isBlank c = false := by
  obtain ⟨hne, port, n, hport, htrim⟩ := HostPort.exists_of_split hsplit
  obtain ⟨before, behind, hauthority, hbefore, hbehind, hfirst, -⟩ := Text.exists_trim authority
  have hnil : hp.host.toList ≠ [] := mt String.toList_eq_nil_iff.mp hne
  rw [String.toList_ofList] at htrim
  by_contra hnone
  have hhost : ∀ c ∈ hp.host.toList, Text.isBlank c = true := by
    simpa using hnone
  rcases htrim with htrim | htrim
  · have htext : authority = before ++ '[' :: (hp.host.toList ++ ']' :: ':' :: (port ++ behind)) := by
      conv_lhs => rw [hauthority, htrim]
      simp
    have hat : '@' ∉ authority := by
      have hpart : '@' ∉ before ∧ '@' ∉ hp.host.toList ∧ '@' ∉ port ∧ '@' ∉ behind :=
        ⟨Text.not_mem_of_isBlank hbefore (by decide), Text.not_mem_of_isBlank hhost (by decide),
          HostPort.not_mem_port hport ⟨by decide, by decide⟩, Text.not_mem_of_isBlank hbehind (by decide)⟩
      simp [htext, hpart]
    have hbrackets := (checkAuthority_eq_ok_iff.mp hchecked).1
    have hopen : authority.contains '[' = true := by simp [htext]
    have hclose : authority.contains ']' = true := by simp [htext]
    rw [checkBrackets, hopen, hclose, bracketedHost, Text.cutLast?_eq_none_iff.mpr hat] at hbrackets
    dsimp only at hbrackets
    rw [htext, Text.cutFirst_append_cons (Text.not_mem_of_isBlank hbefore (by decide))] at hbrackets
    cases before with
    | cons c before => cases hbrackets
    | nil =>
      dsimp only at hbrackets
      rw [Text.cutFirst_append_cons (Text.not_mem_of_isBlank hhost (by decide))] at hbrackets
      exact checkBracketed_of_blank hnil hhost hbrackets
  · obtain ⟨c, r, hc⟩ := List.exists_cons_of_ne_nil hnil
    rw [hc] at hhost htrim
    rw [htrim] at hfirst
    exact Bool.noConfusion ((hhost c List.mem_cons_self).symm.trans (hfirst c rfl))

end Url

end CertInventory
