import CertInventory.Proofs.Text.Numeral
import CertInventory.Time.DurationText

/-!
The grammar of duration texts. A list of items is read exactly where the whole text consists of items: digits, perhaps a
point and digits behind it, and a name of a unit (`readAll?_eq_some_iff`). The search tries every way to take digits and
may pass over characters; what it finds is an item all the same, and in a text of items its first try is the item that
stands there, because no name of a unit starts with a digit or a point. The seconds of items are never undefined, so a
text is rejected exactly where it is neither a number nor a list of items (`Duration.parse_rejects_iff`).
-/

namespace CertInventory.Time

/-- At least one decimal digit, of any script, and the values. -/
inductive AreDigits : List Char → List Nat → Prop
  | single {c : Char} {d : Nat} (hdigit : Text.decimalDigit? c = some d) : AreDigits [c] [d]
  | cons {c : Char} {d : Nat} {p : List Char} {ds : List Nat} (hdigit : Text.decimalDigit? c = some d)
      (hmore : AreDigits p ds) : AreDigits (c :: p) (d :: ds)

/-- Text that is empty or starts with a decimal digit. -/
def StartsAnew (cs : List Char) : Prop := ∀ c ∈ cs.head?, (Text.decimalDigit? c).isSome = true

/-- Text whose first character, if it has one, is no decimal digit. -/
def EndsDigits (cs : List Char) : Prop := ∀ c ∈ cs.head?, Text.decimalDigit? c = none

section Digits

variable {cs p r : List Char} {ds : List Nat}

theorem AreDigits.length_pos (h : AreDigits p ds) : 0 < p.length := by
  cases h with
  | single | cons => exact Nat.succ_pos _

theorem AreDigits.startsAnew_append (h : AreDigits p ds) (r : List Char) : StartsAnew (p ++ r) := by
  cases h with
  | single hdigit | cons hdigit =>
    rintro c' ⟨⟩
    exact Option.isSome_of_eq_some hdigit

/-- What is taken off the front is digits. -/
theorem areDigits_of_mem_digitRuns (h : (ds, r) ∈ digitRuns cs) : ∃ p, AreDigits p ds ∧ cs = p ++ r := by
  induction cs generalizing ds with
  | nil => cases h
  | cons c cs ih =>
    rw [digitRuns] at h
    cases hdigit : Text.decimalDigit? c with
    | none =>
      rw [hdigit] at h
      cases h
    | some d =>
      rw [hdigit] at h
      rcases List.mem_append.mp h with h | h
      · obtain ⟨⟨ds', r'⟩, hmem, heq⟩ := List.mem_map.mp h
        cases heq
        obtain ⟨p, hp, rfl⟩ := ih hmem
        exact ⟨c :: p, .cons hdigit hp, rfl⟩
      · cases List.mem_singleton.mp h
        exact ⟨[c], .single hdigit, rfl⟩

/-- All the digits at the front are tried first. -/
theorem digitRuns_append (h : AreDigits p ds) (hr : EndsDigits r) :
    ∃ shorter, digitRuns (p ++ r) = (ds, r) :: shorter := by
  induction h with
  | single hdigit =>
    have hnone : digitRuns r = [] := by
      cases r with
      | nil => rfl
      | cons c r => rw [digitRuns, hr c rfl]
    rw [List.singleton_append, digitRuns, hdigit]
    exact ⟨[], by rw [hnone]; rfl⟩
  | cons hdigit _ ih =>
    obtain ⟨shorter, hruns⟩ := ih
    rw [List.cons_append, digitRuns, hdigit, hruns]
    exact ⟨_, rfl⟩

end Digits

section Fractions

variable {cs p r : List Char} {ds : List Nat}

theorem of_mem_fractionRuns (h : (ds, r) ∈ fractionRuns cs) :
    ds = [] ∧ r = cs ∨ ∃ p, AreDigits p ds ∧ cs = '.' :: (p ++ r) := by
  unfold fractionRuns at h
  split at h
  · rcases List.mem_append.mp h with h | h
    · obtain ⟨p, hp, rfl⟩ := areDigits_of_mem_digitRuns h
      exact .inr ⟨p, hp, rfl⟩
    · cases List.mem_singleton.mp h
      exact .inl ⟨rfl, rfl⟩
  · cases List.mem_singleton.mp h
    exact .inl ⟨rfl, rfl⟩

theorem fractionRuns_of_head (h : ∀ c ∈ r.head?, c ≠ '.') : fractionRuns r = [([], r)] := by
  unfold fractionRuns
  split
  · exact absurd rfl (h '.' rfl)
  · rfl

theorem fractionRuns_point (h : AreDigits p ds) (hr : EndsDigits r) :
    ∃ shorter, fractionRuns ('.' :: (p ++ r)) = (ds, r) :: shorter := by
  obtain ⟨shorter, hruns⟩ := digitRuns_append h hr
  rw [fractionRuns, hruns]
  exact ⟨_, rfl⟩

end Fractions

namespace TimeUnit

def names : TimeUnit → List (List Char)
  | .hour => ["h".toList]
  | .minute => ["m".toList]
  | .second => ["s".toList]
  | .millisecond => ["ms".toList]
  | .microsecond => ["us".toList, "µs".toList]
  | .nanosecond => ["ns".toList]

variable {u : TimeUnit} {name cs r : List Char}

theorem exists_name_of_read? (h : read? cs = some (u, r)) : ∃ name ∈ u.names, cs = name ++ r := by
  unfold read? at h
  split at h <;> cases h
  · exact ⟨['m', 's'], by decide, rfl⟩
  · exact ⟨['u', 's'], by decide, rfl⟩
  · exact ⟨['µ', 's'], by decide, rfl⟩
  · exact ⟨['n', 's'], by decide, rfl⟩
  · exact ⟨['h'], by decide, rfl⟩
  · exact ⟨['m'], by decide, rfl⟩
  · exact ⟨['s'], by decide, rfl⟩

/-- A name starts with a letter that is neither a digit nor a point. -/
theorem head_name (h : name ∈ u.names) : ∃ c, name.head? = some c ∧ Text.decimalDigit? c = none ∧ c ≠ '.' := by
  have hletter : ∀ name ∈ u.names, (name.head?.any fun c => (Text.decimalDigit? c).isNone && c != '.') = true := by
    cases u <;> decide
  obtain ⟨c, hc, hneither⟩ := (Option.any_eq_true _ _).mp (hletter name h)
  rw [Bool.and_eq_true, Option.isNone_iff_eq_none, bne_iff_ne] at hneither
  exact ⟨c, hc, hneither⟩

theorem ends_name_append (h : name ∈ u.names) (r : List Char) :
    EndsDigits (name ++ r) ∧ ∀ c ∈ (name ++ r).head?, c ≠ '.' := by
  obtain ⟨c, hc, hdigit, hpoint⟩ := head_name h
  have hhead : (name ++ r).head? = some c := by rw [List.head?_append, hc, Option.some_or]
  refine ⟨fun d hd => ?_, fun d hd => ?_⟩
  · obtain rfl := Option.some.inj (hhead.symm.trans hd)
    exact hdigit
  · obtain rfl := Option.some.inj (hhead.symm.trans hd)
    exact hpoint

/-- A name is read back where no `s` follows it that would make milliseconds of minutes. -/
theorem read?_name (h : name ∈ u.names) (hr : StartsAnew r) : read? (name ++ r) = some (u, r) := by
  have hs : r.head? ≠ some 's' := fun h => absurd (hr 's' h) (by decide)
  cases u with
  | minute =>
    obtain rfl := List.mem_singleton.mp h
    cases r with
    | nil => rfl
    | cons c r =>
      have hc : c ≠ 's' := fun h => hs (congrArg some h)
      show read? ('m' :: c :: r) = _
      simp [read?, hc]
  | microsecond =>
    rcases List.mem_cons.mp h with rfl | h
    · rfl
    · obtain rfl := List.mem_singleton.mp h
      rfl
  | hour | second | millisecond | nanosecond =>
    obtain rfl := List.mem_singleton.mp h
    rfl

end TimeUnit

namespace DurationItem

/-- How an item is written: digits, perhaps a point and digits behind it, and a name of the unit. -/
inductive IsText : DurationItem → List Char → Prop
  | whole {digits name : List Char} {ds : List Nat} {u : TimeUnit} (hdigits : AreDigits digits ds)
      (hname : name ∈ u.names) : IsText ⟨ds, [], u⟩ (digits ++ name)
  | pointed {digits places name : List Char} {ds fs : List Nat} {u : TimeUnit} (hdigits : AreDigits digits ds)
      (hplaces : AreDigits places fs) (hname : name ∈ u.names) :
      IsText ⟨ds, fs, u⟩ (digits ++ '.' :: (places ++ name))

variable {item : DurationItem} {items : List DurationItem} {text cs rest : List Char}

theorem IsText.startsAnew_append (h : item.IsText text) (rest : List Char) : StartsAnew (text ++ rest) := by
  cases h with
  | whole hdigits | pointed hdigits =>
    rw [List.append_assoc]
    exact hdigits.startsAnew_append _

theorem IsText.length_pos (h : item.IsText text) : 0 < text.length := by
  cases h with
  | whole hdigits | pointed hdigits =>
    rw [List.length_append]
    exact Nat.add_pos_left hdigits.length_pos _

/-- What is read at the front of a text is an item, by whichever way it was found. -/
theorem exists_isText_of_read? (h : read? cs = some (item, rest)) : ∃ text, item.IsText text ∧ cs = text ++ rest := by
  obtain ⟨⟨whole, r⟩, hwhole, h⟩ := List.exists_of_findSome?_eq_some h
  obtain ⟨⟨fraction, r'⟩, hfraction, h⟩ := List.exists_of_findSome?_eq_some h
  obtain ⟨⟨u, rest'⟩, hunit, heq⟩ := Option.map_eq_some_iff.mp h
  cases heq
  obtain ⟨digits, hdigits, rfl⟩ := areDigits_of_mem_digitRuns hwhole
  obtain ⟨name, hname, rfl⟩ := TimeUnit.exists_name_of_read? hunit
  obtain ⟨rfl, rfl⟩ | ⟨places, hplaces, rfl⟩ := of_mem_fractionRuns hfraction
  · exact ⟨digits ++ name, .whole hdigits hname, by rw [List.append_assoc]⟩
  · exact ⟨digits ++ '.' :: (places ++ name), .pointed hdigits hplaces hname, by simp⟩

/-- The first way that is tried reads the item that stands at the front. -/
theorem read?_append (h : item.IsText text) (hrest : StartsAnew rest) : read? (text ++ rest) = some (item, rest) := by
  unfold read?
  cases h with
  | @whole digits name ds u hdigits hname =>
    obtain ⟨hends, hpoint⟩ := TimeUnit.ends_name_append hname rest
    obtain ⟨shorter, hruns⟩ := digitRuns_append hdigits hends
    rw [List.append_assoc, hruns, List.findSome?_cons]
    dsimp only
    rw [fractionRuns_of_head hpoint, List.findSome?_cons]
    dsimp only
    rw [TimeUnit.read?_name hname hrest]
    rfl
  | @pointed digits places name ds fs u hdigits hplaces hname =>
    have hpoint : EndsDigits ('.' :: (places ++ (name ++ rest))) := by
      rintro c ⟨⟩
      rfl
    obtain ⟨shorter, hruns⟩ := digitRuns_append hdigits hpoint
    obtain ⟨others, hfractions⟩ := fractionRuns_point hplaces (TimeUnit.ends_name_append hname rest).1
    have htext : digits ++ '.' :: (places ++ name) ++ rest = digits ++ '.' :: (places ++ (name ++ rest)) := by simp
    rw [htext, hruns, List.findSome?_cons]
    dsimp only
    rw [hfractions, List.findSome?_cons]
    dsimp only
    rw [TimeUnit.read?_name hname hrest]
    rfl

theorem find?_eq_zero_iff : find? cs = some (0, item, rest) ↔ read? cs = some (item, rest) := by
  cases cs with
  | nil => exact iff_of_false nofun nofun
  | cons c r =>
    rw [find?]
    cases read? (c :: r) with
    | some found => simp
    | none => simp

theorem length_lt_of_read? (h : read? cs = some (item, rest)) : rest.length < cs.length := by
  obtain ⟨text, htext, rfl⟩ := exists_isText_of_read? h
  have hpos := htext.length_pos
  rw [List.length_append]
  omega

theorem readAll?_of_read? (h : read? cs = some (item, rest)) : readAll? cs = (readAll? rest).map (item :: ·) := by
  rw [readAll?, find?_eq_zero_iff.mpr h]
  exact if_pos ⟨rfl, length_lt_of_read? h⟩

/-- Nothing is passed over: either nothing is left, or an item stands at the front. -/
theorem of_readAll?_eq_some (h : readAll? cs = some items) : cs = [] ∧ items = [] ∨
    ∃ item rest later, read? cs = some (item, rest) ∧ readAll? rest = some later ∧ items = item :: later := by
  rw [readAll?] at h
  split at h
  · split_ifs at h with hempty
    cases h
    exact .inl ⟨List.isEmpty_iff.mp hempty, rfl⟩
  · rename_i skipped item rest hfind
    split_ifs at h with hskipped
    obtain ⟨rfl, _⟩ := hskipped
    obtain ⟨later, hlater, rfl⟩ := Option.map_eq_some_iff.mp h
    exact .inr ⟨item, rest, later, find?_eq_zero_iff.mp hfind, hlater, rfl⟩

/-- Text that consists of items, with nothing before, between and behind them. -/
inductive AreText : List DurationItem → List Char → Prop
  | nil : AreText [] []
  | cons {item : DurationItem} {items : List DurationItem} {text rest : List Char} (hitem : item.IsText text)
      (hrest : AreText items rest) : AreText (item :: items) (text ++ rest)

theorem AreText.startsAnew (h : AreText items cs) : StartsAnew cs := by
  cases h with
  | nil => nofun
  | cons hitem _ => exact hitem.startsAnew_append _

/-- A text is read as items exactly where it consists of them, and then as those. -/
theorem readAll?_eq_some_iff : readAll? cs = some items ↔ AreText items cs := by
  constructor
  · intro h
    induction items generalizing cs with
    | nil =>
      obtain ⟨rfl, _⟩ | ⟨item, rest, later, _, _, heq⟩ := of_readAll?_eq_some h
      · exact .nil
      · cases heq
    | cons item items ih =>
      obtain ⟨_, heq⟩ | ⟨item, rest, later, hread, hlater, heq⟩ := of_readAll?_eq_some h
      · cases heq
      · cases heq
        obtain ⟨text, htext, rfl⟩ := exists_isText_of_read? hread
        exact .cons htext (ih hlater)
  · intro h
    induction h with
    | nil =>
      rw [readAll?]
      rfl
    | cons hitem hrest ih =>
      rw [readAll?_of_read? (read?_append hitem hrest.startsAnew), ih]
      rfl

/-- The seconds of items are added up without ever losing the sign. -/
theorem sign?_toSeconds (item : DurationItem) : Decimal.sign? item.toSeconds = some .positive := by
  have hunit : Decimal.IsProper .positive item.unit.seconds := by
    cases item.unit <;> exact ⟨_, _, _, rfl⟩
  rw [toSeconds, hunit.sign?_mul_right, Text.sign?_nearestFloat]
  rfl

theorem sign?_foldl_toSeconds (items : List DurationItem) {sum : Float} (h : Decimal.sign? sum = some .positive) :
    Decimal.sign? (items.foldl (fun sum item => sum + item.toSeconds) sum) = some .positive := by
  induction items generalizing sum with
  | nil => exact h
  | cons item items ih => exact ih (Decimal.sign?_add h item.sign?_toSeconds)

end DurationItem

namespace Duration

/-- An optional sign and at least one item, with nothing before, between and behind them. -/
def IsItemText (cs : List Char) : Prop :=
  ∃ sign ∈ [[], ['+'], ['-']], ∃ body items, cs = sign ++ body ∧ items ≠ [] ∧ DurationItem.AreText items body

/-- A real number literal other than the one for no number. -/
def IsNumberText (cs : List Char) : Prop := ∃ literal, Text.real? cs = some literal ∧ literal ≠ .notANumber

theorem isSome_signedItems?_iff {cs : List Char} : (signedItems? cs).isSome = true ↔ IsItemText cs := by
  unfold signedItems?
  dsimp only
  constructor
  · intro h
    obtain ⟨sign, hsign, hcs⟩ := Text.exists_sign cs
    cases hread : DurationItem.readAll? (Text.signOf cs).2 with
    | none =>
      rw [hread] at h
      cases h
    | some items =>
      refine ⟨sign, hsign, (Text.signOf cs).2, items, hcs, ?_, DurationItem.readAll?_eq_some_iff.mp hread⟩
      rintro rfl
      rw [hread] at h
      cases h
  · rintro ⟨sign, hsign, body, items, rfl, hne, hitems⟩
    have hbody : (Text.signOf (sign ++ body)).2 = body := by
      have hstart : ∀ c ∈ body.head?, c ≠ '-' ∧ c ≠ '+' := by
        refine fun c hc => ⟨?_, ?_⟩ <;> rintro rfl
        · exact absurd (hitems.startsAnew '-' hc) (by decide)
        · exact absurd (hitems.startsAnew '+' hc) (by decide)
      simp only [List.mem_cons, List.not_mem_nil, or_false] at hsign
      rcases hsign with rfl | rfl | rfl
      · rw [List.nil_append, Text.signOf_of_head hstart]
      · rfl
      · rfl
    obtain ⟨item, later, rfl⟩ := List.exists_cons_of_ne_nil hne
    rw [hbody, DurationItem.readAll?_eq_some_iff.mpr hitems]
    rfl

theorem isNaN_itemSeconds (negative : Bool) (items : List DurationItem) :
    (itemSeconds negative items).isNaN = false := by
  have hzero : Decimal.sign? 0.0 = some .positive := rfl
  have htotal := DurationItem.sign?_foldl_toSeconds items hzero
  rw [Decimal.isNaN_eq_isNone_sign?, itemSeconds]
  cases negative with
  | true =>
    have hminus : Decimal.IsProper .negative (-1.0) := ⟨_, _, _, rfl⟩
    rw [if_pos rfl, hminus.sign?_mul_left, htotal]
    rfl
  | false =>
    have hone : Decimal.IsProper .positive 1.0 := ⟨_, _, _, rfl⟩
    rw [if_neg Bool.false_ne_true, hone.sign?_mul_left, htotal]
    rfl

theorem ofFloatSeconds_of_isNaN {x : Float} (h : x.isNaN = true) : ofFloatSeconds x = .error .notANumber := by
  rw [ofFloatSeconds, if_pos h]

/-- A double that is a number makes a duration or one that is too long. -/
theorem ofFloatSeconds_of_not_isNaN {x : Float} (h : x.isNaN = false) :
    (∃ d, ofFloatSeconds x = .ok d) ∨ ofFloatSeconds x = .error .outOfRange := by
  rw [ofFloatSeconds, if_neg (Bool.eq_false_iff.mp h)]
  split
  · exact .inr rfl
  · dsimp only
    split
    · exact .inl ⟨_, rfl⟩
    · exact .inr rfl

theorem ofItems_of_isItemText {cs : List Char} (h : IsItemText cs) :
    (∃ d, ofItems cs = .ok d) ∨ ofItems cs = .error .outOfRange := by
  obtain ⟨⟨negative, items⟩, hread⟩ := Option.isSome_iff_exists.mp (isSome_signedItems?_iff.mpr h)
  rw [ofItems, hread]
  dsimp only
  obtain ⟨d, hd⟩ | herror := ofFloatSeconds_of_not_isNaN (isNaN_itemSeconds negative items)
  · rw [hd]
    exact .inl ⟨d, rfl⟩
  · rw [herror]
    exact .inr rfl

theorem ofItems_of_not_isItemText {cs : List Char} (h : ¬ IsItemText cs) : ofItems cs = .error .invalid := by
  rw [ofItems, Option.not_isSome_iff_eq_none.mp (mt isSome_signedItems?_iff.mp h)]

theorem not_isNumberText_nil : ¬ IsNumberText [] := by
  rintro ⟨literal, hread, _⟩
  cases hread

theorem not_isItemText_nil : ¬ IsItemText [] := by
  rintro ⟨sign, _, body, items, hnil, hne, hitems⟩
  obtain ⟨_, rfl⟩ := List.append_eq_nil_iff.mp hnil.symm
  have hread := DurationItem.readAll?_eq_some_iff.mpr hitems
  rw [DurationItem.readAll?_eq_some_iff.mpr .nil] at hread
  exact hne (Option.some.inj hread).symm

theorem parse_of_isNumberText {s : String} (h : IsNumberText (Text.trim s.toList)) :
    (∃ d, parse s = .ok d) ∨ parse s = .error .outOfRange := by
  have hne : ¬ (Text.trim s.toList).isEmpty = true := fun hempty =>
    not_isNumberText_nil (List.isEmpty_iff.mp hempty ▸ h)
  obtain ⟨literal, hread, hnumber⟩ := h
  rw [parse, if_neg hne, hread]
  dsimp only
  have hdefined : literal.toFloat.isNaN = false := Bool.eq_false_iff.mpr (mt literal.isNaN_toFloat_iff.mp hnumber)
  obtain ⟨d, hd⟩ | herror := ofFloatSeconds_of_not_isNaN hdefined
  · rw [hd]
    exact .inl ⟨d, rfl⟩
  · rw [herror]
    exact .inr rfl

/-- Text that is no number is left to the items. -/
theorem parse_of_not_isNumberText {s : String} (hne : Text.trim s.toList ≠ [])
    (h : ¬ IsNumberText (Text.trim s.toList)) : parse s = ofItems (Text.trim s.toList) := by
  rw [parse, if_neg (mt List.isEmpty_iff.mp hne)]
  cases hread : Text.real? (Text.trim s.toList) with
  | none => rfl
  | some literal =>
    obtain rfl : literal = .notANumber := by
      by_contra hnumber
      exact h ⟨literal, hread, hnumber⟩
    dsimp only
    rw [ofFloatSeconds_of_isNaN rfl]

/-- A text is rejected exactly where it is, blanks aside, neither a number nor a list of items with an optional sign.
Any other text gives a duration, or is out of range. -/
theorem parse_rejects_iff (s : String) :
    (parse s = .error .empty ∨ parse s = .error .invalid ↔
      ¬ IsNumberText (Text.trim s.toList) ∧ ¬ IsItemText (Text.trim s.toList)) ∧
    (IsNumberText (Text.trim s.toList) ∨ IsItemText (Text.trim s.toList) →
      (∃ d, parse s = .ok d) ∨ parse s = .error .outOfRange) := by
  have hgives : IsNumberText (Text.trim s.toList) ∨ IsItemText (Text.trim s.toList) →
      (∃ d, parse s = .ok d) ∨ parse s = .error .outOfRange := by
    intro h
    by_cases hnumber : IsNumberText (Text.trim s.toList)
    · exact parse_of_isNumberText hnumber
    · have hitems := h.resolve_left hnumber
      have hne : Text.trim s.toList ≠ [] := fun hempty => not_isItemText_nil (hempty ▸ hitems)
      rw [parse_of_not_isNumberText hne hnumber]
      exact ofItems_of_isItemText hitems
  refine ⟨⟨fun h => ?_, fun ⟨hnumber, hitems⟩ => ?_⟩, hgives⟩
  · rw [← not_or]
    intro haccepted
    obtain ⟨d, hd⟩ | herror := hgives haccepted
    · rw [hd] at h
      rcases h with h | h <;> cases h
    · rw [herror] at h
      rcases h with h | h <;> cases h
  · by_cases hempty : Text.trim s.toList = []
    · left
      rw [parse, hempty]
      rfl
    · right
      rw [parse_of_not_isNumberText hempty hnumber, ofItems_of_not_isItemText hitems]

end Duration

end CertInventory.Time
