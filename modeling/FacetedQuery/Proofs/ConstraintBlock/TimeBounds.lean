import FacetedQuery.ConstraintBlock
import FacetedQuery.Proofs.Calendar.Years
import FacetedQuery.Proofs.Outcome

/-!
# Ends of time ranges

A bound denotes the edge of the year that it holds, as a number or as a text, or the date that it
is. A year in any of its spellings has the same edges, which are dates unless they are out of range,
and a range of two years is taken exactly if it does not end before it starts.
-/

namespace FacetedQuery

open Calendar (Date)

namespace Text

theorem trimStart_append {before core : List Char}
    (blanks : ∀ character ∈ before, isBlank character = true)
    (shown : ∀ character, core.head? = some character → isBlank character = false) :
    trimStart (before ++ core) = core := by
  unfold trimStart
  rw [List.dropWhile_append_of_pos blanks]
  cases core with
  | nil => rfl
  | cons first core => simp [shown first rfl]

/-- White space around a text without any is trimmed. -/
theorem trimChars_surrounded {before core after : List Char}
    (blanks : ∀ character ∈ before, isBlank character = true)
    (blanksAfter : ∀ character ∈ after, isBlank character = true)
    (shown : ∀ character ∈ core, isBlank character = false) (nonempty : core ≠ []) :
    trimChars (before ++ core ++ after) = core := by
  have start : trimStart (before ++ (core ++ after)) = core ++ after := by
    apply trimStart_append blanks
    intro character first
    obtain ⟨head, tail, rfl⟩ := List.exists_cons_of_ne_nil nonempty
    obtain rfl : head = character := by simpa using first
    exact shown head List.mem_cons_self
  have stop : trimStart (after.reverse ++ core.reverse) = core.reverse := by
    apply trimStart_append fun character member =>
      blanksAfter character (List.mem_reverse.mp member)
    intro character first
    exact shown character (List.mem_reverse.mp (List.mem_of_head? first))
  rw [trimChars, List.append_assoc, start, trimEnd, List.reverse_append, stop, List.reverse_reverse]

end Text

/-- A sign that may stand before the digits of a number. -/
inductive Decimal.Sign (number : Int) : List Char → Prop where
  | none : 0 ≤ number → Sign number []
  | plus : 0 ≤ number → Sign number ['+']
  | minus : number ≤ 0 → Sign number ['-']

namespace Decimal

theorem readInteger?_signed {number : Int} {sign : List Char} (signed : Sign number sign)
    (zeros : Nat) :
    readInteger? (sign ++ (List.replicate zeros '0' ++ digits number.natAbs)) = some number := by
  have read := readNatural?_zeros_digits zeros number.natAbs
  cases signed with
  | plus positive =>
      have magnitude : (number.natAbs : Int) = number := by omega
      simp [readInteger?, read, magnitude]
  | minus negative =>
      have magnitude : (number.natAbs : Int) = -number := by omega
      simp [readInteger?, read, magnitude]
  | none positive =>
      have magnitude : Int.ofNat number.natAbs = number := by
        rw [Int.ofNat_eq_natCast]
        omega
      rw [List.nil_append]
      unfold readInteger?
      split
      · next equality =>
        have member : '+' ∈ List.replicate zeros '0' ++ digits number.natAbs := by simp [equality]
        exact absurd (isDigit_of_mem_zeros_append (fun _ => isDigit_of_mem_digits) member)
          (by decide)
      · next equality =>
        have member : '-' ∈ List.replicate zeros '0' ++ digits number.natAbs := by simp [equality]
        exact absurd (isDigit_of_mem_zeros_append (fun _ => isDigit_of_mem_digits) member)
          (by decide)
      · rw [read, Option.map_some, magnitude]

theorem Sign.shown {number : Int} {sign : List Char} (signed : Sign number sign) {character : Char}
    (member : character ∈ sign) : Text.isBlank character = false := by
  cases signed with
  | none => cases member
  | plus =>
      obtain rfl := List.mem_singleton.mp member
      decide
  | minus =>
      obtain rfl := List.mem_singleton.mp member
      decide

theorem fitsSigned_of_few {number : Int} (few : number.natAbs ≤ 10 ^ 18) :
    fitsSigned number = true := by
  have limit : signedLimit = 9223372036854775808 := by decide
  simp only [fitsSigned, limit, Bool.and_eq_true, decide_eq_true_eq]
  omega

end Decimal

namespace TimeBound

/-- A year as a number, or as a text of its digits behind a sign and zeros and amid white space. -/
inductive Spells (year : Int) : TimeBound → Prop where
  | number {value : Int64} : value.toInt = year → Spells year (.year value)
  | text {before sign after : List Char} (zeros : Nat) :
      (∀ character ∈ before, Text.isBlank character = true) → Decimal.Sign year sign →
      (∀ character ∈ after, Text.isBlank character = true) →
      Spells year (.text (String.ofList (before ++
        (sign ++ (List.replicate zeros '0' ++ Decimal.digits year.natAbs)) ++ after)))

variable {year : Int} {bound : TimeBound} {edge : YearEdge} {date : Date} {fault : ValidationFault}

/-- The characters of a year that is written with a sign and zeros. -/
structure IsNumeral (year : Int) (core : List Char) : Prop where
  shown : ∀ character ∈ core, Text.isBlank character = false
  nonempty : core ≠ []
  read : Decimal.readInteger? core = some year

theorem isNumeral {sign : List Char} (signed : Decimal.Sign year sign) (zeros : Nat) :
    IsNumeral year (sign ++ (List.replicate zeros '0' ++ Decimal.digits year.natAbs)) where
  shown character member := by
    rcases List.mem_append.mp member with member | member
    · exact signed.shown member
    · exact Decimal.isBlank_of_isDigit
        (Decimal.isDigit_of_mem_zeros_append (fun _ => Decimal.isDigit_of_mem_digits) member)
  nonempty := by simp [Decimal.digits_ne_nil]
  read := Decimal.readInteger?_signed signed zeros

/-- Every spelling of a year is read as that year. -/
theorem date_of_spells (spells : Spells year bound) (few : year.natAbs ≤ 10 ^ 18) :
    bound.date edge = yearDate edge year := by
  cases spells with
  | number same => rw [date, same]
  | @text before sign after zeros blanks signed blanksAfter =>
      have numeral := isNumeral signed zeros
      have core := Text.trimChars_surrounded blanks blanksAfter numeral.shown numeral.nonempty
      have read : Decimal.readSigned? (sign ++
          (List.replicate zeros '0' ++ Decimal.digits year.natAbs)) = some year := by
        rw [Decimal.readSigned?, numeral.read]
        simp [Decimal.fitsSigned_of_few few]
      simp only [date, Text.trim, String.toList_ofList, core, read]

theorem isBlank_of_spells (spells : Spells year bound) : bound.isBlank = false := by
  cases spells with
  | number same => rfl
  | @text before sign after zeros blanks signed blanksAfter =>
      have numeral := isNumeral signed zeros
      obtain ⟨first, member⟩ := List.exists_mem_of_ne_nil _ numeral.nonempty
      apply Bool.eq_false_iff.mpr
      intro blank
      have isBlank := List.all_eq_true.mp blank first (by
        rw [String.toList_ofList]
        exact List.mem_append_left _ (List.mem_append_right _ member))
      rw [numeral.shown first member] at isBlank
      cases isBlank

theorem spells_padded : Spells 1700 (.text " +01700 ") := by
  have digits : Decimal.digits (Int.natAbs 1700) = ['1', '7', '0', '0'] := by
    simp [Decimal.digits, Decimal.digitChar]
  have spelled := @Spells.text 1700 [' '] ['+'] [' '] 1 (by simp [Text.isBlank])
    (.plus (by decide)) (by simp [Text.isBlank])
  rw [digits] at spelled
  exact spelled

theorem toOption_yearDate (edge : YearEdge) (year : Int) :
    (yearDate edge year).toOption = edge.date? year := by
  unfold yearDate
  cases edge.date? year <;> rfl

theorem yearDate_eq_ok : yearDate edge year = .ok date ↔ edge.IsEdge year date := by
  rw [← YearEdge.date?_eq_some, yearDate]
  cases edge.date? year <;> simp

/-- A year has no date at an edge only if the edge is out of range. -/
theorem yearDate_eq_error : yearDate edge year = .error fault ↔
    Calendar.inSecondRange (edge.second year) = false ∧
      fault = .invalidTimeBound (Decimal.integer year) := by
  rw [← YearEdge.date?_eq_none, yearDate]
  cases edge.date? year <;> simp [eq_comm]

/-- A year begins before it ends. -/
theorem compare?_edges {first last : Date} (isFirst : YearEdge.IsEdge .first year first)
    (isLast : YearEdge.IsEdge .last year last) : first.compare? last = some .lt := by
  rw [Date.compare?_of_open isFirst.offset isLast.offset, Option.some_inj, Int.compare_eq_lt]
  have starts := isFirst.number_first
  have ends := isLast.number_last
  rw [Calendar.yearStart_succ] at ends
  have long : 365 ≤ Calendar.yearLength year := by
    unfold Calendar.yearLength
    split <;> decide
  omega

theorem compare?_next {last after : Date} (isLast : YearEdge.IsEdge .last year last)
    (isAfter : YearEdge.IsEdge .first (year + 1) after) : last.compare? after = some .lt := by
  rw [Date.compare?_of_open isLast.offset isAfter.offset, Option.some_inj, Int.compare_eq_lt]
  have ends := isLast.number_last
  have starts := isAfter.number_first
  omega

/-- The first day of a year lies after the last one of another year exactly if the year itself
does. -/
theorem isAfter_edges {other : Int} {first last : Date}
    (isFirst : YearEdge.IsEdge .first year first)
    (isLast : YearEdge.IsEdge .last other last) : first.isAfter last = true ↔ other < year := by
  rw [Date.isAfter_of_open isFirst.offset isLast.offset]
  have starts := isFirst.number_first
  have ends := isLast.number_last
  constructor
  · intro after
    apply Int.not_le.mp
    intro ordered
    have further := Calendar.yearStart_lt (show year < other + 1 by omega)
    omega
  · intro later
    have further := Calendar.yearStart_mono (show other + 1 ≤ year by omega)
    omega

end TimeBound

namespace ConstraintBlock

open Outcome (bind_of_ok)

variable {facet : Facet} {first last : Date} {firstYear lastYear : Int}

theorem lower?_of_spells {bound : TimeBound} (spells : bound.Spells firstYear)
    (max : Option TimeBound) :
    TimeRange.lower? ⟨some bound, max⟩ = some bound := by
  simp [TimeRange.lower?, TimeBound.isBlank_of_spells spells]

theorem upper?_of_spells {bound : TimeBound} (spells : bound.Spells lastYear)
    (min : Option TimeBound) :
    TimeRange.upper? ⟨min, some bound⟩ = some bound := by
  simp [TimeRange.upper?, TimeBound.isBlank_of_spells spells]

/-- A range of two years that have dates is taken if it does not end before it starts. -/
theorem checkRange_years {bound other : TimeBound} (spells : bound.Spells firstYear)
    (otherSpells : other.Spells lastYear) (few : firstYear.natAbs ≤ 10 ^ 18)
    (otherFew : lastYear.natAbs ≤ 10 ^ 18) (isFirst : YearEdge.IsEdge .first firstYear first)
    (isLast : YearEdge.IsEdge .last lastYear last) (id : String) :
    checkRange id ⟨some bound, some other⟩ =
      if firstYear ≤ lastYear then .ok (.timespan (some first) (some last))
      else .error (.invertedTimeRange id first.render last.render) := by
  have lower : bound.date .first = .ok first :=
    (TimeBound.date_of_spells spells few).trans (TimeBound.yearDate_eq_ok.mpr isFirst)
  have upper : other.date .last = .ok last :=
    (TimeBound.date_of_spells otherSpells otherFew).trans (TimeBound.yearDate_eq_ok.mpr isLast)
  have checkedLower : checkBound .first (some bound) = .ok (some first) := bind_of_ok lower
  have checkedUpper : checkBound .last (some other) = .ok (some last) := bind_of_ok upper
  rw [checkRange, lower?_of_spells spells, upper?_of_spells otherSpells, bind_of_ok checkedLower,
    bind_of_ok checkedUpper]
  have after := TimeBound.isAfter_edges isFirst isLast
  by_cases ordered : firstYear ≤ lastYear
  · have notAfter : ¬first.isAfter last = true := fun isAfter => by
      have later := after.mp isAfter
      omega
    rw [if_pos ordered]
    exact if_neg notAfter
  · rw [if_neg ordered]
    exact if_pos (after.mpr (by omega))

/-- A year of at most eighteen digits, however it is spelled, stands for its days as long as they
are dates, and a range of such years is taken exactly if it does not end before it starts. -/
theorem bounds_of_years (year : Int) (few : year.natAbs < 10 ^ 18) (bound : TimeBound)
    (spells : bound.Spells year) :
    (∀ edge, (bound.date edge).toOption = Date.read? (YearEdge.written edge year)) ∧
    (∀ first, bound.lowerDate = .ok first →
      YearEdge.IsEdge .first year first ∧ Date.read? first.render = some first) ∧
    (∀ last, bound.upperDate = .ok last →
      YearEdge.IsEdge .last year last ∧ Date.read? last.render = some last) ∧
    (∀ fault, bound.lowerDate = .error fault ↔
      Calendar.inSecondRange (YearEdge.second .first year) = false ∧
        fault = .invalidTimeBound (Decimal.integer year)) ∧
    (∀ fault, bound.upperDate = .error fault ↔
      Calendar.inSecondRange (YearEdge.second .last year) = false ∧
        fault = .invalidTimeBound (Decimal.integer year)) ∧
    (∀ other : TimeBound, other.Spells year →
      other.lowerDate = bound.lowerDate ∧ other.upperDate = bound.upperDate) ∧
    (∀ first last, bound.lowerDate = .ok first → bound.upperDate = .ok last →
      first.compare? last = some .lt) ∧
    (∀ next : TimeBound, next.Spells (year + 1) → ∀ last after, bound.upperDate = .ok last →
      next.lowerDate = .ok after → last.compare? after = some .lt) ∧
    ∀ (lastYear : Int) (other : TimeBound) (facet : Facet) (withSubconcepts : Bool),
      lastYear.natAbs < 10 ^ 18 → other.Spells lastYear → facet.kind = .timespan →
      ∀ first last, bound.lowerDate = .ok first → other.upperDate = .ok last →
        checkValue facet ⟨.timespan ⟨some bound, some other⟩, withSubconcepts⟩ =
          if year ≤ lastYear then .ok (.timespan (some first) (some last))
          else .error (.invertedTimeRange facet.id first.render last.render) := by
  have lower : bound.lowerDate = TimeBound.yearDate .first year :=
    TimeBound.date_of_spells spells (by omega)
  have upper : bound.upperDate = TimeBound.yearDate .last year :=
    TimeBound.date_of_spells spells (by omega)
  rw [lower, upper]
  refine ⟨?_, ?_, ?_, fun _ => TimeBound.yearDate_eq_error, fun _ => TimeBound.yearDate_eq_error,
    ?_, ?_, ?_, ?_⟩
  · intro edge
    rw [TimeBound.date_of_spells spells (by omega), TimeBound.toOption_yearDate,
      YearEdge.read?_written]
  · intro first found
    exact ⟨TimeBound.yearDate_eq_ok.mp found, first.read?_render⟩
  · intro last found
    exact ⟨TimeBound.yearDate_eq_ok.mp found, last.read?_render⟩
  · intro other otherSpells
    exact ⟨TimeBound.date_of_spells otherSpells (by omega),
      TimeBound.date_of_spells otherSpells (by omega)⟩
  · intro first last found foundLast
    exact TimeBound.compare?_edges (TimeBound.yearDate_eq_ok.mp found)
      (TimeBound.yearDate_eq_ok.mp foundLast)
  · intro next nextSpells last after found foundAfter
    have nextLower : next.lowerDate = TimeBound.yearDate .first (year + 1) :=
      TimeBound.date_of_spells nextSpells (by omega)
    rw [nextLower] at foundAfter
    exact TimeBound.compare?_next (TimeBound.yearDate_eq_ok.mp found)
      (TimeBound.yearDate_eq_ok.mp foundAfter)
  · intro lastYear other facet withSubconcepts otherFew otherSpells isTimespan first
      last found foundLast
    have otherUpper : other.upperDate = TimeBound.yearDate .last lastYear :=
      TimeBound.date_of_spells otherSpells (by omega)
    rw [otherUpper] at foundLast
    have accepts : facet.accepts .timespan = true := by simp [Facet.accepts, isTimespan]
    have checked := checkRange_years spells otherSpells (by omega) (by omega)
      (TimeBound.yearDate_eq_ok.mp found) (TimeBound.yearDate_eq_ok.mp foundLast) facet.id
    exact (if_pos accepts).trans checked

theorem bounds_of_inverted_years :
    ∃ first last : Date, YearEdge.IsEdge .first 1700 first ∧ YearEdge.IsEdge .last 1600 last ∧
      checkValue (.ofTimespan "reign" "p" "s" "e")
          ⟨.timespan ⟨some (.text " +01700 "), some (.year 1600)⟩, false⟩ =
        .error (.invertedTimeRange "reign" first.render last.render) := by
  have otherSpells : TimeBound.Spells 1600 (.year 1600) := .number rfl
  obtain ⟨first, isFirst⟩ := @YearEdge.exists_isEdge 1700 .first (by decide)
  obtain ⟨last, isLast⟩ := @YearEdge.exists_isEdge 1600 .last (by decide)
  have lower : TimeBound.lowerDate (.text " +01700 ") = .ok first :=
    (TimeBound.date_of_spells TimeBound.spells_padded (by decide)).trans
      (TimeBound.yearDate_eq_ok.mpr isFirst)
  have upper : TimeBound.upperDate (.year 1600) = .ok last := TimeBound.yearDate_eq_ok.mpr isLast
  obtain ⟨-, -, -, -, -, -, -, -, ranges⟩ :=
    bounds_of_years 1700 (by decide) _ TimeBound.spells_padded
  exact ⟨first, last, isFirst, isLast,
    ranges 1600 _ _ false (by decide) otherSpells rfl first last lower upper⟩

end ConstraintBlock

end FacetedQuery
