import FacetedQuery.Proofs.ConstraintBlock.Outline
import FacetedQuery.Proofs.ConstraintBlock.TimeBounds
import FacetedQuery.Proofs.Rdf.Iri
import Mathlib.Data.List.TakeWhile

/-!
# Values that facets take

A value is well formed if its IRIs are absolute, its bounds denote days in order and its box lies on
the globe.  A facet that accepts the kind of a value takes it exactly if it is well formed, and
otherwise names what is wrong with it.
-/

namespace FacetedQuery

open Calendar (Date)
open Outcome (bind_eq_error bind_eq_ok exists_mapM_iff mapError_eq_error
  mapError_eq_ok mapM_eq_error)
open Rdf (Iri)

namespace Calendar.Date

theorem readYearDigits?_of_all {row rest : List Char} {year : Nat}
    (all : row.all Char.isDigit = true)
    (read : readYearDigits? row = some (year, rest)) : rest = [] := by
  have nothing : row.dropWhile Char.isDigit = [] :=
    List.dropWhile_eq_nil_iff.mpr fun character member => List.all_eq_true.mp all character member
  unfold readYearDigits? at read
  dsimp only at read
  split at read
  · cases read
  · rw [nothing] at read
    exact (Prod.mk.inj (Option.some.inj read)).2.symm

/-- A number is no date, for there is nothing behind its digits. -/
theorem readChars?_of_readInteger? {text : List Char} {number : Int}
    (read : Decimal.readInteger? text = some number) : readChars? text = none := by
  have digits : ∀ {row : List Char} {value : Nat}, Decimal.readNatural? row = some value →
      row.all Char.isDigit = true := by
    intro row value natural
    unfold Decimal.readNatural? at natural
    split at natural
    · cases natural
    · next fine =>
      rw [Bool.or_eq_true, not_or] at fine
      simpa using fine.2
  have ends : ∀ year rest, readYear? text = some (year, rest) → rest = [] := by
    intro year rest found
    unfold Decimal.readInteger? at read
    unfold readYear? at found
    split at read
    · obtain ⟨⟨value, after⟩, row, equality⟩ := Option.map_eq_some_iff.mp found
      simp [readYearDigits?] at row
    · obtain ⟨_, lifted, -⟩ := Option.map_eq_some_iff.mp read
      obtain ⟨value, natural, -⟩ := Option.bind_eq_some_iff.mp lifted
      obtain ⟨⟨other, after⟩, row, equality⟩ := Option.map_eq_some_iff.mp found
      rw [← (Prod.mk.inj equality).2]
      exact readYearDigits?_of_all (digits natural) row
    · next noPlus noMinus =>
      obtain ⟨value, natural, -⟩ := Option.map_eq_some_iff.mp read
      split at found
      · next rest => exact absurd rfl (noMinus rest)
      · obtain ⟨⟨other, after⟩, row, equality⟩ := Option.map_eq_some_iff.mp found
        rw [← (Prod.mk.inj equality).2]
        exact readYearDigits?_of_all (digits natural) row
  unfold readChars?
  cases found : readYear? text with
  | none => rfl
  | some parts =>
      obtain ⟨year, rest⟩ := parts
      obtain rfl := ends year rest found
      rfl

end Calendar.Date

namespace TimeBound

/-- A bound denotes the edge of the year that it holds, or the date that it is. -/
inductive Denotes (edge : YearEdge) : TimeBound → Date → Prop where
  | year {value : Int64} {date : Date} : edge.IsEdge value.toInt date →
    Denotes edge (.year value) date
  | yearText {content : String} {year : Int} {date : Date} :
      Decimal.readSigned? (Text.trim content).toList = some year → edge.IsEdge year date →
      Denotes edge (.text content) date
  | date {content : String} {date : Date} : Date.read? (Text.trim content) = some date →
      Denotes edge (.text content) date

/-- How faults name a bound. -/
def caption : TimeBound → String
  | .year value => Decimal.integer value.toInt
  | .text content =>
    ((Decimal.readSigned? (Text.trim content).toList).map Decimal.integer).getD (Text.trim content)

variable {edge : YearEdge} {bound : TimeBound} {date : Date} {fault : ValidationFault}

theorem read?_of_readSigned? {text : String} {number : Int}
    (read : Decimal.readSigned? text.toList = some number) : Date.read? text = none :=
  Date.readChars?_of_readInteger? (Option.filter_eq_some_iff.mp read).1

theorem date_eq_ok : bound.date edge = .ok date ↔ bound.Denotes edge date := by
  cases bound with
  | year value =>
      rw [TimeBound.date, yearDate_eq_ok]
      constructor
      · exact .year
      · rintro ⟨isEdge⟩
        exact isEdge
  | text content =>
      simp only [TimeBound.date]
      cases read : Decimal.readSigned? (Text.trim content).toList with
      | some year =>
          simp only [yearDate_eq_ok]
          constructor
          · exact .yearText read
          · intro denotes
            cases denotes with
            | yearText again isEdge => exact Option.some.inj (read.symm.trans again) ▸ isEdge
            | date found => cases (read?_of_readSigned? read).symm.trans found
      | none =>
          constructor
          · intro found
            dsimp only at found
            split at found
            · next other isDate =>
              cases found
              exact .date isDate
            · cases found
          · intro denotes
            cases denotes with
            | yearText again => cases read.symm.trans again
            | date found => simp only [found]

theorem denotes_unique {other : Date} (denotes : bound.Denotes edge date)
    (again : bound.Denotes edge other) : date = other :=
  Except.ok.inj ((date_eq_ok.mpr denotes).symm.trans (date_eq_ok.mpr again))

/-- A bound that denotes no day is refused by its name. -/
theorem date_eq_error : bound.date edge = .error fault ↔
    (∀ date, ¬bound.Denotes edge date) ∧ fault = .invalidTimeBound bound.caption := by
  have named : ∀ problem, bound.date edge = .error problem →
      problem = .invalidTimeBound bound.caption := by
    intro problem failed
    cases bound with
    | year value => exact (yearDate_eq_error.mp failed).2
    | text content =>
        simp only [TimeBound.date] at failed
        simp only [caption]
        cases read : Decimal.readSigned? (Text.trim content).toList with
        | some year =>
            rw [read] at failed
            exact (yearDate_eq_error.mp failed).2
        | none =>
            rw [read] at failed
            dsimp only at failed
            split at failed
            · cases failed
            · exact (Except.error.inj failed).symm
  constructor
  · intro failed
    refine ⟨?_, named fault failed⟩
    intro date denotes
    cases failed.symm.trans (date_eq_ok.mpr denotes)
  · rintro ⟨nothing, rfl⟩
    cases found : bound.date edge with
    | ok date => exact absurd (date_eq_ok.mp found) (nothing date)
    | error problem => rw [named problem found]

end TimeBound

/-- The ends of a range that are given denote days, the first one not after the last one. -/
structure TimeRange.WellFormed (range : TimeRange) : Prop where
  lower : ∀ bound ∈ range.lower?, ∃ first, bound.Denotes .first first
  upper : ∀ bound ∈ range.upper?, ∃ last, bound.Denotes .last last
  ordered : ∀ bound ∈ range.lower?, ∀ other ∈ range.upper?, ∀ first last,
    bound.Denotes .first first → other.Denotes .last last → first.isAfter last = false

/-- A box of finite numbers on the globe whose first corner lies at or before its second one. -/
structure GeoBox.WellFormed (box : GeoBox) : Prop where
  finite : ∀ number ∈ [box.latMin, box.longMin, box.latMax, box.longMax], number.isFinite = true
  latitudes : ∀ number ∈ [box.latMin, box.latMax], -90.0 ≤ number ∧ number ≤ 90.0
  longitudes : ∀ number ∈ [box.longMin, box.longMax], -180.0 ≤ number ∧ number ≤ 180.0
  ordered : ¬box.latMin > box.latMax ∧ ¬box.longMin > box.longMax

/-- A value without errors. -/
def ConstraintValue.WellFormed : ConstraintValue → Prop
  | .uris items => ∀ item ∈ items, Text.blank item = false → Iri.accepts (Text.trim item) = true
  | .text _ => True
  | .timespan range => range.WellFormed
  | .box corners => corners.WellFormed

theorem GeoBox.fault?_eq_none {box : GeoBox} : box.fault? = none ↔ box.WellFormed := by
  constructor
  · intro fine
    unfold fault? at fine
    split at fine
    · cases fine
    split at fine
    · cases fine
    split at fine
    · cases fine
    split at fine
    · cases fine
    next finite latitudes longitudes ordered =>
      simp only [List.all_cons, List.all_nil, Bool.and_true, Bool.not_and, Bool.or_eq_true,
        Bool.not_eq_eq_eq_not, Bool.not_true, not_or, Bool.not_eq_false, isLatitude,
        decide_eq_false_iff_not, Decidable.not_not, isLongitude, gt_iff_lt, decide_eq_true_eq]
        at finite latitudes longitudes ordered
      constructor
      · simpa using finite
      · simpa using latitudes
      · simpa using longitudes
      · simpa using ordered
  · rintro ⟨finite, latitudes, longitudes, ordered⟩
    simp only [List.mem_cons, List.not_mem_nil, or_false, forall_eq_or_imp, forall_eq, gt_iff_lt]
      at finite latitudes longitudes ordered
    simp [fault?, isLatitude, isLongitude, finite, latitudes, longitudes, ordered]

/-- What is wrong with a value for a facet. -/
inductive ConstraintValue.Flaw (facet : String) : ConstraintValue → ValidationFault → Prop where
  | iri {items : List String} {item : String} {fault : Rdf.IriFault} : item ∈ items →
      Text.blank item = false → Iri.ofText (Text.trim item) = .error fault →
      Flaw facet (.uris items) (.invalidIri (Text.trim item) fault)
  | lower {range : TimeRange} {bound : TimeBound} : bound ∈ range.lower? →
      (∀ date, ¬bound.Denotes .first date) →
      Flaw facet (.timespan range) (.invalidTimeBound bound.caption)
  | upper {range : TimeRange} {bound : TimeBound} : bound ∈ range.upper? →
      (∀ date, ¬bound.Denotes .last date) →
      Flaw facet (.timespan range) (.invalidTimeBound bound.caption)
  | inverted {range : TimeRange} {bound other : TimeBound} {first last : Date} :
      bound ∈ range.lower? → other ∈ range.upper? → bound.Denotes .first first →
      other.Denotes .last last → first.isAfter last = true →
      Flaw facet (.timespan range) (.invertedTimeRange facet first.render last.render)
  | box {corners : GeoBox} {reason : String} : corners.fault? = some reason →
      Flaw facet (.box corners) (.invalidBox facet reason)

namespace Text

theorem trimStart_eq_nil {text : List Char} : trimStart text = [] ↔ text.all isBlank = true := by
  rw [trimStart, List.dropWhile_eq_nil_iff, List.all_eq_true]

theorem all_isBlank_trimStart (text : List Char) :
    (trimStart text).all isBlank = text.all isBlank := by
  have split := @List.takeWhile_append_dropWhile _ isBlank text
  have before := @List.all_takeWhile _ isBlank text
  rw [← congrArg (List.all · isBlank) split, List.all_append, before, Bool.true_and, trimStart]

theorem trim_eq_empty {text : String} : trim text = "" ↔ blank text = true := by
  rw [trim, String.ofList_eq_empty_iff, trimChars, trimEnd,
    List.reverse_eq_nil_iff, trimStart_eq_nil, List.all_reverse, all_isBlank_trimStart, blank]

theorem mem_shown {items : List String} {text : String} :
    text ∈ (items.map trim).filter (· != "") ↔
      ∃ item ∈ items, blank item = false ∧ trim item = text := by
  simp only [List.mem_filter, List.mem_map, bne_iff_ne, ne_eq]
  constructor
  · rintro ⟨⟨item, member, rfl⟩, visible⟩
    exact ⟨item, member, by rwa [trim_eq_empty, Bool.not_eq_true] at visible, rfl⟩
  · rintro ⟨item, member, visible, rfl⟩
    exact ⟨⟨item, member, rfl⟩, by rwa [trim_eq_empty, Bool.not_eq_true]⟩

end Text

namespace ConstraintBlock

variable {facet : Facet} {constraint : Constraint} {items : List String} {range : TimeRange}
  {edge : YearEdge} {bound : Option TimeBound} {value : FilterValue} {fault : ValidationFault}

theorem checkUris_eq (items : List String) :
    checkUris items = ((items.map Text.trim).filter (· != "")).mapM fun text =>
      (Iri.ofText text).mapError (.invalidIri text) := by
  unfold checkUris
  congr 1
  funext text
  cases Iri.ofText text <;> rfl

theorem checkUris_eq_error (failed : checkUris items = .error fault) (id : String) :
    ConstraintValue.Flaw id (.uris items) fault := by
  rw [checkUris_eq] at failed
  obtain ⟨text, member, failing⟩ := mapM_eq_error failed
  obtain ⟨item, inside, visible, rfl⟩ := Text.mem_shown.mp member
  obtain ⟨problem, read, rfl⟩ := mapError_eq_error.mp failing
  exact .iri inside visible read

theorem exists_checkUris : (∃ iris, checkUris items = .ok iris) ↔
    (ConstraintValue.uris items).WellFormed := by
  have reads : ∀ text, (∃ iri, Iri.ofText text = .ok iri) ↔ Iri.accepts text = true := by
    intro text
    simp only [Iri.ofText_eq_ok]
    constructor
    · rintro ⟨iri, rfl⟩
      exact iri.wellFormed
    · intro wellFormed
      exact ⟨⟨text, wellFormed⟩, rfl⟩
  rw [checkUris_eq, exists_mapM_iff]
  simp only [mapError_eq_ok, reads, Text.mem_shown]
  constructor
  · intro fine item member visible
    exact fine _ ⟨item, member, visible, rfl⟩
  · rintro fine _ ⟨item, member, visible, rfl⟩
    exact fine item member visible

/-- The end of a range becomes the day that it denotes. -/
theorem mem_of_checkBound {date : Option Date} (checked : checkBound edge bound = .ok date)
    {day : Date} : day ∈ date ↔ ∃ given ∈ bound, given.Denotes edge day := by
  cases bound with
  | none =>
      cases checked
      simp
  | some given =>
      obtain ⟨found, read, equality⟩ := bind_eq_ok.mp checked
      cases equality
      have denotes := TimeBound.date_eq_ok.mp read
      constructor
      · rintro ⟨⟩
        exact ⟨given, rfl, denotes⟩
      · rintro ⟨_, ⟨⟩, again⟩
        rw [TimeBound.denotes_unique denotes again]
        rfl

theorem checkBound_eq_error (failed : checkBound edge bound = .error fault) :
    ∃ given ∈ bound, (∀ date, ¬given.Denotes edge date) ∧
      fault = .invalidTimeBound given.caption := by
  cases bound with
  | none => cases failed
  | some given =>
      rcases bind_eq_error.mp failed with failed | ⟨date, -, equality⟩
      · exact ⟨given, rfl, TimeBound.date_eq_error.mp failed⟩
      · cases equality

theorem exists_checkBound : (∃ date, checkBound edge bound = .ok date) ↔
    ∀ given ∈ bound, ∃ day, given.Denotes edge day := by
  constructor
  · rintro ⟨date, checked⟩ given ⟨⟩
    obtain ⟨day, read, -⟩ := bind_eq_ok.mp checked
    exact ⟨day, TimeBound.date_eq_ok.mp read⟩
  · intro fine
    cases bound with
    | none => exact ⟨none, rfl⟩
    | some given =>
        obtain ⟨day, denotes⟩ := fine given rfl
        exact ⟨some day, bind_eq_ok.mpr ⟨day, TimeBound.date_eq_ok.mpr denotes, rfl⟩⟩

/-- A range is taken if it has the dates of its ends in order. -/
theorem checkRange_eq_ok {id : String} : checkRange id range = .ok value ↔
    ∃ min max, checkBound .first range.lower? = .ok min ∧ checkBound .last range.upper? = .ok max ∧
      (∀ first ∈ min, ∀ last ∈ max, first.isAfter last = false) ∧ value = .timespan min max := by
  simp only [checkRange, bind_eq_ok]
  constructor
  · rintro ⟨min, lower, max, upper, taken⟩
    refine ⟨min, max, lower, upper, ?_⟩
    split at taken
    · next first last =>
      split at taken
      · cases taken
      · next ordered =>
        cases taken
        exact ⟨by simpa using ordered, rfl⟩
    · next halfOpen =>
      cases taken
      refine ⟨?_, rfl⟩
      rintro first ⟨⟩ last ⟨⟩
      exact absurd rfl (halfOpen first last rfl)
  · rintro ⟨min, max, lower, upper, ordered, rfl⟩
    refine ⟨min, lower, max, upper, ?_⟩
    split
    · next first last => simp [ordered first rfl last rfl, pure, Except.pure]
    · rfl

theorem checkRange_eq_error {id : String} (failed : checkRange id range = .error fault) :
    ConstraintValue.Flaw id (.timespan range) fault := by
  rcases bind_eq_error.mp failed with failed | ⟨min, lower, failed⟩
  · obtain ⟨given, member, nothing, rfl⟩ := checkBound_eq_error failed
    exact .lower member nothing
  rcases bind_eq_error.mp failed with failed | ⟨max, upper, failed⟩
  · obtain ⟨given, member, nothing, rfl⟩ := checkBound_eq_error failed
    exact .upper member nothing
  split at failed
  · next first last =>
    split at failed
    · next after =>
      cases failed
      obtain ⟨bound, isLower, denotes⟩ := (mem_of_checkBound lower).mp rfl
      obtain ⟨other, isUpper, denotesLast⟩ := (mem_of_checkBound upper).mp rfl
      exact .inverted isLower isUpper denotes denotesLast after
    · cases failed
  · cases failed

theorem exists_checkRange {id : String} : (∃ value, checkRange id range = .ok value) ↔
    range.WellFormed := by
  simp only [checkRange_eq_ok]
  constructor
  · rintro ⟨value, min, max, lower, upper, ordered, -⟩
    constructor
    case lower => exact exists_checkBound.mp ⟨min, lower⟩
    case upper => exact exists_checkBound.mp ⟨max, upper⟩
    case ordered =>
      intro bound isLower other isUpper first last denotes denotesLast
      apply ordered
      · exact (mem_of_checkBound lower).mpr ⟨bound, isLower, denotes⟩
      · exact (mem_of_checkBound upper).mpr ⟨other, isUpper, denotesLast⟩
  · rintro ⟨lower, upper, ordered⟩
    obtain ⟨min, isMin⟩ := exists_checkBound.mpr lower
    obtain ⟨max, isMax⟩ := exists_checkBound.mpr upper
    refine ⟨_, min, max, isMin, isMax, ?_, rfl⟩
    intro first isFirst last isLast
    obtain ⟨bound, isLower, denotes⟩ := (mem_of_checkBound isMin).mp isFirst
    obtain ⟨other, isUpper, denotesLast⟩ := (mem_of_checkBound isMax).mp isLast
    exact ordered bound isLower other isUpper first last denotes denotesLast

/-- A facet takes the well-formed values of the kinds that it accepts. -/
theorem exists_checkValue : (∃ value, checkValue facet constraint = .ok value) ↔
    facet.accepts constraint.kind = true ∧ constraint.value.WellFormed := by
  obtain ⟨given, flag⟩ := constraint
  by_cases accepts : facet.accepts given.kind = true
  · simp only [checkValue, Constraint.kind, accepts, if_true, true_and]
    cases given with
    | uris items =>
        rw [← exists_checkUris]
        constructor
        · rintro ⟨value, made⟩
          obtain ⟨iris, read, -⟩ := bind_eq_ok.mp made
          exact ⟨iris, read⟩
        · rintro ⟨iris, read⟩
          exact ⟨_, bind_eq_ok.mpr ⟨iris, read, rfl⟩⟩
    | text content => simp [ConstraintValue.WellFormed]
    | timespan range => exact exists_checkRange
    | box corners =>
        simp only [checkBox, ConstraintValue.WellFormed, ← GeoBox.fault?_eq_none]
        cases corners.fault? <;> simp
  · simp [checkValue, Constraint.kind, accepts]

/-- A value that is refused is of another kind or not well formed. -/
theorem checkValue_eq_error (failed : checkValue facet constraint = .error fault) :
    facet.accepts constraint.kind = false ∧
        fault = .filterKindMismatch facet.id facet.kind.name constraint.kind.name ∨
      constraint.value.Flaw facet.id fault := by
  unfold checkValue at failed
  split at failed
  · right
    split at failed
    · next items isValue =>
      rw [isValue]
      rcases bind_eq_error.mp failed with failed | ⟨iris, -, equality⟩
      · exact checkUris_eq_error failed facet.id
      · cases equality
    · cases failed
    · next range isValue =>
      rw [isValue]
      exact checkRange_eq_error failed
    · next corners isValue =>
      rw [isValue]
      unfold checkBox at failed
      split at failed
      · next reason found =>
        cases failed
        exact .box found
      · cases failed
  · next mismatch =>
    cases failed
    exact .inl ⟨by simpa using mismatch, rfl⟩

end ConstraintBlock

end FacetedQuery
