import FacetedQuery.Proofs.Assembly.Acceptance
import FacetedQuery.Proofs.Calendar.Reading

/-!
# Normal forms of constraints

What an assembled query depends on of a constraint: the IRIs without blank ones and white space, the
text without white space and in lowercase, the printed days of a range, the box, and the flag of a
constraint by IRIs.  Constraints that say nothing have an empty normal form and are left out.
Requests whose constraints have one normal form have one outcome.
-/

namespace FacetedQuery

open Calendar (Date)
open ConstraintBlock (active checkBound checkUris checkValue compose fragment)
open Outcome (mapM_congr)
open Rdf (Variable)

/-- What a query depends on of a constraint. -/
inductive NormalForm where
  | uris (texts : List String) (withSubconcepts : Bool)
  | text (content : String)
  | timespan (min max : Option (Except ValidationFault String))
  | box (corners : GeoBox)

/-- Whether a normal form says nothing. -/
def NormalForm.isEmpty : NormalForm → Bool
  | .uris texts _ => texts.isEmpty
  | .text content => content == ""
  | .timespan min max => min.isNone && max.isNone
  | .box _ => false

/-- The printed day of a bound, or the fault that there is none. -/
def TimeBound.printed (edge : YearEdge) (bound : TimeBound) : Except ValidationFault String :=
  (bound.date edge).map Date.render

/-- The normal form of a constraint.  Only IRIs heed the flag. -/
def Constraint.normalForm (constraint : Constraint) : NormalForm :=
  match constraint.value with
  | .uris items => .uris ((items.map Text.trim).filter (· != "")) constraint.withSubconcepts
  | .text content => .text (Text.lowercase (Text.trim content))
  | .timespan range =>
    .timespan (range.lower?.map (·.printed .first)) (range.upper?.map (·.printed .last))
  | .box corners => .box corners

/-- The normal forms of the constraints that are not blank, by the ids of their facets. -/
def ConstraintBlock.normalForms (constraints : Option ConstraintSet) : List (String × NormalForm) :=
  (active constraints).map fun entry => (entry.1, entry.2.normalForm)

namespace Text

theorem lowercase_eq_empty {text : String} : lowercase text = "" ↔ text = "" := by
  have letters : ∀ preceded characters, lowercaseFrom preceded characters = [] ↔
    characters = [] := by
    intro preceded characters
    cases characters with
    | nil => simp [lowercaseFrom]
    | cons character characters =>
        unfold lowercaseFrom
        simp only [reduceCtorEq, iff_false]
        split
        · exact List.cons_ne_nil _ _
        · split <;> exact List.cons_ne_nil _ _
  rw [lowercase, String.ofList_eq_empty_iff, letters, String.toList_eq_nil_iff]

end Text

/-- A constraint is blank exactly if its normal form says nothing. -/
theorem Constraint.isBlank_eq (constraint : Constraint) :
    constraint.isBlank = constraint.normalForm.isEmpty := by
  obtain ⟨value, flag⟩ := constraint
  apply Bool.eq_iff_iff.mpr
  cases value with
  | uris items =>
      simp [Constraint.isBlank, ConstraintValue.isBlank, normalForm, NormalForm.isEmpty,
        Text.trim_eq_empty]
  | text content =>
      simp [Constraint.isBlank, ConstraintValue.isBlank, normalForm, NormalForm.isEmpty,
        Text.lowercase_eq_empty, Text.trim_eq_empty]
  | timespan range =>
      simp [Constraint.isBlank, ConstraintValue.isBlank, normalForm, NormalForm.isEmpty]
  | box corners => rfl

/-- All spellings of a year are printed alike. -/
theorem TimeBound.printed_of_spells {year : Int} (few : year.natAbs < 10 ^ 18)
    {bound other : TimeBound}
    (spells : bound.Spells year) (otherSpells : other.Spells year) (edge : YearEdge) :
    bound.printed edge = other.printed edge := by
  rw [printed, printed, date_of_spells spells (by omega), date_of_spells otherSpells (by omega)]

namespace ConstraintBlock

variable {facet : Facet} {first second : Constraint} {edge : YearEdge}
  {bound other : Option TimeBound}

/-- The faults and the printed days of a bound determine the check of it. -/
theorem checkBound_congr (same : bound.map (·.printed edge) = other.map (·.printed edge)) :
    checkBound edge bound = checkBound edge other := by
  have dates : ∀ {bound other : TimeBound}, bound.printed edge = other.printed edge →
      bound.date edge = other.date edge := by
    intro bound other printed
    unfold TimeBound.printed at printed
    cases found : bound.date edge with
    | error fault =>
        cases foundOther : other.date edge with
        | error problem => simpa [found, foundOther, Except.map] using printed
        | ok date => simp [found, foundOther, Except.map] at printed
    | ok day =>
        cases foundOther : other.date edge with
        | error problem => simp [found, foundOther, Except.map] at printed
        | ok date =>
            rw [found, foundOther] at printed
            rw [Date.render_injective (Except.ok.inj printed)]
  cases bound with
  | none =>
      cases other with
      | none => rfl
      | some other => cases same
  | some bound =>
      cases other with
      | none => cases same
      | some other => rw [checkBound, checkBound, dates (Option.some.inj same)]

/-- A constraint is checked by its normal form. -/
theorem checkValue_congr (same : first.normalForm = second.normalForm) :
    checkValue facet first = checkValue facet second := by
  obtain ⟨value, flag⟩ := first
  obtain ⟨other, otherFlag⟩ := second
  unfold Constraint.normalForm at same
  cases value with
  | uris items =>
      cases other with
      | uris others =>
          obtain ⟨texts, rfl⟩ := NormalForm.uris.inj same
          have iris : checkUris items = checkUris others := by rw [checkUris, checkUris, texts]
          simp only [checkValue, Constraint.kind, ConstraintValue.kind, iris]
          rfl
      | _ => cases same
  | text content =>
      cases other with
      | text other =>
          have folded := NormalForm.text.inj same
          simp only [checkValue, Constraint.kind, ConstraintValue.kind, folded]
          rfl
      | _ => cases same
  | timespan range =>
      cases other with
      | timespan other =>
          obtain ⟨lower, upper⟩ := NormalForm.timespan.inj same
          have ranges : ∀ id, checkRange id range = checkRange id other := by
            intro id
            rw [checkRange, checkRange, checkBound_congr lower, checkBound_congr upper]
          simp only [checkValue, Constraint.kind, ConstraintValue.kind, ranges]
          rfl
      | _ => cases same
  | box corners =>
      cases other with
      | box other =>
          obtain rfl := NormalForm.box.inj same
          rfl
      | _ => cases same

theorem fragment_congr {facetClass : String} {spec : ResultClass} {target : Variable}
    {entry other : String × Constraint}
    (same : (entry.1, entry.2.normalForm) = (other.1, other.2.normalForm)) :
    fragment facetClass spec target entry = fragment facetClass spec target other := by
  obtain ⟨ids, forms⟩ := Prod.mk.inj same
  unfold fragment
  simp only [ids, checkValue_congr forms]

/-- A block depends on the normal forms of the constraints only. -/
theorem compose_congr {constraints others : Option ConstraintSet}
    (same : normalForms constraints = normalForms others) (portal : Portal)
    (facetClass filterTarget : String) :
    compose portal facetClass constraints filterTarget =
      compose portal facetClass others filterTarget := by
  by_cases nothing : active constraints = []
  · have otherNothing : active others = [] := by
      rw [normalForms, nothing] at same
      exact List.map_eq_nil_iff.mp same.symm
    rw [Assembler.compose_of_inactive nothing, Assembler.compose_of_inactive otherNothing]
  · have otherSome : active others ≠ [] := by
      intro noOther
      rw [normalForms, normalForms, noOther] at same
      exact nothing (List.map_eq_nil_iff.mp same)
    rw [compose_of_active nothing, compose_of_active otherSome]
    unfold ofActive
    simp only [mapM_congr (fun _ _ => fragment_congr) same]

end ConstraintBlock

namespace Request

/-- A request with other constraints. -/
def withConstraints (request : Request) (constraints : Option ConstraintSet) : Request :=
  match request with
  | .count resultClass _ => .count resultClass constraints
  | .resultSet resultClass _ page order => .resultSet resultClass constraints page order
  | .listing resultClass facetClass _ groupBy => .listing resultClass facetClass constraints groupBy
  | .lookup resultClass facetClass _ uri => .lookup resultClass facetClass constraints uri

end Request

namespace Assembler

variable {assembler : Assembler} {constraints others : Option ConstraintSet}

/-- A request reads its constraints through the block that they compose. -/
theorem assemble_congr (same : ∀ facetClass filterTarget,
      ConstraintBlock.compose assembler.portal facetClass constraints filterTarget =
        ConstraintBlock.compose assembler.portal facetClass others filterTarget)
    (request : Request) :
    assembler.assemble (request.withConstraints constraints) =
      assembler.assemble (request.withConstraints others) := by
  have filled : ∀ facetClass filterTarget template,
      assembler.fillFilter facetClass constraints filterTarget template =
        assembler.fillFilter facetClass others filterTarget template := by
    intro facetClass filterTarget template
    rw [fillFilter, fillFilter, same]
  have bodies : assembler.body (request.withConstraints constraints) =
      assembler.body (request.withConstraints others) := by
    cases request with
    | count => simp only [Request.withConstraints, body, countBody, filled]
    | resultSet => simp only [Request.withConstraints, body, resultSetBody, filled]
    | listing => simp only [Request.withConstraints, body, listingBody, filled]
    | lookup => simp only [Request.withConstraints, body, lookupBody, filled]
  have purposes : (request.withConstraints constraints).purpose =
      (request.withConstraints others).purpose := by
    cases request <;> rfl
  rw [assemble, assemble, bodies, purposes]

/-- A request depends on the normal forms of its constraints only: sets with the same ones have the
same outcome, and a set that is all blank has the outcome of none, whatever the portal is.  A
constraint is blank exactly if its normal form says nothing, and all spellings of a year have one
normal form. -/
theorem assemble_normalForms (assembler : Assembler) (request : Request)
    (constraints others : Option ConstraintSet) :
    (ConstraintBlock.normalForms constraints = ConstraintBlock.normalForms others →
      assembler.assemble (request.withConstraints constraints) =
        assembler.assemble (request.withConstraints others)) ∧
    (∀ set : ConstraintSet, (∀ entry ∈ set.entries, entry.2.isBlank = true) →
      assembler.assemble (request.withConstraints (some set)) =
        assembler.assemble (request.withConstraints none)) ∧
    (∀ constraint : Constraint, constraint.isBlank = constraint.normalForm.isEmpty) ∧
    ∀ (year : Int) (bound other : TimeBound) (edge : YearEdge), year.natAbs < 10 ^ 18 →
      bound.Spells year → other.Spells year → bound.printed edge = other.printed edge := by
  refine ⟨?_, ?_, Constraint.isBlank_eq, ?_⟩
  · intro same
    exact assemble_congr (ConstraintBlock.compose_congr same assembler.portal) request
  · intro set blank
    have nothing : active (some set) = [] := by
      apply List.filter_eq_nil_iff.mpr
      intro entry member
      simp [blank entry member]
    have same : ConstraintBlock.normalForms (some set) = ConstraintBlock.normalForms none := by
      rw [ConstraintBlock.normalForms, nothing]
      rfl
    exact assemble_congr (ConstraintBlock.compose_congr same assembler.portal) request
  · intro year bound other edge few spells otherSpells
    exact TimeBound.printed_of_spells few spells otherSpells edge

/-- Two ways to ask for everything from a year on. -/
theorem assemble_normalForms_padded :
    ∃ spelled plain : ConstraintSet, spelled.entries.length = 2 ∧ plain.entries.length = 1 ∧
      ConstraintBlock.normalForms (some spelled) = ConstraintBlock.normalForms (some plain) ∧
      Assembler.assemble ⟨ConstraintBlock.reigns, true⟩ (.count "c" (some spelled)) =
        Assembler.assemble ⟨ConstraintBlock.reigns, true⟩ (.count "c" (some plain)) := by
  have year : TimeBound.Spells 1700 (.year 1700) := .number rfl
  have printed := TimeBound.printed_of_spells (by decide) TimeBound.spells_padded year .first
  let spelled : ConstraintSet := .ofList
    [("f", ⟨.timespan ⟨some (.text " +01700 "), some (.text " ")⟩, true⟩),
      ("g", ⟨.text "\u2003", true⟩)]
  let plain : ConstraintSet := .ofList [("f", ⟨.timespan ⟨some (.year 1700), none⟩, false⟩)]
  have same : ConstraintBlock.normalForms (some spelled) =
    ConstraintBlock.normalForms (some plain) :=
    congrArg (fun day => [("f", NormalForm.timespan (some day) none)]) printed
  exact ⟨spelled, plain, rfl, rfl, same,
    (assemble_normalForms ⟨ConstraintBlock.reigns, true⟩ (.count "c" none) _ _).1 same⟩

end Assembler

end FacetedQuery
