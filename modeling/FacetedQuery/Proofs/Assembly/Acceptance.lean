import FacetedQuery.Proofs.Assembly.Absent
import FacetedQuery.Proofs.ConstraintBlock.Refusal
import FacetedQuery.Proofs.ConstraintBlock.Values
import FacetedQuery.Proofs.Text.Bytes

/-!
# Constraints that are taken

Constraints are taken exactly if every active one fits the facet that it names: the facet is there,
its id makes variables, it accepts the kind of the constraint and has the paths that it needs, and
the value is well formed.  Otherwise the first active constraint that does not fit is refused for
what is wrong with it, whatever comes after it, and a listing or a lookup fails for the same reason,
whether or not its template has a place for the constraints.
-/

namespace FacetedQuery

open Calendar (Date)
open Outcome (bind_eq_error bind_eq_ok bind_of_error bind_of_ok exists_mapM_iff mapError_eq_error
  mapError_eq_ok mapM_eq_error_iff)
open Rdf (Iri Variable)

namespace Facet

/-- The id of a facet makes a variable with every suffix. -/
def NamesVariables (facet : Facet) : Prop :=
  ∀ suffix ∈ Filter.suffixes, Rdf.Name.isVariable (facet.id ++ suffix).toList = true

/-- A facet has the paths that a constraint needs. -/
def Provides (facet : Facet) (constraint : Constraint) : Prop :=
  match constraint.value with
  | .uris _ => facet.predicate.isSome = true ∧
      (constraint.withSubconcepts = true → facet.parent.isSome = true)
  | .text _ => facet.labelPath.isSome = true
  | .timespan _ => facet.predicate.isSome = true ∧ facet.timespan.isSome = true
  | .box _ => facet.spatial.isSome = true

/-- A facet takes a constraint. -/
structure Takes (facet : Facet) (constraint : Constraint) : Prop where
  names : facet.NamesVariables
  kind : facet.accepts constraint.kind = true
  value : constraint.value.WellFormed
  paths : facet.Provides constraint

end Facet

namespace Filter

open ConstraintBlock (Accepts)

variable {context : Context}

theorem exists_binds {suffix : String} (member : suffix ∈ suffixes) :
    (∃ target, context.Binds suffix target) ↔ context.facet.NamesVariables := by
  constructor
  · rintro ⟨target, binds⟩ other known
    have wellFormed := target.wellFormed
    rw [binds] at wellFormed
    exact isVariable_append_suffix known wellFormed
  · intro names
    exact ⟨⟨_, names suffix member⟩, rfl⟩

/-- A facet restricts entities to IRIs by its predicate, and to those below them by its parent
property. -/
theorem exists_ofUris {items : List Iri} {withSubconcepts : Bool} :
    (∃ made, ofUris context items withSubconcepts = .ok made) ↔
      context.facet.NamesVariables ∧ context.facet.predicate.isSome = true ∧
        (withSubconcepts = true → context.facet.parent.isSome = true) := by
  have filter := @exists_binds context "Filter" (by decide)
  have subconcepts := @exists_binds context "FilterWithSubconcepts" (by decide)
  simp only [Option.isSome_iff_exists]
  cases withSubconcepts with
  | false =>
      simp only [ofUris_exact_eq_ok]
      constructor
      · rintro ⟨_, path, fresh, isPath, isFresh, -⟩
        exact ⟨filter.mp ⟨fresh, isFresh⟩, ⟨path, isPath⟩, nofun⟩
      · rintro ⟨names, ⟨path, isPath⟩, -⟩
        obtain ⟨fresh, isFresh⟩ := filter.mpr names
        exact ⟨_, path, fresh, isPath, isFresh, rfl⟩
  | true =>
      simp only [ofUris_concepts_eq_ok]
      constructor
      · rintro ⟨_, path, parent, fresh, below, isPath, isParent, isFresh, isBelow, -⟩
        exact ⟨filter.mp ⟨fresh, isFresh⟩, ⟨path, isPath⟩, fun _ => ⟨parent, isParent⟩⟩
      · rintro ⟨names, ⟨path, isPath⟩, parents⟩
        obtain ⟨parent, isParent⟩ := parents trivial
        obtain ⟨fresh, isFresh⟩ := filter.mpr names
        obtain ⟨below, isBelow⟩ := subconcepts.mpr names
        exact ⟨_, path, parent, fresh, below, isPath, isParent, isFresh, isBelow, rfl⟩

theorem exists_ofText {content : String} :
    (∃ made, ofText context content = .ok made) ↔
      context.facet.NamesVariables ∧ context.facet.labelPath.isSome = true := by
  have labels := @exists_binds context "Label" (by decide)
  simp only [Option.isSome_iff_exists, ofText_eq_ok]
  constructor
  · rintro ⟨_, path, label, isPath, isLabel, -⟩
    exact ⟨labels.mp ⟨label, isLabel⟩, path, isPath⟩
  · rintro ⟨names, path, isPath⟩
    obtain ⟨label, isLabel⟩ := labels.mpr names
    exact ⟨_, path, label, isPath, isLabel, rfl⟩

theorem exists_ofTimespan {min max : Option Date} :
    (∃ made, ofTimespan context min max = .ok made) ↔
      context.facet.NamesVariables ∧ context.facet.predicate.isSome = true ∧
        context.facet.timespan.isSome = true := by
  have spans := @exists_binds context "Timespan" (by decide)
  simp only [Option.isSome_iff_exists, ofTimespan_eq_ok]
  constructor
  · rintro ⟨_, path, ends, span, start, stop, isPath, areEnds, isSpan, -⟩
    exact ⟨spans.mp ⟨span, isSpan⟩, ⟨path, isPath⟩, ends, areEnds⟩
  · rintro ⟨names, ⟨path, isPath⟩, ends, areEnds⟩
    obtain ⟨span, isSpan⟩ := spans.mpr names
    obtain ⟨start, isStart⟩ := (exists_binds (by decide : "Start" ∈ suffixes)).mpr names
    obtain ⟨stop, isStop⟩ := (exists_binds (by decide : "End" ∈ suffixes)).mpr names
    exact ⟨_, path, ends, span, start, stop, isPath, areEnds, isSpan, isStart, isStop, rfl⟩

/-- A box asks for coordinates, but not for a predicate. -/
theorem exists_ofBox {box : GeoBox} :
    (∃ made, ofBox context box = .ok made) ↔
      context.facet.NamesVariables ∧ context.facet.spatial.isSome = true := by
  have latitudes := @exists_binds context "Lat" (by decide)
  simp only [Option.isSome_iff_exists, ofBox_eq_ok]
  constructor
  · rintro ⟨_, ends, latitude, longitude, areEnds, isLatitude, -⟩
    exact ⟨latitudes.mp ⟨latitude, isLatitude⟩, ends, areEnds⟩
  · rintro ⟨names, ends, areEnds⟩
    obtain ⟨latitude, isLatitude⟩ := latitudes.mpr names
    obtain ⟨longitude, isLongitude⟩ := (exists_binds (by decide : "Long" ∈ suffixes)).mpr names
    cases path : context.facet.predicate with
    | none =>
        exact ⟨_, ends, latitude, longitude, areEnds, isLatitude, isLongitude, .inl ⟨rfl, rfl⟩⟩
    | some predicate =>
        obtain ⟨located, isLocated⟩ := (exists_binds (by decide : "Filter" ∈ suffixes)).mpr names
        exact ⟨_, ends, latitude, longitude, areEnds, isLatitude, isLongitude,
          .inr ⟨predicate, located, rfl, isLocated, rfl⟩⟩

/-- A value of a facet has patterns exactly if the facet has the paths and the variables for
them. -/
theorem exists_patterns {facetClass : String} {facet : Facet} {target : Variable}
    {constraint : Constraint} {value : FilterValue} (accepted : Accepts facet constraint value) :
    (∃ made, patterns facetClass facet target value = .ok made) ↔
      facet.NamesVariables ∧ facet.Provides constraint := by
  obtain ⟨given, withSubconcepts⟩ := constraint
  cases given with
  | uris items =>
      obtain ⟨iris, -, rfl⟩ := accepted
      exact exists_ofUris
  | text content =>
      obtain rfl := accepted
      exact exists_ofText
  | timespan range =>
      obtain ⟨min, max, -, -, rfl⟩ := accepted
      exact exists_ofTimespan
  | box corners =>
      obtain ⟨-, rfl⟩ := accepted
      exact exists_ofBox

end Filter

namespace ConstraintBlock

/-- A class has the facet of a constraint, which takes the constraint. -/
def Fits (spec : ResultClass) (entry : String × Constraint) : Prop :=
  ∃ facet, spec.facet? entry.1 = some facet ∧ facet.Takes entry.2

/-- What is wrong with a constraint for a class. -/
inductive Flaw (facetClass : String) (spec : ResultClass) (entry : String × Constraint) :
    Fault → Prop where
  | unknownFacet : spec.facet? entry.1 = none →
      Flaw facetClass spec entry (.configuration (.unknownFacet spec.id entry.1))
  | kind {facet : Facet} : spec.facet? entry.1 = some facet →
      facet.accepts entry.2.kind = false →
      Flaw facetClass spec entry
        (.validation (.filterKindMismatch entry.1 facet.kind.name entry.2.kind.name))
  | value {facet : Facet} {fault : ValidationFault} : spec.facet? entry.1 = some facet →
      entry.2.value.Flaw entry.1 fault → Flaw facetClass spec entry (.validation fault)
  | lacks {facet : Facet} {value : FilterValue} {fault : ConfigurationFault} :
      spec.facet? entry.1 = some facet → checkValue facet entry.2 = .ok value →
      Filter.Lacks facetClass facet value fault → Flaw facetClass spec entry (.configuration fault)

variable {portal : Portal} {facetClass filterTarget : String} {constraints : Option ConstraintSet}
  {spec : ResultClass} {target : Variable} {entry : String × Constraint} {fault : Fault}

/-- A constraint becomes patterns exactly if it fits. -/
theorem exists_fragment :
    (∃ patterns, fragment facetClass spec target entry = .ok patterns) ↔ Fits spec entry := by
  simp only [fragment_eq_ok]
  constructor
  · rintro ⟨patterns, facet, value, known, checked, made⟩
    have accepted := accepts_of_checkValue checked
    obtain ⟨names, paths⟩ := (Filter.exists_patterns accepted).mp ⟨patterns, made⟩
    obtain ⟨kind, wellFormed⟩ := exists_checkValue.mp ⟨value, checked⟩
    exact ⟨facet, known, names, kind, wellFormed, paths⟩
  · rintro ⟨facet, known, names, kind, wellFormed, paths⟩
    obtain ⟨value, checked⟩ := exists_checkValue.mpr ⟨kind, wellFormed⟩
    have accepted := accepts_of_checkValue checked
    obtain ⟨patterns, made⟩ := (Filter.exists_patterns accepted).mpr ⟨names, paths⟩
    exact ⟨patterns, facet, value, known, checked, made⟩

/-- A constraint that does not fit is refused for one of its flaws. -/
theorem flaw_of_fragment (failed : fragment facetClass spec target entry = .error fault) :
    Flaw facetClass spec entry fault := by
  cases unsuited_of_fragment failed with
  | unknownFacet unknown =>
      obtain ⟨missing, rfl⟩ := ResultClass.facet_eq_error.mp unknown
      exact .unknownFacet missing
  | @invalidValue facet _ found invalid =>
      have known := ResultClass.facet_eq_ok.mp found
      rcases checkValue_eq_error invalid with ⟨mismatch, rfl⟩ | flaw
      · rw [ResultClass.id_of_facet? known]
        exact .kind known mismatch
      · rw [ResultClass.id_of_facet? known] at flaw
        exact .value known flaw
  | lacks found checked lacks =>
      exact .lacks (ResultClass.facet_eq_ok.mp found) checked lacks

theorem compose_of_active (nonempty : active constraints ≠ []) :
    compose portal facetClass constraints filterTarget =
      ofActive portal facetClass filterTarget (active constraints) := by
  cases constraints with
  | none => exact absurd rfl nonempty
  | some set =>
      have notBlank : set.isBlank = false := by simpa [active, ConstraintSet.isBlank] using nonempty
      simp [compose, notBlank, active]

/-- With a class and a target the constraints are worked off one after the other. -/
theorem ofActive_eq (known : portal.resultClass facetClass = .ok spec)
    (legal : target.name = filterTarget) (entries : List (String × Constraint)) :
    ofActive portal facetClass filterTarget entries =
      (entries.mapM (fragment facetClass spec target)).map fun fragments =>
        ⟨fragments.flatten⟩ := by
  rw [ofActive, bind_of_ok (mapError_eq_ok.mpr known), Variable.ofName?_eq_some.mpr legal]
  dsimp only
  cases entries.mapM (fragment facetClass spec target) <;> rfl

theorem exists_ofActive (known : portal.resultClass facetClass = .ok spec)
    (legal : target.name = filterTarget) {entries : List (String × Constraint)} :
    (∃ block, ofActive portal facetClass filterTarget entries = .ok block) ↔
      ∀ entry ∈ entries, Fits spec entry := by
  have worked : (∃ block, ofActive portal facetClass filterTarget entries = .ok block) ↔
      ∃ fragments, entries.mapM (fragment facetClass spec target) = .ok fragments := by
    rw [ofActive_eq known legal]
    cases entries.mapM (fragment facetClass spec target) <;> simp [Except.map]
  rw [worked, exists_mapM_iff]
  simp only [exists_fragment]

/-- The first constraint that has no patterns is refused, whatever comes after it. -/
theorem ofActive_eq_error (known : portal.resultClass facetClass = .ok spec)
    (legal : target.name = filterTarget)
    (failing : fragment facetClass spec target entry = .error fault)
    (before after : List (String × Constraint)) (fitting : ∀ other ∈ before, Fits spec other) :
    ofActive portal facetClass filterTarget (before ++ entry :: after) = .error fault := by
  have failed : (before ++ entry :: after).mapM (fragment facetClass spec target) =
      .error fault := by
    apply mapM_eq_error_iff.mpr
    refine ⟨before, entry, after, rfl, ?_, failing⟩
    intro other member
    exact exists_fragment.mpr (fitting other member)
  rw [ofActive_eq known legal, failed]
  rfl

theorem compose_of_unknownClass (nonempty : active constraints ≠ [])
    (missing : ∀ spec, portal.resultClass facetClass ≠ .ok spec) :
    compose portal facetClass constraints filterTarget =
      .error (.configuration (.unknownResultClass facetClass)) := by
  rw [compose_of_active nonempty]
  apply bind_of_error
  exact mapError_eq_error.mpr ⟨_, Portal.resultClass_eq_error.mpr ⟨missing, rfl⟩, rfl⟩

theorem compose_of_illegalTarget (nonempty : active constraints ≠ [])
    (known : portal.resultClass facetClass = .ok spec)
    (illegal : Rdf.Name.isVariable filterTarget.toList = false) :
    compose portal facetClass constraints filterTarget =
      .error (.configuration (.invalidVariableName filterTarget)) := by
  have noVariable : Variable.ofName? filterTarget = none := by simp [Variable.ofName?, illegal]
  rw [compose_of_active nonempty, ofActive, bind_of_ok (mapError_eq_ok.mpr known), noVariable]

theorem exists_compose : (∃ block, compose portal facetClass constraints filterTarget = .ok block) ↔
    active constraints = [] ∨ (Rdf.Name.isVariable filterTarget.toList = true ∧
      ∃ spec, portal.resultClass facetClass = .ok spec ∧
        ∀ entry ∈ active constraints, Fits spec entry) := by
  rcases eq_or_ne (active constraints) [] with nothing | nonempty
  · simp only [nothing, true_or, iff_true]
    exact ⟨.empty, compose_eq_ok.mpr (.inl ⟨nothing, rfl⟩)⟩
  constructor
  · rintro ⟨block, composed⟩
    right
    cases known : portal.resultClass facetClass with
    | error problem =>
        have missing := (Portal.resultClass_eq_error.mp known).1
        cases composed.symm.trans (compose_of_unknownClass nonempty missing)
    | ok spec =>
        cases legal : Rdf.Name.isVariable filterTarget.toList with
        | false => cases composed.symm.trans (compose_of_illegalTarget nonempty known legal)
        | true =>
            rw [compose_of_active nonempty] at composed
            have target : (⟨filterTarget, legal⟩ : Variable).name = filterTarget := rfl
            exact ⟨rfl, spec, rfl, (exists_ofActive known target).mp ⟨block, composed⟩⟩
  · rintro (nothing | ⟨legal, spec, known, fitting⟩)
    · exact absurd nothing nonempty
    · have target : (⟨filterTarget, legal⟩ : Variable).name = filterTarget := rfl
      rw [compose_of_active nonempty]
      exact (exists_ofActive known target).mpr fitting

theorem exists_flaw (known : portal.resultClass facetClass = .ok spec)
    (legal : target.name = filterTarget) (unfit : ¬Fits spec entry) :
    ∃ fault, Flaw facetClass spec entry fault ∧
      ∀ before after : List (String × Constraint), (∀ other ∈ before, Fits spec other) →
        ofActive portal facetClass filterTarget (before ++ entry :: after) = .error fault := by
  cases failing : fragment facetClass spec target entry with
  | ok patterns => exact absurd (exists_fragment.mp ⟨patterns, failing⟩) unfit
  | error fault =>
      exact ⟨fault, flaw_of_fragment failing, ofActive_eq_error known legal failing⟩

theorem active_pairwise (constraints : Option ConstraintSet) :
    (active constraints).Pairwise fun earlier later =>
      Text.encodeUtf8 earlier.1.toList < Text.encodeUtf8 later.1.toList := by
  simp only [Text.encodeUtf8_lt_iff]
  cases constraints with
  | none => exact .nil
  | some set => exact set.ordered.filter _

end ConstraintBlock

namespace Assembler

/-- A listing or a lookup that gets as far as its constraints, with the class whose facets interpret
them and the variable that they restrict. -/
inductive Consults (assembler : Assembler) : Request → String → String → Prop where
  | listing {resultClass : String} {requested : Option String} {constraints : Option ConstraintSet}
      {groupBy : Bool} {route : ListingRoute} {template : Template} :
      assembler.portal.listing resultClass = .ok route →
      listingTemplate resultClass (route.variant groupBy).query = .ok template →
      Consults assembler (.listing resultClass requested constraints groupBy)
        (facetClass requested route.facetClass resultClass) route.filterTarget
  | lookup {resultClass uri : String} {requested : Option String}
      {constraints : Option ConstraintSet} {route : LookupRoute} {iri : Iri} :
      assembler.portal.lookup resultClass = .ok route → Iri.ofText uri = .ok iri →
      Consults assembler (.lookup resultClass requested constraints uri)
        (facetClass requested route.facetClass resultClass) "related__id"

variable {assembler : Assembler} {request : Request} {facets filterTarget : String} {fault : Fault}

/-- Constraints are checked even if the template has no place for them. -/
theorem Consults.assemble_eq_error (consults : assembler.Consults request facets filterTarget)
    (refused : ConstraintBlock.compose assembler.portal facets request.constraints filterTarget =
      .error fault) : assembler.assemble request = .error fault := by
  apply bind_of_error
  cases consults with
  | @listing resultClass requested constraints groupBy route template routed made =>
      have failed : assembler.listingBody route resultClass requested constraints groupBy =
          .error fault :=
        (bind_of_ok (mapError_eq_ok.mpr made)).trans (bind_of_error (fillFilter_of_error refused _))
      exact (bind_of_ok (mapError_eq_ok.mpr routed)).trans (bind_of_error failed)
  | @lookup resultClass uri requested constraints route iri routed read =>
      have failed : assembler.lookupBody resultClass requested constraints uri = .error fault :=
        (bind_of_ok (mapError_eq_ok.mpr routed)).trans
          ((bind_of_ok (mapError_eq_ok.mpr read)).trans
            (bind_of_error (fillFilter_of_error refused _)))
      exact bind_of_error failed

end Assembler

namespace ConstraintBlock

/-- Constraints are taken exactly if none is active, or the class is there, the target is a variable
and every active constraint fits.  Otherwise the class is refused, else the target, else the first
constraint that does not fit for one of its flaws, and a listing or a lookup that reads them fails
for the same reason. -/
theorem compose_takes_fitting (portal : Portal) (facetClass filterTarget : String)
    (constraints : Option ConstraintSet) :
    ((∃ block, compose portal facetClass constraints filterTarget = .ok block) ↔
      active constraints = [] ∨ (Rdf.Name.isVariable filterTarget.toList = true ∧
        ∃ spec, portal.resultClass facetClass = .ok spec ∧
          ∀ entry ∈ active constraints, Fits spec entry)) ∧
    (active constraints ≠ [] → (∀ spec, portal.resultClass facetClass ≠ .ok spec) →
      compose portal facetClass constraints filterTarget =
        .error (.configuration (.unknownResultClass facetClass))) ∧
    (∀ spec, active constraints ≠ [] → portal.resultClass facetClass = .ok spec →
      Rdf.Name.isVariable filterTarget.toList = false →
      compose portal facetClass constraints filterTarget =
        .error (.configuration (.invalidVariableName filterTarget))) ∧
    (∀ spec entry, portal.resultClass facetClass = .ok spec →
      Rdf.Name.isVariable filterTarget.toList = true → ¬Fits spec entry →
      ∃ fault, Flaw facetClass spec entry fault ∧ ∀ (others : Option ConstraintSet) (before after),
        active others = before ++ entry :: after → (∀ other ∈ before, Fits spec other) →
        compose portal facetClass others filterTarget = .error fault) ∧
    (active constraints).Pairwise (fun earlier later =>
      Text.encodeUtf8 earlier.1.toList < Text.encodeUtf8 later.1.toList) ∧
    ∀ (assembler : Assembler) (request : Request) (fault : Fault), assembler.portal = portal →
      request.constraints = constraints → assembler.Consults request facetClass filterTarget →
      compose portal facetClass constraints filterTarget = .error fault →
      assembler.assemble request = .error fault := by
  refine ⟨exists_compose, compose_of_unknownClass, fun _ => compose_of_illegalTarget, ?_,
    active_pairwise constraints, ?_⟩
  · intro spec entry known legal unfit
    have target : (⟨filterTarget, legal⟩ : Variable).name = filterTarget := rfl
    obtain ⟨fault, flaw, first⟩ := exists_flaw known target unfit
    refine ⟨fault, flaw, ?_⟩
    intro others before after parts fitting
    have nonempty : active others ≠ [] := by simp [parts]
    rw [compose_of_active nonempty, parts]
    exact first before after fitting
  · rintro assembler request fault rfl rfl consults refused
    exact consults.assemble_eq_error refused

theorem compose_takes_fitting_single :
    ∃ spec, (single "f" "ex:p").resultClass "c" = .ok spec ∧
      (∃ block, compose (single "f" "ex:p") "c" (selection "f") "id" = .ok block) ∧
      ∃ fault, Flaw "c" spec ("g", ⟨.uris ["http://a/"], false⟩) fault ∧
        compose (single "f" "ex:p") "c" (selection "g") "id" = .error fault := by
  have legal : Rdf.Name.isVariable "id".toList = true := by decide
  obtain ⟨spec, known, found, missing⟩ : ∃ spec, (single "f" "ex:p").resultClass "c" = .ok spec ∧
      spec.facet? "f" = some (.ofUris "f" "ex:p") ∧ spec.facet? "g" = none :=
    ⟨⟨"c", ["ex:C"], "", none, [.ofUris "f" "ex:p"]⟩, rfl, rfl, rfl⟩
  refine ⟨spec, known, ?_, ?_⟩
  · apply (compose_takes_fitting (single "f" "ex:p") "c" "id" (selection "f")).1.mpr
    refine .inr ⟨legal, spec, known, ?_⟩
    intro entry member
    obtain rfl : entry = ("f", ⟨.uris ["http://a/"], false⟩) := List.mem_singleton.mp member
    refine ⟨_, found, ?_⟩
    constructor
    case names =>
      intro suffix member
      exact Filter.isVariable_append_suffix member
        (show Rdf.Name.isVariable ("f" ++ "Label").toList = true by decide)
    case kind => rfl
    case value =>
      intro item inside _
      obtain rfl := List.mem_singleton.mp inside
      decide
    case paths => exact ⟨rfl, nofun⟩
  · obtain ⟨-, -, -, refuses, -⟩ :=
      compose_takes_fitting (single "f" "ex:p") "c" "id" (selection "g")
    obtain ⟨fault, flaw, first⟩ := refuses spec ("g", ⟨.uris ["http://a/"], false⟩) known legal (by
      rintro ⟨facet, isFacet, -⟩
      cases missing.symm.trans isFacet)
    exact ⟨fault, flaw, first (selection "g") [] [] rfl nofun⟩

/-- A constraint from a year on that lies beyond the range of dates. -/
def farFuture : Constraint :=
  ⟨.timespan ⟨some (.year 6000000000000), none⟩, false⟩

/-- A portal of one class with one facet of time spans. -/
def reigns : Portal where
  prefixes := [⟨"ex", "http://ex/"⟩]
  resultClasses := [⟨"c", ["ex:C"], "", none, [Facet.ofTimespan "f" "ex:p" "ex:s" "ex:e"]⟩]
  listings := []
  lookups := []

/-- A constraint whose bound is a year may be refused although it meets everything else. -/
theorem exists_refused_year :
    ∃ spec facet, reigns.resultClass "c" = .ok spec ∧ spec.facet? "f" = some facet ∧
      facet.NamesVariables ∧ facet.accepts farFuture.kind = true ∧ facet.Provides farFuture ∧
      Rdf.Name.isVariable "id".toList = true ∧
      compose reigns "c" (some (.ofList [("f", farFuture)])) "id" =
        .error (.validation (.invalidTimeBound (Decimal.integer 6000000000000))) := by
  have year : (6000000000000 : Int64).toInt = 6000000000000 := by decide
  have bound : TimeBound.date .first (.year 6000000000000) =
      .error (.invalidTimeBound (Decimal.integer 6000000000000)) := by
    rw [TimeBound.date, year]
    exact TimeBound.yearDate_eq_error.mpr ⟨by decide, rfl⟩
  let facet := Facet.ofTimespan "f" "ex:p" "ex:s" "ex:e"
  have value : checkValue facet farFuture =
      .error (.invalidTimeBound (Decimal.integer 6000000000000)) :=
    (if_pos rfl).trans (bind_of_error (bind_of_error bound))
  have known : reigns.resultClass "c" = .ok ⟨"c", ["ex:C"], "", none, [facet]⟩ := rfl
  have legal : Rdf.Name.isVariable "id".toList = true := by decide
  have refused : fragment "c" ⟨"c", ["ex:C"], "", none, [facet]⟩ ⟨"id", legal⟩ ("f", farFuture) =
      .error (.validation (.invalidTimeBound (Decimal.integer 6000000000000))) :=
    (bind_of_ok rfl).trans (bind_of_error (mapError_eq_error.mpr ⟨_, value, rfl⟩))
  refine ⟨_, facet, known, rfl, ?_, rfl, ⟨rfl, rfl⟩, legal, ?_⟩
  · intro suffix member
    exact Filter.isVariable_append_suffix member (show Rdf.Name.isVariable ("f" ++ "Start").toList =
      true by decide)
  · have active : active (some (.ofList [("f", farFuture)])) = [("f", farFuture)] := rfl
    have nonempty : ConstraintBlock.active (some (.ofList [("f", farFuture)])) ≠
      [] := by simp [active]
    rw [compose_of_active nonempty, active]
    exact ofActive_eq_error known rfl refused [] [] fun _ member => absurd member List.not_mem_nil

end ConstraintBlock

end FacetedQuery
