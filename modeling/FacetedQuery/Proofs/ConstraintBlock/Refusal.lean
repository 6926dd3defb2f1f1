import FacetedQuery.Proofs.ConstraintBlock.Composition

/-!
# Refused constraints

Why no block is composed.  Either the class or the target of the constraints is unfit, or there is a
single active constraint that its facet does not take: it names no facet, its value is malformed, or
the facet lacks a part that the value needs.
-/

namespace FacetedQuery

open Outcome (bind_eq_error mapError_eq_error mapM_eq_error)
open Rdf (Variable)

namespace Filter

/-- Whether the patterns for a value start from the values of the facet. -/
def needsPredicate : FilterValue → Bool
  | .uris _ _ => true
  | .timespan _ _ => true
  | _ => false

/-- A part that a facet lacks for a value, or a variable that its id does not make. -/
inductive Lacks (facetClass : String) (facet : Facet) :
    FilterValue → ConfigurationFault → Prop where
  | predicate {value : FilterValue} : needsPredicate value = true → facet.predicate = none →
      Lacks facetClass facet value (.missingPredicate facetClass facet.id)
  | parent {items : List Rdf.Iri} : facet.parent = none →
      Lacks facetClass facet (.uris items true)
        (.missingFacetProperty facetClass facet.id "parent property")
  | labelPath {content : String} : facet.labelPath = none →
      Lacks facetClass facet (.text content)
        (.missingFacetProperty facetClass facet.id "label path")
  | timespan {min max : Option Calendar.Date} : facet.timespan = none →
      Lacks facetClass facet (.timespan min max)
        (.missingFacetProperty facetClass facet.id "timespan start and end properties")
  | spatial {corners : GeoBox} : facet.spatial = none →
      Lacks facetClass facet (.box corners)
        (.missingFacetProperty facetClass facet.id "latitude and longitude properties")
  | illegalVariable {value : FilterValue} {suffix : String} : suffix ∈ suffixes →
      Variable.ofName? (facet.id ++ suffix) = none →
      Lacks facetClass facet value (.invalidVariableName facet.id)

theorem facetVariable_eq_error {facet suffix : String} {fault : ConfigurationFault} :
    facetVariable facet suffix = .error fault ↔
      Variable.ofName? (facet ++ suffix) = none ∧ .invalidVariableName facet = fault := by
  unfold facetVariable
  cases Variable.ofName? (facet ++ suffix) <;> simp

namespace Context

variable {context : Context} {fault : ConfigurationFault}

theorem predicate_eq_error :
    context.predicate = .error fault ↔ context.facet.predicate = none ∧
      .missingPredicate context.facetClass context.facet.id = fault := by
  unfold predicate
  cases context.facet.predicate <;> simp

theorem need_eq_error {part : Option α} {property : String} :
    context.need part property = .error fault ↔ part = none ∧ context.missing property = fault := by
  unfold need
  cases part <;> simp

theorem fresh_eq_error {suffix : String} :
    context.fresh suffix = .error fault ↔
      Variable.ofName? (context.facet.id ++ suffix) = none ∧
        .invalidVariableName context.facet.id = fault :=
  facetVariable_eq_error

end Context

variable {facetClass : String} {facet : Facet} {target : Variable} {value : FilterValue}
  {fault : ConfigurationFault}

theorem lacks_fresh {suffix : String} (member : suffix ∈ suffixes)
    (failed : Context.fresh ⟨facetClass, facet, target⟩ suffix = .error fault) :
    Lacks facetClass facet value fault := by
  obtain ⟨illegal, rfl⟩ := Context.fresh_eq_error.mp failed
  exact .illegalVariable member illegal

theorem lacks_predicate (needs : needsPredicate value = true)
    (failed : Context.predicate ⟨facetClass, facet, target⟩ = .error fault) :
    Lacks facetClass facet value fault := by
  obtain ⟨missing, rfl⟩ := Context.predicate_eq_error.mp failed
  exact .predicate needs missing

/-- Without patterns something is lacking. -/
theorem lacks_of_patterns (failed : patterns facetClass facet target value = .error fault) :
    Lacks facetClass facet value fault := by
  -- A fault comes from the first step that fails; each step needs one part of the facet or makes
  -- one of its variables.
  cases value with
  | uris items withSubconcepts =>
      rcases bind_eq_error.mp failed with failed | ⟨predicate, -, failed⟩
      · exact lacks_predicate rfl failed
      rcases bind_eq_error.mp failed with failed | ⟨found, -, failed⟩
      · exact lacks_fresh (by decide) failed
      cases withSubconcepts with
      | false => cases failed
      | true =>
          rcases bind_eq_error.mp failed with failed | ⟨parent, -, failed⟩
          · obtain ⟨missing, rfl⟩ := Context.need_eq_error.mp failed
            exact .parent missing
          rcases bind_eq_error.mp failed with failed | ⟨below, -, failed⟩
          · exact lacks_fresh (by decide) failed
          · cases failed
  | text content =>
      rcases bind_eq_error.mp failed with failed | ⟨path, -, failed⟩
      · obtain ⟨missing, rfl⟩ := Context.need_eq_error.mp failed
        exact .labelPath missing
      rcases bind_eq_error.mp failed with failed | ⟨label, -, failed⟩
      · exact lacks_fresh (by decide) failed
      · cases failed
  | timespan min max =>
      rcases bind_eq_error.mp failed with failed | ⟨predicate, -, failed⟩
      · exact lacks_predicate rfl failed
      rcases bind_eq_error.mp failed with failed | ⟨paths, -, failed⟩
      · obtain ⟨missing, rfl⟩ := Context.need_eq_error.mp failed
        exact .timespan missing
      rcases bind_eq_error.mp failed with failed | ⟨span, -, failed⟩
      · exact lacks_fresh (by decide) failed
      rcases bind_eq_error.mp failed with failed | ⟨start, -, failed⟩
      · exact lacks_fresh (by decide) failed
      rcases bind_eq_error.mp failed with failed | ⟨stop, -, failed⟩
      · exact lacks_fresh (by decide) failed
      · cases failed
  | box corners =>
      rcases bind_eq_error.mp failed with failed | ⟨paths, -, failed⟩
      · obtain ⟨missing, rfl⟩ := Context.need_eq_error.mp failed
        exact .spatial missing
      rcases bind_eq_error.mp failed with failed | ⟨latitude, -, failed⟩
      · exact lacks_fresh (by decide) failed
      rcases bind_eq_error.mp failed with failed | ⟨longitude, -, failed⟩
      · exact lacks_fresh (by decide) failed
      split at failed
      · rcases bind_eq_error.mp failed with failed | ⟨located, -, failed⟩
        · exact lacks_fresh (by decide) failed
        · cases failed
      · cases failed

end Filter

namespace ConstraintBlock

/-- Why a constraint is not taken by a class. -/
inductive Unsuited (facetClass : String) (spec : ResultClass) (entry : String × Constraint) :
    Fault → Prop where
  | unknownFacet {fault : ConfigurationFault} : spec.facet entry.1 = .error fault →
      Unsuited facetClass spec entry (.configuration fault)
  | invalidValue {facet : Facet} {fault : ValidationFault} : spec.facet entry.1 = .ok facet →
      checkValue facet entry.2 = .error fault → Unsuited facetClass spec entry (.validation fault)
  | lacks {facet : Facet} {value : FilterValue} {fault : ConfigurationFault} :
      spec.facet entry.1 = .ok facet → checkValue facet entry.2 = .ok value →
      Filter.Lacks facetClass facet value fault →
      Unsuited facetClass spec entry (.configuration fault)

/-- Why constraints are refused that are read with the facets of a class. -/
inductive Refused (portal : Portal) (facetClass filterTarget : String)
    (constraints : Option ConstraintSet) : Fault → Prop where
  | unknownClass {fault : ConfigurationFault} : active constraints ≠ [] →
      portal.resultClass facetClass = .error fault →
      Refused portal facetClass filterTarget constraints (.configuration fault)
  | illegalTarget : active constraints ≠ [] → Variable.ofName? filterTarget = none →
      Refused portal facetClass filterTarget constraints
        (.configuration (.invalidVariableName filterTarget))
  | unsuited {spec : ResultClass} {entry : String × Constraint} {fault : Fault} :
      portal.resultClass facetClass = .ok spec → entry ∈ active constraints →
      Unsuited facetClass spec entry fault →
      Refused portal facetClass filterTarget constraints fault

variable {portal : Portal} {facetClass filterTarget : String} {constraints : Option ConstraintSet}
  {fault : Fault}

theorem unsuited_of_fragment {spec : ResultClass} {target : Variable} {entry : String × Constraint}
    (failed : fragment facetClass spec target entry = .error fault) :
    Unsuited facetClass spec entry fault := by
  rcases bind_eq_error.mp failed with failed | ⟨facet, known, failed⟩
  · obtain ⟨inner, unknown, rfl⟩ := mapError_eq_error.mp failed
    exact .unknownFacet unknown
  have known := Outcome.mapError_eq_ok.mp known
  rcases bind_eq_error.mp failed with failed | ⟨value, checked, failed⟩
  · obtain ⟨inner, invalid, rfl⟩ := mapError_eq_error.mp failed
    exact .invalidValue known invalid
  · obtain ⟨inner, missing, rfl⟩ := mapError_eq_error.mp failed
    exact .lacks known (Outcome.mapError_eq_ok.mp checked) (Filter.lacks_of_patterns missing)

/-- Without a block the constraints are refused for a reason. -/
theorem refused_of_compose
    (failed : compose portal facetClass constraints filterTarget = .error fault) :
    Refused portal facetClass filterTarget constraints fault := by
  cases constraints with
  | none => cases failed
  | some set =>
      unfold compose at failed
      dsimp only at failed
      split at failed
      · cases failed
      next notBlank =>
        have nonempty : active (some set) ≠ [] := by
          simpa [active, ConstraintSet.isBlank] using notBlank
        rcases bind_eq_error.mp failed with failed | ⟨spec, known, failed⟩
        · obtain ⟨inner, unknown, rfl⟩ := mapError_eq_error.mp failed
          exact .unknownClass nonempty unknown
        · have known := Outcome.mapError_eq_ok.mp known
          split at failed
          · next illegal =>
            cases failed
            exact .illegalTarget nonempty illegal
          · rcases bind_eq_error.mp failed with failed | ⟨fragments, -, failed⟩
            · obtain ⟨entry, member, failed⟩ := mapM_eq_error failed
              exact .unsuited known member (unsuited_of_fragment failed)
            · cases failed

end ConstraintBlock

end FacetedQuery
