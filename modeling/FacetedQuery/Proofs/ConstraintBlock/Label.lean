import FacetedQuery.Proofs.ConstraintBlock.Meaning
import FacetedQuery.Proofs.Text.Context

/-!
# Text constraints and the labels they find

A text constraint is a test on the lowercase of a label.  For a store that lowercases as the texts
of constraints are lowercased, it finds every label that the text occurs in if the text is steady,
and misses one of them otherwise.
-/

namespace FacetedQuery

open Clause (Binding Expression Operators lexical?)
open Rdf (Term Variable)

/-- The condition that a text constraint puts on a label. -/
def textCondition (label : Variable) (content : String) : Expression :=
  .call .contains [.call .lcase [.call .str [.var label]],
    .literal (.plain (Text.lowercase (Text.trim content)))]

/-- A condition on a label holds whatever term has a text as its label. -/
def Clause.Expression.Finds (operators : Operators) (label : Variable) (condition : Expression)
    (lexical : String) : Prop :=
  ∀ (solution : Binding) (term : Term), solution label = some term →
    lexical? term = some lexical → condition.Holds operators solution

namespace ConstraintBlock

variable {operators : Operators} {label : Variable} {content : String}

theorem finds_textCondition (full : operators.lowercase = Text.lowercase) (lexical : String) :
    (textCondition label content).Finds operators label lexical ↔
      (Text.lowercase (Text.trim content)).toList <:+: (Text.lowercase lexical).toList := by
  have holds : ∀ (solution : Binding) (term : Term), solution label = some term →
      lexical? term = some lexical →
      ((textCondition label content).Holds operators solution ↔
        (Text.lowercase (Text.trim content)).toList <:+: (Text.lowercase lexical).toList) := by
    intro solution term bound text
    rw [textCondition, Expression.holds_contains bound, text, full]
    simp
  constructor
  · intro finds
    let solution : Binding := Binding.single label (.literal (.plain lexical))
    have bound : solution label = some (.literal (.plain lexical)) := Function.update_self ..
    exact (holds solution _ bound rfl).mp (finds solution _ bound rfl)
  · intro part solution term bound text
    exact (holds solution term bound text).mpr part

theorem steady_iff_finds (full : operators.lowercase = Text.lowercase) :
    Text.Steady (Text.trim content).toList ↔
      ∀ lexical : String, (Text.trim content).toList <:+: lexical.toList →
        (textCondition label content).Finds operators label lexical := by
  rw [Text.steady_iff]
  simp only [finds_textCondition full, Text.lowercase, String.toList_ofList]
  constructor
  · intro found lexical part
    exact found lexical.toList part
  · intro found whole part
    have listed : (String.ofList whole).toList = whole := String.toList_ofList
    exact listed ▸ found (String.ofList whole) (listed.symm ▸ part)

theorem fragment_text {facetClass : String} {spec : ResultClass} {target : Variable}
    {facet : Facet} {id path : String} {withSubconcepts : Bool}
    (known : spec.facet? id = some facet) (accepts : facet.accepts .text = true)
    (labelled : facet.labelPath = some path) (named : label.name = facet.id ++ "Label") :
    fragment facetClass spec target (id, ⟨.text content, withSubconcepts⟩) =
      .ok [.link target path label, .filter (textCondition label content)] := by
  have checked : checkValue facet ⟨.text content, withSubconcepts⟩ =
      .ok (.text (Text.lowercase (Text.trim content))) :=
    if_pos accepts
  have made : Filter.patterns facetClass facet target
      (.text (Text.lowercase (Text.trim content))) =
        .ok [.link target path label, .filter (textCondition label content)] := by
    refine Filter.ofText_eq_ok.mpr ⟨path, label, labelled, named, ?_⟩
    rw [Text.lowercase_lowercase]
    rfl
  exact fragment_eq_ok.mpr ⟨facet, _, known, checked, made⟩

/-- A text constraint becomes a test on the labels of an entity.  It holds for the labels that hold
the text when both are lowercased, which are all labels that hold the text if the text is steady,
and in particular if no capital sigma is in it, but not otherwise. -/
theorem text_finds_parts_iff_steady {facetClass : String} {spec : ResultClass}
    {target : Variable} {facet : Facet} {id path : String} {withSubconcepts : Bool}
    (known : spec.facet? id = some facet) (accepts : facet.accepts .text = true)
    (labelled : facet.labelPath = some path) (named : label.name = facet.id ++ "Label")
    (full : operators.lowercase = Text.lowercase) :
    fragment facetClass spec target (id, ⟨.text content, withSubconcepts⟩) =
        .ok [.link target path label, .filter (textCondition label content)] ∧
      (∀ lexical, (textCondition label content).Finds operators label lexical ↔
        (Text.lowercase (Text.trim content)).toList <:+: (Text.lowercase lexical).toList) ∧
      ((∀ lexical : String, (Text.trim content).toList <:+: lexical.toList →
          (textCondition label content).Finds operators label lexical) ↔
        Text.Steady (Text.trim content).toList) ∧
      ('Σ' ∉ (Text.trim content).toList → Text.Steady (Text.trim content).toList) :=
  ⟨fragment_text known accepts labelled named, finds_textCondition full,
    (steady_iff_finds full).symm, Text.steady_of_not_mem⟩

/-- A class whose only facet is a label. -/
def labelledClass : ResultClass :=
  ⟨"c", ["ex:C"], "", none, [Facet.ofText "name" "ex:name"]⟩

def idVariable : Variable :=
  ⟨"id", by decide⟩

def nameLabel : Variable :=
  ⟨"nameLabel", by decide⟩

/-- A text without a capital sigma finds all labels that it occurs in. -/
theorem text_finds_parts_gospel :
    fragment "c" labelledClass idVariable ("name", ⟨.text " Gospel ", false⟩) =
        .ok [.link idVariable "ex:name" nameLabel,
          .filter (textCondition nameLabel " Gospel ")] ∧
      ∀ lexical : String, "Gospel".toList <:+: lexical.toList →
        (textCondition nameLabel " Gospel ").Finds syntactic nameLabel lexical := by
  have known : labelledClass.facet? "name" = some (Facet.ofText "name" "ex:name") := rfl
  have trimmed : Text.trim " Gospel " = "Gospel" := by decide +kernel
  obtain ⟨made, -, found, steady⟩ := @text_finds_parts_iff_steady syntactic nameLabel " Gospel "
    "c" labelledClass idVariable _ _ _ false known rfl rfl rfl rfl
  rw [trimmed] at found steady
  exact ⟨made, found.mpr (steady (by decide))⟩

/-- A text that ends in a capital sigma does not find a label in which a letter follows it. -/
theorem exists_missed_label :
    ∃ content lexical : String,
      fragment "c" labelledClass idVariable ("name", ⟨.text content, false⟩) =
          .ok [.link idVariable "ex:name" nameLabel, .filter (textCondition nameLabel content)] ∧
        Text.blank content = false ∧ (Text.trim content).toList <:+: lexical.toList ∧
        ¬(textCondition nameLabel content).Finds syntactic nameLabel lexical := by
  refine ⟨"ΟΔΟΣ", "ΟΔΟΣΑ", fragment_text rfl rfl rfl rfl, by decide +kernel, by decide +kernel, ?_⟩
  rw [finds_textCondition rfl]
  decide +kernel

end ConstraintBlock

end FacetedQuery
