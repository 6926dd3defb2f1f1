import FacetedQuery.Proofs.Clause.Pieces
import FacetedQuery.Proofs.ConstraintBlock.Composition
import FacetedQuery.Proofs.Text.Lowercase

/-!
# Outlines of constraint blocks

The pieces of a block depend on the portal and on the outline of the constraints alone, apart from
the values of the user, each of which is one piece.
-/

namespace FacetedQuery

open Clause (Expression Pattern Piece)
open Outcome (bind_eq_ok mapM_cons_eq_ok mapM_nil_eq_ok)
open Rdf (Iri Literal Variable)

/-- What a query reveals of a constraint besides the values of the user. -/
inductive ConstraintOutline where
  | uris (count : Nat) (withSubconcepts : Bool)
  | text
  | timespan (hasMin hasMax : Bool)
  | box
deriving DecidableEq

namespace Constraint

/-- The kind of a constraint, the number of IRIs that are not blank, the flag and which ends of a
range are given. -/
def outline (constraint : Constraint) : ConstraintOutline :=
  match constraint.value with
  | .uris items => .uris ((items.map Text.trim).filter (· != "")).length constraint.withSubconcepts
  | .text _ => .text
  | .timespan range => .timespan range.lower?.isSome range.upper?.isSome
  | .box _ => .box

/-- The values of the user in normal form, in the order in which a query holds them. -/
def texts (constraint : Constraint) : List String :=
  match constraint.value with
  | .uris items => (items.map Text.trim).filter (· != "")
  | .text content => [Text.lowercase (Text.trim content)]
  | .timespan range =>
    (range.upper?.bind fun bound => bound.upperDate.toOption).toList.map Calendar.Date.render ++
      (range.lower?.bind fun bound => bound.lowerDate.toOption).toList.map Calendar.Date.render
  | .box corners =>
    [corners.latMin, corners.latMax, corners.longMin, corners.longMax].map Decimal.plain

end Constraint

namespace FilterValue

def outline : FilterValue → ConstraintOutline
  | .uris items withSubconcepts => .uris items.length withSubconcepts
  | .text _ => .text
  | .timespan min max => .timespan min.isSome max.isSome
  | .box _ => .box

def texts : FilterValue → List String
  | .uris items _ => items.map (·.text)
  | .text content => [Text.lowercase content]
  | .timespan min max =>
    max.toList.map Calendar.Date.render ++ min.toList.map Calendar.Date.render
  | .box corners =>
    [corners.latMin, corners.latMax, corners.longMin, corners.longMax].map Decimal.plain

end FilterValue

namespace ConstraintBlock

theorem checkUris_eq_ok {items : List String} {iris : List Iri}
    (checked : checkUris items = .ok iris) :
    iris.map (·.text) = (items.map Text.trim).filter (· != "") := by
  unfold checkUris at checked
  generalize (items.map Text.trim).filter (· != "") = kept at checked ⊢
  induction kept generalizing iris with
  | nil =>
      obtain rfl := mapM_nil_eq_ok.mp checked
      rfl
  | cons item kept induction =>
      obtain ⟨first, rest, head, tail, rfl⟩ := mapM_cons_eq_ok.mp checked
      rw [List.map_cons, induction tail]
      congr 1
      cases read : Iri.ofText item with
      | error fault => simp [read] at head
      | ok iri =>
          obtain rfl : iri = first := by simpa [read] using head
          unfold Iri.ofText at read
          split at read
          · cases read
            rfl
          · split at read <;> cases read

theorem checkBound_eq_ok {edge : YearEdge} {bound : Option TimeBound} {date : Option Calendar.Date}
    (checked : checkBound edge bound = .ok date) :
    date.isSome = bound.isSome ∧ date = bound.bind fun bound => (bound.date edge).toOption := by
  cases bound with
  | none =>
      cases checked
      exact ⟨rfl, rfl⟩
  | some bound =>
      obtain ⟨found, read, equality⟩ := bind_eq_ok.mp checked
      cases equality
      exact ⟨rfl, by simp [read, Except.toOption]⟩

/-- What a value is checked to be, and what was checked for it. -/
def Accepts (facet : Facet) (constraint : Constraint) (value : FilterValue) : Prop :=
  match constraint.value with
  | .uris items =>
      ∃ iris, checkUris items = .ok iris ∧ value = .uris iris constraint.withSubconcepts
  | .text content => value = .text (Text.lowercase (Text.trim content))
  | .timespan range => ∃ min max, checkBound .first range.lower? = .ok min ∧
      checkBound .last range.upper? = .ok max ∧ value = .timespan min max
  | .box corners => checkBox facet.id corners = .ok value ∧ value = .box corners

theorem accepts_of_checkValue {facet : Facet} {constraint : Constraint} {value : FilterValue}
    (checked : checkValue facet constraint = .ok value) : Accepts facet constraint value := by
  unfold checkValue at checked
  unfold Accepts
  split at checked
  · cases kind : constraint.value with
    | uris items =>
      simp only [kind] at checked
      obtain ⟨iris, read, equality⟩ := bind_eq_ok.mp checked
      cases equality
      exact ⟨iris, read, rfl⟩
    | text content =>
      simp only [kind] at checked
      cases checked
      rfl
    | timespan range =>
      simp only [kind] at checked
      obtain ⟨min, lower, further⟩ := bind_eq_ok.mp checked
      obtain ⟨max, upper, final⟩ := bind_eq_ok.mp further
      have result : value = .timespan min max := by
        split at final
        · split at final
          · cases final
          · cases final
            rfl
        · cases final
          rfl
      exact ⟨min, max, lower, upper, result⟩
    | box corners =>
      simp only [kind] at checked
      refine ⟨checked, ?_⟩
      unfold checkBox at checked
      split at checked
      · cases checked
      · cases checked
        rfl
  · cases checked

/-- Checking a value keeps its outline and brings its texts into normal form. -/
theorem checkValue_texts {facet : Facet} {constraint : Constraint} {value : FilterValue}
    (checked : checkValue facet constraint = .ok value) :
    value.outline = constraint.outline ∧ value.texts = constraint.texts := by
  have accepts := accepts_of_checkValue checked
  unfold Accepts at accepts
  unfold Constraint.outline Constraint.texts
  split at accepts
  · next items _ =>
    obtain ⟨iris, read, rfl⟩ := accepts
    have texts := checkUris_eq_ok read
    refine ⟨?_, texts⟩
    simp only [FilterValue.outline, ← texts, List.length_map]
  · next content _ =>
    subst accepts
    exact ⟨rfl, by simp [FilterValue.texts, Text.lowercase_lowercase]⟩
  · next range _ =>
    obtain ⟨min, max, lower, upper, rfl⟩ := accepts
    obtain ⟨sameMin, minDate⟩ := checkBound_eq_ok lower
    obtain ⟨sameMax, maxDate⟩ := checkBound_eq_ok upper
    refine ⟨by simp [FilterValue.outline, sameMin, sameMax], ?_⟩
    simp only [FilterValue.texts, minDate, maxDate]
    rfl
  · next corners _ =>
    obtain ⟨-, rfl⟩ := accepts
    exact ⟨rfl, rfl⟩

end ConstraintBlock

namespace Clause

/-- The values from outside that pieces hold. -/
def valuesOf (pieces : List Piece) : List String :=
  pieces.filterMap Piece.value?

/-- Pieces without the values from outside. -/
def outlineOf (pieces : List Piece) : List Piece :=
  pieces.map Piece.outline

section

variable (first second : List Piece)

@[simp] theorem valuesOf_append : valuesOf (first ++ second) = valuesOf first ++ valuesOf second :=
  List.filterMap_append

@[simp] theorem outlineOf_append :
    outlineOf (first ++ second) = outlineOf first ++ outlineOf second :=
  List.map_append

end

@[simp] theorem valuesOf_fixed (tokens : List Sparql.Token) :
    valuesOf (tokens.map .fixed) = [] := by
  induction tokens with
  | nil => rfl
  | cons token tokens induction => exact induction

@[simp] theorem valuesOf_variable (target : Variable) : valuesOf (variablePieces target) = [] :=
  valuesOf_fixed _

@[simp] theorem valuesOf_path (path : PropertyPath) : valuesOf path.pieces = [] :=
  valuesOf_fixed _

theorem valuesOf_cons (piece : Piece) (pieces : List Piece) :
    valuesOf (piece :: pieces) = piece.value?.toList ++ valuesOf pieces := by
  cases piece <;> rfl

@[simp] theorem valuesOf_nil : valuesOf [] = [] :=
  rfl

@[simp] theorem valuesOf_literal (literal : Literal) :
    valuesOf (literalPieces literal) = [literal.value] := by
  unfold literalPieces
  split <;> rfl

@[simp] theorem typed_value (value : String) (datatype : Iri) :
    (Literal.typed value datatype).value = value := by
  unfold Literal.typed
  split <;> rfl

@[simp] theorem valuesOf_iris (items : List Iri) :
    valuesOf (items.map fun item => .iri item.text) = items.map (·.text) := by
  induction items with
  | nil => rfl
  | cons item items induction =>
      rw [List.map_cons, valuesOf_cons, induction]
      rfl

@[simp] theorem valuesOf_members (items : List Iri) :
    valuesOf (Expression.listPieces (items.map .iri)) = items.map (·.text) := by
  induction items with
  | nil => rfl
  | cons item items induction =>
      cases items with
      | nil => rfl
      | cons next items =>
          simp only [List.map_cons, Expression.listPieces, Expression.pieces] at induction ⊢
          rw [valuesOf_append, valuesOf_cons, valuesOf_cons (.mark .comma), induction]
          rfl

theorem outlineOf_cons (piece : Piece) (pieces : List Piece) :
    outlineOf (piece :: pieces) = piece.outline :: outlineOf pieces :=
  rfl

@[simp] theorem outlineOf_nil : outlineOf [] = [] :=
  rfl

/-- The kind of a literal without its value. -/
def kindPieces (literal : Literal) : List Piece :=
  .text "" ::
    match literal.kind with
    | .plain => []
    | .tagged language => [.fixed (.language language)]
    | .typed datatype => [.mark .doubleCaret, .datatype datatype]

@[simp] theorem outlineOf_literal (literal : Literal) :
    outlineOf (literalPieces literal) = kindPieces literal := by
  cases kind : literal.kind <;> simp [literalPieces, kindPieces, kind] <;> rfl

/-- The pieces of a literal with a datatype, which is left out if it is that of plain literals. -/
def typedPieces (datatype : Iri) : List Piece :=
  if datatype = Rdf.xsdString then [.text ""]
  else [.text "", .mark .doubleCaret, .datatype datatype]

@[simp] theorem kindPieces_typed (value : String) (datatype : Iri) :
    kindPieces (.typed value datatype) = typedPieces datatype := by
  unfold Literal.typed typedPieces
  split <;> rfl

theorem outlineOf_iris {first second : List Iri} (same : first.length = second.length) :
    outlineOf (first.map fun item => .iri item.text) =
      outlineOf (second.map fun item => .iri item.text) := by
  simp [outlineOf, Function.comp_def, Piece.outline, List.map_const', same]

theorem outlineOf_members {first second : List Iri} (same : first.length = second.length) :
    outlineOf (Expression.listPieces (first.map .iri)) =
      outlineOf (Expression.listPieces (second.map .iri)) := by
  induction first generalizing second with
  | nil =>
      obtain rfl := List.eq_nil_of_length_eq_zero same.symm
      rfl
  | cons item first induction =>
      cases second with
      | nil => cases same
      | cons other second =>
          have sameTail : first.length = second.length := by simpa using same
          have tails := induction sameTail
          cases first with
          | nil =>
              obtain rfl := List.eq_nil_of_length_eq_zero sameTail.symm
              rfl
          | cons next first =>
              cases second with
              | nil => cases sameTail
              | cons otherNext second =>
                  simp only [List.map_cons, Expression.listPieces, Expression.pieces] at tails ⊢
                  rw [outlineOf_append, outlineOf_append, outlineOf_cons (.mark .comma),
                    outlineOf_cons (.mark .comma), tails]
                  rfl

end Clause

namespace Filter

open Clause (valuesOf outlineOf valuesOf_cons outlineOf_cons)

variable {facetClass : String} {facet : Facet} {target : Variable} {value : FilterValue}
  {patterns : List Pattern}

/-- Every value of the user is one piece of the patterns. -/
theorem valuesOf_patterns (made : Filter.patterns facetClass facet target value = .ok patterns) :
    valuesOf (Pattern.listPieces patterns) = value.texts := by
  cases patterns_eq_ok.mp made with
  | exact =>
      simp [ofExactUris, Pattern.listPieces, Pattern.pieces, Pattern.link, Clause.Node.pieces,
        Expression.pieces, valuesOf_cons, Piece.value?, Piece.word, Piece.mark, FilterValue.texts]
  | concepts =>
      simp [ofConcepts, Pattern.listPieces, Pattern.pieces, Pattern.link, Clause.Node.pieces,
        valuesOf_cons, Piece.value?, Piece.word, Piece.mark, FilterValue.texts]
  | text =>
      simp [Pattern.listPieces, Pattern.pieces, Pattern.link, Clause.Node.pieces,
        Expression.pieces, Expression.listPieces, Literal.plain, valuesOf_cons, Piece.value?,
        Piece.word, Piece.mark, FilterValue.texts]
  | @timespan min max =>
      cases min <;> cases max <;>
        simp [ofSpan, overlapConditions, Expression.all?, dateLiteral, Pattern.listPieces,
          Pattern.pieces, Pattern.link, Clause.Node.pieces, Expression.pieces,
          Expression.listPieces, valuesOf_cons, Piece.value?, Piece.word, Piece.mark,
          FilterValue.texts]
  | place | located =>
      simp [ofLocation, between, Literal.double, Pattern.listPieces, Pattern.pieces,
        Pattern.link, Clause.Node.pieces, Expression.pieces, valuesOf_cons, Piece.value?,
        Piece.word, Piece.mark, Piece.datatype, FilterValue.texts]

/-- The pieces of two values with one outline differ in the values of the user alone. -/
theorem outlineOf_patterns {other : FilterValue} {otherPatterns : List Pattern}
    (made : Filter.patterns facetClass facet target value = .ok patterns)
    (otherMade : Filter.patterns facetClass facet target other = .ok otherPatterns)
    (same : other.outline = value.outline) :
    outlineOf (Pattern.listPieces otherPatterns) = outlineOf (Pattern.listPieces patterns) := by
  -- Values of different kinds have different outlines; those of one kind have the same paths and
  -- variables, which the facet determines.
  cases patterns_eq_ok.mp made with
  | @exact items _ _ path binds =>
      cases patterns_eq_ok.mp otherMade with
      | @exact otherItems _ _ otherPath otherBinds =>
          obtain rfl := otherBinds.unique binds
          obtain rfl := Option.some.inj (otherPath.symm.trans path)
          have sameLength : otherItems.length = items.length := by
            simpa [FilterValue.outline] using same
          simp [ofExactUris, Pattern.listPieces, Pattern.pieces, Pattern.link,
            Expression.pieces, outlineOf_cons, Clause.outlineOf_members sameLength]
      | _ => simp [FilterValue.outline] at same
  | @concepts items _ _ _ _ path up binds bindsBelow =>
      cases patterns_eq_ok.mp otherMade with
      | @concepts otherItems _ _ _ _ otherPath otherUp otherBinds otherBelow =>
          obtain rfl := otherBinds.unique binds
          obtain rfl := otherBelow.unique bindsBelow
          obtain rfl := Option.some.inj (otherPath.symm.trans path)
          obtain rfl := Option.some.inj (otherUp.symm.trans up)
          have sameLength : otherItems.length = items.length := by
            simpa [FilterValue.outline] using same
          simp [ofConcepts, Pattern.listPieces, Pattern.pieces, Pattern.link,
            outlineOf_cons, Clause.outlineOf_iris sameLength]
      | _ => simp [FilterValue.outline] at same
  | text found binds =>
      cases patterns_eq_ok.mp otherMade with
      | text otherFound otherBinds =>
          obtain rfl := otherBinds.unique binds
          obtain rfl := Option.some.inj (otherFound.symm.trans found)
          simp [Pattern.listPieces, Pattern.pieces, Pattern.link, Expression.pieces,
            Expression.listPieces, outlineOf_cons, Clause.kindPieces, Literal.plain]
      | _ => cases same
  | @timespan min max _ _ _ _ _ path found bindsSpan bindsStart bindsStop =>
      cases patterns_eq_ok.mp otherMade with
      | @timespan otherMin otherMax _ _ _ _ _ otherPath otherFound otherSpan otherStart otherStop =>
          obtain rfl := otherSpan.unique bindsSpan
          obtain rfl := otherStart.unique bindsStart
          obtain rfl := otherStop.unique bindsStop
          obtain rfl := Option.some.inj (otherPath.symm.trans path)
          obtain rfl := Option.some.inj (otherFound.symm.trans found)
          obtain ⟨sameMin, sameMax⟩ : otherMin.isSome = min.isSome ∧
              otherMax.isSome = max.isSome := by
            simpa [FilterValue.outline] using same
          cases min <;> cases otherMin <;> simp at sameMin <;>
            cases max <;> cases otherMax <;> simp at sameMax <;>
            simp [ofSpan, overlapConditions, Expression.all?, dateLiteral, Pattern.listPieces,
              Pattern.pieces, Pattern.link, Expression.pieces, Expression.listPieces,
              outlineOf_cons]
      | _ => cases same
  | place nowhere found bindsLatitude bindsLongitude =>
      cases patterns_eq_ok.mp otherMade with
      | place _ otherFound otherLatitude otherLongitude =>
          obtain rfl := otherLatitude.unique bindsLatitude
          obtain rfl := otherLongitude.unique bindsLongitude
          obtain rfl := Option.some.inj (otherFound.symm.trans found)
          simp [ofLocation, between, Literal.double, Pattern.listPieces, Pattern.pieces,
            Pattern.link, Expression.pieces, outlineOf_cons]
      | located otherPath => cases nowhere.symm.trans otherPath
      | _ => cases same
  | located path found binds bindsLatitude bindsLongitude =>
      cases patterns_eq_ok.mp otherMade with
      | located otherPath otherFound otherBinds otherLatitude otherLongitude =>
          obtain rfl := otherBinds.unique binds
          obtain rfl := otherLatitude.unique bindsLatitude
          obtain rfl := otherLongitude.unique bindsLongitude
          obtain rfl := Option.some.inj (otherFound.symm.trans found)
          obtain rfl := Option.some.inj (otherPath.symm.trans path)
          simp [ofLocation, between, Literal.double, Pattern.listPieces, Pattern.pieces,
            Pattern.link, Expression.pieces, outlineOf_cons]
      | place nowhere => cases nowhere.symm.trans path
      | _ => cases same

end Filter

namespace Clause

theorem listPieces_append (first second : List Pattern) :
    Pattern.listPieces (first ++ second) =
      Pattern.listPieces first ++ Pattern.listPieces second := by
  induction first with
  | nil => simp [Pattern.listPieces]
  | cons element first induction => simp [Pattern.listPieces, induction]

end Clause

namespace ConstraintBlock

open Clause (valuesOf outlineOf listPieces_append)

/-- The pieces of all patterns of a block. -/
def pieces (block : ConstraintBlock) : List Piece :=
  Pattern.listPieces block.elements

/-- What a query reveals of constraints besides the values of the user. -/
def outline (constraints : Option ConstraintSet) : List (String × ConstraintOutline) :=
  (active constraints).map fun entry => (entry.1, entry.2.outline)

/-- The values of the user in normal form, in the order in which a query holds them. -/
def texts (constraints : Option ConstraintSet) : List String :=
  (active constraints).flatMap fun entry => entry.2.texts

variable {portal : Portal} {facetClass filterTarget : String} {spec : ResultClass}
  {target : Variable}

theorem valuesOf_fragments {entries : List (String × Constraint)}
    {fragments : List (List Pattern)}
    (made : entries.mapM (fragment facetClass spec target) = .ok fragments) :
    valuesOf (Pattern.listPieces fragments.flatten) =
      entries.flatMap fun entry => entry.2.texts := by
  induction entries generalizing fragments with
  | nil =>
      obtain rfl := mapM_nil_eq_ok.mp made
      rfl
  | cons entry entries induction =>
      obtain ⟨first, rest, head, tail, rfl⟩ := mapM_cons_eq_ok.mp made
      obtain ⟨facet, value, parts⟩ := fragment_eq_ok.mp head
      rw [List.flatten_cons, listPieces_append, Clause.valuesOf_append, induction tail,
        Filter.valuesOf_patterns parts.made, (checkValue_texts parts.checked).2,
        List.flatMap_cons]

theorem outlineOf_fragments {entries others : List (String × Constraint)}
    {fragments otherFragments : List (List Pattern)}
    (made : entries.mapM (fragment facetClass spec target) = .ok fragments)
    (otherMade : others.mapM (fragment facetClass spec target) = .ok otherFragments)
    (same : others.map (fun entry => (entry.1, entry.2.outline)) =
      entries.map fun entry => (entry.1, entry.2.outline)) :
    outlineOf (Pattern.listPieces otherFragments.flatten) =
      outlineOf (Pattern.listPieces fragments.flatten) := by
  induction entries generalizing others fragments otherFragments with
  | nil =>
      obtain rfl := List.map_eq_nil_iff.mp same
      obtain rfl := mapM_nil_eq_ok.mp made
      obtain rfl := mapM_nil_eq_ok.mp otherMade
      rfl
  | cons entry entries induction =>
      cases others with
      | nil => cases same
      | cons other others =>
          obtain ⟨⟨sameFacet, sameOutline⟩, sameTail⟩ :
              (other.1 = entry.1 ∧ other.2.outline = entry.2.outline) ∧
                others.map (fun entry => (entry.1, entry.2.outline)) =
                  entries.map fun entry => (entry.1, entry.2.outline) := by
            simpa using same
          obtain ⟨first, rest, head, tail, rfl⟩ := mapM_cons_eq_ok.mp made
          obtain ⟨otherFirst, otherRest, otherHead, otherTail, rfl⟩ := mapM_cons_eq_ok.mp otherMade
          obtain ⟨facet, value, parts⟩ := fragment_eq_ok.mp head
          obtain ⟨otherFacet, otherValue, otherParts⟩ := fragment_eq_ok.mp otherHead
          have sameKnown := otherParts.known
          rw [sameFacet, parts.known] at sameKnown
          obtain rfl := Option.some.inj sameKnown
          have sameValue : otherValue.outline = value.outline := by
            rw [(checkValue_texts otherParts.checked).1, (checkValue_texts parts.checked).1,
              sameOutline]
          rw [List.flatten_cons, List.flatten_cons, listPieces_append, listPieces_append,
            Clause.outlineOf_append, Clause.outlineOf_append, induction tail otherTail sameTail,
            Filter.outlineOf_patterns parts.made otherParts.made sameValue]

theorem valuesOf_pieces {constraints : Option ConstraintSet} {block : ConstraintBlock}
    (composed : compose portal facetClass constraints filterTarget = .ok block) :
    valuesOf block.pieces = texts constraints := by
  rcases compose_eq_ok.mp composed with
    ⟨nothing, rfl⟩ | ⟨-, spec, target, fragments, -, -, made, rfl⟩
  · rw [texts, nothing]
    rfl
  · exact valuesOf_fragments made

/-- The pieces of constraints with one outline differ in the values of the user alone. -/
theorem outlineOf_pieces {constraints others : Option ConstraintSet}
    {block other : ConstraintBlock}
    (composed : compose portal facetClass constraints filterTarget = .ok block)
    (otherComposed : compose portal facetClass others filterTarget = .ok other)
    (same : outline others = outline constraints) :
    outlineOf other.pieces = outlineOf block.pieces := by
  have sameLength := congrArg List.length same
  simp only [outline, List.length_map] at sameLength
  rcases compose_eq_ok.mp composed with
    ⟨nothing, rfl⟩ | ⟨something, spec, target, fragments, known, name, made, rfl⟩
  · rcases compose_eq_ok.mp otherComposed with ⟨-, rfl⟩ | ⟨something, -⟩
    · rfl
    · rw [nothing] at sameLength
      exact absurd (List.eq_nil_of_length_eq_zero sameLength) something
  · rcases compose_eq_ok.mp otherComposed with
      ⟨nothing, -⟩ |
      ⟨-, otherSpec, otherTarget, otherFragments, otherKnown, otherName, otherMade, rfl⟩
    · rw [nothing] at sameLength
      exact absurd (List.eq_nil_of_length_eq_zero sameLength.symm) something
    · obtain rfl := Except.ok.inj (otherKnown.symm.trans known)
      obtain rfl := Rdf.Variable.ext_name (otherName.trans name.symm)
      exact outlineOf_fragments made otherMade same

end ConstraintBlock

end FacetedQuery
