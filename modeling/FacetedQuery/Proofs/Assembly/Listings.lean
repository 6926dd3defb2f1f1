import FacetedQuery.Proofs.Assembly.Outcomes
import FacetedQuery.Proofs.Assembly.Pages
import FacetedQuery.Proofs.Clause.Lines
import FacetedQuery.Proofs.ConstraintBlock.Bare
import FacetedQuery.Proofs.Text.Dense

/-!
# Queries of listings

What the query of a listing was made from, and why a blank line in it can only come from its
template: the patterns of a block stand on lines of their own, each with something to be seen.
-/

namespace FacetedQuery

open Clause (LinePath Pattern)
open Outcome (bind_eq_ok mapError_eq_ok)
open Rdf (Iri)

theorem Text.dense_iff {text : String} :
    Text.Dense text ↔ ∀ line ∈ Text.trimmedLines text.toList, line ≠ "" := by
  rw [← Text.map_trim_linesOf]
  simp [Text.Dense]

namespace ConstraintBlock

variable {portal : Portal} {facetClass filterTarget : String} {constraints : Option ConstraintSet}
  {block : ConstraintBlock}

/-- No line of a block is blank. -/
theorem dense_of_compose
    (lines : ∀ spec ∈ portal.resultClasses, ∀ facet ∈ spec.facets, ∀ named ∈ facet.paths,
      LinePath named.path)
    (composed : compose portal facetClass constraints filterTarget = .ok block) :
    Text.Dense block.render := by
  have uses := uses_of_compose Clause.linePath_zeroOrMore lines composed
  rw [Text.dense_iff, render]
  split
  · decide +kernel
  · next notEmpty =>
    have nonempty : block.elements.map Pattern.render ≠ [] := by
      simpa [isEmpty] using notEmpty
    have onLines : ∀ line ∈ block.elements.map Pattern.render, '\n' ∉ line.toList := by
      intro line member
      obtain ⟨element, inside, rfl⟩ := List.mem_map.mp member
      exact Pattern.line_of_mem uses inside
    rw [Text.trimmedLines_join onLines nonempty]
    intro line member
    obtain ⟨text, inside, rfl⟩ := List.mem_map.mp member
    obtain ⟨element, -, rfl⟩ := List.mem_map.mp inside
    have shown := Text.trimChars_ne_nil element.visible
    simpa [Text.trim] using shown

end ConstraintBlock

theorem Portal.Presentable.lines {portal : Portal} (presentable : portal.Presentable) :
    ∀ spec ∈ portal.resultClasses, ∀ facet ∈ spec.facets, ∀ named ∈ facet.paths,
      LinePath named.path :=
  fun spec member facet inside named isPath =>
    (((presentable.classes spec member).facets facet inside).paths named isPath).plain.onLine

/-- Something can be seen on every line that declares a prefix. -/
theorem Portal.shown_declarations {portal : Portal}
    (sound : ∀ declaration ∈ portal.prefixes, declaration.Sound) :
    ∀ line ∈ portal.declarationLines, Text.trim line ≠ "" := by
  intro line member
  obtain ⟨declaration, inside, member⟩ := List.mem_flatMap.mp member
  have noFeed : '\n' ∉ declaration.name.toList := fun feed =>
    ((sound declaration inside).plain '\n' feed).2.1 rfl
  have iri :=
    (Sparql.Token.Spelled.iri ⟨_, (sound declaration inside).absolute⟩ .nil (by simp)).line
  have text : ("PREFIX " ++ declaration.name ++ ": <" ++ declaration.iri ++ ">").toList =
      'P' :: ("REFIX ".toList ++ declaration.name.toList ++ ": ".toList ++
        '<' :: (declaration.iri.toList ++ ['>'])) := by
    simp
  have onLine : '\n' ∉ ("PREFIX " ++ declaration.name ++ ": <" ++
    declaration.iri ++ ">").toList := by
    rw [text]
    simp only [List.mem_cons, List.mem_append, not_or] at iri ⊢
    exact ⟨by decide, ⟨⟨by decide, noFeed⟩, by decide⟩, iri⟩
  rw [Text.linesOf, Text.splitLines_of_line onLine] at member
  obtain rfl := List.mem_singleton.mp member
  rw [Text.trim, String.toList_ofList, text]
  intro isEmpty
  exact @Text.trimChars_ne_nil ('P' :: _) rfl (String.ofList_eq_empty_iff.mp isEmpty)

namespace Template

variable {fills : List (Placeholder × List Char)}

/-- A finished text has no blank line if no line of its template becomes one. -/
theorem dense_strip {last closing : String} {lines : List String}
    (filled : fillAll fills last.toList = closing.toList) (onLine : '\n' ∉ closing.toList)
    (closed : Text.Closed closing.toList) (shown : Text.trim closing ≠ "")
    (dense : ∀ line ∈ lines, ∀ part ∈ Text.trimmedLines (fillAll fills line.toList), part ≠ "") :
    Text.Dense (String.ofList (Text.strip (fillAll fills
      (Text.join "\n" (lines ++ [last])).toList))) := by
  have nonempty : closing ≠ "" := by
    rintro rfl
    exact shown rfl
  unfold Text.Dense
  rw [linesOf_strip filled onLine closed nonempty]
  intro line member
  rcases List.mem_append.mp member with member | member
  · obtain ⟨source, inside, from_⟩ := List.mem_flatMap.mp member
    refine dense source inside _ ?_
    rw [← map_trim_filledLines]
    exact List.mem_map_of_mem from_
  · obtain rfl : line = closing := by simpa using member
    exact shown

theorem trimmedLines_of_free {line : String} (free : Free line.toList)
    (onLine : '\n' ∉ line.toList) :
    Text.trimmedLines (fillAll fills line.toList) = [Text.trim line] := by
  rw [fillAll_of_free free, Text.trimmedLines, Text.splitLines_of_line onLine]
  rfl

theorem trimmedLines_slot {placeholder : Placeholder} {inset line : String} {value : List Char}
    (spaces : Spaces inset.toList) (onLine : '\n' ∉ inset.toList)
    (isLine : line = inset ++ placeholder.token) :
    Text.trimmedLines (fillAll [(placeholder, value)] line.toList) = Text.trimmedLines value := by
  have filled := @fillAll_slot [] [] placeholder value inset.toList (by simp) spaces onLine
  rw [isLine, String.toList_append,
    show [(placeholder, value)] = [] ++ [(placeholder, value)] from rfl,
    filled, fillAll_nil, Text.trimmedLines_inset spaces.blank onLine,
    Text.trimmedLines_indent spaces.blank onLine]

end Template

namespace Assembler

variable {assembler : Assembler} {query : AssembledQuery} {resultClass : String}
  {requested : Option String} {constraints : Option ConstraintSet} {groupBy : Bool}

/-- The query of a listing is its template with the block in its place. -/
theorem listing_of_assemble
    (assembled : assembler.assemble (.listing resultClass requested constraints groupBy) =
      .ok query) :
    ∃ route template block body, assembler.portal.listing resultClass = .ok route ∧
      listingTemplate resultClass (route.variant groupBy).query = .ok template ∧
      ConstraintBlock.compose assembler.portal (facetClass requested route.facetClass resultClass)
        constraints route.filterTarget = .ok block ∧
      (template.fill .filter block.render).finish = .ok body ∧
      query = ⟨assembler.portal.prefixDeclarations ++ body, (route.variant groupBy).shape⟩ := by
  obtain ⟨built, isBuilt, -, rfl⟩ := assemble_eq_ok.mp assembled
  obtain ⟨route, known, further⟩ := bind_eq_ok.mp isBuilt
  obtain ⟨body, isBody, same⟩ := bind_eq_ok.mp further
  obtain ⟨template, isTemplate, further⟩ := bind_eq_ok.mp isBody
  obtain ⟨filled, isFilled, finished⟩ := bind_eq_ok.mp further
  obtain ⟨block, composed, isFill⟩ := bind_eq_ok.mp isFilled
  cases same
  cases isFill
  exact ⟨route, template, block, body, mapError_eq_ok.mp known, mapError_eq_ok.mp isTemplate,
    composed, mapError_eq_ok.mp finished, rfl⟩

/-- The query of a lookup is its template with the block and the entity in their places. -/
theorem lookup_of_assemble {uri : String}
    (assembled : assembler.assemble (.lookup resultClass requested constraints uri) = .ok query) :
    ∃ route iri block body, assembler.portal.lookup resultClass = .ok route ∧
      Iri.ofText uri = .ok iri ∧
      ConstraintBlock.compose assembler.portal (facetClass requested route.facetClass resultClass)
        constraints "related__id" = .ok block ∧
      ((((Template.ofText resultClass Template.instanceQuery).fill .properties
        route.properties).fill .relatedInstances route.relatedInstances).fill .filter
          block.render |>.fill .id iri.render).finish = .ok body := by
  obtain ⟨built, isBuilt, -⟩ := assemble_eq_ok.mp assembled
  obtain ⟨body, isBody, -⟩ := bind_eq_ok.mp isBuilt
  obtain ⟨route, known, further⟩ := bind_eq_ok.mp isBody
  obtain ⟨iri, isIri, further⟩ := bind_eq_ok.mp further
  obtain ⟨filled, isFilled, finished⟩ := bind_eq_ok.mp further
  obtain ⟨block, composed, isFill⟩ := bind_eq_ok.mp isFilled
  cases isFill
  exact ⟨route, iri, block, body, mapError_eq_ok.mp known, mapError_eq_ok.mp isIri, composed,
    mapError_eq_ok.mp finished⟩

theorem nodes_of_assemble {nodesQuery text : String} {ids : List Iri}
    (assembled : assembler.assembleNodes nodesQuery ids = .ok text) :
    ∃ body, ((Template.ofText "network nodes" nodesQuery).fill .idSet
        (Text.join " " (ids.map Iri.render))).finish = .ok body ∧
      text = assembler.portal.prefixDeclarations ++ body := by
  obtain ⟨body, finished, completed⟩ := bind_eq_ok.mp assembled
  exact ⟨body, finished, (complete_eq_ok.mp completed).2.symm⟩

/-- Only listings are networks. -/
theorem listing_of_network {request : Request} {nodesQuery : String}
    (assembled : assembler.assemble request = .ok query)
    (network : query.shape = .network nodesQuery) :
    ∃ resultClass requested constraints groupBy,
      request = .listing resultClass requested constraints groupBy := by
  obtain ⟨built, isBuilt, -, rfl⟩ := assemble_eq_ok.mp assembled
  cases request with
  | listing resultClass requested constraints groupBy => exact ⟨_, _, _, _, rfl⟩
  | _ =>
      obtain ⟨body, -, same⟩ := bind_eq_ok.mp isBuilt
      cases same
      cases network

end Assembler

end FacetedQuery
