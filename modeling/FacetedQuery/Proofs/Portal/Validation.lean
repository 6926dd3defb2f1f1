import FacetedQuery.Portal.Validation
import FacetedQuery.Proofs.Assembly.Agreement
import FacetedQuery.Proofs.Assembly.Listings
import FacetedQuery.Proofs.ConstraintBlock.Sealed
import Mathlib.Data.List.Infix

/-!
# What the checks of a portal establish

A portal is valid exactly if it passes each of its checks.  From this it is read off what its
requests may rely on: the classes that its routes name are there, the ids of its facets make all
variables, and its templates hold no placeholders but those that every request fills in.
-/

namespace FacetedQuery

open Outcome (bind_eq_ok bind_of_ok mapError_eq_ok)
open Rdf (Variable)
open Sparql (Token)
open Sparql.Token (Spelled)
open Sparql.Grammar (exists_query query? selectTokens)
open Template (Free HoldsOnly fillAll holdsOnly_nil)

namespace Template

theorem holds_line {placeholder : Placeholder} {lines : List String} (line : String)
    (member : line ∈ lines) (place : placeholder.token.toList <:+: line.toList) :
    Holds (Text.join "\n" lines).toList placeholder.name.toList :=
  holds_place (place.trans (Sheet.infix_join member))

theorem holds_countQuery : Holds countQuery.toList Placeholder.facetClass.name.toList := by
  rw [countQuery_eq]
  exact holds_line "  VALUES ?facetClass \x7b <FACET_CLASS> \x7d" (by decide) (by decide +kernel)

theorem holds_resultSetQuery : Holds resultSetQuery.toList Placeholder.facetClass.name.toList ∧
    Holds resultSetQuery.toList Placeholder.resultSetProperties.name.toList := by
  rw [resultSetQuery_eq]
  exact ⟨holds_line "      VALUES ?facetClass \x7b <FACET_CLASS> \x7d" (by decide)
    (by decide +kernel), holds_line "  <RESULT_SET_PROPERTIES>" (by simp) (by decide +kernel)⟩

end Template

namespace Portal

variable {portal : Portal}

theorem carryOut_eq_ok {checks : List Check} : (portal.carryOut checks).outcome = .ok () ↔
    ∀ check ∈ checks, (check.report portal).outcome = .ok () := by
  induction checks with
  | nil => simp [carryOut]
  | cons check checks induction =>
      rw [carryOut, List.forall_mem_cons, ← induction]
      cases (check.report portal).outcome with
      | error fault => simp
      | ok value => simp

theorem validate_eq_ok :
    portal.validate = .ok () ↔ ∀ check ∈ portal.checks, (check.report portal).outcome = .ok () :=
  carryOut_eq_ok

theorem assembled_eq_ok {request : Request} {query : AssembledQuery} :
    (portal.assembled request).2 = .ok query ↔
      (Assembler.mk portal true).assemble request = .ok query := by
  unfold Portal.assembled
  cases (Assembler.mk portal true).assemble request <;> simp

theorem passes_assembly {request : Request} :
    ((Check.assembly request).report portal).outcome = .ok () ↔
      ∃ query, (Assembler.mk portal true).assemble request = .ok query := by
  have sequence : ((Check.assembly request).report portal).outcome =
      (portal.assembled request).2 >>= fun _ => .ok () := rfl
  rw [sequence, bind_eq_ok]
  simp only [assembled_eq_ok, and_true]

theorem passes_listing {resultClass : String} {groupBy : Bool}
    (passes : ((Check.listing resultClass groupBy).report portal).outcome = .ok ()) :
    ∃ query, (Assembler.mk portal true).assemble (.listing resultClass none none groupBy) =
      .ok query ∧ portal.nodesOutcome query = .ok () := by
  have sequence : ((Check.listing resultClass groupBy).report portal).outcome =
      (portal.assembled (.listing resultClass none none groupBy)).2 >>= portal.nodesOutcome := rfl
  obtain ⟨query, made, nodes⟩ := bind_eq_ok.mp (sequence.symm.trans passes)
  exact ⟨query, assembled_eq_ok.mp made, nodes⟩

theorem passes_facetId {id : String}
    (passes : ((Check.facetId id).report portal).outcome = .ok ()) :
    ∃ target, facetVariable id "FilterWithSubconcepts" = .ok target := by
  cases made : facetVariable id "FilterWithSubconcepts" with
  | ok target => exact ⟨target, rfl⟩
  | error fault => simp [Check.report, made] at passes

theorem passes_classExists {id : String}
    (passes : ((Check.classExists id).report portal).outcome = .ok ()) :
    ∃ spec, portal.resultClass id = .ok spec := by
  cases known : portal.resultClass id with
  | ok spec => exact ⟨spec, rfl⟩
  | error fault => simp [Check.report, known] at passes

section

variable (valid : portal.validate = .ok ())

include valid

theorem passes_class {spec : ResultClass} (member : spec ∈ portal.resultClasses) {check : Check}
    (inside : check ∈ classChecks spec ++ queryChecks spec) :
    (check.report portal).outcome = .ok () := by
  refine validate_eq_ok.mp valid check ?_
  simp only [checks, List.mem_append, List.mem_flatMap]
  rcases List.mem_append.mp inside with inside | inside
  · exact .inl (.inl (.inl ⟨spec, member, inside⟩))
  · exact .inl (.inl (.inr ⟨spec, member, inside⟩))

theorem passes_listingRoute {route : ListingRoute} (member : route ∈ portal.listings)
    {check : Check}
    (inside : check ∈ listingChecks route) : (check.report portal).outcome = .ok () := by
  refine validate_eq_ok.mp valid check ?_
  simp only [checks, List.mem_append, List.mem_flatMap]
  exact .inl (.inr ⟨route, member, inside⟩)

theorem passes_lookupRoute {route : LookupRoute} (member : route ∈ portal.lookups) {check : Check}
    (inside : check ∈ lookupChecks route) : (check.report portal).outcome = .ok () := by
  refine validate_eq_ok.mp valid check ?_
  simp only [checks, List.mem_append, List.mem_flatMap]
  exact .inr ⟨route, member, inside⟩

theorem class_of_listing {route : ListingRoute} (member : route ∈ portal.listings) {id : String}
    (routed : route.facetClass = some id) : ∃ spec, portal.resultClass id = .ok spec :=
  passes_classExists (passes_listingRoute valid member
    (List.mem_append_left _ (by simp [routedClassChecks, routed])))

theorem class_of_lookup {route : LookupRoute} (member : route ∈ portal.lookups) {id : String}
    (routed : route.facetClass = some id) : ∃ spec, portal.resultClass id = .ok spec :=
  passes_classExists (passes_lookupRoute valid member
    (List.mem_append_left _ (by simp [routedClassChecks, routed])))

/-- The id of a facet makes a variable with every suffix. -/
theorem variable_of_facet {spec : ResultClass} (member : spec ∈ portal.resultClasses)
    {facet : Facet}
    (inside : facet ∈ spec.facets) {suffix : String} (known : suffix ∈ Filter.suffixes) :
    Variable.ofName? (facet.id ++ suffix) ≠ none := by
  have isCheck : Check.facetId facet.id ∈ classChecks spec ++ queryChecks spec := by
    refine List.mem_append_left _
      (List.mem_cons_of_mem _ (List.mem_flatMap.mpr ⟨facet, inside, ?_⟩))
    simp [facetChecks]
  obtain ⟨target, made⟩ := passes_facetId (passes_class valid member isCheck)
  have wellFormed := target.wellFormed
  rw [facetVariable_eq_ok.mp made] at wellFormed
  exact Variable.ofName?_ne_none (Filter.isVariable_append_suffix known wellFormed)

theorem assembles_count {spec : ResultClass} {id : String}
    (known : portal.resultClass id = .ok spec) :
    ∃ query, (Assembler.mk portal true).assemble (.count id none) = .ok query := by
  obtain rfl := id_of_resultClass known
  have member := ConstraintBlock.Portal.mem_of_resultClass known
  exact passes_assembly.mp (passes_class valid member (List.mem_append_right _
    (show Check.assembly (.count spec.id none) ∈ queryChecks spec by simp [queryChecks])))

theorem assembles_listing {route : ListingRoute} {resultClass : String}
    (known : portal.listing resultClass = .ok route) (groupBy : Bool) :
    ∃ query, (Assembler.mk portal true).assemble (.listing resultClass none none groupBy) =
      .ok query ∧ portal.nodesOutcome query = .ok () := by
  obtain ⟨member, rfl⟩ := mem_of_listing known
  exact passes_listing (passes_listingRoute valid member (List.mem_append_right _
    (show Check.listing route.resultClass groupBy ∈ _ by cases groupBy <;> simp)))

/-- A count is filled in with classes, and then with the block alone. -/
theorem holdsOnly_count {spec : ResultClass} {id : String}
    (known : portal.resultClass id = .ok spec) : HoldsOnly [.filter]
      (fillAll [(.facetClass, spec.classList.toList)] Template.countQuery.toList) := by
  obtain ⟨query, assembled⟩ := assembles_count valid known
  obtain ⟨built, isBuilt, -⟩ := Assembler.assemble_eq_ok.mp assembled
  obtain ⟨body, isBody, -⟩ := bind_eq_ok.mp isBuilt
  have finished := (@Assembler.countBody_of_ok ⟨portal, true⟩ _ _ _ _ known rfl).symm.trans isBody
  have free := (Template.finish_eq_ok.mp (mapError_eq_ok.mp finished)).1
  dsimp only at free
  exact (holdsOnly_nil.mpr free).of_fills [(.facetClass, spec.classList.toList)]

/-- A page of a class that has no constraints and is sorted by the key of the class. -/
theorem exists_page {spec : ResultClass} {id : String} (known : portal.resultClass id = .ok spec)
    (direction : SortDirection) :
    ∃ window sort block, SortClauses.ofOrder spec ⟨none, direction⟩ = .ok sort ∧
      Free (fillAll (Template.pageFills block spec direction sort window)
        Template.resultSetQuery.toList) := by
  obtain rfl := id_of_resultClass known
  have member := ConstraintBlock.Portal.mem_of_resultClass known
  obtain ⟨query, assembled⟩ := passes_assembly.mp (passes_class valid member
    (List.mem_append_right _ (show sampleRequest spec direction ∈ queryChecks spec by
      cases direction <;> simp [queryChecks])))
  obtain ⟨built, isBuilt, -⟩ := Assembler.assemble_eq_ok.mp assembled
  obtain ⟨body, isBody, -⟩ := bind_eq_ok.mp isBuilt
  obtain ⟨found, window, sort, block, again, -, sorted, finished⟩ :=
    Assembler.exists_of_resultSetBody isBody
  cases known.symm.trans again
  have free := (Template.finish_eq_ok.mp finished).1
  dsimp only at free
  exact ⟨window, sort, block, sorted, free⟩

theorem free_classList {spec : ResultClass} {id : String}
    (known : portal.resultClass id = .ok spec) :
    Free spec.classList.toList := by
  obtain ⟨window, sort, block, -, free⟩ := exists_page valid known .ascending
  have onPage := @HoldsOnly.of_value _ _ .facetClass _ [(.filter, block.toList)] _
    (holdsOnly_nil.mpr free) Template.holds_resultSetQuery.1 (by simp)
  have inCount := @HoldsOnly.of_value _ _ .facetClass _ [] [] (holdsOnly_count valid known)
    Template.holds_countQuery (by simp)
  exact Template.free_of_disjoint inCount onPage (by simp)

theorem free_properties {spec : ResultClass} {id : String}
    (known : portal.resultClass id = .ok spec) :
    Free spec.properties.toList := by
  obtain ⟨window, sort, block, -, free⟩ := exists_page valid known .ascending
  exact holdsOnly_nil.mp (@HoldsOnly.of_value _ _ .resultSetProperties _
    [(.filter, _), (.facetClass, _), (.orderByAggregate, _), (.orderByTriple, _), (.orderBy, _),
      (.page, _)] [] (holdsOnly_nil.mpr free) Template.holds_resultSetQuery.2 (by simp))

/-- The query for the nodes of a network is tried with the entity that stands for all. -/
theorem assembles_nodes {route : ListingRoute} {resultClass nodesQuery : String} {groupBy : Bool}
    (known : portal.listing resultClass = .ok route)
    (network : (route.variant groupBy).shape = .network nodesQuery) :
    ∃ text, (Assembler.mk portal true).assembleNodes nodesQuery [sampleInstance] = .ok text := by
  obtain ⟨query, assembled, nodes⟩ := assembles_listing valid known groupBy
  obtain ⟨found, _, _, _, again, -, -, -, rfl⟩ := Assembler.listing_of_assemble assembled
  cases known.symm.trans again
  simp only [nodesOutcome, network] at nodes
  obtain ⟨text, made, -⟩ := bind_eq_ok.mp nodes
  exact ⟨text, made⟩

/-- A listing is filled in with a block, and its nodes, if it has some, with ids. -/
theorem holdsOnly_listing {route : ListingRoute} {resultClass : String}
    (known : portal.listing resultClass = .ok route) (groupBy : Bool) :
    (∃ template, Assembler.listingTemplate resultClass (route.variant groupBy).query =
      .ok template ∧ HoldsOnly [.filter] template.text) ∧
    ∀ nodesQuery, (route.variant groupBy).shape = .network nodesQuery →
      HoldsOnly [.idSet] (Template.ofText "network nodes" nodesQuery).text := by
  obtain ⟨query, assembled, -⟩ := assembles_listing valid known groupBy
  obtain ⟨found, template, block, body, again, isTemplate, -, finished, rfl⟩ :=
    Assembler.listing_of_assemble assembled
  cases known.symm.trans again
  refine ⟨⟨template, isTemplate, ?_⟩, fun nodesQuery network => ?_⟩
  · exact (holdsOnly_nil.mpr (Template.finish_eq_ok.mp finished).1).of_replace
  · obtain ⟨text, made⟩ := assembles_nodes valid known network
    obtain ⟨body, finished, -⟩ := Assembler.nodes_of_assemble made
    exact (holdsOnly_nil.mpr (Template.finish_eq_ok.mp finished).1).of_replace

/-- A lookup is filled in with a block and an entity. -/
theorem holdsOnly_lookup {route : LookupRoute} {resultClass : String}
    (known : portal.lookup resultClass = .ok route) : HoldsOnly [.filter, .id]
      (((Template.ofText resultClass Template.instanceQuery).fill .properties
        route.properties).fill .relatedInstances route.relatedInstances).text := by
  obtain ⟨member, rfl⟩ := mem_of_lookup known
  obtain ⟨query, assembled⟩ := passes_assembly.mp (passes_lookupRoute valid member
    (List.mem_append_right _ (List.mem_singleton_self _)))
  obtain ⟨found, iri, block, body, again, -, -, finished⟩ := Assembler.lookup_of_assemble assembled
  cases known.symm.trans again
  exact (holdsOnly_nil.mpr (Template.finish_eq_ok.mp finished).1).of_replace.of_replace

end

theorem passes_of_all {checks : List Check}
    (all : checks.all (fun check => (check.report portal).outcome.toBool) = true) :
    ∀ check ∈ checks, (check.report portal).outcome = .ok () := by
  intro check member
  have passed := List.all_eq_true.mp all check member
  cases outcome : (check.report portal).outcome with
  | ok value => rfl
  | error fault => simp [outcome, Except.toBool] at passed

/-- A listing passes its check if its template is finished as a query, and so is the one of its
nodes if it is a network. -/
theorem passes_listing_of_finish {id : String} {route : ListingRoute} {groupBy : Bool}
    {template : Template} {body : String} (known : portal.listing id = .ok route)
    (isTemplate : Assembler.listingTemplate id (route.variant groupBy).query = .ok template)
    (finished : (template.fill .filter ConstraintBlock.empty.render).finish = .ok body)
    (valid : Sparql.isQuery (portal.prefixDeclarations ++ body) = true)
    (nodes : ∀ nodesQuery, (route.variant groupBy).shape = .network nodesQuery →
      ∃ text, (Assembler.mk portal true).assembleNodes nodesQuery [sampleInstance] = .ok text) :
    ((Check.listing id groupBy).report portal).outcome = .ok () := by
  have isBody : (Assembler.mk portal true).listingBody route id none none groupBy = .ok body := by
    unfold Assembler.listingBody
    rw [isTemplate]
    exact mapError_eq_ok.mpr finished
  have built : (Assembler.mk portal true).body (.listing id none none groupBy) =
      .ok ⟨body, (route.variant groupBy).shape⟩ := by
    unfold Assembler.body
    dsimp only
    rw [known]
    exact bind_eq_ok.mpr ⟨route, rfl, bind_eq_ok.mpr ⟨body, isBody, rfl⟩⟩
  have assembled := Assembler.assemble_eq_ok.mpr ⟨_, built, fun _ => valid, rfl⟩
  have sequence : ((Check.listing id groupBy).report portal).outcome =
      (portal.assembled (.listing id none none groupBy)).2 >>= portal.nodesOutcome := rfl
  rw [sequence]
  refine bind_eq_ok.mpr ⟨_, assembled_eq_ok.mpr assembled, ?_⟩
  unfold nodesOutcome
  dsimp only
  split
  · next nodesQuery network =>
    obtain ⟨text, made⟩ := nodes nodesQuery network
    exact bind_eq_ok.mpr ⟨text, made, rfl⟩
  · rfl

/-- A listing without a grouped variant passes both of its checks if it passes one. -/
theorem passes_ungrouped {id : String} {route : ListingRoute}
    (known : portal.listing id = .ok route) (single : route.grouped = none)
    (passes : ((Check.listing id false).report portal).outcome = .ok ()) (groupBy : Bool) :
    ((Check.listing id groupBy).report portal).outcome = .ok () := by
  have variant : route.variant groupBy = route.variant false := by
    simp [ListingRoute.variant, single]
  have body : (Assembler.mk portal true).body (.listing id none none groupBy) =
      (Assembler.mk portal true).body (.listing id none none false) := by
    simp only [Assembler.body, Assembler.listingBody, known, Assembler.configured, Except.mapError,
      bind_of_ok rfl, variant]
  have same : (portal.assembled (.listing id none none groupBy)).2 =
      (portal.assembled (.listing id none none false)).2 := by
    simp only [Portal.assembled, Assembler.assemble, body]
    rfl
  have sequence : ∀ groupBy, ((Check.listing id groupBy).report portal).outcome =
      (portal.assembled (.listing id none none groupBy)).2 >>= portal.nodesOutcome := fun _ => rfl
  rw [sequence] at passes ⊢
  rwa [same]

/-- So do all checks of a route to such a listing if its facet class is there. -/
theorem passes_listingChecks {route : ListingRoute}
    (known : portal.listing route.resultClass = .ok route) (single : route.grouped = none)
    (routed : ∀ id ∈ route.facetClass, ∃ spec, portal.resultClass id = .ok spec)
    (passes : ((Check.listing route.resultClass false).report portal).outcome = .ok ()) :
    ∀ check ∈ listingChecks route, (check.report portal).outcome = .ok () := by
  intro check member
  rcases List.mem_append.mp member with member | member
  · obtain ⟨id, inside, rfl⟩ := List.mem_map.mp member
    obtain ⟨spec, found⟩ := routed id (Option.mem_toList.mp inside)
    exact bind_eq_ok.mpr ⟨spec, found, rfl⟩
  · simp only [List.mem_cons, List.not_mem_nil, or_false] at member
    rcases member with rfl | rfl
    · exact passes
    · exact passes_ungrouped known single passes true

/-- A pattern passes its check if its tokens make a query within braces. -/
theorem passes_pattern (sound : ∀ declaration ∈ portal.prefixes, declaration.Sound)
    {location pattern shown : String} {tokens : List Token}
    (spelled : Spelled pattern.toList tokens)
    (admitted : ∀ token ∈ tokens, portal.prologue.admits token = true) {query : Sparql.Select}
    (isQuery : query? (selectTokens Template.allHead tokens []) = some (.select query)) :
    ((Check.part location pattern shown).report portal).outcome = .ok () := by
  have group := (spelled.append Spelled.closeBrace.space (.space _)).space.openBrace.space
  have body := (Spelled.word ['W', 'H', 'E', 'R', 'E'] (fun _ => rfl) (by decide) group).space
  have star := (Spelled.mark '*' (fun _ => rfl) (by decide) body).space
  have whole := Spelled.word ['S', 'E', 'L', 'E', 'C', 'T'] (fun _ => rfl) (by decide) star
  have text : ("SELECT * WHERE " ++ Text.braced pattern).toList = ['S', 'E', 'L', 'E', 'C', 'T'] ++
      ' ' :: '*' :: ' ' :: (['W', 'H', 'E', 'R', 'E'] ++
        ' ' :: '\x7b' :: ' ' :: (pattern.toList ++ [' ', '\x7d'])) := by
    simp [Text.braced, Text.openBrace, Text.closeBrace]
  have isSelect := portal.select?_complete sound (text ▸ whole.spells)
    (Template.encloses_all.noDeclaration _)
    (Template.admitted_select (Sparql.Prologue.admits_of_isFixed rfl) admitted (by simp)) isQuery
  refine if_pos ?_
  rw [String.append_assoc]
  exact Sparql.isQuery_of_select? isSelect

/-- So does one that leads along a property. -/
theorem passes_property (sound : ∀ declaration ∈ portal.prefixes, declaration.Sound)
    (property : Rdf.Iri) (location shown : String) :
    ((Check.part location ("?s " ++ property.render ++ " ?o") shown).report portal).outcome =
      .ok () := by
  have object := (Template.Named.spelled (show Template.Named "o" by decide)).space
  have behind := ((Clause.spelled_iri property).append object (.space _)).space
  have spelled :=
    (Template.Named.spelled (show Template.Named "s" by decide)).append behind (.space _)
  have text : ("?s " ++ property.render ++ " ?o").toList =
      '?' :: "s".toList ++ ' ' :: (property.render.toList ++ ' ' :: '?' :: "o".toList) := by simp
  refine passes_pattern sound (text ▸ spelled) ?_ rfl
  simp only [List.mem_append, List.mem_cons, List.not_mem_nil, or_false]
  rintro token (rfl | rfl | rfl)
  · rfl
  · exact Sparql.Prologue.admits_iri portal.prologue_base property
  · rfl

/-- A facet passes its checks if all its paths are single properties. -/
theorem passes_facet (sound : ∀ declaration ∈ portal.prefixes, declaration.Sound) {facet : Facet}
    (named : ((Check.facetId facet.id).report portal).outcome = .ok ()) (flat : facet.parent = none)
    (paths : ∀ path ∈ facet.paths.map NamedPath.path, ∃ property : Rdf.Iri, path = property.render)
    (spec : ResultClass) : ∀ check ∈ facetChecks spec facet, (check.report portal).outcome =
      .ok () := by
  rw [facetChecks, flat]
  simp only [Option.toList_none, List.map_nil, List.append_nil, List.forall_mem_cons,
    List.forall_mem_map]
  refine ⟨named, fun path member => ?_⟩
  obtain ⟨property, same⟩ := paths _ (List.mem_map_of_mem member)
  rw [pathCheck, same]
  exact passes_property sound property _ _

/-- Classes that are names pass their check. -/
theorem passes_classes (sound : ∀ declaration ∈ portal.prefixes, declaration.Sound)
    {location list shown : String} {names : List Sparql.IriName}
    (spelled : Spelled list.toList (names.map .name))
    (admitted : ∀ name ∈ names, portal.prologue.admits (.name name) = true) :
    ((Check.part location ("VALUES ?facetClass " ++ Text.braced list) shown).report
      portal).outcome = .ok () := by
  have text : ("VALUES ?facetClass " ++ Text.braced list).toList = ['V', 'A', 'L', 'U', 'E', 'S'] ++
      ' ' :: ('?' :: "facetClass".toList ++ ' ' :: '\x7b' :: ' ' ::
        (list.toList ++ [' ', '\x7d'])) := by
    simp [Text.braced, Text.openBrace, Text.closeBrace]
  obtain ⟨_, -, isQuery⟩ :=
    exists_query Template.encloses_all (.values "facetClass" names)
  exact passes_pattern sound (text ▸ Template.spelled_values Template.named_facetClass spelled)
    (Template.admitted_values admitted "facetClass") isQuery

/-- A text is checked as it stands in a portal without prefixes. -/
theorem isQuery_unprefixed {text : String} {tokens : List Token} (unprefixed : portal.prefixes = [])
    (read : Token.tokens? text.toList = some tokens) (valid : Sparql.areQuery tokens = true) :
    Sparql.isQuery (portal.prefixDeclarations ++ text) = true := by
  have nothing : portal.prefixDeclarations = "" := by
    rw [prefixDeclarations, unprefixed]
    rfl
  rw [nothing, String.empty_append]
  exact Sparql.isQuery_of_tokens read valid

theorem framed_bare {spec : ResultClass} (rdfClass : Rdf.Iri)
    (single : spec.classList = rdfClass.render) (bare : spec.properties = "") :
    spec.Framed portal.prologue where
  classes := by
    refine ⟨[.iri rdfClass.text], ?_, ?_⟩
    · rw [single]
      exact Clause.spelled_iri rdfClass
    · simpa using Sparql.Prologue.admits_iri portal.prologue_base rdfClass
  properties := .inl bare

section

variable {spec : ResultClass} (known : portal.resultClass spec.id = .ok spec)
  (sound : ∀ declaration ∈ portal.prefixes, declaration.Sound)
  (framed : spec.Framed portal.prologue)

/-- The place of the constraints may be left empty, whatever the facets are like. -/
theorem place_empty {fills : List (Placeholder × List Char)}
    (given : fills.lookup .filter = some ConstraintBlock.empty.render.toList) :
    Template.Passage portal.prologue fills [Placeholder.filter.token]
      (Clause.Pattern.listScope ConstraintBlock.empty.elements) [] :=
  (ConstraintBlock.passage_of_facets (fun _ _ _ => (absurd · List.not_mem_nil)) given
    Template.named_id Assembler.closed_id
    (show ConstraintBlock.compose portal "" none "id" = .ok .empty from rfl)).1

theorem exists_finish (sound : ∀ declaration ∈ portal.prefixes, declaration.Sound)
    {fills : List (Placeholder × List Char)} {text : String}
    (arranged : Template.Arranged portal.prologue fills text) (name : String) :
    ∃ body, Template.finish ⟨name, fillAll fills text.toList⟩ = .ok body ∧
      Sparql.isQuery (portal.prefixDeclarations ++ body) = true := by
  generalize isFilled : fillAll fills text.toList = filled
  exact arranged.isQuery_finish sound isFilled.symm

/-- A lookup passes its check if its texts are laid out well. -/
theorem passes_lookup (sound : ∀ declaration ∈ portal.prefixes, declaration.Sound)
    {route : LookupRoute} (known : portal.lookup route.resultClass = .ok route)
    (presentable : route.Presentable portal.prologue) :
    ((Check.assembly (.lookup route.resultClass none none sampleInstance.text)).report
      portal).outcome = .ok () := by
  have isIri : Rdf.Iri.ofText sampleInstance.text = .ok sampleInstance :=
    Rdf.Iri.ofText_eq_ok.mpr rfl
  obtain ⟨body, finished, valid⟩ := (Template.arranged_instance portal.prologue_base presentable
    place_empty).isQuery_finish sound
      (Assembler.text_instance route.resultClass _ route sampleInstance)
  have built : (Assembler.mk portal true).lookupBody route.resultClass none none
      sampleInstance.text = .ok body :=
    (Assembler.lookupBody_of_ok known isIri rfl).trans (mapError_eq_ok.mpr finished)
  exact passes_assembly.mpr ⟨_, Assembler.assemble_eq_ok.mpr ⟨⟨body, .objects⟩,
    bind_eq_ok.mpr ⟨body, built, rfl⟩, fun _ => valid, rfl⟩⟩

include known sound framed

/-- The number of the instances of a class passes its check if its classes and its properties are
laid out well. -/
theorem passes_count : ((Check.assembly (.count spec.id none)).report portal).outcome = .ok () := by
  have arranged : Template.Arranged portal.prologue
      (Template.countFills ConstraintBlock.empty.render spec) Template.countQuery :=
    Template.arranged_count framed.classes rfl (place_empty rfl)
  obtain ⟨body, finished, valid⟩ := exists_finish sound arranged "count"
  have built : (Assembler.mk portal true).countBody spec.id none = .ok body :=
    (@Assembler.countBody_of_ok ⟨portal, true⟩ _ _ _ _ known rfl).trans
      (mapError_eq_ok.mpr finished)
  exact passes_assembly.mpr ⟨_, Assembler.assemble_eq_ok.mpr ⟨⟨body, .count⟩,
    bind_eq_ok.mpr ⟨body, built, rfl⟩, fun _ => valid, rfl⟩⟩

/-- So do the pages of a class that is not sorted. -/
theorem passes_sample (unsorted : spec.defaultSortKey = none) (direction : SortDirection) :
    ((sampleRequest spec direction).report portal).outcome = .ok () := by
  let window : Window := ⟨1, 0⟩
  have windowed : Page.window ⟨0, 1⟩ = .ok window := rfl
  have sorted : SortClauses.ofOrder spec ⟨none, direction⟩ = .ok .byId := by
    simp [SortClauses.ofOrder, unsorted]
  let fills := Template.pageFills ConstraintBlock.empty.render spec direction .byId window
  have arranged : Template.Arranged portal.prologue fills Template.resultSetQuery :=
    Template.arranged_resultSet framed SortClauses.walks_byId (Page.fits windowed)
      (place_empty rfl)
  obtain ⟨body, finished, valid⟩ := exists_finish sound arranged "result set"
  have built : (Assembler.mk portal true).resultSetBody spec.id none ⟨0, 1⟩ ⟨none, direction⟩ =
      .ok body :=
    (@Assembler.resultSetBody_of_ok ⟨portal, true⟩ _ _ _ _ _ _ _ _ known windowed sorted rfl).trans
      (mapError_eq_ok.mpr finished)
  exact passes_assembly.mpr ⟨_, Assembler.assemble_eq_ok.mpr ⟨⟨body, .objects⟩,
    bind_eq_ok.mpr ⟨body, built, rfl⟩, fun _ => valid, rfl⟩⟩

end

/-- A portal of a single class that is not sorted is valid if its facets and its routes pass their
checks. -/
theorem validate_of_class {spec : ResultClass} (single : portal.resultClasses = [spec])
    (unsorted : spec.defaultSortKey = none)
    (sound : ∀ declaration ∈ portal.prefixes, declaration.Sound)
    (framed : spec.Framed portal.prologue)
    (facets : ∀ facet ∈ spec.facets, ∀ check ∈ facetChecks spec facet,
      (check.report portal).outcome = .ok ())
    (routes :
      ∀ check ∈ portal.listings.flatMap listingChecks ++ portal.lookups.flatMap lookupChecks,
      (check.report portal).outcome = .ok ()) : portal.validate = .ok () := by
  have known : portal.resultClass spec.id = .ok spec := by simp [Portal.resultClass, single]
  have parts : ∀ check ∈ classChecks spec, (check.report portal).outcome = .ok () := by
    obtain ⟨names, spelled, admitted⟩ := framed.classes
    refine List.forall_mem_cons.mpr ⟨passes_classes sound spelled admitted, fun check member => ?_⟩
    obtain ⟨facet, inside, member⟩ := List.mem_flatMap.mp member
    exact facets facet inside check member
  have queries : ∀ check ∈ queryChecks spec, (check.report portal).outcome = .ok () := by
    simpa [queryChecks] using ⟨passes_count known sound framed,
      passes_sample known sound framed unsorted .ascending,
      passes_sample known sound framed unsorted .descending⟩
  rw [validate_eq_ok, checks, single, List.append_assoc]
  refine List.forall_mem_append.mpr ⟨List.forall_mem_append.mpr ⟨?_, ?_⟩, routes⟩
  · simpa using parts
  · simpa using queries

end Portal

end FacetedQuery
