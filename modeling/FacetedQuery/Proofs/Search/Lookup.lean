import FacetedQuery.Proofs.Objects.Identity
import FacetedQuery.Proofs.Portal.Requests
import FacetedQuery.Proofs.Search.Steps

/-!
# What lookups show

The query of a lookup selects every variable in its scope, and the object that is returned has a
property for each column that is bound.  A page leaves out the column that it is sorted by; a lookup
leaves out none.  So where a block of constraints stands open in the query of a lookup, each of its
variables may show in the object.
-/

namespace FacetedQuery

open Clause (Pattern)
open Outcome (bind_eq_ok mapError_eq_ok)
open Rdf (Iri)
open Template (OpensBlock)

namespace Assembler

variable {assembler : Assembler} {resultClass uri : String} {requested : Option String}
  {constraints : Option ConstraintSet} {route : LookupRoute} {iri : Iri} {block : ConstraintBlock}

/-- The query of a lookup has the entity as a column, and the variables of a block that is open. -/
theorem exists_columns (presentable : assembler.portal.Presentable)
    (known : assembler.portal.lookup resultClass = .ok route) (isIri : Iri.ofText uri = .ok iri)
    (composed : ConstraintBlock.compose assembler.portal
      (facetClass requested route.facetClass resultClass) constraints "related__id" = .ok block) :
    ∃ query columns, assembler.assemble (.lookup resultClass requested constraints uri) =
      .ok query ∧ Sparql.columns? query.text = some columns ∧ "id" ∈ columns ∧
      (OpensBlock assembler.portal.prologue route.relatedInstances →
        Pattern.listScope block.elements ⊆ columns) := by
  have isRoute := presentable.lookups route (Portal.mem_of_lookup known).1
  obtain ⟨columns, identified, bound, content⟩ :=
    @Template.Passage.entity _ _ assembler.portal.prologue_base route isRoute block.render iri
      fun given => (presentable.block given named_related (by decide) composed).1
  obtain ⟨text, finished, body, same, isSelect⟩ := Template.select?_finish presentable.prefixes
    Template.margin_all content Template.page_closeBrace (Sparql.Prologue.admits_of_isFixed rfl)
    Template.encloses_all (text_instance resultClass block.render route iri)
  have isBody : assembler.lookupBody resultClass requested constraints uri = .ok text :=
    (lookupBody_of_ok known isIri composed).trans (mapError_eq_ok.mpr finished)
  refine ⟨⟨assembler.portal.prefixDeclarations ++ text, .objects⟩, columns, ?_, ?_,
    identified, bound⟩
  · exact assemble_eq_ok.mpr ⟨⟨text, .objects⟩, bind_eq_ok.mpr ⟨text, isBody, rfl⟩,
      fun _ => Sparql.isQuery_of_select? isSelect, rfl⟩
  · rw [Sparql.columns?, isSelect]
    simp [Sparql.Grammar.Select.ofParts, Sparql.Select.scope, Template.nothingAfter,
      Sparql.Modifiers.values, same]

end Assembler

namespace ConstraintBlock

variable {portal : Portal} {facetClass filterTarget : String} {constraints : Option ConstraintSet}
  {block : ConstraintBlock}

/-- The variables that a block brings into the group in which it stands. -/
def introduced (block : ConstraintBlock) (target : String) : List String :=
  (Pattern.listScope block.elements).filter (· != target)

theorem mem_introduced
    (composed : compose portal facetClass constraints filterTarget = .ok block) {name : String}
    (member : name ∈ block.introduced filterTarget) :
    name ∈ Pattern.listScope block.elements ∧
      ∃ spec ∈ portal.resultClasses, OfFacets spec name := by
  obtain ⟨inside, other⟩ := List.mem_filter.mp member
  refine ⟨inside, ?_⟩
  rcases (owned_of_compose composed).1 name inside with rfl | ofFacets
  · simp at other
  · exact ofFacets

theorem not_mem_introduced
    (composed : compose portal facetClass constraints filterTarget = .ok block) {name : String}
    (other : ¬IsOwn name) : name ∉ block.introduced filterTarget := by
  intro member
  obtain ⟨-, spec, -, ofFacets⟩ := mem_introduced composed member
  exact other ofFacets.isOwn

/-- A block introduces variables exactly if a constraint is active. -/
theorem introduced_eq_nil_iff
    (composed : compose portal facetClass constraints filterTarget = .ok block)
    (other : ¬IsOwn filterTarget) :
    block.introduced filterTarget = [] ↔ active constraints = [] := by
  constructor
  · intro nothing
    by_contra nonempty
    obtain ⟨name, inside, isOwn⟩ := (owned_of_compose composed).2 nonempty
    have different : name ≠ filterTarget := fun same => other (same ▸ isOwn)
    have member : name ∈ block.introduced filterTarget :=
      List.mem_filter.mpr ⟨inside, by simpa using different⟩
    rw [nothing] at member
    cases member
  · intro nothing
    rcases compose_eq_ok.mp composed with ⟨-, rfl⟩ | ⟨nonempty, -⟩
    · rfl
    · exact absurd nothing nonempty

end ConstraintBlock

/-- The rows that are answered to a query bind no column twice, and none but the given ones. -/
def Executor.AnswersWithin (executor : Executor) (query : String) (columns : List String) : Prop :=
  ∀ index endpoint rows, executor.answer index ⟨endpoint, query⟩ = .ok rows →
    ∀ row ∈ rows, row.Distinct ∧ ∀ column ∈ row.bound, column.1 ∈ columns

/-- An executor that always answers one row. -/
def Executor.always (row : Solution) : Executor :=
  ⟨fun _ _ => .ok [row]⟩

theorem Executor.always_answersWithin {row : Solution} {columns : List String}
    (distinct : row.Distinct) (bound : ∀ column ∈ row.bound, column.1 ∈ columns) (query : String) :
    (Executor.always row).AnswersWithin query columns := by
  intro _ _ rows answered other member
  cases answered
  obtain rfl := List.mem_singleton.mp member
  exact ⟨distinct, bound⟩

namespace Search

variable {search : Search} {resultClass uri : String} {requested : Option String}
  {constraints : Option ConstraintSet} {query : AssembledQuery} {columns names : List String}

/-- Whatever is answered to a query within some columns, no property of the object that a lookup
returns comes from one of the names. -/
def Hides (search : Search) (resultClass : String) (requested : Option String)
    (constraints : Option ConstraintSet) (uri query : String)
    (columns names : List String) : Prop :=
  ∀ executor : Executor, executor.AnswersWithin query columns →
    ∀ trace later response object,
      (({ search with executor }).lookup resultClass requested constraints uri).run trace =
        (.ok response, later) → response.object = some object →
      ∀ name ∈ names, ∀ text, ¬ object.Holds (Solution.path name) text

/-- A lookup hides just those names that are no columns of its query, or belong below the id, so
that the rows that bind them cannot be read. -/
theorem hides_iff
    (assembled : search.assembler.assemble (.lookup resultClass requested constraints uri) =
      .ok query)
    (identified : "id" ∈ columns) (apart : "id" ∉ names) :
    search.Hides resultClass requested constraints uri query.text columns names ↔
      ∀ name ∈ names, name ∈ columns → BelowId name := by
  constructor
  · intro hides name member inside
    by_contra notBelow
    have other : name ≠ "id" := fun same => apart (same ▸ member)
    have known := id?_entityRow other notBelow
    have bound : ∀ column ∈ (entityRow name).bound, column.1 ∈ columns := by
      simp [entityRow, Solution.bound, identified, inside]
    have read : readObjects [entityRow name] = .ok [rowRecord [] (entityRow name)] :=
      readObjects_eq_ok.mpr ⟨by simp [known], rfl⟩
    have holds : (rowRecord [] (entityRow name)).Holds (Solution.path name) "y" :=
      holds_rowRecord.mpr (Solution.gives_path.mpr ⟨.literal (.plain "y"),
        by simp [entityRow, Solution.bound], rfl⟩)
    refine hides (.always (entityRow name))
      (Executor.always_answersWithin (distinct_entityRow other) bound _) .empty _ _ _
      (lookup_eq_ok.mpr ⟨query, _, _, assembled, rfl, read, rfl, rfl⟩) rfl name member "y" holds
  · intro below executor within trace later response object served isObject name member text holds
    obtain ⟨query, rows, objects, assembledAgain, answered, read, rfl, -⟩ := lookup_eq_ok.mp served
    obtain rfl : query = _ := Except.ok.inj (assembledAgain.symm.trans assembled)
    have answers := within _ _ rows answered
    have found : object ∈ objects := List.mem_of_head? isObject
    have portrays := portrays_readObjects (fun row inRows => (answers row inRows).1) read
    obtain ⟨row, inRows, -, gives⟩ := (portrays.holds object found _ text).mp holds
    obtain ⟨term, bound, -⟩ := Solution.gives_path.mp gives
    have inside : name ∈ columns := (answers row inRows).2 _ bound
    obtain ⟨known, rfl⟩ := readObjects_eq_ok.mp read
    obtain ⟨proper, id, isId⟩ := grouped_identified (identified_rowRecord known) object found
    exact proper.not_holds_below isId (below name member inside) holds

section

variable {route : LookupRoute} {iri : Iri} {block : ConstraintBlock}

theorem fresh_id
    (composed : ConstraintBlock.compose search.portal
      (Assembler.facetClass requested route.facetClass resultClass) constraints "related__id" =
        .ok block) : "id" ∉ block.introduced "related__id" :=
  ConstraintBlock.not_mem_introduced composed (ConstraintBlock.not_isOwn (by decide))

/-- Where the related instances leave the place of a block open, its variables are columns. -/
theorem hides_open_iff (presentable : search.portal.Presentable)
    (opens : OpensBlock search.portal.prologue route.relatedInstances)
    (known : search.portal.lookup resultClass = .ok route) (isIri : Iri.ofText uri = .ok iri)
    (composed : ConstraintBlock.compose search.portal
      (Assembler.facetClass requested route.facetClass resultClass) constraints "related__id" =
        .ok block) :
    ∃ query columns,
      search.assembler.assemble (.lookup resultClass requested constraints uri) = .ok query ∧
      Sparql.columns? query.text = some columns ∧
      (search.Hides resultClass requested constraints uri query.text columns
          (block.introduced "related__id") ↔
        ∀ name ∈ block.introduced "related__id", BelowId name) := by
  obtain ⟨query, columns, assembled, isSelect, identified, bound⟩ :=
    @Assembler.exists_columns search.assembler _ _ _ _ _ _ _ presentable known isIri composed
  have inside : ∀ name ∈ block.introduced "related__id", name ∈ columns := fun name member =>
    bound opens (ConstraintBlock.mem_introduced composed member).1
  refine ⟨query, columns, assembled, isSelect,
    (hides_iff assembled identified (fresh_id composed)).trans ?_⟩
  exact ⟨fun below name member => below name member (inside name member),
    fun below name member _ => below name member⟩

end

end Search

namespace Manuscripts

/-- No facet makes a variable whose values would belong below an id. -/
theorem not_belowId {spec : ResultClass} (member : spec ∈ portal.resultClasses) {name : String}
    (ofFacets : ConstraintBlock.OfFacets spec name) : ¬BelowId name := by
  have starts : ∀ spec ∈ portal.resultClasses, ∀ facet ∈ spec.facets,
      facet.id.toList.head?.any (· != 'i') = true := by
    decide +kernel
  obtain ⟨facet, inside, suffix, -, rfl⟩ := ofFacets
  have start := starts spec member facet inside
  intro below
  have head := below.head?_eq
  rw [String.toList_append, List.head?_append] at head
  cases first : facet.id.toList.head? with
  | none => simp [first] at start
  | some character =>
      rw [first] at start head
      obtain rfl : character = 'i' := Option.some_inj.mp head
      cases start

/-- The lookup of a place with the entities related to it hides the variables of its constraints
exactly if no constraint is active. -/
theorem related_hides_iff {search : Search} {resultClass facetClass path uri : String}
    {requested : Option String} {constraints : Option ConstraintSet} {iri : Iri}
    {block : ConstraintBlock} (isPortal : search.portal = portal) (isPath : IsPath path)
    (known : portal.lookup resultClass = .ok (window resultClass facetClass (relatedOver path)))
    (isIri : Iri.ofText uri = .ok iri)
    (composed : ConstraintBlock.compose portal (requested.getD facetClass) constraints
      "related__id" = .ok block) :
    ∃ query columns,
      search.assembler.assemble (.lookup resultClass requested constraints uri) = .ok query ∧
      Sparql.columns? query.text = some columns ∧
      (search.Hides resultClass requested constraints uri query.text columns
          (block.introduced "related__id") ↔
        ConstraintBlock.active constraints = []) := by
  rw [← isPortal] at known composed
  have opens : OpensBlock search.portal.prologue (relatedOver path) :=
    isPortal ▸ opensBlock_relatedOver isPath
  have composedHere : ConstraintBlock.compose search.portal (Assembler.facetClass requested
      (window resultClass facetClass (relatedOver path)).facetClass resultClass) constraints
        "related__id" = .ok block := by
    cases requested <;> exact composed
  obtain ⟨query, columns, assembled, isSelect, hides⟩ :=
    Search.hides_open_iff (isPortal ▸ presentable_portal) opens known isIri composedHere
  refine ⟨query, columns, assembled, isSelect, hides.trans ?_⟩
  rw [← ConstraintBlock.introduced_eq_nil_iff composed (ConstraintBlock.not_isOwn (by decide)),
    List.eq_nil_iff_forall_not_mem]
  refine forall_congr' fun name => ⟨fun below member => ?_, fun absent member =>
    absurd member absent⟩
  obtain ⟨-, spec, inside, ofFacets⟩ := ConstraintBlock.mem_introduced composed member
  exact not_belowId (isPortal ▸ inside) ofFacets (below member)

end Manuscripts

namespace Search

/-- A search of the manuscript portal, which finds a place with a label. -/
def gospelSearch : Search :=
  ⟨Manuscripts.portal, .default, .always (entityRow "prefLabelLabel")⟩

/-- Manuscripts whose labels hold a text. -/
def aboutGospels : Option ConstraintSet :=
  some (.ofList [("prefLabel", ⟨.text "gospels", false⟩)])

/-- A lookup hides the variables of its constraints exactly as far as they are no columns of its
query, a value below the id apart.  In a presentable portal they are columns if the related
instances leave the place of the block open, and there are some if a constraint is active. -/
theorem hides_constraints_iff {search : Search} {resultClass uri : String}
    {requested : Option String} {constraints : Option ConstraintSet}
    {route : LookupRoute} {iri : Iri}
    {block : ConstraintBlock} (known : search.portal.lookup resultClass = .ok route)
    (isIri : Iri.ofText uri = .ok iri)
    (composed : ConstraintBlock.compose search.portal
      (Assembler.facetClass requested route.facetClass resultClass) constraints "related__id" =
        .ok block) :
    (∀ query columns,
      search.assembler.assemble (.lookup resultClass requested constraints uri) = .ok query →
      Sparql.columns? query.text = some columns → "id" ∈ columns →
      (search.Hides resultClass requested constraints uri query.text columns
          (block.introduced "related__id") ↔
        ∀ name ∈ block.introduced "related__id", name ∈ columns → BelowId name)) ∧
    (search.portal.Presentable → OpensBlock search.portal.prologue route.relatedInstances →
      ∃ query columns,
        search.assembler.assemble (.lookup resultClass requested constraints uri) = .ok query ∧
        Sparql.columns? query.text = some columns ∧
        (search.Hides resultClass requested constraints uri query.text columns
            (block.introduced "related__id") ↔
          ∀ name ∈ block.introduced "related__id", BelowId name)) ∧
    (block.introduced "related__id" = [] ↔ ConstraintBlock.active constraints = []) :=
  ⟨fun _ _ assembled _ identified => hides_iff assembled identified (fresh_id composed),
    fun presentable opens => hides_open_iff presentable opens known isIri composed,
    ConstraintBlock.introduced_eq_nil_iff composed (ConstraintBlock.not_isOwn (by decide))⟩

/-- The lookup of a place with the manuscripts that were made there, narrowed down by their
labels. -/
theorem hides_constraints_iff_gospels :
    ∃ (route : LookupRoute) (iri : Iri) (block : ConstraintBlock),
      gospelSearch.portal.lookup "placesMsProduced" = .ok route ∧
      Iri.ofText "http://a/" = .ok iri ∧
      ConstraintBlock.compose gospelSearch.portal
        (Assembler.facetClass none route.facetClass "placesMsProduced") aboutGospels "related__id" =
          .ok block ∧
      gospelSearch.portal.Presentable ∧
      OpensBlock gospelSearch.portal.prologue route.relatedInstances ∧
      ∃ query columns,
        gospelSearch.assembler.assemble (.lookup "placesMsProduced" none aboutGospels "http://a/") =
          .ok query ∧
        Sparql.columns? query.text = some columns ∧
        (gospelSearch.Hides "placesMsProduced" none aboutGospels "http://a/" query.text columns
            (block.introduced "related__id") ↔
          ∀ name ∈ block.introduced "related__id", BelowId name) := by
  obtain ⟨block, composed⟩ : ∃ block, ConstraintBlock.compose Manuscripts.portal "manuscripts"
    aboutGospels "related__id" = .ok block := ⟨_, rfl⟩
  let iri : Iri := ⟨"http://a/", by decide⟩
  let route := Manuscripts.window "placesMsProduced" "manuscripts"
    (Manuscripts.relatedOver Manuscripts.producedAt)
  have opens := Manuscripts.opensBlock_relatedOver Manuscripts.vocabulary.producedAt
  have hides := @hides_constraints_iff gospelSearch "placesMsProduced" "http://a/" none aboutGospels
    route iri block rfl rfl composed
  exact ⟨route, iri, block, rfl, rfl, composed, Manuscripts.presentable_portal, opens,
    hides.2.1 Manuscripts.presentable_portal opens⟩

/-- The label by which the manuscripts are narrowed down shows in the place. -/
theorem exists_shown_constraint :
    ∃ (block : ConstraintBlock) (query : AssembledQuery) (columns : List String),
      ConstraintBlock.compose gospelSearch.portal "manuscripts" aboutGospels "related__id" =
        .ok block ∧
      gospelSearch.assembler.assemble (.lookup "placesMsProduced" none aboutGospels "http://a/") =
        .ok query ∧
      Sparql.columns? query.text = some columns ∧
      ¬ gospelSearch.Hides "placesMsProduced" none aboutGospels "http://a/" query.text columns
        (block.introduced "related__id") := by
  obtain ⟨block, composed⟩ : ∃ block, ConstraintBlock.compose Manuscripts.portal "manuscripts"
    aboutGospels "related__id" = .ok block := ⟨_, rfl⟩
  let iri : Iri := ⟨"http://a/", by decide⟩
  obtain ⟨query, columns, assembled, isSelect, hides⟩ := @Manuscripts.related_hides_iff gospelSearch
    "placesMsProduced" "manuscripts" _ "http://a/" none aboutGospels iri block rfl
    Manuscripts.vocabulary.producedAt rfl rfl composed
  have active : ConstraintBlock.active aboutGospels ≠ [] := by decide
  exact ⟨block, query, columns, composed, assembled, isSelect,
    fun hidden => active (hides.mp hidden)⟩

end Search

end FacetedQuery
