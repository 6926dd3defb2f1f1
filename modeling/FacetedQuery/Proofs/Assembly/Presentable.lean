import FacetedQuery.Assembly
import FacetedQuery.Proofs.Template.Part

/-!
# Presentable portals

A portal is presentable if every text of it is laid out line by line: its paths stand on one line
and can be followed, its properties are parts of groups, and its own queries are arranged around the
place of a block of constraints.  Then every block fits wherever it is put.
-/

namespace FacetedQuery

open Clause (PropertyPath)
open Sparql (Prologue)
open Sparql.Grammar
open Sparql.Token (Spelled)
open Template (Named Passage Walkable)

/-- A facet whose variables are single tokens and whose paths can be followed. -/
structure Facet.Presentable (prologue : Prologue) (facet : Facet) : Prop where
  name : facet.id.toList.head? ≠ some ':'
  paths : ∀ named ∈ facet.paths, Walkable prologue named.path
  hierarchy : ∀ parent, facet.parent = some parent →
    Traversable prologue (PropertyPath.mk parent).zeroOrMore.text

/-- A class whose RDF classes are names. -/
def ResultClass.ListsNames (prologue : Prologue) (spec : ResultClass) : Prop :=
  ∃ names : List Sparql.IriName, Spelled spec.classList.toList (names.map .name) ∧
    ∀ name ∈ names, prologue.admits (.name name) = true

/-- A class whose RDF classes are names and whose properties are a part of a group. -/
structure ResultClass.Framed (prologue : Prologue) (spec : ResultClass) : Prop where
  classes : spec.ListsNames prologue
  properties : spec.properties = "" ∨ Template.IsPart prologue spec.properties

structure ResultClass.Presentable (prologue : Prologue) (spec : ResultClass) : Prop extends
    spec.Framed prologue where
  facets : ∀ facet ∈ spec.facets, facet.Presentable prologue

/-- A query of a listing that is arranged around a block. -/
inductive ListingQuery.Presentable (prologue : Prologue) (resultClass target : String) :
    ListingQuery → Prop where
  | plain {text : String} : Template.AroundBlock prologue target [] text →
      Presentable prologue resultClass target (.plain text)
  | timeBuckets {template periods : String} {startYear endYear : Int32} {periodLength : UInt32} :
      Period.values resultClass startYear endYear periodLength = .ok periods →
      Template.AroundBlock prologue target [(.periods, periods.toList)] template →
      Presentable prologue resultClass target
        (.timeBuckets template startYear endYear periodLength)

/-- A listing whose queries are arranged around a block that restricts a variable. -/
structure ListingRoute.Presentable (prologue : Prologue) (route : ListingRoute) : Prop where
  target : Named route.filterTarget
  closed : Text.Closed route.filterTarget.toList
  queries : ∀ groupBy, (route.variant groupBy).query.Presentable prologue route.resultClass
    route.filterTarget

/-- A lookup whose parts are left out or hold a block. -/
structure LookupRoute.Presentable (prologue : Prologue) (route : LookupRoute) : Prop where
  properties : route.properties = "" ∨ Template.HoldsBlock prologue route.properties
  relatedInstances : route.relatedInstances = "" ∨
    Template.HoldsBlock prologue route.relatedInstances

/-- A portal whose texts are laid out line by line. -/
structure Portal.Presentable (portal : Portal) : Prop where
  prefixes : ∀ declaration ∈ portal.prefixes, declaration.Sound
  classes : ∀ spec ∈ portal.resultClasses, spec.Presentable portal.prologue
  listings : ∀ route ∈ portal.listings, route.Presentable portal.prologue
  lookups : ∀ route ∈ portal.lookups, route.Presentable portal.prologue

theorem Template.Walkable.settles {prologue : Prologue} {path : String}
    (walkable : Walkable prologue path) : Settles path where
  free := walkable.plain.spelled.free
  lines := ⟨_, .last walkable.plain.spelled.line walkable.plain.spelled.spells⟩

namespace Portal

section

variable {portal : Portal} (facets : ∀ spec ∈ portal.resultClasses, ∀ facet ∈ spec.facets,
  facet.Presentable portal.prologue)

include facets

theorem navigable_of_facets : portal.Navigable :=
  fun spec member facet inside =>
    let here := facets spec member facet inside
    { name := here.name
      paths := fun named isPath => (here.paths named isPath).toTraversable
      hierarchy := here.hierarchy }

theorem settles_of_facets : portal.Spellable Settles where
  paths spec member facet inside named isPath :=
    ((facets spec member facet inside).paths named isPath).settles
  names spec member facet inside :=
    ConstraintBlock.readable_of_whole (facets spec member facet inside).name

theorem tokenises_of_facets : portal.Spellable Tokenises where
  paths spec member facet inside named isPath :=
    ((facets spec member facet inside).paths named isPath).settles.tokenises
  names := (settles_of_facets facets).names

end

/-- A block fits in its place, where it binds the variables of its patterns. -/
theorem Presentable.block {portal : Portal} (presentable : portal.Presentable)
    {fills : List (Placeholder × List Char)} {facetClass filterTarget : String}
    {constraints : Option ConstraintSet} {block : ConstraintBlock}
    (given : fills.lookup .filter = some block.render.toList) (named : Named filterTarget)
    (closed : Text.Closed filterTarget.toList)
    (composed : ConstraintBlock.compose portal facetClass constraints filterTarget = .ok block) :
    Passage portal.prologue fills [Placeholder.filter.token]
        (Clause.Pattern.listScope block.elements) [] ∧
      ∀ name ∈ Clause.Pattern.listScope block.elements,
        name = filterTarget ∨ ConstraintBlock.IsOwn name :=
  have facets := fun spec member => (presentable.classes spec member).facets
  Passage.block given (navigable_of_facets facets) (settles_of_facets facets)
    (tokenises_of_facets facets) named.whole closed composed

end Portal

end FacetedQuery
