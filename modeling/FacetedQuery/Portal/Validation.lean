import FacetedQuery.Assembly
import FacetedQuery.Event

/-!
# Valid portals

The checks that a portal passes before it serves requests: its paths and class lists are read as
parts of a query, the ids of its facets make variables, and every query without constraints is
assembled.  The first check that fails tells the fault of the portal.
-/

namespace FacetedQuery.Portal

open Rdf (Iri)

/-- One check of a portal. -/
inductive Check where
  /-- The id of a facet makes variables. -/
  | facetId (id : String)
  /-- A pattern with a path or a list of classes can be read. -/
  | part (location pattern path : String)
  | classExists (id : String)
  | assembly (request : Request)
  /-- The query of a listing, and of the nodes if it is a network, can be assembled. -/
  | listing (resultClass : String) (groupBy : Bool)

/-- What a check logs and whether it is passed. -/
structure CheckReport where
  events : List Event
  outcome : Except ConfigurationFault Unit

/-- The entity that stands for all entities in checks. -/
def sampleInstance : Iri :=
  ⟨"http://example.org/instance", by decide +kernel⟩

/-- A fault in the terms of the deployment. -/
def deploymentFault (resultClass : String) : Fault → ConfigurationFault
  | .configuration fault => fault
  | .validation fault => .invalidQuery resultClass (.request fault)
  | .execution _ => .invalidQuery resultClass .grammar
  | .mapping _ => .invalidQuery resultClass .grammar

/-- Assembles the query for a request. -/
def assembled (portal : Portal) (request : Request) :
    List Event × Except ConfigurationFault AssembledQuery :=
  match (Assembler.mk portal true).assemble request with
  | .ok query =>
    ([.assembled request.purpose request.resultClass query.text], .ok query)
  | .error fault => ([], .error (deploymentFault request.resultClass fault))

/-- Reads a pattern as the body of a query. -/
def probe (portal : Portal) (location pattern path : String) : Except ConfigurationFault Unit :=
  if Sparql.isQuery
      (portal.prefixDeclarations ++ "SELECT * WHERE " ++ Text.braced pattern) then .ok ()
  else .error (.invalidPropertyPath location path)

/-- Assembles the query of the nodes if a listing is a network. -/
def nodesOutcome (portal : Portal) (query : AssembledQuery) : Except ConfigurationFault Unit :=
  match query.shape with
  | .network nodesQuery => do
    let _ ← (Assembler.mk portal true).assembleNodes nodesQuery [sampleInstance]
  | _ => .ok ()

/-- Carries out a check. -/
def Check.report (portal : Portal) : Check → CheckReport
  | .facetId id => ⟨[], do let _ ← facetVariable id "FilterWithSubconcepts"⟩
  | .part location pattern path => ⟨[], portal.probe location pattern path⟩
  | .classExists id => ⟨[], do let _ ← portal.resultClass id⟩
  | .assembly request =>
    let (events, outcome) := portal.assembled request
    ⟨events, do let _ ← outcome⟩
  | .listing resultClass groupBy =>
    let (events, outcome) := portal.assembled (.listing resultClass none none groupBy)
    ⟨events, do portal.nodesOutcome (← outcome)⟩

def quoted (text : String) : String :=
  "'" ++ text ++ "'"

/-- The place of a part of a facet. -/
def location (part : String) (facet : Facet) (spec : ResultClass) : String :=
  "the " ++ part ++ " of facet " ++ quoted facet.id ++ " of " ++ quoted spec.id

def pathCheck (spec : ResultClass) (facet : Facet) (path : NamedPath) : Check :=
  .part (location path.name facet spec) ("?s " ++ path.path ++ " ?o") path.path

/-- The repetition of the parent property can be read too. -/
def hierarchyCheck (spec : ResultClass) (facet : Facet) (parent : String) : Check :=
  let closure := (Clause.PropertyPath.mk parent).zeroOrMore.text
  .part (location "hierarchy" facet spec) ("?s " ++ closure ++ " ?o") closure

def facetChecks (spec : ResultClass) (facet : Facet) : List Check :=
  .facetId facet.id :: facet.paths.map (pathCheck spec facet) ++
    facet.parent.toList.map (hierarchyCheck spec facet)

def classChecks (spec : ResultClass) : List Check :=
  .part ("the classes of " ++ quoted spec.id)
      ("VALUES ?facetClass " ++ Text.braced spec.classList) spec.classList ::
    spec.facets.flatMap (facetChecks spec)

/-- A request for the first entity of a class. -/
def sampleRequest (spec : ResultClass) (direction : SortDirection) : Check :=
  .assembly (.resultSet spec.id none ⟨0, 1⟩ ⟨none, direction⟩)

def queryChecks (spec : ResultClass) : List Check :=
  [.assembly (.count spec.id none), sampleRequest spec .ascending, sampleRequest spec .descending]

/-- The facet class of a route is there. -/
def routedClassChecks (facetClass : Option String) : List Check :=
  facetClass.toList.map .classExists

def listingChecks (route : ListingRoute) : List Check :=
  routedClassChecks route.facetClass ++
    [.listing route.resultClass false, .listing route.resultClass true]

def lookupChecks (route : LookupRoute) : List Check :=
  routedClassChecks route.facetClass ++
    [.assembly (.lookup route.resultClass none none sampleInstance.text)]

/-- Every check of a portal in order. -/
def checks (portal : Portal) : List Check :=
  portal.resultClasses.flatMap classChecks ++ portal.resultClasses.flatMap queryChecks ++
    portal.listings.flatMap listingChecks ++ portal.lookups.flatMap lookupChecks

/-- Carries out checks up to the first one that fails. -/
def carryOut (portal : Portal) : List Check → CheckReport
  | [] =>
    ⟨[.validated portal.resultClasses.length portal.listings.length portal.lookups.length],
      .ok ()⟩
  | check :: rest =>
    let report := check.report portal
    match report.outcome with
    | .error fault => ⟨report.events, .error fault⟩
    | .ok () =>
      let later := carryOut portal rest
      ⟨report.events ++ later.events, later.outcome⟩

/-- Whether a portal passes every check, and what is logged meanwhile. -/
def validationReport (portal : Portal) : CheckReport :=
  carryOut portal portal.checks

/-- The fault of a portal, if it has one. -/
def validate (portal : Portal) : Except ConfigurationFault Unit :=
  portal.validationReport.outcome

end FacetedQuery.Portal
