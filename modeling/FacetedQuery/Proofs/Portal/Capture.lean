import FacetedQuery.Proofs.Assembly.Periods
import FacetedQuery.Proofs.ConstraintBlock.Values
import FacetedQuery.Proofs.Portal.Validation

/-!
# Variables that facets capture

Queries have variables of their own: those of the templates of all classes and of the periods of a
listing, and the target of the constraints of a lookup.  The patterns of a constraint bind variables
that bear the id of its facet and a suffix.  So a facet whose id is `period` captures the ends of
the periods as soon as it restricts a time span, although it passes the checks of the portal.
-/

namespace FacetedQuery

open Clause (Pattern)
open ConstraintBlock (active checkValue compose fragment fragment_eq_ok)
open Outcome (bind_eq_ok mapM_cons_eq_ok mapM_nil_eq_ok)
open Rdf (Literal Variable)
open Sparql (Token)

namespace Assembler

/-- The names behind the question marks of a text. -/
def variableNames : List Char → List String
  | [] => []
  | '?' :: rest => String.ofList (rest.takeWhile Rdf.Name.isVariableRest) :: variableNames rest
  | _ :: rest => variableNames rest

/-- The texts that are the same in the queries of all portals: the templates of all classes, and the
clauses that sort pages. -/
def ownTexts : List String :=
  [Template.countQuery, Template.resultSetQuery, Template.instanceQuery, SortClauses.byId.clause] ++
    [SortDirection.ascending, SortDirection.descending].flatMap fun direction =>
      [(SortClauses.byPath "" direction).triple, (SortClauses.byPath "" direction).clause]

/-- The variables of the queries that come neither from a portal nor from a facet: those of the
texts, the target of the constraints of a lookup, and the columns of periods. -/
def ownVariables : List String :=
  ownTexts.flatMap (fun text => variableNames text.toList) ++
    ["related__id", "period", "periodStart", "periodEnd"]

theorem variableNames_append_feed (text rest : List Char) :
    variableNames (text ++ '\n' :: rest) = variableNames text ++ variableNames rest := by
  have stops : Sparql.Token.Stops Rdf.Name.isVariableRest ('\n' :: rest) := by
    rintro _ ⟨⟩
    decide
  fun_induction variableNames text with
  | case1 => rfl
  | case2 text induction =>
      rw [List.cons_append, variableNames, Sparql.Token.takeWhile_append_of_stops stops, induction,
        List.cons_append]
  | case3 character text other induction =>
      rw [List.cons_append, variableNames, induction]
      exact other

theorem variableNames_join (lines : List String) : variableNames (Text.join "\n" lines).toList =
    lines.flatMap fun line => variableNames line.toList := by
  induction lines with
  | nil => rfl
  | cons line lines induction =>
      cases lines with
      | nil => simp [Text.join]
      | cons next lines =>
          rw [Template.Sheet.toList_join_cons, variableNames_append_feed, induction]
          rfl

theorem mem_ownVariables {name : String} :
    name ∈ ownVariables ↔ name ∈ ["id", "count", "facetClass", "orderByValue", "orderBy",
      "related__id", "period", "periodStart", "periodEnd"] := by
  have distinct : ownVariables.eraseDups = ["id", "count", "facetClass", "orderByValue", "orderBy",
      "related__id", "period", "periodStart", "periodEnd"] := by
    simp only [ownVariables, ownTexts, Template.countQuery, Template.resultSetQuery,
      Template.instanceQuery, Template.instancePatterns, Template.pageOfIds, Text.groupLines,
      Text.braced, Text.openBrace, Text.closeBrace, SortClauses.byId, SortClauses.byPath,
      List.flatMap_cons, List.map_cons, List.map_append, List.cons_append, List.nil_append,
      variableNames_join, String.toList_append]
    repeat rw [String.toList_ofList]
    decide +kernel
  rw [← distinct, List.mem_eraseDups]

theorem suffix_of_ownVariables : ∀ name ∈ ownVariables, ∀ suffix ∈ Filter.suffixes,
    suffix.toList <:+ name.toList →
      name = "periodStart" ∧ suffix = "Start" ∨ name = "periodEnd" ∧ suffix = "End" := by
  simp only [mem_ownVariables]
  decide

theorem append_mem_ownVariables {id suffix : String} (isSuffix : suffix ∈ Filter.suffixes) :
    id ++ suffix ∈ ownVariables ↔ id = "period" ∧ (suffix = "Start" ∨ suffix = "End") := by
  constructor
  · intro own
    have ends : suffix.toList <:+ (id ++ suffix).toList := ⟨id.toList, by simp⟩
    rcases suffix_of_ownVariables _ own suffix isSuffix ends with ⟨same, rfl⟩ | ⟨same, rfl⟩
    · exact ⟨(String.append_left_inj "Start").mp (same.trans (by decide : _ = "period" ++ "Start")),
        .inl rfl⟩
    · exact ⟨(String.append_left_inj "End").mp (same.trans (by decide : _ = "period" ++ "End")),
        .inr rfl⟩
  · rintro ⟨rfl, rfl | rfl⟩
    · exact mem_ownVariables.mpr (by decide)
    · exact mem_ownVariables.mpr (by decide)

end Assembler

namespace FilterValue

variable {value : FilterValue} {facet : Facet} {suffix : String}

/-- Only time spans need variables for their ends. -/
theorem eq_timespan_of_mem (member : suffix ∈ value.suffixes facet)
    (ends : suffix = "Start" ∨ suffix = "End") : ∃ min max, value = .timespan min max := by
  cases value with
  | timespan min max => exact ⟨min, max, rfl⟩
  | uris items withSubconcepts => cases withSubconcepts <;> rcases ends with rfl | rfl <;>
      simp [suffixes] at member
  | text content => rcases ends with rfl | rfl <;> simp [suffixes] at member
  | box corners =>
      rcases ends with rfl | rfl <;> cases isPath : facet.predicate <;>
        simp [suffixes, isPath] at member

end FilterValue

namespace ConstraintBlock

variable {facetClass name : String} {spec : ResultClass} {target : Variable}
  {entry : String × Constraint} {patterns : List Pattern}

theorem timespan_iff_kind {facet : Facet} {constraint : Constraint} {value : FilterValue}
    (checked : checkValue facet constraint = .ok value) :
    (∃ min max, value = .timespan min max) ↔ constraint.kind = .timespan := by
  have accepts := accepts_of_checkValue checked
  unfold Accepts at accepts
  rw [Constraint.kind]
  cases given : constraint.value with
  | uris items =>
      rw [given] at accepts
      obtain ⟨iris, -, rfl⟩ := accepts
      simp [ConstraintValue.kind]
  | text content =>
      rw [given] at accepts
      simp [ConstraintValue.kind, accepts]
  | timespan range =>
      rw [given] at accepts
      obtain ⟨min, max, -, -, rfl⟩ := accepts
      simp [ConstraintValue.kind]
  | box corners =>
      rw [given] at accepts
      simp [ConstraintValue.kind, accepts.2]

/-- A constraint on the time span of a facet with the id `period`. -/
def DatesPeriod (entry : String × Constraint) : Prop :=
  entry.1 = "period" ∧ entry.2.kind = .timespan

/-- What a constraint becomes binds a variable of the queries exactly if it restricts the time span
of a facet with the id `period`: both of the ends of the periods. -/
theorem captures_iff (made : fragment facetClass spec target entry = .ok patterns)
    (own : name ∈ Assembler.ownVariables) (other : name ≠ target.name) :
    name ∈ Pattern.listScope patterns ↔
      DatesPeriod entry ∧ (name = "periodStart" ∨ name = "periodEnd") := by
  obtain ⟨facet, value, known, checked, made⟩ := fragment_eq_ok.mp made
  rw [Filter.mem_listScope_patterns made, or_iff_right other, DatesPeriod,
    ← timespan_iff_kind checked, ← ResultClass.id_of_facet? known]
  constructor
  · rintro ⟨suffix, member, rfl⟩
    obtain ⟨isPeriod, ends⟩ :=
      (Assembler.append_mem_ownVariables (value.suffixes_subset facet member)).mp own
    refine ⟨⟨isPeriod, FilterValue.eq_timespan_of_mem member ends⟩, ?_⟩
    rw [isPeriod]
    exact ends.imp (fun same => by rw [same]; rfl) fun same => by rw [same]; rfl
  · rintro ⟨⟨isPeriod, min, max, rfl⟩, rfl | rfl⟩
    · exact ⟨"Start", by simp [FilterValue.suffixes], by rw [isPeriod]; rfl⟩
    · exact ⟨"End", by simp [FilterValue.suffixes], by rw [isPeriod]; rfl⟩

theorem fragments_capture_iff {entries : List (String × Constraint)}
    {fragments : List (List Pattern)}
    (made : entries.mapM (fragment facetClass spec target) = .ok fragments)
    (own : name ∈ Assembler.ownVariables) (other : name ≠ target.name) :
    name ∈ Pattern.listScope fragments.flatten ↔
      (∃ entry ∈ entries, DatesPeriod entry) ∧ (name = "periodStart" ∨ name = "periodEnd") := by
  induction entries generalizing fragments with
  | nil =>
      obtain rfl := mapM_nil_eq_ok.mp made
      simp [Pattern.listScope]
  | cons entry entries induction =>
      obtain ⟨first, rest, head, tail, rfl⟩ := mapM_cons_eq_ok.mp made
      rw [List.flatten_cons, Filter.listScope_append, List.mem_append, captures_iff head own other,
        induction tail, List.exists_mem_cons_iff, or_and_right]

/-- A block binds a variable of the queries exactly if one of its constraints does. -/
theorem compose_captures_iff {portal : Portal} {filterTarget : String}
    {constraints : Option ConstraintSet} {block : ConstraintBlock}
    (composed : compose portal facetClass constraints filterTarget = .ok block)
    (own : name ∈ Assembler.ownVariables) (other : name ≠ filterTarget) :
    name ∈ Pattern.listScope block.elements ↔
      (∃ entry ∈ active constraints, DatesPeriod entry) ∧
        (name = "periodStart" ∨ name = "periodEnd") := by
  rcases compose_eq_ok.mp composed with ⟨nothing, rfl⟩ | ⟨-, spec, target, fragments,
    -, rfl, made, rfl⟩
  · simp [nothing, ConstraintBlock.empty, Pattern.listScope]
  · exact fragments_capture_iff made own other

end ConstraintBlock

namespace Portal

open ConstraintBlock (DatesPeriod captures_iff compose_captures_iff timespan_iff_kind)

variable {portal : Portal}

/-- No constraint becomes patterns that bind a variable of the queries beside their target. -/
def KeepsApart (portal : Portal) : Prop :=
  ∀ spec ∈ portal.resultClasses, ∀ facetClass target entry patterns,
    fragment facetClass spec target entry = .ok patterns →
      ∀ name ∈ Assembler.ownVariables, name ≠ target.name → name ∉ Pattern.listScope patterns

/-- A range that begins with a year. -/
def sinceYear : Constraint :=
  ⟨.timespan ⟨some (.year 1500), none⟩, false⟩

/-- A facet of time spans in a valid portal takes a range. -/
theorem exists_fragment (valid : portal.validate = .ok ()) {spec : ResultClass}
    (member : spec ∈ portal.resultClasses) {facet : Facet} {id : String}
    (known : spec.facet? id = some facet) (isTimespan : facet.kind = .timespan)
    {predicate : String} (isPath : facet.predicate = some predicate) {paths : TimespanPaths}
    (arePaths : facet.timespan = some paths) (facetClass : String) (target : Variable) :
    ∃ patterns, fragment facetClass spec target (id, sinceYear) = .ok patterns := by
  have inside : facet ∈ spec.facets := List.mem_of_find?_eq_some known
  have fresh : ∀ suffix ∈ Filter.suffixes, ∃ found : Variable, found.name = facet.id ++ suffix := by
    intro suffix isSuffix
    obtain ⟨found, isName⟩ :=
      Option.ne_none_iff_exists'.mp (variable_of_facet valid member inside isSuffix)
    exact ⟨found, Variable.ofName?_eq_some.mp isName⟩
  obtain ⟨span, isSpan⟩ := fresh "Timespan" (by decide)
  obtain ⟨start, isStart⟩ := fresh "Start" (by decide)
  obtain ⟨stop, isStop⟩ := fresh "End" (by decide)
  have accepts : facet.accepts sinceYear.kind = true := by
    rw [Facet.accepts, isTimespan]
    rfl
  have checked : ∃ min max, checkValue facet sinceYear = .ok (.timespan min max) := by
    rw [checkValue, if_pos accepts]
    exact ⟨_, _, rfl⟩
  obtain ⟨min, max, checked⟩ := checked
  have made : ∃ patterns, Filter.patterns facetClass facet target (.timespan min max) =
    .ok patterns :=
    ⟨_, Filter.ofTimespan_eq_ok.mpr
      ⟨predicate, paths, span, start, stop, isPath, arePaths, isSpan, isStart, isStop, rfl⟩⟩
  obtain ⟨patterns, made⟩ := made
  exact ⟨patterns, fragment_eq_ok.mpr ⟨facet, _, known, checked, made⟩⟩

/-- In a valid portal, the patterns of a constraint bind a variable of the queries exactly if the
constraint restricts the time span of a facet with the id `period`, and then they bind both ends of
the periods; a block of constraints does so if one of them does.  So all constraints keep apart from
the queries exactly if every facet of time spans with this id lacks the paths that it needs. -/
theorem facets_capture (valid : portal.validate = .ok ()) :
    (∀ spec ∈ portal.resultClasses, ∀ facetClass target entry patterns,
      fragment facetClass spec target entry = .ok patterns →
        ∀ name ∈ Assembler.ownVariables, name ≠ target.name → (name ∈ Pattern.listScope patterns ↔
          DatesPeriod entry ∧ (name = "periodStart" ∨ name = "periodEnd"))) ∧
    (∀ facetClass constraints filterTarget block,
      compose portal facetClass constraints filterTarget = .ok block →
        ∀ name ∈ Assembler.ownVariables, name ≠ filterTarget →
          (name ∈ Pattern.listScope block.elements ↔
            (∃ entry ∈ active constraints, DatesPeriod entry) ∧
              (name = "periodStart" ∨ name = "periodEnd"))) ∧
    (portal.KeepsApart ↔ ∀ spec ∈ portal.resultClasses, ∀ facet,
      spec.facet? "period" = some facet → facet.kind = .timespan →
        facet.predicate = none ∨ facet.timespan = none) := by
  refine ⟨fun spec _ facetClass target entry patterns made name own other =>
    captures_iff made own other,
      fun facetClass constraints filterTarget block composed name own other =>
      compose_captures_iff composed own other, ?_⟩
  constructor
  · intro apart spec member facet known isTimespan
    by_contra lacks
    rw [not_or] at lacks
    obtain ⟨predicate, isPath⟩ := Option.ne_none_iff_exists'.mp lacks.1
    obtain ⟨paths, arePaths⟩ := Option.ne_none_iff_exists'.mp lacks.2
    let target : Variable := ⟨"id", by decide⟩
    obtain ⟨patterns, made⟩ :=
      exists_fragment valid member known isTimespan isPath arePaths spec.id target
    have own : "periodStart" ∈ Assembler.ownVariables := Assembler.mem_ownVariables.mpr (by decide)
    have other : "periodStart" ≠ target.name := by decide
    refine apart spec member _ _ _ _ made _ own other ?_
    exact (captures_iff made own other).mpr ⟨⟨rfl, rfl⟩, .inl rfl⟩
  · intro lack spec member facetClass target entry patterns made name own other captured
    obtain ⟨⟨isPeriod, isTimespan⟩, -⟩ := (captures_iff made own other).mp captured
    obtain ⟨facet, value, known, checked, patterned⟩ := fragment_eq_ok.mp made
    obtain ⟨min, max, rfl⟩ := (timespan_iff_kind checked).mpr isTimespan
    obtain ⟨predicate, paths, -, -, -, isPath, arePaths, -⟩ := Filter.ofTimespan_eq_ok.mp patterned
    have accepts := (ConstraintBlock.exists_checkValue.mp ⟨_, checked⟩).1
    rw [isTimespan] at accepts
    have isKind : facet.kind = .timespan := by
      rw [Facet.accepts, Bool.or_eq_true] at accepts
      rcases accepts with same | spatial
      · exact (beq_iff_eq.mp same).symm
      · cases spatial
    rw [isPeriod] at known
    rcases lack spec member facet known isKind with without | without
    · cases isPath.symm.trans without
    · cases arePaths.symm.trans without

/-- A class with a facet of time spans. -/
def datedClass : ResultClass where
  id := "c"
  rdfClasses := ["<http://a/C>"]
  properties := ""
  defaultSortKey := none
  facets := [Facet.ofTimespan "period" "<http://a/p>" "<http://a/s>" "<http://a/e>"]

/-- A listing of periods that leaves its place to constraints by this facet. -/
def datedRoute : ListingRoute :=
  ⟨"periods", some "c", "id",
    ⟨.timeBuckets "SELECT * WHERE \x7b\n<PERIODS>\n<FILTER>\n\x7d" 1500 1599 100, .objects⟩, none⟩

def dated : Portal where
  prefixes := []
  resultClasses := [datedClass]
  listings := [datedRoute]
  lookups := []

def datedTemplate : String :=
  "SELECT * WHERE \x7b\n<PERIODS>\n<FILTER>\n\x7d"

/-- The periods of the listing. -/
def datedPeriods : String :=
  "VALUES (?period ?periodStart ?periodEnd) \x7b\n  (\"1500-1599\" " ++
    "\"1500-01-01\"^^<http://www.w3.org/2001/XMLSchema#date> " ++
    "\"1599-12-31\"^^<http://www.w3.org/2001/XMLSchema#date>)\n\x7d"

/-- The query of the listing without constraints. -/
def datedBody : String :=
  "SELECT * WHERE \x7b\nVALUES (?period ?periodStart ?periodEnd) \x7b\n  (\"1500-1599\" " ++
    "\"1500-01-01\"^^<http://www.w3.org/2001/XMLSchema#date> " ++
    "\"1599-12-31\"^^<http://www.w3.org/2001/XMLSchema#date>)\n\x7d\n# no filters\n\x7d"

theorem values_dated : Period.values "periods" 1500 1599 100 = .ok datedPeriods := by
  have tiles : Period.tile (1500 : Int32).toInt (1599 : Int32).toInt (100 : UInt32).toNat =
      [⟨1500, 1599⟩] := by decide
  have single := @Period.row_of_edges "periods" "1500-1599" "1500-01-01" "1599-12-31" ⟨1500, 1599⟩
    (by decide +kernel) (by decide +kernel) (by decide +kernel)
  have made := mapM_cons_eq_ok.mpr ⟨_, _, single, mapM_nil_eq_ok.mpr rfl, rfl⟩
  have name : (Literal.plain "1500-1599").render = "\"1500-1599\"" := by decide +kernel
  have start : (Literal.typed "1500-01-01" Rdf.xsdDate).render =
      "\"1500-01-01\"^^<http://www.w3.org/2001/XMLSchema#date>" := by decide +kernel
  have stop : (Literal.typed "1599-12-31" Rdf.xsdDate).render =
      "\"1599-12-31\"^^<http://www.w3.org/2001/XMLSchema#date>" := by decide +kernel
  rw [← tiles] at made
  rw [Period.values_of_rows (by decide) made, name, start, stop]
  refine congrArg Except.ok (String.toList_inj.mp ?_)
  unfold datedPeriods Text.openBrace Text.closeBrace Text.join Text.join Text.join
  repeat rw [String.toList_append]
  repeat rw [String.toList_ofList]
  rfl

/-- The template is finished as a valid query. -/
theorem finish_dated : (((Template.ofText "periods" datedTemplate).fill .periods datedPeriods).fill
    .filter ConstraintBlock.empty.render).finish = .ok datedBody ∧
      Sparql.isQuery (dated.prefixDeclarations ++ datedBody) = true := by
  have filled : (((Template.ofText "periods" datedTemplate).fill .periods datedPeriods).fill
      .filter ConstraintBlock.empty.render).text = datedBody.toList := by
    unfold Template.fill Template.ofText datedTemplate datedBody datedPeriods
    repeat rw [String.toList_append]
    repeat rw [String.toList_ofList]
    decide +kernel
  have spelled : Template.Free datedBody.toList ∧ Text.strip datedBody.toList = datedBody.toList ∧
      Token.tokens? datedBody.toList = some [.word "SELECT", .mark .star, .word "WHERE",
        .mark .openBrace, .word "VALUES", .mark .openParen, .var "period", .var "periodStart",
        .var "periodEnd", .mark .closeParen, .mark .openBrace, .mark .openParen,
        .string "1500-1599",
        .string "1500-01-01", .mark .doubleCaret, .name (.iri Rdf.xsdDate.text),
        .string "1599-12-31", .mark .doubleCaret, .name (.iri Rdf.xsdDate.text), .mark .closeParen,
        .mark .closeBrace, .mark .closeBrace] := by
    unfold Template.Free datedBody
    repeat rw [String.toList_append]
    repeat rw [String.toList_ofList]
    decide +kernel
  obtain ⟨free, stripped, read⟩ := spelled
  exact ⟨Template.finish_of_stripped filled free stripped,
    isQuery_unprefixed rfl read (by decide +kernel)⟩

theorem validate_dated : dated.validate = .ok () := by
  have known : dated.listing "periods" = .ok datedRoute := rfl
  have isTemplate : Assembler.listingTemplate "periods" (datedRoute.variant false).query =
      .ok ((Template.ofText "periods" datedTemplate).fill .periods datedPeriods) :=
    bind_eq_ok.mpr ⟨_, values_dated, rfl⟩
  have listing : ((Check.listing "periods" false).report dated).outcome = .ok () :=
    passes_listing_of_finish known isTemplate finish_dated.1 finish_dated.2 nofun
  have sound : ∀ declaration ∈ dated.prefixes, declaration.Sound := nofun
  refine validate_of_class rfl rfl sound
    (framed_bare ⟨"http://a/C", by decide⟩ rfl rfl)
    (fun facet member => ?_) ?_
  · obtain rfl := List.mem_singleton.mp member
    refine passes_facet sound rfl rfl ?_ datedClass
    rintro path (_ | ⟨_, _ | ⟨_, _ | ⟨_, ⟨⟩⟩⟩⟩)
    · exact ⟨⟨"http://a/p", by decide⟩, rfl⟩
    · exact ⟨⟨"http://a/s", by decide⟩, rfl⟩
    · exact ⟨⟨"http://a/e", by decide⟩, rfl⟩
  · rw [show dated.listings.flatMap listingChecks ++ dated.lookups.flatMap lookupChecks =
      listingChecks datedRoute from rfl]
    exact passes_listingChecks known rfl (by rintro _ ⟨⟩; exact ⟨datedClass, rfl⟩) listing

/-- A range of years by the facet of the portal becomes patterns that bind the ends of the
periods. -/
theorem exists_captured_period : dated.validate = .ok () ∧
    ∃ patterns, fragment "c" datedClass ⟨"id", by decide⟩ ("period", sinceYear) = .ok patterns ∧
      "periodStart" ∈ Assembler.ownVariables ∧ "periodStart" ∈ Pattern.listScope patterns := by
  obtain ⟨patterns, made⟩ := exists_fragment validate_dated List.mem_cons_self
    (show datedClass.facet? "period" = some _ from rfl) rfl rfl rfl "c" ⟨"id", by decide⟩
  have own : "periodStart" ∈ Assembler.ownVariables := Assembler.mem_ownVariables.mpr (by decide)
  refine ⟨validate_dated, patterns, made, own, ?_⟩
  exact (captures_iff made own (by decide)).mpr ⟨⟨rfl, rfl⟩, .inl rfl⟩

theorem facets_capture_dated : dated.validate = .ok () ∧ ¬dated.KeepsApart := by
  refine ⟨validate_dated, fun apart => ?_⟩
  rcases (facets_capture validate_dated).2.2.mp apart datedClass List.mem_cons_self _ rfl rfl with
    without | without
  · cases without
  · cases without

end Portal

end FacetedQuery
