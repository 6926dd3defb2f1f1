import FacetedQuery.ConstraintBlock
import FacetedQuery.Proofs.Outcome

/-!
# Composition of constraint blocks

What a block consists of once it was composed: for each active constraint the patterns of one
facet, whose variables bear the id of the facet with a suffix.
-/

namespace FacetedQuery

open Clause (Pattern)
open Outcome (bind_eq_ok mapError_eq_ok mapM_cons_eq_ok mapM_nil_eq_ok)
open Rdf (Iri Variable)

theorem Rdf.Variable.ext_name {first second : Variable} (same : first.name = second.name) :
    first = second := by
  cases first
  cases second
  cases same
  rfl

theorem Rdf.Variable.ofName?_eq_some {name : String} {target : Variable} :
    Variable.ofName? name = some target ↔ target.name = name := by
  unfold Variable.ofName?
  constructor
  · intro found
    split at found
    · cases found
      rfl
    · cases found
  · rintro rfl
    rw [dif_pos target.wellFormed]

theorem Rdf.Variable.ofName?_ne_none {name : String}
    (wellFormed : Rdf.Name.isVariable name.toList = true) : Variable.ofName? name ≠ none := by
  rw [Variable.ofName?_eq_some.mpr (rfl : (⟨name, wellFormed⟩ : Variable).name = name)]
  exact Option.some_ne_none _

theorem facetVariable_eq_ok {facet suffix : String} {target : Variable} :
    facetVariable facet suffix = .ok target ↔ target.name = facet ++ suffix := by
  unfold facetVariable
  rw [← Variable.ofName?_eq_some]
  cases Variable.ofName? (facet ++ suffix) with
  | none => simp
  | some found => simp

namespace Filter

/-- What may be added to the id of a facet to make a variable. -/
def suffixes : List String :=
  ["Filter", "FilterWithSubconcepts", "Label", "Timespan", "Start", "End", "Lat", "Long"]

theorem isVariableRest_of_suffix {suffix : String} (member : suffix ∈ suffixes) :
    suffix.toList.all Rdf.Name.isVariableRest = true := by
  have all : ∀ suffix ∈ suffixes, suffix.toList.all Rdf.Name.isVariableRest = true := by decide
  exact all suffix member

/-- An id that makes a variable with one suffix makes one with every other. -/
theorem isVariable_append_suffix {id suffix other : String} (member : other ∈ suffixes)
    (wellFormed : Rdf.Name.isVariable (id ++ suffix).toList = true) :
    Rdf.Name.isVariable (id ++ other).toList = true := by
  rw [String.toList_append] at wellFormed ⊢
  cases letters : id.toList with
  | nil =>
      have all : ∀ suffix ∈ suffixes, Rdf.Name.isVariable suffix.toList = true := by decide
      exact all other member
  | cons first rest =>
      rw [letters] at wellFormed
      simp only [List.cons_append, Rdf.Name.isVariable, List.all_append, Bool.and_eq_true]
        at wellFormed ⊢
      exact ⟨wellFormed.1, wellFormed.2.1, isVariableRest_of_suffix member⟩

variable {context : Context} {patterns : List Pattern}

/-- A variable that a filter binds for itself. -/
def Context.Binds (context : Context) (suffix : String) (target : Variable) : Prop :=
  target.name = context.facet.id ++ suffix

theorem Context.Binds.unique {context : Context} {suffix : String} {first second : Variable}
    (bindsFirst : context.Binds suffix first) (bindsSecond : context.Binds suffix second) :
    first = second :=
  Variable.ext_name (bindsFirst.trans bindsSecond.symm)

theorem Context.fresh_eq_ok {suffix : String} {target : Variable} :
    context.fresh suffix = .ok target ↔ context.Binds suffix target :=
  facetVariable_eq_ok

theorem Context.predicate_eq_ok {path : String} :
    context.predicate = .ok path ↔ context.facet.predicate = some path := by
  unfold Context.predicate
  cases context.facet.predicate <;> simp

theorem Context.need_eq_ok {part : Option α} {property : String} {found : α} :
    context.need part property = .ok found ↔ part = some found := by
  unfold Context.need
  cases part <;> simp

theorem ofUris_exact_eq_ok {items : List Iri} :
    ofUris context items false = .ok patterns ↔
      ∃ predicate value, context.facet.predicate = some predicate ∧ context.Binds "Filter" value ∧
        patterns = ofExactUris context.target value predicate items := by
  unfold ofUris
  simp only [bind_eq_ok, Context.predicate_eq_ok, Context.fresh_eq_ok, Bool.false_eq_true,
    if_false]
  constructor
  · rintro ⟨predicate, path, value, binds, equality⟩
    cases equality
    exact ⟨predicate, value, path, binds, rfl⟩
  · rintro ⟨predicate, value, path, binds, rfl⟩
    exact ⟨predicate, path, value, binds, rfl⟩

theorem ofUris_concepts_eq_ok {items : List Iri} :
    ofUris context items true = .ok patterns ↔
      ∃ predicate parent value below, context.facet.predicate = some predicate ∧
        context.facet.parent = some parent ∧ context.Binds "Filter" value ∧
        context.Binds "FilterWithSubconcepts" below ∧
        patterns = ofConcepts context.target value below predicate parent items := by
  unfold ofUris
  simp only [bind_eq_ok, Context.predicate_eq_ok, Context.fresh_eq_ok, Context.need_eq_ok, if_true]
  constructor
  · rintro ⟨predicate, path, value, binds, parent, up, below, bindsBelow, equality⟩
    cases equality
    exact ⟨predicate, parent, value, below, path, up, binds, bindsBelow, rfl⟩
  · rintro ⟨predicate, parent, value, below, path, up, binds, bindsBelow, rfl⟩
    exact ⟨predicate, path, value, binds, parent, up, below, bindsBelow, rfl⟩

theorem ofText_eq_ok {content : String} :
    ofText context content = .ok patterns ↔
      ∃ path label, context.facet.labelPath = some path ∧ context.Binds "Label" label ∧
        patterns = [.link context.target path label,
          .filter (.call .contains [.call .lcase [.call .str [.var label]],
            .literal (.plain (Text.lowercase content))])] := by
  unfold ofText
  simp only [bind_eq_ok, Context.fresh_eq_ok, Context.need_eq_ok]
  constructor
  · rintro ⟨path, found, label, binds, equality⟩
    cases equality
    exact ⟨path, label, found, binds, rfl⟩
  · rintro ⟨path, label, found, binds, rfl⟩
    exact ⟨path, found, label, binds, rfl⟩

/-- A link to a time span, its two ends, either of which may be missing, and the conditions on
them. -/
def ofSpan (target span start stop : Variable) (predicate : String) (paths : TimespanPaths)
    (min max : Option Calendar.Date) : List Pattern :=
  [.link target predicate span, .optional [.link span paths.start start],
      .optional [.link span paths.stop stop]] ++
    (Clause.Expression.all? (overlapConditions start stop min max)).toList.map .filter

theorem ofTimespan_eq_ok {min max : Option Calendar.Date} :
    ofTimespan context min max = .ok patterns ↔
      ∃ predicate paths span start stop, context.facet.predicate = some predicate ∧
        context.facet.timespan = some paths ∧ context.Binds "Timespan" span ∧
        context.Binds "Start" start ∧ context.Binds "End" stop ∧
        patterns = ofSpan context.target span start stop predicate paths min max := by
  unfold ofTimespan
  simp only [bind_eq_ok, Context.predicate_eq_ok, Context.fresh_eq_ok, Context.need_eq_ok]
  constructor
  · rintro ⟨predicate, path, paths, found, span, bindsSpan, start, bindsStart, stop, bindsStop,
      equality⟩
    cases equality
    exact ⟨predicate, paths, span, start, stop, path, found, bindsSpan, bindsStart, bindsStop, rfl⟩
  · rintro ⟨predicate, paths, span, start, stop, path, found, bindsSpan, bindsStart, bindsStop, rfl⟩
    exact ⟨predicate, path, paths, found, span, bindsSpan, start, bindsStart, stop, bindsStop, rfl⟩

/-- An entity that bears coordinates itself, or is linked to something that does. -/
theorem ofBox_eq_ok {box : GeoBox} :
    ofBox context box = .ok patterns ↔
      ∃ paths latitude longitude, context.facet.spatial = some paths ∧
        context.Binds "Lat" latitude ∧ context.Binds "Long" longitude ∧
        ((context.facet.predicate = none ∧
            patterns = ofLocation context.target latitude longitude paths box) ∨
          ∃ predicate located, context.facet.predicate = some predicate ∧
            context.Binds "Filter" located ∧
            patterns = .link context.target predicate located ::
              ofLocation located latitude longitude paths box) := by
  unfold ofBox
  simp only [bind_eq_ok, Context.fresh_eq_ok, Context.need_eq_ok]
  constructor
  · rintro ⟨paths, found, latitude, bindsLatitude, longitude, bindsLongitude, further⟩
    refine ⟨paths, latitude, longitude, found, bindsLatitude, bindsLongitude, ?_⟩
    split at further
    · next predicate path =>
      obtain ⟨located, binds, equality⟩ := bind_eq_ok.mp further
      cases equality
      exact .inr ⟨predicate, located, path, Context.fresh_eq_ok.mp binds, rfl⟩
    · next path =>
      cases further
      exact .inl ⟨path, rfl⟩
  · rintro ⟨paths, latitude, longitude, found, bindsLatitude, bindsLongitude, further⟩
    refine ⟨paths, found, latitude, bindsLatitude, longitude, bindsLongitude, ?_⟩
    rcases further with ⟨path, rfl⟩ | ⟨predicate, located, path, binds, rfl⟩
    · rw [path]
      rfl
    · rw [path]
      exact bind_eq_ok.mpr ⟨located, Context.fresh_eq_ok.mpr binds, rfl⟩

/-- What the patterns of a value are, by the paths of the facet and the variables of its own. -/
inductive Yields (facetClass : String) (facet : Facet) (target : Variable) :
    FilterValue → List Pattern → Prop where
  | exact {items : List Iri} {predicate : String} {value : Variable}
      (path : facet.predicate = some predicate)
      (binds : Context.Binds ⟨facetClass, facet, target⟩ "Filter" value) :
      Yields facetClass facet target (.uris items false)
        (ofExactUris target value predicate items)
  | concepts {items : List Iri} {predicate parent : String} {value below : Variable}
      (path : facet.predicate = some predicate) (up : facet.parent = some parent)
      (binds : Context.Binds ⟨facetClass, facet, target⟩ "Filter" value)
      (bindsBelow : Context.Binds ⟨facetClass, facet, target⟩ "FilterWithSubconcepts" below) :
      Yields facetClass facet target (.uris items true)
        (ofConcepts target value below predicate parent items)
  | text {content path : String} {label : Variable} (found : facet.labelPath = some path)
      (binds : Context.Binds ⟨facetClass, facet, target⟩ "Label" label) :
      Yields facetClass facet target (.text content)
        [.link target path label,
          .filter (.call .contains [.call .lcase [.call .str [.var label]],
            .literal (.plain (Text.lowercase content))])]
  | timespan {min max : Option Calendar.Date} {predicate : String} {paths : TimespanPaths}
      {span start stop : Variable} (path : facet.predicate = some predicate)
      (found : facet.timespan = some paths)
      (bindsSpan : Context.Binds ⟨facetClass, facet, target⟩ "Timespan" span)
      (bindsStart : Context.Binds ⟨facetClass, facet, target⟩ "Start" start)
      (bindsStop : Context.Binds ⟨facetClass, facet, target⟩ "End" stop) :
      Yields facetClass facet target (.timespan min max)
        (ofSpan target span start stop predicate paths min max)
  /-- The entity bears the coordinates itself. -/
  | place {corners : GeoBox} {paths : SpatialPaths} {latitude longitude : Variable}
      (nowhere : facet.predicate = none) (found : facet.spatial = some paths)
      (bindsLatitude : Context.Binds ⟨facetClass, facet, target⟩ "Lat" latitude)
      (bindsLongitude : Context.Binds ⟨facetClass, facet, target⟩ "Long" longitude) :
      Yields facetClass facet target (.box corners)
        (ofLocation target latitude longitude paths corners)
  | located {corners : GeoBox} {predicate : String} {paths : SpatialPaths}
      {located latitude longitude : Variable} (path : facet.predicate = some predicate)
      (found : facet.spatial = some paths)
      (binds : Context.Binds ⟨facetClass, facet, target⟩ "Filter" located)
      (bindsLatitude : Context.Binds ⟨facetClass, facet, target⟩ "Lat" latitude)
      (bindsLongitude : Context.Binds ⟨facetClass, facet, target⟩ "Long" longitude) :
      Yields facetClass facet target (.box corners)
        (.link target predicate located :: ofLocation located latitude longitude paths corners)

theorem patterns_eq_ok {facetClass : String} {facet : Facet} {target : Variable}
    {value : FilterValue} :
    Filter.patterns facetClass facet target value = .ok patterns ↔
      Yields facetClass facet target value patterns := by
  constructor
  · intro made
    cases value with
    | uris items withSubconcepts =>
        cases withSubconcepts with
        | false =>
            obtain ⟨predicate, value, path, binds, rfl⟩ := ofUris_exact_eq_ok.mp made
            exact .exact path binds
        | true =>
            obtain ⟨predicate, parent, value, below, path, up, binds, bindsBelow, rfl⟩ :=
              ofUris_concepts_eq_ok.mp made
            exact .concepts path up binds bindsBelow
    | text content =>
        obtain ⟨path, label, found, binds, rfl⟩ := ofText_eq_ok.mp made
        exact .text found binds
    | timespan min max =>
        obtain ⟨predicate, paths, span, start, stop, path, found, bindsSpan, bindsStart, bindsStop,
          rfl⟩ := ofTimespan_eq_ok.mp made
        exact .timespan path found bindsSpan bindsStart bindsStop
    | box corners =>
        obtain ⟨paths, latitude, longitude, found, bindsLatitude, bindsLongitude,
          ⟨nowhere, rfl⟩ | ⟨predicate, located, path, binds, rfl⟩⟩ := ofBox_eq_ok.mp made
        · exact .place nowhere found bindsLatitude bindsLongitude
        · exact .located path found binds bindsLatitude bindsLongitude
  · intro yields
    cases yields with
    | exact path binds => exact ofUris_exact_eq_ok.mpr ⟨_, _, path, binds, rfl⟩
    | concepts path up binds bindsBelow =>
        exact ofUris_concepts_eq_ok.mpr ⟨_, _, _, _, path, up, binds, bindsBelow, rfl⟩
    | text found binds => exact ofText_eq_ok.mpr ⟨_, _, found, binds, rfl⟩
    | timespan path found bindsSpan bindsStart bindsStop =>
        exact ofTimespan_eq_ok.mpr
          ⟨_, _, _, _, _, path, found, bindsSpan, bindsStart, bindsStop, rfl⟩
    | place nowhere found bindsLatitude bindsLongitude =>
        exact ofBox_eq_ok.mpr
          ⟨_, _, _, found, bindsLatitude, bindsLongitude, .inl ⟨nowhere, rfl⟩⟩
    | located path found binds bindsLatitude bindsLongitude =>
        exact ofBox_eq_ok.mpr
          ⟨_, _, _, found, bindsLatitude, bindsLongitude, .inr ⟨_, _, path, binds, rfl⟩⟩

end Filter

section

variable {portal : Portal} {spec : ResultClass} {facet : Facet} {id : String}
  {fault : ConfigurationFault}

theorem Portal.resultClass_eq_error : portal.resultClass id = .error fault ↔
    (∀ spec, portal.resultClass id ≠ .ok spec) ∧ fault = .unknownResultClass id := by
  unfold Portal.resultClass
  cases portal.resultClasses.find? (·.id == id) with
  | none => simp [eq_comm]
  | some spec => simp

theorem Portal.id_of_resultClass (known : portal.resultClass id = .ok spec) : spec.id = id := by
  unfold Portal.resultClass at known
  split at known
  · next found =>
    cases known
    simpa using List.find?_some found
  · cases known

theorem ResultClass.facet_eq_ok : spec.facet id = .ok facet ↔ spec.facet? id = some facet := by
  unfold ResultClass.facet
  cases spec.facet? id with
  | none => simp
  | some other => simp

theorem ResultClass.facet_eq_error : spec.facet id = .error fault ↔
    spec.facet? id = none ∧ fault = .unknownFacet spec.id id := by
  unfold ResultClass.facet
  cases spec.facet? id with
  | none => simp [eq_comm]
  | some facet => simp

theorem ResultClass.id_of_facet? (known : spec.facet? id = some facet) : facet.id = id := by
  simpa using List.find?_some known

end

namespace ConstraintBlock

/-- The constraints of a request that restrict its result. -/
def active (constraints : Option ConstraintSet) : List (String × Constraint) :=
  (constraints.map ConstraintSet.active).getD []

/-- What one constraint becomes: its facet, its value in normal form and its patterns. -/
structure Fragment (facetClass : String) (spec : ResultClass) (target : Variable)
    (entry : String × Constraint) (patterns : List Pattern) (facet : Facet)
    (value : FilterValue) : Prop where
  known : spec.facet? entry.1 = some facet
  checked : checkValue facet entry.2 = .ok value
  made : Filter.patterns facetClass facet target value = .ok patterns

theorem fragment_eq_ok {facetClass : String} {spec : ResultClass} {target : Variable}
    {entry : String × Constraint} {patterns : List Pattern} :
    fragment facetClass spec target entry = .ok patterns ↔
      ∃ facet value, Fragment facetClass spec target entry patterns facet value := by
  unfold fragment
  simp only [bind_eq_ok, mapError_eq_ok]
  constructor
  · rintro ⟨facet, found, value, checked, made⟩
    exact ⟨facet, value, ResultClass.facet_eq_ok.mp found, checked, made⟩
  · rintro ⟨facet, value, found, checked, made⟩
    exact ⟨facet, ResultClass.facet_eq_ok.mpr found, value, checked, made⟩

/-- What the patterns of each constraint satisfy, and groups inherit from their parts, all patterns
together satisfy. -/
theorem satisfies_flatten {kind : List Pattern → Prop} (nil : kind [])
    (append : ∀ {first second : List Pattern}, kind first → kind second → kind (first ++ second))
    {facetClass : String} {spec : ResultClass} {target : Variable}
    {entries : List (String × Constraint)} {fragments : List (List Pattern)}
    (each : ∀ entry ∈ entries, ∀ patterns facet value,
      Fragment facetClass spec target entry patterns facet value → kind patterns)
    (made : entries.mapM (fragment facetClass spec target) = .ok fragments) :
    kind fragments.flatten := by
  induction entries generalizing fragments with
  | nil =>
      obtain rfl := mapM_nil_eq_ok.mp made
      exact nil
  | cons entry entries induction =>
      obtain ⟨first, rest, head, tail, rfl⟩ := mapM_cons_eq_ok.mp made
      obtain ⟨facet, value, parts⟩ := fragment_eq_ok.mp head
      exact append (each entry List.mem_cons_self _ _ _ parts)
        (induction (fun other member => each other (List.mem_cons_of_mem _ member)) tail)

/-- A composed block holds nothing, or the patterns of every active constraint in their order. -/
theorem compose_eq_ok {portal : Portal} {facetClass filterTarget : String}
    {constraints : Option ConstraintSet} {block : ConstraintBlock} :
    compose portal facetClass constraints filterTarget = .ok block ↔
      (active constraints = [] ∧ block = empty) ∨
        (active constraints ≠ [] ∧ ∃ spec target fragments,
          portal.resultClass facetClass = .ok spec ∧ target.name = filterTarget ∧
          (active constraints).mapM (fragment facetClass spec target) = .ok fragments ∧
          block = ⟨fragments.flatten⟩) := by
  cases constraints with
  | none => simp [compose, active, eq_comm]
  | some set =>
      by_cases blank : set.active = []
      · simp [compose, active, ConstraintSet.isBlank, blank, eq_comm]
      · have notBlank : set.isBlank = false := by simpa [ConstraintSet.isBlank] using blank
        simp only [compose, notBlank, active, Option.map_some, Option.getD_some, blank, ofActive,
          bind_eq_ok, mapError_eq_ok, Bool.false_eq_true, if_false, false_and, false_or, ne_eq,
          not_false_eq_true, true_and]
        constructor
        · rintro ⟨spec, known, further⟩
          split at further
          · cases further
          · next target name =>
            obtain ⟨fragments, made, equality⟩ := bind_eq_ok.mp further
            cases equality
            exact ⟨spec, target, fragments, known, Variable.ofName?_eq_some.mp name, made, rfl⟩
        · rintro ⟨spec, target, fragments, known, name, made, rfl⟩
          refine ⟨spec, known, ?_⟩
          rw [Variable.ofName?_eq_some.mpr name]
          exact bind_eq_ok.mpr ⟨fragments, made, rfl⟩

/-- A portal of one class with one facet of IRIs. -/
def single (facet path : String) : Portal where
  prefixes := [⟨"ex", "http://ex/"⟩]
  resultClasses := [⟨"c", ["ex:C"], "", none, [Facet.ofUris facet path]⟩]
  listings := []
  lookups := []

/-- One selected value of the facet. -/
def selection (facet : String) : Option ConstraintSet :=
  some (.ofList [(facet, ⟨.uris ["http://a/"], false⟩)])

end ConstraintBlock

end FacetedQuery
