import FacetedQuery.Proofs.Clause.Elements
import FacetedQuery.Proofs.ConstraintBlock.Injection
import Mathlib.Tactic.Tauto

/-!
# Constraint blocks in queries

If the property paths of a portal are paths of the grammar, every block that is composed for it is a
part of a group.  It binds its target and variables that start with the id of a facet.
-/

namespace FacetedQuery

open Clause (Admitted Expression Pattern Piece PropertyPath)
open Clause.Expression (IsWhole)
open Rdf (Iri Variable)
open Sparql (Prologue Token)
open Sparql.Grammar (ArePath Forms)

/-- A path of the grammar whose names mean something. -/
structure Traversable (prologue : Prologue) (path : String) : Prop where
  arePath : ArePath (PropertyPath.mk path).tokens
  admitted : ∀ token ∈ (PropertyPath.mk path).tokens, prologue.admits token = true

instance (prologue : Prologue) (path : String) : Decidable (Traversable prologue path) :=
  decidable_of_iff (ArePath (PropertyPath.mk path).tokens ∧
      ∀ token ∈ (PropertyPath.mk path).tokens, prologue.admits token = true)
    ⟨fun ⟨arePath, admitted⟩ => ⟨arePath, admitted⟩,
      fun traversable => ⟨traversable.arePath, traversable.admitted⟩⟩

/-- A facet whose variables are single tokens and whose paths can be followed. -/
structure Facet.Navigable (prologue : Prologue) (facet : Facet) : Prop where
  name : facet.id.toList.head? ≠ some ':'
  paths : ∀ named ∈ facet.paths, Traversable prologue named.path
  hierarchy : ∀ parent, facet.parent = some parent →
    Traversable prologue (PropertyPath.mk parent).zeroOrMore.text

/-- A portal whose facets are. -/
def Portal.Navigable (portal : Portal) : Prop :=
  ∀ spec ∈ portal.resultClasses, ∀ facet ∈ spec.facets, facet.Navigable portal.prologue

/-- What is added to the id of a facet in the variables that a value of it needs. -/
def FilterValue.suffixes (facet : Facet) : FilterValue → List String
  | .uris _ false => ["Filter"]
  | .uris _ true => ["Filter", "FilterWithSubconcepts"]
  | .text _ => ["Label"]
  | .timespan _ _ => ["Timespan", "Start", "End"]
  | .box _ => if facet.predicate.isSome then ["Filter", "Lat", "Long"] else ["Lat", "Long"]

namespace FilterValue

theorem suffixes_subset (value : FilterValue) (facet : Facet) :
    value.suffixes facet ⊆ Filter.suffixes := by
  fun_cases suffixes facet value <;> simp [Filter.suffixes]

theorem suffixes_ne_nil (value : FilterValue) (facet : Facet) : value.suffixes facet ≠ [] := by
  fun_cases suffixes facet value <;> simp

end FilterValue

namespace Filter

variable {prologue : Prologue} {facetClass : String} {facet : Facet} {target : Variable}
  {value : FilterValue} {patterns : List Pattern}

theorem Context.Binds.whole {context : Context} {suffix : String} {fresh : Variable}
    (binds : context.Binds suffix fresh) (member : suffix ∈ suffixes)
    (name : context.facet.id.toList.head? ≠ some ':') : IsWhole fresh := by
  obtain ⟨first, middle, last, split, -, noColon, -⟩ := exists_suffix member
  unfold IsWhole
  rw [show fresh.name = _ from binds, String.toList_append, split]
  cases id : context.facet.id.toList with
  | nil => simpa using noColon
  | cons head rest => simpa [id] using name

theorem listLegible_append {first second : List Pattern} (legible : Pattern.ListLegible first)
    (more : Pattern.ListLegible second) : Pattern.ListLegible (first ++ second) := by
  induction first with
  | nil => exact more
  | cons element first induction => exact ⟨legible.1, induction legible.2⟩

theorem listPathsAdmitted_append {first second : List Pattern}
    (admitted : Pattern.ListPathsAdmitted prologue first)
    (more : Pattern.ListPathsAdmitted prologue second) :
    Pattern.ListPathsAdmitted prologue (first ++ second) := by
  induction first with
  | nil => exact more
  | cons element first induction => exact ⟨admitted.1, induction admitted.2⟩

theorem listPathsAdmitted_filters (conditions : List Expression) :
    Pattern.ListPathsAdmitted prologue (conditions.map .filter) := by
  induction conditions with
  | nil => trivial
  | cons condition conditions induction => exact ⟨trivial, induction⟩

theorem listScope_append (first second : List Pattern) :
    Pattern.listScope (first ++ second) = Pattern.listScope first ++ Pattern.listScope second := by
  induction first with
  | nil => rfl
  | cons element first induction => simp [Pattern.listScope, induction]

theorem legible_members (items : List Iri) : Expression.ListLegible (items.map .iri) := by
  induction items with
  | nil => trivial
  | cons item items induction => exact ⟨trivial, induction⟩

theorem listScope_filters (conditions : List Expression) :
    Pattern.listScope (conditions.map .filter) = [] := by
  induction conditions with
  | nil => rfl
  | cons condition conditions induction => exact induction

theorem listScope_location {latitude longitude : Variable}
    (named : latitude.name = facet.id ++ "Lat") (namedOther : longitude.name = facet.id ++ "Long")
    (located : Variable) (paths : SpatialPaths) (corners : GeoBox) :
    Pattern.listScope (ofLocation located latitude longitude paths corners) =
      [located.name, facet.id ++ "Lat", located.name, facet.id ++ "Long"] := by
  simp [Filter.ofLocation, Pattern.link, Pattern.listScope, Pattern.scope, Pattern.nodeScope, named,
    namedOther]

/-- The patterns of a facet bind their target, and one variable for each suffix that the value
needs. -/
theorem mem_listScope_patterns {name : String}
    (made : Filter.patterns facetClass facet target value = .ok patterns) :
    name ∈ Pattern.listScope patterns ↔
      name = target.name ∨ ∃ suffix ∈ value.suffixes facet, name = facet.id ++ suffix := by
  have bound : ∀ {suffix : String} {fresh : Variable},
      Context.Binds ⟨facetClass, facet, target⟩ suffix fresh → fresh.name = facet.id ++ suffix :=
    fun binds => binds
  cases patterns_eq_ok.mp made with
  | exact _ binds =>
      simp [ofExactUris, Pattern.link, Pattern.listScope, Pattern.scope, Pattern.nodeScope,
        bound binds, FilterValue.suffixes]
  | concepts _ _ binds bindsBelow =>
      simp [ofConcepts, Pattern.link, Pattern.listScope, Pattern.scope, Pattern.nodeScope,
        bound binds, bound bindsBelow, FilterValue.suffixes]
      tauto
  | text _ binds =>
      simp [Pattern.link, Pattern.listScope, Pattern.scope, Pattern.nodeScope, bound binds,
        FilterValue.suffixes]
  | timespan _ _ bindsSpan bindsStart bindsStop =>
      rw [ofSpan, listScope_append, listScope_filters]
      simp [Pattern.link, Pattern.listScope, Pattern.scope, Pattern.nodeScope, bound bindsSpan,
        bound bindsStart, bound bindsStop, FilterValue.suffixes]
      tauto
  | place nowhere _ bindsLatitude bindsLongitude =>
      rw [listScope_location (bound bindsLatitude) (bound bindsLongitude)]
      simp [FilterValue.suffixes, nowhere]
      tauto
  | located path _ binds bindsLatitude bindsLongitude =>
      rw [Pattern.listScope, listScope_location (bound bindsLatitude) (bound bindsLongitude)]
      simp [Pattern.link, Pattern.scope, Pattern.nodeScope, bound binds, FilterValue.suffixes, path]
      tauto

/-- The patterns of one facet bind a variable of the facet, and apart from their target no
others. -/
structure Owned (facet : Facet) (target : Variable) (patterns : List Pattern) : Prop where
  scope : ∀ name ∈ Pattern.listScope patterns,
    name = target.name ∨ ∃ suffix ∈ suffixes, name = facet.id ++ suffix
  occurs : ∃ suffix ∈ suffixes, facet.id ++ suffix ∈ Pattern.listScope patterns

theorem owned_patterns (made : Filter.patterns facetClass facet target value = .ok patterns) :
    Owned facet target patterns where
  scope name inside := by
    rcases (mem_listScope_patterns made).mp inside with same | ⟨suffix, member, same⟩
    · exact .inl same
    · exact .inr ⟨suffix, value.suffixes_subset facet member, same⟩
  occurs := by
    obtain ⟨suffix, member⟩ := List.exists_mem_of_ne_nil _ (value.suffixes_ne_nil facet)
    exact ⟨suffix, value.suffixes_subset facet member,
      (mem_listScope_patterns made).mpr (.inr ⟨suffix, member, rfl⟩)⟩

/-- What the grammar asks of the patterns of one facet. -/
structure Legible (prologue : Prologue) (patterns : List Pattern) : Prop where
  legible : Pattern.ListLegible patterns
  admitted : Pattern.ListPathsAdmitted prologue patterns

theorem Legible.append {first second : List Pattern} (legible : Legible prologue first)
    (more : Legible prologue second) : Legible prologue (first ++ second) :=
  ⟨listLegible_append legible.legible more.legible,
    listPathsAdmitted_append legible.admitted more.admitted⟩

theorem legible_location {located latitude longitude : Variable} {paths : SpatialPaths}
    (wholeLocated : IsWhole located) (wholeLatitude : IsWhole latitude)
    (wholeLongitude : IsWhole longitude) (isPath : Traversable prologue paths.latitude)
    (isOther : Traversable prologue paths.longitude) (corners : GeoBox) :
    Legible prologue (ofLocation located latitude longitude paths corners) :=
  ⟨⟨⟨wholeLocated, isPath.arePath, wholeLatitude⟩, ⟨wholeLocated, isOther.arePath, wholeLongitude⟩,
      ⟨⟨⟨⟨trivial, wholeLatitude⟩, trivial, trivial⟩, ⟨trivial, wholeLatitude⟩, trivial, trivial⟩,
        ⟨⟨trivial, wholeLongitude⟩, trivial, trivial⟩, ⟨trivial, wholeLongitude⟩, trivial, trivial⟩,
      trivial⟩,
    ⟨isPath.admitted, isOther.admitted, trivial, trivial⟩⟩

theorem legible_overlap {start stop : Variable} (wholeStart : IsWhole start)
    (wholeStop : IsWhole stop) (min max : Option Calendar.Date) :
    Pattern.ListLegible
      ((Expression.all? (overlapConditions start stop min max)).toList.map .filter) := by
  have coalesces : ∀ {first second : Variable}, IsWhole first → IsWhole second →
      (Expression.call .coalesce [.var first, .var second]).Legible := fun whole wholeOther =>
    ⟨trivial, whole, wholeOther, trivial⟩
  have earliest : ∀ date, (Expression.atMost (.call .coalesce [.var start, .var stop])
      (dateLiteral date)).Legible := fun _ =>
    ⟨⟨trivial, coalesces wholeStart wholeStop⟩, trivial, trivial⟩
  have latest : ∀ date, (Expression.atLeast (.call .coalesce [.var stop, .var start])
      (dateLiteral date)).Legible := fun _ =>
    ⟨⟨trivial, coalesces wholeStop wholeStart⟩, trivial, trivial⟩
  cases min with
  | none =>
      cases max with
      | none => trivial
      | some last => exact ⟨earliest last, trivial⟩
  | some first =>
      cases max with
      | none => exact ⟨latest first, trivial⟩
      | some last => exact ⟨⟨earliest last, latest first⟩, trivial⟩

/-- The patterns of a facet are legible. -/
theorem legible_patterns (navigable : facet.Navigable prologue) (whole : IsWhole target)
    (made : Filter.patterns facetClass facet target value = .ok patterns) :
    Legible prologue patterns := by
  have paths := FilterPaths.ofPaths navigable.paths
  have wholeOf : ∀ {suffix : String} {fresh : Variable}, suffix ∈ suffixes →
      Context.Binds ⟨facetClass, facet, target⟩ suffix fresh → IsWhole fresh :=
    fun member binds => binds.whole member navigable.name
  cases patterns_eq_ok.mp made with
  | exact path binds =>
      have isPath := paths.predicate _ path
      have wholeValue := wholeOf (by decide) binds
      exact ⟨⟨⟨whole, isPath.arePath, wholeValue⟩,
        ⟨trivial, wholeValue, legible_members _⟩, trivial⟩, isPath.admitted, trivial, trivial⟩
  | concepts path up binds bindsBelow =>
      have isPath := paths.predicate _ path
      have isClosure := navigable.hierarchy _ up
      have wholeValue := wholeOf (by decide) binds
      have wholeBelow := wholeOf (by decide) bindsBelow
      exact ⟨⟨wholeValue, ⟨wholeBelow, isClosure.arePath, wholeValue⟩,
        ⟨whole, isPath.arePath, wholeBelow⟩, trivial⟩,
        trivial, isClosure.admitted, isPath.admitted, trivial⟩
  | text found binds =>
      have isPath := paths.labelPath _ found
      have wholeLabel := wholeOf (by decide) binds
      exact ⟨⟨⟨whole, isPath.arePath, wholeLabel⟩,
        ⟨rfl, ⟨rfl, ⟨rfl, wholeLabel, trivial⟩, trivial⟩, trivial, trivial⟩, trivial⟩,
        isPath.admitted, trivial, trivial⟩
  | timespan path found bindsSpan bindsStart bindsStop =>
      have isPath := paths.predicate _ path
      have isEnd := paths.timespan _ found
      have wholeSpan := wholeOf (by decide) bindsSpan
      have wholeStart := wholeOf (by decide) bindsStart
      have wholeStop := wholeOf (by decide) bindsStop
      exact ⟨listLegible_append ⟨⟨whole, isPath.arePath, wholeSpan⟩,
          ⟨⟨wholeSpan, isEnd.1.arePath, wholeStart⟩, trivial⟩,
          ⟨⟨wholeSpan, isEnd.2.arePath, wholeStop⟩, trivial⟩, trivial⟩
          (legible_overlap wholeStart wholeStop _ _),
        listPathsAdmitted_append ⟨isPath.admitted, ⟨isEnd.1.admitted, trivial⟩,
          ⟨isEnd.2.admitted, trivial⟩, trivial⟩ (listPathsAdmitted_filters _)⟩
  | place _ found bindsLatitude bindsLongitude =>
      have isPath := paths.spatial _ found
      exact legible_location whole (wholeOf (by decide) bindsLatitude)
        (wholeOf (by decide) bindsLongitude) isPath.1 isPath.2 _
  | located path found binds bindsLatitude bindsLongitude =>
      have isPredicate := paths.predicate _ path
      have isPath := paths.spatial _ found
      have wholeLocated := wholeOf (by decide) binds
      have location := legible_location wholeLocated (wholeOf (by decide) bindsLatitude)
        (wholeOf (by decide) bindsLongitude) isPath.1 isPath.2
      exact ⟨⟨⟨whole, isPredicate.arePath, wholeLocated⟩, (location _).legible⟩,
        isPredicate.admitted, (location _).admitted⟩

end Filter

namespace ConstraintBlock

open Outcome (mapM_cons_eq_ok mapM_nil_eq_ok)

variable {portal : Portal} {facetClass filterTarget : String} {spec : ResultClass}
  {target : Variable} {constraints : Option ConstraintSet} {block : ConstraintBlock}

/-- The variables that a block may bind for itself. -/
def IsOwn (name : String) : Prop :=
  ∃ id, ∃ suffix ∈ Filter.suffixes, name = id ++ suffix

theorem readable_of_whole {name : List Char} (whole : name.head? ≠ some ':') :
    Token.isReadable name = true := by
  unfold Token.isReadable
  split
  · simp at whole
  · rfl

/-- The name of a variable that a facet of a class makes. -/
def OfFacets (spec : ResultClass) (name : String) : Prop :=
  ∃ facet ∈ spec.facets, ∃ suffix ∈ Filter.suffixes, name = facet.id ++ suffix

theorem OfFacets.isOwn {name : String} (ofFacets : OfFacets spec name) : IsOwn name := by
  obtain ⟨facet, -, suffix, member, rfl⟩ := ofFacets
  exact ⟨facet.id, suffix, member, rfl⟩

/-- Fragments bind their target and variables of facets, at least one if there are fragments. -/
theorem owned_fragments {entries : List (String × Constraint)} {fragments : List (List Pattern)}
    (made : entries.mapM (fragment facetClass spec target) = .ok fragments) :
    (∀ name ∈ Pattern.listScope fragments.flatten, name = target.name ∨ OfFacets spec name) ∧
      (entries ≠ [] → ∃ name ∈ Pattern.listScope fragments.flatten, OfFacets spec name) := by
  induction entries generalizing fragments with
  | nil =>
      obtain rfl := mapM_nil_eq_ok.mp made
      exact ⟨by simp [Pattern.listScope], fun nonempty => absurd rfl nonempty⟩
  | cons entry entries induction =>
      obtain ⟨first, rest, head, tail, rfl⟩ := mapM_cons_eq_ok.mp made
      obtain ⟨facet, value, parts⟩ := fragment_eq_ok.mp head
      have member : facet ∈ spec.facets := List.mem_of_find?_eq_some parts.known
      have here := Filter.owned_patterns parts.made
      rw [List.flatten_cons, Filter.listScope_append]
      refine ⟨fun name inside => ?_, fun _ => ?_⟩
      · rcases List.mem_append.mp inside with inside | inside
        · rcases here.scope name inside with same | ⟨suffix, isSuffix, same⟩
          · exact .inl same
          · exact .inr ⟨facet, member, suffix, isSuffix, same⟩
        · exact (induction tail).1 name inside
      · obtain ⟨suffix, isSuffix, inside⟩ := here.occurs
        exact ⟨_, List.mem_append_left _ inside, facet, member, suffix, isSuffix, rfl⟩

theorem legible_fragments {prologue : Prologue}
    (navigable : ∀ facet ∈ spec.facets, facet.Navigable prologue) (whole : IsWhole target)
    {entries : List (String × Constraint)} {fragments : List (List Pattern)}
    (made : entries.mapM (fragment facetClass spec target) = .ok fragments) :
    Filter.Legible prologue fragments.flatten :=
  satisfies_flatten ⟨trivial, trivial⟩ Filter.Legible.append (fun _ _ _ facet _ parts =>
    Filter.legible_patterns (navigable facet (List.mem_of_find?_eq_some parts.known)) whole
      parts.made) made

/-- A block binds its target and variables of facets, at least one if a constraint is active. -/
theorem owned_of_compose
    (composed : compose portal facetClass constraints filterTarget = .ok block) :
    (∀ name ∈ Pattern.listScope block.elements,
      name = filterTarget ∨ ∃ spec ∈ portal.resultClasses, OfFacets spec name) ∧
    (active constraints ≠ [] → ∃ name ∈ Pattern.listScope block.elements, IsOwn name) := by
  rcases compose_eq_ok.mp composed with
    ⟨nothing, rfl⟩ | ⟨-, spec, target, fragments, known, rfl, made, rfl⟩
  · exact ⟨by simp [ConstraintBlock.empty, Pattern.listScope],
      fun nonempty => absurd nothing nonempty⟩
  · obtain ⟨names, own⟩ := owned_fragments made
    refine ⟨fun name inside => (names name inside).imp_right fun ofFacets =>
      ⟨spec, Portal.mem_of_resultClass known, ofFacets⟩, fun nonempty => ?_⟩
    obtain ⟨name, inside, ofFacets⟩ := own nonempty
    exact ⟨name, inside, ofFacets.isOwn⟩

/-- A block is a part of a group that assigns nothing. -/
theorem forms_block (navigable : portal.Navigable) (spellable : portal.Spellable Tokenises)
    (whole : filterTarget.toList.head? ≠ some ':')
    (composed : compose portal facetClass constraints filterTarget = .ok block) :
    Forms (block.pieces.map Piece.token) (Pattern.listScope block.elements) [] ∧
      Admitted portal.prologue block.pieces ∧
      ∀ name ∈ Pattern.listScope block.elements, name = filterTarget ∨ IsOwn name := by
  have names : ∀ name ∈ Pattern.listScope block.elements, name = filterTarget ∨ IsOwn name :=
    fun name inside => ((owned_of_compose composed).1 name inside).imp_right
      fun ⟨_, _, ofFacets⟩ => ofFacets.isOwn
  rcases compose_eq_ok.mp composed with ⟨-, rfl⟩ | ⟨-, spec, target, fragments,
    known, rfl, made, rfl⟩
  · exact ⟨.nil, .nil, names⟩
  · have member := Portal.mem_of_resultClass known
    have wholeTarget : IsWhole target := whole
    obtain ⟨legible, admitted⟩ := legible_fragments (navigable spec member) wholeTarget made
    have sound := sound_fragments Text.LineEdit.refl Preserves.refl (spellable.paths spec member)
      (spellable.names spec member) (usable_id (readable_of_whole whole)) made
    exact ⟨Pattern.list_forms _ legible,
      Pattern.list_admitted portal.prologue_base _ sound legible admitted, names⟩

end ConstraintBlock

end FacetedQuery
