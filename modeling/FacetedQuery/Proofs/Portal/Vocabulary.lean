import FacetedQuery.Portal.Manuscripts
import FacetedQuery.Proofs.Assembly.Presentable
import FacetedQuery.Proofs.Sparql.Namespace

/-!
# The vocabulary of the manuscript portal

Every prefix of the portal stands for an open namespace, and every path of a facet or a property can
be followed.
-/

namespace FacetedQuery

open Clause (PropertyPath)
open Rdf.Iri (isOpen_fragment isOpen_path)
open Sparql (Prologue Token)
open Sparql.Grammar (ArePath)
open Template (PlainText Walkable joined)

namespace Template

/-- A path on one line whose names have prefixes of open namespaces. -/
structure IsWalk (spaces : List String) (path : List Char) (tokens : List Token) : Prop where
  plain : PlainText path tokens
  arePath : ArePath tokens
  named : tokens.all (Prologue.isNamed spaces) = true

instance (spaces : List String) (path : List Char) (tokens : List Token) :
    Decidable (IsWalk spaces path tokens) :=
  decidable_of_iff (PlainText path tokens ∧ ArePath tokens ∧
      tokens.all (Prologue.isNamed spaces) = true)
    ⟨fun ⟨plain, arePath, named⟩ => ⟨plain, arePath, named⟩,
      fun walk => ⟨walk.plain, walk.arePath, walk.named⟩⟩

/-- Whether a path is one, its tokens being those that are read. -/
def Walks (spaces : List String) (path : List Char) : Prop :=
  IsWalk spaces path ((Token.tokens? path).getD [])

instance (spaces : List String) (path : List Char) : Decidable (Walks spaces path) :=
  inferInstanceAs (Decidable (IsWalk _ _ _))

theorem Walks.walkable {prologue : Prologue} {spaces : List String} (opens : prologue.Opens spaces)
    {path : String} {text : List Char} (same : path = String.ofList text)
    (walks : Walks spaces text) : Walkable prologue path := by
  subst same
  have tokens : (PropertyPath.mk (String.ofList text)).tokens = (Token.tokens? text).getD [] := by
    rw [PropertyPath.tokens, String.toList_ofList]
  refine ⟨⟨?_, ?_⟩, ?_⟩
  · rw [tokens]
    exact walks.arePath
  · rw [tokens]
    exact fun token member => opens.admits (List.all_eq_true.mp walks.named token member)
  · rw [tokens]
    exact .ofChars rfl walks.plain

end Template

namespace Manuscripts

def spaces : List String :=
  prefixes.map PrefixDeclaration.name

theorem opens : portal.prologue.Opens spaces := by
  intro space member
  simp only [spaces, prefixes, List.map_cons, List.map_nil, List.mem_cons, List.not_mem_nil,
    or_false] at member
  rcases member with rfl | rfl | rfl | rfl | rfl | rfl | rfl | rfl | rfl | rfl
  all_goals
    refine ⟨_, rfl, ?_⟩
    rw [String.toList_ofList]
  · exact isOpen_fragment fun _ => rfl
  · exact isOpen_fragment fun _ => rfl
  · exact isOpen_fragment fun _ => rfl
  · exact isOpen_fragment fun _ => rfl
  · exact isOpen_path fun _ => rfl
  · exact isOpen_path fun _ => rfl
  · exact isOpen_path fun _ => rfl
  · exact isOpen_fragment fun _ => rfl
  · exact isOpen_fragment fun _ => rfl
  · exact isOpen_path fun _ => rfl

theorem sound_prefixes : ∀ declaration ∈ portal.prefixes, declaration.Sound := by
  intro declaration member
  simp only [portal, prefixes, List.mem_cons, List.not_mem_nil, or_false] at member
  rcases member with rfl | rfl | rfl | rfl | rfl | rfl | rfl | rfl | rfl | rfl
  all_goals exact ⟨fun _ => rfl, by decide, by decide +kernel⟩

/-- A path whose names the portal declares. -/
def IsPath (path : String) : Prop :=
  Walkable portal.prologue path

theorem isPath {path : String} {text : List Char} (same : path = String.ofList text)
    (walks : Template.Walks spaces text) : IsPath path :=
  walks.walkable opens same

theorem toLabel_joined {path : String} {text : List Char} (same : path = String.ofList text) :
    toLabel path = String.ofList (text ++
      ['/', 's', 'k', 'o', 's', ':', 'p', 'r', 'e', 'f', 'L', 'a', 'b', 'e', 'l']) :=
  joined same rfl

/-- The paths of properties and of facets. -/
structure Vocabulary : Prop where
  prefLabel : IsPath "skos:prefLabel"
  source : IsPath "dct:source"
  sourceLabel : IsPath (toLabel "dct:source")
  type : IsPath "rdf:type"
  typeLabel : IsPath (toLabel "rdf:type")
  broader : IsPath "gvp:broaderPreferred"
  broaders : IsPath (PropertyPath.mk "gvp:broaderPreferred").zeroOrMore.text
  latitude : IsPath "wgs84:lat"
  longitude : IsPath "wgs84:long"
  producedAt : IsPath producedAt
  producedDuring : IsPath producedDuring
  producedBy : IsPath producedBy
  initiatedBy : IsPath initiatedBy
  bornAt : IsPath bornAt
  ownedBy : IsPath ownedBy
  ownerOf : IsPath ("^" ++ Manuscripts.ownedBy)
  lastKnownAt : IsPath lastKnownAt
  spanStart : IsPath spanStart
  spanStop : IsPath spanStop
  timeSpan : IsPath "crm:P4_has_time-span"
  tookPlaceAt : IsPath "crm:P7_took_place_at"
  carries : IsPath "crm:P128_carries"
  carriedBy : IsPath "^crm:P128_carries"
  composedOf : IsPath "crm:P46_is_composed_of"
  partOf : IsPath "^crm:P46_is_composed_of"
  hasLanguage : IsPath "crm:P72_has_language"
  realisedIn : IsPath "frbroo:R3_is_realised_in/^crm:P128_carries"
  handled : IsPath "crm:P30_transferred_custody_of|crm:P108_has_produced"
  language : IsPath "crm:P128_carries/crm:P72_has_language"
  realisedLanguage : IsPath "frbroo:R3_is_realised_in/crm:P72_has_language"
  broaderLabel : IsPath (toLabel "gvp:broaderPreferred")
  producedAtLabel : IsPath (toLabel Manuscripts.producedAt)
  producedByLabel : IsPath (toLabel Manuscripts.producedBy)
  initiatedByLabel : IsPath (toLabel Manuscripts.initiatedBy)
  bornAtLabel : IsPath (toLabel Manuscripts.bornAt)
  ownedByLabel : IsPath (toLabel Manuscripts.ownedBy)
  lastKnownAtLabel : IsPath (toLabel Manuscripts.lastKnownAt)
  tookPlaceAtLabel : IsPath (toLabel "crm:P7_took_place_at")
  languageLabel : IsPath (toLabel "crm:P128_carries/crm:P72_has_language")
  realisedLanguageLabel : IsPath (toLabel "frbroo:R3_is_realised_in/crm:P72_has_language")
  handledLabel : IsPath (toLabel "(crm:P30_transferred_custody_of|crm:P108_has_produced)")
  productionStart : IsPath (Manuscripts.producedDuring ++ "/" ++ Manuscripts.spanStart)
  productionStop : IsPath (Manuscripts.producedDuring ++ "/" ++ Manuscripts.spanStop)
  spanOfStart : IsPath ("crm:P4_has_time-span" ++ "/" ++ Manuscripts.spanStart)
  spanOfStop : IsPath ("crm:P4_has_time-span" ++ "/" ++ Manuscripts.spanStop)

theorem vocabulary : Vocabulary where
  prefLabel := isPath rfl (by decide +kernel)
  source := isPath rfl (by decide +kernel)
  sourceLabel := isPath (toLabel_joined rfl) (by decide +kernel)
  type := isPath rfl (by decide +kernel)
  typeLabel := isPath (toLabel_joined rfl) (by decide +kernel)
  broader := isPath rfl (by decide +kernel)
  broaders := isPath (joined (joined rfl rfl) rfl) (by decide +kernel)
  latitude := isPath rfl (by decide +kernel)
  longitude := isPath rfl (by decide +kernel)
  producedAt := isPath rfl (by decide +kernel)
  producedDuring := isPath rfl (by decide +kernel)
  producedBy := isPath rfl (by decide +kernel)
  initiatedBy := isPath rfl (by decide +kernel)
  bornAt := isPath rfl (by decide +kernel)
  ownedBy := isPath rfl (by decide +kernel)
  ownerOf := isPath (joined rfl rfl) (by decide +kernel)
  lastKnownAt := isPath rfl (by decide +kernel)
  spanStart := isPath rfl (by decide +kernel)
  spanStop := isPath rfl (by decide +kernel)
  timeSpan := isPath rfl (by decide +kernel)
  tookPlaceAt := isPath rfl (by decide +kernel)
  carries := isPath rfl (by decide +kernel)
  carriedBy := isPath rfl (by decide +kernel)
  composedOf := isPath rfl (by decide +kernel)
  partOf := isPath rfl (by decide +kernel)
  hasLanguage := isPath rfl (by decide +kernel)
  realisedIn := isPath rfl (by decide +kernel)
  handled := isPath rfl (by decide +kernel)
  language := isPath rfl (by decide +kernel)
  realisedLanguage := isPath rfl (by decide +kernel)
  broaderLabel := isPath (toLabel_joined rfl) (by decide +kernel)
  producedAtLabel := isPath (toLabel_joined rfl) (by decide +kernel)
  producedByLabel := isPath (toLabel_joined rfl) (by decide +kernel)
  initiatedByLabel := isPath (toLabel_joined rfl) (by decide +kernel)
  bornAtLabel := isPath (toLabel_joined rfl) (by decide +kernel)
  ownedByLabel := isPath (toLabel_joined rfl) (by decide +kernel)
  lastKnownAtLabel := isPath (toLabel_joined rfl) (by decide +kernel)
  tookPlaceAtLabel := isPath (toLabel_joined rfl) (by decide +kernel)
  languageLabel := isPath (toLabel_joined rfl) (by decide +kernel)
  realisedLanguageLabel := isPath (toLabel_joined rfl) (by decide +kernel)
  handledLabel := isPath (toLabel_joined rfl) (by decide +kernel)
  productionStart := isPath (joined (joined rfl rfl) rfl) (by decide +kernel)
  productionStop := isPath (joined (joined rfl rfl) rfl) (by decide +kernel)
  spanOfStart := isPath (joined (joined rfl rfl) rfl) (by decide +kernel)
  spanOfStop := isPath (joined (joined rfl rfl) rfl) (by decide +kernel)

/-- A name of a facet that makes variables of single tokens. -/
def IsFacetName (id : String) : Prop :=
  id.toList.head? ≠ some ':'

instance (id : String) : Decidable (IsFacetName id) :=
  inferInstanceAs (Decidable (_ ≠ _))

section

variable {id path : String} {priority : UInt32}

theorem presentable_labelled (name : IsFacetName id) (predicate : IsPath path)
    (label : IsPath (toLabel path)) :
    (labelledFacet id path priority).Presentable portal.prologue where
  name := name
  paths named member := by
    have parts : named ∈ [NamedPath.mk "predicate" path, ⟨"label path", toLabel path⟩] := member
    simp only [List.mem_cons, List.not_mem_nil, or_false] at parts
    rcases parts with rfl | rfl
    · exact predicate
    · exact label
  hierarchy _ given := by cases given

theorem presentable_place (name : IsFacetName id) (predicate : IsPath path)
    (label : IsPath (toLabel path)) :
    (placeFacet id path priority).Presentable portal.prologue where
  name := name
  paths named member := by
    have parts : named ∈ [NamedPath.mk "predicate" path, ⟨"label path", toLabel path⟩,
      ⟨"parent property", "gvp:broaderPreferred"⟩, ⟨"latitude property", "wgs84:lat"⟩,
      ⟨"longitude property", "wgs84:long"⟩] := member
    simp only [List.mem_cons, List.not_mem_nil, or_false] at parts
    rcases parts with rfl | rfl | rfl | rfl | rfl
    · exact predicate
    · exact label
    · exact vocabulary.broader
    · exact vocabulary.latitude
    · exact vocabulary.longitude
  hierarchy parent given := by
    cases given
    exact vocabulary.broaders.toTraversable

theorem presentable_timespan (name : IsFacetName id) (predicate : IsPath path)
    (ascending : IsPath (path ++ "/" ++ spanStart))
    (descending : IsPath (path ++ "/" ++ spanStop)) :
    (timespanFacet id path priority).Presentable portal.prologue where
  name := name
  paths named member := by
    have parts : named ∈ [NamedPath.mk "predicate" path, ⟨"start property", spanStart⟩,
      ⟨"end property", spanStop⟩, ⟨"ascending sort predicate", path ++ "/" ++ spanStart⟩,
      ⟨"descending sort predicate", path ++ "/" ++ spanStop⟩] := member
    simp only [List.mem_cons, List.not_mem_nil, or_false] at parts
    rcases parts with rfl | rfl | rfl | rfl | rfl
    · exact predicate
    · exact vocabulary.spanStart
    · exact vocabulary.spanStop
    · exact ascending
    · exact descending
  hierarchy _ given := by cases given

theorem presentable_text (name : IsFacetName id) (label : IsPath path) :
    ((Facet.ofText id path).withPriority priority).Presentable portal.prologue where
  name := name
  paths named member := by
    obtain rfl : named = ⟨"label path", path⟩ := List.mem_singleton.mp member
    exact label
  hierarchy _ given := by cases given

end

end Manuscripts

end FacetedQuery
