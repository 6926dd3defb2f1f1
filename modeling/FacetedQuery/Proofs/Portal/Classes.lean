import FacetedQuery.Proofs.Portal.Vocabulary

/-!
# The classes of the manuscript portal

The properties of a class or an entity are optional groups, one for each property, and every class
is presentable.
-/

namespace FacetedQuery.Manuscripts

open Sparql (IriName)
open Sparql.Grammar (block_word follows_word)
open Sparql.Prologue (isNamed)
open Template (IsPart Named Part joined linkText optionalStart)

/-- A text that becomes a part of a group of the portal. -/
def IsProperty (text : String) : Prop :=
  IsPart portal.prologue text

/-- The text of a variable. -/
def Stands (text name : String) : Prop :=
  text.toList = '?' :: name.toList

instance (text name : String) : Decidable (Stands text name) :=
  inferInstanceAs (Decidable (_ = _))

variable {name subject target path subjectText targetText : String}

theorem part_label (named : Named subject) (namedTarget : Named target)
    (stands : Stands subjectText subject) (standsTarget : Stands targetText target) :
    Part portal.prologue [label subjectText targetText] [subject, target] := by
  have isSubject : subjectText.toList = '?' :: subject.toList := stands
  have isTarget : targetText.toList = '?' :: target.toList := standsTarget
  have isLine : (label subjectText targetText).toList =
      optionalStart ++ linkText subject "skos:prefLabel" target ['\x7d'] := by
    simp [label, optional, Text.braced, Text.openBrace, Text.closeBrace, optionalStart, linkText,
      isSubject, isTarget]
  exact .optionalLink named vocabulary.prefLabel namedTarget isLine

theorem isProperty_ownLabel : IsProperty ownLabel :=
  .line (part_label (by decide) (by decide) (by decide : Stands "?id" "id")
    (by decide : Stands "?prefLabel" "prefLabel"))

theorem isProperty_property {further : String → List String} {scope : List String}
    (named : Named name) (isPath : IsPath path)
    (part : Part portal.prologue (further ("?" ++ name ++ "__id")) scope) :
    IsProperty (property name path further) := by
  have isLine : ("?id " ++ path ++ " " ++ ("?" ++ name ++ "__id") ++ " .").toList =
      linkText "id" path (name ++ "__id") ['.'] := by
    simp [linkText]
  have value := Part.link (by decide) isPath (Named.suffixed named (by decide)) isLine
  exact ⟨_, _, rfl, (value.append part).optional⟩

theorem stands_suffixed (name ending : String) :
    Stands ("?" ++ name ++ ending) (name ++ ending) := by
  simp [Stands]

theorem isProperty_labelled (named : Named name) (isPath : IsPath path) :
    IsProperty (labelled name path) :=
  isProperty_property named isPath (part_label (Named.suffixed named (by decide))
    (Named.suffixed named (by decide)) (stands_suffixed name "__id")
    (stands_suffixed name "__prefLabel"))

theorem isProperty_spanned (named : Named name) (isPath : IsPath path) :
    IsProperty (spanned name path) := by
  have value : Named (name ++ "__id") := Named.suffixed named (by decide)
  have start : Named (name ++ "__start") := Named.suffixed named (by decide)
  have stop : Named (name ++ "__end") := Named.suffixed named (by decide)
  have startLine : (optional (("?" ++ name ++ "__id") ++ " " ++ spanStart ++ " ?" ++ name ++
      "__start")).toList =
        optionalStart ++ linkText (name ++ "__id") spanStart (name ++ "__start") ['\x7d'] := by
    simp [optional, Text.braced, Text.openBrace, Text.closeBrace, optionalStart, linkText]
  have stopLine : (optional (("?" ++ name ++ "__id") ++ " " ++ spanStop ++ " ?" ++ name ++
      "__end")).toList =
        optionalStart ++ linkText (name ++ "__id") spanStop (name ++ "__end") ['\x7d'] := by
    simp [optional, Text.braced, Text.openBrace, Text.closeBrace, optionalStart, linkText]
  have part := (Part.optionalLink value vocabulary.spanStart start startLine).append
    (.optionalLink value vocabulary.spanStop stop stopLine)
  exact isProperty_property named isPath part

theorem isProperty_fromSource : IsProperty fromSource :=
  isProperty_labelled (by decide) vocabulary.source

/-- RDF classes that are spelled as names. -/
def SpellNames (rdfClasses : List String) (names : List IriName) : Prop :=
  Template.Plain (Text.join " " rdfClasses) (names.map .name)

instance (rdfClasses : List String) (names : List IriName) :
    Decidable (SpellNames rdfClasses names) :=
  inferInstanceAs (Decidable (Template.Plain _ _))

/-- The line of coordinates and the RDF classes, with the tokens that they spell. -/
structure ClassWording : Prop where
  coordinates : Template.PlainLines [coordinates] [.word "OPTIONAL", .mark .openBrace, .var "id",
    .name (.prefixed "wgs84" "lat"), .var "lat", .mark .semicolon,
    .name (.prefixed "wgs84" "long"), .var "long", .mark .closeBrace]
  manuscripts : SpellNames ["frbroo:F4_Manifestation_Singleton"]
    [.prefixed "frbroo" "F4_Manifestation_Singleton"]
  works : SpellNames ["frbroo:F1_Work"] [.prefixed "frbroo" "F1_Work"]
  events : SpellNames ["crm:E10_Transfer_of_Custody", "crm:E12_Production",
      "mmm-schema:ManuscriptActivity"]
    [.prefixed "crm" "E10_Transfer_of_Custody", .prefixed "crm" "E12_Production",
      .prefixed "mmm-schema" "ManuscriptActivity"]
  actors : SpellNames ["crm:E21_Person", "crm:E74_Group", "crm:E39_Actor"]
    [.prefixed "crm" "E21_Person", .prefixed "crm" "E74_Group", .prefixed "crm" "E39_Actor"]
  places : SpellNames ["crm:E53_Place"] [.prefixed "crm" "E53_Place"]

theorem classWording : ClassWording := by
  constructor
  case coordinates =>
    exact .ofChars (.cons (joined rfl (joined (joined (joined (joined rfl rfl) rfl) rfl) rfl)) .nil)
      (by decide +kernel)
  case events | actors =>
    exact .ofChars (joined (joined rfl rfl) (joined (joined rfl rfl) rfl)) (by decide +kernel)
  all_goals exact .ofChars rfl (by decide +kernel)

theorem isProperty_coordinates : IsProperty coordinates :=
  .line (.plain classWording.coordinates (by simp)
    (.ofElement (fun rest => follows_word _ (by decide))
    (fun rest => block_word (by decide) _) fun _ _ => ⟨_, rfl, ⟨rfl, rfl, rfl⟩, rfl⟩)
    fun token member => opens.admits (List.all_eq_true.mp (by decide) token member))

theorem isProperty_patterns {texts : List String} (properties : ∀ text ∈ texts, IsProperty text)
    (nonempty : texts ≠ []) : IsProperty (patterns texts) :=
  .join properties nonempty

theorem isProperty_manuscripts : IsProperty manuscriptProperties := by
  refine isProperty_patterns ?_ (by simp)
  simp only [List.forall_mem_cons, List.not_mem_nil, false_imp_iff, implies_true, and_true]
  exact ⟨isProperty_ownLabel, isProperty_labelled (by decide) vocabulary.producedBy,
    isProperty_labelled (by decide) vocabulary.producedAt,
    isProperty_spanned (by decide) vocabulary.producedDuring, isProperty_fromSource⟩

theorem isProperty_manuscriptPage : IsProperty manuscriptPageProperties := by
  refine isProperty_patterns ?_ (by simp)
  simp only [List.forall_mem_cons, List.not_mem_nil, false_imp_iff, implies_true, and_true]
  exact ⟨isProperty_ownLabel, isProperty_labelled (by decide) vocabulary.carries,
    isProperty_labelled (by decide) vocabulary.ownedBy,
    isProperty_labelled (by decide) vocabulary.lastKnownAt,
    isProperty_labelled (by decide) vocabulary.partOf⟩

theorem isProperty_expressions : IsProperty expressionProperties := by
  refine isProperty_patterns ?_ (by simp)
  simp only [List.forall_mem_cons, List.not_mem_nil, false_imp_iff, implies_true, and_true]
  exact ⟨isProperty_ownLabel, isProperty_labelled (by decide) vocabulary.hasLanguage,
    isProperty_labelled (by decide) vocabulary.carriedBy⟩

theorem isProperty_collections : IsProperty collectionProperties := by
  refine isProperty_patterns ?_ (by simp)
  simp only [List.forall_mem_cons, List.not_mem_nil, false_imp_iff, implies_true, and_true]
  exact ⟨isProperty_ownLabel, isProperty_labelled (by decide) vocabulary.composedOf,
    isProperty_labelled (by decide) vocabulary.ownedBy⟩

theorem isProperty_works : IsProperty workProperties := by
  refine isProperty_patterns ?_ (by simp)
  simp only [List.forall_mem_cons, List.not_mem_nil, false_imp_iff, implies_true, and_true]
  exact ⟨isProperty_ownLabel, isProperty_labelled (by decide) vocabulary.initiatedBy,
    isProperty_labelled (by decide) vocabulary.realisedIn, isProperty_fromSource⟩

theorem isProperty_events : IsProperty eventProperties := by
  refine isProperty_patterns ?_ (by simp)
  simp only [List.forall_mem_cons, List.not_mem_nil, false_imp_iff, implies_true, and_true]
  exact ⟨isProperty_ownLabel, isProperty_labelled (by decide) vocabulary.type,
    isProperty_labelled (by decide) vocabulary.handled,
    isProperty_spanned (by decide) vocabulary.timeSpan,
    isProperty_labelled (by decide) vocabulary.tookPlaceAt, isProperty_fromSource⟩

theorem isProperty_actors : IsProperty actorProperties := by
  refine isProperty_patterns ?_ (by simp)
  simp only [List.forall_mem_cons, List.not_mem_nil, false_imp_iff, implies_true, and_true]
  exact ⟨isProperty_ownLabel, isProperty_labelled (by decide) vocabulary.type,
    isProperty_labelled (by decide) vocabulary.bornAt,
    isProperty_labelled (by decide) vocabulary.ownerOf, isProperty_fromSource⟩

theorem isProperty_places : IsProperty placeProperties := by
  refine isProperty_patterns ?_ (by simp)
  simp only [List.forall_mem_cons, List.not_mem_nil, false_imp_iff, implies_true, and_true]
  exact ⟨isProperty_ownLabel, isProperty_labelled (by decide) vocabulary.broader,
    isProperty_fromSource⟩

theorem isProperty_placePage : IsProperty placePageProperties := by
  refine isProperty_patterns ?_ (by simp)
  simp only [List.forall_mem_cons, List.not_mem_nil, false_imp_iff, implies_true, and_true]
  exact ⟨isProperty_ownLabel, isProperty_labelled (by decide) vocabulary.broader,
    isProperty_coordinates, isProperty_fromSource⟩

theorem isProperty_placeWindow : IsProperty placeWindowProperties := by
  refine isProperty_patterns ?_ (by simp)
  simp only [List.forall_mem_cons, List.not_mem_nil, false_imp_iff, implies_true, and_true]
  exact ⟨isProperty_ownLabel, isProperty_coordinates⟩

/-- A class whose RDF classes are names, whose properties are a part and whose own facets are
presentable. -/
theorem presentable_labelledClass {id properties : String} {rdfClasses : List String}
    {facets : List Facet} (names : List IriName)
    (plain : SpellNames rdfClasses names)
    (named : (names.map .name).all (isNamed spaces) = true) (isProperty : IsProperty properties)
    (inside : ∀ facet ∈ facets, facet.Presentable portal.prologue) :
    (labelledClass id rdfClasses properties facets).Presentable portal.prologue where
  facets facet member := by
    have isLabel : labelFacet.Presentable portal.prologue :=
      presentable_text (by decide) vocabulary.prefLabel
    have isSource : sourceFacet.Presentable portal.prologue :=
      presentable_labelled (by decide) vocabulary.source vocabulary.sourceLabel
    have parts : facet ∈ labelFacet :: facets ++ [sourceFacet] := member
    simp only [List.cons_append, List.mem_cons, List.mem_append, List.not_mem_nil,
      or_false] at parts
    rcases parts with rfl | member | rfl
    · exact isLabel
    · exact inside facet member
    · exact isSource
  classes := ⟨names, Template.Plain.spelled plain, fun name member => opens.admits
    (List.all_eq_true.mp named _ (List.mem_map_of_mem member))⟩
  properties := .inr isProperty

theorem presentable_manuscripts : manuscripts.Presentable portal.prologue := by
  refine presentable_labelledClass [.prefixed "frbroo" "F4_Manifestation_Singleton"]
    classWording.manuscripts (by decide) isProperty_manuscripts ?_
  simp only [List.forall_mem_cons, List.not_mem_nil, false_imp_iff, implies_true, and_true]
  exact ⟨presentable_labelled (by decide) vocabulary.producedBy vocabulary.producedByLabel,
    presentable_place (by decide) vocabulary.producedAt vocabulary.producedAtLabel,
    presentable_timespan (by decide) vocabulary.producedDuring vocabulary.productionStart
      vocabulary.productionStop,
    presentable_labelled (by decide) vocabulary.language vocabulary.languageLabel,
    presentable_labelled (by decide) vocabulary.ownedBy vocabulary.ownedByLabel,
    presentable_place (by decide) vocabulary.lastKnownAt vocabulary.lastKnownAtLabel⟩

theorem presentable_works : works.Presentable portal.prologue := by
  refine presentable_labelledClass [.prefixed "frbroo" "F1_Work"] classWording.works (by decide)
    isProperty_works ?_
  simp only [List.forall_mem_cons, List.not_mem_nil, false_imp_iff, implies_true, and_true]
  exact ⟨presentable_labelled (by decide) vocabulary.initiatedBy vocabulary.initiatedByLabel,
    presentable_labelled (by decide) vocabulary.realisedLanguage vocabulary.realisedLanguageLabel⟩

theorem presentable_events : events.Presentable portal.prologue := by
  refine presentable_labelledClass [.prefixed "crm" "E10_Transfer_of_Custody",
    .prefixed "crm" "E12_Production", .prefixed "mmm-schema" "ManuscriptActivity"]
    classWording.events (by decide) isProperty_events ?_
  simp only [List.forall_mem_cons, List.not_mem_nil, false_imp_iff, implies_true, and_true]
  exact ⟨presentable_place (by decide) vocabulary.tookPlaceAt vocabulary.tookPlaceAtLabel,
    presentable_text (by decide) vocabulary.handledLabel,
    presentable_timespan (by decide) vocabulary.timeSpan vocabulary.spanOfStart
    vocabulary.spanOfStop, presentable_labelled (by decide) vocabulary.type vocabulary.typeLabel⟩

theorem presentable_actors : actors.Presentable portal.prologue := by
  refine presentable_labelledClass [.prefixed "crm" "E21_Person", .prefixed "crm" "E74_Group",
    .prefixed "crm" "E39_Actor"] classWording.actors (by decide) isProperty_actors ?_
  simp only [List.forall_mem_cons, List.not_mem_nil, false_imp_iff, implies_true, and_true]
  exact ⟨presentable_labelled (by decide) vocabulary.type vocabulary.typeLabel,
    presentable_place (by decide) vocabulary.bornAt vocabulary.bornAtLabel⟩

/-- The facet of areas, whose values form a hierarchy. -/
theorem presentable_area : ((labelledFacet "area" "gvp:broaderPreferred" 2).withParent
    "gvp:broaderPreferred").Presentable portal.prologue where
  name := by decide
  paths named member := by
    have parts : named ∈ [NamedPath.mk "predicate" "gvp:broaderPreferred",
      ⟨"label path", toLabel "gvp:broaderPreferred"⟩,
      ⟨"parent property", "gvp:broaderPreferred"⟩] := member
    simp only [List.mem_cons, List.not_mem_nil, or_false] at parts
    rcases parts with rfl | rfl | rfl
    · exact vocabulary.broader
    · exact vocabulary.broaderLabel
    · exact vocabulary.broader
  hierarchy parent given := by
    cases given
    exact vocabulary.broaders.toTraversable

theorem presentable_places : places.Presentable portal.prologue := by
  refine presentable_labelledClass [.prefixed "crm" "E53_Place"] classWording.places (by decide)
    isProperty_places ?_
  simp only [List.forall_mem_cons, List.not_mem_nil, false_imp_iff, implies_true, and_true]
  exact presentable_area

theorem presentable_classes :
    ∀ spec ∈ portal.resultClasses, spec.Presentable portal.prologue := by
  have members : ∀ spec ∈ [manuscripts, works, events, actors, places],
      spec.Presentable portal.prologue := by
    simp only [List.forall_mem_cons, List.not_mem_nil, false_imp_iff, implies_true, and_true]
    exact ⟨presentable_manuscripts, presentable_works, presentable_events, presentable_actors,
      presentable_places⟩
  exact members

end FacetedQuery.Manuscripts
