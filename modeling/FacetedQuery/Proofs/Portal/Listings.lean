import FacetedQuery.Proofs.Assembly.Outcomes
import FacetedQuery.Proofs.Assembly.Periods
import FacetedQuery.Proofs.Portal.Classes

/-!
# The listings of the manuscript portal

Every query of a listing is arranged around the place of its block of constraints.  What a query
assigns to has a name that no facet makes, so that a block in front of it does not matter.
-/

namespace FacetedQuery

namespace Sparql.Grammar

open Reader

variable {tokens : List Token}

theorem Forms.ofTriple {triple : Triples} {scope : List String} (same : triple.scope = scope)
    (follows : ∀ rest, Follows (tokens ++ rest))
    (read : ∀ rest, triples pathVerb (tokens ++ rest) = some (triple, .mark .dot :: rest)) :
    Forms tokens scope [] where
  follows _ := follows _
  contents _ contents :=
    ⟨[.triples [triple]], ⟨rfl, by simp [scopeOfElements, Element.scope, same], rfl⟩,
      contents.triple (read _)⟩

end Sparql.Grammar

namespace ConstraintBlock

theorem not_isOwn {name : String}
    (apart : Filter.suffixes.all (fun suffix => !suffix.toList.isSuffixOf name.toList) = true) :
    ¬IsOwn name := by
  rintro ⟨id, suffix, member, rfl⟩
  have noSuffix := List.all_eq_true.mp apart suffix member
  simp only [Bool.not_eq_true', String.toList_append] at noSuffix
  rw [List.isSuffixOf_iff_suffix.mpr (List.suffix_append _ _)] at noSuffix
  cases noSuffix

end ConstraintBlock

namespace Manuscripts

open ConstraintBlock (IsOwn not_isOwn)
open Outcome (mapM_cons_eq_ok mapM_nil_eq_ok)
open Rdf (Literal)
open Sparql (Token)
open Sparql.Grammar
open Sparql.Prologue (isNamed)
open Template (AroundBlock Margin Part Passage PlainLines joined)

/-- The lines of a query. -/
theorem query_eq {head : List String} (content tail : List String) (nonempty : head ≠ []) :
    query (patterns head) content tail =
      Text.join "\n" (head ++ (Text.groupLines "WHERE" content ++ tail)) := by
  have groups : ∀ group ∈ head :: Text.groupLines "WHERE" content :: tail.map ([·]), group ≠
    [] := by
    simp only [List.mem_cons, List.mem_map]
    rintro group (rfl | rfl | ⟨line, -, rfl⟩)
    · exact nonempty
    · simp [Text.groupLines]
    · simp
  have lines : (tail.map ([·])).map (Text.join "\n") = tail := by
    simp [Function.comp_def, Text.join]
  have flat : (tail.map ([·])).flatten = tail := by
    simp [← List.flatMap_def]
  have joined := Text.join_flatten "\n" groups
  rw [List.map_cons, List.map_cons, lines, List.flatten_cons, List.flatten_cons, flat] at joined
  exact joined

/-- Lines behind the group of a query. -/
theorem page_tail {fills : List (Placeholder × List Char)} {lines : List String}
    {tokens : List Token} (plain : PlainLines lines tokens) :
    Template.Page fills (Text.closeBrace :: lines) (.mark .closeBrace :: tokens) := by
  obtain ⟨plain, rfl⟩ := plain
  have closed : Template.Draws fills Text.closeBrace [.mark .closeBrace] := .closeBrace
  -- Each line is drawn in front of the ones behind it; the last one ends the page.
  suffices page : ∀ {line : String} {tokens : List Token},
      Template.Draws fills line tokens → Template.Ends fills line tokens →
      Template.Page fills (line :: lines) (tokens ++ lines.flatMap Template.lineTokens) from
    page closed Template.ends_closeBrace
  induction lines with
  | nil =>
      intro line tokens _ ends
      simpa using Template.Page.last ends
  | cons next lines induction =>
      intro line tokens draws _
      have isNext := plain next (by simp)
      exact .cons draws (induction (fun other member => plain other (by simp [member]))
        (.plain isNext) (.plain isNext))

section

variable {target : String} {given : List (Placeholder × List Char)} {content tail : List String}
  {headTokens tailTokens : List Token} {columns : Option (List Sparql.Column)}
  {modified : Sparql.Modifiers}

/-- A text whose first line is not empty does not start with an empty line. -/
theorem head_join_ne_feed {line : String} {tokens : List Token} (plain : Template.Plain line tokens)
    (lines : List String) : (Text.join "\n" (line :: lines)).toList.head? ≠ some '\n' := by
  have starts : ∃ rest, (Text.join "\n" (line :: lines)).toList = line.toList ++ rest := by
    cases lines with
    | nil => exact ⟨[], by simp [Text.join]⟩
    | cons next lines => exact ⟨_, Template.Sheet.toList_join_cons line next lines⟩
  obtain ⟨rest, starts⟩ := starts
  obtain ⟨first, others, isLine⟩ := List.exists_cons_of_ne_nil (Template.PlainText.nonempty plain)
  have onLine := Template.PlainText.onLine plain
  rw [isLine, List.mem_cons, not_or] at onLine
  rw [starts, isLine]
  simpa using Ne.symm onLine.1

/-- A query whose contents are a passage around every block. -/
theorem aroundBlock (head : List String) (heading : PlainLines head headTokens)
    (nonempty : head ≠ []) (ending : PlainLines tail tailTokens)
    (named : (headTokens ++ tailTokens).all (isNamed spaces) = true)
    (encloses : Encloses headTokens tailTokens columns modified [])
    (inside : ∀ {block : List Char} {scope : List String},
      Passage portal.prologue (given ++ [(.filter, block)]) [Placeholder.filter.token] scope [] →
      (∀ name ∈ scope, name = target ∨ IsOwn name) →
      ∃ more assigned, Passage portal.prologue
        (given ++ [(.filter, block)]) content more assigned) :
    AroundBlock portal.prologue target given (query (patterns head) content tail) := by
  rw [query_eq content tail nonempty]
  have starts : (Text.join "\n" (head ++ (Text.groupLines "WHERE" content ++ tail))).toList.head? ≠
      .some '\n' := by
    obtain ⟨first, others, rfl⟩ := List.exists_cons_of_ne_nil nonempty
    exact head_join_ne_feed (heading.plain first (by simp)) _
  refine ⟨starts, fun {block scope} place names => ?_⟩
  obtain ⟨more, assigned, passage⟩ := inside place names
  have admitted : ∀ token ∈ headTokens ++ tailTokens, portal.prologue.admits token = true :=
    fun token member => opens.admits (List.all_eq_true.mp named token member)
  have margin : Margin portal.prologue (given ++ [(.filter, block)]) head headTokens :=
    .plain heading fun token member => admitted token (List.mem_append_left _ member)
  exact .intro margin passage (page_tail ending)
    (fun token member => admitted token (List.mem_append_right _ member)) encloses

end

/-- A name that the portal declares. -/
def term (space name : String) : Token :=
  .name (.prefixed space name)

/-- The tokens of a triple that tells where something lies. -/
def locatedTokens (subject latitude longitude : String) : List Token :=
  [.var subject, term "wgs84" "lat", .var latitude, .mark .semicolon, term "wgs84" "long",
    .var longitude, .mark .dot]

/-- The columns of places and of a number of entities at each. -/
def countedTokens (counted : String) : List Token :=
  [.word "SELECT", .var "id", .var "prefLabel", .var "lat", .var "long", .mark .openParen,
    .word "COUNT", .mark .openParen, .word "DISTINCT", .var counted, .mark .closeParen, .word "AS",
    .var "instanceCount", .mark .closeParen]

/-- The line with these columns. -/
def countedLine (counted : String) : String :=
  "SELECT ?id ?prefLabel ?lat ?long (COUNT(DISTINCT " ++ counted ++ ") AS ?instanceCount)"

/-- The tokens of the owner of a manuscript. -/
def ownedTokens (name : String) : List Token :=
  [.var name, .word "a", term "frbroo" "F4_Manifestation_Singleton", .mark .semicolon,
    term "crm" "P51_has_former_or_current_owner", .var "owner", .mark .dot]

def migrationColumns : List String :=
  ["SELECT DISTINCT ?id ?manuscript__id ?manuscript__prefLabel",
    "  ?from__id ?from__prefLabel ?from__lat ?from__long",
    "  ?to__id ?to__prefLabel ?to__lat ?to__long"]

/-- The lines of the queries and the tokens that they spell. -/
structure Wording : Prop where
  allPlaces : PlainLines ["SELECT ?id ?prefLabel ?lat ?long"]
    [.word "SELECT", .var "id", .var "prefLabel", .var "lat", .var "long"]
  located : PlainLines ["?id a crm:E53_Place ;", "    wgs84:lat ?lat ;", "    wgs84:long ?long ."]
    [.var "id", .word "a", term "crm" "E53_Place", .mark .semicolon, term "wgs84" "lat", .var "lat",
      .mark .semicolon, term "wgs84" "long", .var "long", .mark .dot]
  ownPlace : PlainLines ["?id wgs84:lat ?lat ;", "    wgs84:long ?long ."]
    (locatedTokens "id" "lat" "long")
  coordinates : PlainLines ["SELECT ?lat ?long"] [.word "SELECT", .var "lat", .var "long"]
  place : PlainLines ["?place wgs84:lat ?lat ;", "       wgs84:long ?long ."]
    (locatedTokens "place" "lat" "long")
  countedManuscripts : PlainLines [countedLine "?manuscripts"] (countedTokens "manuscripts")
  countedActors : PlainLines [countedLine "?actor__id"] (countedTokens "actor__id")
  countedEvents : PlainLines [countedLine "?event"] (countedTokens "event")
  byPlace : PlainLines ["GROUP BY ?id ?prefLabel ?lat ?long"]
    [.word "GROUP", .word "BY", .var "id", .var "prefLabel", .var "lat", .var "long"]
  migrations : PlainLines migrationColumns
    [.word "SELECT", .word "DISTINCT", .var "id", .var "manuscript__id",
      .var "manuscript__prefLabel", .var "from__id", .var "from__prefLabel", .var "from__lat",
      .var "from__long", .var "to__id", .var "to__prefLabel", .var "to__lat", .var "to__long"]
  moved : PlainLines
    ["?manuscript__id " ++ producedAt ++ " ?from__id ;",
      "                " ++ lastKnownAt ++ " ?to__id ."]
    [.var "manuscript__id", .mark .caret, term "crm" "P108_has_produced", .mark .slash,
      term "crm" "P7_took_place_at", .var "from__id", .mark .semicolon,
      term "mmm-schema" "last_known_location", .var "to__id", .mark .dot]
  elsewhere : PlainLines ["FILTER(?from__id != ?to__id)"] (.word "FILTER" :: .mark .openParen ::
    ([.var "from__id", .mark .bangEqual, .var "to__id"] ++ [.mark .closeParen]))
  start : PlainLines ["?from__id wgs84:lat ?from__lat ;", "          wgs84:long ?from__long ."]
    (locatedTokens "from__id" "from__lat" "from__long")
  stop : PlainLines ["?to__id wgs84:lat ?to__lat ;", "        wgs84:long ?to__long ."]
    (locatedTokens "to__id" "to__lat" "to__long")
  migration : PlainLines ["BIND(CONCAT(STR(?from__id), \" - \", STR(?to__id)) AS ?id)"]
    (.word "BIND" :: .mark .openParen :: ([.word "CONCAT", .mark .openParen, .word "STR",
      .mark .openParen, .var "from__id", .mark .closeParen, .mark .comma, .string " - ",
      .mark .comma, .word "STR", .mark .openParen, .var "to__id", .mark .closeParen,
      .mark .closeParen] ++ [.word "AS", .var "id", .mark .closeParen]))
  events : PlainLines ["SELECT ?id ?type__id (COUNT(DISTINCT ?event) AS ?type__instanceCount)"]
    [.word "SELECT", .var "id", .var "type__id", .mark .openParen, .word "COUNT",
      .mark .openParen, .word "DISTINCT", .var "event", .mark .closeParen, .word "AS",
      .var "type__instanceCount", .mark .closeParen]
  periods : Template.Plain "VALUES (?period ?periodStart ?periodEnd) \x7b"
    [.word "VALUES", .mark .openParen, .var "period", .var "periodStart", .var "periodEnd",
      .mark .closeParen, .mark .openBrace]
  started : PlainLines
    ["?event crm:P4_has_time-span/" ++ spanStart ++ " ?start ;", "       rdf:type ?type__id ."]
    [.var "event", term "crm" "P4_has_time-span", .mark .slash,
      term "crm" "P82a_begin_of_the_begin",
      .var "start", .mark .semicolon, term "rdf" "type", .var "type__id", .mark .dot]
  within : PlainLines ["FILTER(?start >= ?periodStart && ?start <= ?periodEnd)"]
    (.word "FILTER" :: .mark .openParen :: ([.var "start", .mark .greaterEqual, .var "periodStart",
      .mark .doubleAnd, .var "start", .mark .lessEqual, .var "periodEnd"] ++ [.mark .closeParen]))
  period : PlainLines ["BIND(?period AS ?id)"] (.word "BIND" :: .mark .openParen ::
    ([.var "period"] ++ [.word "AS", .var "id", .mark .closeParen]))
  byType : PlainLines ["GROUP BY ?id ?type__id", "ORDER BY ?id"]
    [.word "GROUP", .word "BY", .var "id", .var "type__id", .word "ORDER", .word "BY", .var "id"]
  links : PlainLines ["SELECT ?source ?target (COUNT(DISTINCT ?owner) AS ?weight)"]
    [.word "SELECT", .var "source", .var "target", .mark .openParen, .word "COUNT",
      .mark .openParen, .word "DISTINCT", .var "owner", .mark .closeParen, .word "AS",
      .var "weight", .mark .closeParen]
  source : PlainLines
    ["?source a frbroo:F4_Manifestation_Singleton ;", "        " ++ ownedBy ++ " ?owner ."]
    (ownedTokens "source")
  target : PlainLines
    ["?target a frbroo:F4_Manifestation_Singleton ;", "        " ++ ownedBy ++ " ?owner ."]
    (ownedTokens "target")
  ordered : PlainLines ["FILTER(STR(?source) < STR(?target))"]
    (.word "FILTER" :: .mark .openParen :: ([.word "STR", .mark .openParen, .var "source",
      .mark .closeParen, .mark .less, .word "STR", .mark .openParen, .var "target",
      .mark .closeParen] ++ [.mark .closeParen]))
  byLink : PlainLines ["GROUP BY ?source ?target"]
    [.word "GROUP", .word "BY", .var "source", .var "target"]

theorem wording : Wording := by
  constructor
  case periods => exact .ofChars rfl (by decide +kernel)
  case located | migrations =>
    exact .ofChars (.cons rfl (.cons rfl (.cons rfl .nil))) (by decide +kernel)
  case ownPlace | place | start | stop | byType =>
    exact .ofChars (.cons rfl (.cons rfl .nil)) (by decide +kernel)
  case moved =>
    exact .ofChars (.cons (joined (joined rfl rfl) rfl) (.cons (joined (joined rfl rfl) rfl) .nil))
      (by decide +kernel)
  case started =>
    exact .ofChars (.cons (joined (joined rfl rfl) rfl) (.cons rfl .nil)) (by decide +kernel)
  case source | target =>
    exact .ofChars (.cons rfl (.cons (joined (joined rfl rfl) rfl) .nil)) (by decide +kernel)
  case countedManuscripts | countedActors | countedEvents =>
    exact .ofChars (.cons (joined (joined rfl rfl) rfl) .nil) (by decide +kernel)
  all_goals exact .ofChars (.cons rfl .nil) (by decide +kernel)

section

variable {lines : List String} {scope : List String}

theorem part_triple {triple : Sparql.Triples} (tokens : List Token)
    (plain : PlainLines lines tokens) (nonempty : lines ≠ [])
    (follows : ∀ rest, Follows (tokens ++ rest))
    (read : ∀ rest, triples pathVerb (tokens ++ rest) = some (triple, .mark .dot :: rest))
    (same : triple.scope = scope) (named : tokens.all (isNamed spaces) = true) :
    Part portal.prologue lines scope :=
  .plain plain nonempty (.ofTriple same follows read) fun token member =>
    opens.admits (List.all_eq_true.mp named token member)

theorem part_located {subject latitude longitude : String}
    (plain : PlainLines lines (locatedTokens subject latitude longitude)) (nonempty : lines ≠ []) :
    Part portal.prologue lines [subject, latitude, longitude] :=
  part_triple _ plain nonempty (fun _ => follows_var _ _) (fun _ => rfl) rfl rfl

/-- A line with a condition in parentheses. -/
theorem part_filter {line : String} {condition : Sparql.Expression} (tokens : List Token)
    (plain : PlainLines [line]
      (.word "FILTER" :: .mark .openParen :: (tokens ++ [.mark .closeParen])))
    (finds : ∀ rest, Finds Readers.expression (tokens ++ .mark .closeParen :: rest) condition
      (.mark .closeParen :: rest))
    (simple : condition.isAggregated = false) (named : tokens.all (isNamed spaces) = true) :
    Part portal.prologue [line] [] := by
  refine .plain plain (by simp) (.filter simple finds) ?_
  simp only [List.mem_cons, List.mem_append, List.not_mem_nil, or_false]
  rintro token (rfl | rfl | member | rfl)
  · rfl
  · rfl
  · exact opens.admits (List.all_eq_true.mp named token member)
  · rfl

end

theorem part_ownLabel : Part portal.prologue [ownLabel] ["id", "prefLabel"] :=
  part_label (by decide) (by decide) (by decide) (by decide)

theorem part_ownPlace :
    Part portal.prologue ["?id wgs84:lat ?lat ;", "    wgs84:long ?long ."] ["id", "lat", "long"] :=
  part_located wording.ownPlace (by simp)

theorem around_allPlaces : AroundBlock portal.prologue "id" [] allPlaces := by
  have places : Part portal.prologue
      ["?id a crm:E53_Place ;", "    wgs84:lat ?lat ;", "    wgs84:long ?long ."]
      ["id", "lat", "long"] :=
    part_triple _ wording.located (by simp) (fun _ => follows_var _ _) (fun _ => rfl) rfl
      (by decide)
  refine aroundBlock ["SELECT ?id ?prefLabel ?lat ?long"] wording.allPlaces (by simp)
    (by decide : PlainLines [] []) (by decide)
    ⟨fun _ _ => rfl, fun _ => rfl, fun _ => rfl⟩ fun place _ => ?_
  exact ⟨_, _, place.appendPlain ((places.append part_ownLabel).passage _)⟩

theorem around_productionCoordinates :
    AroundBlock portal.prologue "manuscripts" [] productionCoordinates := by
  have produced : Part portal.prologue ["?manuscripts " ++ producedAt ++ " ?place ."]
      ["manuscripts", "place"] :=
    .link (by decide) vocabulary.producedAt (by decide) (by simp [Template.linkText])
  have located : Part portal.prologue ["?place wgs84:lat ?lat ;", "       wgs84:long ?long ."]
      ["place", "lat", "long"] := part_located wording.place (by simp)
  refine aroundBlock ["SELECT ?lat ?long"] wording.coordinates (by simp)
    (by decide : PlainLines [] [])
    (by decide) ⟨fun _ _ => rfl, fun _ => rfl, fun _ => rfl⟩ fun place _ => ?_
  exact ⟨_, _, place.appendPlain ((produced.append located).passage _)⟩

theorem around_countedPlaces {target counted path pattern : String} (name : String)
    (named : Template.Named name) (isPath : IsPath path)
    (isLine : pattern.toList = Template.linkText name path "id" ['.'])
    (heading : PlainLines [countedLine counted] (countedTokens name)) :
    AroundBlock portal.prologue target [] (countedPlaces counted pattern) := by
  have found : Part portal.prologue [pattern] [name, "id"] := .link named isPath (by decide) isLine
  refine aroundBlock [countedLine counted] heading (by simp) wording.byPlace rfl
    ⟨fun _ _ => rfl, fun _ => rfl, fun _ => rfl⟩ fun place _ => ?_
  exact ⟨_, _, place.appendPlain ((found.append (part_ownPlace.append part_ownLabel)).passage _)⟩

theorem around_productionPlaces : AroundBlock portal.prologue "manuscripts" [] productionPlaces :=
  around_countedPlaces "manuscripts" (by decide) vocabulary.producedAt (by simp [Template.linkText])
    wording.countedManuscripts

theorem around_lastKnownLocations :
    AroundBlock portal.prologue "manuscripts" [] lastKnownLocations :=
  around_countedPlaces "manuscripts" (by decide) vocabulary.lastKnownAt
    (by simp [Template.linkText]) wording.countedManuscripts

theorem around_placesOfActors : AroundBlock portal.prologue "actor__id" [] placesOfActors :=
  around_countedPlaces "actor__id" (by decide) vocabulary.bornAt (by simp [Template.linkText])
    wording.countedActors

theorem around_placesOfEvents : AroundBlock portal.prologue "event" [] placesOfEvents :=
  around_countedPlaces "event" (by decide) vocabulary.tookPlaceAt (by simp [Template.linkText])
    wording.countedEvents

/-- A line with an assignment. -/
theorem passage_bind {fills : List (Placeholder × List Char)} {line : String}
    {value : Sparql.Expression} (tokens : List Token) (target : String)
    (plain : PlainLines [line]
      (.word "BIND" :: .mark .openParen :: (tokens ++ [.word "AS", .var target,
      .mark .closeParen])))
    (finds : ∀ rest, Finds Readers.expression (tokens ++ .word "AS" :: rest) value
      (.word "AS" :: rest))
    (simple : value.isAggregated = false) (named : tokens.all (isNamed spaces) = true) :
    Passage portal.prologue fills [line] [target] [target] := by
  refine .plain plain (.bind target simple finds) ?_
  simp only [List.mem_cons, List.mem_append, List.not_mem_nil, or_false]
  rintro token (rfl | rfl | member | rfl | rfl | rfl)
  · rfl
  · rfl
  · exact opens.admits (List.all_eq_true.mp named token member)
  · rfl
  · rfl
  · rfl

theorem id_not_mem {target : String} {scope : List String} (apart : target ≠ "id")
    (names : ∀ name ∈ scope, name = target ∨ IsOwn name) : "id" ∉ scope := fun member => by
  rcases names "id" member with same | isOwn
  · exact apart same.symm
  · exact not_isOwn (by decide) isOwn

/-- The patterns of a migration in front of the name that is made up for it. -/
theorem part_migration :
    ∃ scope, "id" ∉ scope ∧ Part portal.prologue
      ["?manuscript__id " ++ producedAt ++ " ?from__id ;",
        "                " ++ lastKnownAt ++ " ?to__id .",
        "FILTER(?from__id != ?to__id)",
        label "?manuscript__id" "?manuscript__prefLabel",
        "?from__id wgs84:lat ?from__lat ;",
        "          wgs84:long ?from__long .",
        label "?from__id" "?from__prefLabel",
        "?to__id wgs84:lat ?to__lat ;",
        "        wgs84:long ?to__long .",
        label "?to__id" "?to__prefLabel"] scope := by
  have moved : Part portal.prologue
      ["?manuscript__id " ++ producedAt ++ " ?from__id ;",
        "                " ++ lastKnownAt ++ " ?to__id ."]
      ["manuscript__id", "from__id", "to__id"] :=
    part_triple _ wording.moved (by simp) (fun _ => follows_var _ _) (fun _ => rfl) rfl (by decide)
  have elsewhere : Part portal.prologue ["FILTER(?from__id != ?to__id)"] [] :=
    part_filter _ wording.elsewhere (fun _ => rfl) rfl (by decide)
  have entity : Part portal.prologue [label "?manuscript__id" "?manuscript__prefLabel"]
      ["manuscript__id", "manuscript__prefLabel"] :=
    part_label (by decide) (by decide) (by decide) (by decide)
  have start : Part portal.prologue
      ["?from__id wgs84:lat ?from__lat ;", "          wgs84:long ?from__long ."]
      ["from__id", "from__lat", "from__long"] := part_located wording.start (by simp)
  have startLabel : Part portal.prologue [label "?from__id" "?from__prefLabel"]
      ["from__id", "from__prefLabel"] :=
    part_label (by decide) (by decide) (by decide) (by decide)
  have stop : Part portal.prologue
      ["?to__id wgs84:lat ?to__lat ;", "        wgs84:long ?to__long ."]
      ["to__id", "to__lat", "to__long"] := part_located wording.stop (by simp)
  have stopLabel : Part portal.prologue [label "?to__id" "?to__prefLabel"]
      ["to__id", "to__prefLabel"] :=
    part_label (by decide) (by decide) (by decide) (by decide)
  refine ⟨_, ?_, moved.append (elsewhere.append (entity.append (start.append (startLabel.append
    (stop.append stopLabel)))))⟩
  decide

theorem around_migrations : AroundBlock portal.prologue "manuscript__id" [] migrations := by
  obtain ⟨scope, free, part⟩ := part_migration
  refine aroundBlock migrationColumns wording.migrations (by simp [migrationColumns])
    (by decide : PlainLines [] []) (by decide) ⟨fun _ _ => rfl, fun _ => rfl, fun _ => rfl⟩
    fun place names => ?_
  refine ⟨_, _, (place.appendPlain (part.passage _)).append
    (passage_bind _ "id" wording.migration (fun _ => rfl) rfl (by decide)) ?_⟩
  simpa using ⟨id_not_mem (by decide) names, free⟩

/-- The row of inline data for a period between two dates. -/
def rowLine (period start stop : String) : String :=
  "  (" ++ Text.join " " [(Literal.plain period).render, (Literal.typed start Rdf.xsdDate).render,
    (Literal.typed stop Rdf.xsdDate).render] ++ ")"

def rowTokens (period start stop : String) : List Token :=
  [.mark .openParen, .string period, .string start, .mark .doubleCaret,
    .name (.iri Rdf.xsdDate.text), .string stop, .mark .doubleCaret,
    .name (.iri Rdf.xsdDate.text), .mark .closeParen]

/-- A period and dates without brackets. -/
structure IsRow (period start stop : String) : Prop where
  period : '<' ∉ period.toList
  start : '<' ∉ start.toList
  stop : '<' ∉ stop.toList

instance (period start stop : String) : Decidable (IsRow period start stop) :=
  decidable_of_iff ('<' ∉ period.toList ∧ '<' ∉ start.toList ∧ '<' ∉ stop.toList)
    ⟨fun ⟨period, start, stop⟩ => ⟨period, start, stop⟩,
      fun row => ⟨row.period, row.start, row.stop⟩⟩

theorem typed_date (value : String) :
    Literal.typed value Rdf.xsdDate = ⟨value, .typed Rdf.xsdDate⟩ :=
  if_neg (by decide)

theorem toList_rowLine (period start stop : String) : (rowLine period start stop).toList =
    ' ' :: ' ' :: '(' :: ((Literal.plain period).render.toList ++ ' ' ::
      ((Literal.typed start Rdf.xsdDate).render.toList ++
        ' ' :: ((Literal.typed stop Rdf.xsdDate).render.toList ++ [')']))) := by
  simp [rowLine, Text.join]

theorem spelled_row {period start stop : String} (row : IsRow period start stop) :
    Sparql.Token.Spelled (rowLine period start stop).toList (rowTokens period start stop) := by
  have name : Clause.Quotable (.plain period) :=
    ⟨(fun _ tagged => by cases tagged), .inl row.period⟩
  have date : ∀ {value : String}, '<' ∉ value.toList → Clause.Quotable (.typed value Rdf.xsdDate) :=
    fun {value} plain => by
      rw [typed_date]
      exact ⟨(fun _ tagged => by cases tagged), .inl plain⟩
  have dates := ((Clause.spelled_literal (date row.start)).append
    ((Clause.spelled_literal (date row.stop)).append .closeParen .close).space (.space _))
  have line := ((Clause.spelled_literal name).append dates.space (.space _)).openParen.space.space
  have tokens : rowTokens period start stop = .mark .openParen ::
      ((Clause.literalPieces (.plain period)).map Clause.Piece.token ++
        ((Clause.literalPieces (.typed start Rdf.xsdDate)).map Clause.Piece.token ++
          ((Clause.literalPieces (.typed stop Rdf.xsdDate)).map Clause.Piece.token ++
            [.mark .closeParen]))) := by
    rw [typed_date, typed_date]
    rfl
  rw [toList_rowLine, tokens]
  exact line

theorem draws_row {fills : List (Placeholder × List Char)} {period start stop : String}
    (row : IsRow period start stop) :
    Template.Draws fills (rowLine period start stop) (rowTokens period start stop) := by
  have line := spelled_row row
  refine .ofSpelled (fun _ spaces _ => Template.fillAll_of_free
    (Template.free_append_of_not_mem spaces.not_mem line.free) _) line ?_ ?_ rfl
  · rw [toList_rowLine]
    simp only [← List.cons_append, ← List.append_assoc]
    exact Text.Closed.behind (by decide) (by simp) _
  · rw [toList_rowLine]
    simp

theorem admitted_row (period start stop : String) :
    ∀ token ∈ rowTokens period start stop, portal.prologue.admits token = true := by
  simp only [rowTokens, List.mem_cons, List.not_mem_nil, or_false]
  rintro token (rfl | rfl | rfl | rfl | rfl | rfl | rfl | rfl | rfl)
  case inr.inr.inr.inr.inl => exact Sparql.Prologue.admits_iri portal.prologue_base Rdf.xsdDate
  case inr.inr.inr.inr.inr.inr.inr.inl =>
    exact Sparql.Prologue.admits_iri portal.prologue_base Rdf.xsdDate
  all_goals rfl

/-- The inline data of the periods of twenty years. -/
def periodLines : List String :=
  ["VALUES (?period ?periodStart ?periodEnd) \x7b",
    rowLine "1600-1609" "1600-01-01" "1609-12-31", rowLine "1610-1619" "1610-01-01" "1619-12-31",
    rowLine "1620-1629" "1620-01-01" "1629-12-31", "\x7d"]

theorem values_periods :
    Period.values "eventsByTimePeriod" 1600 1620 10 = .ok (Text.join "\n" periodLines) := by
  have tiles : Period.tile (1600 : Int32).toInt (1620 : Int32).toInt (10 : UInt32).toNat =
      [⟨1600, 1609⟩, ⟨1610, 1619⟩, ⟨1620, 1629⟩] := by decide
  have row := @Period.row_of_edges "eventsByTimePeriod"
  have first := @row "1600-1609" "1600-01-01" "1609-12-31" ⟨1600, 1609⟩
    (by decide +kernel) (by decide +kernel) (by decide +kernel)
  have second := @row "1610-1619" "1610-01-01" "1619-12-31" ⟨1610, 1619⟩
    (by decide +kernel) (by decide +kernel) (by decide +kernel)
  have third := @row "1620-1629" "1620-01-01" "1629-12-31" ⟨1620, 1629⟩
    (by decide +kernel) (by decide +kernel) (by decide +kernel)
  have made := mapM_cons_eq_ok.mpr ⟨_, _, first, mapM_cons_eq_ok.mpr ⟨_, _, second,
    mapM_cons_eq_ok.mpr ⟨_, _, third, mapM_nil_eq_ok.mpr rfl, rfl⟩, rfl⟩, rfl⟩
  rw [← tiles] at made
  rw [Period.values_of_rows (by decide) made]
  have opening : "VALUES (?period ?periodStart ?periodEnd) \x7b" =
      "VALUES (?period ?periodStart ?periodEnd) " ++ Text.openBrace := by decide
  have indented : "  (" = "  " ++ "(" := by decide
  have feed : "\n  " = "\n" ++ "  " := by decide
  simp only [periodLines, rowLine, Text.join, opening, indented, feed, Text.closeBrace,
    String.append_assoc]

theorem part_periods :
    Part portal.prologue periodLines ["period", "periodStart", "periodEnd"] := by
  have first : IsRow "1600-1609" "1600-01-01" "1609-12-31" := by decide
  have second : IsRow "1610-1619" "1610-01-01" "1619-12-31" := by decide
  have third : IsRow "1620-1629" "1620-01-01" "1629-12-31" := by decide
  have onLines : ∀ line ∈ periodLines, '\n' ∉ line.toList := by
    simp only [periodLines, List.forall_mem_cons]
    exact ⟨wording.periods.onLine, (spelled_row first).line, (spelled_row second).line,
      (spelled_row third).line, by decide, nofun⟩
  refine ⟨by simp [periodLines], onLines, fun fills => ⟨_, .cons (.plain wording.periods)
    (.cons (draws_row first) (.cons (draws_row second) (.cons (draws_row third)
      (.cons .closeBrace .nil)))), .ofElement (fun _ => follows_word _ (by decide))
    (fun _ => block_word (by decide) _) fun _ _ => ⟨_, rfl, ⟨rfl, rfl, rfl⟩, rfl⟩, ?_⟩⟩
  intro token member
  simp only [List.append_nil, List.mem_append] at member
  rcases member with member | member | member | member | member
  · exact Sparql.Prologue.admits_of_isFixed rfl token member
  · exact admitted_row _ _ _ token member
  · exact admitted_row _ _ _ token member
  · exact admitted_row _ _ _ token member
  · exact Sparql.Prologue.admits_of_isFixed rfl token member

theorem around_eventsByPeriod : AroundBlock portal.prologue "event"
    [(.periods, (Text.join "\n" periodLines).toList)] eventsByPeriod := by
  have started : Part portal.prologue
      ["?event crm:P4_has_time-span/" ++ spanStart ++ " ?start ;", "       rdf:type ?type__id ."]
      ["event", "start", "type__id"] :=
    part_triple _ wording.started (by simp) (fun _ => follows_var _ _) (fun _ => rfl) rfl
      (by decide)
  have inside :
      Part portal.prologue ["FILTER(?start >= ?periodStart && ?start <= ?periodEnd)"] [] :=
    part_filter _ wording.within (fun _ => rfl) rfl (by decide)
  refine aroundBlock ["SELECT ?id ?type__id (COUNT(DISTINCT ?event) AS ?type__instanceCount)"]
    wording.events (by simp) wording.byType (by decide) ⟨fun _ _ => rfl, fun _ => rfl, fun _ => rfl⟩
    fun {block _} place names => ?_
  have periods : Passage portal.prologue
      ([] ++ (.periods, (Text.join "\n" periodLines).toList) :: [(.filter, block)])
      [Placeholder.periods.token] ["period", "periodStart", "periodEnd"] [] :=
    .slot (by simp) (part_periods.passage _) part_periods.onLines part_periods.nonempty
  refine ⟨_, _, (periods.appendPlain (place.appendPlain ((started.append inside).passage _))).append
    (passage_bind _ "id" wording.period (fun _ => rfl) rfl (by decide)) ?_⟩
  simpa using id_not_mem (by decide) names

theorem around_networkLinks : AroundBlock portal.prologue "source" [] networkLinks := by
  have owned : ∀ name line next, PlainLines [line, next] (ownedTokens name) →
      Part portal.prologue [line, next] [name, "owner"] := fun name line next plain =>
    part_triple _ plain (by simp) (fun _ => follows_var _ _) (fun _ => rfl) rfl rfl
  have source := owned "source" _ _ wording.source
  have target := owned "target" _ _ wording.target
  have ordered : Part portal.prologue ["FILTER(STR(?source) < STR(?target))"] [] :=
    part_filter _ wording.ordered (fun _ => rfl) rfl (by decide)
  refine aroundBlock ["SELECT ?source ?target (COUNT(DISTINCT ?owner) AS ?weight)"] wording.links
    (by simp) wording.byLink (by decide) ⟨fun _ _ => rfl, fun _ => rfl,
      fun _ => rfl⟩ fun place _ => ?_
  exact ⟨_, _, place.appendPlain ((source.append (target.append ordered)).passage _)⟩

end Manuscripts

end FacetedQuery
