import FacetedQuery.Proofs.Assembly.Presentable
import FacetedQuery.Proofs.Outcome

/-!
# Queries of presentable portals

Whatever is asked of a presentable portal, once a block of constraints is composed the query around
it is a valid one.  The heads and tails of the queries of all classes do not depend on the portal;
only the sort clauses and the window of a page vary with the request.
-/

namespace FacetedQuery

open Clause (PropertyPath)
open Rdf (Iri)
open Sparql (Prologue Token)
open Sparql.Grammar
open Sparql.Prologue (admits_of_isFixed)
open Sparql.Token (Spelled)
open Template (Arranged Named Plain Walkable)

namespace Template

variable {prologue : Prologue} {fills : List (Placeholder × List Char)} {scope : List String}

theorem named_id : Named "id" := by decide

theorem named_facetClass : Named "facetClass" := by decide

theorem walkable_a : Walkable prologue "a" where
  arePath := by decide +kernel
  admitted := by
    have single : (PropertyPath.mk "a").tokens = [.word "a"] := by decide +kernel
    rw [single]
    exact admits_of_isFixed rfl
  plain := by decide +kernel

theorem spelled_values {value : List Char} {target : String} {names : List Sparql.IriName}
    (named : Named target) (spelled : Spelled value (names.map .name)) :
    Spelled (['V', 'A', 'L', 'U', 'E', 'S'] ++ ' ' :: ('?' :: target.toList ++
        ' ' :: '\x7b' :: ' ' :: (value ++ [' ', '\x7d'])))
      (.word "VALUES" :: .var target :: .mark .openBrace ::
        (names.map .name ++ [.mark .closeBrace])) := by
  have list := (spelled.append Spelled.closeBrace.space (.space _)).space.openBrace.space
  exact Spelled.word ['V', 'A', 'L', 'U', 'E', 'S'] (fun _ => rfl) (by decide)
    (named.spelled.append list (.space _)).space

theorem admitted_values {names : List Sparql.IriName}
    (admitted : ∀ name ∈ names, prologue.admits (.name name) = true) (target : String) :
    ∀ token ∈ .word "VALUES" :: .var target :: .mark .openBrace ::
      (names.map .name ++ [.mark .closeBrace]), prologue.admits token = true := by
  simp only [List.mem_cons, List.mem_append, List.mem_map, List.not_mem_nil, or_false]
  rintro token (rfl | rfl | rfl | ⟨name, member, rfl⟩ | rfl)
  · rfl
  · rfl
  · rfl
  · exact admitted name member
  · rfl

/-- A line of inline data with a place for names. -/
theorem Passage.values {placeholder : Placeholder} {value : List Char} {target line : String}
    {names : List Sparql.IriName} (named : Named target)
    (noBracket : '<' ∉ target.toList) (given : fills.lookup placeholder = some value)
    (spelled : Spelled value (names.map .name))
    (admitted : ∀ name ∈ names, prologue.admits (.name name) = true)
    (isLine : line = "VALUES ?" ++ target ++ " " ++ Text.braced placeholder.token) :
    Passage prologue fills [line] [target] [] := by
  have isText : line.toList = ['V', 'A', 'L', 'U', 'E', 'S', ' ', '?'] ++ (target.toList ++
      [' ', '\x7b', ' ']) ++ (placeholder.token.toList ++ [' ', '\x7d']) := by
    simp [isLine, Text.braced, Text.openBrace, Text.closeBrace]
  have filled : ['V', 'A', 'L', 'U', 'E', 'S', ' ', '?'] ++ (target.toList ++ [' ', '\x7b', ' ']) ++
      (value ++ [' ', '\x7d']) = ['V', 'A', 'L', 'U', 'E', 'S'] ++ ' ' :: ('?' :: target.toList ++
        ' ' :: '\x7b' :: ' ' :: (value ++ [' ', '\x7d'])) := by
    simp
  have draws := Draws.inline given isText (by simp [noBracket]) (by decide) spelled.line
    (by rw [filled]; exact spelled_values named spelled)
    (by rw [← List.append_assoc]; exact Text.Closed.behind (by decide) (by simp) _) (by simp)
  exact .single draws (.values target names) (admitted_values admitted target)

theorem Passage.classes {spec : ResultClass} (listed : spec.ListsNames prologue)
    (given : fills.lookup .facetClass = some spec.classList.toList) :
    Passage prologue fills ["VALUES ?facetClass " ++ Text.braced "<FACET_CLASS>"]
      ["facetClass"] [] := by
  obtain ⟨names, spelled, admitted⟩ := listed
  exact .values named_facetClass (by decide) given spelled admitted rfl

theorem Passage.instances {spec : ResultClass} (listed : spec.ListsNames prologue)
    (given : fills.lookup .facetClass = some spec.classList.toList)
    (block : Passage prologue fills [Placeholder.filter.token] scope []) :
    ∃ more, Passage prologue fills instancePatterns more [] :=
  ⟨_, block.appendPlain ((Passage.classes listed given).appendPlain
    (.link named_id walkable_a named_facetClass (by decide)))⟩

theorem starts_countQuery : countQuery.toList.head? ≠ some '\n' := by
  simp [show countQuery.toList.head? = some 'S' from Sheet.head?_join _ _ _ (by decide)]

theorem starts_resultSetQuery : resultSetQuery.toList.head? ≠ some '\n' := by
  simp [show resultSetQuery.toList.head? = some 'S' from Sheet.head?_join _ _ _ (by decide)]

theorem starts_instanceQuery : instanceQuery.toList.head? ≠ some '\n' := by
  simp [show instanceQuery.toList.head? = some 'S' from Sheet.head?_join _ _ _ (by decide)]

def countHead : List Token :=
  [.word "SELECT", .mark .openParen, .word "COUNT", .mark .openParen, .word "DISTINCT", .var "id",
    .mark .closeParen, .word "AS", .var "count", .mark .closeParen]

theorem encloses_count : ∃ columns modified, Encloses countHead [] columns modified [] :=
  ⟨_, _, fun _ _ => rfl, fun _ => rfl, fun _ => rfl⟩

theorem ends_closeBrace : Ends fills Text.closeBrace [.mark .closeBrace] :=
  .plain (by decide +kernel)

theorem page_closeBrace : Page fills [Text.closeBrace] [.mark .closeBrace] :=
  .last ends_closeBrace

theorem arranged_count {spec : ResultClass} (listed : spec.ListsNames prologue)
    (given : fills.lookup .facetClass = some spec.classList.toList)
    (block : Passage prologue fills [Placeholder.filter.token] scope []) :
    Arranged prologue fills countQuery := by
  obtain ⟨columns, modified, encloses⟩ := encloses_count
  obtain ⟨more, instances⟩ := Passage.instances listed given block
  have margin : Margin prologue fills ["SELECT (COUNT(DISTINCT ?id) AS ?count)"] countHead :=
    .plain (.ofChars (.cons rfl .nil) (by decide +kernel)) (admits_of_isFixed rfl)
  have isText : countQuery = Text.join "\n" (["SELECT (COUNT(DISTINCT ?id) AS ?count)"] ++
      (Text.groupLines "WHERE" instancePatterns ++ [])) := by
    rw [List.append_nil]
    rfl
  rw [isText]
  exact .intro margin instances page_closeBrace (admits_of_isFixed rfl) encloses

theorem Passage.place {placeholder : Placeholder} {text : String}
    (given : fills.lookup placeholder = some text.toList)
    (isPart : text = "" ∨ IsPart prologue text) :
    ∃ scope, Passage prologue fills [placeholder.token] scope [] := by
  rcases isPart with rfl | ⟨lines, scope, rfl, part⟩
  · exact ⟨[], .blank given⟩
  · obtain ⟨firsts, lasts, rfl, apart⟩ := exists_first given
    exact ⟨scope, .slot apart (part.passage lasts) part.onLines part.nonempty⟩

theorem Draws.value {placeholder : Placeholder} {value : List Char} {tokens : List Token}
    (given : fills.lookup placeholder = some value) (spelled : Spelled value tokens)
    (closed : Text.Closed value) (nonempty : value ≠ []) : Draws fills placeholder.token tokens :=
  @Draws.inline fills placeholder _ _ [] value [] given (by simp) (by simp) (by simp) spelled.line
    (by simpa using spelled)
    (by simpa using closed) (by simpa using nonempty)

end Template

namespace SortClauses

/-- The order of rows: by ids, or by the values of a path in a direction. -/
def orderLine : Option SortDirection → String
  | none => byId.clause
  | some direction => (byPath "" direction).clause

def orderTokens : Option SortDirection → List Token
  | none => [.word "ORDER", .word "BY", .var "id"]
  | some direction =>
    [.word "ORDER", .word "BY", .mark .openParen, .mark .bang, .word "BOUND", .mark .openParen,
      .var "orderBy", .mark .closeParen, .mark .closeParen, .word direction.keyword,
      .mark .openParen, .var "orderBy", .mark .closeParen, .var "id"]

theorem plain_orderLine (kind : Option SortDirection) :
    Plain (orderLine kind) (orderTokens kind) := by
  rcases kind with _ | (_ | _)
  · exact .ofChars rfl (by decide +kernel)
  all_goals exact .ofChars (Template.joined (Template.joined rfl rfl) rfl) (by decide +kernel)

theorem fixed_orderTokens (kind : Option SortDirection) :
    (orderTokens kind).all Prologue.isFixed = true := by
  rcases kind with _ | (_ | _) <;> rfl

/-- Clauses that sort by ids, or along a path that can be followed. -/
structure Walks (prologue : Prologue) (kind : Option SortDirection)
    (sort : SortClauses) : Prop where
  triple : sort.triple = "" ∨ Template.IsPart prologue sort.triple
  clause : sort.clause = orderLine kind

variable {prologue : Prologue}

theorem walks_byId : Walks prologue none byId where
  triple := .inl rfl
  clause := rfl

theorem named_orderByValue : Named "orderByValue" := by decide

theorem walks_byPath {path : String} (walkable : Walkable prologue path)
    (direction : SortDirection) :
    Walks prologue (some direction) (byPath path direction) where
  triple := by
    have isLine : (byPath path direction).triple.toList = Template.optionalStart ++
        Template.linkText "id" path "orderByValue" ['\x7d'] := by
      simp [byPath, Text.braced, Text.openBrace, Text.closeBrace, Template.optionalStart,
        Template.linkText]
    exact .inr (.line (.optionalLink Template.named_id walkable named_orderByValue isLine))
  clause := rfl

end SortClauses

namespace Window

/-- The line that cuts a page out of the rows. -/
def line (window : Window) : String :=
  "LIMIT " ++ Decimal.natural window.limit ++ " OFFSET " ++ Decimal.natural window.offset

def tokens (window : Window) : List Token :=
  [.word "LIMIT", .number .none (Decimal.natural window.limit), .word "OFFSET",
    .number .none (Decimal.natural window.offset)]

/-- A window whose numbers are of 64 bits. -/
structure Fits (window : Window) : Prop where
  limit : window.limit < Decimal.unsignedLimit
  offset : window.offset < Decimal.unsignedLimit

theorem spelled (window : Window) : Spelled window.line.toList window.tokens := by
  have offset := Spelled.word ['O', 'F', 'F', 'S', 'E', 'T'] (fun _ => rfl) (by decide)
    (Spelled.digits window.offset).space
  have limit := Spelled.word ['L', 'I', 'M', 'I', 'T'] (fun _ => rfl) (by decide)
    ((Spelled.digits window.limit).append offset.space (.space _)).space
  simpa [line, tokens, Decimal.natural] using limit

theorem closed (window : Window) : Text.Closed window.line.toList := by
  have digits : Text.Closed (Decimal.digits window.offset) := fun character last =>
    Decimal.isBlank_of_isDigit (Decimal.isDigit_of_mem_digits (List.mem_of_getLast? last))
  have split : window.line.toList = "LIMIT ".toList ++ Decimal.digits window.limit ++
      " OFFSET ".toList ++ Decimal.digits window.offset := by
    simp [line, Decimal.natural]
  rw [split]
  exact digits.behind (Decimal.digits_ne_nil _) _

open Sparql.Reader in
/-- A limit and an offset are read to their end. -/
theorem reads_slice {window : Window} (fits : window.Fits) (rest : List Token) :
    slice (window.tokens ++ rest) = some ((), rest) := by
  have count : ∀ {number : Nat}, number < Decimal.unsignedLimit → ∀ rest : List Token,
      count (.number .none (Decimal.natural number) :: rest) = some (number, rest) := by
    intro number fits rest
    change Option.map _ (Decimal.readUnsigned? (Decimal.natural number).toList) = _
    rw [Decimal.natural, String.toList_ofList, Decimal.readUnsigned?_digits fits]
    rfl
  have offset : slice.offset (.word "OFFSET" :: .number .none (Decimal.natural window.offset) ::
    rest) = some ((), rest) := by
    change Option.bind (Sparql.Reader.count _) _ = _
    rw [count fits.offset]
    rfl
  unfold slice slice.limit
  rw [orElse_apply]
  change (Option.bind (Option.bind (Sparql.Reader.count (.number .none _ ::
    .word "OFFSET" :: .number .none _ :: rest)) _) _).or _ = _
  rw [count fits.limit]
  change (Option.bind (taken slice.offset _) _).or _ = _
  rw [taken_of_some offset]
  rfl

end Window

namespace Template

open Sparql.Reader

/-- What follows the body of a query, read part by part. -/
theorem modifiers_of_parts {readers : Readers} {tokens first second third fourth rest : List Token}
    {groups : List Sparql.Grouping} {having order : List Sparql.Expression}
    {values : Option Sparql.InlineData}
    (isGroups : clause (do word "GROUP"; word "BY") (grouping readers) tokens =
      some (groups, first))
    (isHaving : clause (word "HAVING") (constraint readers) first = some (having, second))
    (isOrder : clause (do word "ORDER"; word "BY") (ordering readers) second = some (order, third))
    (isSlice : slice third = some ((), fourth))
    (isValues : maybe (do word "VALUES"; inlineData) fourth = some (values, rest)) :
    modifiers readers tokens = some (.after groups having order values.toList, rest) := by
  unfold modifiers
  rw [bind_apply, isGroups, Option.bind_some, bind_apply, isHaving, Option.bind_some, bind_apply,
    isOrder, Option.bind_some, bind_apply, isSlice, Option.bind_some, bind_apply, isValues]
  rfl

def pageHead (direction : SortDirection) : List Token :=
  [.word "SELECT", .var "id", .mark .openParen, .word (SortClauses.aggregate direction),
    .mark .openParen, .var "orderByValue", .mark .closeParen, .word "AS", .var "orderBy",
    .mark .closeParen]

def pageTail (kind : Option SortDirection) (window : Window) : List Token :=
  [.word "GROUP", .word "BY", .var "id"] ++ (SortClauses.orderTokens kind ++ window.tokens)

theorem encloses_page (direction : SortDirection) (kind : Option SortDirection) {window : Window}
    (fits : window.Fits) : ∃ columns modified, ∀ rest, Encloses (pageHead direction)
      (pageTail kind window) (some columns) modified (.mark .closeBrace :: rest) := by
  have tail : ∃ order, ∀ rest depth, modifiers (readersWithin (depth + 5))
      (pageTail kind window ++ .mark .closeBrace :: rest) =
        some (.after [.by (.var "id") none] [] order [], .mark .closeBrace :: rest) := by
    rcases kind with _ | (_ | _)
    all_goals exact ⟨_, fun rest depth =>
      modifiers_of_parts rfl rfl rfl (Window.reads_slice fits (.mark .closeBrace :: rest)) rfl⟩
  obtain ⟨order, tail⟩ := tail
  cases direction
  · exact ⟨_, _, fun rest => ⟨fun _ _ => rfl, tail rest, fun _ => rfl⟩⟩
  · exact ⟨_, _, fun rest => ⟨fun _ _ => rfl, tail rest, fun _ => rfl⟩⟩

/-- The values of a query for a page, in the order in which they are filled in. -/
def pageFills (block : String) (spec : ResultClass) (direction : SortDirection) (sort : SortClauses)
    (window : Window) : List (Placeholder × List Char) :=
  [(.filter, block.toList), (.facetClass, spec.classList.toList),
    (.orderByAggregate, (SortClauses.aggregate direction).toList),
    (.orderByTriple, sort.triple.toList), (.orderBy, sort.clause.toList),
    (.page, window.line.toList), (.resultSetProperties, spec.properties.toList)]

/-- The head of a page, whose aggregate depends on the direction. -/
theorem margin_pageHead {direction : SortDirection}
    (given : fills.lookup .orderByAggregate = some (SortClauses.aggregate direction).toList) :
    Margin prologue fills ["SELECT ?id (<ORDER_BY_AGGREGATE>(?orderByValue) AS ?orderBy)"]
      (pageHead direction) := by
  let line := "SELECT ?id (" ++ SortClauses.aggregate direction ++ "(?orderByValue) AS ?orderBy)"
  have plain : Plain line (pageHead direction) := by
    cases direction <;> exact .ofChars (joined (joined rfl rfl) rfl) (by decide +kernel)
  have onLine : '\n' ∉ (SortClauses.aggregate direction).toList := by cases direction <;> decide
  have split : line.toList = "SELECT ?id (".toList ++
      ((SortClauses.aggregate direction).toList ++ "(?orderByValue) AS ?orderBy)".toList) := by
    simp [line]
  unfold Plain at plain
  rw [split] at plain
  refine ⟨?_, admits_of_isFixed (by cases direction <;> rfl)⟩
  simpa using Sheet.cons (Draws.inline given (by decide) (by decide)
    (by decide) onLine plain.spelled plain.closed (by simp)) .nil

theorem Passage.bound : Passage prologue fills ["FILTER(BOUND(?id))"] [] [] :=
  have line : PlainLines ["FILTER(BOUND(?id))"] [.word "FILTER", .mark .openParen, .word "BOUND",
      .mark .openParen, .var "id", .mark .closeParen, .mark .closeParen] :=
    .ofChars (.cons rfl .nil) (by decide +kernel)
  .plain line
    (.ofElement (fun rest => follows_word _ (by decide)) (fun rest => block_word (by decide) _)
      fun _ _ => ⟨_, rfl, ⟨rfl, rfl, rfl⟩, rfl⟩)
    (admits_of_isFixed rfl)

section

variable {direction : SortDirection} {sort : SortClauses} {kind : Option SortDirection}
  {window : Window} {block : String} {spec : ResultClass}

/-- The query for the ids of a page is a passage of the query for the page. -/
theorem Passage.page (listed : spec.ListsNames prologue) (walks : sort.Walks prologue kind)
    (fits : window.Fits)
    (place : Passage prologue (pageFills block spec direction sort window)
      [Placeholder.filter.token] scope []) :
    ∃ more, Passage prologue (pageFills block spec direction sort window) pageOfIds more [] := by
  let fills := pageFills block spec direction sort window
  obtain ⟨columns, modified, encloses⟩ := encloses_page direction kind fits
  obtain ⟨instancesScope, instances⟩ := Passage.instances listed rfl place
  obtain ⟨sortScope, triple⟩ := @Passage.place _ fills .orderByTriple _ rfl walks.triple
  have grouping : Margin prologue fills ["GROUP BY ?id"] [.word "GROUP", .word "BY", .var "id"] :=
    .plain (.ofChars (.cons rfl .nil) (by decide +kernel)) (admits_of_isFixed rfl)
  have order : Draws fills Placeholder.orderBy.token (SortClauses.orderTokens kind) := by
    have plain : Plain sort.clause _ := walks.clause ▸ SortClauses.plain_orderLine kind
    exact Draws.value (show fills.lookup .orderBy = some sort.clause.toList from rfl) plain.spelled
      (PlainText.closed plain) (PlainText.nonempty plain)
  have limits : Draws fills Placeholder.page.token window.tokens :=
    Draws.value (show fills.lookup .page = some window.line.toList from rfl) window.spelled
      window.closed (by simp [Window.line])
  have below : Margin prologue fills ["<ORDER_BY>", "<PAGE>"]
      (SortClauses.orderTokens kind ++ window.tokens) := by
    have sheet := Sheet.cons order (.cons limits .nil)
    rw [List.append_nil] at sheet
    refine ⟨sheet, admits_of_isFixed ?_⟩
    rw [List.all_append, SortClauses.fixed_orderTokens]
    rfl
  exact ⟨_, .subquery (margin_pageHead rfl) (instances.appendPlain triple) (grouping.append below)
    encloses⟩

def allHead : List Token :=
  [.word "SELECT", .mark .star]

theorem margin_all : Margin prologue fills ["SELECT *"] allHead :=
  .plain (.ofChars (.cons rfl .nil) (by decide +kernel)) (admits_of_isFixed rfl)

theorem encloses_resultSet (kind : Option SortDirection) : ∃ columns modified,
    Encloses allHead (SortClauses.orderTokens kind) columns modified [] := by
  rcases kind with _ | (_ | _)
  all_goals exact ⟨_, _, fun _ _ => rfl, fun _ => rfl, fun _ => rfl⟩

theorem arranged_resultSet (framed : spec.Framed prologue)
    (walks : sort.Walks prologue kind) (fits : window.Fits)
    (place : Passage prologue (pageFills block spec direction sort window)
      [Placeholder.filter.token] scope []) :
    Arranged prologue (pageFills block spec direction sort window) resultSetQuery := by
  let fills := pageFills block spec direction sort window
  obtain ⟨columns, modified, encloses⟩ := encloses_resultSet kind
  obtain ⟨pageScope, page⟩ := Passage.page framed.classes walks fits place
  obtain ⟨propertiesScope, properties⟩ :=
    @Passage.place _ fills .resultSetProperties _ rfl framed.properties
  have ending : Ends fills Placeholder.orderBy.token (SortClauses.orderTokens kind) := by
    have plain : Plain sort.clause _ := walks.clause ▸ SortClauses.plain_orderLine kind
    exact Ends.slot (show fills.lookup .orderBy = some sort.clause.toList from rfl) plain.spelled
      (PlainText.closed plain) (PlainText.nonempty plain)
  exact .intro margin_all (page.appendPlain (Passage.bound.appendPlain properties))
    (.cons .closeBrace (.last ending))
    (admits_of_isFixed (SortClauses.fixed_orderTokens kind)) encloses

end

/-- The values of a query for an entity, in the order in which they are filled in. -/
def instanceFills (block : String) (route : LookupRoute) (iri : Iri) :
    List (Placeholder × List Char) :=
  [(.properties, route.properties.toList), (.relatedInstances, route.relatedInstances.toList),
    (.filter, block.toList), (.id, iri.render.toList)]

/-- The line that names the entity. -/
theorem Passage.bindId (noBase : prologue.base = none) {iri : Iri}
    (given : fills.lookup .id = some iri.render.toList) :
    Passage prologue fills ["BIND(<ID> AS ?id)"] ["id"] ["id"] := by
  have name := named_id.spelled.append Spelled.closeParen .close
  have assigned := (Spelled.word ['A', 'S'] (fun _ => rfl) (by decide) name.space).space
  have isIri := Spelled.iri iri assigned (by simp; decide)
  have line := Spelled.word ['B', 'I', 'N', 'D'] (fun _ => rfl) (by decide) isIri.openParen
  have rendered : iri.render.toList = '<' :: (iri.text.toList ++ ['>']) := by
    simp [Iri.render]
  have text : ['B', 'I', 'N', 'D'] ++ '(' :: '<' :: (iri.text.toList ++ '>' :: ' ' ::
      (['A', 'S'] ++ ' ' :: ('?' :: "id".toList ++ [')']))) =
        "BIND(".toList ++ (iri.render.toList ++ " AS ?id)".toList) := by
    simp [rendered]
  rw [text] at line
  have onLine : '\n' ∉ iri.render.toList := fun member => line.line (by simp [member])
  have draws := Draws.inline given (show "BIND(<ID> AS ?id)".toList = _ by decide) (by decide)
    (by decide) onLine line
    (by rw [← List.append_assoc]; exact Text.Closed.behind (by decide) (by simp) _) (by simp)
  have finds : ∀ rest, Finds Readers.expression ([.name (.iri iri.text)] ++ .word "AS" :: rest) _
      (.word "AS" :: rest) := fun _ => rfl
  refine .single draws (.bind "id" rfl finds) ?_
  simp only [List.mem_cons, List.mem_append, List.not_mem_nil, or_false]
  rintro token (rfl | rfl | rfl | rfl | rfl | rfl)
  · rfl
  · rfl
  · exact Prologue.admits_iri noBase iri
  · rfl
  · rfl
  · rfl

/-- A value that holds a place for the block; what the block binds is bound if the value opens
it. -/
theorem Passage.holder {placeholder : Placeholder} {text : String}
    {firsts lasts : List (Placeholder × List Char)} (apart : ∀ fill ∈ firsts, placeholder ≠ fill.1)
    (holds : text = "" ∨ HoldsBlock prologue text)
    (place : Passage prologue lasts [Placeholder.filter.token] scope []) :
    ∃ more, (OpensBlock prologue text → scope ⊆ more) ∧
      Passage prologue (firsts ++ (placeholder, text.toList) :: lasts)
        [placeholder.token] more [] := by
  by_cases opens : OpensBlock prologue text
  · obtain ⟨lines, rfl, nonempty, onLines, passage⟩ := opens
    obtain ⟨more, bound, inside⟩ := passage place
    exact ⟨more, fun _ => bound, .slot apart inside onLines nonempty⟩
  · rcases holds with rfl | ⟨lines, rfl, nonempty, onLines, passage⟩
    · exact ⟨[], fun opens' => absurd opens' opens, .blank (List.lookup_eq_some_iff.mpr
        ⟨firsts, lasts, rfl, fun fill member => by simpa using apart fill member⟩)⟩
    · obtain ⟨more, inside⟩ := passage place
      exact ⟨more, fun opens' => absurd opens' opens, .slot apart inside onLines nonempty⟩

/-- What follows a query that is neither grouped nor sorted. -/
def nothingAfter : Sparql.Modifiers :=
  .after [] [] [] []

theorem encloses_all : Encloses allHead [] none nothingAfter [] :=
  ⟨fun _ _ => rfl, fun _ => rfl, fun _ => rfl⟩

/-- The lines of a query for an entity. -/
def entityLines : List String :=
  ["BIND(<ID> AS ?id)", Placeholder.properties.token, Placeholder.relatedInstances.token]

/-- The lines of a query for an entity are a passage, which binds the entity, and what a block binds
if the related instances open it. -/
theorem Passage.entity (noBase : prologue.base = none) {route : LookupRoute}
    (presentable : route.Presentable prologue) {block : String} {iri : Iri}
    (place : ∀ {fills : List (Placeholder × List Char)}, fills.lookup .filter = some block.toList →
      Passage prologue fills [Placeholder.filter.token] scope []) :
    ∃ more, "id" ∈ more ∧ (OpensBlock prologue route.relatedInstances → scope ⊆ more) ∧
      Passage prologue (instanceFills block route iri) entityLines more ["id"] := by
  obtain ⟨_, -, properties⟩ := @Passage.holder _ _ .properties _ [] _ (by simp)
    presentable.properties (@place [(.relatedInstances, route.relatedInstances.toList),
      (.filter, block.toList), (.id, iri.render.toList)] rfl)
  obtain ⟨_, bound, related⟩ := @Passage.holder _ _ .relatedInstances _
    [(.properties, route.properties.toList)] _ (by simp) presentable.relatedInstances
    (@place [(.filter, block.toList), (.id, iri.render.toList)] rfl)
  have content := (Passage.bindId noBase (show (instanceFills block route iri).lookup .id =
    some iri.render.toList from rfl)).appendPlain (properties.appendPlain related)
  refine ⟨_, by simp, fun opens name member => ?_, content⟩
  exact List.mem_append_right _ (List.mem_append_right _ (bound opens member))

theorem arranged_instance (noBase : prologue.base = none) {route : LookupRoute}
    (presentable : route.Presentable prologue) {block : String} {iri : Iri}
    (place : ∀ {fills : List (Placeholder × List Char)}, fills.lookup .filter = some block.toList →
      Passage prologue fills [Placeholder.filter.token] scope []) :
    Arranged prologue (instanceFills block route iri) instanceQuery := by
  obtain ⟨_, -, -, content⟩ := Passage.entity noBase presentable place
  have isText : instanceQuery = Text.join "\n" (["SELECT *"] ++
      (Text.groupLines "WHERE" entityLines ++ [])) := by
    rw [List.append_nil]
    rfl
  rw [isText]
  exact .intro margin_all content page_closeBrace (admits_of_isFixed rfl) encloses_all

end Template

namespace Assembler

variable {assembler : Assembler} {facetClass filterTarget : String}
  {constraints : Option ConstraintSet}

theorem fillFilter_of_ok {block : ConstraintBlock}
    (composed : ConstraintBlock.compose assembler.portal facetClass constraints filterTarget =
      .ok block) (template : Template) :
    assembler.fillFilter facetClass constraints filterTarget template =
      .ok (template.fill .filter block.render) :=
  Outcome.bind_of_ok composed

theorem fillFilter_of_error {fault : Fault}
    (refused : ConstraintBlock.compose assembler.portal facetClass constraints filterTarget =
      .error fault) (template : Template) :
    assembler.fillFilter facetClass constraints filterTarget template = .error fault :=
  Outcome.bind_of_error refused

end Assembler

end FacetedQuery
