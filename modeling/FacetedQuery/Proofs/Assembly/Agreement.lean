import FacetedQuery.Proofs.Assembly.Outcomes
import FacetedQuery.Proofs.Assembly.Pages
import FacetedQuery.Proofs.ConstraintBlock.Bare

/-!
# Counts and pages agree

The number of the instances of a class and the pages that list them come from two templates, which
put the block and the classes at different depths and in different orders.  Up to white space both
ask for the same instances, and a sort triple restricts nothing.
-/

namespace FacetedQuery

open Outcome (bind_eq_ok bind_of_error mapError_eq_ok)
open Template (Free Shows Spaces filledLines fillAll)

namespace Template

variable {fills : List (Placeholder × List Char)} {block : String} {spec : ResultClass}
  {indentation : String}

theorem free_lines {lines : List String}
    (free : ∀ line ∈ lines, Free (fillAll fills line.toList)) :
    Free (fillAll fills (Text.join "\n" lines).toList) := by
  induction lines with
  | nil => exact fillAll_of_free free_nil fills ▸ free_nil
  | cons line lines induction =>
      have first := free line (by simp)
      have others := induction fun other member => free other (by simp [member])
      cases lines with
      | nil => exact first
      | cons next lines =>
          rw [Sheet.toList_join_cons, fillAll_feed, free_append_cons (by decide) (by decide)]
          exact ⟨first, others⟩

theorem finish_text_of_free (name : String) {text : List Char} (free : Free text) :
    (Template.mk name text).finish = .ok (String.ofList (Text.strip text)) :=
  finish_of_free free

theorem free_plain {line : String} (plain : '<' ∉ line.toList) :
    Free (fillAll fills line.toList) := by
  have free := free_of_not_mem plain
  rwa [fillAll_of_free free]

theorem free_fixed {lines : List String} (plain : ∀ line ∈ lines, '<' ∉ line.toList) :
    ∀ line ∈ lines, Free (fillAll fills line.toList) :=
  fun line member => free_plain (plain line member)

theorem free_value {placeholder : Placeholder} {before value after line : String}
    (given : fills.lookup placeholder = some value.toList)
    (isLine : line = before ++ placeholder.token ++ after) (plainBefore : '<' ∉ before.toList)
    (plainAfter : '<' ∉ after.toList) (fixed : Fixed (before ++ value ++ after)) :
    Free (fillAll fills line.toList) := by
  rw [fillAll_value given isLine plainBefore plainAfter fixed]
  exact free_of_not_mem fixed.plain

/-- What instances satisfy, without the white space around the lines. -/
def restriction (block : String) (spec : ResultClass) : List String :=
  Text.trimmedLines block.toList ++
    (Text.trimmedLines ("VALUES ?facetClass \x7b ".toList ++
      (spec.classList.toList ++ " \x7d".toList)) ++ Text.trimmedLines "?id a ?facetClass .".toList)

theorem free_classList (bare : ∀ name ∈ spec.rdfClasses, Free name.toList) :
    Free spec.classList.toList := by
  unfold ResultClass.classList
  generalize spec.rdfClasses = names at bare
  induction names with
  | nil => exact free_nil
  | cons name names induction =>
      have first := bare name (by simp)
      have others := induction fun other member => bare other (by simp [member])
      cases names with
      | nil => exact first
      | cons next names =>
          simp (disch := decide) [Text.join, free_append_cons, first, others]

section

variable (givenBlock : fills.lookup .filter = some block.toList) (freeBlock : Free block.toList)
  (givenClasses : fills.lookup .facetClass = some spec.classList.toList)
  (freeClasses : Free spec.classList.toList) (spaces : Spaces indentation.toList)
  (onLine : '\n' ∉ indentation.toList)

include givenBlock freeBlock givenClasses freeClasses spaces onLine

theorem shows_instances : Shows fills (indentation ++ "<FILTER>") block.toList ∧
    Shows fills (indentation ++ ("VALUES ?facetClass " ++ Text.braced "<FACET_CLASS>"))
      ("VALUES ?facetClass \x7b ".toList ++ (spec.classList.toList ++ " \x7d".toList)) ∧
    Shows fills (indentation ++ "?id a ?facetClass .") "?id a ?facetClass .".toList := by
  refine ⟨.slot givenBlock freeBlock spaces onLine rfl, ?_,
    .plain spaces onLine (by decide) rfl⟩
  have free : Free ("VALUES ?facetClass \x7b ".toList ++
    (spec.classList.toList ++ " \x7d".toList)) :=
    free_append_of_not_mem (by decide) ((free_append_cons (by decide) (by decide)).mpr
      ⟨freeClasses, by decide⟩)
  exact .inline givenClasses free spaces onLine (by decide) (by decide) (by decide) (by decide)
    (by simp [String.append_assoc]; rfl)

theorem free_instances : ∀ line ∈ instanceLines indentation, Free (fillAll fills line.toList) := by
  obtain ⟨block, classes, type⟩ :=
    shows_instances givenBlock freeBlock givenClasses freeClasses spaces onLine
  intro line member
  simp only [instanceLines, instancePatterns, List.map_cons, List.map_nil, List.mem_cons,
    List.not_mem_nil, or_false] at member
  rcases member with rfl | rfl | rfl
  · exact block.free
  · exact classes.free
  · exact type.free

theorem trim_instances :
    ((instanceLines indentation).flatMap (filledLines fills)).map Text.trim =
      restriction block spec := by
  obtain ⟨block, classes, type⟩ :=
    shows_instances givenBlock freeBlock givenClasses freeClasses spaces onLine
  simp only [instanceLines, instancePatterns, List.map_cons, List.map_nil, List.flatMap_cons,
    List.flatMap_nil, List.map_append, List.append_nil, map_trim_filledLines, block.lines,
    classes.lines, type.lines, restriction]

end

variable {sort : SortClauses} {window : Window} {order : SortOrder}

theorem spaces_two : Spaces "  ".toList := by decide

theorem spaces_six : Spaces "      ".toList := by decide

theorem finish_count (freeBlock : Free block.toList) (freeClasses : Free spec.classList.toList) :
    ∃ body counted, finish ⟨"count", fillAll (countFills block spec) countQuery.toList⟩ = .ok body ∧
      Text.linesOf body = countLines counted ∧ counted.map Text.trim = restriction block spec := by
  have lines : ∀ line ∈ ["SELECT (COUNT(DISTINCT ?id) AS ?count)", "WHERE \x7b"] ++
      instanceLines "  " ++ ["\x7d"],
      Free (fillAll (countFills block spec) line.toList) := by
    refine List.forall_mem_append.mpr ⟨List.forall_mem_append.mpr ⟨free_fixed (by decide), ?_⟩,
      free_fixed (by decide)⟩
    exact free_instances rfl freeBlock rfl freeClasses spaces_two (by decide)
  have free := free_lines lines
  rw [← countQuery_eq] at free
  have finished := finish_text_of_free "count" free
  have counted :
      ((instanceLines "  ").flatMap (filledLines (countFills block spec))).map Text.trim =
        restriction block spec :=
    trim_instances rfl freeBlock rfl freeClasses spaces_two (by decide)
  exact ⟨_, _, finished, linesOf_count finished, counted⟩

/-- The lines of a finished page; those of the sort triple come behind those that the instances
satisfy. -/
theorem finish_resultSet (freeBlock : Free block.toList) (freeClasses : Free spec.classList.toList)
    (freeProperties : Free spec.properties.toList) (freeTriple : Free sort.triple.toList)
    (made : SortClauses.ofOrder spec order = .ok sort) :
    ∃ body restricted sorting columns,
      finish ⟨"result set", fillAll (pageFills block spec order.direction sort window)
        resultSetQuery.toList⟩ = .ok body ∧
      Text.linesOf body =
        pageLines order.direction sort.clause window.line (restricted ++ sorting) columns ∧
      restricted.map Text.trim = restriction block spec ∧
      sorting.map Text.trim = (Text.linesOf sort.triple).map Text.trim := by
  let fills := pageFills block spec order.direction sort window
  have clause : Fixed sort.clause := by simpa using SortClauses.fixed_clause made (.inl rfl)
  have triple : Shows fills "      <ORDER_BY_TRIPLE>" sort.triple.toList :=
    .slot (show fills.lookup .orderByTriple = _ from rfl) freeTriple spaces_six (by decide)
      (by decide)
  have properties : Shows fills "  <RESULT_SET_PROPERTIES>" spec.properties.toList :=
    .slot (show fills.lookup .resultSetProperties = _ from rfl) freeProperties
      spaces_two (by decide) (by decide)
  have select : Free (fillAll fills
      "    SELECT ?id (<ORDER_BY_AGGREGATE>(?orderByValue) AS ?orderBy)".toList) :=
    free_value (show fills.lookup .orderByAggregate = _ from rfl) (by decide)
      (by decide) (by decide) (fixed_selectLine _)
  have grouped : Free (fillAll fills "    <ORDER_BY>".toList) :=
    free_value (show fills.lookup .orderBy = _ from rfl)
      (show "    <ORDER_BY>" = "    " ++ Placeholder.orderBy.token ++ "" by decide) (by decide)
      (by decide) (by simpa using SortClauses.fixed_clause made (.inr rfl))
  have limited : Free (fillAll fills "    <PAGE>".toList) :=
    free_value (show fills.lookup .page = some window.line.toList from rfl)
      (show "    <PAGE>" = "    " ++ Placeholder.page.token ++ "" by decide) (by decide)
      (by decide) (by simpa using window.fixed_line)
  have ordered : Free (fillAll fills "<ORDER_BY>".toList) :=
    free_value (show fills.lookup .orderBy = _ from rfl)
      (show "<ORDER_BY>" = "" ++ Placeholder.orderBy.token ++ "" by decide) (by decide)
      (by decide) (by simpa using clause)
  have instances : ∀ line ∈ instanceLines "      ", Free (fillAll fills line.toList) :=
    free_instances (show fills.lookup .filter = some block.toList from rfl) freeBlock
      (show fills.lookup .facetClass = _ from rfl) freeClasses spaces_six (by decide)
  have restricted : ((instanceLines "      ").flatMap (filledLines fills)).map Text.trim =
      restriction block spec :=
    trim_instances (show fills.lookup .filter = some block.toList from rfl) freeBlock
      (show fills.lookup .facetClass = _ from rfl) freeClasses spaces_six (by decide)
  have free : Free (fillAll fills resultSetQuery.toList) := by
    rw [resultSetQuery_eq]
    refine free_lines ?_
    simp only [List.forall_mem_append, List.forall_mem_singleton]
    exact ⟨⟨⟨⟨⟨⟨⟨⟨⟨⟨free_fixed (by decide), select⟩, free_plain (by decide)⟩,
      instances, triple.free⟩,
      free_fixed (by decide)⟩, grouped⟩, limited⟩, free_fixed (by decide)⟩, properties.free⟩,
      free_plain (by decide)⟩, ordered⟩
  have finished := finish_text_of_free "result set" free
  have lines := linesOf_resultSet made rfl rfl rfl finished
  rw [List.flatMap_append] at lines
  refine ⟨_, _, _, _, finished, lines, restricted, ?_⟩
  rw [List.flatMap_singleton, map_trim_filledLines, triple.lines, Text.map_trim_linesOf]

end Template

namespace SortClauses

variable {spec : ResultClass} {order : SortOrder} {sort : SortClauses}

/-- A sort triple is optional, if there is one, and follows a path of the facet of the key. -/
theorem triple_of_key (made : ofOrder spec order = .ok sort) : sort.triple = "" ∨
    ∃ key facet, order.key.or spec.defaultSortKey = some key ∧ spec.facet? key = some facet ∧
      ∃ named ∈ facet.paths,
        sort.triple = "OPTIONAL " ++ Text.braced ("?id " ++ named.path ++ " ?orderByValue") := by
  unfold ofOrder at made
  split at made
  · cases made
    exact .inl rfl
  · next key isKey =>
    split at made
    · cases made
    · next facet known =>
      obtain ⟨path, found, equality⟩ := bind_eq_ok.mp made
      cases equality
      obtain ⟨named, member, rfl⟩ := exists_named found
      exact .inr ⟨key, facet, isKey, known, named, member, rfl⟩

theorem triple_ofOrder (made : ofOrder spec order = .ok sort) : sort.triple = "" ∨
    ∃ facet ∈ spec.facets, ∃ named ∈ facet.paths,
      sort.triple = "OPTIONAL " ++ Text.braced ("?id " ++ named.path ++ " ?orderByValue") :=
  (triple_of_key made).imp_right fun ⟨_, facet, _, known, isTriple⟩ =>
    ⟨facet, List.mem_of_find?_eq_some known, isTriple⟩

theorem free_triple (made : ofOrder spec order = .ok sort)
    (bare : ∀ key facet, order.key.or spec.defaultSortKey = some key →
      spec.facet? key = some facet → ∀ named ∈ facet.paths, BarePath named.path) :
    Free sort.triple.toList := by
  rcases triple_of_key made with empty | ⟨key, facet, isKey, known, named, member, isTriple⟩
  · rw [empty]
    exact Template.free_nil
  · have path : Free named.path.toList := bare key facet isKey known named member
    simp (disch := decide) [isTriple, Text.braced, Text.openBrace, Text.closeBrace,
      Template.free_append_cons, Template.free_cons_of_ne, path, Template.free_nil]

end SortClauses

namespace Assembler

variable {assembler : Assembler} {resultClass : String} {constraints : Option ConstraintSet}
  {spec : ResultClass} {page : Page} {order : SortOrder} {window : Window} {sort : SortClauses}

theorem assemble_of_body (unchecked : assembler.validates = false) {request : Request}
    {query : AssembledQuery} (built : assembler.body request = .ok query) :
    assembler.assemble request =
      .ok { query with text := assembler.portal.prefixDeclarations ++ query.text } :=
  assemble_eq_ok.mpr ⟨query, built, by simp [unchecked], rfl⟩

section

variable {block : ConstraintBlock}

/-- Behind a composed block nothing goes wrong with a count. -/
theorem assemble_count (unchecked : assembler.validates = false) (bare : assembler.portal.Bare)
    (known : assembler.portal.resultClass resultClass = .ok spec)
    (composed : ConstraintBlock.compose assembler.portal resultClass constraints "id" = .ok block) :
    ∃ query counted, assembler.assemble (.count resultClass constraints) = .ok query ∧
      Text.linesOf query.text =
        assembler.portal.declarationLines ++ Template.countLines counted ∧
      counted.map Text.trim = Template.restriction block.render spec := by
  have member := ConstraintBlock.Portal.mem_of_resultClass known
  obtain ⟨body, counted, finished, lines, restricts⟩ :=
    Template.finish_count (ConstraintBlock.free_of_compose bare composed)
      (Template.free_classList (bare.classes spec member))
  have built : assembler.body (.count resultClass constraints) = .ok ⟨body, .count⟩ :=
    bind_eq_ok.mpr ⟨body, (countBody_of_ok known composed).trans (mapError_eq_ok.mpr finished),
      rfl⟩
  exact ⟨_, counted, assemble_of_body unchecked built,
    (Portal.linesOf_declarations _ _).trans (congrArg _ lines), restricts⟩

/-- Behind a composed block and an accepted page and order nothing goes wrong with a page. -/
theorem assemble_resultSet (unchecked : assembler.validates = false) (bare : assembler.portal.Bare)
    (known : assembler.portal.resultClass resultClass = .ok spec)
    (windowed : page.window = .ok window) (sorted : SortClauses.ofOrder spec order = .ok sort)
    (composed : ConstraintBlock.compose assembler.portal resultClass constraints "id" = .ok block) :
    ∃ query restricted sorting columns,
      assembler.assemble (.resultSet resultClass constraints page order) = .ok query ∧
      Text.linesOf query.text = assembler.portal.declarationLines ++
        Template.pageLines order.direction sort.clause window.line (restricted ++ sorting) columns ∧
      restricted.map Text.trim = Template.restriction block.render spec ∧
      sorting.map Text.trim = (Text.linesOf sort.triple).map Text.trim := by
  have member := ConstraintBlock.Portal.mem_of_resultClass known
  obtain ⟨body, restricted, sorting, columns, finished, lines, restricts, sorts⟩ :=
    @Template.finish_resultSet block.render spec sort window order
      (ConstraintBlock.free_of_compose bare composed)
      (Template.free_classList (bare.classes spec member)) (bare.properties spec member)
      (SortClauses.free_triple sorted fun _ facet _ found =>
        bare.paths spec member facet (List.mem_of_find?_eq_some found)) sorted
  have built : assembler.body (.resultSet resultClass constraints page order) =
      .ok ⟨body, .objects⟩ :=
    bind_eq_ok.mpr ⟨body, (resultSetBody_of_ok known windowed sorted composed).trans
      (mapError_eq_ok.mpr finished), rfl⟩
  exact ⟨_, restricted, sorting, columns, assemble_of_body unchecked built,
    (Portal.linesOf_declarations _ _).trans (congrArg _ lines), restricts, sorts⟩

end

/-- The queries for the number of instances and for a page of them ask for the same instances; both
fail only where their block does. -/
theorem count_and_pages_agree (unchecked : assembler.validates = false)
    (bare : assembler.portal.Bare) (known : assembler.portal.resultClass resultClass = .ok spec)
    (windowed : page.window = .ok window) (sorted : SortClauses.ofOrder spec order = .ok sort)
    (constraints : Option ConstraintSet) :
    (∃ fault,
      ConstraintBlock.compose assembler.portal resultClass constraints "id" = .error fault ∧
      assembler.assemble (.count resultClass constraints) = .error fault ∧
      assembler.assemble (.resultSet resultClass constraints page order) = .error fault) ∨
    ∃ counts lists counted restricted sorting columns,
      assembler.assemble (.count resultClass constraints) = .ok counts ∧
      assembler.assemble (.resultSet resultClass constraints page order) = .ok lists ∧
      Text.linesOf counts.text =
        assembler.portal.declarationLines ++ Template.countLines counted ∧
      Text.linesOf lists.text = assembler.portal.declarationLines ++
        Template.pageLines order.direction sort.clause window.line (restricted ++ sorting) columns ∧
      counted.map Text.trim = restricted.map Text.trim ∧
      sorting.map Text.trim = (Text.linesOf sort.triple).map Text.trim ∧
      (sort.triple = "" ∨ ∃ path,
        sort.triple = "OPTIONAL " ++ Text.braced ("?id " ++ path ++ " ?orderByValue")) := by
  cases composed : ConstraintBlock.compose assembler.portal resultClass constraints "id" with
  | error fault =>
      have counts := countBody_of_error known composed
      have lists := resultSetBody_of_error known windowed sorted composed
      exact .inl ⟨fault, rfl, bind_of_error (bind_of_error counts),
        bind_of_error (bind_of_error lists)⟩
  | ok block =>
      obtain ⟨counts, counted, countsMade, linesCount, restricts⟩ :=
        assemble_count unchecked bare known composed
      obtain ⟨lists, restricted, sorting, columns, listsMade, linesList, restrictsToo, sorts⟩ :=
        assemble_resultSet unchecked bare known windowed sorted composed
      have triple : sort.triple = "" ∨ ∃ path,
          sort.triple = "OPTIONAL " ++ Text.braced ("?id " ++ path ++ " ?orderByValue") :=
        (SortClauses.triple_ofOrder sorted).imp_right
          fun ⟨_, _, named, _, isTriple⟩ => ⟨named.path, isTriple⟩
      exact .inr ⟨counts, lists, counted, restricted, sorting, columns, countsMade, listsMade,
        linesCount, linesList, restricts.trans restrictsToo.symm, sorts, triple⟩

open ConstraintBlock (selection)

/-- The instances of the class of the portal. -/
def labelledClass : ResultClass where
  id := "c"
  rdfClasses := ["ex:C"]
  properties := "?id ex:b ?b__id ."
  defaultSortKey := none
  facets := [(Facet.ofUris "f" "ex:a").withLabelPath "ex:label"]

/-- A portal whose entities are restricted and sorted by the same facet. -/
def labelled : Portal :=
  ⟨[⟨"ex", "http://ex/"⟩], [labelledClass], [], []⟩

theorem bare_labelled : labelled.Bare where
  classes spec member name inside := by
    obtain rfl := List.mem_singleton.mp member
    obtain rfl := List.mem_singleton.mp inside
    decide
  properties spec member := by
    obtain rfl := List.mem_singleton.mp member
    decide
  paths spec member facet inside named found := by
    obtain rfl := List.mem_singleton.mp member
    obtain rfl := List.mem_singleton.mp inside
    have paths : named ∈ [(⟨"predicate", "ex:a"⟩ : NamedPath), ⟨"label path", "ex:label"⟩] := found
    simp only [List.mem_cons, List.not_mem_nil, or_false] at paths
    rcases paths with rfl | rfl
    · exact (by decide : Free "ex:a".toList)
    · exact (by decide : Free "ex:label".toList)

theorem count_and_pages_agree_labelled :
    let assembler : Assembler := ⟨labelled, false⟩
    let order : SortOrder := ⟨some "f", .descending⟩
    labelled.Bare ∧ labelled.resultClass "c" = .ok labelledClass ∧
    Page.window ⟨1, 2⟩ = .ok ⟨2, 2⟩ ∧
    ∃ sort counts lists counted restricted sorting columns,
      SortClauses.ofOrder labelledClass order = .ok sort ∧
      assembler.assemble (.count "c" (selection "f")) = .ok counts ∧
      assembler.assemble (.resultSet "c" (selection "f") ⟨1, 2⟩ order) = .ok lists ∧
      Text.linesOf counts.text = labelled.declarationLines ++ Template.countLines counted ∧
      Text.linesOf lists.text = labelled.declarationLines ++ Template.pageLines .descending
        sort.clause (Window.line ⟨2, 2⟩) (restricted ++ sorting) columns ∧
      counted.map Text.trim = restricted.map Text.trim ∧
      sorting.map Text.trim = ["OPTIONAL \x7b ?id ex:label ?orderByValue \x7d"] := by
  intro assembler order
  let sort := SortClauses.byPath "ex:label" .descending
  have sorted : SortClauses.ofOrder labelledClass order = .ok sort := rfl
  obtain ⟨block, composed⟩ :
      ∃ block, ConstraintBlock.compose labelled "c" (selection "f") "id" = .ok block := ⟨_, rfl⟩
  have agree := count_and_pages_agree (show assembler.validates = false from rfl) bare_labelled
    (show labelled.resultClass "c" = .ok labelledClass from rfl)
    (show Page.window ⟨1, 2⟩ = .ok ⟨2, 2⟩ from rfl) sorted (selection "f")
  rcases agree with ⟨fault, refused, -⟩ | ⟨counts, lists, counted, restricted, sorting, columns,
    countsMade, listsMade, linesCount, linesList, same, sorts, -⟩
  · exact absurd (composed.symm.trans refused) (by simp)
  · have triple : (Text.linesOf sort.triple).map Text.trim =
        ["OPTIONAL \x7b ?id ex:label ?orderByValue \x7d"] := by decide +kernel
    exact ⟨bare_labelled, rfl, rfl, sort, counts, lists, counted, restricted, sorting, columns,
      sorted, countsMade, listsMade, linesCount, linesList, same, sorts.trans triple⟩

end Assembler

end FacetedQuery
