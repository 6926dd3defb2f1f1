import FacetedQuery.Proofs.Assembly.Outcomes
import FacetedQuery.Proofs.Page.Order
import FacetedQuery.Proofs.Template.Lines

/-!
# The lines of counts and pages

Which lines the queries of all classes have.  The lines around the block, the properties and the
sort triple do not depend on the portal, whatever the values hold.
-/

namespace FacetedQuery

open Outcome (bind_eq_ok bind_of_error bind_of_ok mapError_eq_ok)
open Template (filledLines fillAll)

namespace Portal

/-- The lines that stand in front of every query. -/
def declarationLines (portal : Portal) : List String :=
  portal.prefixes.flatMap fun declaration =>
    Text.linesOf ("PREFIX " ++ declaration.name ++ ": <" ++ declaration.iri ++ ">")

theorem linesOf_declarations (portal : Portal) (body : String) :
    Text.linesOf (portal.prefixDeclarations ++ body) =
      portal.declarationLines ++ Text.linesOf body := by
  unfold prefixDeclarations declarationLines
  induction portal.prefixes with
  | nil => simp
  | cons declaration declarations induction =>
      have split :
          String.join ((declaration :: declarations).map PrefixDeclaration.render) ++ body =
            ("PREFIX " ++ declaration.name ++ ": <" ++ declaration.iri ++ ">") ++ "\n" ++
            (String.join (declarations.map PrefixDeclaration.render) ++ body) := by
        simp [PrefixDeclaration.render, String.append_assoc]
      rw [split, Text.linesOf_append_feed, induction, List.flatMap_cons, List.append_assoc]

end Portal

open Template (Fixed)

theorem SortClauses.fixed_clause {spec : ResultClass} {order : SortOrder} {sort : SortClauses}
    (made : ofOrder spec order = .ok sort) {indentation : String}
    (indented : indentation = "" ∨ indentation = "    ") : Fixed (indentation ++ sort.clause) := by
  rw [clause_ofOrder made]
  unfold SortOrder.keys
  split
  · rcases indented with rfl | rfl <;> decide +kernel
  · cases order.direction <;> rcases indented with rfl | rfl <;> decide +kernel

theorem Window.fixed_line (window : Window) : Fixed ("    " ++ window.line) where
  plain := by
    have digits : ∀ number : Nat, '<' ∉ Decimal.digits number := fun number member =>
      absurd (Decimal.isDigit_of_mem_digits member) (by decide)
    simp [line, Decimal.natural, digits]
  onLine := by simpa using window.spelled.line
  closed := by
    rw [String.toList_append]
    exact window.closed.behind (by simp [line]) _

namespace Template

/-- The values of a count in the order in which they are filled in. -/
def countFills (block : String) (spec : ResultClass) : List (Placeholder × List Char) :=
  [(.facetClass, spec.classList.toList), (.filter, block.toList)]

/-- The lines of a count around those that tell what is counted. -/
def countLines (instances : List String) : List String :=
  ["SELECT (COUNT(DISTINCT ?id) AS ?count)", "WHERE \x7b"] ++ instances ++ ["\x7d"]

/-- The line that picks the value by which an entity is sorted: the least one of an ascending order,
the greatest one of a descending order. -/
def selectLine : SortDirection → String
  | .ascending => "    SELECT ?id (MIN(?orderByValue) AS ?orderBy)"
  | .descending => "    SELECT ?id (MAX(?orderByValue) AS ?orderBy)"

theorem selectLine_eq (direction : SortDirection) :
    "    SELECT ?id (" ++ SortClauses.aggregate direction ++ "(?orderByValue) AS ?orderBy)" =
      selectLine direction := by
  cases direction <;> rfl

theorem fixed_selectLine (direction : SortDirection) :
    Fixed ("    SELECT ?id (" ++ SortClauses.aggregate direction ++
      "(?orderByValue) AS ?orderBy)") := by
  cases direction <;> decide +kernel

/-- The lines of a page around those that tell what stands on it. -/
def pageLines (direction : SortDirection) (clause limits : String)
    (instances columns : List String) : List String :=
  ["SELECT *", "WHERE \x7b", "  \x7b", selectLine direction, "    WHERE \x7b"] ++ instances ++
  ["    \x7d", "    GROUP BY ?id", "    " ++ clause, "    " ++ limits, "  \x7d",
    "  FILTER(BOUND(?id))"] ++ columns ++ ["\x7d", clause]

/-- What the instances of a class satisfy, behind an indentation. -/
def instanceLines (indentation : String) : List String :=
  instancePatterns.map (indentation ++ ·)

theorem countQuery_eq :
    countQuery = Text.join "\n" (["SELECT (COUNT(DISTINCT ?id) AS ?count)", "WHERE \x7b"] ++
      instanceLines "  " ++ ["\x7d"]) :=
  rfl

theorem resultSetQuery_eq :
    resultSetQuery = Text.join "\n" (["SELECT *", "WHERE \x7b", "  \x7b"] ++
      ["    SELECT ?id (<ORDER_BY_AGGREGATE>(?orderByValue) AS ?orderBy)"] ++ ["    WHERE \x7b"] ++
      (instanceLines "      " ++ ["      <ORDER_BY_TRIPLE>"]) ++ ["    \x7d", "    GROUP BY ?id"] ++
      ["    <ORDER_BY>"] ++ ["    <PAGE>"] ++ ["  \x7d", "  FILTER(BOUND(?id))"] ++
      ["  <RESULT_SET_PROPERTIES>"] ++ ["\x7d"] ++ ["<ORDER_BY>"]) := by
  refine congrArg (Text.join "\n") ?_
  simp [pageOfIds, instanceLines, instancePatterns, Text.groupLines, Text.braced, Text.openBrace,
    Text.closeBrace]

section

variable {fills : List (Placeholder × List Char)} {name body : String} {spec : ResultClass}
  {order : SortOrder} {sort : SortClauses} {window : Window}

/-- The lines of a finished count. -/
theorem linesOf_count (finished : finish ⟨name, fillAll fills countQuery.toList⟩ = .ok body) :
    Text.linesOf body = countLines ((instanceLines "  ").flatMap (filledLines fills)) := by
  obtain ⟨-, rfl⟩ := finish_eq_ok.mp finished
  have closing : fillAll fills "\x7d".toList = "\x7d".toList :=
    fillAll_of_free (free_of_not_mem (by decide)) fills
  have head : ["SELECT (COUNT(DISTINCT ?id) AS ?count)", "WHERE \x7b"].flatMap (filledLines fills) =
      ["SELECT (COUNT(DISTINCT ?id) AS ?count)", "WHERE \x7b"] := flatMap_fixed (by decide)
  rw [countQuery_eq, linesOf_strip closing (by decide) (by decide) (by decide),
    List.flatMap_append, head]
  rfl

/-- The lines of a finished page. -/
theorem linesOf_resultSet (made : SortClauses.ofOrder spec order = .ok sort)
    (aggregate : fills.lookup .orderByAggregate =
      some (SortClauses.aggregate order.direction).toList)
    (clause : fills.lookup .orderBy = some sort.clause.toList)
    (limits : fills.lookup .page = some window.line.toList)
    (finished : finish ⟨name, fillAll fills resultSetQuery.toList⟩ = .ok body) :
    Text.linesOf body = pageLines order.direction sort.clause window.line
      ((instanceLines "      " ++ ["      <ORDER_BY_TRIPLE>"]).flatMap (filledLines fills))
      (filledLines fills "  <RESULT_SET_PROPERTIES>") := by
  obtain ⟨-, rfl⟩ := finish_eq_ok.mp finished
  have fixed : Fixed sort.clause := by simpa using SortClauses.fixed_clause made (.inl rfl)
  have nonempty : sort.clause ≠ "" := by
    rw [SortClauses.clause_ofOrder made]
    exact fun nothing => by simpa using congrArg String.toList nothing
  have closing : fillAll fills "<ORDER_BY>".toList = sort.clause.toList := by
    simpa using fillAll_value clause (show "<ORDER_BY>" = "" ++ Placeholder.orderBy.token ++ "" by
      decide) (by decide) (by decide) (by simpa using fixed)
  have select :
      filledLines fills "    SELECT ?id (<ORDER_BY_AGGREGATE>(?orderByValue) AS ?orderBy)" =
        [selectLine order.direction] :=
    (filledLines_value aggregate (by decide) (by decide) (by decide) (fixed_selectLine _)).trans
      (congrArg (fun line => [line]) (selectLine_eq order.direction))
  have ordered : filledLines fills "    <ORDER_BY>" = ["    " ++ sort.clause] :=
    filledLines_slot clause (by decide) (by decide) (SortClauses.fixed_clause made (.inr rfl))
  have limited : filledLines fills "    <PAGE>" = ["    " ++ window.line] :=
    filledLines_slot limits (by decide) (by decide) window.fixed_line
  have head : ["SELECT *", "WHERE \x7b", "  \x7b"].flatMap (filledLines fills) = _ :=
    flatMap_fixed (by decide)
  have start : filledLines fills "    WHERE \x7b" = _ := filledLines_fixed (by decide)
  have grouped : ["    \x7d", "    GROUP BY ?id"].flatMap (filledLines fills) = _ :=
    flatMap_fixed (by decide)
  have bound : ["  \x7d", "  FILTER(BOUND(?id))"].flatMap (filledLines fills) = _ :=
    flatMap_fixed (by decide)
  have final : filledLines fills "\x7d" = _ := filledLines_fixed (by decide)
  rw [resultSetQuery_eq, linesOf_strip closing fixed.onLine fixed.closed nonempty]
  simp only [List.flatMap_append, List.flatMap_singleton, head, start, grouped, bound, select,
    ordered, limited, final, pageLines]
  simp only [List.append_assoc, List.cons_append, List.nil_append]

end

end Template

namespace Assembler

variable {assembler : Assembler} {resultClass : String} {constraints : Option ConstraintSet}
  {spec : ResultClass} {page : Page} {order : SortOrder} {window : Window} {sort : SortClauses}

theorem countBody_of_error {fault : Fault}
    (known : assembler.portal.resultClass resultClass = .ok spec)
    (refused : ConstraintBlock.compose assembler.portal resultClass constraints "id" =
      .error fault) :
    assembler.countBody resultClass constraints = .error fault :=
  (bind_of_ok (mapError_eq_ok.mpr known)).trans (bind_of_error (fillFilter_of_error refused _))

theorem countBody_of_ok {block : ConstraintBlock}
    (known : assembler.portal.resultClass resultClass = .ok spec)
    (composed : ConstraintBlock.compose assembler.portal resultClass constraints "id" =
      .ok block) :
    assembler.countBody resultClass constraints = configured (Template.finish ⟨"count",
      fillAll (Template.countFills block.render spec) Template.countQuery.toList⟩) := by
  refine (bind_of_ok (mapError_eq_ok.mpr known)).trans
    ((bind_of_ok (fillFilter_of_ok composed _)).trans ?_)
  rw [Template.ofText_eq Template.starts_countQuery, Template.fill_fillAll, Template.fill_fillAll]
  rfl

theorem resultSetBody_of_error {fault : Fault}
    (known : assembler.portal.resultClass resultClass = .ok spec)
    (windowed : page.window = .ok window) (sorted : SortClauses.ofOrder spec order = .ok sort)
    (refused : ConstraintBlock.compose assembler.portal resultClass constraints "id" =
      .error fault) :
    assembler.resultSetBody resultClass constraints page order = .error fault :=
  (bind_of_ok (mapError_eq_ok.mpr known)).trans <|
    (bind_of_ok (mapError_eq_ok.mpr windowed)).trans <|
      (bind_of_ok (mapError_eq_ok.mpr sorted)).trans
        (bind_of_error (fillFilter_of_error refused _))

theorem resultSetBody_of_ok {block : ConstraintBlock}
    (known : assembler.portal.resultClass resultClass = .ok spec)
    (windowed : page.window = .ok window) (sorted : SortClauses.ofOrder spec order = .ok sort)
    (composed : ConstraintBlock.compose assembler.portal resultClass constraints "id" =
      .ok block) :
    assembler.resultSetBody resultClass constraints page order =
      configured (Template.finish ⟨"result set",
        fillAll (Template.pageFills block.render spec order.direction sort window)
          Template.resultSetQuery.toList⟩) := by
  refine (bind_of_ok (mapError_eq_ok.mpr known)).trans <|
    (bind_of_ok (mapError_eq_ok.mpr windowed)).trans <|
      (bind_of_ok (mapError_eq_ok.mpr sorted)).trans <|
        (bind_of_ok (fillFilter_of_ok composed _)).trans ?_
  dsimp only
  rw [Template.ofText_eq Template.starts_resultSetQuery]
  simp only [Template.fill_fillAll]
  rfl

/-- A page is made of an accepted class, page and order, and of a block. -/
theorem exists_of_resultSetBody {body : String}
    (built : assembler.resultSetBody resultClass constraints page order = .ok body) :
    ∃ spec window sort block, assembler.portal.resultClass resultClass = .ok spec ∧
      page.window = .ok window ∧ SortClauses.ofOrder spec order = .ok sort ∧
      Template.finish ⟨"result set",
        fillAll (Template.pageFills block spec order.direction sort window)
          Template.resultSetQuery.toList⟩ = .ok body := by
  obtain ⟨spec, found, behindClass⟩ := bind_eq_ok.mp built
  obtain ⟨window, cut, behindWindow⟩ := bind_eq_ok.mp behindClass
  obtain ⟨sort, ordered, behindOrder⟩ := bind_eq_ok.mp behindWindow
  obtain ⟨template, filled, -⟩ := bind_eq_ok.mp behindOrder
  obtain ⟨block, composed, -⟩ := bind_eq_ok.mp filled
  have known := mapError_eq_ok.mp found
  have windowed := mapError_eq_ok.mp cut
  have sorted := mapError_eq_ok.mp ordered
  have finished := (resultSetBody_of_ok known windowed sorted composed).symm.trans built
  exact ⟨spec, window, sort, block.render, known, windowed, sorted, mapError_eq_ok.mp finished⟩

end Assembler

end FacetedQuery
