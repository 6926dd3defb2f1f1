import FacetedQuery.Proofs.Assembly.Agreement
import FacetedQuery.Proofs.Page.Window

/-!
# Pages of a sorted result

The pages of a result show its sorted entities one after another, without gap and overlap.  The
queries for them sort twice, in the same way: once to cut out the page, once for its rows.
-/

namespace FacetedQuery

open Outcome (bind_eq_ok)

variable {Id Value : Type}

/-- The pages of a size are the sorted entities, cut into pieces. -/
structure Tiled [LinearOrder Id] (ranking : Ranking Value) (keys : List SortKey)
    (entities : List (RankedEntity Id Value)) (size : UInt64) : Prop where
  /-- The pages follow each other up to the last one that has a window. -/
  pages : Page.allRows size (SortKey.sorted ranking keys entities) =
    (SortKey.sorted ranking keys entities).take (Page.reach size)
  reaches : UInt64.size ≤ Page.reach size
  /-- Every entity is shown once, if the rows can be numbered. -/
  once : entities.length ≤ UInt64.size →
    (Page.allRows size (SortKey.sorted ranking keys entities)).Perm entities
  /-- The order in which the entities are found does not matter. -/
  arranged : ∀ others : List (RankedEntity Id Value), others.Perm entities →
    SortKey.sorted ranking keys others = SortKey.sorted ranking keys entities
  onPage : ∀ row < UInt64.size,
    ∃! number : UInt64, ∃ window, Page.window ⟨number, size⟩ = .ok window ∧ window.Holds row

theorem tiled_of_distinct [LinearOrder Id] (ranking : Ranking Value) {keys : List SortKey}
    (member : .id ∈ keys) {entities : List (RankedEntity Id Value)}
    (distinct : (entities.map (·.id)).Nodup) {size : UInt64} (nonzero : size ≠ 0) :
    Tiled ranking keys entities size where
  pages := Page.allRows_eq_take nonzero _
  reaches := Page.le_reach nonzero
  once few := by
    have arrangement : (SortKey.sorted ranking keys entities).Perm entities :=
      SortKey.sorted_perm keys entities
    rw [Page.allRows_eq_self nonzero (arrangement.length_eq.trans_le few)]
    exact arrangement
  arranged _ arranged := SortKey.sorted_eq_of_perm member distinct arranged
  onPage _ numbered := Page.existsUnique_holds nonzero numbered

namespace Assembler

variable {assembler : Assembler} {resultClass : String} {constraints : Option ConstraintSet}
  {page : Page} {order : SortOrder}

/-- The lines of an assembled page: both of its order clauses are the one of the order, and its
aggregate is the one of the direction. -/
theorem linesOf_assembled {query : AssembledQuery}
    (assembled : assembler.assemble (.resultSet resultClass constraints page order) = .ok query) :
    ∃ spec sort window instances columns,
      assembler.portal.resultClass resultClass = .ok spec ∧
      SortClauses.ofOrder spec order = .ok sort ∧ page.window = .ok window ∧
      Text.linesOf query.text = assembler.portal.declarationLines ++
        Template.pageLines order.direction sort.clause window.line instances columns := by
  obtain ⟨bodied, made, -, rfl⟩ := assemble_eq_ok.mp assembled
  obtain ⟨body, built, isBodied⟩ := bind_eq_ok.mp made
  obtain rfl : AssembledQuery.mk body .objects = bodied := Except.ok.inj isBodied
  obtain ⟨spec, window, sort, block, known, windowed, sorted, finished⟩ :=
    exists_of_resultSetBody built
  have lines := Template.linesOf_resultSet sorted rfl rfl rfl finished
  exact ⟨spec, sort, window, _, _, known, sorted, windowed,
    (Portal.linesOf_declarations _ _).trans (congrArg _ lines)⟩

end Assembler

/-- However a result is sorted, its pages show the sorted entities one after another, those without
a value behind all others.  A page has a window if it has rows and its first row can be numbered.
Every query for a page sorts its entities and its rows by the same clause, which lists the keys, and
sorts an entity by its least value in an ascending order and by its greatest in a descending one. -/
theorem pages_tile_sorted_result [LinearOrder Id] (ranking : Ranking Value) (order : SortOrder) :
    (∀ (spec : ResultClass) (sort : SortClauses), SortClauses.ofOrder spec order = .ok sort →
      sort.clause = "ORDER BY " ++ Text.join " " ((order.keys spec).map SortKey.render) ∧
      ∀ entities : List (RankedEntity Id Value), (entities.map (·.id)).Nodup →
        (∀ size : UInt64, size ≠ 0 → Tiled ranking (order.keys spec) entities size) ∧
        (order.key.or spec.defaultSortKey ≠ none →
          (SortKey.sorted ranking (order.keys spec) entities).Pairwise fun first second =>
            second.value.isSome = true → first.value.isSome = true)) ∧
    (∀ page : Page, (∃ fault, page.window = .error fault) ↔
      page.size = 0 ∨ UInt64.size ≤ page.number.toNat * page.size.toNat) ∧
    ∀ (assembler : Assembler) (resultClass : String) (constraints : Option ConstraintSet)
      (page : Page) (query : AssembledQuery),
      assembler.assemble (.resultSet resultClass constraints page order) = .ok query →
      ∃ spec sort window instances columns,
        assembler.portal.resultClass resultClass = .ok spec ∧
        SortClauses.ofOrder spec order = .ok sort ∧ page.window = .ok window ∧
        Text.linesOf query.text = assembler.portal.declarationLines ++
          Template.pageLines order.direction sort.clause window.line instances columns := by
  refine ⟨fun spec sort made => ⟨SortClauses.clause_ofOrder made,
    fun entities distinct => ⟨?_, ?_⟩⟩, fun page => Page.window_eq_error_iff,
    fun assembler resultClass constraints page query => Assembler.linesOf_assembled⟩
  · exact fun size nonzero => tiled_of_distinct ranking (order.id_mem_keys spec) distinct nonzero
  · intro applies
    obtain ⟨keys, isKeys⟩ := SortOrder.exists_keys applies
    rw [isKeys]
    exact SortKey.valued_first keys entities

/-- Numbers in their order. -/
def Ranking.naturals : Ranking Nat where
  le first second := decide (first ≤ second)
  total first second := by simpa using le_total first second
  trans lower upper := by simpa using le_trans (of_decide_eq_true lower) (of_decide_eq_true upper)

open Assembler (bare_labelled labelled labelledClass) in
/-- Three entities on two pages, the one without a value on the second. -/
theorem pages_tile_sorted_result_three :
    let order : SortOrder := ⟨some "f", .descending⟩
    let entities : List (RankedEntity Nat Nat) := [⟨0, none⟩, ⟨1, some 3⟩, ⟨2, some 5⟩]
    ∃ sort query, SortClauses.ofOrder labelledClass order = .ok sort ∧
      (entities.map RankedEntity.id).Nodup ∧ (2 : UInt64) ≠ 0 ∧
      order.key.or labelledClass.defaultSortKey ≠ none ∧
      Assembler.assemble ⟨labelled, false⟩ (.resultSet "c" none ⟨1, 2⟩ order) = .ok query ∧
      Tiled Ranking.naturals (order.keys labelledClass) entities 2 ∧
      (SortKey.sorted Ranking.naturals (order.keys labelledClass) entities).Pairwise
        (fun first second => second.value.isSome = true → first.value.isSome = true) ∧
      ∃ instances columns, Text.linesOf query.text = labelled.declarationLines ++
        Template.pageLines .descending sort.clause (Window.line ⟨2, 2⟩) instances columns := by
  intro order entities
  let sort := SortClauses.byPath "ex:label" .descending
  have made : SortClauses.ofOrder labelledClass order = .ok sort := rfl
  have distinct : (entities.map RankedEntity.id).Nodup := by decide
  have nonzero : (2 : UInt64) ≠ 0 := by decide
  have applies : order.key.or labelledClass.defaultSortKey ≠ none := by decide
  have windowed : Page.window ⟨1, 2⟩ = .ok ⟨2, 2⟩ := rfl
  obtain ⟨query, -, -, -, assembled, -⟩ :=
    @Assembler.assemble_resultSet ⟨labelled, false⟩ "c" none labelledClass ⟨1, 2⟩ order ⟨2, 2⟩ sort
      .empty rfl bare_labelled rfl windowed made rfl
  obtain ⟨results, -, queries⟩ := @pages_tile_sorted_result Nat Nat _ Ranking.naturals order
  obtain ⟨-, tiles⟩ := results labelledClass sort made
  obtain ⟨tiled, valued⟩ := tiles entities distinct
  obtain ⟨spec, other, window, instances, columns, known, ordered, cut, lines⟩ :=
    queries ⟨labelled, false⟩ "c" none ⟨1, 2⟩ query assembled
  obtain rfl : labelledClass = spec := Except.ok.inj known
  obtain rfl : sort = other := Except.ok.inj (made.symm.trans ordered)
  obtain rfl : ⟨2, 2⟩ = window := Except.ok.inj (windowed.symm.trans cut)
  exact ⟨sort, query, made, distinct, nonzero, applies, assembled, tiled 2 nonzero, valued applies,
    instances, columns, lines⟩

end FacetedQuery
