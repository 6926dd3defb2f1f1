import FacetedQuery.Proofs.Assembly.Pages
import FacetedQuery.Proofs.ConstraintBlock.Injection
import FacetedQuery.Proofs.Template.Places

/-!
# Queries without constraints

Without an active constraint a comment takes the place of the filter.  The rest of the line belongs
to it, so that the query of a listing or of a lookup is the one without the filter only if nothing
but white space and comments stands behind the filter on its line.
-/

namespace FacetedQuery

open ConstraintBlock (active)
open Outcome (bind_eq_ok mapError_eq_ok)
open Rdf (Iri)
open Sparql (Token)
open Template (IsNote Places)

namespace Template

theorem isNote_noFilters : IsNote ConstraintBlock.empty.render.toList where
  starts := ⟨"no filters".toList, by decide +kernel⟩
  closed := by decide +kernel
  plain := by decide +kernel

theorem feed_not_mem_iri (iri : Iri) : '\n' ∉ iri.render.toList := by
  have noFeed : '\n' ∉ iri.text.toList := fun member =>
    absurd (iri.enclosable '\n' member) (by decide)
  simpa [Iri.render] using noFeed

section

variable {placeholder other : Placeholder} {value note : List Char}

/-- A value that starts with a character that no name of a placeholder holds completes none. -/
theorem opens_token_of_replace {first character : Char} {body text : List Char}
    (onLine : '\n' ∉ first :: body) (apart : first = '#' ∨ first = '<')
    (starts : placeholder.token.toList.isPrefixOf
      (character :: replace other.token.toList (first :: body) [] 0 text) = true) :
    placeholder.token.toList.isPrefixOf (character :: text) = true := by
  obtain ⟨initial, name, token, upper, inside⟩ := exists_token placeholder
  rw [token, List.isPrefixOf_iff_prefix, List.cons_prefix_cons] at starts ⊢
  refine ⟨starts.1, prefix_of_prefix_replace onLine ?_ starts.2⟩
  have outside : isInside first = false := by
    rcases apart with rfl | rfl <;> decide
  intro member
  simp [isInside_of_mem upper inside first member] at outside

theorem replace_of_not_isPrefixOf {character : Char} {text : List Char}
    (onLine : '\n' ∉ value)
    (absent : ¬placeholder.token.toList.isPrefixOf (character :: text) = true) :
    replace placeholder.token.toList value [] 0 (character :: text) =
      character :: replace placeholder.token.toList value [] 0 text := by
  rw [replace_cons, if_neg absent, replace_line onLine]

theorem replace_token_append (onLine : '\n' ∉ value) (after : List Char) :
    replace placeholder.token.toList value [] 0 (placeholder.token.toList ++ after) =
      value ++ replace placeholder.token.toList value [] 0 after := by
  rw [replace_token, inserted_of_line onLine, replace_line onLine]

theorem replace_other_append (apart : other ≠ placeholder) (onLine : '\n' ∉ value)
    (after : List Char) :
    replace placeholder.token.toList value [] 0 (other.token.toList ++ after) =
      other.token.toList ++ replace placeholder.token.toList value [] 0 after := by
  rw [replace_other apart, replace_line onLine]

/-- A comment and an IRI may be filled in one after the other in any order. -/
theorem replace_comm (apart : placeholder ≠ other) (isNote : IsNote note) (iri : Iri)
    (text : List Char) :
    replace other.token.toList iri.render.toList [] 0
        (replace placeholder.token.toList note [] 0 text) =
      replace placeholder.token.toList note [] 0
        (replace other.token.toList iri.render.toList [] 0 text) := by
  have onLine := isNote.onLine
  have onLineIri := feed_not_mem_iri iri
  -- Where neither token stands, putting in one value completes no token of the other placeholder:
  -- both values start with a character that is in no token behind its first one.
  induction length : text.length using Nat.strongRecOn generalizing text with
  | ind length induction =>
      subst length
      by_cases first : placeholder.token.toList.isPrefixOf text = true
      · obtain ⟨after, rfl⟩ := List.isPrefixOf_iff_prefix.mp first
        have plain : '<' ∉ note := fun member => (isNote.plain _ member).2.1 rfl
        have shorter := List.length_pos_iff.mpr (token_ne_nil placeholder)
        rw [replace_token_append onLine, replace_plain plain, replace_line onLineIri,
          replace_other_append apart onLineIri, replace_token_append onLine,
          induction after.length (by simp; omega) after rfl]
      · by_cases second : other.token.toList.isPrefixOf text = true
        · obtain ⟨after, rfl⟩ := List.isPrefixOf_iff_prefix.mp second
          have shorter := List.length_pos_iff.mpr (token_ne_nil other)
          rw [replace_other_append apart.symm onLine, replace_token_append onLineIri,
            replace_token_append onLineIri, replace_iri, replace_line onLine (continueLine _ _),
            induction after.length (by simp; omega) after rfl]
        · cases text with
          | nil => rfl
          | cons character text =>
              obtain ⟨body, rfl⟩ := isNote.starts
              have rendered : iri.render.toList = '<' :: (iri.text.toList ++ ['>']) := by
                simp [Iri.render]
              rw [rendered] at onLineIri induction ⊢
              rw [replace_of_not_isPrefixOf onLine first, replace_of_not_isPrefixOf onLineIri
                fun starts => second (opens_token_of_replace onLine (.inl rfl) starts),
                replace_of_not_isPrefixOf onLineIri second, replace_of_not_isPrefixOf onLine
                fun starts => first (opens_token_of_replace onLineIri (.inr rfl) starts),
                induction text.length (by simp) text rfl]

end

end Template

/-- The template of a listing or of a lookup, with everything but the constraints filled in. -/
inductive Assembler.Prepares (assembler : Assembler) : Request → Template → Prop where
  | listing {resultClass : String} {requested : Option String} {constraints : Option ConstraintSet}
      {groupBy : Bool} {route : ListingRoute} {template : Template} :
      assembler.portal.listing resultClass = .ok route →
      Assembler.listingTemplate resultClass (route.variant groupBy).query = .ok template →
      assembler.Prepares (.listing resultClass requested constraints groupBy) template
  | lookup {resultClass uri : String} {requested : Option String}
      {constraints : Option ConstraintSet} {route : LookupRoute} {iri : Iri} :
      assembler.portal.lookup resultClass = .ok route → Iri.ofText uri = .ok iri →
      assembler.Prepares (.lookup resultClass requested constraints uri)
        (Template.ofText resultClass Template.instanceQuery
          |>.fill .properties route.properties
          |>.fill .relatedInstances route.relatedInstances
          |>.fill .id iri.render)

namespace Assembler

variable {assembler : Assembler} {request : Request} {template : Template}

theorem compose_of_inactive {portal : Portal} {facetClass filterTarget : String}
    {constraints : Option ConstraintSet} (nothing : active constraints = []) :
    ConstraintBlock.compose portal facetClass constraints filterTarget = .ok .empty :=
  ConstraintBlock.compose_eq_ok.mpr (.inl ⟨nothing, rfl⟩)

/-- Without an active constraint the template is filled with a comment. -/
theorem Prepares.body (prepares : assembler.Prepares request template)
    (nothing : active request.constraints = []) {text : String}
    (finished : (template.fill .filter ConstraintBlock.empty.render).finish = .ok text) :
    ∃ shape, assembler.body request = .ok ⟨text, shape⟩ := by
  cases prepares with
  | @listing resultClass requested constraints groupBy route _ routed made =>
      have composed := @compose_of_inactive assembler.portal
        (facetClass requested route.facetClass resultClass) route.filterTarget _ nothing
      have built : assembler.listingBody route resultClass requested constraints groupBy =
          .ok text :=
        bind_eq_ok.mpr ⟨template, mapError_eq_ok.mpr made, bind_eq_ok.mpr
          ⟨_, fillFilter_of_ok composed template, mapError_eq_ok.mpr finished⟩⟩
      exact ⟨_, bind_eq_ok.mpr ⟨route, mapError_eq_ok.mpr routed,
        bind_eq_ok.mpr ⟨text, built, rfl⟩⟩⟩
  | @lookup resultClass uri requested constraints route iri routed read =>
      have composed := @compose_of_inactive assembler.portal
        (facetClass requested route.facetClass resultClass) "related__id" _ nothing
      have swapped : ∀ template : Template,
          (template.fill .filter ConstraintBlock.empty.render).fill .id iri.render =
            (template.fill .id iri.render).fill .filter ConstraintBlock.empty.render := by
        intro template
        simp only [Template.fill]
        rw [Template.replace_comm (by decide) Template.isNote_noFilters]
      have built : assembler.lookupBody resultClass requested constraints uri = .ok text :=
        bind_eq_ok.mpr ⟨route, mapError_eq_ok.mpr routed, bind_eq_ok.mpr ⟨iri,
          mapError_eq_ok.mpr read, bind_eq_ok.mpr ⟨_, fillFilter_of_ok composed _,
            mapError_eq_ok.mpr (by rw [swapped]; exact finished)⟩⟩⟩
      exact ⟨_, bind_eq_ok.mpr ⟨text, built, rfl⟩⟩

/-- Leaving out the second of each two lists changes nothing only if they are empty. -/
theorem flatMap_first_eq_iff (groups : List (List Token × List Token)) :
    groups.flatMap (·.1) = groups.flatMap (fun group => group.1 ++ group.2) ↔
      ∀ group ∈ groups, group.2 = [] := by
  have fewer : ∀ groups : List (List Token × List Token), (groups.flatMap (·.1)).length ≤
      (groups.flatMap fun group => group.1 ++ group.2).length := by
    intro groups
    induction groups with
    | nil => exact Nat.le_refl _
    | cons group groups induction =>
        simp only [List.flatMap_cons, List.length_append]
        omega
  induction groups with
  | nil => simp
  | cons group groups induction =>
      simp only [List.flatMap_cons, List.append_assoc, List.append_cancel_left_eq,
        List.forall_mem_cons, ← induction]
      constructor
      · intro same
        have lengths := congrArg List.length same
        have short := fewer groups
        rw [List.length_append] at lengths
        obtain empty : group.2 = [] := List.eq_nil_of_length_eq_zero (by omega)
        exact ⟨empty, by simpa [empty] using same⟩
      · rintro ⟨empty, same⟩
        rw [empty, List.nil_append, same]

/-- Without an active constraint the query of a listing or of a lookup lacks all tokens that stand
behind a place of the filter on the same line.  It is the query without the filter only if there are
none. -/
theorem absent_filter_takes_rest_of_line (prepares : assembler.Prepares request template)
    {groups : List (List Token × List Token)} (places : Places .filter template.text groups)
    (nothing : active request.constraints = []) :
    ∃ body deleted, assembler.body request = .ok body ∧
      (template.fill .filter "").finish = .ok deleted ∧
      Token.tokens? body.text.toList = some (groups.flatMap (·.1)) ∧
      Token.tokens? deleted.toList = some (groups.flatMap fun group => group.1 ++ group.2) ∧
      (Token.tokens? body.text.toList = Token.tokens? deleted.toList ↔
        ∀ group ∈ groups, group.2 = []) ∧
      ∀ query, assembler.assemble request = .ok query →
        query.text = assembler.portal.prefixDeclarations ++ body.text := by
  obtain ⟨freeFilled, readFilled⟩ := places.commented Template.isNote_noFilters []
  obtain ⟨freeDeleted, readDeleted⟩ := places.deleted []
  obtain ⟨shape, built⟩ := prepares.body nothing (Template.finish_of_free freeFilled)
  have tokensFilled : ∀ text : List Char, Sparql.Token.lex (Token.unescape text) =
      Token.tokens? (String.ofList text).toList := by
    intro text
    rw [Token.tokens?_eq_lex, String.toList_ofList]
  rw [tokensFilled] at readFilled readDeleted
  refine ⟨_, _, built, Template.finish_of_free freeDeleted, readFilled, readDeleted, ?_, ?_⟩
  · exact (Eq.congr readFilled readDeleted).trans
      (Option.some_inj.trans (flatMap_first_eq_iff groups))
  · intro query assembled
    obtain ⟨body, again, -, rfl⟩ := assemble_eq_ok.mp assembled
    obtain rfl := Except.ok.inj (built.symm.trans again)
    rfl

def crossedTemplate : String :=
  "SELECT ?id WHERE \x7b\n  ?id a ex:A . <FILTER> ?id a ex:B .\n\x7d"

/-- A portal of one listing, in whose template a pattern follows the filter on its line. -/
def crossed : Assembler where
  portal :=
    { prefixes := [⟨"ex", "http://ex/"⟩]
      resultClasses := [⟨"c", ["ex:A"], "", none, []⟩]
      listings := [⟨"c", none, "id", ⟨.plain crossedTemplate, .objects⟩, none⟩]
      lookups := [] }
  validates := true

theorem crossed_prepares :
    crossed.Prepares (.listing "c" none none false) (Template.ofText "c" crossedTemplate) :=
  .listing rfl rfl

/-- The pattern behind the filter is lost. -/
theorem absent_filter_takes_rest_of_line_crossed :
    ∃ body deleted, crossed.body (.listing "c" none none false) = .ok body ∧
      ((Template.ofText "c" crossedTemplate).fill .filter "").finish = .ok deleted ∧
      Token.tokens? body.text.toList = some
        [.word "SELECT", .var "id", .word "WHERE", .mark .openBrace, .var "id", .word "a",
          .name (.prefixed "ex" "A"), .mark .dot, .mark .closeBrace] := by
  have places : Places .filter (Template.ofText "c" crossedTemplate).text
      [([.word "SELECT", .var "id", .word "WHERE", .mark .openBrace, .var "id", .word "a",
          .name (.prefixed "ex" "A"), .mark .dot],
        [.var "id", .word "a", .name (.prefixed "ex" "B"), .mark .dot]),
        ([.mark .closeBrace], [])] := by
    have text : (Template.ofText "c" crossedTemplate).text =
        "SELECT ?id WHERE \x7b\n  ?id a ex:A .".toList ++ [' '] ++
          Placeholder.filter.token.toList ++ (Text.joinChars Placeholder.filter.token.toList
            [" ?id a ex:B .".toList] ++ "\n\x7d".toList) := by
      decide +kernel
    rw [text]
    have rest : Places .filter "\n\x7d".toList [([.mark .closeBrace], [])] :=
      .last (by decide +kernel) (by decide +kernel)
    refine .place (by decide +kernel) (by decide +kernel) (.inr (by decide +kernel)) ?_ (by simp)
      ?_ (.code ?_) (by decide +kernel) (by simp [Text.LineRest]) rest
    · exact Token.spells_of_lex (by decide +kernel) (by decide +kernel)
    · intro piece member
      obtain rfl := List.mem_singleton.mp member
      exact ⟨by decide +kernel, by decide +kernel⟩
    · exact Token.spells_of_lex (by decide +kernel) (by decide +kernel)
  obtain ⟨body, deleted, built, finished, tokens, -⟩ :=
    absent_filter_takes_rest_of_line crossed_prepares places rfl
  exact ⟨body, deleted, built, finished, tokens⟩

/-- A query without constraints that is valid and lacks a pattern of its template. -/
theorem exists_lost_pattern :
    ∃ query deleted, crossed.Prepares (.listing "c" none none false)
        (Template.ofText "c" crossedTemplate) ∧
      crossed.assemble (.listing "c" none none false) = .ok query ∧
      ((Template.ofText "c" crossedTemplate).fill .filter "").finish = .ok deleted ∧
      Token.tokens? query.text.toList ≠
        Token.tokens? (crossed.portal.prefixDeclarations ++ deleted).toList := by
  have declarations : crossed.portal.prefixDeclarations = "PREFIX ex: <http://ex/>\n" := by
    decide +kernel
  have body : crossed.body (.listing "c" none none false) =
      .ok ⟨"SELECT ?id WHERE \x7b\n  ?id a ex:A . # no filters ?id a ex:B .\n\x7d", .objects⟩ := by
    decide +kernel
  have read : Token.tokens? ("PREFIX ex: <http://ex/>\n" ++
      "SELECT ?id WHERE \x7b\n  ?id a ex:A . # no filters ?id a ex:B .\n\x7d").toList = some
      [.word "PREFIX", .name (.prefixed "ex" ""), .name (.iri "http://ex/"), .word "SELECT",
        .var "id", .word "WHERE", .mark .openBrace, .var "id", .word "a",
        .name (.prefixed "ex" "A"), .mark .dot, .mark .closeBrace] := by
    rw [String.toList_append]
    repeat rw [String.toList_ofList]
    decide +kernel
  refine ⟨⟨"PREFIX ex: <http://ex/>\n" ++
      "SELECT ?id WHERE \x7b\n  ?id a ex:A . # no filters ?id a ex:B .\n\x7d", .objects⟩,
    "SELECT ?id WHERE \x7b\n  ?id a ex:A .  ?id a ex:B .\n\x7d", crossed_prepares, ?_, ?_, ?_⟩
  · rw [← declarations] at read ⊢
    exact assemble_eq_ok.mpr
      ⟨_, body, fun _ => Sparql.isQuery_of_tokens read (by decide +kernel), rfl⟩
  · decide +kernel
  · rw [declarations, read, String.toList_append]
    repeat rw [String.toList_ofList]
    decide +kernel

end Assembler

end FacetedQuery
