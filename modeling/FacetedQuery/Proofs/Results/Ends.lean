import FacetedQuery.Proofs.Results.Shape

/-!
# The terms at the ends of links

The ends of links are read as texts, and they count as IRIs if their texts are absolute IRIs.  So
the reader takes every end that is an IRI, and also a literal or a blank node that spells one, and
it reports the first end whose text is no IRI.
-/

namespace FacetedQuery

open Outcome (bind_eq_error bind_eq_ok bind_of_ok fault? fault?_eq_some toOption_eq_some)
open Rdf (Iri Term)

variable {rows : List Solution} {row : Solution} {links : List NetworkLink} {endpoints : List Iri}
  {fault : MappingFault}

namespace Rdf.Term

/-- A literal whose text is an IRI, or a blank node whose label is one behind the marks of blank
nodes that it may begin with. -/
inductive Spells : Term → Iri → Prop
  | literal {found : Literal} {iri : Iri} (same : found.value = iri.text) :
      Spells (.literal found) iri
  | blank {node : BlankNode} {iri : Iri}
      (same : dropBlankMarks node.label.toList = iri.text.toList) : Spells (.blank node) iri

theorem value_eq_text_iff {term : Term} {iri : Iri} :
    term.value = iri.text ↔ term = .iri iri ∨ term.Spells iri := by
  cases term with
  | iri found =>
      have plain : ¬(Term.iri found).Spells iri := nofun
      rw [or_iff_left plain, Term.iri.injEq]
      exact Iri.text_injective.eq_iff
  | literal found =>
      have other : ¬Term.literal found = .iri iri := by simp
      rw [or_iff_right other]
      exact ⟨.literal, fun spells => by cases spells with | literal same => exact same⟩
  | blank node =>
      have unmarked : (Term.blank node).value =
        String.ofList (dropBlankMarks node.label.toList) := by
        simp [value, BlankNode.render, dropBlankMarks]
      have other : ¬Term.blank node = .iri iri := by simp
      rw [or_iff_right other, unmarked, ← String.toList_inj, String.toList_ofList]
      exact ⟨.blank, fun spells => by cases spells with | blank same => exact same⟩

end Rdf.Term

namespace Expectation

/-- A column that has to hold the text of an IRI. -/
def iri (column : String) : Expectation :=
  ⟨column, true, Iri.accepts, "IRI"⟩

/-- What is expected of the ends of links. -/
def ends : List Expectation :=
  [iri "source", iri "target"]

end Expectation

theorem fault?_addEndpoint {index : Nat} {known : List Iri} {column value : String} :
    fault? (addEndpoint index known column value) =
      if Iri.accepts value then none else some (.invalidValue column index value "IRI") := by
  unfold addEndpoint
  by_cases member : known.any (·.text == value) = true
  · obtain ⟨found, inside, same⟩ := List.any_eq_true.mp member
    obtain rfl := beq_iff_eq.mp same
    rw [if_pos member, if_pos found.wellFormed]
    rfl
  · rw [if_neg member]
    by_cases accepted : Iri.accepts value = true
    · rw [if_pos accepted, Iri.ofText, dif_pos accepted]
      rfl
    · rw [if_neg accepted]
      cases read : Iri.ofText value with
      | error problem => rfl
      | ok iri =>
          obtain rfl := Iri.ofText_eq_ok.mp read
          exact absurd iri.wellFormed accepted

theorem fault?_text_addEndpoint {index : Nat} {known : List Iri} {column : String} :
    fault? (row.text index column >>= addEndpoint index known column) =
      (Expectation.iri column).flaw? row index := by
  unfold Solution.text Expectation.flaw? Expectation.iri
  cases row.text? column with
  | none => rfl
  | some value => exact fault?_addEndpoint

/-- Adds the ends of the link in a row. -/
def takeEnds (known : List Iri) (row : Solution) (index : Nat) :
    Except MappingFault (List Iri) := do
  let withSource ← row.text index "source" >>= addEndpoint index known "source"
  row.text index "target" >>= addEndpoint index withSource "target"

def readEnds (rows : List Solution) : Except MappingFault (List Iri) :=
  rows.zipIdx.foldlM (fun known row => takeEnds known row.1 row.2) []

theorem fault?_takeEnds {known : List Iri} {index : Nat} :
    fault? (takeEnds known row index) = row.flaw? Expectation.ends index := by
  refine Solution.fault?_sequence fault?_text_addEndpoint fun withSource => ?_
  rw [fault?_text_addEndpoint, Solution.flaw?_cons, Solution.flaw?_nil, Option.or_none]

theorem stopsAtFirst_readEnds :
    ∀ rows, StopsAtFirst (.ofShape Expectation.ends) rows (readEnds rows) := by
  refine .of_append takeEnds ⟨[], rfl⟩ (foldlM_zipIdx_append []) fun rows known last fault _ => ?_
  rw [← fault?_eq_some, fault?_takeEnds]
  rfl

/-- The ends of the links that rows stand for are those of the rows. -/
theorem linkEndpoints_eq_readEnds (read : List.Forall₂ Solution.IsLink rows links) :
    linkEndpoints links = readEnds rows := by
  unfold linkEndpoints readEnds
  generalize ([] : List Iri) = known
  generalize 0 = index
  induction read generalizing known index with
  | nil => rfl
  | @cons row link rows links isLink further induction =>
      have source : row.text index "source" = .ok link.source :=
        Solution.text_eq_ok.mpr isLink.source
      have target : row.text index "target" = .ok link.target :=
        Solution.text_eq_ok.mpr isLink.target
      rw [List.zipIdx_cons, List.zipIdx_cons, List.foldlM_cons, List.foldlM_cons]
      simp only [takeEnds, bind_of_ok source, bind_of_ok target, induction]

theorem map_linkEnds (read : List.Forall₂ Solution.IsLink rows links) :
    (linkEnds links).map some =
      rows.flatMap fun row => [row.text? "source", row.text? "target"] := by
  induction read with
  | nil => rfl
  | cons isLink further induction =>
      rw [List.flatMap_cons, ← induction, isLink.source, isLink.target]
      rfl

namespace Solution

/-- A row has a term at one of the ends of its link. -/
def HasEnd (row : Solution) (term : Term) : Prop :=
  row.get? "source" = some term ∨ row.get? "target" = some term

theorem exists_hasEnd_iff {iri : Iri} :
    (∃ term, row.HasEnd term ∧ (term = .iri iri ∨ term.Spells iri)) ↔
      some iri.text ∈ [row.text? "source", row.text? "target"] := by
  simp only [← Term.value_eq_text_iff, HasEnd, or_and_right, exists_or, List.mem_cons,
    List.not_mem_nil, or_false, text?, eq_comm (a := some iri.text), Option.map_eq_some_iff]

/-- An end that is read is an IRI or spells one. -/
theorem HasEnd.iri_or_spells {term : Term} (hasEnd : row.HasEnd term)
    (meets : ∀ expectation ∈ Expectation.ends, expectation.Meets row) :
    ∃ iri, term = .iri iri ∨ term.Spells iri := by
  have accepted : Iri.accepts term.value = true := by
    rcases hasEnd with held | held
    · exact (meets (.iri "source") (by simp [Expectation.ends])).2 _ (by
        rw [Expectation.iri, text?, held, Option.map_some])
    · exact (meets (.iri "target") (by simp [Expectation.ends])).2 _ (by
        rw [Expectation.iri, text?, held, Option.map_some])
  exact ⟨⟨term.value, accepted⟩, Term.value_eq_text_iff.mp rfl⟩

end Solution

theorem Flaw.spares_ofShape {shape : List Expectation} :
    (Flaw.ofShape shape).Spares rows ↔ ∀ row ∈ rows, ∀ expectation ∈ shape,
      expectation.Meets row := by
  refine Flaw.spares_iff_forall fun before row index => ?_
  have meets : row.flaw? shape index = none ↔ _ := Solution.flaw?_eq_none
  rw [← meets, Option.eq_none_iff_forall_ne_some]
  rfl

/-- The ends that are found in rows are the IRIs among the ends and those that ends spell, each
once. -/
theorem ends_of_rows (read : List.Forall₂ Solution.IsLink rows links)
    (found : linkEndpoints links = .ok endpoints) : endpoints.Nodup ∧ ∀ iri, iri ∈ endpoints ↔
      ∃ row ∈ rows, ∃ term, row.HasEnd term ∧ (term = .iri iri ∨ term.Spells iri) := by
  obtain ⟨ends, isEnds, rfl⟩ := linkEndpoints_eq_ok.mp found
  refine ⟨nodup_eraseDups ends, fun iri => ?_⟩
  simp only [Solution.exists_hasEnd_iff]
  rw [List.mem_eraseDups, ← List.mem_map_of_injective Iri.text_injective, map_text_of_mapM isEnds,
    ← List.mem_map_of_injective (fun _ _ => Option.some.inj), map_linkEnds read, List.mem_flatMap]

theorem readLinks_bind_linkEndpoints (rows : List Solution) :
    readLinks rows >>= linkEndpoints = readLinks rows >>= fun _ => readEnds rows := by
  cases read : readLinks rows with
  | error problem => rfl
  | ok links => exact linkEndpoints_eq_readEnds (forall₂_of_readLinks read)

/-- Links are read from rows, and their ends are found, exactly if every row meets what is expected
of a link and both of its ends hold the text of an IRI.  Else the first row that is no link is
reported, or, if all are, the first end whose text is no IRI.  The ends that are found are the IRIs
that stand at an end and those that a literal or a blank node at an end spells; so only IRIs stand
at the ends exactly if no term there spells an IRI. -/
theorem endpoints_of_terms (rows : List Solution) :
    ((∃ endpoints, readLinks rows >>= linkEndpoints = .ok endpoints) ↔
      ∀ row ∈ rows, ∀ expectation ∈ Expectation.links ++ Expectation.ends, expectation.Meets row) ∧
    (∀ fault, readLinks rows >>= linkEndpoints = .error fault ↔
      (Flaw.ofShape Expectation.links).FirstIn rows fault ∨
        (Flaw.ofShape Expectation.links).Spares rows ∧
          (Flaw.ofShape Expectation.ends).FirstIn rows fault) ∧
    ∀ endpoints, readLinks rows >>= linkEndpoints = .ok endpoints →
      endpoints.Nodup ∧
      (∀ iri, iri ∈ endpoints ↔
        ∃ row ∈ rows, ∃ term, row.HasEnd term ∧ (term = .iri iri ∨ term.Spells iri)) ∧
      ((∀ row ∈ rows, ∀ term, row.HasEnd term → ∃ iri, term = .iri iri) ↔
        ∀ row ∈ rows, ∀ term, row.HasEnd term → ∀ iri, ¬term.Spells iri) := by
  have areLinks : StopsAtFirst (.ofShape Expectation.links) rows (readLinks rows) :=
    stopsAtFirst_mapRows fault?_readLink rows
  have haveEnds := stopsAtFirst_readEnds rows
  have takes : (∃ endpoints, readLinks rows >>= linkEndpoints = .ok endpoints) ↔
      ∀ row ∈ rows, ∀ expectation ∈ Expectation.links ++ Expectation.ends,
        expectation.Meets row := by
    simp only [readLinks_bind_linkEndpoints, bind_eq_ok, exists_and_right, exists_and_left]
    rw [areLinks.succeeds, haveEnds.succeeds]
    simp only [Flaw.spares_ofShape, List.forall_mem_append, imp_and, forall_and]
  refine ⟨takes, fun fault => ?_, fun endpoints found => ?_⟩
  · rw [readLinks_bind_linkEndpoints, bind_eq_error, ← areLinks.fails, ← areLinks.succeeds,
      ← haveEnds.fails, exists_and_right]
  · obtain ⟨links, read, isFound⟩ := bind_eq_ok.mp found
    obtain ⟨distinct, ends⟩ := ends_of_rows (forall₂_of_readLinks read) isFound
    refine ⟨distinct, ends, forall₂_congr fun row isRow => forall₂_congr fun term hasEnd => ?_⟩
    constructor
    · rintro ⟨iri, rfl⟩ other spells
      cases spells
    · intro plain
      have meets := takes.mp ⟨endpoints, found⟩ row isRow
      obtain ⟨iri, isIri | spells⟩ := hasEnd.iri_or_spells (List.forall_mem_append.mp meets).2
      · exact ⟨iri, isIri⟩
      · exact absurd spells (plain iri)

/-- A link from an IRI to a literal that spells one. -/
def quotedRow : Solution :=
  ⟨[("source", some (.iri ⟨"http://a/1", by decide +kernel⟩)),
    ("target", some (.literal (.plain "http://a/2")))]⟩

theorem exists_quoted_end : readLinks [quotedRow] >>= linkEndpoints =
      .ok [⟨"http://a/1", by decide +kernel⟩, ⟨"http://a/2", by decide +kernel⟩] ∧
    quotedRow.get? "target" = some (.literal (.plain "http://a/2")) := by
  refine ⟨toOption_eq_some.mp ?_, rfl⟩
  decide +kernel

end FacetedQuery
