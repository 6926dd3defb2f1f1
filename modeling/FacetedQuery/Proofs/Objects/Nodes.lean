import FacetedQuery.Proofs.Objects.Identity
import FacetedQuery.Proofs.Rdf.Iri

/-!
# Entities by their nodes

The rows of objects stand in groups, of which each makes one object.  Rows stand in one group if
their ids are the same node; an IRI and a blank node are not told apart if the label of the blank
node spells the IRI.  An object has the IRI or the label of its node as its id.
-/

namespace FacetedQuery

open Keyed

/-- The object into which the rows of a group are merged. -/
def objectOf : List Solution → Record
  | [] => .empty
  | row :: rest => rest.foldl (fun object row => object.merge (rowRecord [] row)) (rowRecord [] row)

/-- Rows in groups by what they hold as their id.  Each group makes one object. -/
structure Groups (groups : List (List Solution)) (rows : List Solution) : Prop where
  complete : groups.flatten.Perm rows
  objects : groups.map objectOf = grouped (rows.map (rowRecord []))
  ids : ∀ group ∈ groups, ∃ id, (objectOf group).id? = some id ∧
    ∀ row ∈ group, row.text? "id" = some id

variable {rows group : List Solution} {groups : List (List Solution)} {row last : Solution}
  {id : String}

theorem objectOf_append (present : group ≠ []) :
    objectOf (group ++ [last]) = (objectOf group).merge (rowRecord [] last) := by
  cases group with
  | nil => exact absurd rfl present
  | cons row rest => simp [objectOf]

theorem Groups.append (former : Groups groups rows) (known : (rowRecord [] last).id? = some id)
    (isId : last.text? "id" = some id) :
    Groups (put (fun group => (objectOf group).id?) (· ++ ·) [last] groups) (rows ++ [last]) := by
  have joined : ∀ group ∈ groups, objectOf (group ++ [last]) =
      (objectOf group).merge (rowRecord [] last) := by
    intro group found
    refine objectOf_append ?_
    rintro rfl
    obtain ⟨id, isId, -⟩ := former.ids [] found
    cases isId
  refine ⟨?_, ?_, ?_⟩
  · exact flatten_put.trans (former.complete.append_right [last])
  · rw [List.map_append, List.map_singleton, grouped_append, ← former.objects]
    exact map_put (fun _ => rfl) fun group found _ => joined group found
  · intro group found
    rcases of_mem_put found with old | rfl | ⟨other, old, same, rfl⟩
    · exact former.ids group old
    · exact ⟨id, known, by simpa using isId⟩
    · obtain ⟨otherId, otherKnown, others⟩ := former.ids other old
      obtain rfl : otherId = id := Option.some_inj.mp (otherKnown.symm.trans (same.trans known))
      refine ⟨otherId, ?_, ?_⟩
      · rw [joined other old]
        exact Record.id?_merge (built_rowRecord [] last).proper otherKnown known
      · simpa [or_imp, forall_and] using ⟨others, isId⟩

/-- The objects of rows are those of the groups in which the rows stand. -/
theorem exists_groups (distinct : ∀ row ∈ rows, row.Distinct)
    (known : ∀ row ∈ rows, ∃ id, (rowRecord [] row).id? = some id) :
    ∃ groups, Groups groups rows := by
  induction rows using List.reverseRecOn with
  | nil => exact ⟨[], .nil, rfl, nofun⟩
  | append_singleton rows last induction =>
      obtain ⟨groups, former⟩ := induction
        (fun row found => distinct row (List.mem_append_left _ found))
        (fun row found => known row (List.mem_append_left _ found))
      obtain ⟨id, isId⟩ := known last (by simp)
      exact ⟨_, former.append isId (text?_eq_of_rowRecord (distinct last (by simp)) isId)⟩

/-- A row stands in the group of the rows that hold the same as their id. -/
theorem Groups.mem_iff (formed : Groups groups rows)
    (apart : ((groups.map objectOf).map Record.id?).Nodup) (found : group ∈ groups)
    (inside : row ∈ group) {other : Solution} (given : other ∈ rows) :
    other ∈ group ↔ other.text? "id" = row.text? "id" := by
  obtain ⟨id, isId, ids⟩ := formed.ids group found
  rw [ids row inside]
  constructor
  · exact ids other
  · intro same
    obtain ⟨second, isGroup, within⟩ := List.mem_flatten.mp (formed.complete.mem_iff.mpr given)
    obtain ⟨secondId, isSecondId, secondIds⟩ := formed.ids second isGroup
    have equal : (objectOf second).id? = (objectOf group).id? := by
      rw [isId, isSecondId, ← secondIds other within, same]
    rw [List.map_map] at apart
    rwa [List.inj_on_of_nodup_map apart found isGroup equal.symm]

theorem Rdf.BlankNode.label_injective : Function.Injective Rdf.BlankNode.label := by
  rintro ⟨label, wellFormed⟩ ⟨_, _⟩ rfl
  rfl

namespace Rdf.Term

/-- An IRI, or a blank node whose label does not begin with the mark of blank nodes. -/
def IsUnmarked : Term → Prop
  | .iri _ => True
  | .literal _ => False
  | .blank node => ¬ ['_', ':'] <+: node.label.toList

/-- The IRI or the label of a node, and the text of a literal. -/
def identifier : Term → String
  | .iri found => found.text
  | .literal found => found.value
  | .blank node => node.label

/-- Nodes that are the same, or an IRI and a blank node whose label spells it. -/
def LooksLike : Term → Term → Prop
  | .iri found, .iri other => found = other
  | .blank node, .blank other => node = other
  | .iri found, .blank node => found.text = node.label
  | .blank node, .iri found => node.label = found.text
  | _, _ => False

theorem dropBlankMarks_eq {label : List Char} (unmarked : ¬ ['_', ':'] <+: label) :
    dropBlankMarks label = label := by
  rw [dropBlankMarks]
  rintro rest rfl
  exact unmarked ⟨rest, rfl⟩

variable {term other : Term}

theorem IsUnmarked.value_eq (unmarked : term.IsUnmarked) : term.value = term.identifier := by
  cases term with
  | iri found => rfl
  | literal found => cases unmarked
  | blank node =>
      have marks : (BlankNode.render node).toList = '_' :: ':' :: node.label.toList := by
        simp [BlankNode.render]
      rw [value, marks, dropBlankMarks, dropBlankMarks_eq unmarked, String.ofList_toList]
      rfl

/-- Unmarked nodes look alike exactly if they have the same lexical value. -/
theorem IsUnmarked.looksLike_iff (unmarked : term.IsUnmarked) (otherUnmarked : other.IsUnmarked) :
    term.LooksLike other ↔ term.value = other.value := by
  rw [unmarked.value_eq, otherUnmarked.value_eq]
  cases term with
  | literal found => cases unmarked
  | iri found =>
      cases other with
      | literal other => cases otherUnmarked
      | iri other => exact Iri.text_injective.eq_iff.symm
      | blank node => exact Iff.rfl
  | blank node =>
      cases other with
      | literal other => cases otherUnmarked
      | iri other => exact Iff.rfl
      | blank other => exact BlankNode.label_injective.eq_iff.symm

end Rdf.Term

/-- The groups of rows by the nodes that are their ids: an object has the identifier of the node of
its rows as its id, and rows stand in one group exactly if their nodes look alike. -/
structure ByNodes (groups : List (List Solution)) (rows : List Solution) : Prop where
  complete : groups.flatten.Perm rows
  ids : ∀ group ∈ groups, ∀ row ∈ group, ∀ term, row.get? "id" = some term → term.IsUnmarked →
    (objectOf group).id? = some term.identifier
  together : ∀ group ∈ groups, ∀ row ∈ group, ∀ other ∈ rows, ∀ term otherTerm,
    row.get? "id" = some term → other.get? "id" = some otherTerm →
      term.IsUnmarked → otherTerm.IsUnmarked → (other ∈ group ↔ term.LooksLike otherTerm)

theorem text?_of_get? {term : Rdf.Term} (held : row.get? "id" = some term)
    (unmarked : term.IsUnmarked) :
    row.text? "id" = some term.identifier := by
  rw [Solution.text?, held, Option.map_some, unmarked.value_eq]

theorem Groups.byNodes (formed : Groups groups rows)
    (apart : ((groups.map objectOf).map Record.id?).Nodup) : ByNodes groups rows := by
  refine ⟨formed.complete, ?_, ?_⟩
  · intro group found row inside term held unmarked
    obtain ⟨id, isId, ids⟩ := formed.ids group found
    rw [isId, ← ids row inside, text?_of_get? held unmarked]
  · intro group found row inside other given term otherTerm held otherHeld unmarked otherUnmarked
    rw [formed.mem_iff apart found inside given, Solution.text?, Solution.text?, held, otherHeld,
      unmarked.looksLike_iff otherUnmarked, Option.map_some, Option.map_some,
      Option.some_inj, eq_comm]

/-- Rows are read as objects exactly if they bind their id and nothing below it.  They stand in
groups then, of which each is merged into one object, and rows whose ids are IRIs or unmarked blank
nodes stand in one group exactly if these are the same node or an IRI and a blank node whose label
spells it. -/
theorem readObjects_by_nodes (distinct : ∀ row ∈ rows, row.Distinct) :
    ((∃ objects, readObjects rows = .ok objects) ↔
      ∀ row ∈ rows, row.get? "id" ≠ none ∧ ∀ column ∈ row.bound, ¬BelowId column.1) ∧
    ∀ objects, readObjects rows = .ok objects →
      ∃ groups, objects = groups.map objectOf ∧ ByNodes groups rows := by
  constructor
  · simp only [readObjects_eq_ok, exists_and_left, exists_eq, and_true]
    refine forall₂_congr fun row found => ?_
    simp only [Solution.id?_rowRecord, (distinct row found).identifies_iff, exists_and_right]
    refine and_congr_left fun _ => ?_
    rw [Solution.text?, ← Option.isSome_iff_exists, Option.isSome_map, ← Option.isSome_iff_ne_none]
  · intro objects read
    obtain ⟨known, rfl⟩ := readObjects_eq_ok.mp read
    obtain ⟨groups, formed⟩ := exists_groups distinct known
    refine ⟨groups, formed.objects.symm, formed.byNodes ?_⟩
    rw [formed.objects]
    exact distinct_grouped (identified_rowRecord known)

/-- A row that binds nothing but its id. -/
def nodeRow (term : Rdf.Term) : Solution :=
  ⟨[("id", some term)]⟩

def lyon : Rdf.Iri :=
  ⟨"urn:lyon", by decide +kernel⟩

/-- The blank node whose label spells the IRI of Lyon. -/
def blankLyon : Rdf.BlankNode :=
  ⟨"urn:lyon", by decide +kernel⟩

def blankParis : Rdf.BlankNode :=
  ⟨"paris", by decide +kernel⟩

/-- A blank node whose label begins with the mark of blank nodes. -/
def markedParis : Rdf.BlankNode :=
  ⟨"_:paris", by decide +kernel⟩

/-- An IRI and two blank nodes make two objects. -/
theorem readObjects_by_nodes_lyon :
    (∀ row ∈ [nodeRow (.iri lyon), nodeRow (.blank blankParis), nodeRow (.blank blankLyon)],
      row.Distinct) ∧
    readObjects [nodeRow (.iri lyon), nodeRow (.blank blankParis), nodeRow (.blank blankLyon)] =
      .ok [.withId "urn:lyon", .withId "paris"] ∧
    ∃ groups, [Record.withId "urn:lyon", Record.withId "paris"] = groups.map objectOf ∧
      ByNodes groups
        [nodeRow (.iri lyon), nodeRow (.blank blankParis), nodeRow (.blank blankLyon)] := by
  have distinct : ∀ row ∈ [nodeRow (.iri lyon), nodeRow (.blank blankParis),
      nodeRow (.blank blankLyon)], row.Distinct := by
    simp [nodeRow, Solution.Distinct]
  have read : readObjects [nodeRow (.iri lyon), nodeRow (.blank blankParis),
      nodeRow (.blank blankLyon)] = .ok [.withId "urn:lyon", .withId "paris"] := by cbv
  exact ⟨distinct, read, (readObjects_by_nodes distinct).2 _ read⟩

/-- Different nodes in one object: an IRI and a blank node whose label spells it, and two blank
nodes of which one has the mark of blank nodes in its label, which is lost. -/
theorem exists_merged_nodes :
    readObjects [nodeRow (.iri lyon), nodeRow (.blank blankLyon)] = .ok [.withId "urn:lyon"] ∧
    Rdf.Term.iri lyon ≠ .blank blankLyon ∧
    readObjects [nodeRow (.blank markedParis), nodeRow (.blank blankParis)] =
      .ok [.withId "paris"] ∧
    Rdf.Term.blank markedParis ≠ .blank blankParis := by
  refine ⟨by cbv, by simp, by cbv, ?_⟩
  simp [markedParis, blankParis]

end FacetedQuery
