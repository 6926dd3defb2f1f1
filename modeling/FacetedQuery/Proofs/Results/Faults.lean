import FacetedQuery.Proofs.Outcome
import FacetedQuery.Results.Listing

/-!
# Faults of rows

Reading rows fails for what the rows hold.  Only the data of a listing may be asked for in a shape
that no rows are read into, and then the rows do not matter.
-/

namespace FacetedQuery

open Outcome (Blames blames_error blames_foldlM blames_mapM blames_ok)

/-- A fault that comes from the rows and not from the shape that is asked for. -/
def MappingFault.OfRows (fault : MappingFault) : Prop :=
  ∀ shape, fault ≠ .unsupportedShape shape

theorem blames_text (row : Solution) (index : Nat) (column : String) :
    Blames MappingFault.OfRows (row.text index column) := by
  unfold Solution.text
  split
  · exact blames_ok _
  · exact blames_error nofun

theorem blames_number? (row : Solution) (index : Nat) (kind : NumberKind α) (column : String) :
    Blames MappingFault.OfRows (row.number? index kind column) := by
  unfold Solution.number?
  split
  · exact blames_ok _
  · split
    · exact blames_ok _
    · exact blames_error nofun

theorem blames_number (row : Solution) (index : Nat) (kind : NumberKind α) (column : String) :
    Blames MappingFault.OfRows (row.number index kind column) := by
  refine (blames_number? row index kind column).bind fun found => ?_
  cases found with
  | none => exact blames_error nofun
  | some number => exact blames_ok number

theorem blames_mapRows {read : Solution → Nat → Except MappingFault α}
    (blames : ∀ row index, Blames MappingFault.OfRows (read row index)) (rows : List Solution) :
    Blames MappingFault.OfRows (mapRows read rows) := by
  unfold mapRows
  refine blames_mapM (fun row => ?_) _
  exact blames row.1 row.2

theorem blames_readDistinct {id : α → String}
    {read : Solution → Nat → String → Except MappingFault α}
    (blames : ∀ row index key, Blames MappingFault.OfRows (read row index key))
    (rows : List Solution) : Blames MappingFault.OfRows (readDistinct id read rows) := by
  unfold readDistinct
  refine blames_foldlM (fun found row => ?_) _ _
  refine (blames_text row.1 row.2 "id").bind fun key => ?_
  split
  · exact blames_ok _
  · exact (blames row.1 row.2 key).bind fun _ => blames_ok _

theorem blames_readCount (rows : List Solution) : Blames MappingFault.OfRows (readCount rows) := by
  cases rows with
  | nil => exact blames_error nofun
  | cons row rows => exact blames_number row 0 .count "count"

theorem blames_objectsWithout (skipped : List String) (rows : List Solution) :
    Blames MappingFault.OfRows (objectsWithout skipped rows) := by
  refine blames_foldlM (fun objects row => ?_) _ _
  unfold takeRow
  dsimp only
  split
  · exact blames_ok _
  · exact blames_error nofun

theorem blames_readLocation (row : Solution) (index : Nat) :
    Blames MappingFault.OfRows (readLocation row index) :=
  (blames_number row index .degrees "lat").bind fun _ =>
    (blames_number row index .degrees "long").bind fun _ => blames_ok _

theorem blames_readPlaces (rows : List Solution) : Blames MappingFault.OfRows (readPlaces rows) :=
  blames_readDistinct (fun row index _ => (blames_readLocation row index).bind fun _ =>
    (blames_number? row index .count "instanceCount").bind fun _ => blames_ok _) rows

theorem blames_readLinks (rows : List Solution) : Blames MappingFault.OfRows (readLinks rows) :=
  blames_mapRows (fun row index => (blames_text row index "source").bind fun _ =>
    (blames_text row index "target").bind fun _ =>
      (blames_number? row index .count "weight").bind fun _ => blames_ok _) rows

theorem blames_addEndpoint (index : Nat) (found : List Rdf.Iri) (column value : String) :
    Blames MappingFault.OfRows (addEndpoint index found column value) := by
  unfold addEndpoint
  split
  · exact blames_ok _
  · split
    · exact blames_ok _
    · exact blames_error nofun

theorem blames_linkEndpoints (links : List NetworkLink) :
    Blames MappingFault.OfRows (linkEndpoints links) := by
  unfold linkEndpoints
  refine blames_foldlM (fun found link => ?_) _ _
  exact (blames_addEndpoint link.2 found "source" link.1.source).bind fun withSource =>
    blames_addEndpoint link.2 withSource "target" link.1.target

theorem blames_readNodes (rows : List Solution) : Blames MappingFault.OfRows (readNodes rows) :=
  blames_readDistinct (fun _ _ _ => blames_ok _) rows

theorem blames_map {outcome : Except MappingFault α} (blames : Blames MappingFault.OfRows outcome)
    (next : α → β) : Blames MappingFault.OfRows (next <$> outcome) := by
  cases outcome with
  | error fault => exact blames_error (blames fault rfl)
  | ok value => exact blames_ok _

/-- The data of a listing that needs one query fails for the rows or for its shape. -/
theorem readListing_eq_error {shape : ResultShape} {rows : List Solution} {fault : MappingFault}
    (failed : readListing shape rows = .error fault) : fault.OfRows ∨
      (shape = .count ∧ fault = .unsupportedShape "count") ∨
      ∃ nodesQuery, shape = .network nodesQuery := by
  cases shape with
  | places => exact .inl (blames_map (blames_readPlaces rows) _ fault failed)
  | coordinates => exact .inl (blames_map (blames_mapRows blames_readLocation rows) _ fault failed)
  | objects => exact .inl (blames_map (blames_objectsWithout [] rows) _ fault failed)
  | count => exact .inr (.inl ⟨rfl, (Except.error.inj failed).symm⟩)
  | network nodesQuery => exact .inr (.inr ⟨nodesQuery, rfl⟩)

end FacetedQuery
