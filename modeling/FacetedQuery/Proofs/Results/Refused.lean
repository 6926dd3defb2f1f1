import FacetedQuery.Proofs.Results.Shape

/-!
# Rows that are refused as objects

Objects are read from rows that bind the column `id`.  The id is looked up in the record of the row,
where a column whose name begins with `id__` adds to the same property.  So a row is refused if it
binds such a column, even if it binds its id, and no other name of a column makes a row refused.
-/

namespace FacetedQuery

variable {row : Solution} {rows : List Solution}

/-- The values of a column belong below the id of an object if its name begins with `id__`. -/
theorem belowId_iff {column : String} :
    BelowId column ↔ ['i', 'd', '_', '_'] <+: column.toList := by
  constructor
  · rintro ⟨second, rest, isPath⟩
    have splits : SplitsInto column.toList ((Solution.path column).map String.toList) :=
      Solution.splitsInto_path.mpr rfl
    rw [isPath] at splits
    generalize column.toList = characters at splits
    cases splits with
    | @more name behind names first further => exact ⟨behind, by simp⟩
  · rintro ⟨behind, isColumn⟩
    have whole : ¬['_', '_'] <:+: ['i', 'd'] ++ ['_'] := by decide
    have splits : SplitsInto column.toList (['i', 'd'] :: namesOfColumn behind) := by
      rw [← isColumn]
      exact .more whole (splitsInto_namesOfColumn behind)
    obtain ⟨second, rest, isNames⟩ := List.exists_cons_of_ne_nil (namesOfColumn_ne_nil behind)
    refine ⟨String.ofList second, rest.map String.ofList, ?_⟩
    rw [Solution.path, splits.names_eq, isNames]
    rfl

namespace Solution

/-- A row binds a column of a name. -/
def Binds (row : Solution) (name : String) : Prop :=
  ∃ term, (name, term) ∈ row.bound

/-- A row names an entity: it binds its id, its ids are all alike, and the name of no column that it
binds begins with `id__`. -/
structure Named (row : Solution) : Prop where
  binds : row.Binds "id"
  alike : ∀ term other, ("id", term) ∈ row.bound → ("id", other) ∈ row.bound →
    term.value = other.value
  bare : ∀ column ∈ row.bound, ¬['i', 'd', '_', '_'] <+: column.1.toList

theorem named_iff : row.Named ↔ ∃ id, row.Identifies id := by
  have atId : ∀ text, row.Gives ["id"] text ↔ ∃ term, ("id", term) ∈ row.bound ∧
    term.value = text :=
    fun text => @gives_path row "id" text
  constructor
  · rintro ⟨⟨term, bound⟩, alike, bare⟩
    refine ⟨term.value, fun path text => ?_⟩
    cases path with
    | nil =>
        rw [atId]
        constructor
        · rintro ⟨other, isBound, rfl⟩
          exact ⟨rfl, alike other term isBound bound⟩
        · rintro ⟨-, rfl⟩
          exact ⟨term, bound, rfl⟩
    | cons second rest =>
        refine iff_of_false ?_ nofun
        rintro ⟨column, isBound, splits, -⟩
        exact bare column isBound (belowId_iff.mp ⟨second, rest, splitsInto_iff_path.mp splits⟩)
  · rintro ⟨id, identifies⟩
    obtain ⟨term, bound, -⟩ := (atId id).mp ((identifies [] id).mpr ⟨rfl, rfl⟩)
    have isValue : ∀ other, ("id", other) ∈ row.bound → other.value = id := fun other isBound =>
      ((identifies [] other.value).mp ((atId _).mpr ⟨other, isBound, rfl⟩)).2
    refine ⟨⟨term, bound⟩, fun left right isLeft isRight => ?_, fun column isBound begins => ?_⟩
    · rw [isValue left isLeft, isValue right isRight]
    · obtain ⟨second, rest, isPath⟩ := belowId_iff.mpr begins
      have below : row.Gives (path column.1) column.2.value :=
        gives_path.mpr ⟨column.2, isBound, rfl⟩
      rw [isPath] at below
      cases ((identifies _ _).mp below).1

theorem Distinct.binds_iff (distinct : row.Distinct) {name : String} :
    row.Binds name ↔ row.get? name ≠ none := by
  rw [Option.ne_none_iff_exists']
  exact exists_congr fun term => ⟨distinct.get?_eq, mem_bound_of_get?⟩

/-- A row with distinct columns names an entity if it binds its id and no column behind it. -/
theorem Distinct.named_iff (distinct : row.Distinct) : row.Named ↔
    row.get? "id" ≠ none ∧ ∀ column ∈ row.bound, ¬['i', 'd', '_', '_'] <+: column.1.toList := by
  rw [← distinct.binds_iff]
  constructor
  · exact fun named => ⟨named.binds, named.bare⟩
  · rintro ⟨binds, bare⟩
    refine ⟨binds, fun term other isTerm isOther => ?_, bare⟩
    have same := (distinct.get?_eq isTerm).symm.trans (distinct.get?_eq isOther)
    rw [Option.some_inj.mp same]

end Solution

/-- A row of which something does not hold is reported for its id. -/
def Flaw.unless (holds : Solution → Prop) : Flaw :=
  fun _ row index fault => ¬holds row ∧ fault = .missingColumn "id" index

namespace Flaw

variable {holds weaker : Solution → Prop}

theorem namesRow_unless : (Flaw.unless holds).NamesRow := by
  rintro before row index fault ⟨-, rfl⟩
  rfl

theorem spares_unless : (Flaw.unless holds).Spares rows ↔ ∀ row ∈ rows, holds row := by
  refine spares_iff_forall fun before row index => ⟨fun spared => ?_, ?_⟩
  · by_contra lacks
    exact spared _ ⟨lacks, rfl⟩
  · rintro held fault ⟨lacks, -⟩
    exact lacks held

/-- Rows are reported alike for two properties of which one is stronger, exactly if the first row
without the stronger one has not got the other one either. -/
theorem agreesOn_unless (weakens : ∀ row, holds row → weaker row) :
    (Flaw.unless holds).AgreesOn (.unless weaker) rows ↔
      ∀ before row after, rows = before ++ row :: after → (∀ earlier ∈ before, holds earlier) →
        weaker row → holds row := by
  constructor
  · intro agrees before row after split all isWeaker
    have spared := spares_unless.mpr fun earlier isEarlier =>
      weakens earlier (all earlier isEarlier)
    by_contra lacks
    exact ((agrees before row after split (spares_unless.mpr all) spared _).mp ⟨lacks, rfl⟩).1
      isWeaker
  · intro strengthens before row after split spares _ fault
    have same : holds row ↔ weaker row :=
      ⟨weakens row, strengthens before row after split (spares_unless.mp spares)⟩
    rw [Flaw.unless, Flaw.unless, same]

end Flaw

/-- Objects are read from rows if every row names an entity.  Else the first row that does not is
reported for its id, with its index.  In a row with distinct columns, nothing but an unbound id and
a bound column whose name begins with `id__` is in the way.  So a row is reported only for an
unbound id exactly if the first row that names no entity, if any, leaves its id unbound. -/
theorem readObjects_refuses (rows : List Solution) :
    StopsAtFirst (.unless Solution.Named) rows (readObjects rows) ∧
    (∀ row : Solution, row.Distinct → (row.Named ↔ row.get? "id" ≠ none ∧
      ∀ column ∈ row.bound, ¬['i', 'd', '_', '_'] <+: column.1.toList)) ∧
    (StopsAtFirst (.unless (Solution.Binds · "id")) rows (readObjects rows) ↔
      ∀ before row after, rows = before ++ row :: after → (∀ earlier ∈ before, earlier.Named) →
        row.Binds "id" → row.Named) := by
  have named : Flaw.ofObjects = Flaw.unless Solution.Named := by
    funext before row index fault
    rw [Flaw.ofObjects, Flaw.unless, Solution.named_iff]
  have stops := named ▸ stopsAtFirst_readObjects rows
  refine ⟨stops, fun row distinct => distinct.named_iff, ?_⟩
  rw [stops.other_iff Flaw.namesRow_unless Flaw.namesRow_unless]
  exact Flaw.agreesOn_unless fun row named => named.binds

/-- A row that binds its id and a column behind it. -/
def noteRow : Solution :=
  ⟨[("id", some (.iri ⟨"http://a/3", by decide +kernel⟩)), ("id__b", some (.literal (.plain "x")))]⟩

theorem exists_refused_id : noteRow.Binds "id" ∧
    readObjects [noteRow] = .error (.missingColumn "id" 0) := by
  refine ⟨⟨_, List.mem_cons_self⟩, ?_⟩
  rw [(stopsAtFirst_readObjects _).fails]
  refine ⟨[], noteRow, [], rfl, Flaw.spares_nil, ?_, rfl⟩
  rw [← Solution.named_iff]
  intro named
  exact named.bare ("id__b", .literal (.plain "x")) (by simp [noteRow, Solution.bound]) (by decide)

end FacetedQuery
