import FacetedQuery.Proofs.Objects.Grouping

/-!
# The ids of rows

The record of a row has an id exactly if the row identifies an entity: it gives one text as the id
and nothing below it.  A row whose column `id` is bound does so, unless it also binds a column whose
name goes on behind `id`, for then the value of the property is no single term.
-/

namespace FacetedQuery

/-- What a record with an id holds at its name is this id, and it holds nothing below it. -/
theorem Record.Proper.holds_id_iff {record : Record} {id : String} (proper : record.Proper)
    (known : record.id? = some id) {path : List String} {text : String} :
    record.Holds ("id" :: path) text ↔ path = [] ∧ text = id := by
  constructor
  · intro holds
    obtain ⟨⟨name, value⟩, entry, further, same, deeper⟩ := Record.holds_iff_entries.mp holds
    obtain ⟨rfl, rfl⟩ := List.cons.inj same
    rw [proper.id_entry known entry] at deeper
    exact ⟨deeper.1, deeper.2.symm⟩
  · rintro ⟨rfl, rfl⟩
    exact Record.holds_id known

namespace ColumnTree

variable {tree : ColumnTree} {fields : List (String × String)}
  {branches : List (String × ColumnTree)} {names : List String} {name value id : String}

/-- Every branch of a tree leads to a text. -/
def Stocked : ColumnTree → Prop
  | .node _ branches => ∀ branch ∈ branches, ∃ path text, branch.2.Holds path text

theorem stocked_empty : empty.Stocked :=
  nofun

theorem mem_atBranch {change : ColumnTree → ColumnTree} {branch : String × ColumnTree}
    (found : branch ∈ atBranch name change branches) :
    branch ∈ branches ∨ ∃ tree, branch.2 = change tree := by
  induction branches with
  | nil =>
      obtain rfl := List.mem_singleton.mp found
      exact .inr ⟨empty, rfl⟩
  | cons first rest induction =>
      obtain ⟨other, tree⟩ := first
      rw [atBranch] at found
      split at found
      · rcases List.mem_cons.mp found with rfl | later
        · exact .inr ⟨tree, rfl⟩
        · exact .inl (List.mem_cons_of_mem _ later)
      · rcases List.mem_cons.mp found with rfl | later
        · exact .inl List.mem_cons_self
        · exact (induction later).imp_left (List.mem_cons_of_mem _)

theorem Stocked.insert (stocked : tree.Stocked) (names : List String) (value : String) :
    (tree.insert names value).Stocked := by
  obtain ⟨fields, branches⟩ := tree
  cases names with
  | nil => exact stocked
  | cons name rest =>
      cases rest with
      | nil => exact stocked
      | cons second rest =>
          intro branch found
          rcases mem_atBranch found with old | ⟨tree, changed⟩
          · exact stocked branch old
          · refine ⟨second :: rest, value, ?_⟩
            rw [changed, holds_insert (by simp)]
            exact .inr ⟨rfl, rfl⟩

theorem stocked_ofColumns (columns : List (String × String)) : (ofColumns columns).Stocked := by
  have run : ∀ tree : ColumnTree, tree.Stocked → (columns.foldl (fun tree column =>
      insert ((namesOfColumn column.1.toList).map String.ofList) column.2 tree) tree).Stocked := by
    induction columns with
    | nil => exact fun _ stocked => stocked
    | cons column rest induction => exact fun tree stocked => induction _ (stocked.insert _ _)
  exact run empty stocked_empty

theorem get?_pushBranches {record : Record} (others : ∀ branch ∈ branches, branch.1 ≠ name) :
    (pushBranches record branches).get? name = record.get? name := by
  induction branches generalizing record with
  | nil => rfl
  | cons branch rest induction =>
      obtain ⟨other, later⟩ := List.forall_mem_cons.mp others
      rw [pushBranches, induction later, Record.get?_push_of_ne other]

/-- A field that is the only id makes a record have it. -/
theorem id?_pushFields {record : Record} (fresh : record.get? "id" = none)
    (given : ("id", id) ∈ fields) (only : ∀ text, ("id", text) ∈ fields → text = id) :
    (fields.foldl (fun record field => record.push field.1 (.term field.2)) record).id? =
      some id := by
  induction fields generalizing record with
  | nil => cases given
  | cons field rest induction =>
      obtain ⟨name, text⟩ := field
      have later : ∀ text, ("id", text) ∈ rest → text = id :=
        fun text found => only text (List.mem_cons_of_mem _ found)
      rw [List.foldl_cons]
      by_cases isId : name = "id"
      · subst isId
        obtain rfl := only text List.mem_cons_self
        have known : (record.push "id" (.term text)).id? = some text := by
          rw [Record.id?_eq_some, Record.get?_push_self, fresh]
          rfl
        -- From here on the id is only pushed once more.
        have same : ∀ value, ("id", value) ∈ rest.map (fun field => (field.1, .term field.2)) →
            value = RecordValue.term text := by
          simpa using later
        have pushed := Record.id?_pushEntries known same
        rwa [Record.pushEntries, List.foldl_map] at pushed
      · have remains : ("id", id) ∈ rest :=
          (List.mem_cons.mp given).resolve_left fun same => isId (congrArg Prod.fst same).symm
        exact induction ((Record.get?_push_of_ne isId).trans fresh) remains later

/-- The record of a tree has an id exactly if the tree holds it as its id, and nothing else there or
below it. -/
theorem id?_toRecord (stocked : tree.Stocked) : tree.toRecord.id? = some id ↔
    ∀ path text, tree.Holds ("id" :: path) text ↔ path = [] ∧ text = id := by
  constructor
  · intro known path text
    rw [← holds_toRecord, (built_toRecord tree).proper.holds_id_iff known]
  · intro only
    obtain ⟨fields, branches⟩ := tree
    have others : ∀ branch ∈ branches, branch.1 ≠ "id" := by
      rintro ⟨name, tree⟩ found rfl
      obtain ⟨path, text, holds⟩ := stocked _ found
      obtain ⟨rfl, -⟩ := (only path text).mp (.branch found holds)
      cases holds
    have isField : ∀ text, ("id", text) ∈ fields ↔ text = id := by
      intro text
      constructor
      · intro found
        exact ((only [] text).mp (.field found)).2
      · rintro rfl
        cases (only [] text).mpr ⟨rfl, rfl⟩ with
        | field found => exact found
        | branch found deeper => cases deeper
    have fresh : Record.empty.get? "id" = none := rfl
    have pushed := id?_pushFields fresh ((isField id).mpr rfl) fun text => (isField text).mp
    rw [Record.id?_eq_some] at pushed ⊢
    rw [toRecord, get?_pushBranches others]
    exact pushed

end ColumnTree

/-- A column whose values would belong below the id of an object. -/
def BelowId (column : String) : Prop :=
  ∃ second rest, Solution.path column = "id" :: second :: rest

theorem BelowId.head?_eq {column : String} (below : BelowId column) :
    column.toList.head? = some 'i' := by
  obtain ⟨second, rest, path⟩ := below
  have splits : SplitsInto column.toList ((Solution.path column).map String.toList) :=
    Solution.splitsInto_path.mpr rfl
  rw [path] at splits
  generalize column.toList = characters at splits
  cases splits with
  | more first further => rfl

theorem Record.Proper.not_holds_below {record : Record} {id column text : String}
    (proper : record.Proper) (known : record.id? = some id) (below : BelowId column) :
    ¬ record.Holds (Solution.path column) text := by
  obtain ⟨second, rest, path⟩ := below
  rw [path, proper.holds_id_iff known]
  rintro ⟨nothing, -⟩
  cases nothing

namespace Solution

variable {row : Solution} {id name : String}

/-- A row identifies an entity: it gives the id, and nothing else at its name or below it. -/
def Identifies (row : Solution) (id : String) : Prop :=
  ∀ path text, row.Gives ("id" :: path) text ↔ path = [] ∧ text = id

theorem id?_rowRecord : (rowRecord [] row).id? = some id ↔ row.Identifies id := by
  rw [rowRecord, ColumnTree.id?_toRecord (ColumnTree.stocked_ofColumns _)]
  refine forall₂_congr fun path text => ?_
  rw [← ColumnTree.holds_toRecord, ← holds_rowRecord]
  rfl

theorem splitsInto_iff_path {column : String} {path : List String} :
    SplitsInto column.toList (path.map String.toList) ↔ Solution.path column = path := by
  rw [splitsInto_iff, Solution.path]
  constructor
  · intro names
    simp [names, Function.comp_def]
  · rintro rfl
    simp [Function.comp_def]

theorem mem_bound_of_get? {term : Rdf.Term} (held : row.get? name = some term) :
    (name, term) ∈ row.bound := by
  obtain ⟨⟨column, content⟩, found, rfl⟩ :=
    Option.map_eq_some_iff.mp (Option.join_eq_some_iff.mp held)
  obtain rfl : column = name := by simpa using List.find?_some found
  exact List.mem_filterMap.mpr ⟨_, List.mem_of_find?_eq_some found, rfl⟩

/-- A row whose columns are distinct identifies what its column `id` holds, unless a column below it
is bound as well. -/
theorem Distinct.identifies_iff (distinct : row.Distinct) : row.Identifies id ↔
    row.text? "id" = some id ∧ ∀ column ∈ row.bound, ¬BelowId column.1 := by
  constructor
  · intro identifies
    have gives : row.Gives (path "id") id := (identifies [] id).mpr ⟨rfl, rfl⟩
    obtain ⟨term, bound, rfl⟩ := gives_path.mp gives
    refine ⟨by rw [text?, distinct.get?_eq bound]; rfl, ?_⟩
    rintro ⟨column, value⟩ isBound ⟨second, rest, path⟩
    have below : row.Gives (Solution.path column) value.value :=
      gives_path.mpr ⟨value, isBound, rfl⟩
    rw [path] at below
    obtain ⟨nothing, -⟩ := (identifies _ _).mp below
    cases nothing
  · rintro ⟨isId, apart⟩ path text
    obtain ⟨term, held, rfl⟩ := Option.map_eq_some_iff.mp isId
    have bound := mem_bound_of_get? held
    constructor
    · rintro ⟨⟨column, value⟩, isBound, splits, rfl⟩
      have isPath : Solution.path column = "id" :: path := splitsInto_iff_path.mp splits
      cases path with
      | cons second rest => exact absurd ⟨second, rest, isPath⟩ (apart _ isBound)
      | nil =>
          obtain rfl : column = "id" := String.toList_injective splits.eq_of_single
          have same := (distinct.get?_eq isBound).symm.trans held
          exact ⟨rfl, congrArg Rdf.Term.value (Option.some_inj.mp same)⟩
    · rintro ⟨rfl, rfl⟩
      exact gives_path.mpr ⟨term, bound, rfl⟩

/-- What a row gives at the path of no column that is left out, it gives without these columns. -/
theorem gives_without {skipped path : List String} {text : String}
    (kept : ∀ column ∈ skipped, Solution.path column ≠ path) :
    (row.without skipped).Gives path text ↔ row.Gives path text := by
  refine exists_congr fun column => ?_
  rw [bound_without, List.mem_filter, and_assoc, and_congr_right_iff]
  intro _
  rw [and_iff_right_iff_imp]
  rintro ⟨splits, -⟩
  have other : column.1 ∉ skipped := fun left =>
    kept column.1 left (splitsInto_iff_path.mp splits)
  simpa using other

theorem identifies_without_sortColumn :
    (row.without [sortColumn]).Identifies id ↔ row.Identifies id := by
  refine forall₂_congr fun path text => iff_congr (gives_without ?_) Iff.rfl
  rintro column isSort below
  obtain rfl := List.mem_singleton.mp isSort
  have name : Solution.path sortColumn = ["orderBy"] := by decide
  rw [name] at below
  simp at below

end Solution

/-- A row of an entity with one more column. -/
def entityRow (column : String) : Solution :=
  ⟨[("id", some (.literal (.plain "x"))), (column, some (.literal (.plain "y")))]⟩

theorem distinct_entityRow {column : String} (other : column ≠ "id") :
    (entityRow column).Distinct := by
  simpa [entityRow, Solution.Distinct] using Ne.symm other

/-- The record of a row of an entity has its id, unless the other column belongs below it. -/
theorem id?_entityRow {column : String} (other : column ≠ "id") (apart : ¬BelowId column) :
    (rowRecord [] (entityRow column)).id? = some "x" := by
  have isId : ¬BelowId "id" := by
    rintro ⟨second, rest, path⟩
    cases path
  rw [Solution.id?_rowRecord, (distinct_entityRow other).identifies_iff]
  exact ⟨rfl, by simpa [entityRow, Solution.bound] using ⟨isId, apart⟩⟩

end FacetedQuery
