import FacetedQuery.Proofs.Record.Invariant
import FacetedQuery.Proofs.Record.Texts
import FacetedQuery.Results.Objects

/-!
# Rows as records

The record of a row holds the value of each bound column at the path of names into which the name of
the column splits, and it holds nothing else.  It is built by pushing values.
-/

namespace FacetedQuery

open Keyed

/-- The names into which the name of a column splits, from the left: two underscores in a row end
a name as soon as they appear. -/
inductive SplitsInto : List Char → List (List Char) → Prop
  | last {name : List Char} (whole : ¬ ['_', '_'] <:+: name) : SplitsInto name [name]
  | more {name rest : List Char} {names : List (List Char)}
      (first : ¬ ['_', '_'] <:+: name ++ ['_']) (further : SplitsInto rest names) :
      SplitsInto (name ++ '_' :: '_' :: rest) (name :: names)

theorem namesOfColumn_ne_nil (column : List Char) : namesOfColumn column ≠ [] := by
  fun_cases namesOfColumn column <;> simp

theorem namesOfColumn_cons {character : Char} {rest name : List Char} {names : List (List Char)}
    (apart : ¬ ['_', '_'] <+: character :: rest) (further : namesOfColumn rest = name :: names) :
    namesOfColumn (character :: rest) = (character :: name) :: names := by
  rw [namesOfColumn, further]
  rintro rest rfl rfl
  exact apart ⟨rest, rfl⟩

theorem SplitsInto.cons {character : Char} {rest name : List Char} {names : List (List Char)}
    (apart : ¬ ['_', '_'] <+: character :: rest) (further : SplitsInto rest (name :: names)) :
    SplitsInto (character :: rest) ((character :: name) :: names) := by
  cases further with
  | last whole =>
      refine .last fun inside => ?_
      rcases List.infix_cons_iff.mp inside with front | later
      · exact apart front
      · exact whole later
  | @more _ behind _ first further =>
      change SplitsInto ((character :: name) ++ '_' :: '_' :: behind) _
      refine .more (fun inside => ?_) further
      rcases List.infix_cons_iff.mp inside with front | later
      · exact apart (front.trans ⟨'_' :: behind, by simp⟩)
      · exact first later

theorem splitsInto_namesOfColumn (column : List Char) :
    SplitsInto column (namesOfColumn column) := by
  fun_induction namesOfColumn column with
  | case1 => exact .last (by simp)
  | case2 rest further =>
      have single : ¬ ['_', '_'] <:+: [] ++ ['_'] := by decide
      exact .more single further
  | case3 character rest apart nothing => exact absurd nothing (namesOfColumn_ne_nil rest)
  | case4 character rest apart name names equal further =>
      refine .cons ?_ (equal ▸ further)
      rintro ⟨behind, equal⟩
      cases equal
      exact apart behind rfl rfl

theorem SplitsInto.names_eq {column : List Char} {names : List (List Char)}
    (splits : SplitsInto column names) : namesOfColumn column = names := by
  induction splits with
  | @last name whole =>
      induction name with
      | nil => rfl
      | cons character rest induction =>
          refine namesOfColumn_cons (fun front => whole front.isInfix)
            (induction fun inside => whole (inside.trans (List.suffix_cons _ _).isInfix))
  | @more name rest names first further induction =>
      induction name with
      | nil => rw [List.nil_append, namesOfColumn, induction]
      | cons character name step =>
          refine namesOfColumn_cons (fun front => ?_) (step fun inside => ?_)
          · cases name with
            | nil => exact first (List.IsPrefix.isInfix (by simpa using front))
            | cons second name => exact first (List.IsPrefix.isInfix (by simpa using front))
          · exact first (inside.trans (List.suffix_cons _ _).isInfix)

theorem SplitsInto.eq_of_single {column name : List Char} (splits : SplitsInto column [name]) :
    column = name := by
  cases splits with
  | last => rfl
  | more first further => cases further

theorem SplitsInto.column_eq {column other : List Char} {names : List (List Char)}
    (splits : SplitsInto column names) (otherSplits : SplitsInto other names) : column = other := by
  induction splits generalizing other with
  | last whole => exact otherSplits.eq_of_single.symm
  | more first further induction =>
      cases otherSplits with
      | last whole => cases further
      | more _ otherFurther => rw [induction otherFurther]

theorem splitsInto_iff {column : List Char} {names : List (List Char)} :
    SplitsInto column names ↔ namesOfColumn column = names :=
  ⟨SplitsInto.names_eq, fun equal => equal ▸ splitsInto_namesOfColumn column⟩

/-- A tree holds the value of a field at its name, and what its branches hold below theirs. -/
inductive ColumnTree.Holds : ColumnTree → List String → String → Prop
  | field {fields : List (String × String)} {branches : List (String × ColumnTree)}
      {name text : String} (found : (name, text) ∈ fields) :
      Holds (.node fields branches) [name] text
  | branch {fields : List (String × String)} {branches : List (String × ColumnTree)}
      {name : String} {tree : ColumnTree} {path : List String} {text : String}
      (found : (name, tree) ∈ branches) (deeper : tree.Holds path text) :
      Holds (.node fields branches) (name :: path) text

namespace ColumnTree

variable {tree : ColumnTree} {fields : List (String × String)}
  {branches : List (String × ColumnTree)} {path : List String} {text name value : String}

theorem not_holds_empty : ¬ empty.Holds path text := by
  intro holds
  cases holds with
  | field found => cases found
  | branch found deeper => cases found

/-- What a branch holds, seen from the tree. -/
def HoldsBelow (branch : String × ColumnTree) (path : List String) (text : String) : Prop :=
  ∃ further, path = branch.1 :: further ∧ branch.2.Holds further text

theorem holds_node : (node fields branches).Holds path text ↔
    (∃ field ∈ fields, path = [field.1] ∧ text = field.2) ∨
      ∃ branch ∈ branches, HoldsBelow branch path text := by
  constructor
  · intro holds
    cases holds with
    | field found => exact .inl ⟨_, found, rfl, rfl⟩
    | branch found deeper => exact .inr ⟨_, found, _, rfl, deeper⟩
  · rintro (⟨⟨name, value⟩, found, rfl, rfl⟩ | ⟨⟨name, tree⟩, found, further, rfl, deeper⟩)
    · exact .field found
    · exact .branch found deeper

/-- A change that adds something to a tree adds it to the branch of a name. -/
theorem exists_mem_atBranch {change : ColumnTree → ColumnTree} {adds : List String → Prop}
    (changed : ∀ tree further, (change tree).Holds further text ↔
      tree.Holds further text ∨ adds further) :
    (∃ branch ∈ atBranch name change branches, HoldsBelow branch path text) ↔
      (∃ branch ∈ branches, HoldsBelow branch path text) ∨
        ∃ further, path = name :: further ∧ adds further := by
  have joined : ∀ tree, HoldsBelow (name, change tree) path text ↔
      HoldsBelow (name, tree) path text ∨ ∃ further, path = name :: further ∧ adds further := by
    intro tree
    simp only [HoldsBelow, changed, and_or_left, exists_or]
  induction branches with
  | nil =>
      have fresh : ¬ HoldsBelow (name, empty) path text := by
        rintro ⟨further, -, holds⟩
        exact not_holds_empty holds
      simp [atBranch, joined, fresh]
  | cons first rest induction =>
      obtain ⟨found, tree⟩ := first
      by_cases same : found = name
      · subst same
        simp only [atBranch, beq_self_eq_true, if_true, List.mem_cons, exists_eq_or_imp, joined]
        rw [or_right_comm]
      · simp only [atBranch, beq_iff_eq, same, if_false, List.mem_cons, exists_eq_or_imp, induction]
        rw [or_assoc]

/-- A value that is inserted is held at its path, and nothing else changes. -/
theorem holds_insert {names : List String} (present : names ≠ []) :
    (insert names value tree).Holds path text ↔
      tree.Holds path text ∨ (path = names ∧ text = value) := by
  induction names generalizing tree path with
  | nil => exact absurd rfl present
  | cons name rest induction =>
      obtain ⟨fields, branches⟩ := tree
      cases rest with
      | nil =>
          rw [insert, holds_node, holds_node]
          simp only [List.mem_append, List.mem_singleton, or_and_right, exists_or, exists_eq_left]
          rw [or_right_comm]
      | cons second rest =>
          have below : (∃ further, path = name :: further ∧
            further = second :: rest ∧ text = value) ↔
              path = name :: second :: rest ∧ text = value := by
            constructor
            · rintro ⟨further, rfl, rfl, rfl⟩
              exact ⟨rfl, rfl⟩
            · rintro ⟨rfl, rfl⟩
              exact ⟨second :: rest, rfl, rfl, rfl⟩
          rw [insert, holds_node, holds_node,
            exists_mem_atBranch fun tree further => induction (by simp), below, or_assoc]

/-- The tree of columns holds the value of each column at the path of its names. -/
theorem holds_ofColumns {columns : List (String × String)} :
    (ofColumns columns).Holds path text ↔ ∃ column ∈ columns,
      path = (namesOfColumn column.1.toList).map String.ofList ∧ text = column.2 := by
  have run : ∀ tree : ColumnTree, (columns.foldl (fun tree column =>
        insert ((namesOfColumn column.1.toList).map String.ofList) column.2 tree) tree).Holds
          path text ↔ tree.Holds path text ∨ ∃ column ∈ columns,
            path = (namesOfColumn column.1.toList).map String.ofList ∧ text = column.2 := by
    induction columns with
    | nil => simp
    | cons column rest induction =>
        intro tree
        rw [List.foldl_cons, induction, holds_insert (by simp [namesOfColumn_ne_nil]), or_assoc]
        simp only [List.mem_cons, exists_eq_or_imp]
  rw [ofColumns, run]
  simp [not_holds_empty]

mutual

/-- The record of a tree holds what the tree holds. -/
theorem holds_toRecord {path : List String} {text : String} :
    (tree : ColumnTree) → (tree.toRecord.Holds path text ↔ tree.Holds path text)
  | .node fields branches => by
    have own : ∀ record : Record, ∀ fields : List (String × String),
        (fields.foldl (fun record field => record.push field.1 (.term field.2)) record).Holds
            path text ↔
          record.Holds path text ∨ ∃ field ∈ fields, path = [field.1] ∧ text = field.2 := by
      intro record fields
      induction fields generalizing record with
      | nil => simp
      | cons field rest induction =>
          rw [List.foldl_cons, induction, Record.holds_push]
          simp [RecordValue.HoldsBelow, RecordValue.Holds, or_assoc, eq_comm]
    rw [toRecord, holds_pushBranches branches, own, holds_node]
    simp [Record.not_holds_empty]

theorem holds_pushBranches {record : Record} {path : List String} {text : String} :
    (branches : List (String × ColumnTree)) →
      ((pushBranches record branches).Holds path text ↔
        record.Holds path text ∨ ∃ branch ∈ branches, HoldsBelow branch path text)
  | [] => by simp [pushBranches]
  | (name, tree) :: rest => by
    have here : (RecordValue.record tree.toRecord).HoldsBelow name path text ↔
        HoldsBelow (name, tree) path text :=
      exists_congr fun further => and_congr_right fun _ => holds_toRecord tree
    rw [pushBranches, holds_pushBranches rest, Record.holds_push, here, or_assoc]
    simp

end

theorem built_pushFields {record : Record} (built : record.Built)
    (fields : List (String × String)) :
    (fields.foldl (fun record field => record.push field.1 (.term field.2)) record).Built := by
  induction fields generalizing record with
  | nil => exact built
  | cons field rest induction => exact induction (.pushTerm field.1 field.2 built)

mutual

theorem built_toRecord : (tree : ColumnTree) → tree.toRecord.Built
  | .node fields branches => by
    rw [toRecord]
    exact built_pushBranches (built_pushFields .empty fields) branches

theorem built_pushBranches {record : Record} (built : record.Built) :
    (branches : List (String × ColumnTree)) → (pushBranches record branches).Built
  | [] => built
  | (name, tree) :: rest => by
    rw [pushBranches]
    exact built_pushBranches (.pushRecord name built (built_toRecord tree)) rest

end

end ColumnTree

namespace Solution

/-- The path at which the record of a row holds the value of a column. -/
def path (column : String) : List String :=
  (namesOfColumn column.toList).map String.ofList

theorem splitsInto_path {column other : String} :
    SplitsInto other.toList ((path column).map String.toList) ↔ other = column := by
  have names : (path column).map String.toList = namesOfColumn column.toList := by
    simp [path, Function.comp_def]
  rw [names]
  constructor
  · exact fun splits => String.toList_injective (splits.column_eq (splitsInto_namesOfColumn _))
  · rintro rfl
    exact splitsInto_namesOfColumn _

/-- A row gives a text at the path into which the name of a bound column splits. -/
def Gives (row : Solution) (path : List String) (text : String) : Prop :=
  ∃ column ∈ row.bound, SplitsInto column.1.toList (path.map String.toList) ∧
    column.2.value = text

theorem gives_path {row : Solution} {column text : String} :
    row.Gives (path column) text ↔ ∃ term, (column, term) ∈ row.bound ∧ term.value = text := by
  constructor
  · rintro ⟨⟨other, term⟩, bound, splits, value⟩
    obtain rfl := splitsInto_path.mp splits
    exact ⟨term, bound, value⟩
  · rintro ⟨term, bound, value⟩
    exact ⟨_, bound, splitsInto_path.mpr rfl, value⟩

/-- No two columns have one name. -/
def Distinct (row : Solution) : Prop :=
  (row.columns.map Prod.fst).Nodup

/-- A row without some of its columns. -/
def without (row : Solution) (skipped : List String) : Solution :=
  ⟨row.columns.filter fun column => !skipped.contains column.1⟩

theorem bound_without (row : Solution) (skipped : List String) :
    (row.without skipped).bound = row.bound.filter fun column => !skipped.contains column.1 := by
  rw [bound, bound, without, List.filterMap_filter, List.filter_filterMap]
  refine List.filterMap_congr fun column _ => ?_
  cases column.2 with
  | none => simp
  | some term => simp [Option.filter]

theorem Distinct.without {row : Solution} (distinct : row.Distinct) (skipped : List String) :
    (row.without skipped).Distinct :=
  List.Nodup.sublist (List.filter_sublist.map Prod.fst) distinct

/-- The term of a column that is bound. -/
theorem Distinct.get?_eq {row : Solution} (distinct : row.Distinct) {name : String}
    {term : Rdf.Term} (bound : (name, term) ∈ row.bound) : row.get? name = some term := by
  rw [Solution.bound, List.mem_filterMap] at bound
  obtain ⟨⟨found, content⟩, mem, equal⟩ := bound
  obtain ⟨held, rfl, pair⟩ := Option.map_eq_some_iff.mp equal
  obtain ⟨rfl, rfl⟩ := Prod.mk.inj pair
  have search : row.columns.find? (·.1 == found) = some (found, some held) :=
    find?_key_eq_some distinct mem
  rw [get?, search]
  rfl

end Solution

/-- The record of a row holds what the row gives. -/
theorem holds_rowRecord {row : Solution} {path : List String} {text : String} :
    (rowRecord [] row).Holds path text ↔ row.Gives path text := by
  have names : ∀ column : String, path = (namesOfColumn column.toList).map String.ofList ↔
      SplitsInto column.toList (path.map String.toList) := by
    intro column
    rw [splitsInto_iff]
    constructor
    · rintro rfl
      simp [Function.comp_def]
    · intro equal
      simp [equal, Function.comp_def]
  rw [rowRecord, ColumnTree.holds_toRecord, ColumnTree.holds_ofColumns]
  simp only [names]
  constructor
  · rintro ⟨column, found, splits, rfl⟩
    obtain ⟨bound, mem, rfl⟩ := List.mem_map.mp found
    exact ⟨bound, List.mem_of_mem_filter mem, splits, rfl⟩
  · rintro ⟨bound, mem, splits, rfl⟩
    have kept : bound ∈ row.bound.filter fun column => !([] : List String).contains column.1 :=
      List.mem_filter.mpr ⟨mem, rfl⟩
    exact ⟨(bound.1, bound.2.value), List.mem_map.mpr ⟨bound, kept, rfl⟩, splits, rfl⟩

theorem built_rowRecord (skipped : List String) (row : Solution) :
    (rowRecord skipped row).Built :=
  ColumnTree.built_toRecord _

theorem rowRecord_eq (skipped : List String) (row : Solution) :
    rowRecord skipped row = rowRecord [] (row.without skipped) := by
  simp [rowRecord, Solution.bound_without]

end FacetedQuery
