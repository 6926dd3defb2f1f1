import FacetedQuery.Proofs.Objects.Grouping
import FacetedQuery.Proofs.Record.Likeness

/-!
# The arrangement of rows

Rows may be read in parts: the objects of the parts are united, and records with one id merged.
Rows that occur twice count once, and the order of rows shows in the order of objects, properties
and values only: each object is the least record that absorbs the records of its rows.
-/

namespace FacetedQuery

open Keyed

/-- Records that join objects one by one join them as the objects that they make. -/
theorem foldl_put_grouped {objects records : List Record}
    (former : ∀ object ∈ objects, object.Identified)
    (distinct : (objects.map Record.id?).Nodup)
    (identified : ∀ record ∈ records, record.Identified) :
    records.foldl (fun objects record => put Record.id? Record.merge record objects) objects =
      union Record.id? Record.merge objects (grouped records) := by
  induction records using List.reverseRecOn with
  | nil => exact union_nil_right.symm
  | append_singleton records last induction =>
      have earlier : ∀ record ∈ records, record.Identified := fun record found =>
        identified record (List.mem_append_left _ found)
      have new : ∀ record ∈ [last], record.Identified := fun record found =>
        identified record (List.mem_append_right _ found)
      have apart := distinct_grouped earlier
      have groups := grouped_identified earlier
      rw [List.foldl_append, induction earlier, List.foldl_cons, List.foldl_nil, grouped_append,
        put_eq_union (nodup_union (keeps_ids groups) distinct apart), put_eq_union apart]
      refine union_assoc apart (by simp) (keeps_ids groups) (keeps_ids new) ?_
      intro object inObjects group inGroups record isLast _ _
      exact Record.merge_assoc (former object inObjects).1 (groups group inGroups).1
        (new record isLast).1

/-- Rows may be read in two parts: the objects of the second part are merged into those of the first
part with the same ids, and those with new ids follow in their order.  For records whose names,
values and ids are apart, merging is associative down to the order of names and values. -/
theorem readObjects_append :
    (∀ record second third : Record, record.Proper → second.Proper → third.Proper →
      (record.merge second).merge third = record.merge (second.merge third)) ∧
    ∀ (rows others : List Solution) (objects further : List Record),
      readObjects rows = .ok objects → readObjects others = .ok further →
        readObjects (rows ++ others) = .ok
          (objects.map (fun object =>
              (further.find? (·.id? = object.id?)).elim object object.merge) ++
            further.filter (·.id? ∉ objects.map Record.id?)) := by
  refine ⟨fun record second third proper secondProper thirdProper =>
    Record.merge_assoc proper secondProper thirdProper, ?_⟩
  intro rows others objects further read readOthers
  obtain ⟨known, rfl⟩ := readObjects_eq_ok.mp read
  obtain ⟨otherKnown, rfl⟩ := readObjects_eq_ok.mp readOthers
  have identified := identified_rowRecord known
  rw [readObjects_eq_ok]
  refine ⟨fun row found => ?_, ?_⟩
  · rcases List.mem_append.mp found with inRows | inOthers
    · exact known row inRows
    · exact otherKnown row inOthers
  · have parts : grouped (rows.map (rowRecord []) ++ others.map (rowRecord [])) =
        union Record.id? Record.merge (grouped (rows.map (rowRecord [])))
          (grouped (others.map (rowRecord []))) := by
      rw [grouped, List.foldl_append]
      exact foldl_put_grouped (grouped_identified identified) (distinct_grouped identified)
        (identified_rowRecord otherKnown)
    rw [List.map_append, parts, union]
    congr 1
    · refine List.map_congr_left fun object _ => ?_
      rw [joined]
      cases (grouped (others.map (rowRecord []))).find? (·.id? = object.id?) <;> rfl
    · exact List.filter_congr fun _ _ => decide_eq_decide.mpr Iff.rfl

/-- The rows of a manuscript may be read one by one. -/
theorem readObjects_append_gospels :
    (author "Beda" []).Proper ∧ (author "Bede" []).Proper ∧
      ((author "Beda" []).merge (author "Bede" [])).merge (author "Beda" []) =
        (author "Beda" []).merge ((author "Bede" []).merge (author "Beda" [])) ∧
      readObjects [gospelsRow "Beda"] = .ok [sortedGospels (author "Beda" [])] ∧
      readObjects [gospelsRow "Bede"] = .ok [sortedGospels (author "Bede" [])] ∧
      readObjects ([gospelsRow "Beda"] ++ [gospelsRow "Bede"]) =
        .ok [(sortedGospels (author "Beda" [])).merge (sortedGospels (author "Bede" []))] := by
  have proper := (built_author "Beda").proper
  have otherProper := (built_author "Bede").proper
  have first : readObjects [gospelsRow "Beda"] = .ok [sortedGospels (author "Beda" [])] := by cbv
  have second : readObjects [gospelsRow "Bede"] = .ok [sortedGospels (author "Bede" [])] := by cbv
  obtain ⟨merging, parts⟩ := readObjects_append
  exact ⟨proper, otherProper, merging _ _ _ proper otherProper proper, first, second,
    (parts _ _ _ _ first second).trans (by cbv)⟩

/-- Objects sum up records: each record is absorbed by the object with its id, and an object is the
least record that absorbs all records with its id. -/
structure SumsUp (objects records : List Record) : Prop where
  identified : ∀ object ∈ objects, object.Identified
  distinct : (objects.map Record.id?).Nodup
  source : ∀ object ∈ objects, ∃ record ∈ records, record.id? = object.id?
  absorbs : ∀ record ∈ records, ∃ object ∈ objects, object.id? = record.id? ∧
    object.Absorbs record
  least : ∀ object ∈ objects, ∀ other : Record, other.Proper →
    (∀ record ∈ records, record.id? = object.id? → other.Absorbs record) → other.Absorbs object

variable {objects records : List Record} {record : Record}

theorem sumsUp_nil : SumsUp [] [] :=
  ⟨nofun, List.nodup_nil, nofun, nofun, nofun⟩

/-- One more record is summed up by putting it into the objects. -/
theorem SumsUp.put (sums : SumsUp objects records) (identified : record.Identified)
    (former : ∀ record ∈ records, record.Identified) :
    SumsUp (put Record.id? Record.merge record objects) (records ++ [record]) := by
  have single : ∀ other ∈ [record], other.Identified := by simpa using identified
  have whole : ∀ object ∈ Keyed.put Record.id? Record.merge record objects, object.Identified :=
    forall_mem_put sums.identified identified fun other old same =>
      (sums.identified other old).merge identified same
  refine ⟨whole, nodup_put (keeps_ids single) sums.distinct, ?_, ?_, ?_⟩
  -- Merging keeps the id, so each object still has the id of a record.
  · intro object found
    rcases of_mem_put found with old | rfl | ⟨other, old, same, rfl⟩
    · obtain ⟨source, mem, equal⟩ := sums.source object old
      exact ⟨source, List.mem_append_left _ mem, equal⟩
    · exact ⟨object, by simp, rfl⟩
    · exact ⟨record, by simp, by rw [keeps_ids single other old record (by simp) same, same]⟩
  -- What was absorbed stays absorbed, and the record itself is absorbed by what it is merged into.
  · intro absorbed found
    rcases List.mem_append.mp found with earlier | last
    · obtain ⟨object, mem, same, absorbs⟩ := sums.absorbs absorbed earlier
      have proper := (sums.identified object mem).1
      have outcome : object ∈ Keyed.put Record.id? Record.merge record objects ∨
          object.id? = record.id? ∧
            object.merge record ∈ Keyed.put Record.id? Record.merge record objects :=
        kept_or_joined mem
      rcases outcome with kept | ⟨equal, joined⟩
      · exact ⟨object, kept, same, absorbs⟩
      · refine ⟨object.merge record, joined, ?_, ?_⟩
        · rw [keeps_ids single object mem record (by simp) equal, same]
        · exact (Record.absorbs_merge_left proper identified.1).trans
            (proper.merge identified.1) proper (former absorbed earlier).1 absorbs
    · rw [List.mem_singleton.mp last]
      obtain ⟨-, result⟩ | ⟨before, object, after, rfl, -, same, result⟩ :=
        put_cases Record.id? Record.merge record objects
      · exact ⟨record, by simp [result], rfl, Record.merge_self identified.1⟩
      · have inObjects : object ∈ before ++ object :: after := by simp
        refine ⟨object.merge record, by simp [result], ?_, ?_⟩
        · rw [keeps_ids single object inObjects record (by simp) same, same]
        · exact Record.absorbs_merge_right (sums.identified object inObjects).1 identified.1
  -- Whatever absorbs all records absorbs the former object and the record, hence their merge.
  · intro object found other proper absorbs
    have restricted : ∀ former ∈ objects, former.id? = object.id? → other.Absorbs former := by
      intro former mem same
      refine sums.least former mem other proper fun absorbed earlier equal => ?_
      exact absorbs absorbed (List.mem_append_left _ earlier) (equal.trans same)
    rcases of_mem_put found with old | rfl | ⟨former, old, same, rfl⟩
    · exact restricted object old rfl
    · exact absorbs object (by simp) rfl
    · have kept := keeps_ids single former old record (by simp) same
      exact (restricted former old kept.symm).merge proper (sums.identified former old).1
        identified.1 (absorbs record (by simp) (same.symm.trans kept.symm))

theorem sumsUp_grouped (identified : ∀ record ∈ records, record.Identified) :
    SumsUp (grouped records) records := by
  induction records using List.reverseRecOn with
  | nil => exact sumsUp_nil
  | append_singleton records last induction =>
      have earlier : ∀ record ∈ records, record.Identified := fun record found =>
        identified record (List.mem_append_left _ found)
      rw [grouped_append]
      exact (induction earlier).put (identified last (by simp)) earlier

/-- A record that has been summed up changes nothing if it arrives again. -/
theorem SumsUp.put_eq_self (sums : SumsUp objects records) (known : record ∈ records) :
    Keyed.put Record.id? Record.merge record objects = objects := by
  obtain ⟨object, found, same, absorbs⟩ := sums.absorbs record known
  obtain ⟨fresh, -⟩ | ⟨before, first, after, rfl, -, equal, result⟩ :=
    put_cases Record.id? Record.merge record objects
  · exact absurd (List.mem_map.mpr ⟨object, found, same⟩) fresh
  · obtain rfl : first = object :=
      List.inj_on_of_nodup_map sums.distinct (by simp) found (equal.trans same.symm)
    rw [result, absorbs]

/-- An object absorbs the object with the same id that sums up no further records. -/
theorem SumsUp.absorbs_object {others : List Record} {further : List Record}
    (sums : SumsUp objects records) (otherSums : SumsUp others further)
    (part : ∀ record ∈ records, record ∈ further) {object other : Record} (found : object ∈ objects)
    (otherFound : other ∈ others) (same : object.id? = other.id?) : other.Absorbs object := by
  refine sums.least object found other (otherSums.identified other otherFound).1 ?_
  intro record mem known
  obtain ⟨absorbing, inOthers, equal, absorbs⟩ := otherSums.absorbs record (part record mem)
  obtain rfl : absorbing = other := List.inj_on_of_nodup_map otherSums.distinct inOthers otherFound
    (equal.trans (known.trans same))
  exact absorbs

/-- Objects that sum up the same records are alike. -/
theorem SumsUp.alike {others : List Record} {further : List Record} (sums : SumsUp objects records)
    (otherSums : SumsUp others further) (same : ∀ record, record ∈ records ↔ record ∈ further) :
    Multiset.Rel Record.Alike ↑objects ↑others := by
  have ids : ∀ {objects others records further : List Record}, SumsUp objects records →
      SumsUp others further → (∀ record ∈ records, record ∈ further) →
      ∀ wanted ∈ objects.map Record.id?, wanted ∈ others.map Record.id? := by
    intro objects others records further sums otherSums part wanted found
    obtain ⟨object, mem, rfl⟩ := List.mem_map.mp found
    obtain ⟨record, source, known⟩ := sums.source object mem
    obtain ⟨other, inOthers, equal, -⟩ := otherSums.absorbs record (part record source)
    exact List.mem_map.mpr ⟨other, inOthers, equal.trans known⟩
  have part := fun record => (same record).mp
  have back := fun record => (same record).mpr
  refine rel_of_keys sums.distinct otherSums.distinct
    (fun wanted => ⟨ids sums otherSums part wanted, ids otherSums sums back wanted⟩) ?_
  intro object found other otherFound equal
  exact Record.alike_of_absorbs (sums.identified object found).1
    (otherSums.identified other otherFound).1
    (otherSums.absorbs_object sums back otherFound found equal.symm)
    (sums.absorbs_object otherSums part found otherFound equal)

theorem rowRecord_congr {row other : Solution} (same : row.bound = other.bound) :
    rowRecord [] row = rowRecord [] other := by
  rw [rowRecord, rowRecord, same]

theorem mem_rowRecords_of_bound {rows others : List Solution}
    (same : ∀ columns, columns ∈ rows.map Solution.bound → columns ∈ others.map Solution.bound) :
    ∀ record ∈ rows.map (rowRecord []), record ∈ others.map (rowRecord []) := by
  intro record found
  obtain ⟨row, mem, rfl⟩ := List.mem_map.mp found
  obtain ⟨other, inOthers, equal⟩ := List.mem_map.mp (same row.bound (List.mem_map_of_mem mem))
  exact List.mem_map.mpr ⟨other, inOthers, rowRecord_congr equal⟩

/-- Objects depend on the set of rows: a row that binds what a row before it binds changes nothing,
and rows that bind the same in another order, as often as they like, have objects that differ in the
order of objects, properties and values at most. -/
theorem readObjects_rowSet {rows : List Solution} {objects : List Record}
    (read : readObjects rows = .ok objects) :
    (∀ row : Solution, row.bound ∈ rows.map Solution.bound →
      readObjects (rows ++ [row]) = .ok objects) ∧
    (∀ others : List Solution, rows.Perm others → ∃ further, readObjects others = .ok further ∧
      Multiset.Rel Record.Alike ↑objects ↑further) ∧
    ∀ others : List Solution,
      (∀ columns, columns ∈ rows.map Solution.bound ↔ columns ∈ others.map Solution.bound) →
      ∃ further, readObjects others = .ok further ∧
        Multiset.Rel Record.Alike ↑objects ↑further := by
  obtain ⟨known, rfl⟩ := readObjects_eq_ok.mp read
  have sums := sumsUp_grouped (identified_rowRecord known)
  have sets : ∀ others : List Solution,
      (∀ columns, columns ∈ rows.map Solution.bound ↔ columns ∈ others.map Solution.bound) →
      ∃ further, readObjects others = .ok further ∧
        Multiset.Rel Record.Alike ↑(grouped (rows.map (rowRecord []))) ↑further := by
    intro others same
    have otherKnown : ∀ row ∈ others, ∃ id, (rowRecord [] row).id? = some id := by
      intro row found
      obtain ⟨other, mem, equal⟩ :=
        List.mem_map.mp ((same row.bound).mpr (List.mem_map_of_mem found))
      rw [← rowRecord_congr equal]
      exact known other mem
    refine ⟨_, readObjects_eq_ok.mpr ⟨otherKnown, rfl⟩, ?_⟩
    refine sums.alike (sumsUp_grouped (identified_rowRecord otherKnown)) fun record => ⟨?_, ?_⟩
    · exact mem_rowRecords_of_bound (fun columns => (same columns).mp) record
    · exact mem_rowRecords_of_bound (fun columns => (same columns).mpr) record
  refine ⟨fun row found => ?_, fun others permutation => ?_, sets⟩
  · obtain ⟨former, mem, equal⟩ := List.mem_map.mp found
    have record : rowRecord [] former = rowRecord [] row := rowRecord_congr equal
    rw [readObjects_eq_ok, List.map_append, List.map_singleton, grouped_append, ← record,
      sums.put_eq_self (List.mem_map_of_mem mem)]
    refine ⟨fun other found => ?_, rfl⟩
    rcases List.mem_append.mp found with inRows | isLast
    · exact known other inRows
    · rw [List.mem_singleton.mp isLast, ← record]
      exact known former mem
  · exact sets others fun columns => (permutation.map Solution.bound).mem_iff

/-- The rows of a manuscript in the other order show in the order of the names of its author. -/
theorem readObjects_rowSet_gospels :
    readObjects [gospelsRow "Beda", gospelsRow "Bede"] =
        .ok [sortedGospels (author "Beda" ["Bede"])] ∧
      readObjects ([gospelsRow "Beda", gospelsRow "Bede"] ++ [gospelsRow "Beda"]) =
        .ok [sortedGospels (author "Beda" ["Bede"])] ∧
      readObjects [gospelsRow "Bede", gospelsRow "Beda"] =
        .ok [sortedGospels (author "Bede" ["Beda"])] ∧
      Multiset.Rel Record.Alike ↑[sortedGospels (author "Beda" ["Bede"])]
        ↑[sortedGospels (author "Bede" ["Beda"])] := by
  have read : readObjects [gospelsRow "Beda", gospelsRow "Bede"] =
      .ok [sortedGospels (author "Beda" ["Bede"])] := by cbv
  have swapped : readObjects [gospelsRow "Bede", gospelsRow "Beda"] =
      .ok [sortedGospels (author "Bede" ["Beda"])] := by cbv
  obtain ⟨absorbed, permuted, -⟩ := readObjects_rowSet read
  obtain ⟨further, readFurther, alike⟩ := permuted _ (List.Perm.swap _ _ [])
  rw [swapped, Except.ok.injEq] at readFurther
  subst readFurther
  exact ⟨read, absorbed _ (by simp), swapped, alike⟩

end FacetedQuery
