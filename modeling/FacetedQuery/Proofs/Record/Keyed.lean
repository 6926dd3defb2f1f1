import Mathlib.Data.List.Induction
import Mathlib.Data.List.Nodup

/-!
# Keyed lists

Lists whose items bear keys.  An item that arrives joins the first one that bears its key, and is
put behind all of them if there is none.  Two lists whose items bear distinct keys have a union,
which keeps the order of the first list and then that of the second one; it is what comes of the
items of the second list arriving one by one.  Laws of joining items are laws of the union.
-/

namespace FacetedQuery.Keyed

variable {α κ : Type} [DecidableEq κ] (key : α → κ) (join : α → α → α)

/-- The items after one more arrived. -/
def put (item : α) : List α → List α
  | [] => [item]
  | found :: rest =>
    if key found = key item then join found item :: rest else found :: put item rest

/-- An item, joined by the first one of a list that bears its key. -/
def joined (others : List α) (item : α) : α :=
  match others.find? (key · = key item) with
  | some other => join item other
  | none => item

/-- The items of one list, joined by those of another one, and what is left of those. -/
def union (left right : List α) : List α :=
  left.map (joined key join right) ++ right.filter (key · ∉ left.map key)

/-- Joining an item to one with its key leaves the key. -/
def Keeps (left right : List α) : Prop :=
  ∀ item ∈ left, ∀ other ∈ right, key item = key other → key (join item other) = key item

variable {key join} {item other : α} {items left middle right : List α}

/-- An item is new and comes last, or joins the first one that bears its key. -/
theorem put_cases (key : α → κ) (join : α → α → α) (item : α) (items : List α) :
    (key item ∉ items.map key ∧ put key join item items = items ++ [item]) ∨
    ∃ before found after, items = before ++ found :: after ∧ key item ∉ before.map key ∧
      key found = key item ∧
      put key join item items = before ++ join found item :: after := by
  induction items with
  | nil => exact .inl ⟨by simp, rfl⟩
  | cons first rest induction =>
      by_cases same : key first = key item
      · exact .inr ⟨[], first, rest, rfl, by simp, same, by simp [put, same]⟩
      · have step : put key join item (first :: rest) = first :: put key join item rest :=
          if_neg same
        obtain ⟨fresh, last⟩ | ⟨before, found, after, rfl, fresh, equal, result⟩ := induction
        · refine .inl ⟨?_, by rw [step, last]; rfl⟩
          rw [List.map_cons, List.mem_cons]
          rintro (equal | later)
          · exact same equal.symm
          · exact fresh later
        · refine .inr ⟨first :: before, found, after, rfl, ?_, equal, by rw [step, result]; rfl⟩
          rw [List.map_cons, List.mem_cons]
          rintro (equal | later)
          · exact same equal.symm
          · exact fresh later

theorem keys_put (keeps : Keeps key join items [item]) :
    (put key join item items).map key =
      if key item ∈ items.map key then items.map key else items.map key ++ [key item] := by
  obtain ⟨fresh, result⟩ | ⟨before, found, after, rfl, -, same, result⟩ :=
    put_cases key join item items
  · rw [result, if_neg fresh, List.map_append, List.map_singleton]
  · have kept := keeps found (by simp) item (by simp) same
    rw [result, if_pos (by simp [same])]
    simp [kept]

theorem nodup_put (keeps : Keeps key join items [item]) (distinct : (items.map key).Nodup) :
    ((put key join item items).map key).Nodup := by
  rw [keys_put keeps]
  split
  · exact distinct
  · next fresh => exact distinct.append (List.nodup_singleton _) (by simpa using fresh)

theorem of_mem_put {value : α} (found : value ∈ put key join item items) :
    value ∈ items ∨ value = item ∨
      ∃ other ∈ items, key other = key item ∧ value = join other item := by
  obtain ⟨-, result⟩ | ⟨before, other, after, rfl, -, same, result⟩ :=
    put_cases key join item items
  · rw [result, List.mem_append, List.mem_singleton] at found
    exact found.imp_right .inl
  · rw [result, List.mem_append, List.mem_cons] at found
    rcases found with before | rfl | after
    · exact .inl (by simp [before])
    · exact .inr (.inr ⟨other, by simp, same, rfl⟩)
    · exact .inl (by simp [after])

theorem forall_mem_put {property : α → Prop} (former : ∀ other ∈ items, property other)
    (arrived : property item)
    (joins : ∀ other ∈ items, key other = key item → property (join other item)) :
    ∀ value ∈ put key join item items, property value := by
  intro value found
  rcases of_mem_put found with old | rfl | ⟨other, old, same, rfl⟩
  · exact former value old
  · exact arrived
  · exact joins other old same

/-- No item is lost, unless the one that arrived joined it. -/
theorem kept_or_joined {value : α} (found : value ∈ items) :
    value ∈ put key join item items ∨
      key value = key item ∧ join value item ∈ put key join item items := by
  obtain ⟨-, result⟩ | ⟨before, other, after, rfl, -, same, result⟩ :=
    put_cases key join item items
  · exact .inl (by simp [result, found])
  · rw [result]
    rcases List.mem_append.mp found with early | late
    · exact .inl (by simp [early])
    · rcases List.mem_cons.mp late with rfl | later
      · exact .inr ⟨same, by simp⟩
      · exact .inl (by simp [later])

/-- What an item has that arrives, the items have from then on, and nothing else. -/
theorem exists_mem_put {has : α → Prop} (joins : ∀ found ∈ items, key found = key item →
      (has (join found item) ↔ has found ∨ has item)) :
    (∃ value ∈ put key join item items, has value) ↔ (∃ value ∈ items, has value) ∨ has item := by
  obtain ⟨-, result⟩ | ⟨before, other, after, rfl, -, same, result⟩ :=
    put_cases key join item items
  · simp only [result, List.mem_append, List.mem_singleton]
    grind
  · have both := joins other (by simp) same
    simp only [result, List.mem_append, List.mem_cons]
    grind

/-- What arrives in two parts arrives at once if its parts are one. -/
theorem put_put {second whole : α} (sameSecond : key second = key item)
    (sameWhole : key whole = key item) (keeps : Keeps key join items [item])
    (parts : join item second = whole)
    (joins : ∀ found ∈ items, key found = key item →
      join (join found item) second = join found whole) :
    put key join second (put key join item items) = put key join whole items := by
  induction items with
  | nil => simp [put, sameSecond, parts]
  | cons first rest induction =>
      by_cases same : key first = key item
      · have kept := keeps first (by simp) item (by simp) same
        simp [put, same, sameSecond, sameWhole, kept, joins first (by simp) same]
      · have later := induction (fun found mem => keeps found (List.mem_cons_of_mem _ mem))
          (fun found mem => joins found (List.mem_cons_of_mem _ mem))
        simp [put, same, sameSecond, sameWhole, later]

/-- A map that leaves the keys and commutes with joining commutes with the arrival of an item. -/
theorem map_put {β : Type} {otherKey : β → κ} {otherJoin : β → β → β} {image : α → β}
    (keys : ∀ value, otherKey (image value) = key value)
    (joins : ∀ found ∈ items, key found = key item →
      image (join found item) = otherJoin (image found) (image item)) :
    (put key join item items).map image = put otherKey otherJoin (image item)
    (items.map image) := by
  induction items with
  | nil => rfl
  | cons first rest induction =>
      by_cases same : key first = key item
      · simp [put, keys, same, joins first (by simp) same]
      · have later := induction fun found mem => joins found (List.mem_cons_of_mem _ mem)
        simp [put, keys, same, later]

theorem flatten_put {groupKey : List α → κ} {group : List α} {groups : List (List α)} :
    (put groupKey (· ++ ·) group groups).flatten.Perm (groups.flatten ++ group) := by
  induction groups with
  | nil => simp [put]
  | cons first rest induction =>
      rw [put]
      split
      · simpa using (List.perm_append_comm.append_left first)
      · simpa using induction.append_left first

theorem find?_put_of_ne {wanted : κ} (keeps : Keeps key join items [item])
    (different : key item ≠ wanted) :
    (put key join item items).find? (key · = wanted) = items.find? (key · = wanted) := by
  obtain ⟨-, result⟩ | ⟨before, found, after, rfl, -, same, result⟩ :=
    put_cases key join item items
  · rw [result]
    simp [different]
  · have kept := keeps found (by simp) item (by simp) same
    rw [result, List.find?_append, List.find?_append,
      List.find?_cons_of_neg (by simpa [kept, same] using different),
      List.find?_cons_of_neg (by simpa [same] using different)]

theorem find?_put_self {wanted : κ} (keeps : Keeps key join items [item])
    (asked : key item = wanted) :
    (put key join item items).find? (key · = wanted) =
      some (((items.find? (key · = wanted)).map (join · item)).getD item) := by
  subst asked
  obtain ⟨fresh, result⟩ | ⟨before, found, after, rfl, fresh, same, result⟩ :=
    put_cases key join item items
  · have nothing : items.find? (key · = key item) = none := by
      simpa [List.find?_eq_none] using fresh
    rw [result, List.find?_append, nothing]
    simp
  · have kept := keeps found (by simp) item (by simp) same
    have nothing : before.find? (key · = key item) = none := by
      simpa [List.find?_eq_none] using fresh
    rw [result, List.find?_append, List.find?_append, nothing,
      List.find?_cons_of_pos (by simpa [same] using kept),
      List.find?_cons_of_pos (by simpa using same)]
    rfl

theorem find?_key_eq_none {wanted : κ} :
    items.find? (key · = wanted) = none ↔ wanted ∉ items.map key := by
  simp [List.find?_eq_none]

theorem find?_key_eq_some (distinct : (items.map key).Nodup) (found : item ∈ items) :
    items.find? (key · = key item) = some item := by
  cases search : items.find? (key · = key item) with
  | none => exact absurd (List.mem_map_of_mem found) (find?_key_eq_none.mp search)
  | some first =>
      have same : key first = key item := by simpa using List.find?_some search
      have mem := List.mem_of_find?_eq_some search
      rw [List.inj_on_of_nodup_map distinct mem found same]

theorem joined_of_not_mem (fresh : key item ∉ right.map key) :
    joined key join right item = item := by
  rw [joined, find?_key_eq_none.mpr fresh]

theorem joined_of_mem (distinct : (right.map key).Nodup) (found : other ∈ right)
    (same : key item = key other) : joined key join right item = join item other := by
  rw [joined, same, find?_key_eq_some distinct found]

theorem joined_cases (key : α → κ) (join : α → α → α) (right : List α) (item : α) :
    (key item ∉ right.map key ∧ joined key join right item = item) ∨
    ∃ other ∈ right, key item = key other ∧ joined key join right item = join item other := by
  cases search : right.find? (key · = key item) with
  | none => exact .inl ⟨find?_key_eq_none.mp search, by rw [joined, search]⟩
  | some other =>
      refine .inr ⟨other, List.mem_of_find?_eq_some search, ?_, by rw [joined, search]⟩
      simpa [eq_comm] using List.find?_some search

theorem key_joined (keeps : Keeps key join left right) (found : item ∈ left) :
    key (joined key join right item) = key item := by
  obtain ⟨-, same⟩ | ⟨other, mem, equal, result⟩ := joined_cases key join right item
  · rw [same]
  · rw [result, keeps item found other mem equal]

theorem keys_map_joined (keeps : Keeps key join left right) :
    (left.map (joined key join right)).map key = left.map key := by
  rw [List.map_map]
  exact List.map_congr_left fun item found => key_joined keeps found

theorem keys_union (keeps : Keeps key join left right) :
    (union key join left right).map key =
      left.map key ++ (right.map key).filter (· ∉ left.map key) := by
  rw [union, List.map_append, keys_map_joined keeps, List.filter_map]
  rfl

theorem nodup_union (keeps : Keeps key join left right) (distinct : (left.map key).Nodup)
    (others : (right.map key).Nodup) : ((union key join left right).map key).Nodup := by
  rw [keys_union keeps]
  refine distinct.append (others.filter _) ?_
  intro wanted inLeft inRight
  simpa [inLeft] using List.of_mem_filter inRight

theorem mem_union {value : α} : value ∈ union key join left right ↔
    (∃ item ∈ left, joined key join right item = value) ∨
      (value ∈ right ∧ key value ∉ left.map key) := by
  simp [union]

theorem map_eq_self_iff {change : α → α} :
    items.map change = items ↔ ∀ item ∈ items, change item = item := by
  induction items with
  | nil => simp
  | cons first rest induction => simp [induction]

/-- A list takes up another one exactly if it bears all keys of it and no item changes. -/
theorem union_eq_left : union key join left right = left ↔
    (∀ other ∈ right, key other ∈ left.map key) ∧
      ∀ item ∈ left, joined key join right item = item := by
  constructor
  · intro equal
    have size := congrArg List.length equal
    have nothing : right.filter (key · ∉ left.map key) = [] := by
      rw [union, List.length_append, List.length_map] at size
      exact List.length_eq_zero_iff.mp (by omega)
    rw [union, nothing, List.append_nil] at equal
    refine ⟨fun other found => ?_, map_eq_self_iff.mp equal⟩
    simpa using List.filter_eq_nil_iff.mp nothing other found
  · rintro ⟨known, same⟩
    have nothing : right.filter (key · ∉ left.map key) = [] := by
      refine List.filter_eq_nil_iff.mpr fun other found => ?_
      simpa using known other found
    rw [union, map_eq_self_iff.mpr same, nothing, List.append_nil]

theorem put_eq_union (distinct : (items.map key).Nodup) :
    put key join item items = union key join items [item] := by
  have untouched : ∀ part : List α, key item ∉ part.map key →
      part.map (joined key join [item]) = part := by
    intro part fresh
    refine map_eq_self_iff.mpr fun other found => joined_of_not_mem ?_
    rw [List.map_singleton, List.mem_singleton]
    intro same
    exact fresh (same ▸ List.mem_map_of_mem found)
  obtain ⟨fresh, result⟩ | ⟨before, found, after, rfl, fresh, same, result⟩ :=
    put_cases key join item items
  · have new : [item].filter (key · ∉ items.map key) = [item] := by
      simpa using fresh
    rw [result, union, untouched items fresh, new]
  · have later : key item ∉ after.map key := by
      rw [List.map_append, List.map_cons] at distinct
      rw [← same]
      exact (List.nodup_cons.mp distinct.of_append_right).1
    have here : joined key join [item] found = join found item :=
      joined_of_mem (by simp) (by simp) same
    have known : [item].filter (key · ∉ (before ++ found :: after).map key) = [] := by
      simp [same]
    rw [result, union, known, List.append_nil, List.map_append, List.map_cons,
      untouched before fresh, untouched after later, here]

theorem union_nil_right : union key join left [] = left :=
  union_eq_left.mpr ⟨by simp, fun _ _ => rfl⟩

/-- Two joins in turn are a join with what the union has for the key. -/
theorem joined_joined (distinct : (middle.map key).Nodup) (others : (right.map key).Nodup)
    (keepsItem : Keeps key join [item] middle) (keeps : Keeps key join middle right)
    (assoc : ∀ second ∈ middle, ∀ third ∈ right, key item = key second → key second = key third →
      join (join item second) third = join item (join second third)) :
    joined key join right (joined key join middle item) =
      joined key join (union key join middle right) item := by
  have distinctUnion := nodup_union keeps distinct others
  obtain ⟨fresh, alone⟩ | ⟨second, inMiddle, same, first⟩ := joined_cases key join middle item
  · rw [alone]
    obtain ⟨freshRight, result⟩ | ⟨third, inRight, same, result⟩ := joined_cases key join right item
    · rw [result, joined_of_not_mem]
      rw [keys_union keeps, List.mem_append, List.mem_filter]
      rintro (inMiddle | ⟨inRight, -⟩)
      · exact fresh inMiddle
      · exact freshRight inRight
    · rw [result, joined_of_mem distinctUnion (mem_union.mpr (.inr ⟨inRight, same ▸ fresh⟩)) same]
  · have kept : key (join item second) = key second :=
      (keepsItem item (by simp) second inMiddle same).trans same
    rw [first]
    obtain ⟨freshRight, result⟩ | ⟨third, inRight, sameRight, result⟩ :=
      joined_cases key join right second
    · rw [joined_of_not_mem (kept ▸ freshRight),
        joined_of_mem distinctUnion (mem_union.mpr (.inl ⟨second, inMiddle, result⟩)) same]
    · have sameJoined : key item = key (join second third) :=
        same.trans (keeps second inMiddle third inRight sameRight).symm
      rw [joined_of_mem others inRight (kept.trans sameRight),
        joined_of_mem distinctUnion (mem_union.mpr (.inl ⟨second, inMiddle, result⟩)) sameJoined,
        assoc second inMiddle third inRight same sameRight]

/-- The union of lists is associative where joining their items is. -/
theorem union_assoc (distinct : (middle.map key).Nodup) (others : (right.map key).Nodup)
    (keepsLeft : Keeps key join left middle) (keeps : Keeps key join middle right)
    (assoc : ∀ first ∈ left, ∀ second ∈ middle, ∀ third ∈ right,
      key first = key second → key second = key third →
      join (join first second) third = join first (join second third)) :
    union key join (union key join left middle) right =
      union key join left (union key join middle right) := by
  -- Both sides are the items of the left list, then what is new in the middle one, then what is new
  -- in the right one, each joined by all that come later.
  have front : (left.map (joined key join middle)).map (joined key join right) =
      left.map (joined key join (union key join middle right)) := by
    rw [List.map_map]
    refine List.map_congr_left fun item found => ?_
    refine joined_joined distinct others ?_ keeps (assoc item found)
    intro first isItem second inMiddle
    rw [List.mem_singleton.mp isItem]
    exact keepsLeft item found second inMiddle
  have between : (middle.filter (key · ∉ left.map key)).map (joined key join right) =
      (middle.map (joined key join right)).filter (key · ∉ left.map key) := by
    rw [List.filter_map]
    congr 1
    refine List.filter_congr fun item found => ?_
    simp only [Function.comp_apply, key_joined keeps found]
  have back : right.filter (key · ∉ (union key join left middle).map key) =
      (right.filter (key · ∉ middle.map key)).filter (key · ∉ left.map key) := by
    rw [List.filter_filter, keys_union keepsLeft]
    refine List.filter_congr fun item _ => ?_
    rw [← Bool.decide_and, decide_eq_decide, List.mem_append, List.mem_filter]
    by_cases known : key item ∈ left.map key
    · simp only [known, true_or, not_true_eq_false, false_and]
    · simp only [known, false_or, not_false_eq_true, decide_true, and_true, true_and]
  have inFront : (union key join left middle).map (joined key join right) =
      left.map (joined key join (union key join middle right)) ++
        (middle.filter (key · ∉ left.map key)).map (joined key join right) := by
    rw [union, List.map_append, front]
  have behind : (union key join middle right).filter (key · ∉ left.map key) =
      (middle.filter (key · ∉ left.map key)).map (joined key join right) ++
        right.filter (key · ∉ (union key join left middle).map key) := by
    rw [between, back, union, List.filter_append]
  rw [union, inFront, List.append_assoc, ← behind]
  rfl

/-- The items of a list that arrive one by one make the union. -/
theorem foldl_put (distinct : (left.map key).Nodup) (others : (right.map key).Nodup)
    (keeps : Keeps key join left right) :
    right.foldl (fun items item => put key join item items) left = union key join left right := by
  induction right using List.reverseRecOn with
  | nil => exact union_nil_right.symm
  | append_singleton right last induction =>
      rw [List.map_append, List.nodup_append'] at others
      obtain ⟨othersDistinct, -, apart⟩ := others
      have fresh : key last ∉ right.map key := by simpa using apart
      have keepsRight : Keeps key join left right := fun item found other later =>
        keeps item found other (List.mem_append_left _ later)
      have alone : ∀ item ∈ right, key item ≠ key last := fun item found same =>
        fresh (same ▸ List.mem_map_of_mem found)
      have keepsLast : Keeps key join right [last] := by
        intro item found other isLast same
        rw [List.mem_singleton.mp isLast] at same
        exact absurd same (alone item found)
      rw [List.foldl_append, induction othersDistinct keepsRight, List.foldl_cons, List.foldl_nil,
        put_eq_union (nodup_union keepsRight distinct othersDistinct),
        union_assoc othersDistinct (by simp) keepsRight keepsLast, ← put_eq_union othersDistinct]
      · obtain ⟨-, result⟩ | ⟨before, found, after, rfl, -, same, -⟩ :=
          put_cases key join last right
        · rw [result]
        · exact absurd same (alone found (by simp))
      · intro first _ second inRight third isLast _ same
        rw [List.mem_singleton.mp isLast] at same
        exact absurd same (alone second inRight)

theorem union_self (distinct : (items.map key).Nodup)
    (same : ∀ item ∈ items, join item item = item) : union key join items items = items :=
  union_eq_left.mpr ⟨fun _ found => List.mem_map_of_mem found,
    fun item found => (joined_of_mem distinct found rfl).trans (same item found)⟩

/-- A list that has been taken up is not taken up again. -/
theorem union_union_self (distinct : (left.map key).Nodup) (keeps : Keeps key join left right)
    (same : ∀ item ∈ left, join item item = item)
    (again : ∀ item ∈ left, ∀ other ∈ right, key item = key other →
      join (join item other) item = join item other) :
    union key join (union key join left right) left = union key join left right := by
  refine union_eq_left.mpr ⟨fun item found => ?_, fun value found => ?_⟩
  · rw [keys_union keeps]
    exact List.mem_append_left _ (List.mem_map_of_mem found)
  · rcases mem_union.mp found with ⟨item, inLeft, rfl⟩ | ⟨-, fresh⟩
    · obtain ⟨-, result⟩ | ⟨other, inRight, equal, result⟩ := joined_cases key join right item
      · rw [result, joined_of_mem distinct inLeft rfl, same item inLeft]
      · have kept := keeps item inLeft other inRight equal
        rw [result, joined_of_mem distinct inLeft kept, again item inLeft other inRight equal]
    · exact joined_of_not_mem fresh

end FacetedQuery.Keyed
