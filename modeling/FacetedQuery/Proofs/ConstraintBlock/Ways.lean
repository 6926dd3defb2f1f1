import FacetedQuery.Proofs.ConstraintBlock.Meaning
import FacetedQuery.Proofs.ConstraintBlock.Tally
import Mathlib.Algebra.GroupWithZero.Nat

/-!
# In how many ways an entity meets a constraint

A filter has one solution for an entity for every choice that it leaves: a value along its
predicate, a selected IRI above it, a label, the ends of a time span, a pair of coordinates.  A
block has as many solutions for an entity as its constraints leave choices together.
-/

namespace FacetedQuery

open Clause (Bag Binding Expression Operators Pattern PropertyPath Store lexical?)
open Clause.Pattern (Admits Satisfies compatible_pair_iff conditions listBindable merge_pair pair)
open Rdf (Iri Term Variable)
open scoped Classical

namespace Clause.Store

variable (store : Store)

/-- The terms that a path leads to, as often as it does. -/
noncomputable def values (path : String) (term : Term) : Multiset Term :=
  ((store.links ⟨path⟩).filter fun link => link.1 = term).map Prod.snd

/-- The terms that an optional path leads to, or nothing. -/
noncomputable def ends (path : String) (term : Term) : Multiset (Option Term) :=
  if store.values path term = 0 then {none} else (store.values path term).map some

/-- Whether a repeated path leads from one node to another. -/
def Reaches (parent : String) (below above : Term) : Prop :=
  (below, above) ∈ store.links (PropertyPath.zeroOrMore ⟨parent⟩)

end Clause.Store

/-- A time span with these ends meets a range; an end that is missing is taken from the other
one. -/
def Clause.Operators.Overlaps (operators : Operators) (min max : Option Calendar.Date)
    (ends : Option Term × Option Term) : Prop :=
  (∀ date ∈ max, ∃ first ∈ ends.1.or ends.2,
    operators.atMost (.term first) (.literal (.typed date.render Rdf.xsdDate)) = some true) ∧
  (∀ date ∈ min, ∃ last ∈ ends.2.or ends.1,
    operators.atLeast (.term last) (.literal (.typed date.render Rdf.xsdDate)) = some true)

/-- The number of pairs of coordinates of a node that lie in a box. -/
noncomputable def Clause.Store.locations (store : Store) (operators : Operators)
    (paths : SpatialPaths) (corners : GeoBox) (located : Term) : ℕ :=
  (store.values paths.latitude located).countP (operators.Between corners.latMin corners.latMax) *
    (store.values paths.longitude located).countP
      (operators.Between corners.longMin corners.longMax)

/-- In how many ways an entity meets a value. -/
noncomputable def FilterValue.ways (store : Store) (operators : Operators) (facet : Facet)
    (entity : Term) : FilterValue → ℕ
  | .uris items withSubconcepts =>
    match facet.predicate, withSubconcepts, facet.parent with
    | some predicate, false, _ =>
      (store.values predicate entity).countP fun value => ∃ item ∈ items, value = .iri item
    | some predicate, true, some parent =>
      (items.map fun item => (store.values predicate entity).countP fun below =>
        store.Reaches parent below (.iri item)).sum
    | _, _, _ => 0
  | .text content =>
    match facet.labelPath with
    | some path => (store.values path entity).countP fun label =>
        ∃ lexical, lexical? label = some lexical ∧
          (Text.lowercase content).toList <:+: (operators.lowercase lexical).toList
    | none => 0
  | .timespan min max =>
    match facet.predicate, facet.timespan with
    | some predicate, some paths =>
      ((store.values predicate entity).map fun span =>
        (store.ends paths.start span ×ˢ store.ends paths.stop span).countP
          (operators.Overlaps min max)).sum
    | _, _ => 0
  | .box corners =>
    match facet.spatial, facet.predicate with
    | some paths, some predicate =>
      ((store.values predicate entity).map (store.locations operators paths corners)).sum
    | some paths, none => store.locations operators paths corners entity
    | none, _ => 0

namespace Clause.Bag

variable {store : Store} {operators : Operators} {solution : Binding}
  {subject object target : Variable} {path : String} {first last : Term}

theorem meet_pair (different : object ≠ subject) :
    solution.meet (pair subject object first last) =
      if Admits subject first solution ∧ Admits object last solution then
        { Function.update (Function.update solution subject (some first)) object (some last) }
      else 0 := by
  by_cases agrees : Admits subject first solution ∧ Admits object last solution
  · rw [if_pos agrees, Binding.meet_of_compatible ((compatible_pair_iff different).mpr agrees),
      merge_pair different agrees.1 agrees.2]
  · rw [if_neg agrees,
      Binding.meet_of_not_compatible (mt (compatible_pair_iff different).mp agrees)]

theorem extend_link (different : object ≠ subject) {path : PropertyPath} :
    extend store operators (.triple (.var subject) path (.var object)) { solution } =
      (store.links path).bind fun link => solution.meet (pair subject object link.1 link.2) := by
  have single : ∀ link : Term × Term,
      join (atNode link.1 (.var subject)) (atNode link.2 (.var object)) =
        { pair subject object link.1 link.2 } := by
    intro link
    have fresh : Binding.single subject link.1 object = none := Binding.single_of_ne different
    rw [atNode, atNode, join, Multiset.singleton_bind, Multiset.singleton_bind,
      Binding.meet_of_compatible (Binding.compatible_single fresh), Binding.merge_single fresh]
    rfl
  rw [extend, join, Multiset.singleton_bind, triples, Multiset.bind_congr fun link _ => single link,
    Multiset.bind_assoc]
  simp only [Multiset.singleton_bind]

/-- A link from a variable that is bound to one that is not. -/
theorem extend_forward (different : object ≠ subject) (bound : solution subject = some first)
    (fresh : solution object = none) :
    extend store operators (.link subject path object) { solution } =
      (store.values path first).map fun last => Function.update solution object (some last) := by
  have meets : ∀ link : Term × Term, solution.meet (pair subject object link.1 link.2) =
      if link.1 = first then { Function.update solution object (some link.2) } else 0 := by
    intro link
    rw [meet_pair different]
    by_cases same : link.1 = first
    · subst same
      rw [if_pos rfl, if_pos ⟨by simp [Admits, bound], by simp [Admits, fresh]⟩, ← bound,
        Function.update_eq_self]
    · rw [if_neg same, if_neg]
      exact fun admits => same (admits.1 first bound).symm
  rw [Pattern.link, extend_link different, Multiset.bind_congr fun link _ => meets link,
    ← Multiset.bind_filter, Multiset.bind_singleton, Store.values, Multiset.map_map]
  rfl

/-- A link to a variable that is bound from one that is not. -/
theorem extend_backward (different : object ≠ subject) {path : PropertyPath}
    (fresh : solution subject = none) (bound : solution object = some last) :
    extend store operators (.triple (.var subject) path (.var object)) { solution } =
      ((store.links path).filter fun link => link.2 = last).map
        fun link => Function.update solution subject (some link.1) := by
  have meets : ∀ link : Term × Term, solution.meet (pair subject object link.1 link.2) =
      if link.2 = last then { Function.update solution subject (some link.1) } else 0 := by
    intro link
    rw [meet_pair different]
    by_cases same : link.2 = last
    · subst same
      rw [if_pos rfl, if_pos ⟨by simp [Admits, fresh], by simp [Admits, bound]⟩,
        Function.update_comm different.symm, ← bound, Function.update_eq_self]
    · rw [if_neg same, if_neg]
      exact fun admits => same (admits.2 last bound).symm
  rw [extend_link different, Multiset.bind_congr fun link _ => meets link,
    ← Multiset.bind_filter, Multiset.bind_singleton]

/-- A link between two variables that are bound. -/
theorem extend_between (different : object ≠ subject) (bound : solution subject = some first)
    (boundToo : solution object = some last) :
    extend store operators (.link subject path object) { solution } =
      Multiset.replicate ((store.values path first).count last) solution := by
  have meets : ∀ link : Term × Term, solution.meet (pair subject object link.1 link.2) =
      if link.1 = first ∧ link.2 = last then { solution } else 0 := by
    intro link
    rw [meet_pair different]
    by_cases same : link.1 = first ∧ link.2 = last
    · obtain ⟨rfl, rfl⟩ := same
      have admits : Admits subject link.1 solution ∧ Admits object link.2 solution := by
        simp [Admits, bound, boundToo]
      rw [if_pos admits, if_pos ⟨rfl, rfl⟩, ← bound, Function.update_eq_self, ← boundToo,
        Function.update_eq_self]
    · rw [if_neg same, if_neg]
      exact fun admits => same ⟨(admits.1 first bound).symm, (admits.2 last boundToo).symm⟩
  rw [Pattern.link, extend_link different, Multiset.bind_congr fun link _ => meets link,
    ← Multiset.bind_filter, Multiset.bind_singleton, Multiset.map_const', Store.values,
    Multiset.count_map, Multiset.filter_filter]
  congr 2
  exact Multiset.filter_congr fun link _ => by rw [and_comm, eq_comm]

theorem extend_values {items : List Iri} (fresh : solution target = none) :
    extend store operators (.values target items) { solution } =
      (items : Multiset Iri).map fun item =>
        Function.update solution target (some (.iri item)) := by
  have meets : ∀ item : Iri, solution.meet (.single target (.iri item)) =
      { Function.update solution target (some (.iri item)) } := by
    intro item
    rw [Binding.meet_of_compatible (Binding.compatible_single fresh), Binding.merge_single fresh]
  simp only [extend, join, rows, Multiset.singleton_bind, Multiset.bind_map, meets,
    Multiset.bind_singleton]

/-- An optional link from a variable that is bound to one that is not. -/
theorem extend_optional (different : object ≠ subject) (bound : solution subject = some first)
    (fresh : solution object = none) :
    extend store operators (.optional [.link subject path object]) { solution } =
      (store.ends path first).map fun last? => Function.update solution object last? := by
  have always : ∀ joined, Satisfies operators [.link subject path object] joined := by
    simp [Satisfies, conditions, Pattern.link]
  have forward : extend store operators (.link subject path object) { solution } = _ :=
    extend_forward different bound fresh
  have hits : (listExtend store operators [.link subject path object]
      { Binding.unbound }).bind solution.meet =
        (store.values path first).map fun last => Function.update solution object (some last) := by
    rw [← forward, Pattern.link, listExtend, listExtend, extend, extend, unbound_join, join,
      Multiset.singleton_bind]
  rw [extend, leftJoin, Multiset.singleton_bind, hits,
    Multiset.filter_eq_self.mpr fun joined _ => always joined, Store.ends]
  by_cases nothing : store.values path first = 0
  · simp [nothing, ← fresh]
  · rw [if_neg nothing, if_neg (by simpa using nothing), Multiset.map_map]
    rfl

end Clause.Bag

namespace Filter

open Clause.Bag (Detached bound_of_plain countP_bind extend extend_backward extend_between
  extend_extends extend_forward extend_optional extend_values join leftJoin leftJoin_join listExtend
  listExtend_append listExtend_bind listExtend_extends mem_listExtend_cons mem_triples solutions
  sum_countP_and sum_indicator tally triples unbound_join)
open Clause.Expression (holds_contains holds_conjunction holds_member)

section

variable {α β : Type*}

theorem countP_map (bag : Multiset α) (image : α → β) (property : β → Prop)
    [DecidablePred property] :
    (bag.map image).countP property = bag.countP fun item => property (image item) := by
  rw [Multiset.countP_map, Multiset.countP_eq_card_filter]

/-- To count some values one by one is to count what is among them, if none of them is repeated. -/
theorem sum_count [DecidableEq α] {chosen : Multiset α} (distinct : chosen.Nodup)
    (bag : Multiset α) :
    (chosen.map fun item => bag.count item).sum = bag.countP (· ∈ chosen) := by
  induction bag using Multiset.induction_on with
  | empty => simp
  | cons item bag induction =>
      have single : (chosen.map fun other => if other = item then 1 else 0).sum =
          if item ∈ chosen then 1 else 0 := by
        rw [sum_indicator]
        have count : chosen.countP (· = item) = chosen.count item :=
          Multiset.countP_congr rfl fun other _ => propext eq_comm
        rw [count, Multiset.count_eq_of_nodup distinct]
      simp only [Multiset.count_cons, Multiset.countP_cons, Multiset.sum_map_add, induction, single]

end

variable {store : Store} {operators : Operators} {facetClass : String} {facet : Facet}
  {target : Variable} {patterns : List Pattern} {entity : Term}

theorem anchored_of_link {object : Variable} {path : String} {rest : List Pattern}
    {solution joined : Binding}
    (member : joined ∈ listExtend store operators (.link target path object :: rest) { solution }) :
    joined target ≠ none := by
  obtain ⟨middle, step, further⟩ := mem_listExtend_cons.mp member
  have plain : ∀ parts, Pattern.optional parts ∉ [Pattern.link target path object] := by
    simp [Pattern.link]
  have alone : middle ∈ listExtend store operators [.link target path object] { solution } := step
  have found : middle target ≠ none := bound_of_plain plain alone
    (by simp [Pattern.link, listBindable, Clause.Pattern.bindable, Clause.Node.mentioned])
  obtain ⟨term, bound⟩ := Option.ne_none_iff_exists'.mp found
  rw [(listExtend_extends rest further).keeps target term bound]
  simp

theorem listExtend_conditions (list : List Expression) (before : Bag) :
    listExtend store operators (list.map .filter) before = before := by
  induction list with
  | nil => rfl
  | cons condition list induction => exact induction

theorem mem_optional_link {start stop : Variable} {path : String} {joined : Binding}
    (member : joined ∈ listExtend store operators [.link start path stop] { Binding.unbound })
    {name : Variable} (bound : joined name ≠ none) : name = start ∨ name = stop := by
  by_contra foreign
  refine bound ((listExtend_extends _ member).frame name fun inside => foreign ?_)
  simpa [Pattern.link, listBindable, Clause.Pattern.bindable, Clause.Node.mentioned] using inside

theorem detached_timespan {predicate : String} {paths : TimespanPaths} {span start stop : Variable}
    {min max : Option Calendar.Date} (ownsSpan : Owns facet.id span)
    (ownsStart : Owns facet.id start) (ownsStop : Owns facet.id stop) :
    Detached store operators (ofSpan target span start stop predicate paths min max) target
      (Owns facet.id) where
  confined := confined_timespan ownsSpan ownsStart ownsStop
  anchored solution member := anchored_of_link member
  joins before fresh := by
    -- The two optional parts share the time span with the link before them and nothing else.
    have always : ∀ (path : String) (edge : Variable) (solution : Binding),
        Satisfies operators [.link span path edge] solution := by
      simp [Satisfies, conditions, Pattern.link]
    have shared : ∀ (path : String) (edge : Variable), Owns facet.id edge → ∀ group : Bag,
        (∀ middle ∈ group, middle target ≠ none ∧ middle span ≠ none) →
        ∀ left ∈ before, ∀ middle ∈ group,
          ∀ right ∈ listExtend store operators [.link span path edge] { Binding.unbound },
          ∀ name, left name ≠ none → right name ≠ none → middle name ≠ none := by
      intro path edge owns group binds left member middle memberToo right inside name atLeft atRight
      rcases mem_optional_link inside atRight with rfl | rfl
      · exact (binds middle memberToo).2
      · by_cases isTarget : name = target
        · rw [isTarget]
          exact (binds middle memberToo).1
        · exact absurd (fresh left member name owns isTarget) atLeft
    have linked : ∀ middle ∈ triples store (.var target) ⟨predicate⟩ (.var span),
        middle target ≠ none ∧ middle span ≠ none := fun middle member =>
      ⟨(mem_triples member).1 target (by simp [Clause.Node.mentioned]),
        (mem_triples member).1 span (by simp [Clause.Node.mentioned])⟩
    have begun : ∀ middle ∈ extend store operators (.optional [.link span paths.start start])
        (triples store (.var target) ⟨predicate⟩ (.var span)),
        middle target ≠ none ∧ middle span ≠ none := by
      intro middle member
      rw [Clause.Bag.extend_bind, Multiset.mem_bind] at member
      obtain ⟨first, inside, step⟩ := member
      have keeps := (extend_extends _ step).keeps
      obtain ⟨atTarget, atSpan⟩ := linked first inside
      obtain ⟨one, bound⟩ := Option.ne_none_iff_exists'.mp atTarget
      obtain ⟨two, boundToo⟩ := Option.ne_none_iff_exists'.mp atSpan
      simp [keeps target one bound, keeps span two boundToo]
    have whole : ∀ bag : Bag, listExtend store operators
        (ofSpan target span start stop predicate paths min max) bag =
          extend store operators (.optional [.link span paths.stop stop])
            (extend store operators (.optional [.link span paths.start start])
              (join bag (triples store (.var target) ⟨predicate⟩ (.var span)))) := by
      intro bag
      rw [ofSpan, listExtend_append, listExtend_conditions]
      rfl
    rw [whole, whole, unbound_join]
    simp only [extend] at begun ⊢
    rw [leftJoin_join (always _ _) (shared paths.start start ownsStart _ linked),
      leftJoin_join (always _ _) (shared paths.stop stop ownsStop _ begun)]

/-- The patterns of a facet share their target with other patterns, and stand for themselves. -/
theorem detached_patterns {value : FilterValue}
    (made : Filter.patterns facetClass facet target value = .ok patterns) :
    Detached store operators patterns target (Owns facet.id) := by
  cases patterns_eq_ok.mp made with
  | exact _ binds =>
      exact .of_plain (by simp [ofExactUris, Pattern.link])
        (confined_exact (binds.owns (by decide)))
        (by simp [ofExactUris, Pattern.link, listBindable, Clause.Pattern.bindable,
          Clause.Node.mentioned])
  | concepts _ _ binds bindsBelow =>
      exact .of_plain (by simp [ofConcepts, Pattern.link])
        (confined_concepts (binds.owns (by decide)) (bindsBelow.owns (by decide)))
        (by simp [ofConcepts, Pattern.link, listBindable, Clause.Pattern.bindable,
          Clause.Node.mentioned])
  | text _ binds =>
      exact .of_plain (by simp [Pattern.link]) (confined_text (binds.owns (by decide)))
        (by simp [Pattern.link, listBindable, Clause.Pattern.bindable, Clause.Node.mentioned])
  | timespan _ _ bindsSpan bindsStart bindsStop =>
      exact detached_timespan (bindsSpan.owns (by decide)) (bindsStart.owns (by decide))
        (bindsStop.owns (by decide))
  | place _ _ bindsLatitude bindsLongitude =>
      exact .of_plain (by simp [ofLocation_eq])
        (confined_place (bindsLatitude.owns (by decide)) (bindsLongitude.owns (by decide)))
        (by simp [ofLocation_eq, listBindable, Clause.Pattern.bindable, Clause.Node.mentioned])
  | located _ _ binds bindsLatitude bindsLongitude =>
      exact .of_plain (by simp [ofLocation_eq, Pattern.link])
        (confined_located (binds.owns (by decide)) (bindsLatitude.owns (by decide))
          (bindsLongitude.owns (by decide)))
        (by simp [Pattern.link, listBindable, Clause.Pattern.bindable, Clause.Node.mentioned])

theorem satisfies_filter {condition : Expression} {solution : Binding} :
    Satisfies operators [.filter condition] solution ↔ condition.Holds operators solution := by
  simp [Satisfies, conditions]

theorem countP_linked {path : String} {object : Variable} {condition : Expression}
    {property : Term → Prop} [DecidablePred property] (different : object ≠ target)
    (holds : ∀ found,
      condition.Holds operators
        (Function.update (Binding.single target entity) object (some found)) ↔ property found) :
    (listExtend store operators [.link target path object, .filter condition]
        { Binding.single target entity }).countP
          (Satisfies operators [.link target path object, .filter condition]) =
      (store.values path entity).countP property := by
  rw [listExtend, extend_forward different Binding.single_self (Binding.single_of_ne different),
    listExtend, listExtend, extend, countP_map]
  exact Multiset.countP_congr rfl fun found _ => propext (satisfies_filter.trans (holds found))

/-- Below a selected node, every link of the entity to one of the nodes that reach it counts. -/
theorem card_below {predicate parent : String} {value below : Variable} {item : Term}
    (differ : below ≠ value) (different : below ≠ target) (differentValue : value ≠ target) :
    (listExtend store operators
      [.triple (.var below) (PropertyPath.zeroOrMore ⟨parent⟩) (.var value),
        .link target predicate below]
        { Function.update (Binding.single target entity) value (some item) }).card =
      (store.values predicate entity).countP fun found => store.Reaches parent found item := by
  generalize begins : Function.update (Binding.single target entity) value (some item) = begun
  have atTarget : begun target = some entity := by
    rw [← begins, Function.update_of_ne differentValue.symm, Binding.single_self]
  have atValue : begun value = some item := by rw [← begins, Function.update_self]
  have atBelow : begun below = none := by
    rw [← begins, Function.update_of_ne differ, Binding.single_of_ne different]
  have linked : ∀ link : Term × Term, extend store operators (.link target predicate below)
      { Function.update begun below (some link.1) } =
        Multiset.replicate ((store.values predicate entity).count link.1)
          (Function.update begun below (some link.1)) := fun link =>
    extend_between different (by rw [Function.update_of_ne different.symm, atTarget])
      (Function.update_self ..)
  -- A path of any length is there once for each pair, so each node below is counted once.
  have distinct : (((store.links (PropertyPath.zeroOrMore ⟨parent⟩)).filter
      fun link => link.2 = item).map Prod.fst).Nodup := by
    refine Multiset.Nodup.map_on ?_ ((store.distinct ⟨parent⟩).filter _)
    intro first member second memberToo same
    exact Prod.ext same ((Multiset.mem_filter.mp member).2.trans
      (Multiset.mem_filter.mp memberToo).2.symm)
  calc _ = (((store.links (PropertyPath.zeroOrMore ⟨parent⟩)).filter fun link => link.2 = item).map
        fun link => (store.values predicate entity).count link.1).sum := by
          rw [listExtend, extend_backward differ.symm atBelow atValue, listExtend_bind,
            Multiset.card_bind, Multiset.map_map]
          refine congrArg Multiset.sum (Multiset.map_congr rfl fun link _ => ?_)
          simp only [Function.comp_apply, listExtend, linked, Multiset.card_replicate]
    _ = (store.values predicate entity).countP fun found => found ∈
          ((store.links (PropertyPath.zeroOrMore ⟨parent⟩)).filter fun link => link.2 = item).map
            Prod.fst := by
          rw [← sum_count distinct, Multiset.map_map]
          rfl
    _ = _ := Multiset.countP_congr rfl fun found _ => propext (by
          simp [Clause.Store.Reaches])

theorem countP_concepts {predicate parent : String} {value below : Variable} {items : List Iri}
    (differ : below ≠ value) (different : below ≠ target) (differentValue : value ≠ target) :
    (listExtend store operators (ofConcepts target value below predicate parent items)
        { Binding.single target entity }).countP
          (Satisfies operators (ofConcepts target value below predicate parent items)) =
      (items.map fun item => (store.values predicate entity).countP fun found =>
        store.Reaches parent found (.iri item)).sum := by
  have always : ∀ joined,
      Satisfies operators (ofConcepts target value below predicate parent items) joined := by
    simp [ofConcepts, Satisfies, conditions, Pattern.link]
  rw [Multiset.countP_eq_card.mpr fun joined _ => always joined, ofConcepts, listExtend,
    extend_values (Binding.single_of_ne differentValue), listExtend_bind, Multiset.card_bind,
    Multiset.map_map]
  simp only [Function.comp_def, card_below differ different differentValue]
  rw [← Multiset.sum_coe, ← Multiset.map_coe]

/-- The ends of a time span are chosen independently of each other. -/
theorem countP_ends {paths : TimespanPaths} {span start stop : Variable} {node : Term}
    {min max : Option Calendar.Date} {solution : Binding} (startNotSpan : start ≠ span)
    (stopNotSpan : stop ≠ span) (stopNotStart : stop ≠ start)
    (bound : solution span = some node) (fresh : solution start = none)
    (freshStop : solution stop = none) :
    (listExtend store operators ([.optional [.link span paths.start start],
        .optional [.link span paths.stop stop]] ++
        (Expression.all? (overlapConditions start stop min max)).toList.map .filter)
        { solution }).countP
          (fun joined => ∀ condition ∈ overlapConditions start stop min max,
            condition.Holds operators joined) =
      (store.ends paths.start node ×ˢ store.ends paths.stop node).countP
        (operators.Overlaps min max) := by
  have second : ∀ first? : Option Term, extend store operators
      (.optional [.link span paths.stop stop]) { Function.update solution start first? } =
        (store.ends paths.stop node).map fun last? =>
          Function.update (Function.update solution start first?) stop last? := fun first? =>
    extend_optional stopNotSpan (by rw [Function.update_of_ne startNotSpan.symm, bound])
      (by rw [Function.update_of_ne stopNotStart, freshStop])
  have pairs : listExtend store operators ([.optional [.link span paths.start start],
      .optional [.link span paths.stop stop]] ++
      (Expression.all? (overlapConditions start stop min max)).toList.map .filter) { solution } =
        (store.ends paths.start node ×ˢ store.ends paths.stop node).map fun ends =>
          Function.update (Function.update solution start ends.1) stop ends.2 := by
    rw [listExtend_append, listExtend_conditions, listExtend, listExtend, listExtend,
      extend_optional startNotSpan bound fresh, Clause.Bag.extend_bind, Multiset.bind_map,
      Multiset.bind_congr fun first? _ => second first?]
    change _ = Multiset.map _ (Multiset.bind _ fun first? => Multiset.map (Prod.mk first?) _)
    rw [Multiset.map_bind]
    simp only [Multiset.map_map, Function.comp_def]
  rw [pairs, countP_map]
  refine Multiset.countP_congr rfl fun ends _ => propext ?_
  rw [holds_overlapConditions, Function.update_self, Function.update_of_ne stopNotStart.symm,
    Function.update_self]
  rfl

theorem countP_timespan {predicate : String} {paths : TimespanPaths} {span start stop : Variable}
    {min max : Option Calendar.Date} (spanNotTarget : span ≠ target)
    (startNotTarget : start ≠ target) (stopNotTarget : stop ≠ target) (startNotSpan : start ≠ span)
    (stopNotSpan : stop ≠ span) (stopNotStart : stop ≠ start) :
    (listExtend store operators (ofSpan target span start stop predicate paths min max)
        { Binding.single target entity }).countP
          (Satisfies operators (ofSpan target span start stop predicate paths min max)) =
      ((store.values predicate entity).map fun node =>
        (store.ends paths.start node ×ˢ store.ends paths.stop node).countP
          (operators.Overlaps min max)).sum := by
  rw [Multiset.countP_congr rfl fun joined _ => propext satisfies_timespan, ofSpan,
    List.cons_append, listExtend, extend_forward spanNotTarget Binding.single_self
    (Binding.single_of_ne spanNotTarget), listExtend_bind, Multiset.bind_map, countP_bind]
  refine congrArg Multiset.sum (Multiset.map_congr rfl fun node _ => ?_)
  exact countP_ends startNotSpan stopNotSpan stopNotStart (Function.update_self ..)
    (by rw [Function.update_of_ne startNotSpan, Binding.single_of_ne startNotTarget])
    (by rw [Function.update_of_ne stopNotSpan, Binding.single_of_ne stopNotTarget])

/-- The coordinates of a node are chosen independently of each other. -/
theorem countP_location {located latitude longitude : Variable} {node : Term} {paths : SpatialPaths}
    {corners : GeoBox} {solution : Binding} (latitudeNotLocated : latitude ≠ located)
    (longitudeNotLocated : longitude ≠ located) (distinct : latitude ≠ longitude)
    (bound : solution located = some node) (fresh : solution latitude = none)
    (freshLongitude : solution longitude = none) :
    (listExtend store operators (ofLocation located latitude longitude paths corners)
        { solution }).countP
          (Satisfies operators (ofLocation located latitude longitude paths corners)) =
      store.locations operators paths corners node := by
  have second : ∀ degrees : Term, extend store operators (.link located paths.longitude longitude)
      { Function.update solution latitude (some degrees) } =
        (store.values paths.longitude node).map fun last =>
          Function.update (Function.update solution latitude (some degrees))
            longitude (some last) :=
    fun degrees => extend_forward longitudeNotLocated
      (by rw [Function.update_of_ne latitudeNotLocated.symm, bound])
      (by rw [Function.update_of_ne distinct.symm, freshLongitude])
  have holds : ∀ degrees last, Satisfies operators
      (ofLocation located latitude longitude paths corners)
      (Function.update (Function.update solution latitude (some degrees)) longitude (some last)) ↔
        operators.Between corners.latMin corners.latMax degrees ∧
          operators.Between corners.longMin corners.longMax last := by
    intro degrees last
    refine (@satisfies_filter operators (within latitude longitude corners) _).trans ?_
    rw [within, holds_conjunction, holds_between (by
        rw [Function.update_of_ne distinct, Function.update_self]),
      holds_between (Function.update_self ..)]
  calc _ = ((store.values paths.latitude node).map fun degrees =>
        (store.values paths.longitude node).countP fun last =>
          operators.Between corners.latMin corners.latMax degrees ∧
            operators.Between corners.longMin corners.longMax last).sum := by
          rw [ofLocation, listExtend, extend_forward latitudeNotLocated bound fresh,
            listExtend_bind, Multiset.bind_map, countP_bind]
          refine congrArg Multiset.sum (Multiset.map_congr rfl fun degrees _ => ?_)
          rw [listExtend, second, listExtend, listExtend, extend, countP_map]
          exact Multiset.countP_congr rfl fun last _ => propext (holds degrees last)
    _ = store.locations operators paths corners node := sum_countP_and ..

/-- A filter has one solution for each way in which the entity meets its value. -/
theorem tally_patterns {value : FilterValue} (apart : ¬Owns facet.id target)
    (made : Filter.patterns facetClass facet target value = .ok patterns) :
    (solutions store operators patterns).tally target entity =
      value.ways store operators facet entity := by
  rw [(detached_patterns made).tally_eq_countP]
  cases patterns_eq_ok.mp made with
  | exact path binds =>
      simp only [FilterValue.ways, path]
      exact countP_linked (ne_target apart (binds.owns (by decide))) fun found =>
        holds_member (Function.update_self ..) _
  | concepts path up binds bindsBelow =>
      simp only [FilterValue.ways, path, up]
      exact countP_concepts (bindsBelow.ne binds (by decide))
        (ne_target apart (bindsBelow.owns (by decide)))
        (ne_target apart (binds.owns (by decide)))
  | text found binds =>
      simp only [FilterValue.ways, found]
      exact countP_linked (ne_target apart (binds.owns (by decide))) fun found =>
        holds_contains (Function.update_self ..) _
  | timespan path found bindsSpan bindsStart bindsStop =>
      simp only [FilterValue.ways, path, found]
      exact countP_timespan (ne_target apart (bindsSpan.owns (by decide)))
        (ne_target apart (bindsStart.owns (by decide)))
        (ne_target apart (bindsStop.owns (by decide))) (bindsStart.ne bindsSpan (by decide))
        (bindsStop.ne bindsSpan (by decide)) (bindsStop.ne bindsStart (by decide))
  | place nowhere found bindsLatitude bindsLongitude =>
      simp only [FilterValue.ways, nowhere, found]
      have latitudeNotTarget := ne_target apart (bindsLatitude.owns (by decide))
      have longitudeNotTarget := ne_target apart (bindsLongitude.owns (by decide))
      exact countP_location latitudeNotTarget longitudeNotTarget
        (bindsLatitude.ne bindsLongitude (by decide)) Binding.single_self
        (Binding.single_of_ne latitudeNotTarget) (Binding.single_of_ne longitudeNotTarget)
  | located path found binds bindsLatitude bindsLongitude =>
      simp only [FilterValue.ways, path, found]
      have locatedNotTarget := ne_target apart (binds.owns (by decide))
      have latitudeNotLocated := bindsLatitude.ne binds (by decide)
      have longitudeNotLocated := bindsLongitude.ne binds (by decide)
      rw [listExtend, extend_forward locatedNotTarget Binding.single_self
        (Binding.single_of_ne locatedNotTarget), listExtend_bind, Multiset.bind_map, countP_bind]
      refine congrArg Multiset.sum (Multiset.map_congr rfl fun node _ => ?_)
      exact countP_location latitudeNotLocated longitudeNotLocated
        (bindsLatitude.ne bindsLongitude (by decide)) (Function.update_self ..)
        (by rw [Function.update_of_ne latitudeNotLocated,
          Binding.single_of_ne (ne_target apart (bindsLatitude.owns (by decide)))])
        (by rw [Function.update_of_ne longitudeNotLocated,
          Binding.single_of_ne (ne_target apart (bindsLongitude.owns (by decide)))])

end Filter

namespace ConstraintBlock

open Clause.Bag (Detached solutions tally)
open Outcome (mapM_cons_eq_ok mapM_nil_eq_ok)

variable {store : Store} {operators : Operators} {facetClass : String} {spec : ResultClass}
  {target : Variable} {fragments : List (List Pattern)}

/-- The blocks of several constraints share their target with one another and nothing else. -/
theorem detached_fragments {entries : List (String × Constraint)} (something : entries ≠ [])
    (distinct : entries.Pairwise fun left right => left.1 ≠ right.1)
    (made : entries.mapM (fragment facetClass spec target) = .ok fragments) :
    Detached store operators fragments.flatten target
        (fun name => ∃ entry ∈ entries, Filter.Owns entry.1 name) ∧
      ∀ term, (solutions store operators fragments.flatten).tally target term =
        (fragments.map fun patterns =>
          (solutions store operators patterns).tally target term).prod := by
  induction entries generalizing fragments with
  | nil => exact absurd rfl something
  | cons entry entries induction =>
      obtain ⟨first, rest, head, tail, rfl⟩ := mapM_cons_eq_ok.mp made
      obtain ⟨facet, value, parts⟩ := fragment_eq_ok.mp head
      obtain ⟨different, distinctRest⟩ := List.pairwise_cons.mp distinct
      have detached := @Filter.detached_patterns store operators _ _ _ _ _ parts.made
      rw [ResultClass.id_of_facet? parts.known] at detached
      by_cases last : entries = []
      · subst last
        obtain rfl := mapM_nil_eq_ok.mp tail
        simpa using detached
      obtain ⟨later, product⟩ := induction last distinctRest tail
      have disjoint : ∀ shared, Filter.Owns entry.1 shared →
          (∃ other ∈ entries, Filter.Owns other.1 shared) → shared = target := by
        rintro shared owns ⟨other, member, ownsToo⟩
        exact absurd (Filter.eq_of_owns owns ownsToo) (different other member)
      constructor
      · simpa using detached.append later disjoint
      · intro term
        rw [List.flatten_cons, detached.tally_append later disjoint, product, List.map_cons,
          List.prod_cons]

end ConstraintBlock

end FacetedQuery
