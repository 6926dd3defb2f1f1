import FacetedQuery.Proofs.Clause.Conditions
import FacetedQuery.Proofs.ConstraintBlock.Demand
import FacetedQuery.Proofs.ConstraintBlock.Suffix

/-!
# The meaning of single filters

The patterns of one facet restrict their target to the terms that meet the value, with variables
that bear the id of the facet.
-/

namespace FacetedQuery.Filter

open Clause (Binding Expression Graph Operators Pattern Value)
open Clause.Expression (Orders holds_conjunction holds_contains holds_member listMentioned_iris
  value?_coalesce)
open Clause.Pattern (Admits Confined Restricts Satisfies conditions listExtend mem_extend_triple
  mem_extend_values exists_target exists_listExtend_cons mem_extend_bound mem_listExtend_cons
  mem_listExtend_append mem_listExtend_optionals)
open Rdf (Iri Term Variable)

section

variable {graph : Graph} {operators : Operators} {facetClass : String} {facet : Facet}
  {target : Variable} {patterns : List Pattern}

theorem confined_exact {predicate : String} {value : Variable} {items : List Iri}
    (owns : Owns facet.id value) :
    Confined (ofExactUris target value predicate items) target (Owns facet.id) where
  binds bound member := by
    have inside : bound = target ∨ bound = value := by
      simpa [ofExactUris, Pattern.link, Clause.Pattern.listBindable, Clause.Pattern.bindable,
        Clause.Node.mentioned] using member
    exact inside.imp_right (by rintro rfl; exact owns)
  reads condition member read mentioned := by
    obtain rfl : condition = .member (.var value) (items.map .iri) := by
      simpa [ofExactUris, conditions, Pattern.link] using member
    obtain rfl : read = value := by
      simpa [Expression.mentioned, listMentioned_iris] using mentioned
    exact owns

theorem restricts_exact {predicate : String} {value : Variable} {items : List Iri}
    (apart : ¬Owns facet.id target) (owns : Owns facet.id value) :
    Restricts graph operators (ofExactUris target value predicate items) target (Owns facet.id)
      fun entity => graph.Selects entity predicate fun term => ∃ item ∈ items,
        term = .iri item where
  binds := (confined_exact owns).binds
  reads := (confined_exact owns).reads
  apart := apart
  meaning solution fresh entity admits := by
    have different := ne_target apart owns
    rw [ofExactUris, Pattern.link, exists_target different admits (fresh value owns)]
    have member : ∀ last, Expression.Holds operators (Function.update
        (Function.update solution target (some entity)) value (some last))
          (.member (.var value) (items.map .iri)) ↔ ∃ item ∈ items, last = .iri item :=
      fun last => holds_member (Function.update_self ..) items
    simp only [listExtend, Clause.Pattern.extend, Satisfies, conditions, Set.mem_singleton_iff,
      exists_eq_left, List.filterMap_cons, List.filterMap_nil, List.mem_singleton,
      forall_eq, member, Clause.Graph.Selects]
    exact exists_congr fun last => and_comm

theorem confined_concepts {predicate parent : String} {value below : Variable} {items : List Iri}
    (owns : Owns facet.id value) (ownsBelow : Owns facet.id below) :
    Confined (ofConcepts target value below predicate parent items) target (Owns facet.id) where
  binds bound member := by
    have inside : bound = value ∨ bound = below ∨ bound = value ∨ bound = target ∨
      bound = below := by
      simpa [ofConcepts, Pattern.link, Clause.Pattern.listBindable, Clause.Pattern.bindable,
        Clause.Node.mentioned] using member
    rcases inside with rfl | rfl | rfl | rfl | rfl
    · exact .inr owns
    · exact .inr ownsBelow
    · exact .inr owns
    · exact .inl rfl
    · exact .inr ownsBelow
  reads condition member := by
    simp [ofConcepts, conditions, Pattern.link] at member

theorem restricts_concepts {predicate parent : String} {value below : Variable}
    {items : List Iri} (apart : ¬Owns facet.id target) (owns : Owns facet.id value)
    (ownsBelow : Owns facet.id below) (differ : below ≠ value) :
    Restricts graph operators (ofConcepts target value below predicate parent items) target
      (Owns facet.id)
      fun entity => graph.SelectsAbove entity predicate parent
        fun term => ∃ item ∈ items, term = .iri item where
  binds := (confined_concepts owns ownsBelow).binds
  reads := (confined_concepts owns ownsBelow).reads
  apart := apart
  meaning solution fresh entity admits := by
    have different := ne_target apart ownsBelow
    have differentValue := ne_target apart owns
    unfold ofConcepts Pattern.link Clause.Graph.SelectsAbove
    constructor
    · rintro ⟨joined, member, -, bound⟩
      obtain ⟨first, values, rest⟩ := mem_listExtend_cons.mp member
      obtain ⟨item, inside, rfl⟩ := (mem_extend_values (fresh value owns)).mp values
      obtain ⟨second, steps, rest⟩ := mem_listExtend_cons.mp rest
      obtain ⟨lower, upper, repeated, -, atValue, rfl⟩ := (mem_extend_triple differ.symm).mp steps
      obtain ⟨third, link, rest⟩ := mem_listExtend_cons.mp rest
      obtain ⟨start, middle, related, -, atBelow, rfl⟩ := (mem_extend_triple different).mp link
      obtain rfl := rest
      obtain rfl := atValue (.iri item) (by simp)
      obtain rfl := atBelow lower (by simp [Function.update_of_ne differ])
      obtain rfl := bound start (by simp [Function.update_of_ne different.symm])
      exact ⟨.iri item, lower, ⟨item, inside, rfl⟩, related,
        (graph.repeated ⟨parent⟩ lower (.iri item)).mp repeated⟩
    · rintro ⟨_, lower, ⟨item, inside, rfl⟩, related, steps⟩
      refine ⟨_, mem_listExtend_cons.mpr ⟨_, (mem_extend_values (fresh value owns)).mpr
          ⟨item, inside, rfl⟩, mem_listExtend_cons.mpr ⟨_, (mem_extend_triple differ.symm).mpr
            ⟨lower, .iri item, (graph.repeated ⟨parent⟩ lower (.iri item)).mpr steps, ?_, ?_, rfl⟩,
          mem_listExtend_cons.mpr ⟨_, (mem_extend_triple different).mpr
            ⟨entity, lower, related, ?_, ?_, rfl⟩, rfl⟩⟩⟩, ?_, ?_⟩
      · simp [Admits, Function.update_of_ne differ, fresh below ownsBelow]
      · simp [Admits]
      · intro other found
        refine admits other ?_
        simpa [Function.update_of_ne differentValue.symm, Function.update_of_ne different.symm]
          using found
      · simp [Admits, Function.update_of_ne differ]
      · simp [Satisfies, conditions]
      · simp [Admits, Function.update_of_ne different.symm]

theorem confined_text {path content : String} {label : Variable} (owns : Owns facet.id label) :
    Confined [.link target path label,
        .filter (.call .contains [.call .lcase [.call .str [.var label]],
          .literal (.plain (Text.lowercase content))])] target (Owns facet.id) where
  binds bound member := by
    have inside : bound = target ∨ bound = label := by
      simpa [Pattern.link, Clause.Pattern.listBindable, Clause.Pattern.bindable,
        Clause.Node.mentioned] using member
    exact inside.imp_right (by rintro rfl; exact owns)
  reads condition member read mentioned := by
    obtain rfl : condition = .call .contains [.call .lcase [.call .str [.var label]],
        .literal (.plain (Text.lowercase content))] := by
      simpa [conditions, Pattern.link] using member
    obtain rfl : read = label := by
      simpa [Expression.mentioned, Expression.listMentioned] using mentioned
    exact owns

theorem restricts_text {path content : String} {label : Variable}
    (apart : ¬Owns facet.id target) (owns : Owns facet.id label) :
    Restricts graph operators [.link target path label,
        .filter (.call .contains [.call .lcase [.call .str [.var label]],
          .literal (.plain (Text.lowercase content))])] target (Owns facet.id)
      fun entity => graph.Labels operators entity path content where
  binds := (confined_text owns).binds
  reads := (confined_text owns).reads
  apart := apart
  meaning solution fresh entity admits := by
    have different := ne_target apart owns
    rw [Pattern.link, exists_target different admits (fresh label owns)]
    have contains : ∀ last, Expression.Holds operators (Function.update
        (Function.update solution target (some entity)) label (some last)) _ ↔ _ :=
      fun last => holds_contains (Function.update_self ..) (Text.lowercase content)
    simp only [listExtend, Clause.Pattern.extend, Satisfies, conditions, Set.mem_singleton_iff,
      exists_eq_left, List.filterMap_cons, List.filterMap_nil, List.mem_singleton, forall_eq,
      contains, Clause.Graph.Labels]
    simp

section

variable {solution : Binding} {start stop : Variable}

/-- The condition on one end of a time span, which is taken from the other one if it has none. -/
theorem holds_edge {combine : Expression → Expression → Expression}
    {compare : Value → Value → Option Bool} (orders : Orders operators combine compare)
    (edge other : Variable) (date : Calendar.Date) :
    (combine (.call .coalesce [.var edge, .var other]) (dateLiteral date)).Holds operators
        solution ↔
      ∃ term ∈ (solution edge).or (solution other),
        compare (.term term) (.literal (.typed date.render Rdf.xsdDate)) = some true := by
  rw [orders.holds_iff (value?_coalesce edge other) rfl]
  simp [Value.literal]

/-- The conditions on a time span, by the ends that it has. -/
theorem holds_overlapConditions {min max : Option Calendar.Date} :
    (∀ condition ∈ overlapConditions start stop min max, condition.Holds operators solution) ↔
      (∀ date ∈ max, ∃ first ∈ (solution start).or (solution stop),
        operators.atMost (.term first) (.literal (.typed date.render Rdf.xsdDate)) = some true) ∧
      (∀ date ∈ min, ∃ last ∈ (solution stop).or (solution start),
        operators.atLeast (.term last) (.literal (.typed date.render Rdf.xsdDate)) =
          some true) := by
  simp only [← holds_edge .atMost, ← holds_edge .atLeast]
  unfold overlapConditions
  cases max <;> cases min <;> simp

theorem listExtend_filters (list : List Expression) (before : Set Binding) :
    listExtend graph operators (list.map .filter) before = before := by
  induction list with
  | nil => rfl
  | cons condition list induction => exact induction

theorem conditions_filters (list : List Expression) :
    conditions (list.map .filter) = list := by
  induction list with
  | nil => rfl
  | cons condition list induction => simp [conditions]

theorem bindable_filters (list : List Expression) :
    Clause.Pattern.listBindable (list.map .filter) = [] := by
  induction list with
  | nil => rfl
  | cons condition list induction =>
      simpa [Clause.Pattern.listBindable, Clause.Pattern.bindable] using induction

theorem confined_timespan {predicate : String} {paths : TimespanPaths} {span : Variable}
    {min max : Option Calendar.Date} (ownsSpan : Owns facet.id span)
    (ownsStart : Owns facet.id start) (ownsStop : Owns facet.id stop) :
    Confined (ofSpan target span start stop predicate paths min max) target (Owns facet.id) where
  binds bound member := by
    have inside : bound = target ∨ bound = span ∨ bound = span ∨ bound = start ∨ bound = span ∨
        bound = stop := by
      simpa [ofSpan, Pattern.link, Clause.Pattern.listBindable, Clause.Pattern.bindable,
        bindable_filters, Clause.Node.mentioned] using member
    rcases inside with rfl | rfl | rfl | rfl | rfl | rfl
    · exact .inl rfl
    · exact .inr ownsSpan
    · exact .inr ownsSpan
    · exact .inr ownsStart
    · exact .inr ownsSpan
    · exact .inr ownsStop
  reads condition member read mentioned := by
    rw [ofSpan, Clause.Pattern.conditions_append, conditions_filters] at member
    have inside : condition ∈ (Expression.all? (overlapConditions start stop min max)).toList := by
      simpa [conditions, Pattern.link] using member
    obtain ⟨part, partOf, reads⟩ := Expression.mentioned_all? inside mentioned
    have ends : read = start ∨ read = stop := by
      unfold overlapConditions dateLiteral at partOf
      cases max <;> cases min <;> simp at partOf
      · subst partOf
        simpa [Expression.mentioned, Expression.listMentioned, or_comm] using reads
      · subst partOf
        simpa [Expression.mentioned, Expression.listMentioned] using reads
      · rcases partOf with rfl | rfl
        · simpa [Expression.mentioned, Expression.listMentioned] using reads
        · simpa [Expression.mentioned, Expression.listMentioned, or_comm] using reads
    rcases ends with rfl | rfl
    · exact ownsStart
    · exact ownsStop

theorem satisfies_timespan {predicate : String} {paths : TimespanPaths} {span : Variable}
    {min max : Option Calendar.Date} {joined : Binding} :
    Satisfies operators (ofSpan target span start stop predicate paths min max) joined ↔
      ∀ condition ∈ overlapConditions start stop min max, condition.Holds operators joined := by
  rw [← Expression.holds_all?, Satisfies, ofSpan, Clause.Pattern.conditions_append,
    conditions_filters]
  simp [conditions, Pattern.link]

theorem restricts_timespan {predicate : String} {paths : TimespanPaths} {span : Variable}
    {min max : Option Calendar.Date} (apart : ¬Owns facet.id target)
    (ownsSpan : Owns facet.id span) (ownsStart : Owns facet.id start)
    (ownsStop : Owns facet.id stop) (startNotSpan : start ≠ span) (stopNotSpan : stop ≠ span)
    (stopNotStart : stop ≠ start) :
    Restricts graph operators (ofSpan target span start stop predicate paths min max) target
      (Owns facet.id)
      fun entity => graph.Overlaps operators entity predicate paths min max where
  binds := (confined_timespan ownsSpan ownsStart ownsStop).binds
  reads := (confined_timespan ownsSpan ownsStart ownsStop).reads
  apart := apart
  meaning solution fresh entity admits := by
    have different := ne_target apart ownsSpan
    have startNotTarget := ne_target apart ownsStart
    have stopNotTarget := ne_target apart ownsStop
    rw [ofSpan, List.cons_append, Pattern.link,
      exists_target different admits (fresh span ownsSpan)]
    refine exists_congr fun node => ?_
    generalize bound : Function.update (Function.update solution target (some entity)) span
      (some node) = begun
    -- The optional parts start from the time span alone, so each adds one end or leaves it open.
    have atSpan : begun span = some node := by simp [← bound]
    have atStart : begun start = none := by
      simp [← bound, Function.update_of_ne startNotSpan, Function.update_of_ne startNotTarget,
        fresh start ownsStart]
    have atStop : begun stop = none := by
      simp [← bound, Function.update_of_ne stopNotSpan, Function.update_of_ne stopNotTarget,
        fresh stop ownsStop]
    have values : ∀ first? last?,
        Function.update (Function.update begun start first?) stop last? start = first? ∧
        Function.update (Function.update begun start first?) stop last? stop = last? := by
      intro first? last?
      simp [Function.update_of_ne stopNotStart.symm]
    constructor
    · rintro ⟨related, joined, member, holds⟩
      obtain ⟨middle, step, rest⟩ := mem_listExtend_append.mp member
      rw [listExtend_filters] at rest
      obtain rfl := rest
      obtain ⟨first?, last?, begins, finishes, rfl⟩ := (mem_listExtend_optionals startNotSpan
        stopNotSpan stopNotStart atSpan atStart atStop).mp step
      have conditions := holds_overlapConditions.mp (satisfies_timespan.mp holds)
      rw [(values first? last?).1, (values first? last?).2] at conditions
      exact ⟨first?, last?, related, begins, finishes, conditions⟩
    · rintro ⟨first?, last?, related, begins, finishes, conditions⟩
      refine ⟨related, Function.update (Function.update begun start first?) stop last?,
        mem_listExtend_append.mpr ⟨_, (mem_listExtend_optionals startNotSpan stopNotSpan
          stopNotStart atSpan atStart atStop).mpr ⟨first?, last?, begins, finishes, rfl⟩, ?_⟩, ?_⟩
      · rw [listExtend_filters]
        rfl
      · refine satisfies_timespan.mpr (holds_overlapConditions.mpr ?_)
        rw [(values first? last?).1, (values first? last?).2]
        exact conditions

end

section

variable {solution : Binding} {located latitude longitude : Variable} {node : Term}
  {paths : SpatialPaths} {corners : GeoBox}

theorem holds_between {coordinate : Variable} {term : Term}
    (bound : solution coordinate = some term) (low high : Float) :
    (between coordinate low high).Holds operators solution ↔ operators.Between low high term := by
  have number : (Expression.cast Rdf.xsdDouble (.var coordinate)).value? operators solution =
      operators.cast Rdf.xsdDouble (.term term) := by
    simp [Expression.value?, bound]
  rw [between, holds_conjunction, Orders.atLeast.holds_iff number rfl,
    Orders.atMost.holds_iff number rfl, Clause.Operators.Between]
  constructor
  · rintro ⟨⟨first, found, above⟩, second, foundToo, below⟩
    obtain rfl := Option.some.inj (found.symm.trans foundToo)
    exact ⟨first, found, above, below⟩
  · rintro ⟨first, found, above, below⟩
    exact ⟨⟨first, found, above⟩, first, found, below⟩

/-- The condition on both coordinates. -/
def within (latitude longitude : Variable) (corners : GeoBox) : Expression :=
  .conjunction (between latitude corners.latMin corners.latMax)
    (between longitude corners.longMin corners.longMax)

theorem ofLocation_eq : ofLocation located latitude longitude paths corners =
    [.triple (.var located) ⟨paths.latitude⟩ (.var latitude),
      .triple (.var located) ⟨paths.longitude⟩ (.var longitude),
      .filter (within latitude longitude corners)] :=
  rfl

theorem mentioned_within {read : Variable}
    (mentioned : read ∈ (within latitude longitude corners).mentioned) :
    read = latitude ∨ read = longitude := by
  have inside : read = latitude ∨ read = latitude ∨ read = longitude ∨ read = longitude := by
    simpa [within, between, Expression.mentioned, or_assoc] using mentioned
  tauto

/-- What is left to ask once the latitude of a node is known. -/
theorem exists_longitude {degrees : Term} (different : longitude ≠ located)
    (distinct : latitude ≠ longitude) (bound : solution located = some node)
    (atLatitude : solution latitude = some degrees) (fresh : solution longitude = none) :
    (∃ joined ∈ listExtend graph operators
        [.triple (.var located) ⟨paths.longitude⟩ (.var longitude),
          .filter (within latitude longitude corners)] { solution },
        (within latitude longitude corners).Holds operators joined) ↔
      operators.Between corners.latMin corners.latMax degrees ∧
        graph.Lies operators paths.longitude corners.longMin corners.longMax node := by
  have holds : ∀ last, (within latitude longitude corners).Holds operators
      (Function.update solution longitude (some last)) ↔
      operators.Between corners.latMin corners.latMax degrees ∧
        operators.Between corners.longMin corners.longMax last := by
    intro last
    rw [within, holds_conjunction,
      holds_between (by rw [Function.update_of_ne distinct, atLatitude]),
      holds_between (Function.update_self ..)]
  rw [exists_listExtend_cons]
  constructor
  · rintro ⟨middle, step, joined, rfl, satisfied⟩
    obtain ⟨last, related, rfl⟩ := (mem_extend_bound different bound fresh).mp step
    obtain ⟨first, second⟩ := (holds last).mp satisfied
    exact ⟨first, last, related, second⟩
  · rintro ⟨first, last, related, second⟩
    exact ⟨_, (mem_extend_bound different bound fresh).mpr ⟨last, related, rfl⟩, _, rfl,
      (holds last).mpr ⟨first, second⟩⟩

/-- What is left to ask of a node that is known. -/
theorem exists_location (latitudeNotLocated : latitude ≠ located)
    (longitudeNotLocated : longitude ≠ located) (distinct : latitude ≠ longitude)
    (bound : solution located = some node) (fresh : solution longitude = none) :
    (∃ degrees, graph.related ⟨paths.latitude⟩ node degrees ∧ ∃ joined ∈ listExtend graph operators
        [.triple (.var located) ⟨paths.longitude⟩ (.var longitude),
          .filter (within latitude longitude corners)]
        { Function.update solution latitude (some degrees) },
        (within latitude longitude corners).Holds operators joined) ↔
      graph.Lies operators paths.latitude corners.latMin corners.latMax node ∧
        graph.Lies operators paths.longitude corners.longMin corners.longMax node := by
  have rest : ∀ degrees, _ ↔ _ := fun degrees : Term =>
    @exists_longitude graph operators (Function.update solution latitude (some degrees)) located
      latitude longitude node paths corners degrees longitudeNotLocated distinct
      (by rw [Function.update_of_ne latitudeNotLocated.symm, bound]) (Function.update_self ..)
      (by rw [Function.update_of_ne distinct.symm, fresh])
  simp only [rest, Clause.Graph.Lies]
  constructor
  · rintro ⟨degrees, related, inside, further⟩
    exact ⟨⟨degrees, related, inside⟩, further⟩
  · rintro ⟨⟨degrees, related, inside⟩, further⟩
    exact ⟨degrees, related, inside, further⟩

theorem confined_place (ownsLatitude : Owns facet.id latitude)
    (ownsLongitude : Owns facet.id longitude) :
    Confined (ofLocation target latitude longitude paths corners) target (Owns facet.id) where
  binds bound member := by
    have inside : bound = target ∨ bound = latitude ∨ bound = target ∨ bound = longitude := by
      simpa [ofLocation_eq, Clause.Pattern.listBindable, Clause.Pattern.bindable,
        Clause.Node.mentioned] using member
    rcases inside with rfl | rfl | rfl | rfl
    · exact .inl rfl
    · exact .inr ownsLatitude
    · exact .inl rfl
    · exact .inr ownsLongitude
  reads condition member read mentioned := by
    obtain rfl : condition = within latitude longitude corners := by
      simpa [ofLocation_eq, conditions] using member
    rcases mentioned_within mentioned with rfl | rfl
    · exact ownsLatitude
    · exact ownsLongitude

/-- An entity that bears coordinates itself. -/
theorem restricts_place (apart : ¬Owns facet.id target) (ownsLatitude : Owns facet.id latitude)
    (ownsLongitude : Owns facet.id longitude) (distinct : latitude ≠ longitude) :
    Restricts graph operators (ofLocation target latitude longitude paths corners) target
      (Owns facet.id) fun entity => graph.LiesIn operators entity none paths corners where
  binds := (confined_place ownsLatitude ownsLongitude).binds
  reads := (confined_place ownsLatitude ownsLongitude).reads
  apart := apart
  meaning solution fresh entity admits := by
    have latitudeNotTarget := ne_target apart ownsLatitude
    have longitudeNotTarget := ne_target apart ownsLongitude
    rw [ofLocation_eq, exists_target latitudeNotTarget admits (fresh latitude ownsLatitude)]
    simp only [Satisfies, conditions, List.filterMap_cons, List.filterMap_nil, List.mem_singleton,
      forall_eq]
    rw [exists_location latitudeNotTarget longitudeNotTarget distinct (Function.update_self ..)
      (by rw [Function.update_of_ne longitudeNotTarget, fresh longitude ownsLongitude])]
    simp [Clause.Graph.LiesIn]

theorem confined_located {predicate : String} (ownsLocated : Owns facet.id located)
    (ownsLatitude : Owns facet.id latitude) (ownsLongitude : Owns facet.id longitude) :
    Confined (.link target predicate located :: ofLocation located latitude longitude paths corners)
      target (Owns facet.id) where
  binds bound member := by
    have inside : bound = target ∨ bound = located ∨ bound = located ∨ bound = latitude ∨
        bound = located ∨ bound = longitude := by
      simpa [ofLocation_eq, Pattern.link, Clause.Pattern.listBindable, Clause.Pattern.bindable,
        Clause.Node.mentioned] using member
    rcases inside with rfl | rfl | rfl | rfl | rfl | rfl
    · exact .inl rfl
    · exact .inr ownsLocated
    · exact .inr ownsLocated
    · exact .inr ownsLatitude
    · exact .inr ownsLocated
    · exact .inr ownsLongitude
  reads condition member read mentioned := by
    obtain rfl : condition = within latitude longitude corners := by
      simpa [ofLocation_eq, Pattern.link, conditions] using member
    rcases mentioned_within mentioned with rfl | rfl
    · exact ownsLatitude
    · exact ownsLongitude

/-- An entity that is linked to something with coordinates. -/
theorem restricts_located {predicate : String} (apart : ¬Owns facet.id target)
    (ownsLocated : Owns facet.id located) (ownsLatitude : Owns facet.id latitude)
    (ownsLongitude : Owns facet.id longitude) (latitudeNotLocated : latitude ≠ located)
    (longitudeNotLocated : longitude ≠ located) (distinct : latitude ≠ longitude) :
    Restricts graph operators
      (.link target predicate located :: ofLocation located latitude longitude paths corners) target
      (Owns facet.id)
      fun entity => graph.LiesIn operators entity (some predicate) paths corners where
  binds := (confined_located ownsLocated ownsLatitude ownsLongitude).binds
  reads := (confined_located ownsLocated ownsLatitude ownsLongitude).reads
  apart := apart
  meaning solution fresh entity admits := by
    have locatedNotTarget := ne_target apart ownsLocated
    have latitudeNotTarget := ne_target apart ownsLatitude
    have longitudeNotTarget := ne_target apart ownsLongitude
    rw [ofLocation_eq, Pattern.link,
      exists_target locatedNotTarget admits (fresh located ownsLocated)]
    simp only [Satisfies, conditions, List.filterMap_cons, List.filterMap_nil, List.mem_singleton,
      forall_eq]
    refine exists_congr fun node => and_congr_right fun _ => ?_
    generalize begins : Function.update (Function.update solution target (some entity)) located
      (some node) = begun
    have atLocated : begun located = some node := by simp [← begins]
    have atLatitude : begun latitude = none := by
      simp [← begins, Function.update_of_ne latitudeNotLocated,
        Function.update_of_ne latitudeNotTarget, fresh latitude ownsLatitude]
    have atLongitude : begun longitude = none := by
      simp [← begins, Function.update_of_ne longitudeNotLocated,
        Function.update_of_ne longitudeNotTarget, fresh longitude ownsLongitude]
    rw [← exists_location latitudeNotLocated longitudeNotLocated distinct atLocated atLongitude,
      exists_listExtend_cons]
    constructor
    · rintro ⟨middle, step, further⟩
      obtain ⟨degrees, related, rfl⟩ :=
        (mem_extend_bound latitudeNotLocated atLocated atLatitude).mp step
      exact ⟨degrees, related, further⟩
    · rintro ⟨degrees, related, further⟩
      exact ⟨_, (mem_extend_bound latitudeNotLocated atLocated atLatitude).mpr
        ⟨degrees, related, rfl⟩, further⟩

end

/-- The patterns of a facet restrict their target to what meets the value. -/
theorem restricts_patterns {value : FilterValue} (apart : ¬Owns facet.id target)
    (made : Filter.patterns facetClass facet target value = .ok patterns) :
    Restricts graph operators patterns target (Owns facet.id)
      (value.Meets graph operators facet) := by
  cases patterns_eq_ok.mp made with
  | exact path binds =>
      refine (restricts_exact apart (binds.owns (by decide))).congr fun entity => ?_
      simp [FilterValue.Meets, path]
  | concepts path up binds bindsBelow =>
      refine (restricts_concepts apart (binds.owns (by decide)) (bindsBelow.owns (by decide))
        (bindsBelow.ne binds (by decide))).congr fun entity => ?_
      simp [FilterValue.Meets, path, up]
  | text found binds =>
      refine (restricts_text apart (binds.owns (by decide))).congr fun entity => ?_
      simp [FilterValue.Meets, found]
  | timespan path found bindsSpan bindsStart bindsStop =>
      refine (restricts_timespan apart (bindsSpan.owns (by decide)) (bindsStart.owns (by decide))
        (bindsStop.owns (by decide)) (bindsStart.ne bindsSpan (by decide))
        (bindsStop.ne bindsSpan (by decide)) (bindsStop.ne bindsStart (by decide))).congr
        fun entity => ?_
      simp [FilterValue.Meets, path, found]
  | place nowhere found bindsLatitude bindsLongitude =>
      refine (restricts_place apart (bindsLatitude.owns (by decide))
        (bindsLongitude.owns (by decide)) (bindsLatitude.ne bindsLongitude (by decide))).congr
        fun entity => ?_
      simp [FilterValue.Meets, nowhere, found]
  | located path found binds bindsLatitude bindsLongitude =>
      refine (restricts_located apart (binds.owns (by decide)) (bindsLatitude.owns (by decide))
        (bindsLongitude.owns (by decide)) (bindsLatitude.ne binds (by decide))
        (bindsLongitude.ne binds (by decide))
        (bindsLatitude.ne bindsLongitude (by decide))).congr fun entity => ?_
      simp [FilterValue.Meets, path, found]

/-- Every filter has a triple about its target. -/
theorem exists_triple {value : FilterValue}
    (made : Filter.patterns facetClass facet target value = .ok patterns) :
    ∃ path object, .triple (.var target) path object ∈ patterns := by
  cases patterns_eq_ok.mp made with
  | concepts => exact ⟨_, _, List.mem_cons_of_mem _ (List.mem_cons_of_mem _ List.mem_cons_self)⟩
  | _ => exact ⟨_, _, List.mem_cons_self⟩

end

end FacetedQuery.Filter
