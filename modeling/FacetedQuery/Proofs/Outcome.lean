/-!
# Outcomes

What a computation that may fail has done once it has succeeded.
-/

namespace FacetedQuery.Outcome

variable {fault other α β : Type}

/-- A sequence succeeds exactly if both of its parts do. -/
theorem bind_eq_ok {first : Except fault α} {next : α → Except fault β} {result : β} :
    first >>= next = .ok result ↔ ∃ value, first = .ok value ∧ next value = .ok result := by
  cases first with
  | error problem => simp [bind, Except.bind]
  | ok value => simp [bind, Except.bind]

theorem bind_of_ok {first : Except fault α} {next : α → Except fault β} {value : α}
    (made : first = .ok value) : first >>= next = next value := by
  rw [made]
  rfl

theorem next_eq_error {first : Except fault α} {next : α → Except fault β} {value : α}
    {problem : fault} (made : first = .ok value) (failed : first >>= next = .error problem) :
    next value = .error problem :=
  (bind_of_ok made).symm.trans failed

theorem bind_of_error {first : Except fault α} {next : α → Except fault β} {problem : fault}
    (failed : first = .error problem) : first >>= next = .error problem := by
  rw [failed]
  rfl

theorem mapError_eq_ok {change : fault → other} {outcome : Except fault α} {result : α} :
    outcome.mapError change = .ok result ↔ outcome = .ok result := by
  cases outcome with
  | error problem => constructor <;> intro equality <;> cases equality
  | ok value =>
    constructor <;>
    · intro equality
      cases equality
      rfl

theorem mapM_nil_eq_ok {step : α → Except fault β} {results : List β} :
    [].mapM step = .ok results ↔ results = [] := by
  simp [pure, Except.pure, eq_comm]

/-- A list is worked off from its first item on. -/
theorem mapM_cons_eq_ok {step : α → Except fault β} {item : α} {items : List α}
    {results : List β} :
    (item :: items).mapM step = .ok results ↔
      ∃ first rest, step item = .ok first ∧ items.mapM step = .ok rest ∧
        results = first :: rest := by
  rw [List.mapM_cons, bind_eq_ok]
  constructor
  · rintro ⟨first, head, tail⟩
    obtain ⟨rest, further, equality⟩ := bind_eq_ok.mp tail
    cases equality
    exact ⟨first, rest, head, further, rfl⟩
  · rintro ⟨first, rest, head, tail, rfl⟩
    exact ⟨first, head, bind_eq_ok.mpr ⟨rest, tail, rfl⟩⟩

theorem exists_of_mapM {step : α → Except fault β} {items : List α} {results : List β}
    (made : items.mapM step = .ok results) {item : α} (member : item ∈ items) :
    ∃ result, step item = .ok result := by
  induction items generalizing results with
  | nil => cases member
  | cons first items induction =>
      obtain ⟨result, rest, head, tail, -⟩ := mapM_cons_eq_ok.mp made
      rcases List.mem_cons.mp member with rfl | member
      · exact ⟨result, head⟩
      · exact induction tail member

/-- Lists of items that agree in what their steps depend on are worked off alike. -/
theorem mapM_congr {γ : Type} {key : α → γ} {step : α → Except fault β}
    (steps : ∀ item other, key item = key other → step item = step other) {items others : List α}
    (same : items.map key = others.map key) : items.mapM step = others.mapM step := by
  induction items generalizing others with
  | nil =>
      obtain rfl := List.map_eq_nil_iff.mp same.symm
      rfl
  | cons item items induction =>
      cases others with
      | nil => cases same
      | cons other others =>
          obtain ⟨head, tail⟩ := List.cons.inj same
          rw [List.mapM_cons, List.mapM_cons, steps item other head, induction tail]

theorem mapM_congr_of_mem {step other : α → Except fault β} {items : List α}
    (same : ∀ item ∈ items, step item = other item) : items.mapM step = items.mapM other := by
  induction items with
  | nil => rfl
  | cons item items induction =>
      rw [List.mapM_cons, List.mapM_cons, same item List.mem_cons_self,
        induction fun next member => same next (List.mem_cons_of_mem _ member)]

theorem bind_eq_error {first : Except fault α} {next : α → Except fault β} {problem : fault} :
    first >>= next = .error problem ↔
      first = .error problem ∨ ∃ value, first = .ok value ∧ next value = .error problem := by
  cases first with
  | error problem => simp [bind, Except.bind]
  | ok value => simp [bind, Except.bind]

theorem mapError_eq_error {change : fault → other} {outcome : Except fault α} {problem : other} :
    outcome.mapError change = .error problem ↔
      ∃ inner, outcome = .error inner ∧ change inner = problem := by
  cases outcome with
  | error inner =>
      constructor
      · intro equality
        cases equality
        exact ⟨inner, rfl, rfl⟩
      · rintro ⟨_, equality, rfl⟩
        cases equality
        rfl
  | ok value =>
      constructor
      · intro equality
        cases equality
      · rintro ⟨_, equality, -⟩
        cases equality

theorem exists_ok_iff {outcome : Except fault α} :
    (∃ value, outcome = .ok value) ↔ ∀ problem, outcome ≠ .error problem := by
  cases outcome <;> simp

theorem toOption_eq_some {outcome : Except fault α} {value : α} :
    outcome.toOption = some value ↔ outcome = .ok value := by
  cases outcome <;> simp [Except.toOption]

/-- A list is not worked off if an item fails behind items that succeed, whatever comes after it. -/
theorem mapM_eq_error_iff {step : α → Except fault β} {items : List α} {problem : fault} :
    items.mapM step = .error problem ↔ ∃ before item after, items = before ++ item :: after ∧
      (∀ other ∈ before, ∃ result, step other = .ok result) ∧ step item = .error problem := by
  induction items with
  | nil =>
      constructor
      · intro failed
        cases failed
      · rintro ⟨before, item, after, equality, -⟩
        cases before <;> cases equality
  | cons first items induction =>
      rw [List.mapM_cons]
      constructor
      · intro failed
        rcases bind_eq_error.mp failed with here | ⟨result, made, further⟩
        · exact ⟨[], first, items, rfl, nofun, here⟩
        · rcases bind_eq_error.mp further with later | ⟨rest, -, equality⟩
          · obtain ⟨before, item, after, rfl, fine, failing⟩ := induction.mp later
            refine ⟨first :: before, item, after, rfl, ?_, failing⟩
            exact List.forall_mem_cons.mpr ⟨⟨result, made⟩, fine⟩
          · cases equality
      · rintro ⟨before, item, after, equality, fine, failing⟩
        cases before with
        | nil =>
            obtain ⟨rfl, rfl⟩ := List.cons.inj equality
            exact bind_of_error failing
        | cons other before =>
            obtain ⟨rfl, rfl⟩ := List.cons.inj equality
            obtain ⟨⟨result, made⟩, fine⟩ := List.forall_mem_cons.mp fine
            rw [bind_of_ok made]
            exact bind_of_error (induction.mpr ⟨before, item, after, rfl, fine, failing⟩)

theorem mapM_eq_error {step : α → Except fault β} {items : List α} {problem : fault}
    (failed : items.mapM step = .error problem) : ∃ item ∈ items, step item = .error problem := by
  obtain ⟨before, item, after, rfl, -, failing⟩ := mapM_eq_error_iff.mp failed
  exact ⟨item, by simp, failing⟩

/-- A list is worked off exactly if no item fails. -/
theorem exists_mapM_iff {step : α → Except fault β} {items : List α} :
    (∃ results, items.mapM step = .ok results) ↔
      ∀ item ∈ items, ∃ result, step item = .ok result := by
  constructor
  · rintro ⟨results, made⟩ item member
    exact exists_of_mapM made member
  · intro fine
    cases made : items.mapM step with
    | ok results => exact ⟨results, rfl⟩
    | error problem =>
        obtain ⟨item, member, failing⟩ := mapM_eq_error made
        obtain ⟨result, succeeds⟩ := fine item member
        cases failing.symm.trans succeeds

def fault? : Except fault α → Option fault
  | .ok _ => none
  | .error problem => some problem

theorem fault?_eq_some {outcome : Except fault α} {problem : fault} :
    fault? outcome = some problem ↔ outcome = .error problem := by
  cases outcome <;> simp [fault?]

theorem fault?_eq_none {outcome : Except fault α} :
    fault? outcome = none ↔ ∃ value, outcome = .ok value := by
  cases outcome <;> simp [fault?]

/-- A sequence whose second part fails in one way only, if it fails, fails in its first part or in
this way. -/
theorem fault?_bind {first : Except fault α} {next : α → Except fault β} {further : Option fault}
    (same : ∀ value, fault? (next value) = further) :
    fault? (first >>= next) = (fault? first).or further := by
  cases first with
  | error problem => rfl
  | ok value => exact same value

theorem fault?_bind_pure (first : Except fault α) (next : α → β) :
    fault? (first >>= fun value => pure (next value)) = fault? first := by
  cases first <;> rfl

/-- All faults of a computation are of a kind. -/
def Blames (kind : fault → Prop) (outcome : Except fault α) : Prop :=
  ∀ problem, outcome = .error problem → kind problem

variable {kind : fault → Prop}

theorem blames_ok (value : α) : Blames kind (.ok value : Except fault α) :=
  nofun

theorem blames_error {problem : fault} (isKind : kind problem) :
    Blames kind (.error problem : Except fault α) := by
  rintro _ ⟨⟩
  exact isKind

theorem Blames.bind {first : Except fault α} {next : α → Except fault β}
    (blames : Blames kind first) (further : ∀ value, Blames kind (next value)) :
    Blames kind (first >>= next) := by
  intro problem failed
  rcases bind_eq_error.mp failed with failed | ⟨value, -, failed⟩
  · exact blames problem failed
  · exact further value problem failed

theorem blames_mapM {step : α → Except fault β} (blames : ∀ item, Blames kind (step item))
    (items : List α) : Blames kind (items.mapM step) := by
  intro problem failed
  obtain ⟨item, -, failed⟩ := mapM_eq_error failed
  exact blames item problem failed

theorem blames_foldlM {step : β → α → Except fault β}
    (blames : ∀ state item, Blames kind (step state item)) (items : List α) (state : β) :
    Blames kind (items.foldlM step state) := by
  induction items generalizing state with
  | nil => exact blames_ok state
  | cons item items induction => exact (blames state item).bind induction

end FacetedQuery.Outcome
