import FacetedQuery.Proofs.Outcome
import FacetedQuery.Search

/-!
# Steps of runs

A run succeeds exactly if each of its steps does, and each step hands its trace to the next one.
From this it is read off what a lookup that succeeds has done: it sent one query, and its response
holds the first object of the rows that were answered.
-/

namespace FacetedQuery

namespace Run

variable {α β ε : Type} {trace later : Trace}

theorem bind_run (first : Run α) (next : α → Run β) (trace : Trace) :
    (first >>= next).run trace =
      match first.run trace with
      | (.ok value, middle) => (next value).run middle
      | (.error fault, middle) => (.error fault, middle) := by
  change (ExceptT.bindCont next (first.run trace).1 : StateM Trace _) (first.run trace).2 = _
  cases first.run trace with
  | mk outcome middle => cases outcome <;> rfl

theorem bind_of_ok {first : Run α} {next : α → Run β} {value : α}
    (ran : first.run trace = (.ok value, later)) :
    (first >>= next).run trace = (next value).run later := by
  rw [bind_run, ran]

/-- A sequence succeeds exactly if both of its parts do. -/
theorem bind_eq_ok {first : Run α} {next : α → Run β} {result : β} :
    (first >>= next).run trace = (.ok result, later) ↔ ∃ value middle,
      first.run trace = (.ok value, middle) ∧ (next value).run middle = (.ok result, later) := by
  rw [bind_run]
  cases first.run trace with
  | mk outcome middle =>
      cases outcome with
      | error fault =>
          constructor
          · nofun
          · rintro ⟨_, _, same, -⟩
            cases same
      | ok value =>
          constructor
          · exact fun further => ⟨value, middle, rfl, further⟩
          · rintro ⟨_, _, same, further⟩
            cases same
            exact further

theorem pure_eq_ok {value result : α} :
    (pure value : Run α).run trace = (.ok result, later) ↔ value = result ∧ trace = later := by
  change ((.ok value : Except Fault α), trace) = _ ↔ _
  simp

theorem get_eq_ok {state : Trace} :
    (get : Run Trace).run trace = (.ok state, later) ↔ trace = state ∧ trace = later := by
  change ((.ok trace : Except Fault Trace), trace) = _ ↔ _
  simp

theorem set_eq_ok {state : Trace} {result : PUnit} :
    (set state : Run PUnit).run trace = (.ok result, later) ↔ state = later := by
  change ((.ok () : Except Fault PUnit), state) = _ ↔ _
  simp

theorem lift_eq_ok {wrap : ε → Fault} {outcome : Except ε α} {value : α} :
    (lift wrap outcome).run trace = (.ok value, later) ↔ outcome = .ok value ∧ trace = later := by
  cases outcome with
  | error problem =>
      change ((.error (wrap problem) : Except Fault α), trace) = _ ↔ _
      simp
  | ok found =>
      change ((.ok found : Except Fault α), trace) = _ ↔ _
      simp

/-- A trace with one more event. -/
def logged (trace : Trace) (event : Event) : Trace :=
  { trace with events := trace.events ++ [event] }

theorem log_eq_ok {event : Event} {result : Unit} :
    (log event).run trace = (.ok result, later) ↔ logged trace event = later := by
  change ((.ok () : Except Fault Unit), logged trace event) = _ ↔ _
  simp

end Run

namespace Search

open Run (logged)

variable {search : Search} {trace later : Trace}

/-- A trace with one more call. -/
def called (trace : Trace) (call : Call) : Trace :=
  { trace with calls := trace.calls ++ [call] }

theorem compile_eq_ok {request : Request} {query : AssembledQuery} :
    (search.compile request).run trace = (.ok query, later) ↔
      search.assembler.assemble request = .ok query ∧
        logged trace (.assembled request.purpose request.resultClass query.text) = later := by
  unfold compile
  simp only [Run.bind_eq_ok, Run.lift_eq_ok, Run.log_eq_ok, Run.pure_eq_ok]
  constructor
  · rintro ⟨_, _, ⟨assembled, rfl⟩, _, _, rfl, rfl, rfl⟩
    exact ⟨assembled, rfl⟩
  · rintro ⟨assembled, rfl⟩
    exact ⟨_, _, ⟨assembled, rfl⟩, (), _, rfl, rfl, rfl⟩

/-- What the executor answers to a query is what is found, and the call is kept. -/
theorem execute_eq_ok {query : String} {rows : List Solution} :
    (search.execute query).run trace = (.ok rows, later) ↔
      search.executor.answer trace.calls.length ⟨search.config.endpoint, query⟩ = .ok rows ∧
        called trace ⟨search.config.endpoint, query⟩ = later := by
  unfold execute
  simp only [Run.bind_eq_ok, Run.get_eq_ok, Run.set_eq_ok]
  cases answered : search.executor.answer trace.calls.length ⟨search.config.endpoint, query⟩ with
  | ok found =>
      constructor
      · rintro ⟨_, _, ⟨rfl, rfl⟩, _, _, rfl, further⟩
        rw [answered] at further
        obtain ⟨rfl, rfl⟩ := Run.pure_eq_ok.mp further
        exact ⟨rfl, rfl⟩
      · rintro ⟨same, rfl⟩
        obtain rfl : found = rows := Except.ok.inj same
        refine ⟨trace, trace, ⟨rfl, rfl⟩, (), _, rfl, ?_⟩
        rw [answered]
        exact Run.pure_eq_ok.mpr ⟨rfl, rfl⟩
  | error fault =>
      constructor
      · rintro ⟨_, _, ⟨rfl, rfl⟩, _, _, rfl, further⟩
        rw [answered] at further
        obtain ⟨_, _, -, failed⟩ := Run.bind_eq_ok.mp further
        cases failed
      · rintro ⟨same, -⟩
        cases same

/-- A lookup that succeeds has sent its query once, and the response holds the first object of the
rows that were answered. -/
theorem lookup_eq_ok {resultClass uri : String} {facetClass : Option String}
    {constraints : Option ConstraintSet} {response : LookupResponse} :
    (search.lookup resultClass facetClass constraints uri).run trace = (.ok response, later) ↔
      ∃ query rows objects,
        search.assembler.assemble (.lookup resultClass facetClass constraints uri) = .ok query ∧
        search.executor.answer trace.calls.length ⟨search.config.endpoint, query.text⟩ = .ok rows ∧
        readObjects rows = .ok objects ∧
        response = ⟨resultClass, objects.head?, query.text⟩ ∧
        later = logged (called (logged trace (.assembled .lookup resultClass query.text))
          ⟨search.config.endpoint, query.text⟩)
          (.fetchedInstance resultClass uri objects.head?.isSome) := by
  unfold lookup
  simp only [Run.bind_eq_ok, Run.lift_eq_ok, Run.log_eq_ok, Run.pure_eq_ok, compile_eq_ok,
    execute_eq_ok]
  constructor
  · rintro ⟨query, _, ⟨assembled, rfl⟩, rows, _, ⟨answered, rfl⟩, objects, _, ⟨read, rfl⟩, _, _,
      rfl, rfl, rfl⟩
    exact ⟨query, rows, objects, assembled, answered, read, rfl, rfl⟩
  · rintro ⟨query, rows, objects, assembled, answered, read, rfl, rfl⟩
    exact ⟨query, _, ⟨assembled, rfl⟩, rows, _, ⟨answered, rfl⟩, objects, _, ⟨read, rfl⟩, (), _,
      rfl, rfl, rfl⟩

end Search

end FacetedQuery
