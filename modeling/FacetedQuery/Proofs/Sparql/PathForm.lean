import FacetedQuery.Proofs.Sparql.Path

/-!
# The grammar of paths

The lists of tokens that are paths, as a relation beside the reader.  The reader takes such a list
from the start of the tokens, and it takes every such list that what follows does not continue.
-/

namespace FacetedQuery.Sparql.Grammar

open Reader

/-- A reader that takes lists of tokens of a form. -/
def Takes (form : List Token → Prop) (item : Reader α) : Prop :=
  ∀ tokens value rest, item tokens = some (value, rest) → ∃ front, form front ∧
    tokens = front ++ rest

/-- Lists of a form one behind the other. -/
inductive Repeated (form : List Token → Prop) : List Token → Prop where
  | nil : Repeated form []
  | cons {front behind : List Token} :
      form front → Repeated form behind → Repeated form (front ++ behind)

/-- One or more lists of a form with a separator between them. -/
inductive Chained (separator : Mark) (form : List Token → Prop) : List Token → Prop where
  | single {front : List Token} : form front → Chained separator form front
  | more {front behind : List Token} : form front → Chained separator form behind →
      Chained separator form (front ++ .mark separator :: behind)

namespace Takes

variable {form other : List Token → Prop} {item : Reader α} {tokens rest : List Token}

theorem mono (takes : Takes form item) (implies : ∀ front, form front → other front) :
    Takes other item := fun tokens value rest read =>
  (takes tokens value rest read).imp fun front found => ⟨implies front found.1, found.2⟩

theorem pure (value : α) : Takes (· = []) (Pure.pure value : Reader α) := by
  intro tokens value rest read
  cases read
  exact ⟨[], rfl, rfl⟩

theorem token {meaning? : Token → Option α} {accepted : Token → Prop}
    (means : ∀ token, meaning? token ≠ none → accepted token) :
    Takes (fun front => ∃ token, accepted token ∧ front = [token]) (Reader.token meaning?) := by
  intro tokens value rest read
  cases tokens with
  | nil => cases read
  | cons first tokens =>
      obtain ⟨found, meaning, same⟩ := Option.map_eq_some_iff.mp read
      cases same
      exact ⟨[first], ⟨first, means first (by simp [meaning]), rfl⟩, rfl⟩

theorem mark (expected : Mark) : Takes (· = [.mark expected]) (Reader.mark expected) := by
  have takes : Takes (fun front => ∃ token, token = .mark expected ∧ front = [token])
      (Reader.mark expected) := .token fun token means => by
    cases token with
    | mark found =>
        by_cases same : found = expected
        · rw [same]
        · simp [same] at means
    | _ => simp at means
  exact takes.mono fun front found => by
    obtain ⟨token, rfl, rfl⟩ := found
    rfl

theorem bind {next : α → Reader β} (takes : Takes form item)
    (further : ∀ value, Takes other (next value)) :
    Takes (fun tokens => ∃ front behind, form front ∧ other behind ∧ tokens = front ++ behind)
      (item >>= next) := by
  intro tokens value rest read
  rw [bind_apply] at read
  obtain ⟨⟨middle, left⟩, readFirst, readSecond⟩ := Option.bind_eq_some_iff.mp read
  obtain ⟨front, isFront, rfl⟩ := takes _ _ _ readFirst
  obtain ⟨behind, isBehind, rfl⟩ := further middle _ _ _ readSecond
  exact ⟨front ++ behind, ⟨front, behind, isFront, isBehind, rfl⟩, by rw [List.append_assoc]⟩

theorem finish (takes : Takes form item) (make : α → β) :
    Takes form (do return make (← item)) :=
  (takes.bind fun value => .pure (make value)).mono fun tokens found => by
    obtain ⟨front, behind, isFront, rfl, rfl⟩ := found
    rwa [List.append_nil]

theorem map (takes : Takes form item) (make : α → β) : Takes form (make <$> item) := by
  intro tokens value rest read
  rw [map_apply] at read
  obtain ⟨found, readItem, same⟩ := Option.map_eq_some_iff.mp read
  cases same
  exact takes _ _ _ readItem

theorem orElse {instead : Reader α} (takes : Takes form item) (takesOther : Takes form instead) :
    Takes form (item <|> instead) := by
  intro tokens value rest read
  rw [orElse_apply] at read
  rcases Option.or_eq_some_iff.mp read with first | ⟨-, second⟩
  · exact takes _ _ _ first
  · exact takesOther _ _ _ second

theorem behindMark {expected : Mark} (takes : Takes form item) :
    Takes (fun tokens => ∃ front, form front ∧ tokens = .mark expected :: front)
      (do Reader.mark expected; item) :=
  ((mark expected).bind fun _ => takes).mono fun tokens found => by
    obtain ⟨_, behind, rfl, isBehind, rfl⟩ := found
    exact ⟨behind, isBehind, rfl⟩

theorem parenthesised (takes : Takes form item) :
    Takes (fun tokens => ∃ front, form front ∧
      tokens = .mark .openParen :: (front ++ [.mark .closeParen])) (Reader.parenthesised item) := by
  have inner : Takes (fun tokens => ∃ front, form front ∧ tokens = front ++ [.mark .closeParen])
      (do
        let content ← item
        Reader.mark .closeParen
        return content) :=
    (takes.bind fun content => (mark .closeParen).finish fun _ => content).mono
      fun tokens found => by
      obtain ⟨front, _, isFront, rfl, rfl⟩ := found
      exact ⟨front, isFront, rfl⟩
  exact inner.behindMark.mono fun tokens found => by
    obtain ⟨_, ⟨front, isFront, rfl⟩, rfl⟩ := found
    exact ⟨front, isFront, rfl⟩

theorem taken {item : Reader Unit} (takes : Takes form item) :
    Takes (fun front => front = [] ∨ form front) (taken item) :=
  ((takes.finish fun _ => true).mono fun _ => .inr).orElse ((pure false).mono fun _ => .inl)

theorem maybe (takes : Takes form item) :
    Takes (fun front => front = [] ∨ form front) (maybe item) :=
  ((takes.map some).mono fun _ => .inr).orElse ((pure none).mono fun _ => .inl)

theorem manyWithin (takes : Takes form item) (limit : Nat) :
    Takes (Repeated form) (Reader.manyWithin limit item) := by
  induction limit with
  | zero => exact (pure []).mono fun _ nothing => nothing ▸ .nil
  | succ limit induction =>
      refine orElse ?_ ((pure []).mono fun _ nothing => nothing ▸ .nil)
      exact (takes.bind fun first => induction.finish (first :: ·)).mono fun tokens found => by
        obtain ⟨front, behind, isFront, isBehind, rfl⟩ := found
        exact .cons isFront isBehind

theorem many (takes : Takes form item) : Takes (Repeated form) (Reader.many item) :=
  fun tokens value rest read => takes.manyWithin _ tokens value rest read

theorem separated {separator : Mark} (takes : Takes form item) :
    Takes (Chained separator form) (Reader.separated (Reader.mark separator) item) := by
  have items : Takes (Repeated fun tokens => ∃ inner, form inner ∧
    tokens = .mark separator :: inner)
      (Reader.many (do Reader.mark separator; item)) := takes.behindMark.many
  refine (takes.bind fun first => items.finish (first :: ·)).mono fun tokens found => ?_
  obtain ⟨front, behind, isFront, isBehind, rfl⟩ := found
  induction isBehind generalizing front with
  | nil =>
      rw [List.append_nil]
      exact .single isFront
  | @cons _ behind isNext _ induction =>
      obtain ⟨next, isNext, rfl⟩ := isNext
      exact .more isFront (induction next isNext)

theorem chain {separator : Mark} {combine : α → α → α} (takes : Takes form item) :
    Takes (Chained separator form) (Reader.chain (Reader.mark separator) combine item) := by
  intro tokens value rest read
  obtain ⟨values, read⟩ := exists_separated_of_chain read
  exact takes.separated _ _ _ read

end Takes

/-- The names of properties. -/
def IsProperty : Token → Prop
  | .name _ => True
  | .word letters => letters = "a"
  | _ => False

/-- The members of negated sets of properties. -/
inductive ExcludedForm : List Token → Prop where
  | plain {token : Token} : IsProperty token → ExcludedForm [token]
  | inverse {token : Token} : IsProperty token → ExcludedForm [.mark .caret, token]

/-- The parts of paths, from the tightest. -/
inductive PathLevel where
  | primary
  | step
  | sequence
  | alternatives

/-- The lists of tokens that are parts of paths. -/
inductive PathForm : PathLevel → List Token → Prop where
  | property {token : Token} : IsProperty token → PathForm .primary [token]
  | excluded {tokens : List Token} : ExcludedForm tokens → PathForm .primary (.mark .bang :: tokens)
  | excludedList {tokens : List Token} : Chained .bar ExcludedForm tokens →
      PathForm .primary (.mark .bang :: .mark .openParen :: (tokens ++ [.mark .closeParen]))
  | grouped {tokens : List Token} : PathForm .alternatives tokens →
      PathForm .primary (.mark .openParen :: (tokens ++ [.mark .closeParen]))
  | step {tokens before after : List Token} : before = [] ∨ before = [.mark .caret] →
      PathForm .primary tokens →
      after = [] ∨ (∃ modifier ∈ [Mark.star, .plus, .question], after = [.mark modifier]) →
      PathForm .step (before ++ (tokens ++ after))
  | lastStep {tokens : List Token} : PathForm .step tokens → PathForm .sequence tokens
  | nextStep {tokens more : List Token} : PathForm .step tokens → PathForm .sequence more →
      PathForm .sequence (tokens ++ .mark .slash :: more)
  | lastSequence {tokens : List Token} : PathForm .sequence tokens → PathForm .alternatives tokens
  | nextSequence {tokens more : List Token} : PathForm .sequence tokens →
      PathForm .alternatives more → PathForm .alternatives (tokens ++ .mark .bar :: more)

section

variable {tokens rest : List Token}

theorem PathForm.ofSteps (steps : Chained .slash (PathForm .step) tokens) :
    PathForm .sequence tokens := by
  induction steps with
  | single step => exact .lastStep step
  | more step _ induction => exact .nextStep step induction

theorem PathForm.ofSequences (sequences : Chained .bar (PathForm .sequence) tokens) :
    PathForm .alternatives tokens := by
  induction sequences with
  | single sequence => exact .lastSequence sequence
  | more sequence _ induction => exact .nextSequence sequence induction

theorem takes_propertyName :
    Takes (fun front => ∃ token, IsProperty token ∧ front = [token]) propertyName := by
  refine ((Takes.token fun token means => ?_).map _).orElse
    ((Takes.token fun token means => ?_).finish _)
  · cases token with
    | name => trivial
    | _ => exact absurd rfl means
  · cases token with
    | word letters =>
        by_cases same : letters = "a"
        · exact same
        · exact absurd (if_neg same) means
    | _ => exact absurd rfl means

theorem takes_excludedProperty : Takes ExcludedForm excludedProperty := by
  refine ((Takes.mark .caret).taken.bind fun inverse => takes_propertyName.finish
    (ExcludedProperty.mk inverse)).mono ?_
  rintro _ ⟨_, _, rfl | rfl, ⟨token, isProperty, rfl⟩, rfl⟩
  · exact .plain isProperty
  · exact .inverse isProperty

theorem takes_pathModifier :
    Takes (fun after => ∃ modifier ∈ [Mark.star, .plus, .question], after = [.mark modifier])
      pathModifier := by
  have takes {modifier : Mark} (found : PathModifier)
      (inside : modifier ∈ [Mark.star, .plus, .question]) :
      Takes (fun after => ∃ modifier ∈ [Mark.star, .plus, .question], after = [.mark modifier])
        (do mark modifier; return found) :=
    ((Takes.mark modifier).finish fun _ => found).mono fun _ same => ⟨modifier, inside, same⟩
  exact (takes _ (by decide)).orElse ((takes _ (by decide)).orElse (takes _ (by decide)))

theorem takes_pathPrimary {inner : Reader Path} (takes : Takes (PathForm .alternatives) inner) :
    Takes (PathForm .primary) (pathPrimary inner) := by
  have single := takes_excludedProperty.finish fun member => [member]
  have listed : Takes (Chained .bar ExcludedForm) (separated (mark .bar) excludedProperty) :=
    takes_excludedProperty.separated
  have several := listed.parenthesised
  have negated : Takes (fun tokens => PathForm .primary (.mark .bang :: tokens))
    excludedProperties := by
    refine (single.mono fun _ => .excluded).orElse (several.mono ?_)
    rintro _ ⟨_, excluded, rfl⟩
    exact .excludedList excluded
  refine (takes_propertyName.map _ |>.mono ?_).orElse
    (((negated.map _).behindMark.mono ?_).orElse (takes.parenthesised.mono ?_))
  · rintro _ ⟨token, isProperty, rfl⟩
    exact .property isProperty
  · rintro _ ⟨_, primary, rfl⟩
    exact primary
  · rintro _ ⟨_, alternatives, rfl⟩
    exact .grouped alternatives

theorem takes_pathStep {inner : Reader Path} (takes : Takes (PathForm .alternatives) inner) :
    Takes (PathForm .step) (pathStep inner) := by
  refine ((Takes.mark .caret).taken.bind fun inverse =>
    (takes_pathPrimary takes).bind fun primary =>
    takes_pathModifier.maybe.finish _).mono ?_
  rintro _ ⟨_, _, before, ⟨_, _, primary, after, rfl⟩, rfl⟩
  exact .step before primary after

theorem takes_pathWithin (depth : Nat) : Takes (PathForm .alternatives) (pathWithin depth) := by
  induction depth with
  | zero => exact fun _ _ _ read => nomatch read
  | succ depth induction =>
      have sequences : Takes (PathForm .sequence)
          (chain (mark .slash) Path.sequence (pathStep (pathWithin depth))) :=
        (takes_pathStep induction).chain.mono fun _ => PathForm.ofSteps
      exact sequences.chain.mono fun _ => PathForm.ofSequences

theorem exists_pathForm {found : Path} (read : path tokens = some (found, rest)) :
    ∃ front, PathForm .alternatives front ∧ tokens = front ++ rest :=
  takes_pathWithin _ _ _ _ read

end

section

variable {tokens more further rest : List Token} {item : Reader α} {separator : Mark}
  {combine : α → α → α}

/-- A chain goes on behind a separator as what stands there does by itself. -/
theorem exists_longer_chain (takes : ∀ size, Advance size item item)
    (first : ∃ found, item tokens = some (found, .mark separator :: further))
    (others : ∃ found, chain (mark separator) combine item further = some (found, rest)) :
    ∃ found, chain (mark separator) combine item tokens = some (found, rest) := by
  obtain ⟨found, first⟩ := first
  obtain ⟨_, others⟩ := others
  obtain ⟨values, others⟩ := exists_separated_of_chain others
  have isSeparator : mark separator (.mark separator :: further) = some ((), further) := by
    simp [Sparql.Reader.mark, token]
  have takesBoth : ∀ size, Advance size (do mark separator; item) (do mark separator; item) :=
    fun _ => .bind (.token _) fun _ => .ofAdvance (takes _)
  have repeated : many (do mark separator; item) (.mark separator :: further) =
    some (values, rest) :=
    many_of_separated takesBoth isSeparator others
  unfold chain
  rw [bind_apply, first, Option.bind_some, bind_apply, repeated]
  exact ⟨_, rfl⟩

theorem exists_single_chain (single : ∃ found, item tokens = some (found, rest))
    (ends : mark separator rest = none) :
    ∃ found, chain (mark separator) combine item tokens = some (found, rest) := by
  obtain ⟨found, single⟩ := single
  have noMore : (do mark separator; item : Reader α) rest = none := by
    rw [bind_apply, ends]
    rfl
  unfold chain
  rw [bind_apply, single, Option.bind_some, bind_apply, many_of_none noMore]
  exact ⟨_, rfl⟩

end

/-- The marks that continue a part of a path. -/
def PathLevel.stops : PathLevel → List Mark
  | .primary => []
  | .step => [.star, .plus, .question]
  | .sequence => [.slash, .star, .plus, .question]
  | .alternatives => [.bar, .slash, .star, .plus, .question]

/-- Tokens that start with none of the given marks. -/
def Ends (marks : List Mark) (rest : List Token) : Prop :=
  ∀ expected ∈ marks, mark expected rest = none

theorem Ends.ofMark {marks : List Mark} {next : Mark} (other : next ∉ marks) (rest : List Token) :
    Ends marks (.mark next :: rest) := by
  intro expected inside
  have different : next ≠ expected := fun same => other (same ▸ inside)
  simp [mark, token, different]

theorem Ends.ofVar (marks : List Mark) (name : String) (rest : List Token) :
    Ends marks (.var name :: rest) :=
  fun _ _ => rfl

theorem Ends.nil (marks : List Mark) : Ends marks [] :=
  fun _ _ => rfl

/-- The reader of a part of a path takes the tokens up to a rest. -/
def PathLevel.Reads (depth : Nat) (tokens rest : List Token) : PathLevel → Prop
  | .primary => ∃ found, pathPrimary (pathWithin depth) tokens = some (found, rest)
  | .step => ∃ found, pathStep (pathWithin depth) tokens = some (found, rest)
  | .sequence =>
    ∃ found, chain (mark .slash) .sequence (pathStep (pathWithin depth)) tokens = some (found, rest)
  | .alternatives => ∃ found, pathWith (pathWithin depth) tokens = some (found, rest)

section

variable {tokens rest : List Token}

theorem propertyName_of_isProperty {token : Token} (isProperty : IsProperty token)
    (rest : List Token) :
    ∃ found, propertyName (token :: rest) = some (found, rest) := by
  cases token with
  | name value => exact ⟨_, rfl⟩
  | word letters =>
      obtain rfl : letters = "a" := isProperty
      exact ⟨_, rfl⟩
  | _ => exact absurd isProperty id

theorem ExcludedForm.reads (form : ExcludedForm tokens) (rest : List Token) :
    ∃ found, excludedProperty (tokens ++ rest) = some (found, rest) := by
  cases form with
  | @plain token isProperty =>
      obtain ⟨found, read⟩ := propertyName_of_isProperty isProperty rest
      have noCaret : mark .caret (token :: rest) = none := by
        cases token <;> first | rfl | exact absurd isProperty id
      unfold excludedProperty
      rw [bind_apply, List.singleton_append, taken_of_none noCaret,
        Option.bind_some, bind_apply, read]
      exact ⟨_, rfl⟩
  | @inverse token isProperty =>
      obtain ⟨found, read⟩ := propertyName_of_isProperty isProperty rest
      have isCaret : mark .caret (.mark .caret :: token :: rest) = some ((), token :: rest) := rfl
      unfold excludedProperty
      rw [bind_apply, List.cons_append, List.singleton_append,
        taken_of_some isCaret, Option.bind_some, bind_apply, read]
      exact ⟨_, rfl⟩

/-- A set of properties is read up to its closing parenthesis. -/
theorem separated_of_excluded (excluded : Chained .bar ExcludedForm tokens) (rest : List Token) :
    ∃ members, separated (mark .bar) excludedProperty (tokens ++ .mark .closeParen :: rest) =
      some (members, .mark .closeParen :: rest) := by
  induction excluded with
  | single form =>
      obtain ⟨found, read⟩ := form.reads (.mark .closeParen :: rest)
      exact ⟨[found], separated_of_some read (many_of_none rfl)⟩
  | @more front behind form _ induction =>
      obtain ⟨members, further⟩ := induction
      obtain ⟨found, read⟩ := form.reads (.mark .bar :: (behind ++ .mark .closeParen :: rest))
      refine ⟨found :: members, ?_⟩
      rw [List.append_assoc]
      refine separated_of_some read ?_
      exact many_of_separated (fun _ => .bind (.token _) fun _ =>
        .ofAdvance advance_excludedProperty)
        rfl further

theorem excludedProperties_of_form (form : ExcludedForm tokens) (rest : List Token) :
    ∃ found, excludedProperties (tokens ++ rest) = some (found, rest) := by
  obtain ⟨found, read⟩ := form.reads rest
  unfold excludedProperties
  rw [orElse_apply, bind_apply, read]
  exact ⟨_, rfl⟩

theorem excludedProperties_of_list (excluded : Chained .bar ExcludedForm tokens)
    (rest : List Token) :
    ∃ found, excludedProperties (.mark .openParen :: (tokens ++ .mark .closeParen :: rest)) =
      some (found, rest) := by
  obtain ⟨members, read⟩ := separated_of_excluded excluded rest
  unfold excludedProperties
  rw [orElse_apply, parenthesised_of_some read]
  exact ⟨members, rfl⟩

theorem PathForm.noCaret (form : PathForm .primary tokens) (rest : List Token) :
    mark .caret (tokens ++ rest) = none := by
  cases form with
  | @property token isProperty => cases token <;> first | rfl | exact absurd isProperty id
  | _ => rfl

theorem PathForm.taken_caret {before : List Token} (form : PathForm .primary tokens)
    (isBefore : before = [] ∨ before = [.mark .caret]) (rest : List Token) :
    ∃ inverse, taken (mark .caret) (before ++ (tokens ++ rest)) =
      some (inverse, tokens ++ rest) := by
  rcases isBefore with rfl | rfl
  · exact ⟨false, taken_of_none (form.noCaret rest)⟩
  · exact ⟨true, taken_of_some rfl⟩

theorem pathModifier_of_ends (ends : Ends [.star, .plus, .question] rest) :
    pathModifier rest = none := by
  unfold pathModifier
  rw [orElse_apply, bind_apply, ends .star (by decide), orElse_apply, bind_apply,
    ends .plus (by decide), bind_apply, ends .question (by decide)]
  rfl

theorem pathModifier_of_mem {modifier : Mark} (inside : modifier ∈ [Mark.star, .plus, .question])
    (rest : List Token) : ∃ found, pathModifier (.mark modifier :: rest) = some (found, rest) := by
  simp only [List.mem_cons, List.not_mem_nil, or_false] at inside
  rcases inside with rfl | rfl | rfl <;> exact ⟨_, rfl⟩

/-- A modifier is taken if it is there. -/
theorem maybe_pathModifier {after : List Token}
    (isAfter : after = [] ∨ ∃ modifier ∈ [Mark.star, .plus, .question], after = [.mark modifier])
    (ends : Ends [.star, .plus, .question] rest) :
    ∃ modifier, maybe pathModifier (after ++ rest) = some (modifier, rest) := by
  unfold Reader.maybe
  rcases isAfter with rfl | ⟨modifier, inside, rfl⟩
  · rw [orElse_apply, map_apply, List.nil_append, pathModifier_of_ends ends]
    exact ⟨none, rfl⟩
  · obtain ⟨found, isModifier⟩ := pathModifier_of_mem inside rest
    rw [orElse_apply, map_apply, List.singleton_append, isModifier]
    exact ⟨some found, rfl⟩

theorem pathPrimary_bang (inner : Reader Path) (tokens : List Token) :
    pathPrimary inner (.mark .bang :: tokens) =
      (excludedProperties tokens).map fun found => (.negated found.1, found.2) := by
  have noName : (Path.property <$> propertyName) (.mark .bang :: tokens) = none := rfl
  have isBang : mark .bang (.mark .bang :: tokens) = some ((), tokens) := rfl
  have noParen : parenthesised inner (.mark .bang :: tokens) = none := rfl
  unfold pathPrimary
  rw [orElse_apply, noName, Option.none_or, orElse_apply, noParen, Option.or_none,
    bind_apply, isBang, Option.bind_some, map_apply]

theorem pathPrimary_openParen (inner : Reader Path) (tokens : List Token) :
    pathPrimary inner (.mark .openParen :: tokens) = parenthesised inner
      (.mark .openParen :: tokens) :=
  rfl

/-- Every part of a path is taken in front of what does not continue it. -/
theorem PathForm.reads {level : PathLevel} (form : PathForm level tokens) :
    ∀ {depth : Nat}, tokens.length ≤ depth → ∀ {rest}, Ends level.stops rest →
      level.Reads depth (tokens ++ rest) rest := by
  -- Only a group descends into a path within a path; every other form keeps its depth.
  induction form with
  | property isProperty =>
      intro depth deep rest ends
      obtain ⟨found, read⟩ := propertyName_of_isProperty isProperty rest
      refine ⟨.property found, ?_⟩
      unfold pathPrimary
      rw [orElse_apply, map_apply, List.singleton_append, read]
      rfl
  | excluded excluded =>
      intro depth deep rest ends
      obtain ⟨found, read⟩ := excludedProperties_of_form excluded rest
      exact ⟨.negated found, by rw [List.cons_append, pathPrimary_bang, read]; rfl⟩
  | excludedList excluded =>
      intro depth deep rest ends
      obtain ⟨found, read⟩ := excludedProperties_of_list excluded rest
      refine ⟨.negated found, ?_⟩
      rw [List.cons_append, List.cons_append, List.append_assoc, pathPrimary_bang]
      exact congrArg (Option.map _) read
  | grouped inner induction =>
      intro depth deep rest ends
      simp only [List.length_cons, List.length_append, List.length_nil] at deep
      obtain ⟨depth, rfl⟩ : ∃ smaller, depth = smaller + 1 := ⟨depth - 1, by omega⟩
      have closes : Ends PathLevel.alternatives.stops (.mark .closeParen :: rest) :=
        .ofMark (by decide) rest
      obtain ⟨found, read⟩ := @induction depth (by omega) _ closes
      refine ⟨found, ?_⟩
      rw [List.cons_append, List.append_assoc, pathPrimary_openParen]
      exact parenthesised_of_some read
  | @step tokens before after isBefore primary isAfter induction =>
      intro depth deep rest ends
      simp only [List.length_append] at deep
      have noStop : Ends PathLevel.primary.stops (after ++ rest) := fun _ inside =>
        absurd inside List.not_mem_nil
      obtain ⟨found, read⟩ := @induction depth (by omega) _ noStop
      obtain ⟨inverse, caret⟩ := primary.taken_caret isBefore (after ++ rest)
      obtain ⟨modifier, modified⟩ := maybe_pathModifier isAfter ends
      rw [List.append_assoc, List.append_assoc]
      unfold PathLevel.Reads pathStep
      rw [bind_apply, caret, Option.bind_some, bind_apply, read, Option.bind_some,
        bind_apply, modified]
      exact ⟨_, rfl⟩
  | lastStep step induction =>
      intro depth deep rest ends
      exact exists_single_chain
        (induction deep fun expected inside => ends expected (List.mem_cons_of_mem _ inside))
        (ends .slash (by decide))
  | nextStep step more induction inductionMore =>
      intro depth deep rest ends
      simp only [List.length_cons, List.length_append] at deep
      rw [List.append_assoc]
      exact exists_longer_chain
        (fun _ => .ofSucc (advance_pathStep (.ofAdvance (advance_pathWithin depth))))
        (induction (by omega) (.ofMark (by decide) _)) (inductionMore (by omega) ends)
  | lastSequence sequence induction =>
      intro depth deep rest ends
      exact exists_single_chain
        (induction deep fun expected inside => ends expected (List.mem_cons_of_mem _ inside))
        (ends .bar (by decide))
  | nextSequence sequence more induction inductionMore =>
      intro depth deep rest ends
      simp only [List.length_cons, List.length_append] at deep
      rw [List.append_assoc]
      exact exists_longer_chain
        (fun _ => .chain (.token _) _
          (.ofSucc (advance_pathStep (.ofAdvance (advance_pathWithin depth)))))
        (induction (by omega) (.ofMark (by decide) _)) (inductionMore (by omega) ends)

theorem PathForm.exists_path (form : PathForm .alternatives tokens)
    (ends : Ends PathLevel.alternatives.stops rest) :
    ∃ found, path (tokens ++ rest) = some (found, rest) := by
  have deep : tokens.length ≤ (tokens ++ rest).length := by simp
  obtain ⟨found, read⟩ := form.reads deep ends
  exact ⟨found, by rw [path_eq_pathWithin (Nat.le_succ _)]; exact read⟩

theorem PathForm.arePath (form : PathForm .alternatives tokens) : ArePath tokens := by
  obtain ⟨found, read⟩ := form.exists_path (Ends.ofVar _ "" [])
  rw [ArePath, read]
  rfl

/-- The tokens of which paths are made. -/
def isPathToken : Token → Bool
  | .name _ => true
  | .word letters => letters == "a"
  | .mark value =>
    [Mark.caret, .bang, .bar, .slash, .star, .plus, .question, .openParen,
      .closeParen].contains value
  | _ => false

theorem isPathToken_of_isProperty {token : Token} (isProperty : IsProperty token) :
    isPathToken token = true := by
  cases token with
  | name value => rfl
  | word letters => exact beq_iff_eq.mpr isProperty
  | _ => exact absurd isProperty id

theorem ExcludedForm.madeOf (form : ExcludedForm tokens) :
    ∀ token ∈ tokens, isPathToken token = true := by
  cases form with
  | plain isProperty => simpa using isPathToken_of_isProperty isProperty
  | inverse isProperty => simpa [isPathToken] using isPathToken_of_isProperty isProperty

theorem madeOf_excluded (excluded : Chained .bar ExcludedForm tokens) :
    ∀ token ∈ tokens, isPathToken token = true := by
  induction excluded with
  | single form => exact form.madeOf
  | more form _ induction =>
      simp only [List.forall_mem_append, List.forall_mem_cons]
      exact ⟨form.madeOf, rfl, induction⟩

/-- Paths are made of path tokens only. -/
theorem PathForm.madeOf {level : PathLevel} (form : PathForm level tokens) :
    ∀ token ∈ tokens, isPathToken token = true := by
  induction form with
  | property isProperty => simpa using isPathToken_of_isProperty isProperty
  | excluded form => exact List.forall_mem_cons.mpr ⟨rfl, form.madeOf⟩
  | excludedList excluded =>
      simp only [List.forall_mem_append, List.forall_mem_cons]
      exact ⟨rfl, rfl, madeOf_excluded excluded, rfl, nofun⟩
  | grouped _ induction =>
      simp only [List.forall_mem_append, List.forall_mem_cons]
      exact ⟨rfl, induction, rfl, nofun⟩
  | step before _ after induction =>
      simp only [List.forall_mem_append]
      refine ⟨?_, induction, ?_⟩
      · rcases before with rfl | rfl <;> decide
      · rcases after with rfl | ⟨modifier, inside, rfl⟩
        · nofun
        · simp only [List.mem_cons, List.not_mem_nil, or_false] at inside
          rcases inside with rfl | rfl | rfl <;> decide
  | lastStep _ induction => exact induction
  | nextStep _ _ induction inductionMore =>
      simp only [List.forall_mem_append, List.forall_mem_cons]
      exact ⟨induction, rfl, inductionMore⟩
  | lastSequence _ induction => exact induction
  | nextSequence _ _ induction inductionMore =>
      simp only [List.forall_mem_append, List.forall_mem_cons]
      exact ⟨induction, rfl, inductionMore⟩

/-- A path that starts with a parenthesis starts with a path in parentheses. -/
theorem exists_grouped {found : Path}
    (read : path (.mark .openParen :: tokens) = some (found, rest)) :
    ∃ inner behind, PathForm .alternatives inner ∧ tokens =
      inner ++ .mark .closeParen :: behind := by
  have chained : chain (mark .bar) .alternative (chain (mark .slash) .sequence
      (pathStep (pathWithin tokens.length))) (.mark .openParen :: tokens) =
        some (found, rest) := read
  unfold chain at chained
  rw [bind_apply] at chained
  obtain ⟨⟨sequence, _⟩, chained, -⟩ := Option.bind_eq_some_iff.mp chained
  rw [bind_apply] at chained
  obtain ⟨⟨step, _⟩, isStep, -⟩ := Option.bind_eq_some_iff.mp chained
  have noCaret : taken (mark .caret) (.mark .openParen :: tokens) =
      some (false, .mark .openParen :: tokens) := taken_of_none rfl
  unfold pathStep at isStep
  rw [bind_apply, noCaret, Option.bind_some, bind_apply, pathPrimary_openParen] at isStep
  obtain ⟨⟨primary, behind⟩, grouped, -⟩ := Option.bind_eq_some_iff.mp isStep
  obtain ⟨_, ⟨inner, form, rfl⟩, split⟩ := (takes_pathWithin _).parenthesised _ _ _ grouped
  exact ⟨inner, behind, form, by simpa using split⟩

end

end FacetedQuery.Sparql.Grammar
