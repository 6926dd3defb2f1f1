import FacetedQuery.Proofs.Sparql.Nesting

/-!
# Paths in front of their objects

No path goes on beyond a variable.  A path that is read in front of one object is therefore read in
front of any other, whatever comes behind it.
-/

namespace FacetedQuery.Sparql.Grammar

open Reader

/-- A reader that does not tell apart what a front is followed by. -/
def Blind (first second : List Token) (item : Reader α) : Prop :=
  ∀ front, (item (front ++ first) = none ∧ item (front ++ second) = none) ∨
    ∃ value behind, item (front ++ first) = some (value, behind ++ first) ∧
      item (front ++ second) = some (value, behind ++ second)

variable {first second : List Token} {item other : Reader α}

theorem Blind.pure (value : α) : Blind first second (Pure.pure value : Reader α) :=
  fun front => .inr ⟨value, front, rfl, rfl⟩

theorem Blind.failure : Blind first second (failure : Reader α) :=
  fun _ => .inl ⟨rfl, rfl⟩

theorem Blind.bind {next : α → Reader β} (blind : Blind first second item)
    (further : ∀ value, Blind first second (next value)) : Blind first second (item >>= next) := by
  intro front
  rw [bind_apply, bind_apply]
  rcases blind front with ⟨left, right⟩ | ⟨value, behind, left, right⟩
  · exact .inl ⟨by rw [left]; rfl, by rw [right]; rfl⟩
  · rw [left, right]
    exact further value behind

theorem Blind.map (f : α → β) (blind : Blind first second item) :
    Blind first second (f <$> item) := by
  intro front
  rw [map_apply, map_apply]
  rcases blind front with ⟨left, right⟩ | ⟨value, behind, left, right⟩
  · exact .inl ⟨by rw [left]; rfl, by rw [right]; rfl⟩
  · exact .inr ⟨f value, behind, by rw [left]; rfl, by rw [right]; rfl⟩

theorem Blind.orElse (blind : Blind first second item) (instead : Blind first second other) :
    Blind first second (item <|> other) := by
  intro front
  rw [orElse_apply, orElse_apply]
  rcases blind front with ⟨left, right⟩ | ⟨value, behind, left, right⟩
  · rw [left, right]
    exact instead front
  · exact .inr ⟨value, behind, by rw [left]; rfl, by rw [right]; rfl⟩

theorem Blind.maybe (blind : Blind first second item) : Blind first second (maybe item) :=
  .orElse (.map _ blind) (.pure _)

theorem Blind.taken {item : Reader Unit} (blind : Blind first second item) :
    Blind first second (taken item) :=
  .orElse (.bind blind fun _ => .pure _) (.pure _)

theorem Blind.many (takes : ∀ size, Advance size item item) (blind : Blind first second item) :
    Blind first second (many item) := by
  intro front
  induction length : front.length using Nat.strongRecOn generalizing front with
  | _ length induction =>
      subst length
      rcases blind front with ⟨left, right⟩ | ⟨value, behind, left, right⟩
      · exact .inr ⟨[], front, many_of_none left, many_of_none right⟩
      · have less := (takes _).shorter (Nat.le_refl _) left
        simp only [List.length_append] at less
        rw [many_of_some takes left, many_of_some takes right]
        rcases induction behind.length (by omega) behind rfl with ⟨further, -⟩ |
          ⟨values, last, further, others⟩
        · obtain ⟨values, rest, readMany⟩ := exists_many item (behind ++ first)
          rw [further] at readMany
          cases readMany
        · exact .inr ⟨value :: values, last, by rw [further]; rfl, by rw [others]; rfl⟩

/-- A token that neither rest starts with. -/
theorem Blind.token {meaning? : Token → Option α} (noFirst : token meaning? first = none)
    (noSecond : Sparql.Reader.token meaning? second = none) :
    Blind first second (token meaning?) := by
  intro front
  cases front with
  | nil => exact .inl ⟨noFirst, noSecond⟩
  | cons head front =>
      cases found : meaning? head with
      | none =>
          refine .inl ⟨?_, ?_⟩ <;>
            · change (meaning? head).map _ = none
              rw [found]
              rfl
      | some value =>
          refine .inr ⟨value, front, ?_, ?_⟩ <;>
            · change (meaning? head).map _ = _
              rw [found]
              rfl

theorem Blind.chain {mark : Reader Unit} (takesMark : ∀ size, Advance size mark mark)
    (takes : ∀ size, Advance size item item) (blindMark : Blind first second mark)
    (combine : α → α → α) (blind : Blind first second item) :
    Blind first second (chain mark combine item) :=
  .bind blind fun _ =>
    .bind (.many (fun size => .bind (takesMark size) fun _ => .ofAdvance (takes size))
    (.bind blindMark fun _ => blind)) fun _ => .pure _

theorem Blind.separated {mark : Reader Unit} (takesMark : ∀ size, Advance size mark mark)
    (takes : ∀ size, Advance size item item) (blindMark : Blind first second mark)
    (blind : Blind first second item) : Blind first second (separated mark item) :=
  .bind blind fun _ =>
    .bind (.many (fun size => .bind (takesMark size) fun _ => .ofAdvance (takes size))
    (.bind blindMark fun _ => blind)) fun _ => .pure _

/-- What no path goes on with: nothing, or a variable. -/
inductive Outside : List Token → Prop where
  | nil : Outside []
  | var (name : String) (rest : List Token) : Outside (.var name :: rest)

theorem Outside.token_eq_none {meaning? : Token → Option α} (outside : Outside first)
    (noVariable : ∀ name, meaning? (.var name) = none) : token meaning? first = none := by
  cases outside with
  | nil => rfl
  | var name rest =>
      change (meaning? (.var name)).map _ = none
      rw [noVariable]
      rfl

section

variable (outside : Outside first) (outsideToo : Outside second)

include outside outsideToo

theorem blind_token {meaning? : Token → Option α}
    (noVariable : ∀ name, meaning? (.var name) = none) :
    Blind first second (token meaning?) :=
  .token (outside.token_eq_none noVariable) (outsideToo.token_eq_none noVariable)

theorem blind_mark (expected : Mark) : Blind first second (mark expected) :=
  blind_token outside outsideToo fun _ => rfl

theorem blind_propertyName : Blind first second propertyName :=
  .orElse (.map _ (blind_token outside outsideToo fun _ => rfl))
    (.bind (blind_token outside outsideToo fun _ => rfl) fun _ => .pure _)

theorem blind_excludedProperty : Blind first second excludedProperty :=
  .bind (.taken (blind_mark outside outsideToo _)) fun _ =>
    .bind (blind_propertyName outside outsideToo) fun _ => .pure _

theorem blind_parenthesised (blind : Blind first second item) :
    Blind first second (parenthesised item) :=
  .bind (blind_mark outside outsideToo _) fun _ => .bind blind fun _ =>
    .bind (blind_mark outside outsideToo _) fun _ => .pure _

theorem blind_excludedProperties : Blind first second excludedProperties :=
  have single := blind_excludedProperty outside outsideToo
  .orElse (.bind single fun _ => .pure _)
    (blind_parenthesised outside outsideToo (.separated (fun _ => .token _)
      (fun _ => advance_excludedProperty) (blind_mark outside outsideToo _) single))

theorem blind_pathModifier : Blind first second pathModifier :=
  have blind := blind_mark outside outsideToo
  .orElse (.bind (blind _) fun _ => .pure _) <|
    .orElse (.bind (blind _) fun _ => .pure _) (.bind (blind _) fun _ => .pure _)

theorem blind_pathWithin (depth : Nat) : Blind first second (pathWithin depth) := by
  induction depth with
  | zero => exact .failure
  | succ depth induction =>
      have blind := blind_mark outside outsideToo
      have primary : Blind first second (pathPrimary (pathWithin depth)) :=
        .orElse (.map _ (blind_propertyName outside outsideToo)) <|
          .orElse (.bind (blind _) fun _ => .map _ (blind_excludedProperties outside outsideToo))
            (blind_parenthesised outside outsideToo induction)
      have step : Blind first second (pathStep (pathWithin depth)) :=
        .bind (.taken (blind _)) fun _ => .bind primary fun _ =>
          .bind (.maybe (blind_pathModifier outside outsideToo)) fun _ => .pure _
      have takes : ∀ size, Advance size (pathStep (pathWithin depth))
        (pathStep (pathWithin depth)) :=
        fun _ => .ofSucc (advance_pathStep (.ofAdvance (advance_pathWithin depth)))
      exact .chain (fun _ => .token _) (fun size => .chain (.token _) _ (takes size)) (blind _) _
        (.chain (fun _ => .token _) takes (blind _) _ step)

end

theorem pathWithin_nil (depth : Nat) : pathWithin depth [] = none := by
  cases depth <;> rfl

theorem pathWithin_agree {size depth another : Nat} (deep : size ≤ depth)
    (otherDeep : size ≤ another) : Advance size (pathWithin depth) (pathWithin another) := by
  induction size generalizing depth another with
  | zero => exact advance_zero (pathWithin_nil _) (pathWithin_nil _)
  | succ size induction =>
      obtain ⟨depth, rfl⟩ : ∃ smaller, depth = smaller + 1 := ⟨depth - 1, by omega⟩
      obtain ⟨another, rfl⟩ : ∃ smaller, another = smaller + 1 := ⟨another - 1, by omega⟩
      exact advance_pathWith (.ofAdvance (induction (by omega) (by omega)))

theorem path_eq_pathWithin {tokens : List Token} {depth : Nat} (deep : tokens.length ≤ depth) :
    path tokens = pathWithin depth tokens :=
  (pathWithin_agree (Nat.le_refl _) deep).same (Nat.le_refl _)

theorem blind_path (outside : Outside first) (outsideToo : Outside second) :
    Blind first second path := by
  intro front
  rw [path_eq_pathWithin (Nat.le_add_right _ (front ++ second).length),
    path_eq_pathWithin (Nat.le_add_left _ (front ++ first).length)]
  exact blind_pathWithin outside outsideToo _ front

/-- A path is read the same in front of every object, and by itself. -/
theorem path_behind {tokens : List Token} {found : Path} (outside : Outside first)
    (outsideToo : Outside second) (read : path (tokens ++ first) = some (found, first)) :
    path (tokens ++ second) = some (found, second) := by
  rcases blind_path outside outsideToo tokens with ⟨nothing, -⟩ | ⟨value, behind, left, right⟩
  · rw [read] at nothing
    cases nothing
  · rw [read, Option.some_inj, Prod.mk.injEq] at left
    obtain ⟨rfl, ends⟩ := left
    rw [right, show behind = [] from List.append_left_eq_self.mp ends.symm]
    rfl

/-- Tokens that are a path in front of an object. -/
def ArePath (tokens : List Token) : Prop :=
  (path (tokens ++ [.var ""])).map Prod.snd = some [.var ""]

instance (tokens : List Token) : Decidable (ArePath tokens) :=
  inferInstanceAs (Decidable (_ = _))

/-- A triple that links two variables. -/
def link (subject : String) (path : Path) (object : String) : Triples :=
  ⟨.var subject, [.about (.path path) [.var object]]⟩

theorem pathVerb_of_path {tokens rest : List Token} {found : Path}
    (read : path tokens = some (found, rest)) : pathVerb tokens = some (.path found, rest) := by
  have noVariable : variableName tokens = none := by
    cases tokens with
    | nil => rfl
    | cons head tokens =>
        cases head with
        | var name => cases read
        | _ => rfl
  unfold pathVerb
  rw [orElse_apply, map_apply, noVariable, map_apply, read]
  rfl

theorem node_var (name : String) (rest : List Token) :
    node pathVerb (.var name :: rest) = some (.var name, rest) :=
  rfl

/-- A verb between two variables makes a triple in front of what does not go on with it. -/
theorem triples_of_verb {tokens rest : List Token} {verb : Verb} (subject object : String)
    (isVerb : pathVerb (tokens ++ .var object :: rest) = some (verb, .var object :: rest))
    (noComma : mark .comma rest = none) (noSemicolon : mark .semicolon rest = none) :
    triples pathVerb (.var subject :: (tokens ++ .var object :: rest)) =
      some (⟨.var subject, [.about verb [.var object]]⟩, rest) := by
  have noObject : many (do mark .comma; node pathVerb) rest = some ([], rest) :=
    many_of_none (by rw [bind_apply, noComma]; rfl)
  have noStatement : many (do mark .semicolon; maybe (statement pathVerb (node pathVerb))) rest =
      some ([], rest) := many_of_none (by rw [bind_apply, noSemicolon]; rfl)
  have single : statement pathVerb (node pathVerb) (tokens ++ .var object :: rest) =
      some (.about verb [.var object], rest) := by
    unfold statement
    rw [bind_apply, isVerb, Option.bind_some, bind_apply,
      separated_of_some (node_var object _) noObject]
    rfl
  have list : statements pathVerb (node pathVerb) (tokens ++ .var object :: rest) =
      some ([.about verb [.var object]], rest) := by
    unfold statements
    rw [bind_apply, single, Option.bind_some, bind_apply, noStatement]
    rfl
  unfold triples
  rw [bind_apply, node_var, Option.bind_some]
  change (statements _ _ _).bind _ = _
  rw [list]
  rfl

theorem exists_link {tokens : List Token} (arePath : ArePath tokens) :
    ∃ found, ∀ subject object next rest, next = Mark.dot ∨ next = Mark.closeBrace →
      triples pathVerb (.var subject :: (tokens ++ .var object :: .mark next :: rest)) =
        some (link subject found object, .mark next :: rest) := by
  obtain ⟨⟨found, left⟩, read, rfl⟩ := Option.map_eq_some_iff.mp arePath
  refine ⟨found, fun subject object next rest ends => ?_⟩
  have verb := pathVerb_of_path (path_behind (.var _ _) (.var object (.mark next :: rest)) read)
  exact triples_of_verb subject object verb (by rcases ends with rfl | rfl <;> rfl)
    (by rcases ends with rfl | rfl <;> rfl)

end FacetedQuery.Sparql.Grammar
