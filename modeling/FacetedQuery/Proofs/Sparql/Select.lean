import FacetedQuery.Proofs.Sparql.Group

/-!
# Queries for solutions

A query is put together from its head, the contents of its group and what follows the group.
Whether its columns obey the rules of scope must not depend on the group; then any contents will do.
-/

namespace FacetedQuery.Sparql.Grammar

open Reader

/-- Reads a query up to its body; a star stands for no list of columns. -/
def selectHead (readers : Readers) : Reader (Option (List Column)) := do
  word "SELECT"
  let _ ← taken (word "DISTINCT" <|> word "REDUCED")
  (do mark .star; return none) <|> (some <$> several (column readers))

/-- The query of columns, a body and what follows it. -/
def Select.ofParts (columns : Option (List Column)) (body : Group)
    (modifiers : Modifiers) : Select :=
  match columns with
  | none => .all body modifiers
  | some list => .columns list body modifiers

/-- The tokens around the body of a query, in front of the given rest.  A bound for the nesting of
five hides nothing of them. -/
structure Encloses (head tail : List Token) (columns : Option (List Column)) (modified : Modifiers)
    (rest : List Token) : Prop where
  head : ∀ depth behind, selectHead (readersWithin (depth + 5)) (head ++ .word "WHERE" :: behind) =
    some (columns, .word "WHERE" :: behind)
  tail : ∀ depth, modifiers (readersWithin (depth + 5)) (tail ++ rest) = some (modified, rest)
  sound : ∀ body, (Select.ofParts columns body modified).isSound = true

section

variable {head tail content rest : List Token} {scope assigned : List String}
  {columns : Option (List Column)} {modified : Modifiers}

theorem select_of_parts {readers : Readers} {sources : Reader Unit}
    {tokens behind further : List Token}
    {body : Group} (isHead : selectHead readers tokens = some (columns, behind))
    (noSources : sources behind = some ((), behind))
    (isBody : Grammar.body readers behind = some (body, further))
    (isTail : modifiers readers further = some (modified, rest))
    (sound : (Select.ofParts columns body modified).isSound = true) :
    select readers sources tokens = some (Select.ofParts columns body modified, rest) := by
  unfold selectHead at isHead
  rw [bind_apply] at isHead
  obtain ⟨start, isSelect, isHead⟩ := Option.bind_eq_some_iff.mp isHead
  rw [bind_apply] at isHead
  obtain ⟨kept, isTaken, isHead⟩ := Option.bind_eq_some_iff.mp isHead
  unfold select
  rw [bind_apply, isSelect, Option.bind_some, bind_apply, isTaken, Option.bind_some, bind_apply,
    isHead, Option.bind_some, bind_apply, noSources, Option.bind_some, bind_apply, isBody,
    Option.bind_some, bind_apply, isTail, Option.bind_some]
  change (if (Select.ofParts columns body modified).isSound = true then _ else _ : Reader Select)
    rest = _
  rw [if_pos sound]
  rfl

/-- The tokens of a query. -/
def selectTokens (head content tail : List Token) : List Token :=
  head ++ .word "WHERE" :: .mark .openBrace :: (content ++ .mark .closeBrace :: tail)

theorem select_of_group (encloses : Encloses head tail columns modified rest) {body : Group}
    (finds : Finds Readers.group (.mark .openBrace ::
      (content ++ .mark .closeBrace :: (tail ++ rest))) body (tail ++ rest))
    {sources : Reader Unit}
    (noSources : ∀ behind, sources (.word "WHERE" :: behind) = some ((), .word "WHERE" :: behind))
    {depth : Nat} (deep : (selectTokens head content tail ++ rest).length < depth)
    (enough : 5 ≤ depth) :
    select (readersWithin depth) sources (selectTokens head content tail ++ rest) =
      some (Select.ofParts columns body modified, rest) := by
  obtain ⟨depth, rfl⟩ : ∃ less, depth = less + 5 := ⟨depth - 5, by omega⟩
  have parts : selectTokens head content tail ++ rest = head ++ .word "WHERE" ::
      .mark .openBrace :: (content ++ .mark .closeBrace :: (tail ++ rest)) := by
    simp [selectTokens]
  rw [parts] at deep ⊢
  simp only [List.length_append, List.length_cons] at deep
  have read : (readersWithin (depth + 5)).group (.mark .openBrace ::
      (content ++ .mark .closeBrace :: (tail ++ rest))) = some (body, tail ++ rest) :=
    finds.within nested_group (by simp only [List.length_append, List.length_cons]; omega)
  have isBody : Grammar.body (readersWithin (depth + 5)) (.word "WHERE" :: .mark .openBrace ::
      (content ++ .mark .closeBrace :: (tail ++ rest))) = some (body, tail ++ rest) := by
    unfold Grammar.body
    rw [bind_apply, taken_of_some rfl]
    exact read
  exact select_of_parts (encloses.head depth _) (noSources _) isBody (encloses.tail depth)
    (encloses.sound body)

theorem exists_select (encloses : Encloses head tail columns modified rest)
    (forms : Forms content scope assigned) {sources : Reader Unit}
    (noSources : ∀ behind, sources (.word "WHERE" :: behind) = some ((), .word "WHERE" :: behind))
    {depth : Nat} (deep : (selectTokens head content tail ++ rest).length < depth)
    (enough : 5 ≤ depth) :
    ∃ body : Group, body.scope = scope ∧
      select (readersWithin depth) sources (selectTokens head content tail ++ rest) =
        some (Select.ofParts columns body modified, rest) := by
  obtain ⟨body, same, finds⟩ := forms.group (tail ++ rest)
  exact ⟨body, same, select_of_group encloses finds noSources deep enough⟩

/-- The columns of a query by name; those of a star are not known. -/
def namesOf (columns : List Column) : List String :=
  columns.map Column.target

/-- A query in braces is a part of a group, which binds its columns. -/
theorem Forms.subquery {list : List Column}
    (encloses : ∀ rest, Encloses head tail (some list) modified (.mark .closeBrace :: rest))
    (forms : Forms content scope assigned) :
    Forms (.mark .openBrace :: (selectTokens head content tail ++ [.mark .closeBrace]))
      (namesOf list) [] := by
  refine .ofElement (fun rest => follows_openBrace _) (fun rest => block_openBrace _)
    fun rest follows => ?_
  have noSources : ∀ behind, (pure () : Reader Unit) (.word "WHERE" :: behind) =
      some ((), .word "WHERE" :: behind) := fun _ => rfl
  obtain ⟨body, -, read⟩ := exists_select (encloses rest) forms noSources (Nat.lt_succ_self _)
    (by simp [selectTokens]; omega)
  have finds : Finds Readers.group (.mark .openBrace ::
      (selectTokens head content tail ++ .mark .closeBrace :: rest)) _ rest := finds_query read
  refine ⟨.union [.query (Select.ofParts (some list) body modified)], rfl, ⟨rfl, ?_, rfl⟩, ?_⟩
  · simp [scopeOfElements, Element.scope, scopeOfGroups, Group.scope, Select.ofParts, Select.scope,
      namesOf]
  · simpa using finds.union follows.noUnion

theorem noSources_where (behind : List Token) :
    sources (.word "WHERE" :: behind) = some ((), .word "WHERE" :: behind) := by
  unfold sources
  rw [bind_apply, many_of_none rfl]
  rfl

/-- A group behind the head of a query makes the query. -/
theorem query?_of_group (encloses : Encloses head tail columns modified []) {body : Group}
    (finds : Finds Readers.group (.mark .openBrace :: (content ++ .mark .closeBrace :: tail)) body
      tail) :
    query? (selectTokens head content tail) =
      some (.select (Select.ofParts columns body modified)) := by
  have deep : (selectTokens head content tail ++ []).length <
      (selectTokens head content tail).length + 1 := by
    rw [List.append_nil]
    exact Nat.lt_succ_self _
  have isHead := encloses.head 0 []
  have enough : 5 ≤ (selectTokens head content tail).length + 1 := by
    have nonempty : head ≠ [] := by
      rintro rfl
      cases isHead
    have positive := List.length_pos_iff.mpr nonempty
    simp [selectTokens]
    omega
  have read := select_of_group encloses (by rwa [List.append_nil]) noSources_where deep enough
  rw [List.append_nil] at read
  unfold query? query
  rw [orElse_apply, map_apply, read]
  rfl

theorem exists_query (encloses : Encloses head tail columns modified [])
    (forms : Forms content scope assigned) :
    ∃ body : Group, body.scope = scope ∧ query? (selectTokens head content tail) =
      some (.select (Select.ofParts columns body modified)) := by
  obtain ⟨body, same, finds⟩ := forms.group tail
  exact ⟨body, same, query?_of_group encloses finds⟩

end

end FacetedQuery.Sparql.Grammar
