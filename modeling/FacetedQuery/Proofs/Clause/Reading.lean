import FacetedQuery.Proofs.Clause.Pieces
import FacetedQuery.Proofs.Sparql.Contents
import FacetedQuery.Proofs.Sparql.Path

/-!
# Clauses are read back

The grammar of queries reads the tokens of a clause as what they stand for: an expression as the
same expression, and the patterns of a group as its elements.  A membership stands in no brackets,
so it may not be compared and not be the member of another list.
-/

namespace FacetedQuery.Clause

open Rdf (Iri Literal Variable)
open Sparql (Mark Reader Token)
open Sparql.Grammar
open Sparql.Reader hiding Agree

/-- The tokens of a literal as the grammar sees them. -/
def literalForm (literal : Literal) : Sparql.LiteralForm :=
  match literal.kind with
  | .plain => .plain literal.value
  | .tagged language => .tagged literal.value language
  | .typed datatype => .typed literal.value (.iri datatype.text)

/-- The numbers of arguments that a function takes. -/
def Builtin.Takes : Builtin → Nat → Prop
  | .str, count => count = 1
  | .lcase, count => count = 1
  | .contains, count => count = 2
  | .coalesce, _ => True

theorem Builtin.Takes.arity {function : Builtin} {count : Nat} (takes : function.Takes count) :
    ∃ arity, Sparql.arity? function.name = some arity ∧ arity.allows count = true := by
  cases function with
  | str => exact ⟨.between 1 1, rfl, by rw [show count = 1 from takes]; rfl⟩
  | lcase => exact ⟨.between 1 1, rfl, by rw [show count = 1 from takes]; rfl⟩
  | contains => exact ⟨.between 2 2, rfl, by rw [show count = 2 from takes]; rfl⟩
  | coalesce => exact ⟨.any, rfl, rfl⟩

namespace Expression

mutual

/-- The expression that the grammar reads. -/
def tree : Expression → Sparql.Expression
  | .var target => .var target.name
  | .iri value => .resource (.iri value.text)
  | .literal value => .literal (literalForm value)
  | .member value list => .member false value.tree (listTree list)
  | .conjunction left right => .binary .and left.tree right.tree
  | .atLeast left right => .binary .greaterEqual left.tree right.tree
  | .atMost left right => .binary .lessEqual left.tree right.tree
  | .bound target => .bound target.name
  | .call .str arguments => .call (.builtin "STR") (listTree arguments)
  | .call .lcase arguments => .call (.builtin "LCASE") (listTree arguments)
  | .call .contains arguments => .call (.builtin "CONTAINS") (listTree arguments)
  | .call .coalesce arguments => .call (.builtin "COALESCE") (listTree arguments)
  | .cast datatype value => .call (.resource (.iri datatype.text)) [value.tree]

def listTree : List Expression → List Sparql.Expression
  | [] => []
  | expression :: rest => expression.tree :: listTree rest

end

@[simp]
theorem tree_call (function : Builtin) (arguments : List Expression) :
    (call function arguments).tree = .call (.builtin function.name) (listTree arguments) := by
  cases function <;> rfl

/-- An expression that ends where its brackets do. -/
def IsOperand : Expression → Prop
  | .member _ _ => False
  | _ => True

/-- A variable whose name is a single token. -/
def IsWhole (target : Variable) : Prop :=
  target.name.toList.head? ≠ some ':'

mutual

/-- Calls have as many arguments as their functions take, and memberships are not compared. -/
def Legible : Expression → Prop
  | .var target => IsWhole target
  | .iri _ => True
  | .literal _ => True
  | .member value list => value.IsOperand ∧ value.Legible ∧ ListLegible list
  | .conjunction left right => left.Legible ∧ right.Legible
  | .atLeast left right => (left.IsOperand ∧ left.Legible) ∧ right.IsOperand ∧ right.Legible
  | .atMost left right => (left.IsOperand ∧ left.Legible) ∧ right.IsOperand ∧ right.Legible
  | .bound target => IsWhole target
  | .call function arguments => function.Takes arguments.length ∧ ListLegible arguments
  | .cast _ value => value.Legible

def ListLegible : List Expression → Prop
  | [] => True
  | expression :: rest => expression.Legible ∧ ListLegible rest

end

theorem length_listTree (list : List Expression) : (listTree list).length = list.length := by
  induction list with
  | nil => rfl
  | cons expression list induction => simp [listTree, induction]

/-- The tokens of an expression. -/
def tokens (expression : Expression) : List Token :=
  expression.pieces.map Piece.token

def listTokens (list : List Expression) : List Token :=
  (listPieces list).map Piece.token

end Expression

open Expression

theorem tokens_variable {target : Variable} (whole : IsWhole target) :
    (variablePieces target).map Piece.token = [.var target.name] := by
  have name : Token.nameTokens target.name.toList = [.var target.name] := by
    unfold Token.nameTokens
    split
    · next equality => exact absurd (by rw [equality]; rfl) whole
    · rw [String.ofList_toList]
  rw [variablePieces, name]
  rfl

/-- What follows the value of a literal. -/
def kindTokens : Rdf.LiteralKind → List Token
  | .plain => []
  | .tagged language => [.language language]
  | .typed datatype => [.mark .doubleCaret, .name (.iri datatype.text)]

namespace Expression

theorem tokens_var {target : Variable} (whole : IsWhole target) :
    (var target).tokens = [.var target.name] :=
  tokens_variable whole

theorem tokens_literal (value : Literal) :
    (literal value).tokens = .string value.value :: kindTokens value.kind := by
  unfold tokens pieces literalPieces
  cases value.kind <;> rfl

theorem tokens_member (value : Expression) (list : List Expression) :
    (member value list).tokens = value.tokens ++ .word "IN" :: .mark .openParen ::
      (listTokens list ++ [.mark .closeParen]) := by
  simp [tokens, pieces, listTokens, Piece.token, Piece.word, Piece.mark]

/-- The signs between two parts in parentheses. -/
inductive Joins : Mark → (Expression → Expression → Expression) → Prop where
  | conjunction : Joins .doubleAnd conjunction
  | atLeast : Joins .greaterEqual atLeast
  | atMost : Joins .lessEqual atMost

theorem Joins.tokens {sign : Mark} {combine : Expression → Expression → Expression}
    (joins : Joins sign combine) (left right : Expression) : (combine left right).tokens =
      .mark .openParen :: ((left.tokens ++ .mark sign :: right.tokens) ++ [.mark .closeParen]) := by
  cases joins <;> simp [Expression.tokens, pieces, Piece.token, Piece.mark]

theorem tokens_bound {target : Variable} (whole : IsWhole target) : (bound target).tokens =
    [.word "BOUND", .mark .openParen, .var target.name, .mark .closeParen] := by
  simp [tokens, pieces, tokens_variable whole, Piece.token, Piece.word, Piece.mark]

theorem tokens_call (function : Builtin) (list : List Expression) :
    (call function list).tokens = .word function.name :: .mark .openParen ::
      (listTokens list ++ [.mark .closeParen]) := by
  simp [tokens, pieces, listTokens, Piece.token, Piece.word, Piece.mark]

theorem tokens_cast (datatype : Iri) (value : Expression) : (cast datatype value).tokens =
    .name (.iri datatype.text) :: .mark .openParen :: (value.tokens ++ [.mark .closeParen]) := by
  simp [tokens, pieces, Piece.token, Piece.mark, Piece.datatype]

end Expression

/-- What stands behind an argument or a whole condition. -/
def closers : List Token :=
  [.mark .closeParen, .mark .comma]

/-- What stands behind a part of a conjunction. -/
def conjoiners : List Token :=
  .mark .doubleAnd :: closers

/-- What stands behind something that is compared. -/
def comparers : List Token :=
  .mark .greaterEqual :: .mark .lessEqual :: .word "IN" :: conjoiners

/-- The rest of the tokens starts with one of the given ones, if it starts with anything. -/
def Before (allowed rest : List Token) : Prop :=
  ∀ next ∈ rest.head?, next ∈ allowed

namespace Before

variable {allowed more rest : List Token}

theorem nil : Before allowed [] := by
  simp [Before]

theorem cons {next : Token} (member : next ∈ allowed) (rest : List Token) :
    Before allowed (next :: rest) := by
  simpa [Before] using member

theorem mono (before : Before allowed rest) (subset : allowed ⊆ more) : Before more rest :=
  fun next head => subset (before next head)

@[elab_as_elim]
theorem elim {motive : List Token → Prop} (before : Before allowed rest) (nothing : motive [])
    (more : ∀ next ∈ allowed, ∀ rest, motive (next :: rest)) : motive rest := by
  cases rest with
  | nil => exact nothing
  | cons next rest => exact more next (before next rfl) rest

end Before

theorem closers_subset : closers ⊆ conjoiners :=
  List.subset_cons_self _ _

theorem conjoiners_subset : conjoiners ⊆ comparers := fun next member => by
  simp [comparers, member]

section

variable {readers : Readers} {tokens rest : List Token} {value : Sparql.Expression}

/-- A primary expression is a sum where no operator of sums or products follows. -/
theorem sum_of_primary (unsigned : unaryOperator tokens = none)
    (read : primary readers tokens = some (value, rest)) (follows : Before comparers rest) :
    sum readers tokens = some (value, rest) := by
  have noSign : Reader.maybe unaryOperator tokens = some (none, tokens) := by
    unfold Reader.maybe
    rw [orElse_apply, map_apply, unsigned]
    rfl
  have operand : unary readers tokens = some (value, rest) := by
    unfold unary
    rw [bind_apply, noSign, Option.bind_some, bind_apply, read]
    rfl
  have noFactor : factors readers value rest = some (value, rest) := by
    unfold factors
    rw [bind_apply, many_of_none (by
      refine follows.elim rfl fun next member rest => ?_
      simp only [comparers, conjoiners, closers, List.mem_cons, List.not_mem_nil,
        or_false] at member
      rcases member with rfl | rfl | rfl | rfl | rfl | rfl <;> rfl)]
    rfl
  unfold sum product
  rw [bind_apply, bind_apply, operand, Option.bind_some, noFactor, Option.bind_some, bind_apply,
    many_of_none (by
      refine follows.elim rfl fun next member rest => ?_
      simp only [comparers, conjoiners, closers, List.mem_cons, List.not_mem_nil,
        or_false] at member
      rcases member with rfl | rfl | rfl | rfl | rfl | rfl <;> rfl)]
  rfl

theorem relation_of_sum (read : sum readers tokens = some (value, rest))
    (follows : Before conjoiners rest) : relation readers tokens = some (value, rest) := by
  unfold relation
  rw [bind_apply, read]
  refine follows.elim rfl fun next member rest => ?_
  simp only [conjoiners, closers, List.mem_cons, List.not_mem_nil, or_false] at member
  rcases member with rfl | rfl | rfl <;> rfl

theorem joined_of_closers (follows : Before closers rest) {separator : Mark}
    (joins : separator = .doubleAnd ∨ separator = .doubleBar) (operand : Reader α) :
    (do mark separator; operand) rest = none := by
  refine follows.elim ?_ fun next member rest => ?_
  · rfl
  · simp only [closers, List.mem_cons, List.not_mem_nil, or_false] at member
    rcases joins with rfl | rfl <;> rcases member with rfl | rfl <;> rfl

theorem expression_of_relation (read : relation readers tokens = some (value, rest))
    (follows : Before closers rest) : expressionWith readers tokens = some (value, rest) := by
  unfold expressionWith chain
  rw [bind_apply, bind_apply, read, Option.bind_some, bind_apply,
    many_of_none (joined_of_closers follows (.inl rfl) _), Option.bind_some, pure_apply,
    Option.bind_some, bind_apply, many_of_none (joined_of_closers follows (.inr rfl) _)]
  rfl

variable {left right : Sparql.Expression} {further : List Token}

/-- Two relations with an ampersand between them. -/
theorem expression_of_conjunction
    (readLeft : relation readers tokens = some (left, .mark .doubleAnd :: further))
    (readRight : relation readers further = some (right, rest)) (follows : Before closers rest) :
    expressionWith readers tokens = some (.binary .and left right, rest) := by
  have behind : (do mark .doubleAnd; relation readers : Reader Sparql.Expression)
      (.mark .doubleAnd :: further) = some (right, rest) := readRight
  have repeated : many (do mark .doubleAnd; relation readers) (.mark .doubleAnd :: further) =
      some ([right], rest) := by
    unfold many
    rw [List.length_cons, manyWithin_of_some behind,
      manyWithin_of_none (joined_of_closers follows (.inl rfl) _)]
    rfl
  unfold expressionWith chain
  rw [bind_apply, bind_apply, readLeft, Option.bind_some, bind_apply, repeated, Option.bind_some,
    pure_apply, Option.bind_some, bind_apply,
    many_of_none (joined_of_closers follows (.inr rfl) _)]
  rfl

/-- The signs of comparisons that clauses hold. -/
inductive Compares : Mark → Sparql.BinaryOperator → Prop where
  | atLeast : Compares .greaterEqual .greaterEqual
  | atMost : Compares .lessEqual .lessEqual

theorem relation_of_comparison {sign : Mark} {operator : Sparql.BinaryOperator}
    (compares : Compares sign operator)
    (readLeft : sum readers tokens = some (left, .mark sign :: further))
    (readRight : sum readers further = some (right, rest)) :
    relation readers tokens = some (.binary operator left right, rest) := by
  have isSign : comparison (.mark sign :: further) = some (operator, further) := by
    cases compares <;> rfl
  unfold relation
  rw [bind_apply, readLeft, Option.bind_some, orElse_apply, bind_apply, isSign, Option.bind_some,
    bind_apply, readRight]
  rfl

theorem relation_of_member {list : List Sparql.Expression}
    (readValue : sum readers tokens = some (value, .word "IN" :: further))
    (readList : listed readers.expression further = some (list, rest)) :
    relation readers tokens = some (.member false value list, rest) := by
  have noSign : comparison (.word "IN" :: further) = none := rfl
  have isWord : word "IN" (.word "IN" :: further) = some ((), further) := rfl
  unfold relation
  rw [bind_apply, readValue, Option.bind_some, orElse_apply, bind_apply, noSign, Option.bind_none,
    Option.none_or, orElse_apply, bind_apply, isWord, Option.bind_some, map_apply, readList]
  rfl

/-- The name of a function is followed by its arguments, of which the number has to fit. -/
theorem primary_builtin (function : Builtin) {arity : Sparql.Arity}
    (known : Sparql.arity? function.name = some arity) :
    primary readers (.word function.name :: tokens) =
      (listed readers.expression tokens).bind fun found =>
        if arity.allows found.1.length = true then
          some (.call (.builtin function.name) found.1, found.2) else none := by
  have name : capitals function.name = function.name := by cases function <;> decide
  have noAggregate : Sparql.isAggregateName function.name = false := by
    cases function <;> decide
  have others : function.name ≠ "EXISTS" ∧ function.name ≠ "NOT" ∧ function.name ≠ "BOUND" := by
    cases function <;> decide
  have call : builtinCall readers (.word function.name :: tokens) =
      (listed readers.expression tokens).bind fun found =>
        if arity.allows found.1.length = true then
          some (.call (.builtin function.name) found.1, found.2) else none := by
    unfold builtinCall
    rw [orElse_apply, bind_apply, word_word, name, if_neg others.1,
      Option.bind_none, Option.none_or,
      orElse_apply, bind_apply, word_word, name, if_neg others.2.1, Option.bind_none,
      Option.none_or, orElse_apply, bind_apply, word_word, name, if_neg others.2.2,
      Option.bind_none, Option.none_or]
    rw [bind_apply]
    simp only [token, Option.map_some, Option.bind_some, name, noAggregate, known]
    change (listed readers.expression tokens).bind _ = _
    refine congrArg (Option.bind _) (funext fun found => ?_)
    by_cases fits : arity.allows found.1.length = true <;> simp only [fits] <;> rfl
  have noLiteral : Sparql.Grammar.literalForm (.word function.name :: tokens) = none := by
    cases function <;> rfl
  unfold primary
  rw [orElse_apply]
  change Option.or none _ = _
  rw [Option.none_or, orElse_apply]
  change Option.or none _ = _
  rw [Option.none_or, orElse_apply]
  change Option.or none _ = _
  rw [Option.none_or, orElse_apply, map_apply, noLiteral, call]
  rfl

theorem primary_of_call (function : Builtin) {list : List Sparql.Expression}
    {arity : Sparql.Arity} (known : Sparql.arity? function.name = some arity)
    (allowed : arity.allows list.length = true)
    (readList : listed readers.expression tokens = some (list, rest)) :
    primary readers (.word function.name :: tokens) =
      some (.call (.builtin function.name) list, rest) := by
  rw [primary_builtin function known, readList, Option.bind_some, if_pos allowed]

/-- A resource in front of a parenthesis is a function if its arguments can be read. -/
theorem primary_resource (name : Sparql.IriName) (plain : word "DISTINCT" tokens = none) :
    primary readers (.name name :: .mark .openParen :: tokens) =
      ((listed readers.expression (.mark .openParen :: tokens)).map fun found =>
        (.call (.resource name) found.1, found.2)).or
          (some (.resource name, .mark .openParen :: tokens)) := by
  have noDistinct : parenthesised (do
      word "DISTINCT"
      let argument ← readers.expression
      return Sparql.Expression.aggregate (.resource name) true [argument])
        (.mark .openParen :: tokens) = none := by
    change Option.bind _ _ = none
    rw [bind_apply, plain]
    rfl
  have call : (resourceCall readers name <|> pure (.resource name)) (.mark .openParen :: tokens) =
      ((listed readers.expression (.mark .openParen :: tokens)).map fun found =>
        (.call (.resource name) found.1, found.2)).or
          (some (.resource name, .mark .openParen :: tokens)) := by
    unfold resourceCall
    rw [orElse_apply, orElse_apply, noDistinct, Option.none_or, map_apply]
    rfl
  unfold primary
  rw [orElse_apply]
  change Option.or none _ = _
  rw [Option.none_or, orElse_apply]
  change Option.or ((resourceCall readers name <|> _) _) _ = _
  rw [call]
  cases listed readers.expression (.mark .openParen :: tokens) <;> rfl

theorem primary_of_cast (name : Sparql.IriName) (plain : word "DISTINCT" tokens = none)
    {list : List Sparql.Expression}
    (readList : listed readers.expression (.mark .openParen :: tokens) = some (list, rest)) :
    primary readers (.name name :: .mark .openParen :: tokens) =
      some (.call (.resource name) list, rest) := by
  rw [primary_resource name plain, readList]
  rfl

end

/-- An expression is read back at every depth that its tokens allow for, by itself if it is an
operand, and as a part of a condition. -/
structure ReadBack (expression : Expression) : Prop where
  plain : ∀ rest, word "DISTINCT" (expression.tokens ++ rest) = none
  operand : expression.IsOperand → ∀ {depth : Nat}, expression.tokens.length ≤ depth →
    ∀ rest, Before comparers rest → sum (readersWithin depth) (expression.tokens ++ rest) =
      some (expression.tree, rest)
  relation : ∀ {depth : Nat}, expression.tokens.length ≤ depth →
    ∀ rest, Before conjoiners rest → relation (readersWithin depth) (expression.tokens ++ rest) =
      some (expression.tree, rest)

theorem ReadBack.ofPrimary {expression : Expression}
    (plain : ∀ rest, word "DISTINCT" (expression.tokens ++ rest) = none)
    (unsigned : ∀ rest, unaryOperator (expression.tokens ++ rest) = none)
    (read : ∀ {depth : Nat}, expression.tokens.length ≤ depth → ∀ rest, Before comparers rest →
      primary (readersWithin depth) (expression.tokens ++ rest) = some (expression.tree, rest)) :
    ReadBack expression where
  plain := plain
  operand _ _ deep rest follows := sum_of_primary (unsigned _) (read deep rest follows) follows
  relation deep rest follows :=
    relation_of_sum (sum_of_primary (unsigned _) (read deep rest (follows.mono conjoiners_subset))
      (follows.mono conjoiners_subset)) follows

theorem ReadBack.expression {expression : Expression} (back : ReadBack expression) {depth : Nat}
    (deep : expression.tokens.length < depth) {rest : List Token} (follows : Before closers rest) :
    (readersWithin depth).expression (expression.tokens ++ rest) =
      some (expression.tree, rest) := by
  obtain ⟨depth, rfl⟩ : ∃ smaller, depth = smaller + 1 := ⟨depth - 1, by omega⟩
  exact expression_of_relation (back.relation (by omega) rest (follows.mono closers_subset)) follows

theorem separated_list {depth : Nat} {list : List Expression} (nonempty : list ≠ [])
    (back : ∀ expression ∈ list, ReadBack expression) (deep : (listTokens list).length < depth)
    (rest : List Token) :
    separated (mark .comma) (readersWithin depth).expression
      (listTokens list ++ .mark .closeParen :: rest) =
        some (listTree list, .mark .closeParen :: rest) := by
  induction list with
  | nil => exact absurd rfl nonempty
  | cons expression list induction =>
      have first := back expression (by simp)
      cases list with
      | nil =>
          exact separated_of_some (first.expression deep (.cons (by simp [closers]) rest))
            (many_of_none rfl)
      | cons next list =>
          have parts : listTokens (expression :: next :: list) =
              expression.tokens ++ .mark .comma :: listTokens (next :: list) := by
            simp [listTokens, listPieces, Expression.tokens, Piece.token, Piece.mark]
          rw [parts, List.length_append, List.length_cons] at deep
          have further := induction (by simp) (fun other member => back other (by simp [member]))
            (by omega)
          rw [parts, List.append_assoc, List.cons_append]
          refine separated_of_some (first.expression (by omega) (.cons (by simp [closers]) _))
            (many_of_separated (fun _ => .bind (.token _) fun _ => ?_) rfl further)
          exact .ofAdvance (readersWithin_self depth).expression

theorem listed_list {depth : Nat} {list : List Expression}
    (back : ∀ expression ∈ list, ReadBack expression) (deep : (listTokens list).length < depth)
    (rest : List Token) :
    listed (readersWithin depth).expression
      (.mark .openParen :: (listTokens list ++ .mark .closeParen :: rest)) =
        some (listTree list, rest) := by
  refine parenthesised_of_some ?_
  cases list with
  | nil =>
      obtain ⟨depth, rfl⟩ : ∃ smaller, depth = smaller + 1 := ⟨depth - 1, by omega⟩
      rfl
  | cons expression list =>
      rw [orElse_apply, separated_list (by simp) back deep rest]
      rfl

theorem readBack_var {target : Variable} (whole : IsWhole target) : ReadBack (.var target) := by
  refine .ofPrimary (fun _ => ?_) (fun _ => ?_) fun _ _ _ => ?_ <;> rw [tokens_var whole] <;> rfl

theorem readBack_iri (value : Iri) : ReadBack (.iri value) := by
  refine .ofPrimary (fun _ => rfl) (fun _ => rfl) fun _ rest follows => ?_
  refine follows.elim rfl fun next member rest => ?_
  simp only [comparers, conjoiners, closers, List.mem_cons, List.not_mem_nil, or_false] at member
  rcases member with rfl | rfl | rfl | rfl | rfl | rfl <;> rfl

theorem readBack_literal (value : Literal) : ReadBack (.literal value) := by
  refine .ofPrimary (fun _ => by rw [tokens_literal]; rfl) (fun _ => by rw [tokens_literal]; rfl)
    fun _ rest follows => ?_
  rw [tokens_literal]
  unfold Expression.tree literalForm
  cases value.kind with
  | plain =>
      refine follows.elim rfl fun next member rest => ?_
      simp only [comparers, conjoiners, closers, List.mem_cons, List.not_mem_nil,
        or_false] at member
      rcases member with rfl | rfl | rfl | rfl | rfl | rfl <;> rfl
  | tagged language => rfl
  | typed datatype => rfl

theorem readBack_bound {target : Variable} (whole : IsWhole target) : ReadBack (.bound target) := by
  refine .ofPrimary (fun _ => ?_) (fun _ => ?_) fun _ _ _ => ?_ <;> rw [tokens_bound whole] <;> rfl

/-- What stands in parentheses is an operand. -/
theorem ReadBack.ofParenthesised {expression : Expression} {inner : List Token}
    (tokens : expression.tokens = .mark .openParen :: (inner ++ [.mark .closeParen]))
    (read : ∀ {depth : Nat}, inner.length + 1 ≤ depth → ∀ rest,
      expressionWith (readersWithin depth) (inner ++ .mark .closeParen :: rest) =
        some (expression.tree, .mark .closeParen :: rest)) : ReadBack expression := by
  refine .ofPrimary (fun _ => by rw [tokens]; rfl) (fun _ => by rw [tokens]; rfl)
    fun {depth} deep rest _ => ?_
  rw [tokens] at deep ⊢
  simp only [List.length_cons, List.length_append, List.length_nil] at deep
  obtain ⟨depth, rfl⟩ : ∃ smaller, depth = smaller + 1 := ⟨depth - 1, by omega⟩
  have inside : (readersWithin (depth + 1)).expression
      (inner ++ .mark .closeParen :: rest) = _ := read (by omega) rest
  unfold primary
  rw [orElse_apply, List.cons_append, List.append_assoc, List.singleton_append,
    parenthesised_of_some inside]
  rfl

section

variable {left right : Expression}

theorem readBack_conjunction (backLeft : ReadBack left) (backRight : ReadBack right) :
    ReadBack (.conjunction left right) := by
  refine .ofParenthesised (Joins.conjunction.tokens left right) fun deep rest => ?_
  rw [List.length_append, List.length_cons] at deep
  rw [List.append_assoc]
  exact expression_of_conjunction
    (backLeft.relation (by omega) _ (.cons (by simp [conjoiners]) _))
    (backRight.relation (by omega) _ (.cons (by simp [conjoiners, closers]) rest))
    (.cons (by simp [closers]) rest)

theorem readBack_comparison {expression : Expression} {sign : Mark}
    {operator : Sparql.BinaryOperator} (compares : Compares sign operator)
    (tree : expression.tree = .binary operator left.tree right.tree)
    (tokens : expression.tokens =
      .mark .openParen :: ((left.tokens ++ .mark sign :: right.tokens) ++ [.mark .closeParen]))
    (operandLeft : left.IsOperand) (operandRight : right.IsOperand)
    (backLeft : ReadBack left) (backRight : ReadBack right) : ReadBack expression := by
  refine .ofParenthesised tokens fun deep rest => ?_
  rw [List.length_append, List.length_cons] at deep
  rw [List.append_assoc, tree]
  exact expression_of_relation (relation_of_comparison compares
    (backLeft.operand operandLeft (by omega) _ (.cons (by cases compares <;> simp [comparers]) _))
    (backRight.operand operandRight (by omega) _
      (.cons (by simp [comparers, conjoiners, closers]) rest)))
    (.cons (by simp [closers]) rest)

end

/-- A membership ends with its list, whatever follows. -/
theorem relation_member {value : Expression} {list : List Expression} {depth : Nat}
    (operand : value.IsOperand) (backValue : ReadBack value)
    (back : ∀ expression ∈ list, ReadBack expression)
    (deep : (member value list).tokens.length ≤ depth) (rest : List Token) :
    relation (readersWithin depth) ((member value list).tokens ++ rest) =
      some ((member value list).tree, rest) := by
  rw [tokens_member] at deep ⊢
  simp only [List.length_append, List.length_cons] at deep
  have readValue : sum (readersWithin depth) (value.tokens ++ .word "IN" :: .mark .openParen ::
      (listTokens list ++ .mark .closeParen :: rest)) = _ :=
    backValue.operand operand (by omega) _ (.cons (by simp [comparers]) _)
  have readList : listed (readersWithin depth).expression (.mark .openParen ::
      (listTokens list ++ .mark .closeParen :: rest)) = _ :=
    listed_list back (by omega) rest
  simpa [tree] using relation_of_member readValue readList

theorem readBack_member {value : Expression} {list : List Expression}
    (operand : value.IsOperand) (backValue : ReadBack value)
    (back : ∀ expression ∈ list, ReadBack expression) : ReadBack (.member value list) where
  plain rest := by
    rw [tokens_member, List.append_assoc]
    exact backValue.plain _
  operand isOperand := absurd isOperand id
  relation deep rest _ := relation_member operand backValue back deep rest

theorem readBack_call {function : Builtin} {list : List Expression}
    (takes : function.Takes list.length) (back : ∀ expression ∈ list, ReadBack expression) :
    ReadBack (.call function list) := by
  obtain ⟨arity, known, allowed⟩ := takes.arity
  refine .ofPrimary (fun _ => ?_) (fun _ => ?_) fun {depth} deep rest _ => ?_
  · rw [tokens_call]
    cases function <;> rfl
  · rw [tokens_call]
    rfl
  · rw [tokens_call] at deep ⊢
    simp only [List.length_append, List.length_cons] at deep
    have readList : listed (readersWithin depth).expression (.mark .openParen ::
        (listTokens list ++ .mark .closeParen :: rest)) = _ :=
      listed_list back (by omega) rest
    rw [tree_call]
    simpa using primary_of_call function known (by rwa [length_listTree]) readList

theorem readBack_cast (datatype : Iri) {value : Expression} (back : ReadBack value) :
    ReadBack (.cast datatype value) := by
  refine .ofPrimary (fun _ => by rw [tokens_cast]; rfl) (fun _ => by rw [tokens_cast]; rfl)
    fun {depth} deep rest _ => ?_
  rw [tokens_cast] at deep ⊢
  simp only [List.length_append, List.length_cons] at deep
  have single : ∀ expression ∈ [value], ReadBack expression := by simpa using back
  have readList : listed (readersWithin depth).expression (.mark .openParen ::
      (value.tokens ++ .mark .closeParen :: rest)) = some (listTree [value], rest) :=
    listed_list single (show value.tokens.length < depth by omega) rest
  simpa [tree, listTree] using primary_of_cast _ (back.plain _) readList

mutual

/-- Every legible expression is read back. -/
theorem readBack : (expression : Expression) → expression.Legible → ReadBack expression
  | .var _, whole => readBack_var whole
  | .iri value, _ => readBack_iri value
  | .literal value, _ => readBack_literal value
  | .member value list, ⟨operand, legible, listLegible⟩ =>
      readBack_member operand (readBack value legible) (list_readBack list listLegible)
  | .conjunction left right, ⟨legibleLeft, legibleRight⟩ =>
      readBack_conjunction (readBack left legibleLeft) (readBack right legibleRight)
  | .atLeast left right, ⟨⟨operandLeft, legibleLeft⟩, operandRight, legibleRight⟩ =>
      readBack_comparison .atLeast rfl (Joins.atLeast.tokens left right) operandLeft operandRight
        (readBack left legibleLeft) (readBack right legibleRight)
  | .atMost left right, ⟨⟨operandLeft, legibleLeft⟩, operandRight, legibleRight⟩ =>
      readBack_comparison .atMost rfl (Joins.atMost.tokens left right) operandLeft operandRight
        (readBack left legibleLeft) (readBack right legibleRight)
  | .bound _, whole => readBack_bound whole
  | .call _ list, ⟨takes, listLegible⟩ => readBack_call takes (list_readBack list listLegible)
  | .cast datatype value, legible => readBack_cast datatype (readBack value legible)

theorem list_readBack : (list : List Expression) → ListLegible list →
    ∀ expression ∈ list, ReadBack expression
  | [], _ => by simp
  | expression :: rest, ⟨legible, listLegible⟩ => by
      have first := readBack expression legible
      have others := list_readBack rest listLegible
      intro other member
      rcases List.mem_cons.mp member with rfl | member
      · exact first
      · exact others other member

end

end FacetedQuery.Clause
