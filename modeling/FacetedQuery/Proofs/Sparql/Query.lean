import FacetedQuery.Portal
import FacetedQuery.Proofs.Sparql.Select
import FacetedQuery.Proofs.Sparql.Spelling

/-!
# Queries behind declarations

The declarations of prefixes are read back as they were written.  A text of declarations and of a
query, whose names mean something and in which no blank node bears a label, is a valid query.
-/

namespace FacetedQuery

namespace Sparql

open Token (Spelled Spells spells_behind spells_space unescape)

namespace Prologue

/-- Whether a token means something and is no label of a blank node. -/
def admits (prologue : Prologue) (token : Token) : Bool :=
  match token with
  | .blank _ => false
  | other => prologue.acceptsToken other

variable {prologue : Prologue}

theorem acceptsToken_of_admits {token : Token} (admitted : prologue.admits token = true) :
    prologue.acceptsToken token = true := by
  cases token <;> first | exact admitted | cases admitted

/-- Whether a token may stand in a query whatever prefixes are declared. -/
def isFixed : Token → Bool
  | .name _ | .blank _ | .language _ => false
  | _ => true

theorem admits_of_isFixed {tokens : List Token} (fixed : tokens.all isFixed = true) :
    ∀ token ∈ tokens, prologue.admits token = true := by
  intro token member
  have isFixed := List.all_eq_true.mp fixed token member
  cases token <;> first | rfl | cases isFixed

/-- Without a base an IRI has to be absolute. -/
theorem resolve?_of_absolute (noBase : prologue.base = none) {text : List Char}
    (absolute : isAbsolute text = true) : prologue.resolve? text = some text := by
  unfold resolve?
  rw [noBase]
  split
  · next equality => cases equality
  · rw [if_pos absolute]

theorem isAbsolute_iri (iri : Rdf.Iri) : isAbsolute iri.text.toList = true := by
  have wellFormed := iri.wellFormed
  unfold Rdf.Iri.accepts at wellFormed
  unfold isAbsolute
  cases checked : Rdf.Iri.check iri.text.toList with
  | ok _ => rfl
  | error fault => simp [checked] at wellFormed

theorem admits_iri (noBase : prologue.base = none) (iri : Rdf.Iri) :
    prologue.admits (.name (.iri iri.text)) = true := by
  change (prologue.resolve? _).isSome = true
  rw [resolve?_of_absolute noBase (isAbsolute_iri iri)]
  rfl

end Prologue

/-- Where no label is, none is used twice. -/
theorem labelsAreLocal_of_admitted {prologue : Prologue} {tokens : List Token}
    (admitted : ∀ token ∈ tokens, prologue.admits token = true) : labelsAreLocal tokens = true := by
  suffices anywhere : ∀ role closed current, labelsAreLocalFrom role closed current tokens =
    true from anywhere _ _ _
  induction tokens with
  | nil => exact fun _ _ _ => rfl
  | cons token tokens induction =>
      intro role closed current
      have further := induction fun other member => admitted other (by simp [member])
      unfold labelsAreLocalFrom
      split
      · rfl
      · next label _ equality =>
        obtain ⟨rfl, -⟩ := List.cons.inj equality
        cases admitted (.blank label) (by simp)
      · next equality =>
        obtain ⟨-, rfl⟩ := List.cons.inj equality
        split <;> exact further _ _ _
      · next equality =>
        obtain ⟨-, rfl⟩ := List.cons.inj equality
        split <;> exact further _ _ _
      · next equality =>
        obtain ⟨-, rfl⟩ := List.cons.inj equality
        dsimp only
        split
        · exact further _ _ _
        · split <;> exact further _ _ _
      · next equality =>
        obtain ⟨-, rfl⟩ := List.cons.inj equality
        exact further _ _ _

/-- The query for solutions that a text is, if it is a valid one. -/
def select? (text : String) : Option Select :=
  match (Token.tokens? text.toList).map Prologue.read with
  | none => none
  | some (prologue, body) =>
    match Grammar.query? body with
    | some (.select query) =>
      if body.all prologue.acceptsToken && labelsAreLocal body then some query else none
    | _ => none

/-- The columns of a query for solutions; those of a star are the variables in its scope. -/
def columns? (text : String) : Option (List String) :=
  (select? text).map Select.scope

theorem isQuery_of_select? {text : String} {query : Select} (isSelect : select? text = some query) :
    isQuery text = true := by
  unfold select? at isSelect
  unfold isQuery
  cases lexed : Token.tokens? text.toList with
  | none => simp [lexed] at isSelect
  | some tokens =>
      rw [lexed] at isSelect
      simp only [Option.map_some] at isSelect
      split at isSelect
      · next found =>
        split at isSelect
        · next fitting => simp [found, fitting]
        · cases isSelect
      · cases isSelect

/-- Whether tokens are those of a valid query. -/
def areQuery (tokens : List Token) : Bool :=
  let (prologue, body) := Prologue.read tokens
  body.all prologue.acceptsToken && labelsAreLocal body && (Grammar.query? body).isSome

theorem isQuery_of_tokens {text : String} {tokens : List Token}
    (read : Token.tokens? text.toList = some tokens) (valid : areQuery tokens = true) :
    isQuery text = true := by
  unfold isQuery
  rw [read]
  exact valid

namespace Grammar

/-- What a text behind declarations is read as, if a reader reads the whole of it. -/
def whole? (prologue : Prologue) (reader : Readers → Reader α) (text : String) : Option α :=
  match Token.tokens? text.toList with
  | none => none
  | some tokens =>
    if tokens.all prologue.acceptsToken then
      match reader (readersWithin (tokens.length + 1)) tokens with
      | some (value, []) => some value
      | _ => none
    else none

variable {prologue : Prologue} {reader : Readers → Reader α} {text : String} {tokens : List Token}
  {value : α}

theorem whole?_eq_some_iff : whole? prologue reader text = some value ↔
    ∃ tokens, Token.tokens? text.toList = some tokens ∧
      (∀ token ∈ tokens, prologue.acceptsToken token = true) ∧ Finds reader tokens value [] := by
  unfold whole? Finds
  cases lexed : Token.tokens? text.toList with
  | none => simp
  | some tokens =>
      cases read : reader (readersWithin (tokens.length + 1)) tokens with
      | none => simp [read]
      | some found =>
          obtain ⟨result, rest⟩ := found
          cases rest <;> simp [read]

theorem whole?_eq_some (lexed : Token.tokens? text.toList = some tokens)
    (accepted : tokens.all prologue.acceptsToken = true)
    (finds : Finds reader tokens value []) : whole? prologue reader text = some value :=
  whole?_eq_some_iff.mpr ⟨tokens, lexed, List.all_eq_true.mp accepted, finds⟩

theorem whole?_eq_none (lexed : Token.tokens? text.toList = some tokens)
    (left : ∀ value, ¬ Finds reader tokens value []) : whole? prologue reader text = none := by
  refine Option.eq_none_iff_forall_not_mem.mpr fun value member => ?_
  obtain ⟨found, lexedToo, -, finds⟩ := whole?_eq_some_iff.mp member
  cases lexed.symm.trans lexedToo
  exact left value finds

end Grammar

end Sparql

namespace PrefixDeclaration

open Sparql (Prologue Token)
open Sparql.Token (Spelled Spells spells_behind spells_space unescape)

/-- A declaration that is read back: of a name of prefixes and an absolute IRI. -/
structure Sound (declaration : PrefixDeclaration) : Prop where
  name : ∀ rest, Token.readToken? (declaration.name.toList ++ ':' :: ' ' :: rest) =
    some (.name (.prefixed declaration.name ""), ' ' :: rest)
  plain : ∀ character ∈ declaration.name.toList,
    character ≠ '\\' ∧ character ≠ '\n' ∧ character ≠ '<'
  absolute : Rdf.Iri.accepts declaration.iri = true

def tokens (declaration : PrefixDeclaration) : List Token :=
  [.word "PREFIX", .name (.prefixed declaration.name ""), .name (.iri declaration.iri)]

/-- A declaration has its own tokens, whatever text stands behind it. -/
theorem Sound.lex {declaration : PrefixDeclaration} (sound : declaration.Sound)
    (after : List Char) :
    Token.lex (unescape (declaration.render.toList ++ after)) =
      (Token.lex (unescape after)).map (declaration.tokens ++ ·) := by
  have iri : Spelled (' ' :: '<' :: (declaration.iri.toList ++ ['>']))
      [.name (.iri declaration.iri)] := (Spelled.iri ⟨_, sound.absolute⟩ .nil (by simp)).space
  have plain : ∀ character ∈ ' ' :: (declaration.name.toList ++ [':']),
      character ≠ '\\' ∧ character ≠ '\n' ∧ character ≠ '<' := by
    intro character member
    rcases List.mem_cons.mp member with rfl | member
    · decide
    rcases List.mem_append.mp member with member | member
    · exact sound.plain character member
    · obtain rfl : character = ':' := by simpa using member
      decide
  have named := Spelled.token (declaration.name.toList ++ [':'])
    (fun rest => by simpa using sound.name rest)
    (fun character member => ⟨(plain character member).1, (plain character member).2.1⟩)
    (Template.free_append_of_not_mem
      (fun member => (plain '<' (List.mem_cons_of_mem _ member)).2.2 rfl) iri.free) iri
  have spelled := Spelled.word ['P', 'R', 'E', 'F', 'I', 'X'] (fun _ => rfl) (by decide) named.space
  have text : declaration.render.toList ++ after =
      ['P', 'R', 'E', 'F', 'I', 'X'] ++ ' ' :: (declaration.name.toList ++ [':'] ++
        ' ' :: '<' :: (declaration.iri.toList ++ ['>'])) ++ '\n' :: after := by
    simp [render]
  have border : Token.Border ('\n' :: unescape after) := .ofSpace rfl
  rw [text, Token.unescape_append (by simp; decide), Token.unescape_cons (by decide),
    spelled.spells.lex_append border, Token.lex_space rfl]
  rfl

end PrefixDeclaration

namespace Sparql.Grammar

open Reader

theorem word_eq_some {expected : String} {tokens rest : List Token}
    (read : word expected tokens = some ((), rest)) :
    ∃ letters, tokens = .word letters :: rest ∧ capitals letters = expected := by
  cases tokens with
  | nil => cases read
  | cons token tokens =>
      cases token with
      | word letters =>
          rw [word_word] at read
          split at read
          · next same =>
            cases read
            exact ⟨letters, rfl, same⟩
          · cases read
      | _ => cases read

/-- A query does not start with a declaration. -/
theorem Encloses.noDeclaration {head tail rest : List Token} {columns : Option (List Column)}
    {modified : Modifiers} (encloses : Encloses head tail columns modified rest)
    (behind : List Token) (prologue : Prologue) :
    Prologue.declaration prologue (head ++ .word "WHERE" :: behind) = none := by
  have isHead := encloses.head 0 behind
  unfold selectHead at isHead
  rw [bind_apply] at isHead
  obtain ⟨found, isSelect, -⟩ := Option.bind_eq_some_iff.mp isHead
  obtain ⟨letters, starts, same⟩ := word_eq_some isSelect
  unfold Prologue.declaration
  rw [starts, orElse_apply, bind_apply, word_word, same, if_neg (by decide), bind_apply, word_word,
    same, if_neg (by decide)]
  rfl

end Sparql.Grammar

namespace Portal

open Sparql (Prologue Token)
open Sparql.Token (Spells unescape)

/-- The tokens of declarations. -/
def declarationTokens (declarations : List PrefixDeclaration) : List Token :=
  declarations.flatMap PrefixDeclaration.tokens

/-- A prologue with further declarations. -/
def declared (prologue : Prologue) (declarations : List PrefixDeclaration) : Prologue :=
  declarations.foldl (fun prologue declaration =>
    { prologue with
      prefixes := (declaration.name, declaration.iri.toList) :: prologue.prefixes }) prologue

/-- What the names in the queries of a portal mean. -/
def prologue (portal : Portal) : Prologue :=
  declared .empty portal.prefixes

theorem declared_base (prologue : Prologue) (declarations : List PrefixDeclaration) :
    (declared prologue declarations).base = prologue.base := by
  induction declarations generalizing prologue with
  | nil => rfl
  | cons declaration declarations induction => exact induction _

theorem prologue_base (portal : Portal) : portal.prologue.base = none :=
  declared_base _ _

theorem lex_declarations {declarations : List PrefixDeclaration}
    (sound : ∀ declaration ∈ declarations, declaration.Sound) (after : List Char) :
    Token.lex
      (unescape ((String.join (declarations.map PrefixDeclaration.render)).toList ++ after)) =
      (Token.lex (unescape after)).map (declarationTokens declarations ++ ·) := by
  induction declarations with
  | nil => simp [declarationTokens]
  | cons declaration declarations induction =>
      have further := induction fun other member => sound other (by simp [member])
      have split :
        (String.join ((declaration :: declarations).map PrefixDeclaration.render)).toList ++
          after = declaration.render.toList ++
            ((String.join (declarations.map PrefixDeclaration.render)).toList ++ after) := by simp
      rw [split, (sound declaration (by simp)).lex, further, Option.map_map]
      simp [declarationTokens, Function.comp_def]

open Sparql.Reader in
/-- A declaration is read back. -/
theorem declaration_tokens {prologue : Prologue} (noBase : prologue.base = none)
    {declaration : PrefixDeclaration} (sound : declaration.Sound) (rest : List Token) :
    Prologue.declaration prologue (declaration.tokens ++ rest) =
      some ({ prologue with
        prefixes := (declaration.name, declaration.iri.toList) :: prologue.prefixes }, rest) := by
  have resolved := Prologue.resolve?_of_absolute noBase
    (Prologue.isAbsolute_iri ⟨_, sound.absolute⟩)
  have reference : Prologue.declaration.reference prologue (.name (.iri declaration.iri) :: rest) =
      some (declaration.iri.toList, rest) := by
    change Option.map _ (prologue.resolve? _) = _
    rw [resolved]
    rfl
  have noBaseWord : ∀ tokens, word "BASE" (.word "PREFIX" :: tokens) = none := fun _ => by
    rw [word_word, if_neg (by decide)]
  have prefixWord : ∀ tokens, word "PREFIX" (.word "PREFIX" :: tokens) = some ((), tokens) :=
    fun _ => by rw [word_word, if_pos (by decide)]
  unfold Prologue.declaration
  rw [orElse_apply, bind_apply, show declaration.tokens ++ rest = .word "PREFIX" ::
    .name (.prefixed declaration.name "") :: .name (.iri declaration.iri) :: rest from rfl,
    noBaseWord, Option.bind_none, Option.none_or, bind_apply, prefixWord, Option.bind_some]
  change Option.bind (Prologue.declaration.reference prologue _) _ = _
  rw [reference]
  rfl

theorem readWithin_declarations {declarations : List PrefixDeclaration}
    (sound : ∀ declaration ∈ declarations, declaration.Sound) {prologue : Prologue}
    (noBase : prologue.base = none) {limit : Nat} (enough : declarations.length ≤ limit)
    {tokens : List Token} (ends : ∀ prologue, Prologue.declaration prologue tokens = none) :
    Prologue.readWithin limit prologue (declarationTokens declarations ++ tokens) =
      (declared prologue declarations, tokens) := by
  induction declarations generalizing prologue limit with
  | nil =>
      cases limit with
      | zero => rfl
      | succ limit =>
          change Prologue.readWithin (limit + 1) prologue tokens = (prologue, tokens)
          rw [Prologue.readWithin, ends]
  | cons declaration declarations induction =>
      obtain ⟨limit, rfl⟩ : ∃ less, limit = less + 1 := ⟨limit - 1, by simp at enough; omega⟩
      have read := declaration_tokens noBase (sound declaration (by simp))
        (declarationTokens declarations ++ tokens)
      have parts : declarationTokens (declaration :: declarations) ++ tokens =
          declaration.tokens ++ (declarationTokens declarations ++ tokens) := by
        simp [declarationTokens]
      have longer : ({ prologue with prefixes :=
        (declaration.name, declaration.iri.toList) :: prologue.prefixes } : Prologue).base = none :=
        noBase
      rw [parts, Prologue.readWithin, read]
      exact induction (fun other member => sound other (by simp [member])) longer
        (by simpa using enough)

theorem length_declarations (declarations : List PrefixDeclaration) :
    declarations.length ≤ (declarationTokens declarations).length := by
  induction declarations with
  | nil => simp
  | cons declaration declarations induction =>
      simp [declarationTokens, PrefixDeclaration.tokens] at induction ⊢
      omega

theorem read_complete {portal : Portal}
    (sound : ∀ declaration ∈ portal.prefixes, declaration.Sound) {tokens : List Token}
    (ends : ∀ prologue, Prologue.declaration prologue tokens = none) :
    Prologue.read (declarationTokens portal.prefixes ++ tokens) = (portal.prologue, tokens) := by
  have few : portal.prefixes.length ≤ (declarationTokens portal.prefixes ++ tokens).length := by
    have := length_declarations portal.prefixes
    rw [List.length_append]
    omega
  exact readWithin_declarations sound rfl few ends

theorem tokens?_declared {portal : Portal}
    (sound : ∀ declaration ∈ portal.prefixes, declaration.Sound) (body : String) :
    Token.tokens? (portal.prefixDeclarations ++ body).toList =
      (Token.lex (unescape body.toList)).map (declarationTokens portal.prefixes ++ ·) := by
  rw [Token.tokens?_eq_lex, String.toList_append]
  exact lex_declarations sound body.toList

/-- A body of tokens that are a query for solutions is one behind the declarations. -/
theorem select?_complete {portal : Portal}
    (sound : ∀ declaration ∈ portal.prefixes, declaration.Sound) {body : String}
    {tokens : List Token} (spells : Spells (unescape body.toList) tokens)
    (ends : ∀ prologue, Prologue.declaration prologue tokens = none)
    (admitted : ∀ token ∈ tokens, portal.prologue.admits token = true) {query : Sparql.Select}
    (isQuery : Sparql.Grammar.query? tokens = some (.select query)) :
    Sparql.select? (portal.prefixDeclarations ++ body) = some query := by
  have accepted : tokens.all portal.prologue.acceptsToken = true :=
    List.all_eq_true.mpr fun token member =>
      Prologue.acceptsToken_of_admits (admitted token member)
  rw [Sparql.select?, tokens?_declared sound, spells.lex, Option.map_some, Option.map_some,
    read_complete sound ends]
  simp [accepted, Sparql.labelsAreLocal_of_admitted admitted, isQuery]

/-- What makes a text a valid query behind the declarations of a portal. -/
theorem isQuery_declared {portal : Portal}
    (sound : ∀ declaration ∈ portal.prefixes, declaration.Sound) {body : String}
    (ends : ∀ tokens, Token.lex (unescape body.toList) = some tokens →
      ∀ prologue, Prologue.declaration prologue tokens = none) :
    Sparql.isQuery (portal.prefixDeclarations ++ body) = true ↔
      ∃ tokens, Token.lex (unescape body.toList) = some tokens ∧
        (∀ token ∈ tokens, portal.prologue.acceptsToken token = true) ∧
        Sparql.labelsAreLocal tokens = true ∧ ∃ query, Sparql.Grammar.query? tokens =
          some query := by
  unfold Sparql.isQuery
  rw [tokens?_declared sound]
  cases lexed : Token.lex (unescape body.toList) with
  | none => simp
  | some tokens =>
      rw [Option.map_some]
      simp only [read_complete sound (ends tokens lexed)]
      simp [Option.isSome_iff_exists, and_assoc]

end Portal

end FacetedQuery
