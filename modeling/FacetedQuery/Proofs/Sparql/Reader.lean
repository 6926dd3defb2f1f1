import FacetedQuery.Sparql.Reader

/-!
# Readers that agree

Two readers agree on short inputs if they read the same from them and never leave more tokens than
there were.  Agreement passes from items to their repetitions, and a reader that agrees with itself
repeats an item as long as the item can be read.
-/

namespace FacetedQuery.Sparql.Reader

/-- Two readers that read the same from at most `size` tokens and leave no more of them. -/
structure Agree (size : Nat) (first second : Reader α) : Prop where
  same : ∀ {tokens}, tokens.length ≤ size → first tokens = second tokens
  shorter : ∀ {tokens value rest}, tokens.length ≤ size → first tokens = some (value, rest) →
    rest.length ≤ tokens.length

/-- Two readers that read the same from at most `size` tokens and take at least one of them. -/
structure Advance (size : Nat) (first second : Reader α) : Prop where
  same : ∀ {tokens}, tokens.length ≤ size → first tokens = second tokens
  shorter : ∀ {tokens value rest}, tokens.length ≤ size → first tokens = some (value, rest) →
    rest.length < tokens.length

variable {size : Nat} {first second : Reader α} {other another : Reader α}

theorem Agree.ofAdvance (advance : Advance size first second) : Agree size first second where
  same := advance.same
  shorter small read := Nat.le_of_lt (advance.shorter small read)

theorem Advance.ofSucc (advance : Advance (size + 1) first second) : Advance size first second where
  same small := advance.same (Nat.le_succ_of_le small)
  shorter small := advance.shorter (Nat.le_succ_of_le small)

theorem pure_apply (value : α) (tokens : List Token) :
    (pure value : Reader α) tokens = some (value, tokens) :=
  rfl

theorem bind_apply (item : Reader α) (next : α → Reader β) (tokens : List Token) :
    (item >>= next) tokens = (item tokens).bind fun found => next found.1 found.2 :=
  rfl

theorem map_apply (f : α → β) (item : Reader α) (tokens : List Token) :
    (f <$> item) tokens = (item tokens).map fun found => (f found.1, found.2) := by
  cases read : item tokens with
  | none => simp [Functor.map, StateT.map, read]
  | some found => simp [Functor.map, StateT.map, read]

theorem orElse_apply (item other : Reader α) (tokens : List Token) :
    (item <|> other) tokens = (item tokens).or (other tokens) := by
  change (item tokens).orElse (fun _ => other tokens) = _
  cases item tokens <;> rfl

theorem Agree.pure (value : α) : Agree size (Pure.pure value) (Pure.pure value) where
  same _ := rfl
  shorter _ read := by
    cases read
    exact Nat.le_refl _

theorem Advance.failure : Advance size (failure : Reader α) failure where
  same _ := rfl
  shorter _ read := by cases read

theorem Advance.token (meaning? : Token → Option α) :
    Advance size (token meaning?) (token meaning?) where
  same _ := rfl
  shorter {tokens} _ _ _ read := by
    cases tokens with
    | nil => cases read
    | cons head tail =>
        obtain ⟨value, -, equality⟩ := Option.map_eq_some_iff.mp read
        cases equality
        exact Nat.lt_succ_self _

theorem Agree.bind {next further : α → Reader β} (agree : Agree size first second)
    (rest : ∀ value, Agree size (next value) (further value)) :
    Agree size (first >>= next) (second >>= further) where
  same {tokens} small := by
    rw [bind_apply, bind_apply, ← agree.same small]
    cases read : first tokens with
    | none => rfl
    | some found => exact (rest _).same (Nat.le_trans (agree.shorter small read) small)
  shorter {tokens} _ _ small read := by
    rw [bind_apply] at read
    obtain ⟨found, taken, left⟩ := Option.bind_eq_some_iff.mp read
    have less := agree.shorter small taken
    exact Nat.le_trans ((rest _).shorter (Nat.le_trans less small) left) less

theorem Advance.bind {next further : α → Reader β} (advance : Advance size first second)
    (rest : ∀ value, Agree size (next value) (further value)) :
    Advance size (first >>= next) (second >>= further) where
  same := ((Agree.ofAdvance advance).bind rest).same
  shorter {tokens} _ _ small read := by
    rw [bind_apply] at read
    obtain ⟨found, taken, left⟩ := Option.bind_eq_some_iff.mp read
    have less := advance.shorter small taken
    have more := (rest _).shorter (by omega) left
    omega

/-- What takes a token may stand behind something that takes none. -/
theorem Advance.behind {next further : α → Reader β} (agree : Agree size first second)
    (rest : ∀ value, Advance size (next value) (further value)) :
    Advance size (first >>= next) (second >>= further) where
  same := (agree.bind fun value => .ofAdvance (rest value)).same
  shorter {tokens} _ _ small read := by
    rw [bind_apply] at read
    obtain ⟨found, taken, left⟩ := Option.bind_eq_some_iff.mp read
    have less := agree.shorter small taken
    have more := (rest _).shorter (Nat.le_trans less small) left
    omega

/-- Behind a token, agreement on shorter inputs is enough. -/
theorem Advance.guard {next further : α → Reader β} (advance : Advance (size + 1) first second)
    (rest : ∀ value, Agree size (next value) (further value)) :
    Advance (size + 1) (first >>= next) (second >>= further) where
  same {tokens} small := by
    rw [bind_apply, bind_apply, ← advance.same small]
    cases read : first tokens with
    | none => rfl
    | some found =>
        have less := advance.shorter small read
        exact (rest _).same (by omega)
  shorter {tokens} _ _ small read := by
    rw [bind_apply] at read
    obtain ⟨found, taken, left⟩ := Option.bind_eq_some_iff.mp read
    have less := advance.shorter small taken
    have more := (rest _).shorter (by omega) left
    omega

theorem Agree.map (f : α → β) (agree : Agree size first second) :
    Agree size (f <$> first) (f <$> second) where
  same small := by rw [map_apply, map_apply, agree.same small]
  shorter small read := by
    rw [map_apply] at read
    obtain ⟨found, taken, equality⟩ := Option.map_eq_some_iff.mp read
    cases equality
    exact agree.shorter small taken

theorem Advance.map (f : α → β) (advance : Advance size first second) :
    Advance size (f <$> first) (f <$> second) where
  same := ((Agree.ofAdvance advance).map f).same
  shorter small read := by
    rw [map_apply] at read
    obtain ⟨found, taken, equality⟩ := Option.map_eq_some_iff.mp read
    cases equality
    exact advance.shorter small taken

theorem Agree.orElse (agree : Agree size first second) (instead : Agree size other another) :
    Agree size (first <|> other) (second <|> another) where
  same small := by rw [orElse_apply, orElse_apply, agree.same small, instead.same small]
  shorter small read := by
    rw [orElse_apply] at read
    rcases Option.or_eq_some_iff.mp read with taken | ⟨-, taken⟩
    · exact agree.shorter small taken
    · exact instead.shorter small taken

theorem Advance.orElse (advance : Advance size first second)
    (instead : Advance size other another) :
    Advance size (first <|> other) (second <|> another) where
  same := ((Agree.ofAdvance advance).orElse (.ofAdvance instead)).same
  shorter small read := by
    rw [orElse_apply] at read
    rcases Option.or_eq_some_iff.mp read with taken | ⟨-, taken⟩
    · exact advance.shorter small taken
    · exact instead.shorter small taken

theorem Agree.ite {condition : Prop} [Decidable condition] (agree : Agree size first second)
    (instead : Agree size other another) :
    Agree size (if condition then first else other) (if condition then second else another) := by
  split
  · exact agree
  · exact instead

theorem Agree.maybe (agree : Agree size first second) :
    Agree size (maybe first) (maybe second) :=
  (agree.map some).orElse (.pure none)

theorem Agree.taken {first second : Reader Unit} (agree : Agree size first second) :
    Agree size (taken first) (taken second) :=
  (agree.bind fun _ => .pure true).orElse (.pure false)

theorem Agree.manyWithin (agree : Agree size first second) (limit : Nat) :
    Agree size (manyWithin limit first) (manyWithin limit second) := by
  induction limit with
  | zero => exact .pure []
  | succ limit induction =>
      exact .orElse (agree.bind fun _ => induction.bind fun _ => .pure _) (.pure [])

theorem Agree.many (agree : Agree size first second) : Agree size (many first) (many second) where
  same small := (agree.manyWithin _).same small
  shorter small read := (agree.manyWithin _).shorter small read

theorem Advance.several (advance : Advance size first second) :
    Advance size (several first) (several second) :=
  .bind advance fun _ => .bind (.many (.ofAdvance advance)) fun _ => .pure _

variable {mark : Reader Unit}

theorem Advance.separated (separator : Advance size mark mark)
    (advance : Advance size first second) :
    Advance size (separated mark first) (separated mark second) :=
  .bind advance fun _ =>
    .bind (.many (.bind (.ofAdvance separator) fun _ => .ofAdvance advance)) fun _ => .pure _

theorem Advance.chain (separator : Advance size mark mark) (combine : α → α → α)
    (advance : Advance size first second) :
    Advance size (chain mark combine first) (chain mark combine second) :=
  .bind advance fun _ =>
    .bind (.many (.bind (.ofAdvance separator) fun _ => .ofAdvance advance)) fun _ => .pure _

theorem Advance.parenthesised (agree : Agree size first second) :
    Advance (size + 1) (parenthesised first) (parenthesised second) :=
  .guard (.token _) fun _ => .bind agree fun _ => .bind (.ofAdvance (.token _)) fun _ => .pure _

theorem Advance.listed (advance : Advance size first second) :
    Advance (size + 1) (listed first) (listed second) :=
  .parenthesised (.orElse (.ofAdvance (.separated (.token _) advance)) (.pure []))

theorem manyWithin_of_none {item : Reader α} {tokens : List Token} (failed : item tokens = none)
    (limit : Nat) : manyWithin limit item tokens = some ([], tokens) := by
  cases limit with
  | zero => rfl
  | succ limit =>
      change ((item >>= _) <|> pure []) tokens = _
      rw [orElse_apply, bind_apply, failed]
      rfl

theorem many_of_none {item : Reader α} {tokens : List Token} (failed : item tokens = none) :
    many item tokens = some ([], tokens) :=
  manyWithin_of_none failed _

theorem manyWithin_of_some {item : Reader α} {tokens rest : List Token} {value : α}
    (read : item tokens = some (value, rest)) (limit : Nat) :
    manyWithin (limit + 1) item tokens =
      (manyWithin limit item rest).map fun found => (value :: found.1, found.2) := by
  change ((item >>= _) <|> pure []) tokens = _
  rw [orElse_apply, bind_apply, read, Option.bind_some, bind_apply]
  cases further : manyWithin limit item rest with
  | none =>
      cases limit with
      | zero => cases further
      | succ limit =>
          change ((item >>= _) <|> pure []) rest = none at further
          rw [orElse_apply, Option.or_eq_none_iff] at further
          cases further.2
  | some found => rfl

theorem exists_manyWithin (item : Reader α) (limit : Nat) (tokens : List Token) :
    ∃ values rest, manyWithin limit item tokens = some (values, rest) := by
  cases limit with
  | zero => exact ⟨[], tokens, rfl⟩
  | succ limit =>
      cases read : item tokens with
      | none => exact ⟨[], tokens, manyWithin_of_none read _⟩
      | some found =>
          obtain ⟨values, rest, further⟩ := exists_manyWithin item limit found.2
          exact ⟨found.1 :: values, rest, by rw [manyWithin_of_some read, further]; rfl⟩

theorem exists_many (item : Reader α) (tokens : List Token) :
    ∃ values rest, many item tokens = some (values, rest) :=
  exists_manyWithin item _ tokens

/-- How often an item may be repeated does not matter once it may be for every token. -/
theorem manyWithin_add {item : Reader α} (takes : ∀ size, Advance size item item)
    {tokens : List Token} {limit : Nat} (enough : tokens.length ≤ limit) (more : Nat) :
    manyWithin (limit + more) item tokens = manyWithin limit item tokens := by
  induction limit generalizing tokens with
  | zero =>
      cases read : item tokens with
      | none => rw [manyWithin_of_none read, manyWithin_of_none read]
      | some found =>
          have less := (takes _).shorter (Nat.le_refl _) read
          omega
  | succ limit induction =>
      rw [Nat.add_right_comm]
      cases read : item tokens with
      | none => rw [manyWithin_of_none read, manyWithin_of_none read]
      | some found =>
          have less := (takes _).shorter (Nat.le_refl _) read
          rw [manyWithin_of_some read, manyWithin_of_some read, induction (by omega)]

theorem many_of_some {item : Reader α} (takes : ∀ size, Advance size item item)
    {tokens rest : List Token} {value : α} (read : item tokens = some (value, rest)) :
    many item tokens = (many item rest).map fun found => (value :: found.1, found.2) := by
  have less := (takes _).shorter (Nat.le_refl _) read
  obtain ⟨more, length⟩ : ∃ more, tokens.length = rest.length + more + 1 :=
    ⟨tokens.length - rest.length - 1, by omega⟩
  rw [many, length, manyWithin_of_some read, manyWithin_add takes (Nat.le_refl _)]
  rfl

theorem taken_of_none {item : Reader Unit} {tokens : List Token} (failed : item tokens = none) :
    taken item tokens = some (false, tokens) := by
  unfold taken
  rw [orElse_apply, bind_apply, failed]
  rfl

theorem taken_of_some {item : Reader Unit} {tokens rest : List Token}
    (read : item tokens = some ((), rest)) : taken item tokens = some (true, rest) := by
  unfold taken
  rw [orElse_apply, bind_apply, read]
  rfl

theorem exists_taken (item : Reader Unit) (tokens : List Token) :
    ∃ found rest, taken item tokens = some (found, rest) := by
  cases read : item tokens with
  | none => exact ⟨false, tokens, taken_of_none read⟩
  | some found => exact ⟨true, found.2, taken_of_some read⟩

theorem separated_of_some {mark : Reader Unit} {item : Reader α} {tokens rest last : List Token}
    {value : α} {values : List α} (read : item tokens = some (value, rest))
    (further : many (do mark; item) rest = some (values, last)) :
    separated mark item tokens = some (value :: values, last) := by
  unfold separated
  rw [bind_apply, read, Option.bind_some, bind_apply, further]
  rfl

/-- A list that can be read behind a separator. -/
theorem many_of_separated {separator : Reader Unit} {item : Reader α}
    (takes : ∀ size, Advance size (do separator; item) (do separator; item))
    {tokens further last : List Token} {values : List α}
    (isSeparator : separator tokens = some ((), further))
    (read : separated separator item further = some (values, last)) :
    many (do separator; item) tokens = some (values, last) := by
  unfold separated at read
  rw [bind_apply] at read
  obtain ⟨⟨value, behind⟩, first, read⟩ := Option.bind_eq_some_iff.mp read
  rw [bind_apply] at read
  obtain ⟨⟨others, left⟩, repeated, read⟩ := Option.bind_eq_some_iff.mp read
  cases read
  have head : (do separator; item : Reader α) tokens = some (value, behind) := by
    rw [bind_apply, isSeparator, Option.bind_some, first]
  rw [many_of_some takes head, repeated]
  rfl

/-- A chain reads the list of its operands. -/
theorem exists_separated_of_chain {separator : Reader Unit} {combine : α → α → α}
    {operand : Reader α} {tokens rest : List Token} {value : α}
    (read : chain separator combine operand tokens = some (value, rest)) :
    ∃ values, separated separator operand tokens = some (values, rest) := by
  unfold chain at read
  rw [bind_apply] at read
  obtain ⟨⟨first, left⟩, readFirst, read⟩ := Option.bind_eq_some_iff.mp read
  rw [bind_apply] at read
  obtain ⟨⟨others, last⟩, readOthers, read⟩ := Option.bind_eq_some_iff.mp read
  cases read
  exact ⟨_, separated_of_some readFirst readOthers⟩

theorem separated_of_none {mark : Reader Unit} {item : Reader α} {tokens : List Token}
    (nothing : item tokens = none) : separated mark item tokens = none := by
  unfold separated
  rw [bind_apply, nothing]
  rfl

theorem parenthesised_of_some {item : Reader α} {tokens rest : List Token} {value : α}
    (read : item tokens = some (value, .mark .closeParen :: rest)) :
    parenthesised item (.mark .openParen :: tokens) = some (value, rest) := by
  change (item tokens).bind _ = _
  rw [read]
  rfl

theorem word_word (expected letters : String) (tokens : List Token) :
    word expected (.word letters :: tokens) =
      if capitals letters = expected then some ((), tokens) else none := by
  change Option.map _ (if capitals letters = expected then some () else none) = _
  split <;> rfl

end FacetedQuery.Sparql.Reader
