import LinkGate.Proofs.JsonString

/-!
# JSON texts

A JSON text is a row of tokens with blanks between them. The tokens of a value say what it holds, and a
text spells a value if it has the tokens of the value. A text spells one value at most: it has one row of
tokens at most, and no two values have the same tokens. The indented layout of a value spells it.
-/

namespace LinkGate.Json

open Manifest

/-! ## Tokens -/

inductive Mark where
  | beginArray
  | endArray
  | beginObject
  | endObject
  | colon
  | comma
deriving DecidableEq, Repr

def Mark.char : Mark → Char
  | beginArray => '['
  | endArray => ']'
  | beginObject => '\x7b'
  | endObject => '\x7d'
  | colon => ':'
  | comma => ','

inductive Token where
  | mark (mark : Mark)
  | null
  | bool (value : Bool)
  | number (value : Nat)
  | string (value : String)
deriving DecidableEq, Repr

/-- What may stand in a text for a token. Numbers count things, and have no zeros in front. -/
inductive Token.Spelled : Token → List Char → Prop where
  | mark (mark : Mark) : Spelled (.mark mark) [mark.char]
  | null : Spelled .null ['n', 'u', 'l', 'l']
  | yes : Spelled (.bool true) ['t', 'r', 'u', 'e']
  | no : Spelled (.bool false) ['f', 'a', 'l', 's', 'e']
  | number {digits : List Char} (nonempty : digits ≠ []) (decimal : ∀ d ∈ digits, d.isDigit = true)
      (noZeros : digits.head? = some '0' → digits = ['0']) :
      Spelled (.number (Nat.ofDigitChars 10 digits 0)) digits
  | string {value : String} {text : List Char} (written : Written value.toList text) :
      Spelled (.string value) ('"' :: text ++ ['"'])

def StartsWithDigit (s : List Char) : Prop :=
  ∃ d ∈ s.head?, d.isDigit = true

/-- The tokens that a text is made of, with blanks anywhere between them. A number ends where its digits
end. -/
inductive Lexes : List Token → List Char → Prop where
  | nil : Lexes [] []
  | blank {c : Char} {tokens : List Token} {s : List Char} (blank : isBlank c = true)
      (rest : Lexes tokens s) : Lexes tokens (c :: s)
  | token {token : Token} {tokens : List Token} {piece s : List Char} (spelled : token.Spelled piece)
      (whole : ∀ n, token = .number n → ¬ StartsWithDigit s) (rest : Lexes tokens s) :
      Lexes (token :: tokens) (piece ++ s)

/-! ## Tokens of values -/

def separator (isFirst : Bool) : List Token :=
  if isFirst then [] else [.mark .comma]

mutual

def tokens : Json → List Token
  | null => [.null]
  | bool value => [.bool value]
  | number value => [.number value]
  | string value => [.string value]
  | array items => .mark .beginArray :: itemTokens true items
  | object fields => .mark .beginObject :: fieldTokens true fields

def itemTokens (isFirst : Bool) : List Json → List Token
  | [] => [.mark .endArray]
  | item :: rest => separator isFirst ++ tokens item ++ itemTokens false rest

def fieldTokens (isFirst : Bool) : List (String × Json) → List Token
  | [] => [.mark .endObject]
  | (name, value) :: rest =>
    separator isFirst ++ .string name :: .mark .colon :: tokens value ++ fieldTokens false rest

end

/-- Whether a text is a JSON text of a value. -/
def Spells (value : Json) (text : List Char) : Prop :=
  Lexes value.tokens text

/-! ## One row of tokens at most -/

/-- The token that a character begins if it is no digit, and what is left behind it. -/
def tokenFrom? (c : Char) (rest : List Char) : Option (Token × List Char) :=
  match c with
  | '[' => some (.mark .beginArray, rest)
  | ']' => some (.mark .endArray, rest)
  | '\x7b' => some (.mark .beginObject, rest)
  | '\x7d' => some (.mark .endObject, rest)
  | ':' => some (.mark .colon, rest)
  | ',' => some (.mark .comma, rest)
  | 'n' => some (.null, rest.drop 3)
  | 't' => some (.bool true, rest.drop 3)
  | 'f' => some (.bool false, rest.drop 4)
  | '"' =>
    match Manifest.string rest with
    | .ok (value, rest) => some (.string (String.ofList value), rest)
    | .error _ => none
  | _ => none

def firstToken? : List Char → Option (Token × List Char)
  | [] => none
  | c :: rest =>
    if c.isDigit then
      some (.number (Nat.ofDigitChars 10 ((c :: rest).takeWhile Char.isDigit) 0),
        (c :: rest).dropWhile Char.isDigit)
    else tokenFrom? c rest

theorem firstToken?_number {digits s : List Char} (nonempty : digits ≠ [])
    (decimal : ∀ d ∈ digits, d.isDigit = true) (whole : ¬ StartsWithDigit s) :
    firstToken? (digits ++ s) = some (.number (Nat.ofDigitChars 10 digits 0), s) := by
  have stops : s.takeWhile Char.isDigit = [] ∧ s.dropWhile Char.isDigit = s := by
    cases s with
    | nil => exact ⟨rfl, rfl⟩
    | cons c rest =>
        have noDigit : ¬ c.isDigit = true := fun isDigit => whole ⟨c, rfl, isDigit⟩
        exact ⟨List.takeWhile_cons_of_neg noDigit, List.dropWhile_cons_of_neg noDigit⟩
  have taken : (digits ++ s).takeWhile Char.isDigit = digits := by
    rw [List.takeWhile_append_of_pos decimal, stops.1, List.append_nil]
  have left : (digits ++ s).dropWhile Char.isDigit = s := by
    rw [List.dropWhile_append_of_pos decimal, stops.2]
  obtain ⟨first, others, rfl⟩ := List.exists_cons_of_ne_nil nonempty
  rw [List.cons_append] at taken left ⊢
  rw [firstToken?, if_pos (decimal first List.mem_cons_self), taken, left]

theorem firstToken?_append {token : Token} {piece s : List Char} (spelled : token.Spelled piece)
    (whole : ∀ n, token = .number n → ¬ StartsWithDigit s) :
    firstToken? (piece ++ s) = some (token, s) := by
  cases spelled with
  | mark mark => cases mark <;> rfl
  | null => rfl
  | yes => rfl
  | no => rfl
  | number nonempty decimal _ => exact firstToken?_number nonempty decimal (whole _ rfl)
  | @string value text written =>
      have read := string_of_written written s
      change firstToken? ('"' :: (text ++ ['"'] ++ s)) = _
      rw [List.append_assoc, List.singleton_append, firstToken?, if_neg (by decide)]
      simp only [tokenFrom?, read, String.ofList_toList]

/-- No spelling of a token begins with a blank. -/
theorem Token.Spelled.not_blank {token : Token} {piece : List Char} (spelled : token.Spelled piece) :
    ∃ c rest, piece = c :: rest ∧ isBlank c = false := by
  cases spelled with
  | mark mark => exact ⟨mark.char, [], rfl, by cases mark <;> rfl⟩
  | null => exact ⟨_, _, rfl, rfl⟩
  | yes => exact ⟨_, _, rfl, rfl⟩
  | no => exact ⟨_, _, rfl, rfl⟩
  | string written => exact ⟨_, _, rfl, rfl⟩
  | number nonempty decimal _ =>
      obtain ⟨first, others, rfl⟩ := List.exists_cons_of_ne_nil nonempty
      refine ⟨first, others, rfl, ?_⟩
      have isDigit := decimal first List.mem_cons_self
      rw [← Bool.not_eq_true]
      intro blank
      simp only [isBlank, Bool.or_eq_true, beq_iff_eq] at blank
      rcases blank with ((rfl | rfl) | rfl) | rfl <;> contradiction

/-- A text has one row of tokens at most. -/
theorem Lexes.unique {first second : List Token} {text : List Char} (one : Lexes first text)
    (other : Lexes second text) : first = second := by
  -- By induction on the one row; a spelling never begins with a blank, so the other takes the same kind of step.
  induction one generalizing second with
  | nil =>
      generalize empty : ([] : List Char) = text at other
      cases other with
      | nil => rfl
      | blank => contradiction
      | token spelled _ _ =>
          obtain ⟨c, rest, rfl, -⟩ := spelled.not_blank
          contradiction
  | @blank c tokens s blank rest ih =>
      generalize same : c :: s = text at other
      cases other with
      | nil => contradiction
      | blank _ others =>
          obtain ⟨rfl, rfl⟩ := List.cons.inj same
          exact ih others
      | token spelled _ _ =>
          obtain ⟨d, rest, rfl, visible⟩ := spelled.not_blank
          obtain ⟨rfl, -⟩ := List.cons.inj same
          rw [visible] at blank
          contradiction
  | @token token tokens piece s spelled whole rest ih =>
      generalize same : piece ++ s = text at other
      cases other with
      | nil =>
          obtain ⟨c, rest, rfl, -⟩ := spelled.not_blank
          contradiction
      | blank blank others =>
          obtain ⟨c, rest, rfl, visible⟩ := spelled.not_blank
          obtain ⟨rfl, -⟩ := List.cons.inj same
          rw [visible] at blank
          contradiction
      | token spelled' whole' others =>
          -- Both rows begin with the one token that is read from the text.
          have read := firstToken?_append spelled whole
          rw [same, firstToken?_append spelled' whole', Option.some.injEq, Prod.mk.injEq] at read
          obtain ⟨rfl, rfl⟩ := read
          rw [ih others]

/-! ## One value at most -/

theorem itemTokens_cons (isFirst : Bool) (item : Json) (rest : List Json) :
    itemTokens isFirst (item :: rest) = separator isFirst ++ (tokens item ++ itemTokens false rest) := by
  rw [itemTokens, List.append_assoc]

theorem fieldTokens_cons (isFirst : Bool) (name : String) (value : Json) (rest : List (String × Json)) :
    fieldTokens isFirst ((name, value) :: rest) =
      separator isFirst ++ .string name :: .mark .colon :: (tokens value ++ fieldTokens false rest) := by
  simp only [fieldTokens, List.append_assoc, List.cons_append]

theorem tokens_ne_endArray (value : Json) (s t : List Token) :
    tokens value ++ s ≠ .mark .endArray :: t := by
  cases value <;> simp [tokens]

theorem itemTokens_cons_ne_end (isFirst : Bool) (item : Json) (rest : List Json) (s t : List Token) :
    itemTokens isFirst (item :: rest) ++ s ≠ .mark .endArray :: t := by
  rw [itemTokens_cons]
  cases isFirst with
  | false => simp [separator]
  | true =>
      simp only [separator, if_true, List.nil_append, List.append_assoc]
      exact tokens_ne_endArray item _ t

theorem fieldTokens_cons_ne_end (isFirst : Bool) (field : String × Json) (rest : List (String × Json))
    (s t : List Token) : fieldTokens isFirst (field :: rest) ++ s ≠ .mark .endObject :: t := by
  obtain ⟨name, value⟩ := field
  rw [fieldTokens_cons]
  cases isFirst <;> simp [separator]

mutual

/-- The tokens of a value tell the value and where it ends. -/
theorem tokens_append_inj (value other : Json) (s t : List Token)
    (same : tokens value ++ s = tokens other ++ t) : value = other ∧ s = t := by
  match value with
  | null => cases other <;> simp_all [tokens]
  | bool _ => cases other <;> simp_all [tokens]
  | number _ => cases other <;> simp_all [tokens]
  | string _ => cases other <;> simp_all [tokens]
  | array items =>
      cases other with
      | array others =>
          rw [tokens, tokens, List.cons_append, List.cons_append] at same
          obtain ⟨rfl, rfl⟩ := itemTokens_append_inj true items others s t (List.cons.inj same).2
          exact ⟨rfl, rfl⟩
      | _ => simp [tokens] at same
  | object fields =>
      cases other with
      | object others =>
          rw [tokens, tokens, List.cons_append, List.cons_append] at same
          obtain ⟨rfl, rfl⟩ := fieldTokens_append_inj true fields others s t (List.cons.inj same).2
          exact ⟨rfl, rfl⟩
      | _ => simp [tokens] at same

theorem itemTokens_append_inj (isFirst : Bool) (items others : List Json) (s t : List Token)
    (same : itemTokens isFirst items ++ s = itemTokens isFirst others ++ t) :
    items = others ∧ s = t := by
  match items, others with
  | [], [] => exact ⟨rfl, (List.cons.inj same).2⟩
  | [], other :: others => exact absurd same.symm (itemTokens_cons_ne_end isFirst other others t s)
  | item :: items, [] => exact absurd same (itemTokens_cons_ne_end isFirst item items s t)
  | item :: items, other :: others =>
      simp only [itemTokens_cons, List.append_assoc, List.append_cancel_left_eq] at same
      obtain ⟨rfl, further⟩ := tokens_append_inj item other _ _ same
      obtain ⟨rfl, rfl⟩ := itemTokens_append_inj false items others s t further
      exact ⟨rfl, rfl⟩

theorem fieldTokens_append_inj (isFirst : Bool) (fields others : List (String × Json))
    (s t : List Token) (same : fieldTokens isFirst fields ++ s = fieldTokens isFirst others ++ t) :
    fields = others ∧ s = t := by
  match fields, others with
  | [], [] => exact ⟨rfl, (List.cons.inj same).2⟩
  | [], other :: others => exact absurd same.symm (fieldTokens_cons_ne_end isFirst other others t s)
  | field :: fields, [] => exact absurd same (fieldTokens_cons_ne_end isFirst field fields s t)
  | (name, value) :: fields, (name', value') :: others =>
      simp only [fieldTokens_cons, List.append_assoc, List.cons_append, List.append_cancel_left_eq,
        List.cons.injEq, Token.string.injEq, true_and] at same
      obtain ⟨rfl, same⟩ := same
      obtain ⟨rfl, further⟩ := tokens_append_inj value value' _ _ same
      obtain ⟨rfl, rfl⟩ := fieldTokens_append_inj false fields others s t further
      exact ⟨rfl, rfl⟩

end

/-- A text spells one value at most. -/
theorem Spells.unique {value other : Json} {text : List Char} (one : Spells value text)
    (two : Spells other text) : value = other := by
  have same : value.tokens ++ [] = other.tokens ++ [] := by rw [Lexes.unique one two]
  exact (tokens_append_inj value other [] [] same).1

end LinkGate.Json
