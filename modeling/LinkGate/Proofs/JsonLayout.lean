import LinkGate.Proofs.JsonText
import Mathlib.Data.List.Basic

/-!
# Layouts of JSON values

The layout with a line for each item and field spells the value that is laid out, whatever follows it and
at whatever depth it begins.
-/

namespace LinkGate.Json

/-! ## Numbers -/

/-- A number in decimal digits has no zeros in front. -/
theorem toDigits_eq_zero_of_head? (n : Nat) (zero : (Nat.toDigits 10 n).head? = some '0') :
    Nat.toDigits 10 n = ['0'] := by
  induction n using Nat.strongRecOn with
  | ind n ih =>
      by_cases small : n < 10
      · rw [Nat.toDigits_of_lt_base small, List.head?_cons, Option.some.injEq] at zero
        rw [Nat.toDigits_of_lt_base small, zero]
      · rw [Nat.toDigits_of_base_le (by decide) (by omega),
          List.head?_append_of_ne_nil _ Nat.toDigits_ne_nil] at zero
        -- The digits in front would be those of zero.
        have front := ih (n / 10) (by omega) zero
        have number : Nat.ofDigitChars 10 (Nat.toDigits 10 (n / 10)) 0 = n / 10 :=
          Nat.ofDigitChars_ten_toDigits
        rw [front] at number
        have nothing : n / 10 = 0 := number.symm
        omega

theorem spelled_number (n : Nat) : (Token.number n).Spelled (toString n).toList := by
  have digits : (toString n).toList = Nat.toDigits 10 n := by
    rw [Nat.toString_eq_repr, Nat.toList_repr]
  have decimal (d : Char) (mem : d ∈ Nat.toDigits 10 n) : d.isDigit = true :=
    Nat.isDigit_of_mem_toDigits (by decide) (by decide) mem
  have spelled := Token.Spelled.number Nat.toDigits_ne_nil decimal (toDigits_eq_zero_of_head? n)
  rwa [Nat.ofDigitChars_ten_toDigits, ← digits] at spelled

/-! ## Pieces of a layout -/

section Pieces

variable {ts : List Token} {rest : List Char}

theorem Lexes.newline (depth : Nat) (lexes : Lexes ts rest) : Lexes ts (newline depth ++ rest) := by
  refine .blank rfl ?_
  induction 2 * depth with
  | zero => exact lexes
  | succ n ih => exact .blank rfl ih

theorem Lexes.mark (m : Mark) (lexes : Lexes ts rest) : Lexes (.mark m :: ts) (m.char :: rest) :=
  .token (.mark m) (fun _ isNumber => nomatch isNumber) lexes

theorem Lexes.quote (s : String) (lexes : Lexes ts rest) : Lexes (.string s :: ts) (quote s ++ rest) :=
  .token (.string (written_flatMap_escape s.toList)) (fun _ isNumber => nomatch isNumber) lexes

theorem not_startsWithDigit_cons {c : Char} (noDigit : c.isDigit = false) (s : List Char) :
    ¬ StartsWithDigit (c :: s) := by
  rintro ⟨d, first, isDigit⟩
  obtain rfl : c = d := Option.some.inj first
  rw [noDigit] at isDigit
  contradiction

theorem not_startsWithDigit_newline (depth : Nat) (s : List Char) :
    ¬ StartsWithDigit (Json.newline depth ++ s) :=
  not_startsWithDigit_cons rfl (List.replicate (2 * depth) ' ' ++ s)

end Pieces

/-! ## Values -/

mutual

/-- A value that is laid out has the tokens of the value, and what follows keeps its tokens. -/
theorem lexes_pretty (depth : Nat) (value : Json) {ts : List Token} {rest : List Char}
    (lexes : Lexes ts rest) (whole : ¬ StartsWithDigit rest) :
    Lexes (tokens value ++ ts) (pretty depth value ++ rest) := by
  match value with
  | null =>
      simp only [tokens, pretty, compact]
      exact .token .null (fun _ isNumber => nomatch isNumber) lexes
  | bool true =>
      simp only [tokens, pretty, compact]
      exact .token .yes (fun _ isNumber => nomatch isNumber) lexes
  | bool false =>
      simp only [tokens, pretty, compact]
      exact .token .no (fun _ isNumber => nomatch isNumber) lexes
  | number n =>
      simp only [tokens, pretty, compact]
      exact .token (spelled_number n) (fun _ _ => whole) lexes
  | string s =>
      simp only [tokens, pretty, compact]
      exact lexes.quote s
  | array [] =>
      simp only [tokens, itemTokens, pretty]
      exact (lexes.mark .endArray).mark .beginArray
  | array (item :: items) =>
      have closed := (lexes.mark .endArray).newline depth
      have laidOut := lexes_prettyItems (depth + 1) (item :: items) closed
        (not_startsWithDigit_newline depth (']' :: rest))
      simp only [tokens, pretty, List.append_assoc, List.cons_append]
      exact laidOut.mark .beginArray
  | object [] =>
      simp only [tokens, fieldTokens, pretty]
      exact (lexes.mark .endObject).mark .beginObject
  | object (field :: fields) =>
      have closed := (lexes.mark .endObject).newline depth
      have laidOut := lexes_prettyFields (depth + 1) (field :: fields) closed
        (not_startsWithDigit_newline depth ('\x7d' :: rest))
      simp only [tokens, pretty, List.append_assoc, List.cons_append]
      exact laidOut.mark .beginObject

theorem lexes_prettyItems (depth : Nat) (items : List Json) {ts : List Token} {rest : List Char}
    (lexes : Lexes (.mark .endArray :: ts) rest) (whole : ¬ StartsWithDigit rest) :
    Lexes (itemTokens true items ++ ts) (prettyItems depth items ++ rest) := by
  match items with
  | [] => exact lexes
  | [item] =>
      have last := lexes_pretty depth item lexes whole
      simp only [itemTokens_cons, prettyItems, List.append_assoc]
      exact last.newline depth
  | item :: next :: others =>
      have further := lexes_prettyItems depth (next :: others) lexes whole
      have first := lexes_pretty depth item (further.mark .comma) (not_startsWithDigit_cons rfl _)
      simp only [itemTokens_cons, prettyItems, List.append_assoc] at first ⊢
      exact first.newline depth

theorem lexes_prettyFields (depth : Nat) (fields : List (String × Json)) {ts : List Token}
    {rest : List Char} (lexes : Lexes (.mark .endObject :: ts) rest) (whole : ¬ StartsWithDigit rest) :
    Lexes (fieldTokens true fields ++ ts) (prettyFields depth fields ++ rest) := by
  match fields with
  | [] => exact lexes
  | [(name, value)] =>
      have last := lexes_pretty depth value lexes whole
      have named := ((Lexes.blank (c := ' ') rfl last).mark .colon).quote name
      simp only [fieldTokens_cons, prettyFields, List.append_assoc, List.cons_append]
      exact named.newline depth
  | (name, value) :: next :: others =>
      have further := lexes_prettyFields depth (next :: others) lexes whole
      have first := lexes_pretty depth value (further.mark .comma) (not_startsWithDigit_cons rfl _)
      have named := ((Lexes.blank (c := ' ') rfl first).mark .colon).quote name
      simp only [fieldTokens_cons, prettyFields, List.append_assoc, List.cons_append] at named ⊢
      exact named.newline depth

end

theorem spells_prettyText (value : Json) : Spells value value.prettyText.toList := by
  have laidOut := lexes_pretty 0 value Lexes.nil (by rintro ⟨d, first, -⟩; contradiction)
  rw [List.append_nil, List.append_nil] at laidOut
  rwa [Spells, prettyText, String.toList_ofList]

end LinkGate.Json
