import DecisionPoint.Json.Parser
import DecisionPoint.Json.Printer
import DecisionPoint.Proofs.Text.Spans
import Mathlib.Tactic.SplitIfs

/-!
# A document is read back from its text

`Json.text` writes a document in such a way that `Json.parse` finds that document again, whatever
characters its texts and names hold.  The documents in question are the plain ones: they hold no
double, no literal without a value, and no rows, which a text shows as any other array.
-/

set_option autoImplicit false

namespace DecisionPoint.Json

/-- Whether a number is an integer that fits a 64-bit word, signed or unsigned. -/
def Number.isWord : Number → Bool
  | .integer value => -Nat.pow 2 63 ≤ value && value ≤ maxWord
  | .float _ => false

mutual

def isPlain : Json → Bool
  | .number value => value.isWord
  | .array elements => arePlainElements elements
  | .object members => arePlainMembers members
  | .rows _ | .unreadable => false
  | .null | .bool _ | .string _ => true

def arePlainElements : List Json → Bool
  | [] => true
  | value :: rest => value.isPlain && arePlainElements rest

def arePlainMembers : List (String × Json) → Bool
  | [] => true
  | (_, value) :: rest => value.isPlain && arePlainMembers rest

end

/-! ## Texts between quotes -/

theorem unit16_hexDigits (n : Nat) (small : n < 65536) (rest : List Char) :
    unit16 (Text.hexDigits 4 n ++ rest) = some (n, rest) := by
  have digit (m : Nat) : Text.hexValue (Text.hexDigit (m % 16)) = some (m % 16) :=
    Text.hexValue_hexDigit _ (Nat.mod_lt m (by decide))
  have value : 16 * (16 * (16 * (n / 16 / 16 / 16 % 16) + n / 16 / 16 % 16) + n / 16 % 16) +
      n % 16 = n := by omega
  simp [unit16, Text.hexDigits, Text.hexNumber, digit, value]

theorem spanText_escapeChar (fuel : Nat) (c : Char) (rest : List Char) :
    spanText (fuel + 1) (escapeChar c ++ rest) =
      (spanText fuel rest).map fun (text, tail) => (text.map (c :: ·), tail) := by
  have code : Char.ofNat c.toNat = c := Char.ofNat_toNat c
  unfold escapeChar
  split
  · next quote => simp [spanText, quote, shortEscape]
  split
  · next backslash => simp [spanText, backslash, shortEscape]
  split
  · next lineFeed => simp [spanText, lineFeed, shortEscape]
  split
  · next carriageReturn => simp [spanText, carriageReturn, shortEscape]
  split
  · next tab => simp [spanText, tab, shortEscape]
  split
  · next backspace =>
    rw [backspace] at code
    subst code
    rfl
  split
  · next formFeed =>
    rw [formFeed] at code
    subst code
    rfl
  split
  · next control =>
    have noSurrogate : ¬ 0xD800 ≤ c.toNat ∧ ¬ 0xDC00 ≤ c.toNat := by omega
    simp [spanText, unit16_hexDigits c.toNat (by omega), noSurrogate, code]
  · next notQuote notBackslash _ _ _ _ _ printable =>
    simp [spanText, notQuote, notBackslash, printable]

theorem spanText_escaped (cs tail : List Char) (fuel : Nat) (enough : cs.length < fuel) :
    spanText fuel (cs.flatMap escapeChar ++ '"' :: tail) = some (some cs, tail) := by
  induction cs generalizing fuel with
  | nil =>
      obtain ⟨fuel, rfl⟩ := Nat.exists_eq_add_of_lt enough
      simp [spanText]
  | cons c rest ih =>
      cases fuel with
      | zero => exact absurd enough (Nat.not_lt_zero _)
      | succ fuel =>
          rw [List.flatMap_cons, List.append_assoc, spanText_escapeChar,
            ih fuel (Nat.lt_of_succ_lt_succ enough)]
          rfl

theorem length_le_escaped (cs : List Char) : cs.length ≤ (cs.flatMap escapeChar).length := by
  induction cs with
  | nil => exact Nat.le_refl 0
  | cons c rest ih =>
      have written : 0 < (escapeChar c).length := by
        unfold escapeChar
        split_ifs <;> exact Nat.succ_pos _
      rw [List.flatMap_cons, List.length_append, List.length_cons]
      omega

theorem spanQuoted_quoted (name : String) (tail : List Char) :
    spanQuoted (quoted name.toList ++ tail) = some (some name, tail) := by
  have enough : name.toList.length <
      (name.toList.flatMap escapeChar ++ '"' :: tail).length + 1 := by
    have := length_le_escaped name.toList
    simp only [List.length_append]
    omega
  simp only [quoted, List.cons_append, List.append_assoc, List.nil_append, spanQuoted]
  rw [spanText_escaped name.toList tail _ enough]
  simp

/-! ## Numbers -/

/-- What may follow a value: nothing, a comma or a closing bracket. -/
def Closes : List Char → Prop
  | [] => True
  | c :: _ => c = ',' ∨ c = ']' ∨ c = '}'

theorem Closes.endsDigits {tail : List Char} (closes : Closes tail) : Text.EndsDigits tail := by
  cases tail with
  | nil => exact nofun
  | cons c rest =>
      refine Text.endsDigits_cons ?_ rest
      rcases closes with rfl | rfl | rfl <;> rfl

theorem digits_then {digits tail : List Char} (allDigits : ∀ c ∈ digits, c.isDigit = true)
    (closes : Closes tail) : spanDigits (digits ++ tail) = (digits, tail) := by
  rw [spanDigits, Text.takeWhile_digits allDigits closes.endsDigits,
    Text.dropWhile_digits allDigits closes.endsDigits]

theorem spanFraction_closes {tail : List Char} (closes : Closes tail) :
    spanFraction tail = some (none, tail) := by
  cases tail with
  | nil => rfl
  | cons c rest => rcases closes with rfl | rfl | rfl <;> rfl

theorem spanExponent_closes {tail : List Char} (closes : Closes tail) :
    spanExponent tail = some (none, tail) := by
  cases tail with
  | nil => rfl
  | cons c rest => rcases closes with rfl | rfl | rfl <;> rfl

/-- A numeral is not empty, and one that starts with a zero is no longer than that. -/
theorem toDigits_leading (n : Nat) :
    ∃ first others, Nat.toDigits 10 n = first :: others ∧ (first = '0' → others = []) := by
  induction n using Nat.strongRecOn with
  | ind n ih =>
      by_cases single : n < 10
      · exact ⟨n.digitChar, [], Nat.toDigits_of_lt_base single, fun _ => rfl⟩
      · obtain ⟨first, others, written, leading⟩ := ih (n / 10) (by omega)
        refine ⟨first, others ++ [(n % 10).digitChar], ?_, ?_⟩
        · rw [Nat.toDigits_of_base_le (by decide) (by omega), written, List.cons_append]
        · intro zero
          -- The tenth part would be written as a zero alone, so it would be zero.
          rw [leading zero, zero] at written
          have tenth : n / 10 = 0 := by
            rw [← Nat.ofDigitChars_toDigits (b := 10) (n := n / 10) (by decide) (by decide),
              written]
            rfl
          omega

theorem naturalOf_toDigits (n : Nat) : naturalOf (Nat.toDigits 10 n) = n :=
  Nat.ofDigitChars_toDigits (by decide) (by decide)

theorem spanNumeral_digits (n : Nat) {tail : List Char} (closes : Closes tail) :
    spanNumeral (Nat.toDigits 10 n ++ tail) =
        some (⟨false, Nat.toDigits 10 n, none, none⟩, tail) ∧
      spanNumeral ('-' :: (Nat.toDigits 10 n ++ tail)) =
        some (⟨true, Nat.toDigits 10 n, none, none⟩, tail) := by
  have spanned := digits_then (fun _ written => Text.isDigit_toDigits (n := n) written) closes
  obtain ⟨first, others, written, leading⟩ := toDigits_leading n
  have noSign : first ≠ '-' := by
    rintro rfl
    exact absurd (Text.isDigit_toDigits (n := n) (written ▸ List.mem_cons_self)) (by decide)
  rw [written, List.cons_append] at spanned ⊢
  by_cases zero : first = '0'
  · subst zero
    obtain rfl := leading rfl
    rw [List.nil_append] at spanned ⊢
    simp [spanNumeral, spanned, spanFraction_closes closes, spanExponent_closes closes]
  · simp [spanNumeral, spanned, noSign, zero, spanFraction_closes closes,
      spanExponent_closes closes]

theorem chars_ofNat (n : Nat) : (Number.integer (Int.ofNat n)).chars = Nat.toDigits 10 n :=
  Nat.toList_repr

theorem chars_negSucc (n : Nat) :
    (Number.integer (Int.negSucc n)).chars = '-' :: Nat.toDigits 10 (n + 1) := by
  change ("-" ++ (n + 1).repr).toList = _
  rw [String.toList_append, Nat.toList_repr]
  rfl

theorem spanNumeral_chars (value : Number) (word : value.isWord = true) {tail : List Char}
    (closes : Closes tail) :
    ∃ numeral, spanNumeral (value.chars ++ tail) = some (numeral, tail) ∧
      numeral.number = some value := by
  cases value with
  | float value => exact absurd word (by simp [Number.isWord])
  | integer value =>
      simp only [Number.isWord, Bool.and_eq_true, decide_eq_true_eq] at word
      obtain ⟨low, high⟩ := word
      cases value with
      | ofNat n =>
          rw [chars_ofNat]
          refine ⟨_, (spanNumeral_digits n closes).1, ?_⟩
          have fits : n ≤ maxWord := Int.ofNat_le.mp high
          simp [Numeral.number, naturalOf_toDigits, fits]
      | negSucc m =>
          rw [chars_negSucc]
          refine ⟨_, (spanNumeral_digits (m + 1) closes).2, ?_⟩
          have fits : m + 1 ≤ Nat.pow 2 63 := by omega
          simp [Numeral.number, naturalOf_toDigits, fits, Int.negSucc_eq]

/-! ## Values -/

theorem skipBlanks_cons {c : Char} (black : isBlank c = false) (rest : List Char) :
    skipBlanks (c :: rest) = c :: rest := by
  simp [skipBlanks, black]

theorem isBlank_digit {c : Char} (digit : c.isDigit = true) : isBlank c = false := by
  cases blank : isBlank c with
  | false => rfl
  | true =>
      simp only [isBlank, Bool.or_eq_true, decide_eq_true_eq] at blank
      obtain ((rfl | rfl) | rfl) | rfl := blank <;> exact absurd digit (by decide)

theorem number_begins (value : Number) (word : value.isWord = true) :
    ∃ first others, value.chars = first :: others ∧ (first = '-' ∨ first.isDigit = true) := by
  cases value with
  | float value => exact absurd word (by simp [Number.isWord])
  | integer value =>
      cases value with
      | ofNat n =>
          obtain ⟨first, others, written, -⟩ := toDigits_leading n
          rw [chars_ofNat]
          exact ⟨first, others, written,
            .inr (Text.isDigit_toDigits (written ▸ List.mem_cons_self))⟩
      | negSucc n =>
          rw [chars_negSucc]
          exact ⟨'-', _, rfl, .inl rfl⟩

/-- What a value begins with is neither skipped nor taken for the end of a list. -/
theorem value_begins (document : Json) (plain : document.isPlain = true) :
    ∃ first others, document.chars = first :: others ∧ isBlank first = false ∧ first ≠ ']' ∧
      first ≠ '}' := by
  cases document with
  | null => exact ⟨'n', _, rfl, rfl, by decide, by decide⟩
  | bool value => cases value <;> exact ⟨_, _, rfl, rfl, by decide, by decide⟩
  | string value => exact ⟨'"', _, rfl, rfl, by decide, by decide⟩
  | array elements => exact ⟨'[', _, by rw [chars], rfl, by decide, by decide⟩
  | object members => exact ⟨'{', _, by rw [chars], rfl, by decide, by decide⟩
  | rows elements => exact absurd plain (by simp [isPlain])
  | unreadable => exact absurd plain (by simp [isPlain])
  | number value =>
      obtain ⟨first, others, written, sign⟩ := number_begins value (by simpa [isPlain] using plain)
      refine ⟨first, others, written, ?_⟩
      rcases sign with rfl | digit
      · exact ⟨rfl, by decide, by decide⟩
      · refine ⟨isBlank_digit digit, ?_, ?_⟩ <;> rintro rfl <;> exact absurd digit (by decide)

theorem spanValue_number {first : Char} (sign : first = '-' ∨ first.isDigit = true)
    (others : List Char) (fuel : Nat) :
    spanValue (fuel + 1) (first :: others) =
      (spanNumeral (first :: others)).map fun (numeral, tail) =>
        (numeral.number.elim .unreadable .number, tail) := by
  have noOther : first ≠ 'n' ∧ first ≠ 't' ∧ first ≠ 'f' ∧ first ≠ '"' ∧ first ≠ '[' ∧
      first ≠ '{' := by
    rcases sign with rfl | digit
    · decide
    · refine ⟨?_, ?_, ?_, ?_, ?_, ?_⟩ <;> rintro rfl <;> exact absurd digit (by decide)
  rw [spanValue] <;> simp [noOther]

def named (member : String × Json) : Option String × Json := (some member.1, member.2)

theorem mapM_named (read : Option String × Json → Option (String × Json))
    (keeps : ∀ member, read (named member) = some member) (members : List (String × Json)) :
    (members.map named).mapM read = some members := by
  induction members with
  | nil => rfl
  | cons member rest ih => simp [keeps, ih]

theorem ofMembers_named (members : List (String × Json)) :
    ofMembers (members.map named) = .object members := by
  rw [ofMembers, mapM_named _ fun _ => rfl]

theorem elements_begin (value : Json) (rest : List Json)
    (plain : arePlainElements (value :: rest) = true) :
    ∃ first others, charsOfElements (value :: rest) = first :: others ∧ isBlank first = false ∧
      first ≠ ']' := by
  rw [arePlainElements, Bool.and_eq_true] at plain
  obtain ⟨first, others, written, black, noBracket, -⟩ := value_begins value plain.1
  cases rest with
  | nil => exact ⟨first, others, by rw [charsOfElements, written], black, noBracket⟩
  | cons next rest =>
      refine ⟨first, others ++ ',' :: charsOfElements (next :: rest), ?_, black, noBracket⟩
      rw [← List.cons_append, ← written]
      rfl

theorem members_begin (member : String × Json) (rest : List (String × Json)) :
    ∃ others, charsOfMembers (member :: rest) = '"' :: others := by
  cases rest with
  | nil => exact ⟨_, rfl⟩
  | cons next rest => exact ⟨_, rfl⟩

theorem length_pos (document : Json) (plain : document.isPlain = true) :
    0 < document.chars.length := by
  obtain ⟨first, others, written, -⟩ := value_begins document plain
  rw [written]
  exact Nat.succ_pos _

/-! The fuel that reading takes is bounded by the length of the text: each list, each element and
each member costs one turn and is written with at least one character of its own. -/

mutual

theorem spanValue_chars : ∀ (document : Json) (fuel : Nat) (tail : List Char),
    document.isPlain = true → document.chars.length < fuel → Closes tail →
      spanValue fuel (document.chars ++ tail) = some (document, tail)
  | _, 0, _, _, enough, _ => absurd enough (Nat.not_lt_zero _)
  | .null, fuel + 1, tail, _, _, _ => rfl
  | .bool true, fuel + 1, tail, _, _, _ => rfl
  | .bool false, fuel + 1, tail, _, _, _ => rfl
  | .number value, fuel + 1, tail, plain, _, closes => by
      rw [isPlain] at plain
      obtain ⟨first, others, written, sign⟩ := number_begins value plain
      obtain ⟨numeral, spanned, reads⟩ := spanNumeral_chars value plain closes
      rw [written, List.cons_append] at spanned
      rw [chars, written, List.cons_append, spanValue_number sign, spanned]
      simp [reads]
  | .string value, fuel + 1, tail, _, _, _ => by
      have read := spanQuoted_quoted value tail
      simp only [quoted, List.cons_append] at read
      simp only [chars, quoted, List.cons_append, spanValue, read]
      rfl
  | .array [], fuel + 1, tail, _, _, _ => rfl
  | .array (value :: rest), fuel + 1, tail, plain, enough, _ => by
      rw [isPlain] at plain
      simp only [chars, List.length_cons, List.length_append, List.length_nil] at enough
      have read := spanElements_chars value rest fuel tail plain (by omega)
      obtain ⟨first, others, written, black, noBracket⟩ := elements_begin value rest plain
      rw [written, List.cons_append] at read
      simp only [chars, written, List.cons_append, List.append_assoc, List.nil_append, spanValue,
        skipBlanks_cons black]
      simp [noBracket, read]
  | .object [], fuel + 1, tail, _, _, _ => rfl
  | .object (member :: rest), fuel + 1, tail, plain, enough, _ => by
      rw [isPlain] at plain
      simp only [chars, List.length_cons, List.length_append, List.length_nil] at enough
      have read := spanMembers_chars member rest fuel tail plain (by omega)
      obtain ⟨others, written⟩ := members_begin member rest
      rw [written, List.cons_append] at read
      simp only [chars, written, List.cons_append, List.append_assoc, List.nil_append, spanValue,
        skipBlanks_cons (show isBlank '"' = false from rfl)]
      change (spanMembers fuel _).map _ = _
      rw [read, Option.map_some, ofMembers_named]
  | .rows _, _, _, plain, _, _ => absurd plain (by simp [isPlain])
  | .unreadable, _, _, plain, _, _ => absurd plain (by simp [isPlain])

theorem spanElements_chars : ∀ (value : Json) (rest : List Json) (fuel : Nat) (tail : List Char),
    arePlainElements (value :: rest) = true →
      (charsOfElements (value :: rest)).length + 1 < fuel →
      spanElements fuel (charsOfElements (value :: rest) ++ ']' :: tail) =
        some (value :: rest, tail)
  | _, _, 0, _, _, enough => absurd enough (Nat.not_lt_zero _)
  | value, [], fuel + 1, tail, plain, enough => by
      simp only [arePlainElements, Bool.and_true] at plain
      simp only [charsOfElements] at enough ⊢
      have read := spanValue_chars value fuel (']' :: tail) plain (by omega) (.inr (.inl rfl))
      simp only [spanElements, read, skipBlanks_cons (show isBlank ']' = false from rfl)]
  | value, next :: rest, fuel + 1, tail, plain, enough => by
      rw [arePlainElements, Bool.and_eq_true] at plain
      simp only [charsOfElements, List.length_append, List.length_cons] at enough
      have read := spanValue_chars value fuel
        (',' :: (charsOfElements (next :: rest) ++ ']' :: tail)) plain.1 (by omega) (.inl rfl)
      have others := spanElements_chars next rest fuel tail plain.2 (by
        have := length_pos value plain.1
        omega)
      obtain ⟨first, _, written, black, -⟩ := elements_begin next rest plain.2
      simp only [charsOfElements, List.append_assoc, List.cons_append, spanElements, read,
        skipBlanks_cons (show isBlank ',' = false from rfl)]
      rw [written, List.cons_append] at others ⊢
      rw [skipBlanks_cons black, others]
      rfl

theorem spanMembers_chars : ∀ (member : String × Json) (rest : List (String × Json)) (fuel : Nat)
    (tail : List Char), arePlainMembers (member :: rest) = true →
      (charsOfMembers (member :: rest)).length + 1 < fuel →
      spanMembers fuel (charsOfMembers (member :: rest) ++ '}' :: tail) =
        some ((member :: rest).map named, tail)
  | _, _, 0, _, _, enough => absurd enough (Nat.not_lt_zero _)
  | (name, value), [], fuel + 1, tail, plain, enough => by
      simp only [arePlainMembers, Bool.and_true] at plain
      simp only [charsOfMembers, List.length_append, List.length_cons] at enough
      have read := spanValue_chars value fuel ('\x7d' :: tail) plain (by omega) (.inr (.inr rfl))
      obtain ⟨first, others, written, black, -⟩ := value_begins value plain
      rw [written, List.cons_append] at read
      simp only [charsOfMembers, List.append_assoc, List.cons_append, spanMembers,
        spanQuoted_quoted, skipBlanks_cons (show isBlank ':' = false from rfl), written,
        skipBlanks_cons black, read, skipBlanks_cons (show isBlank '\x7d' = false from rfl)]
      rfl
  | (name, value), next :: rest, fuel + 1, tail, plain, enough => by
      rw [arePlainMembers, Bool.and_eq_true] at plain
      simp only [charsOfMembers, List.length_append, List.length_cons] at enough
      have read := spanValue_chars value fuel
        (',' :: (charsOfMembers (next :: rest) ++ '\x7d' :: tail)) plain.1 (by omega) (.inl rfl)
      have remaining := spanMembers_chars next rest fuel tail plain.2 (by omega)
      obtain ⟨first, others, written, black, -⟩ := value_begins value plain.1
      obtain ⟨following, begun⟩ := members_begin next rest
      rw [written, List.cons_append] at read
      simp only [charsOfMembers, List.append_assoc, List.cons_append, spanMembers,
        spanQuoted_quoted, skipBlanks_cons (show isBlank ':' = false from rfl), written,
        skipBlanks_cons black, read, skipBlanks_cons (show isBlank ',' = false from rfl)]
      rw [begun, List.cons_append] at remaining ⊢
      rw [skipBlanks_cons (show isBlank '"' = false from rfl), remaining]
      rfl

end

theorem parse_text (document : Json) (plain : document.isPlain = true) :
    parse document.text = some document := by
  have read := spanValue_chars document (document.chars.length + 1) [] plain (Nat.lt_succ_self _)
    trivial
  obtain ⟨first, others, written, black, -⟩ := value_begins document plain
  rw [List.append_nil] at read
  rw [parse, text, String.toList_ofList, parseChars]
  rw [written] at read ⊢
  rw [skipBlanks_cons black, read]
  rfl

end DecisionPoint.Json
