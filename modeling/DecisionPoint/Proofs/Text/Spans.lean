import Mathlib.Data.List.TakeWhile
import DecisionPoint.Text.Blank

/-!
# Digits and blanks at the ends of a text

Decimal digits are taken off a text up to the first character that is none.  Blanks are taken off at
both ends, down to a core that neither begins nor ends with one.
-/

set_option autoImplicit false

namespace DecisionPoint.Text

/-! ## Digits -/

theorem isDigit_toDigits {n : Nat} {c : Char} (written : c ∈ Nat.toDigits 10 n) :
    c.isDigit = true :=
  Nat.isDigit_of_mem_toDigits (by decide) (by decide) written

def EndsDigits (tail : List Char) : Prop :=
  ∀ c ∈ tail.head?, c.isDigit = false

theorem endsDigits_cons {c : Char} (other : c.isDigit = false) (rest : List Char) :
    EndsDigits (c :: rest) := by
  intro first head
  cases head
  exact other

variable {digits tail : List Char}

theorem takeWhile_endsDigits (ends : EndsDigits tail) :
    tail.takeWhile Char.isDigit = [] ∧ tail.dropWhile Char.isDigit = tail := by
  cases tail with
  | nil => exact ⟨rfl, rfl⟩
  | cons c rest =>
      have other : c.isDigit = false := ends c rfl
      exact ⟨List.takeWhile_cons_of_neg (by simp [other]),
        List.dropWhile_cons_of_neg (by simp [other])⟩

theorem takeWhile_digits (allDigits : ∀ c ∈ digits, c.isDigit = true) (ends : EndsDigits tail) :
    (digits ++ tail).takeWhile Char.isDigit = digits := by
  rw [List.takeWhile_append_of_pos allDigits, (takeWhile_endsDigits ends).1, List.append_nil]

theorem dropWhile_digits (allDigits : ∀ c ∈ digits, c.isDigit = true) (ends : EndsDigits tail) :
    (digits ++ tail).dropWhile Char.isDigit = tail := by
  rw [List.dropWhile_append_of_pos allDigits, (takeWhile_endsDigits ends).2]

/-! ## Blanks -/

theorem isBlank_digit {c : Char} (digit : c.isDigit = true) : isBlank c = false := by
  simp only [Char.isDigit, Bool.and_eq_true, decide_eq_true_eq] at digit
  have low : 48 ≤ c.toNat := digit.1
  have high : c.toNat ≤ 57 := digit.2
  simp only [isBlank, Bool.or_eq_false_iff, Bool.and_eq_false_iff, decide_eq_false_iff_not]
  omega

theorem trimStart_cons {c : Char} (black : isBlank c = false) (rest : List Char) :
    trimStart (c :: rest) = c :: rest :=
  List.dropWhile_cons_of_neg (by simp [black])

theorem exists_trim (cs : List Char) :
    ∃ before after, cs = before ++ trim cs ++ after ∧ ∀ c ∈ before ++ after, isBlank c = true := by
  have split (cs : List Char) : ∃ before, cs = before ++ trimStart cs ∧
      ∀ c ∈ before, isBlank c = true :=
    ⟨_, List.takeWhile_append_dropWhile.symm, fun _ mem => List.mem_takeWhile_imp mem⟩
  obtain ⟨before, begins, blank⟩ := split cs
  obtain ⟨after, ends, blank'⟩ := split (trimStart cs).reverse
  refine ⟨before, after.reverse, ?_, ?_⟩
  · calc cs = before ++ trimStart cs := begins
      _ = before ++ ((trimStart cs).reverse).reverse := by rw [List.reverse_reverse]
      _ = before ++ (after ++ trimStart (trimStart cs).reverse).reverse := by rw [← ends]
      _ = before ++ trim cs ++ after.reverse := by
          rw [List.reverse_append, List.append_assoc]
          rfl
  · intro c mem
    rcases List.mem_append.mp mem with mem | mem
    · exact blank c mem
    · exact blank' c (List.mem_reverse.mp mem)

theorem trimStart_blanks {before : List Char} (blank : ∀ c ∈ before, isBlank c = true)
    (rest : List Char) : trimStart (before ++ rest) = trimStart rest :=
  List.dropWhile_append_of_pos blank

theorem trimStart_core {core : List Char} (present : core ≠ [])
    (black : ∀ c ∈ core, isBlank c = false) (rest : List Char) :
    trimStart (core ++ rest) = core ++ rest := by
  cases core with
  | nil => exact absurd rfl present
  | cons c core => exact trimStart_cons (black c List.mem_cons_self) (core ++ rest)

/-- Trimming takes off exactly the blanks around a core without blanks. -/
theorem trim_core {before core after : List Char} (present : core ≠ [])
    (black : ∀ c ∈ core, isBlank c = false)
    (blank : ∀ c ∈ before ++ after, isBlank c = true) : trim (before ++ core ++ after) = core := by
  obtain ⟨blankBefore, blankAfter⟩ := List.forall_mem_append.mp blank
  have blankAfter' : ∀ c ∈ after.reverse, isBlank c = true :=
    fun c mem => blankAfter c (List.mem_reverse.mp mem)
  have black' : ∀ c ∈ core.reverse, isBlank c = false :=
    fun c mem => black c (List.mem_reverse.mp mem)
  have present' : core.reverse ≠ [] := fun nothing => present (List.reverse_eq_nil_iff.mp nothing)
  have ends : trimStart (core ++ after).reverse = core.reverse := by
    have whole := trimStart_core present' black' []
    rw [List.append_nil] at whole
    rw [List.reverse_append, trimStart_blanks blankAfter', whole]
  calc trim (before ++ core ++ after) = trimEnd (trimStart (before ++ (core ++ after))) := by
        rw [List.append_assoc]
        rfl
    _ = trimEnd (core ++ after) := by
        rw [trimStart_blanks blankBefore, trimStart_core present black]
    _ = (trimStart (core ++ after).reverse).reverse := rfl
    _ = core := by rw [ends, List.reverse_reverse]

end DecisionPoint.Text
