import Mathlib.Algebra.Group.Nat.Defs
import DecisionPoint.Proofs.Text.Spans
import DecisionPoint.Proofs.Time.Calendar
import DecisionPoint.Time.Instant

/-!
# Instants are read back

The text of an instant is read as that instant, whatever its year and whether or not it falls into
leap time.
-/

set_option autoImplicit false

namespace DecisionPoint.Instant

open Text

/-! ## Numbers -/

theorem isDigit_padded {width n : Nat} : ∀ c ∈ padded width n, c.isDigit = true := by
  intro c mem
  rcases List.mem_append.mp mem with zero | digit
  · rw [List.eq_of_mem_replicate zero]
    rfl
  · exact Text.isDigit_toDigits digit

theorem numberOf_zeros (count : Nat) (digits : List Char) :
    numberOf (List.replicate count '0' ++ digits) = numberOf digits := by
  induction count with
  | zero => rfl
  | succ count ih => exact ih

theorem numberOf_padded (width n : Nat) : numberOf (padded width n) = n :=
  (numberOf_zeros _ _).trans (Nat.ofDigitChars_toDigits (by decide) (by decide))

theorem padded_ne_nil (width n : Nat) : padded width n ≠ [] :=
  List.append_ne_nil_of_right_ne_nil _ Nat.toDigits_ne_nil

theorem padded_begins (width n : Nat) :
    ∃ c rest, padded width n = c :: rest ∧ c.isDigit = true := by
  obtain ⟨c, rest, written⟩ := List.exists_cons_of_ne_nil (padded_ne_nil width n)
  exact ⟨c, rest, written, isDigit_padded c (written ▸ List.mem_cons_self)⟩

theorem length_padded {width n : Nat} (positive : 0 < width) (small : n < 10 ^ width) :
    (padded width n).length = width := by
  have short : (Nat.toDigits 10 n).length ≤ width :=
    (Nat.length_toDigits_le_iff (by decide) positive).mpr small
  simp only [padded, List.length_append, List.length_replicate]
  omega

theorem spanNumber_padded {most width n : Nat} {tail : List Char}
    (fits : (padded width n).length ≤ most) (ends : EndsDigits tail) :
    spanNumber most (padded width n ++ tail) = some (n, tail) := by
  have spanned : ((padded width n ++ tail).takeWhile Char.isDigit).take most = padded width n := by
    rw [takeWhile_digits isDigit_padded ends, List.take_of_length_le fits]
  have notEmpty : (padded width n).isEmpty ≠ true := by simp [padded_ne_nil]
  rw [spanNumber, spanned, if_neg notEmpty, numberOf_padded, List.drop_left]

/-! ## Parts of a text -/

theorem trimStart_padded (width n : Nat) (tail : List Char) :
    trimStart (padded width n ++ tail) = padded width n ++ tail := by
  obtain ⟨c, rest, written, digit⟩ := padded_begins width n
  rw [written, List.cons_append, trimStart_cons (isBlank_digit digit)]

theorem spanMark_cons (mark : Char) (black : isBlank mark = false) (rest : List Char) :
    spanMark mark (mark :: rest) = some rest := by
  rw [spanMark, trimStart_cons black]
  exact if_pos rfl

theorem spanPair_padded {n : Nat} (small : n < 100) {tail : List Char} (ends : EndsDigits tail) :
    spanPair (padded 2 n ++ tail) = some (n, tail) := by
  rw [spanPair, trimStart_padded,
    spanNumber_padded (Nat.le_of_eq (length_padded (by decide) small)) ends]

theorem yearChars_begins (year : Int) :
    ∃ c rest, yearChars year = c :: rest ∧ isBlank c = false := by
  rw [yearChars]
  split
  · obtain ⟨c, rest, written, digit⟩ := padded_begins 4 year.toNat
    exact ⟨c, rest, written, isBlank_digit digit⟩
  · refine ⟨_, _, rfl, ?_⟩
    split <;> rfl

theorem spanYear_yearChars (year : Int) {tail : List Char} (ends : EndsDigits tail) :
    spanYear (yearChars year ++ tail) = some (year, tail) := by
  rw [yearChars]
  split
  · next plain =>
      have spanned : spanNumber 4 (padded 4 year.toNat ++ tail) = some (year.toNat, tail) :=
        spanNumber_padded (Nat.le_of_eq (length_padded (by decide) (by omega))) ends
      obtain ⟨c, rest, written, digit⟩ := padded_begins 4 year.toNat
      have value : (year.toNat : Int) = year := by omega
      rw [written, List.cons_append] at spanned ⊢
      rw [spanYear]
      · simp only [spanned, Option.map_some, value]
      · rintro rest' ⟨⟩
        cases digit
      · rintro rest' ⟨⟩
        cases digit
  · next marked =>
      have spanned : spanNumber (padded 4 year.natAbs ++ tail).length
          (padded 4 year.natAbs ++ tail) = some (year.natAbs, tail) :=
        spanNumber_padded (by simp) ends
      split
      · next negative =>
          have value : -(year.natAbs : Int) = year := by omega
          simp only [List.cons_append, spanYear, spanned, Option.map_some, value]
      · next positive =>
          have value : (year.natAbs : Int) = year := by omega
          simp only [List.cons_append, spanYear, spanned, Option.map_some, value]

/-- The places of a second are three, six or nine digits. -/
theorem spanFraction_padded {width n : Nat} (positive : 0 < width) (few : width ≤ 9)
    (small : n < 10 ^ width) {tail : List Char} (ends : EndsDigits tail) :
    spanFraction ('.' :: padded width n ++ tail) = some (n * 10 ^ (9 - width), tail) := by
  have length := length_padded positive small
  have notEmpty : (padded width n).isEmpty ≠ true := by simp [padded_ne_nil]
  rw [List.cons_append, spanFraction, takeWhile_digits isDigit_padded ends,
    dropWhile_digits isDigit_padded ends, if_neg notEmpty,
    List.take_of_length_le (by omega)]
  simp only [numberOf_padded, length]
  rfl

theorem spanFraction_fractionChars {nanos : Nat} (small : nanos < 1000000000) {tail : List Char}
    (ends : EndsDigits tail) (noPoint : tail.head? ≠ some '.') :
    spanFraction (fractionChars nanos ++ tail) = some (nanos, tail) := by
  rw [fractionChars]
  split
  · next whole =>
      subst whole
      rw [List.nil_append, spanFraction]
      rintro rest rfl
      exact noPoint rfl
  · split
    · next millis =>
        rw [spanFraction_padded (by decide) (by decide) (by omega) ends]
        have exact : nanos / 1000000 * 10 ^ (9 - 3) = nanos := by omega
        rw [exact]
    · split
      · next micros =>
          rw [spanFraction_padded (by decide) (by decide) (by omega) ends]
          have exact : nanos / 1000 * 10 ^ (9 - 6) = nanos := by omega
          rw [exact]
      · rw [spanFraction_padded (by decide) (by decide) (by omega) ends]
        have exact : nanos * 10 ^ (9 - 9) = nanos := by omega
        rw [exact]

/-! ## Instants -/

/-- An instant that a date and a time of day name: its year is one that the calendar reaches, and
leap time follows only the last second of a minute. -/
structure IsProper (instant : Instant) : Prop where
  year : inRange (Date.ofDays (instant.seconds.fdiv 86400)).year = true
  nanos : instant.nanos < 1000000000 ∨
    instant.seconds.fmod 60 = 59 ∧ instant.nanos < 2000000000

/-- A day and a clock are put together again; second 60 is leap time. -/
theorem ofParts_clock {day : Int} {time second nanos places : Nat} (within : time < 86400)
    (inYear : inRange (Date.ofDays day).year = true) (atMost : second ≤ 60)
    (shown : (if second = 60 then 59 else second) = time % 60)
    (shown' : (if second = 60 then nanos + 1000000000 else nanos) = places) :
    ofParts (Date.ofDays day) (time / 3600) (time / 60 % 60) second nanos 0 =
      some ⟨day * 86400 + time, places⟩ := by
  obtain ⟨toDays, valid⟩ := Date.ofDays_spec day
  have hour : time / 3600 < 24 := by omega
  have minute : time / 60 % 60 < 60 := by omega
  have clock : time / 3600 * 3600 + time / 60 % 60 * 60 + time % 60 = time := by omega
  have sameDay : (day * 86400 + (time : Int)).fdiv 86400 = day := by
    rw [Int.fdiv_eq_ediv_of_nonneg _ (by decide)]
    omega
  simp [ofParts, valid, inYear, hour, minute, atMost, shown, shown', toDays, clock, sameDay]

theorem spanDate_written {date : Date} (month : date.month < 100) (day : date.day < 100)
    {tail : List Char} (ends : EndsDigits tail) :
    spanDate (yearChars date.year ++ '-' :: (padded 2 date.month ++ '-' ::
      (padded 2 date.day ++ tail))) = some (date, tail) := by
  obtain ⟨c, rest, begins, black⟩ := yearChars_begins date.year
  have start (others : List Char) :
      trimStart (yearChars date.year ++ others) = yearChars date.year ++ others := by
    rw [begins, List.cons_append, trimStart_cons black]
  have dash (others : List Char) : EndsDigits ('-' :: others) := endsDigits_cons rfl others
  simp [spanDate, start, spanYear_yearChars date.year (dash _), spanMark_cons '-' rfl,
    spanPair_padded month (dash _), spanPair_padded day ends]

def zoneChars : Zone → List Char
  | .zulu => ['Z']
  | .offset => ['+', '0', '0', ':', '0', '0']

theorem endsDigits_fraction (nanos : Nat) {tail : List Char} (ends : EndsDigits tail) :
    EndsDigits (fractionChars nanos ++ tail) := by
  rw [fractionChars]
  split
  · exact ends
  · split
    · exact endsDigits_cons rfl _
    · split <;> exact endsDigits_cons rfl _

theorem parseChars_written {date : Date} (month : date.month < 100) (day : date.day < 100)
    {hour minute second nanos : Nat} (hours : hour < 100) (minutes : minute < 100)
    (seconds : second < 100) (small : nanos < 1000000000) (zone : Zone) :
    parseChars (yearChars date.year ++ '-' :: (padded 2 date.month ++ '-' ::
      (padded 2 date.day ++ 'T' :: (padded 2 hour ++ ':' :: (padded 2 minute ++ ':' ::
        (padded 2 second ++ (fractionChars nanos ++ zoneChars zone))))))) =
      ofParts date hour minute second nanos 0 := by
  have colon (others : List Char) : EndsDigits (':' :: others) := endsDigits_cons rfl others
  have zoned : EndsDigits (zoneChars zone) ∧ (zoneChars zone).head? ≠ some '.' ∧
      spanOffset (trimStart (zoneChars zone)) = some (0, []) := by
    cases zone with
    | zulu => exact ⟨endsDigits_cons rfl _, by decide, rfl⟩
    | offset => exact ⟨endsDigits_cons rfl _, by decide, rfl⟩
  obtain ⟨ends, noPoint, offset⟩ := zoned
  simp [parseChars, spanDate_written month day (endsDigits_cons (c := 'T') rfl _),
    spanMark_cons ':' rfl, spanPair_padded hours (colon _),
    spanPair_padded minutes (colon _), spanPair_padded seconds (endsDigits_fraction nanos ends),
    spanFraction_fractionChars small ends noPoint, offset, show trimStart [] = [] from rfl]

/-- The second that an instant shows, and its nanoseconds; leap time shows as second 60. -/
def shown (instant : Instant) (time : Nat) : Nat × Nat :=
  if 1000000000 ≤ instant.nanos then (time % 60 + 1, instant.nanos - 1000000000)
  else (time % 60, instant.nanos)

theorem chars_eq (instant : Instant) (zone : Zone) :
    let date := Date.ofDays (instant.seconds.fdiv 86400)
    let time := (instant.seconds.fmod 86400).toNat
    instant.chars zone =
      yearChars date.year ++ '-' :: (padded 2 date.month ++ '-' ::
        (padded 2 date.day ++ 'T' :: (padded 2 (time / 3600) ++ ':' ::
          (padded 2 (time / 60 % 60) ++ ':' :: (padded 2 (instant.shown time).1 ++
            (fractionChars (instant.shown time).2 ++ zoneChars zone)))))) := by
  unfold shown
  by_cases leap : 1000000000 ≤ instant.nanos
  · cases zone <;> simp [chars, zoneChars, leap]
  · cases zone <;> simp [chars, zoneChars, leap]

theorem shown_spec (instant : Instant) (time : Nat)
    (proper : instant.nanos < 1000000000 ∨ time % 60 = 59 ∧ instant.nanos < 2000000000) :
    (instant.shown time).1 ≤ 60 ∧ (instant.shown time).2 < 1000000000 ∧
      (if (instant.shown time).1 = 60 then 59 else (instant.shown time).1) = time % 60 ∧
      (if (instant.shown time).1 = 60 then (instant.shown time).2 + 1000000000
        else (instant.shown time).2) = instant.nanos := by
  unfold shown
  by_cases leap : 1000000000 ≤ instant.nanos
  · rw [if_pos leap]
    have last : time % 60 + 1 = 60 := by omega
    simp only [if_pos last]
    omega
  · rw [if_neg leap]
    have regular : time % 60 ≠ 60 := by omega
    simp only [if_neg regular]
    exact ⟨by omega, by omega, trivial, trivial⟩

theorem parseChars_chars {instant : Instant} (proper : instant.IsProper) (zone : Zone) :
    parseChars (instant.chars zone) = some instant := by
  obtain ⟨inYear, inSecond⟩ := proper
  obtain ⟨month, day⟩ := Date.le_of_isValid (Date.ofDays_spec (instant.seconds.fdiv 86400)).2
  obtain ⟨time, timed⟩ : ∃ time, (instant.seconds.fmod 86400).toNat = time := ⟨_, rfl⟩
  have parts : time < 86400 ∧ instant.seconds = instant.seconds.fdiv 86400 * 86400 + time ∧
      instant.seconds.fmod 60 = (time % 60 : Nat) := by
    rw [Int.fmod_eq_emod_of_nonneg _ (by decide)] at timed
    rw [Int.fmod_eq_emod_of_nonneg _ (by decide), Int.fdiv_eq_ediv_of_nonneg _ (by decide)]
    omega
  obtain ⟨within, whole, minute⟩ := parts
  obtain ⟨atMost, small, second, nanos⟩ := shown_spec instant time (by omega)
  rw [chars_eq, timed,
    parseChars_written (by omega) (by omega) (by omega) (by omega) (by omega) small,
    ofParts_clock within inYear atMost second nanos, ← whole]

theorem parse_text {instant : Instant} (proper : instant.IsProper) (zone : Zone) :
    parse (instant.text zone) = some instant := by
  rw [parse, text, String.toList_ofList, parseChars_chars proper]

theorem read_toJson {instant : Instant} (proper : instant.IsProper) (dialect : Json.Dialect) :
    read dialect instant.toJson = .ok instant := by
  rw [toJson, read, parse_text proper]

/-! ## What texts name -/

theorem foldl_digits_lt {digits : List Char} (allDigits : ∀ c ∈ digits, c.isDigit = true)
    (n : Nat) :
    digits.foldl (fun n c => 10 * n + (c.toNat - 48)) n < (n + 1) * 10 ^ digits.length := by
  induction digits generalizing n with
  | nil => simp
  | cons c rest ih =>
      obtain ⟨digit, digits⟩ := List.forall_mem_cons.mp allDigits
      simp only [Char.isDigit, Bool.and_eq_true, decide_eq_true_eq] at digit
      have high : c.toNat ≤ 57 := digit.2
      rw [List.foldl_cons, List.length_cons]
      calc _ < (10 * n + (c.toNat - 48) + 1) * 10 ^ rest.length := ih digits _
        _ ≤ ((n + 1) * 10) * 10 ^ rest.length := Nat.mul_le_mul_right _ (by omega)
        _ = (n + 1) * 10 ^ (rest.length + 1) := by rw [Nat.pow_succ', Nat.mul_assoc]

theorem numberOf_lt {digits : List Char} (allDigits : ∀ c ∈ digits, c.isDigit = true) :
    numberOf digits < 10 ^ digits.length := by
  have bound := foldl_digits_lt allDigits 0
  rwa [Nat.zero_add, Nat.one_mul] at bound

theorem spanFraction_lt {cs rest : List Char} {nanos : Nat}
    (spanned : spanFraction cs = some (nanos, rest)) : nanos < 1000000000 := by
  unfold spanFraction at spanned
  split at spanned
  · next others =>
      simp only [Option.ite_none_left_eq_some, Option.some.injEq, Prod.mk.injEq] at spanned
      obtain ⟨-, rfl, -⟩ := spanned
      generalize kept : (others.takeWhile Char.isDigit).take 9 = digits
      have allDigits : ∀ c ∈ digits, c.isDigit = true := by
        intro c mem
        rw [← kept] at mem
        exact List.all_eq_true.mp List.all_takeWhile c (List.mem_of_mem_take mem)
      have few : digits.length ≤ 9 := by
        rw [← kept]
        exact List.length_take_le _ _
      calc numberOf digits * 10 ^ (9 - digits.length)
          < 10 ^ digits.length * 10 ^ (9 - digits.length) :=
            Nat.mul_lt_mul_of_pos_right (numberOf_lt allDigits) (Nat.pow_pos (by decide))
        _ = 10 ^ 9 := by rw [← Nat.pow_add, Nat.add_sub_cancel' few]
  · cases spanned
    decide

theorem spanOffset_minutes {cs rest : List Char} {offset : Int}
    (spanned : spanOffset cs = some (offset, rest)) : 60 ∣ offset := by
  unfold spanOffset at spanned
  split at spanned
  · cases spanned
    exact ⟨0, rfl⟩
  · cases spanned
    exact ⟨0, rfl⟩
  · split at spanned
    · cases spanned
      exact ⟨0, rfl⟩
    · split at spanned
      · simp only [Option.bind_eq_bind, Option.bind_none, Option.ite_none_left_eq_some] at spanned
        obtain ⟨-, spanned⟩ := spanned
        split at spanned
        · simp only [Option.ite_none_left_eq_some, Option.some.injEq, Prod.mk.injEq] at spanned
          obtain ⟨-, -, rfl, -⟩ := spanned
          split <;> omega
        · cases spanned
      · cases spanned
  · cases spanned

theorem ofParts_isProper {date : Date} {hour minute second nanos : Nat} {offset : Int}
    {instant : Instant} (small : nanos < 1000000000) (minutes : 60 ∣ offset)
    (named : ofParts date hour minute second nanos offset = some instant) : instant.IsProper := by
  simp only [ofParts, Option.ite_none_right_eq_some, Option.some.injEq] at named
  obtain ⟨-, inYear, rfl⟩ := named
  refine ⟨inYear, ?_⟩
  obtain ⟨count, rfl⟩ := minutes
  by_cases leap : second = 60
  · right
    simp only [if_pos leap]
    rw [Int.fmod_eq_emod_of_nonneg _ (by decide)]
    omega
  · left
    simpa only [if_neg leap] using small

theorem parse_isProper {text : String} {instant : Instant} (named : parse text = some instant) :
    instant.IsProper := by
  unfold parse parseChars at named
  simp only [Option.bind_eq_bind, Option.bind_eq_some_iff] at named
  obtain ⟨⟨date, cs⟩, -, named⟩ := named
  dsimp only at named
  cases cs with
  | nil => cases named
  | cons c others =>
      simp only [Option.bind_none, Option.ite_none_left_eq_some, Option.bind_eq_some_iff,
        Option.ite_none_right_eq_some] at named
      obtain ⟨-, hour, -, rest, -, minute, -, rest', -, second, -, ⟨nanos, after⟩, spanned,
        ⟨offset, after'⟩, spanned', -, parts⟩ := named
      exact ofParts_isProper (spanFraction_lt spanned) (spanOffset_minutes spanned') parts

/-- The proper instants are those that texts name. -/
theorem isProper_iff (instant : Instant) :
    instant.IsProper ↔ ∃ text, parse text = some instant := by
  constructor
  · intro proper
    exact ⟨_, parse_text proper .zulu⟩
  · rintro ⟨text, named⟩
    exact parse_isProper named

end DecisionPoint.Instant
