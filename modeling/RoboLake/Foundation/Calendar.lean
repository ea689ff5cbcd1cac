import Mathlib

/-! # Times of the Gregorian calendar

Days and microseconds are counted from the first day of year 1, as if the calendar had
always been in use. A time is written in fields of fixed width, in UTC, and what was
written so reads back as the same time.
-/

namespace Foundation

/-! ## Fields of fixed width -/

def padded : Nat → Nat → List Char
  | 0, _ => []
  | width + 1, n => padded width (n / 10) ++ [(n % 10).digitChar]

def readPadded (width : Nat) (cs : List Char) : Option (Nat × List Char) :=
  if (cs.take width).length = width ∧ (cs.take width).all Char.isDigit = true then
    some (Nat.ofDigitChars 10 (cs.take width) 0, cs.drop width)
  else none

def readChar (c : Char) : List Char → Option (List Char)
  | [] => none
  | d :: cs => if d = c then some cs else none

theorem length_padded (width n : Nat) : (padded width n).length = width := by
  induction width generalizing n with
  | zero => rfl
  | succ width ih => rw [padded, List.length_append, ih, List.length_singleton]

theorem isDigit_padded (width n : Nat) : (padded width n).all Char.isDigit = true := by
  induction width generalizing n with
  | zero => rfl
  | succ width ih =>
      have hlast : (n % 10).digitChar.isDigit = true := by
        rw [Nat.isDigit_digitChar]
        exact decide_eq_true (Nat.mod_lt n (by decide))
      simp [padded, ih, hlast]

theorem ofDigitChars_padded {width n : Nat} (h : n < 10 ^ width) :
    Nat.ofDigitChars 10 (padded width n) 0 = n := by
  induction width generalizing n with
  | zero => simp_all [padded]
  | succ width ih =>
      have hhigh : n / 10 < 10 ^ width := by
        rw [pow_succ] at h
        omega
      have hlow : n % 10 < 10 := Nat.mod_lt n (by decide)
      rw [padded, Nat.ofDigitChars_append, ih hhigh, Nat.ofDigitChars_cons_digitChar_of_lt_ten hlow,
        Nat.ofDigitChars_nil]
      omega

theorem readPadded_padded {width n : Nat} (h : n < 10 ^ width) (rest : List Char) :
    readPadded width (padded width n ++ rest) = some (n, rest) := by
  have htake : (padded width n ++ rest).take width = padded width n := by
    rw [List.take_append_of_le_length (length_padded width n).ge, List.take_of_length_le
      (length_padded width n).le]
  have hdrop : (padded width n ++ rest).drop width = rest := by
    rw [List.drop_append_of_le_length (length_padded width n).ge, List.drop_of_length_le
      (length_padded width n).le, List.nil_append]
  rw [readPadded, htake, hdrop, if_pos ⟨length_padded width n, isDigit_padded width n⟩,
    ofDigitChars_padded h]

theorem readChar_cons (c : Char) (cs : List Char) : readChar c (c :: cs) = some cs := if_pos rfl

/-! ## Years -/

def isLeap (year : Nat) : Bool := year % 4 == 0 && (year % 100 != 0 || year % 400 == 0)

def daysBeforeYear (year : Nat) : Nat :=
  (year - 1) * 365 + (year - 1) / 4 - (year - 1) / 100 + (year - 1) / 400

/-- The year of a day, by whole periods of 400, 100 and 4 years and single years. -/
def yearOfDays (days : Nat) : Nat :=
  let centuries := min (days % 146097 / 36524) 3
  let rest := days % 146097 - centuries * 36524
  days / 146097 * 400 + centuries * 100 + rest / 1461 * 4 + min (rest % 1461 / 365) 3 + 1

def monthLengths (year : Nat) : List Nat :=
  [31, if isLeap year then 29 else 28, 31, 30, 31, 30, 31, 31, 30, 31, 30, 31]

theorem yearOfDays_pos (days : Nat) : 0 < yearOfDays days := Nat.succ_pos _

/-- A year counts `a` times 400, `b` times 100 and `c` times 4 years and `d` single ones. -/
theorem daysBeforeYear_periods {a b c d : Nat} (hb : b ≤ 3) (hc : c ≤ 24) (hd : d ≤ 3) :
    daysBeforeYear (a * 400 + b * 100 + c * 4 + d + 1) =
      a * 146097 + b * 36524 + c * 1461 + d * 365 := by
  have hfours : (a * 400 + b * 100 + c * 4 + d) / 4 = a * 100 + b * 25 + c := by omega
  have hcenturies : (a * 400 + b * 100 + c * 4 + d) / 100 = a * 4 + b := by omega
  have hlong : (a * 400 + b * 100 + c * 4 + d) / 400 = a := by omega
  rw [daysBeforeYear, Nat.add_sub_cancel, hfours, hcenturies, hlong]
  omega

theorem isLeap_periods {a b c d : Nat} (hb : b ≤ 3) (hc : c ≤ 24) (hd : d ≤ 3) :
    isLeap (a * 400 + b * 100 + c * 4 + d + 1) = true ↔ d = 3 ∧ (c ≠ 24 ∨ b = 3) := by
  simp only [isLeap, Bool.and_eq_true, Bool.or_eq_true, beq_iff_eq, bne_iff_ne]
  omega

theorem sum_monthLengths (year : Nat) :
    (monthLengths year).sum = if isLeap year = true then 366 else 365 := by
  unfold monthLengths
  split <;> rfl

theorem daysBeforeYear_yearOfDays (days : Nat) : ∃ rest, days = daysBeforeYear (yearOfDays days) +
    rest ∧ rest < (monthLengths (yearOfDays days)).sum := by
  have hcycle : days % 146097 < 146097 := Nat.mod_lt _ (by decide)
  obtain ⟨a, ha⟩ : ∃ a, a = days / 146097 := ⟨_, rfl⟩
  obtain ⟨x, hx⟩ : ∃ x, x = days % 146097 := ⟨_, rfl⟩
  obtain ⟨b, hb⟩ : ∃ b, b = min (x / 36524) 3 := ⟨_, rfl⟩
  obtain ⟨c, hc⟩ : ∃ c, c = (x - b * 36524) / 1461 := ⟨_, rfl⟩
  obtain ⟨y, hy⟩ : ∃ y, y = (x - b * 36524) % 1461 := ⟨_, rfl⟩
  obtain ⟨d, hd⟩ : ∃ d, d = min (y / 365) 3 := ⟨_, rfl⟩
  have hyear : yearOfDays days = a * 400 + b * 100 + c * 4 + d + 1 := by
    simp only [yearOfDays]
    rw [← hx, ← ha, ← hb, ← hc, ← hy, ← hd]
  have hb3 : b ≤ 3 := by omega
  have hxb : x - b * 36524 ≤ 36524 ∧ (b < 3 → x - b * 36524 < 36524) ∧ b * 36524 ≤ x := by omega
  have hc24 : c ≤ 24 := by omega
  have hd3 : d ≤ 3 := by omega
  have hsplit : days = a * 146097 + b * 36524 + c * 1461 + y := by omega
  have hyd : d * 365 ≤ y ∧ y - d * 365 ≤ 365 := by omega
  refine ⟨y - d * 365, ?_, ?_⟩
  · rw [hyear, daysBeforeYear_periods hb3 hc24 hd3, hsplit, Nat.add_assoc _ (d * 365),
      Nat.add_sub_cancel' hyd.1]
  · rw [sum_monthLengths]
    split
    · omega
    · rename_i hcommon
      have hshort : y - d * 365 ≠ 365 := by
        intro hlast
        rw [hyear] at hcommon
        exact hcommon ((isLeap_periods hb3 hc24 hd3).mpr (by omega))
      omega

/-! ## Dates -/

structure Date where
  year : Nat
  month : Nat
  day : Nat

/-- The whole months that have passed of a year, and the days of the next one. -/
def splitDays : List Nat → Nat → Nat × Nat
  | [], rest => (0, rest)
  | length :: lengths, rest =>
      if rest < length then (0, rest)
      else ((splitDays lengths (rest - length)).1 + 1, (splitDays lengths (rest - length)).2)

namespace Date

def ofDays (days : Nat) : Date :=
  let parts := splitDays (monthLengths (yearOfDays days)) (days - daysBeforeYear (yearOfDays days))
  ⟨yearOfDays days, parts.1 + 1, parts.2 + 1⟩

def days (date : Date) : Nat :=
  daysBeforeYear date.year + ((monthLengths date.year).take (date.month - 1)).sum + (date.day - 1)

def isValid (date : Date) : Bool :=
  0 < date.year && 0 < date.month && 0 < date.day &&
    (monthLengths date.year)[date.month - 1]?.any fun length => date.day ≤ length

end Date

theorem splitDays_spec {lengths : List Nat} {rest : Nat} (h : rest < lengths.sum) :
    (lengths.take (splitDays lengths rest).1).sum + (splitDays lengths rest).2 = rest ∧
      ∃ length, lengths[(splitDays lengths rest).1]? = some length ∧
        (splitDays lengths rest).2 < length := by
  induction lengths generalizing rest with
  | nil => exact absurd h (Nat.not_lt_zero rest)
  | cons length lengths ih =>
      unfold splitDays
      by_cases hin : rest < length
      · rw [if_pos hin]
        exact ⟨Nat.zero_add rest, length, rfl, hin⟩
      · rw [if_neg hin]
        rw [List.sum_cons] at h
        obtain ⟨hsum, hmonth⟩ := ih (show rest - length < lengths.sum by omega)
        refine ⟨?_, hmonth⟩
        rw [List.take_succ_cons, List.sum_cons]
        omega

theorem Date.isValid_ofDays (days : Nat) : (Date.ofDays days).isValid = true := by
  obtain ⟨rest, hdays, hrest⟩ := daysBeforeYear_yearOfDays days
  have hofYear : days - daysBeforeYear (yearOfDays days) = rest := by omega
  obtain ⟨_, length, hlength, hin⟩ := splitDays_spec hrest
  simp only [Date.isValid, Date.ofDays, hofYear, Nat.add_sub_cancel, hlength, Option.any_some,
    Bool.and_eq_true, decide_eq_true_eq]
  exact ⟨⟨⟨yearOfDays_pos days, Nat.succ_pos _⟩, Nat.succ_pos _⟩, hin⟩

theorem Date.days_ofDays (days : Nat) : (Date.ofDays days).days = days := by
  obtain ⟨rest, hdays, hrest⟩ := daysBeforeYear_yearOfDays days
  have hofYear : days - daysBeforeYear (yearOfDays days) = rest := by omega
  have hsplit := (splitDays_spec hrest).1
  simp only [Date.days, Date.ofDays, hofYear, Nat.add_sub_cancel]
  omega

theorem Date.length_months {date : Date} (h : date.isValid = true) :
    date.month ≤ 12 ∧ date.day ≤ 31 := by
  simp only [Date.isValid, Bool.and_eq_true, decide_eq_true_eq, Option.any_eq_true] at h
  obtain ⟨⟨⟨_, hmonth⟩, _⟩, length, hlength, hday⟩ := h
  have hindex := (List.getElem?_eq_some_iff.mp hlength).1
  have hmem := List.mem_of_getElem? hlength
  have hlong : ∀ l ∈ monthLengths date.year, l ≤ 31 := by
    unfold monthLengths
    split <;> decide
  have hcount : (monthLengths date.year).length = 12 := rfl
  have hshort := hlong length hmem
  omega

/-! ## Texts -/

def utcOffset : List Char := ['+', '0', '0', ':', '0', '0']

/-- A fraction of a second, which stands only where it is not zero. -/
def fraction (microsecond : Nat) : List Char :=
  if microsecond = 0 then [] else '.' :: padded 6 microsecond

def readFraction : List Char → Option (Nat × List Char)
  | '.' :: cs => readPadded 6 cs
  | cs => some (0, cs)

def Date.text (date : Date) : List Char :=
  padded 4 date.year ++ '-' :: (padded 2 date.month ++ '-' :: padded 2 date.day)

def readDate (cs : List Char) : Option (Date × List Char) := do
  let (year, cs) ← readPadded 4 cs
  let (month, cs) ← readPadded 2 (← readChar '-' cs)
  let (day, cs) ← readPadded 2 (← readChar '-' cs)
  let date : Date := ⟨year, month, day⟩
  if date.isValid = true then some (date, cs) else none

def clockText (second : Nat) : List Char :=
  padded 2 (second / 3600) ++ ':' :: (padded 2 (second / 60 % 60) ++ ':' :: padded 2 (second % 60))

def readClock (cs : List Char) : Option (Nat × List Char) := do
  let (hour, cs) ← readPadded 2 cs
  let (minute, cs) ← readPadded 2 (← readChar ':' cs)
  let (second, cs) ← readPadded 2 (← readChar ':' cs)
  if hour < 24 ∧ minute < 60 ∧ second < 60 then some ((hour * 60 + minute) * 60 + second, cs)
  else none

def isoformat (time : Nat) : List Char :=
  (Date.ofDays (time / 86400000000)).text ++ 'T' :: (clockText (time / 1000000 % 86400) ++
    (fraction (time % 1000000) ++ utcOffset))

def fromisoformat (cs : List Char) : Option Nat := do
  let (date, cs) ← readDate cs
  let (second, cs) ← readClock (← readChar 'T' cs)
  let (microsecond, cs) ← readFraction cs
  if cs = utcOffset then some ((date.days * 86400 + second) * 1000000 + microsecond) else none

theorem readFraction_fraction {microsecond : Nat} (h : microsecond < 1000000) :
    readFraction (fraction microsecond ++ utcOffset) = some (microsecond, utcOffset) := by
  unfold fraction
  by_cases hzero : microsecond = 0
  · rw [if_pos hzero, hzero]
    rfl
  · rw [if_neg hzero, List.cons_append, readFraction, readPadded_padded (by omega)]

theorem yearOfDays_lt {days : Nat} (h : days < 3652059) : yearOfDays days < 10000 := by
  by_contra hlate
  obtain ⟨rest, hdays, _⟩ := daysBeforeYear_yearOfDays days
  unfold daysBeforeYear at hdays
  omega

theorem readDate_text {date : Date} (hvalid : date.isValid = true) (hyear : date.year < 10000)
    (rest : List Char) : readDate (date.text ++ rest) = some (date, rest) := by
  obtain ⟨hmonth, hday⟩ := Date.length_months hvalid
  simp only [readDate, Date.text, List.append_assoc, List.cons_append,
    readPadded_padded (show date.year < 10 ^ 4 from hyear), readChar_cons,
    readPadded_padded (show date.month < 10 ^ 2 by omega),
    readPadded_padded (show date.day < 10 ^ 2 by omega), Option.bind_eq_bind, Option.bind_some]
  exact if_pos hvalid

theorem readClock_clockText {second : Nat} (h : second < 86400) (rest : List Char) :
    readClock (clockText second ++ rest) = some (second, rest) := by
  simp only [readClock, clockText, List.append_assoc, List.cons_append, readChar_cons,
    readPadded_padded (show second / 3600 < 10 ^ 2 by omega),
    readPadded_padded (show second / 60 % 60 < 10 ^ 2 by omega),
    readPadded_padded (show second % 60 < 10 ^ 2 by omega), Option.bind_eq_bind, Option.bind_some]
  rw [if_pos (by omega)]
  congr 2
  omega

/-- What was written of a time in these years reads back as it. -/
theorem fromisoformat_isoformat {time : Nat} (h : time < 3652059 * 86400000000) :
    fromisoformat (isoformat time) = some time := by
  have hyear : yearOfDays (time / 86400000000) < 10000 :=
    yearOfDays_lt (Nat.div_lt_of_lt_mul (by omega))
  simp only [fromisoformat, isoformat, readDate_text (Date.isValid_ofDays _) hyear, readChar_cons,
    readClock_clockText (Nat.mod_lt _ (by decide : 0 < 86400)),
    readFraction_fraction (Nat.mod_lt _ (by decide)), Option.bind_eq_bind, Option.bind_some]
  rw [if_pos trivial, Date.days_ofDays]
  congr 1
  omega

end Foundation
