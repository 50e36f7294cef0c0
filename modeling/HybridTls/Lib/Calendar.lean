import HybridTls.Lib.Decimal
import Mathlib.Data.String.Basic

/-!
# Dates and times as texts

The proleptic Gregorian calendar, as Python's `datetime` counts its days, and the texts that
`isoformat` writes for times in UTC, down to the millisecond.

The days of a date are counted by years, months and days of unequal length. They are counted
in the order of the calendar all the same (`Calendar.Date.ordinal_lt_iff`): a year has room
for its months, and a month for its days. A text has a number of fixed width for each of them,
the greatest first, so texts are in that order too. So times that are compared as texts are
compared as times (`Calendar.DateTime.isoformat_le_iff`), up to the microseconds that the text
does not show.
-/

namespace Calendar

/-! ### Days -/

/-- `_is_leap`. -/
def IsLeap (year : ℕ) : Prop := year % 4 = 0 ∧ (year % 100 ≠ 0 ∨ year % 400 = 0)

instance : DecidablePred IsLeap := fun year =>
  inferInstanceAs (Decidable (year % 4 = 0 ∧ (year % 100 ≠ 0 ∨ year % 400 = 0)))

/-- `_days_before_year`. -/
def daysBeforeYear (year : ℕ) : ℕ :=
  let y := year - 1
  y * 365 + y / 4 - y / 100 + y / 400

/-- `_DAYS_IN_MONTH`. -/
def monthLengths : List ℕ := [31, 28, 31, 30, 31, 30, 31, 31, 30, 31, 30, 31]

/-- `_days_in_month`. -/
def daysInMonth (year month : ℕ) : ℕ :=
  if month = 2 ∧ IsLeap year then 29 else monthLengths.getD (month - 1) 0

/-- `_days_before_month`. -/
def daysBeforeMonth (year month : ℕ) : ℕ :=
  (monthLengths.take (month - 1)).sum + if 2 < month ∧ IsLeap year then 1 else 0

/-- A date. -/
structure Date where
  year : ℕ
  month : ℕ
  day : ℕ
  year_mem : 1 ≤ year ∧ year ≤ 9999
  month_mem : 1 ≤ month ∧ month ≤ 12
  day_mem : 1 ≤ day ∧ day ≤ daysInMonth year month

/-- `_ymd2ord`: the first of January of the year 1 is day 1. -/
def Date.ordinal (d : Date) : ℕ :=
  daysBeforeYear d.year + daysBeforeMonth d.year d.month + d.day

section Days

variable {year year' month month' : ℕ}

/-- A year is as long as it should be. -/
theorem daysBeforeYear_succ (h : 1 ≤ year) : daysBeforeYear (year + 1) =
    daysBeforeYear year + 365 + if IsLeap year then 1 else 0 := by
  obtain ⟨y, rfl⟩ : ∃ y, year = y + 1 := ⟨year - 1, by omega⟩
  -- a year that a number divides is one more of its multiples
  have h4 : (y + 1) / 4 = y / 4 + if (y + 1) % 4 = 0 then 1 else 0 := by split <;> omega
  have h100 : (y + 1) / 100 = y / 100 + if (y + 1) % 100 = 0 then 1 else 0 := by split <;> omega
  have h400 : (y + 1) / 400 = y / 400 + if (y + 1) % 400 = 0 then 1 else 0 := by split <;> omega
  have hle : y / 100 ≤ y / 4 := Nat.div_le_div_left (by decide) (by decide)
  have hmod : (y + 1) % 100 = 0 → (y + 1) % 4 = 0 := by omega
  have hmod' : (y + 1) % 400 = 0 → (y + 1) % 100 = 0 := by omega
  simp only [daysBeforeYear, IsLeap, Nat.add_sub_cancel, h4, h100, h400]
  by_cases hleap : (y + 1) % 4 = 0 <;> by_cases hcentury : (y + 1) % 100 = 0 <;>
    by_cases hfourth : (y + 1) % 400 = 0 <;> simp [hleap, hcentury, hfourth] <;> omega

theorem daysBeforeYear_mono (h : 1 ≤ year) (hle : year ≤ year') :
    daysBeforeYear year ≤ daysBeforeYear year' := by
  induction hle with
  | refl => exact Nat.le_refl _
  | @step k hk ih =>
    rw [daysBeforeYear_succ (h.trans hk)]
    omega

/-- A month follows the one before. -/
theorem daysBeforeMonth_succ (h : 1 ≤ month) (h' : month < 12) :
    daysBeforeMonth year (month + 1) = daysBeforeMonth year month + daysInMonth year month := by
  unfold daysBeforeMonth daysInMonth
  by_cases hleap : IsLeap year <;> interval_cases month <;> simp [hleap, monthLengths]

theorem daysBeforeMonth_mono (h : 1 ≤ month) (hle : month ≤ month') (h' : month' ≤ 12) :
    daysBeforeMonth year month ≤ daysBeforeMonth year month' := by
  induction hle with
  | refl => exact Nat.le_refl _
  | @step k hk ih =>
    rw [daysBeforeMonth_succ (h.trans hk) (by omega)]
    exact (ih (by omega)).trans (Nat.le_add_right _ _)

/-- The months fill the year. -/
theorem daysBeforeMonth_december (year : ℕ) : daysBeforeMonth year 12 + daysInMonth year 12 =
    365 + if IsLeap year then 1 else 0 := by
  unfold daysBeforeMonth daysInMonth
  by_cases hleap : IsLeap year <;> simp [hleap, monthLengths]

theorem daysInMonth_le (year month : ℕ) : daysInMonth year month ≤ 31 := by
  have hlengths : ∀ n ∈ monthLengths, n ≤ 31 := by decide
  unfold daysInMonth
  split
  · decide
  · rw [List.getD_eq_getElem?_getD]
    cases hn : monthLengths[month - 1]? with
    | none => exact Nat.zero_le _
    | some n => exact hlengths n (List.mem_of_getElem? hn)

end Days

section Date

variable {d d' : Date}

/-- A date, the greatest part first. -/
def Date.fields (d : Date) : List ℕ := [d.year, d.month, d.day]

/-- A date is not later than the last day of its month. -/
theorem Date.day_le (d : Date) : daysBeforeMonth d.year d.month + d.day ≤
    daysBeforeMonth d.year d.month + daysInMonth d.year d.month :=
  Nat.add_le_add_left d.day_mem.2 _

/-- The months of a year come one after the other. -/
theorem Date.day_lt_of_month_lt (hyear : d.year = d'.year) (h : d.month < d'.month) :
    daysBeforeMonth d.year d.month + d.day < daysBeforeMonth d'.year d'.month + d'.day := by
  have hsucc : daysBeforeMonth d.year (d.month + 1) =
      daysBeforeMonth d.year d.month + daysInMonth d.year d.month :=
    daysBeforeMonth_succ d.month_mem.1 (h.trans_le d'.month_mem.2)
  have hmono : daysBeforeMonth d.year (d.month + 1) ≤ daysBeforeMonth d.year d'.month :=
    daysBeforeMonth_mono (Nat.le_add_left 1 _) (Nat.succ_le_of_lt h) d'.month_mem.2
  have hle := d.day_le
  have hday := d'.day_mem.1
  rw [← hyear]
  omega

/-- **A date comes before the next year.** -/
theorem Date.ordinal_le (d : Date) : d.ordinal ≤ daysBeforeYear (d.year + 1) := by
  have hle := d.day_le
  have hdecember := daysBeforeMonth_december d.year
  have hmonth : daysBeforeMonth d.year d.month + daysInMonth d.year d.month ≤
      daysBeforeMonth d.year 12 + daysInMonth d.year 12 := by
    rcases Nat.lt_or_ge d.month 12 with h | h
    · rw [← daysBeforeMonth_succ d.month_mem.1 h]
      exact (daysBeforeMonth_mono (Nat.le_add_left 1 _) h (Nat.le_refl _)).trans
        (Nat.le_add_right _ _)
    · rw [Nat.le_antisymm d.month_mem.2 h]
  rw [ordinal, daysBeforeYear_succ d.year_mem.1]
  omega

theorem Date.ordinal_lt_of_fields_lt (h : d.fields < d'.fields) : d.ordinal < d'.ordinal := by
  simp only [fields, List.cons_lt_cons_iff, List.not_lt_nil, and_false, or_false] at h
  rcases h with hyear | ⟨hyear, hmonth | ⟨hmonth, hday⟩⟩
  · -- the next year has begun
    have hle := d.ordinal_le
    have hmono := daysBeforeYear_mono (Nat.le_add_left 1 _) (Nat.succ_le_of_lt hyear)
    have hday := d'.day_mem.1
    rw [ordinal.eq_def d']
    omega
  · have hlt := day_lt_of_month_lt hyear hmonth
    rw [ordinal, ordinal, hyear] at *
    omega
  · rw [ordinal, ordinal, hyear, hmonth]
    omega

/-- **The days are counted in the order of the calendar.** -/
theorem Date.ordinal_lt_iff : d.ordinal < d'.ordinal ↔ d.fields < d'.fields := by
  refine ⟨fun h => ?_, ordinal_lt_of_fields_lt⟩
  rcases lt_trichotomy d.fields d'.fields with hlt | heq | hgt
  · exact hlt
  · simp only [fields, List.cons.injEq, and_true] at heq
    rw [ordinal, ordinal, heq.1, heq.2.1, heq.2.2] at h
    exact absurd h (Nat.lt_irrefl _)
  · exact absurd (ordinal_lt_of_fields_lt hgt) (Nat.lt_asymm h)

theorem Date.ordinal_inj : d.ordinal = d'.ordinal ↔ d.fields = d'.fields := by
  constructor
  · intro h
    by_contra hne
    rcases lt_or_gt_of_ne hne with hlt | hgt
    · exact absurd (ordinal_lt_of_fields_lt hlt) h.not_lt
    · exact absurd (ordinal_lt_of_fields_lt hgt) h.not_gt
  · intro h
    simp only [fields, List.cons.injEq, and_true] at h
    rw [ordinal, ordinal, h.1, h.2.1, h.2.2]

end Date

/-! ### Times -/

/-- A time in UTC. -/
structure DateTime extends Date where
  hour : ℕ
  minute : ℕ
  second : ℕ
  microsecond : ℕ
  hour_lt : hour < 24
  minute_lt : minute < 60
  second_lt : second < 60
  microsecond_lt : microsecond < 1000000

namespace DateTime

/-- The microseconds of a time, from the day before the first one on. -/
def microseconds (t : DateTime) : ℕ :=
  (((t.ordinal * 24 + t.hour) * 60 + t.minute) * 60 + t.second) * 1000000 + t.microsecond

/-- The milliseconds of a time that have passed. -/
def milliseconds (t : DateTime) : ℕ := t.microseconds / 1000

/-- The characters of `isoformat(timespec="milliseconds")`. -/
def isoChars (t : DateTime) : List Char :=
  let millisecond := t.microsecond / 1000
  Decimal.padded 4 t.year ++ '-' :: (Decimal.padded 2 t.month ++ '-' ::
    (Decimal.padded 2 t.day ++ 'T' :: (Decimal.padded 2 t.hour ++ ':' ::
      (Decimal.padded 2 t.minute ++ ':' :: (Decimal.padded 2 t.second ++ '.' ::
        (Decimal.padded 3 millisecond ++ '+' :: "00:00".toList))))))

/-- `isoformat(timespec="milliseconds")`. -/
def isoformat (t : DateTime) : String := String.ofList t.isoChars

/-- What a text shows of a time, the greatest part first. -/
def fields (t : DateTime) : List ℕ :=
  [t.year, t.month, t.day, t.hour, t.minute, t.second, t.microsecond / 1000]

section Order

variable {t t' : DateTime}

/-- Behind lists of one length, what follows decides if they are the same. -/
theorem append_lt_append_iff {α : Type} [LinearOrder α] {a b c d : List α}
    (h : a.length = b.length) : a ++ c < b ++ d ↔ a < b ∨ a = b ∧ c < d := by
  induction a generalizing b with
  | nil =>
    obtain rfl := List.length_eq_zero_iff.mp h.symm
    simp
  | cons x a ih =>
    cases b with
    | nil => simp at h
    | cons y b =>
      have hlen : a.length = b.length := by simpa using h
      simp only [List.cons_append, List.cons_lt_cons_iff, ih hlen, List.cons.injEq]
      tauto

/-- The number in front of a text decides, or else what follows it. -/
theorem padded_append_lt_iff {width m n : ℕ} {c : Char} {a b : List Char} (hwidth : 0 < width)
    (hm : m < 10 ^ width) (hn : n < 10 ^ width) :
    Decimal.padded width m ++ c :: a < Decimal.padded width n ++ c :: b ↔
      m < n ∨ m = n ∧ a < b := by
  have hlen := (Decimal.length_padded_eq hwidth hm).trans (Decimal.length_padded_eq hwidth hn).symm
  rw [append_lt_append_iff hlen, Decimal.padded_lt_padded_iff hwidth hm hn,
    (Decimal.padded_injective width).eq_iff, List.cons_lt_cons_iff]
  simp

/-- **Texts compare as what they show.** -/
theorem isoformat_lt_iff_fields : t.isoformat < t'.isoformat ↔ t.fields < t'.fields := by
  have hday : ∀ t : DateTime, t.day < 10 ^ 2 := fun t =>
    (t.day_mem.2.trans (daysInMonth_le _ _)).trans_lt (by decide)
  have hyear : ∀ t : DateTime, t.year < 10 ^ 4 := fun t => t.year_mem.2.trans_lt (by decide)
  have hmonth : ∀ t : DateTime, t.month < 10 ^ 2 := fun t => t.month_mem.2.trans_lt (by decide)
  have hhour : ∀ t : DateTime, t.hour < 10 ^ 2 := fun t => t.hour_lt.trans (by decide)
  have hminute : ∀ t : DateTime, t.minute < 10 ^ 2 := fun t => t.minute_lt.trans (by decide)
  have hsecond : ∀ t : DateTime, t.second < 10 ^ 2 := fun t => t.second_lt.trans (by decide)
  have hmillisecond : ∀ t : DateTime, t.microsecond / 1000 < 10 ^ 3 := fun t => by
    have hlt := t.microsecond_lt
    omega
  rw [isoformat, isoformat, String.lt_iff_toList_lt, String.toList_ofList, String.toList_ofList,
    isoChars, isoChars,
    padded_append_lt_iff (by decide) (hyear t) (hyear t'),
    padded_append_lt_iff (by decide) (hmonth t) (hmonth t'),
    padded_append_lt_iff (by decide) (hday t) (hday t'),
    padded_append_lt_iff (by decide) (hhour t) (hhour t'),
    padded_append_lt_iff (by decide) (hminute t) (hminute t'),
    padded_append_lt_iff (by decide) (hsecond t) (hsecond t'),
    padded_append_lt_iff (by decide) (hmillisecond t) (hmillisecond t')]
  simp only [fields, List.cons_lt_cons_iff, lt_irrefl]

theorem milliseconds_eq (t : DateTime) : t.milliseconds =
    (((t.ordinal * 24 + t.hour) * 60 + t.minute) * 60 + t.second) * 1000 +
      t.microsecond / 1000 := by
  rw [milliseconds, microseconds]
  omega

theorem milliseconds_lt_of_fields_lt (h : t.fields < t'.fields) :
    t.milliseconds < t'.milliseconds := by
  have hsplit : t.fields = t.toDate.fields ++
      [t.hour, t.minute, t.second, t.microsecond / 1000] := rfl
  have hsplit' : t'.fields = t'.toDate.fields ++
      [t'.hour, t'.minute, t'.second, t'.microsecond / 1000] := rfl
  have hhour := t.hour_lt
  have hminute := t.minute_lt
  have hsecond := t.second_lt
  have hmicrosecond := t.microsecond_lt
  have hlen : t.toDate.fields.length = t'.toDate.fields.length := rfl
  rw [hsplit, hsplit', append_lt_append_iff hlen, ← Date.ordinal_lt_iff, ← Date.ordinal_inj] at h
  simp only [List.cons_lt_cons_iff, List.not_lt_nil, and_false, or_false] at h
  rw [milliseconds_eq, milliseconds_eq]
  omega

/-- **Times compare as their texts**, and those that look the same are the same millisecond. -/
theorem isoformat_lt_iff : t.isoformat < t'.isoformat ↔ t.milliseconds < t'.milliseconds := by
  rw [isoformat_lt_iff_fields]
  refine ⟨milliseconds_lt_of_fields_lt, fun h => ?_⟩
  rcases lt_trichotomy t.fields t'.fields with hlt | heq | hgt
  · exact hlt
  · simp only [fields, List.cons.injEq, and_true] at heq
    obtain ⟨hyear, hmonth, hday, hhour, hminute, hsecond, hmillisecond⟩ := heq
    have hordinal : t.ordinal = t'.ordinal := by
      rw [Date.ordinal, Date.ordinal, hyear, hmonth, hday]
    rw [milliseconds_eq, milliseconds_eq, hordinal, hhour, hminute, hsecond, hmillisecond] at h
    exact absurd h (lt_irrefl _)
  · exact absurd (milliseconds_lt_of_fields_lt hgt) h.not_gt

theorem isoformat_le_iff : t.isoformat ≤ t'.isoformat ↔ t.milliseconds ≤ t'.milliseconds := by
  rw [← not_lt, ← not_lt, isoformat_lt_iff]

/-- The seconds of a time that have passed. -/
def seconds (t : DateTime) : ℕ := t.microseconds / 1000000

/-- **A second has a date and a time of day**, and no other second has them. -/
theorem seconds_eq_iff : t.seconds = t'.seconds ↔ t.toDate.fields = t'.toDate.fields ∧
    t.hour = t'.hour ∧ t.minute = t'.minute ∧ t.second = t'.second := by
  have hseconds : ∀ t : DateTime, t.seconds =
      ((t.ordinal * 24 + t.hour) * 60 + t.minute) * 60 + t.second := fun t => by
    have hlt := t.microsecond_lt
    rw [seconds, microseconds]
    omega
  have hhour := t.hour_lt
  have hminute := t.minute_lt
  have hsecond := t.second_lt
  have hhour' := t'.hour_lt
  have hminute' := t'.minute_lt
  have hsecond' := t'.second_lt
  rw [hseconds, hseconds, ← Date.ordinal_inj]
  omega

end Order

end DateTime

end Calendar
