import AlibabaActuator.Types

/-!
Instance start times: `time.ParseInLocation(formatISO8601, s, time.Local)` with
`formatISO8601 = "2006-01-02T15:04:05Z"`, and `Time.After`, as `instanceList.Less`
uses them.

Design notes (faithful to Go's `time.parse` on this layout):

* The year is four digits; month, day, minute and second are two digits
  (`getnum` with `fixed`); the hour is one or two digits (`stdHour`). `-`, `T`,
  `:` and the final `Z` are literals (`Z` is not followed by `07`, so it is not a
  zone). A fractional second (`.` or `,` then digits) may follow the seconds
  even though the layout has none; at most nine of its digits count. Anything
  after the `Z` is "extra text".
* Range checks: month 1–12, hour below 24, minute and second below 60, and the
  day between 1 and the month's length in that year (Gregorian leap years).
* `time.Local` is taken to be a fixed-offset zone, so `After` on two readings
  compares their wall clocks: `WallClock.ordinal` numbers in-range wall clocks
  in order.

Every start time the parser accepts is an in-range wall clock
(`parseStartTime_valid`), and on in-range wall clocks `After` is the
lexicographic order of (year, month, day, hour, minute, second, nanosecond)
(`WallClock.after_eq_lexLt`). The sort module states the order `sortInstances`
leaves on these fields, so that its result is read in calendar terms and not
through the numbering `WallClock.ordinal`.
-/

namespace AlibabaActuator

/-- A parsed start time: the fields `time.Date` receives. -/
structure WallClock where
  year : Nat
  month : Nat
  day : Nat
  hour : Nat
  minute : Nat
  second : Nat
  nanosecond : Nat
deriving DecidableEq, Repr

/-- The value of an ASCII digit. -/
def digitValue (c : Char) : Nat := c.toNat - '0'.toNat

/-- Go `getnum(s, fixed)`: one or two leading digits; `fixed` asks for two. -/
def getnum (s : List Char) (fixed : Bool) : Option (Nat × List Char) :=
  match s with
  | [] => none
  | c :: rest =>
    if !c.isDigit then none
    else match rest with
      | d :: rest' =>
        if d.isDigit then some (digitValue c * 10 + digitValue d, rest')
        else if fixed then none else some (digitValue c, rest)
      | [] => if fixed then none else some (digitValue c, [])

/-- `stdLongYear`: four characters, the first a digit, that `atoi` reads whole. -/
def parseLongYear : List Char → Option (Nat × List Char)
  | a :: b :: c :: d :: rest =>
    if a.isDigit && b.isDigit && c.isDigit && d.isDigit then
      some (((digitValue a * 10 + digitValue b) * 10 + digitValue c) * 10 + digitValue d, rest)
    else none
  | _ => none

/-- Go `skip` for a one-character literal of the layout. -/
def skipLiteral (literal : Char) : List Char → Option (List Char)
  | c :: rest => if c = literal then some rest else none
  | [] => none

/-- `parseNanoseconds` on the digits after the separator: the first nine digits,
scaled to nanoseconds. -/
def nanosecondsOf (digits : List Char) : Nat :=
  let kept := digits.take 9
  kept.foldl (fun n c => n * 10 + digitValue c) 0 * Nat.pow 10 (9 - kept.length)

/-- The fractional second `time.parse` accepts after the seconds when the layout
has none: a `.` or `,` followed by a digit, then every following digit. -/
def fractionalSecond : List Char → Nat × List Char
  | sep :: d :: rest =>
    if (sep = '.' ∨ sep = ',') ∧ d.isDigit then
      (nanosecondsOf ((d :: rest).takeWhile Char.isDigit), (d :: rest).dropWhile Char.isDigit)
    else (0, sep :: d :: rest)
  | s => (0, s)

/-- Go `isLeap`. -/
def isLeap (year : Nat) : Bool := year % 4 == 0 && (year % 100 != 0 || year % 400 == 0)

/-- Go `daysIn`. -/
def daysIn (month year : Nat) : Nat :=
  if month = 2 then (if isLeap year then 29 else 28)
  else if month = 4 ∨ month = 6 ∨ month = 9 ∨ month = 11 then 30 else 31

/-- The date chunks of the layout, `2006-01-02`. -/
def parseDate (s : List Char) : Option (Nat × Nat × Nat × List Char) := do
  let (year, s) ← parseLongYear s
  let s ← skipLiteral '-' s
  let (month, s) ← getnum s true
  guard (1 ≤ month ∧ month ≤ 12)
  let s ← skipLiteral '-' s
  let (day, s) ← getnum s true
  pure (year, month, day, s)

/-- The clock chunks of the layout, `15:04:05`, with an optional fractional
second. -/
def parseClock (s : List Char) : Option (Nat × Nat × Nat × Nat × List Char) := do
  let (hour, s) ← getnum s false
  guard (hour < 24)
  let s ← skipLiteral ':' s
  let (minute, s) ← getnum s true
  guard (minute < 60)
  let s ← skipLiteral ':' s
  let (second, s) ← getnum s true
  guard (second < 60)
  let (nanosecond, s) := fractionalSecond s
  pure (hour, minute, second, nanosecond, s)

/-- `time.ParseInLocation(formatISO8601, value, time.Local)`; `none` is a parse
error. -/
def parseStartTime (value : String) : Option WallClock := do
  let (year, month, day, s) ← parseDate value.toList
  let s ← skipLiteral 'T' s
  let (hour, minute, second, nanosecond, s) ← parseClock s
  let s ← skipLiteral 'Z' s
  guard (s = [])
  guard (1 ≤ day ∧ day ≤ daysIn month year)
  pure ⟨year, month, day, hour, minute, second, nanosecond⟩

/-- An order-preserving numbering of wall clocks whose fields are in range. -/
def WallClock.ordinal (t : WallClock) : Nat :=
  ((((((t.year * 13 + t.month) * 32 + t.day) * 24 + t.hour) * 60 + t.minute) * 60 + t.second) *
    1000000000 + t.nanosecond)

/-- `t.After(u)` for two readings of `time.Local`. -/
def WallClock.after (t u : WallClock) : Bool := u.ordinal < t.ordinal

@[simp] theorem parseStartTime_empty : parseStartTime "" = none := rfl

/-! ### What `parseStartTime` accepts -/

/-- The checks `time.parse` makes on the fields of this layout, and the four
digits of the year. -/
structure WallClock.Valid (t : WallClock) : Prop where
  year_lt : t.year < 10000
  month_pos : 1 ≤ t.month
  month_le : t.month ≤ 12
  day_pos : 1 ≤ t.day
  day_le : t.day ≤ daysIn t.month t.year
  hour_lt : t.hour < 24
  minute_lt : t.minute < 60
  second_lt : t.second < 60
  nanosecond_lt : t.nanosecond < 1000000000

instance (t : WallClock) : Decidable t.Valid :=
  decidable_of_iff (t.year < 10000 ∧ 1 ≤ t.month ∧ t.month ≤ 12 ∧ 1 ≤ t.day ∧
      t.day ≤ daysIn t.month t.year ∧ t.hour < 24 ∧ t.minute < 60 ∧ t.second < 60 ∧
      t.nanosecond < 1000000000)
    ⟨fun ⟨a, b, c, d, e, f, g, h, i⟩ => ⟨a, b, c, d, e, f, g, h, i⟩,
      fun ⟨a, b, c, d, e, f, g, h, i⟩ => ⟨a, b, c, d, e, f, g, h, i⟩⟩

theorem digitValue_lt {c : Char} (h : c.isDigit = true) : digitValue c < 10 := by
  simp only [Char.isDigit, Bool.and_eq_true, decide_eq_true_eq] at h
  have low : 48 ≤ c.val.toNat := h.1
  have high : c.val.toNat ≤ 57 := h.2
  show c.val.toNat - 48 < 10
  omega

theorem guard_eq_some {p : Prop} [Decidable p] {u : Unit} (h : (guard p : Option Unit) = some u) :
    p := by
  by_contra hp
  simp [guard, hp] at h

theorem parseLongYear_lt {s rest : List Char} {year : Nat}
    (h : parseLongYear s = some (year, rest)) : year < 10000 := by
  unfold parseLongYear at h
  split at h
  · split_ifs at h with digits
    simp only [Bool.and_eq_true] at digits
    obtain ⟨⟨⟨a, b⟩, c⟩, d⟩ := digits
    have := digitValue_lt a
    have := digitValue_lt b
    have := digitValue_lt c
    have := digitValue_lt d
    cases h
    omega
  · cases h

theorem foldl_digits_lt : ∀ (l : List Char) (acc : Nat), (∀ c ∈ l, c.isDigit = true) →
    l.foldl (fun n c => n * 10 + digitValue c) acc < (acc + 1) * Nat.pow 10 l.length
  | [], acc, _ => by simp [Nat.pow]
  | c :: l, acc, h => by
    have digit := digitValue_lt (h c (List.mem_cons_self _ _))
    calc (c :: l).foldl (fun n c => n * 10 + digitValue c) acc
        < (acc * 10 + digitValue c + 1) * Nat.pow 10 l.length :=
          foldl_digits_lt l _ fun d hd => h d (List.mem_cons_of_mem _ hd)
      _ ≤ (acc + 1) * 10 * Nat.pow 10 l.length := Nat.mul_le_mul_right _ (by omega)
      _ = (acc + 1) * Nat.pow 10 (c :: l).length := by
          rw [List.length_cons, Nat.mul_assoc, Nat.mul_comm 10]
          rfl

theorem nanosecondsOf_lt {digits : List Char} (h : ∀ c ∈ digits, c.isDigit = true) :
    nanosecondsOf digits < 1000000000 := by
  have kept : (digits.take 9).length ≤ 9 := List.length_take_le _ _
  have value := foldl_digits_lt (digits.take 9) 0 fun c hc => h c (List.mem_of_mem_take hc)
  rw [Nat.zero_add, Nat.one_mul] at value
  have split : Nat.pow 10 9 =
      Nat.pow 10 (digits.take 9).length * Nat.pow 10 (9 - (digits.take 9).length) := by
    show 10 ^ 9 = 10 ^ (digits.take 9).length * 10 ^ (9 - (digits.take 9).length)
    rw [← Nat.pow_add, Nat.add_sub_cancel' kept]
  calc nanosecondsOf digits
      < Nat.pow 10 (digits.take 9).length * Nat.pow 10 (9 - (digits.take 9).length) :=
        Nat.mul_lt_mul_of_pos_right value (Nat.pos_pow_of_pos _ (by decide))
    _ = 1000000000 := by rw [← split]

theorem fractionalSecond_lt (s : List Char) : (fractionalSecond s).1 < 1000000000 := by
  unfold fractionalSecond
  split
  · split_ifs
    · exact nanosecondsOf_lt fun c hc => List.mem_takeWhile_imp hc
    · show 0 < 1000000000
      decide
  · show 0 < 1000000000
    decide

theorem parseDate_month {s rest : List Char} {year month day : Nat}
    (h : parseDate s = some (year, month, day, rest)) :
    year < 10000 ∧ 1 ≤ month ∧ month ≤ 12 := by
  unfold parseDate at h
  simp only [Option.bind_eq_bind, Option.bind_eq_some, Prod.exists] at h
  obtain ⟨year', s₁, hyear, s₂, -, month', s₃, -, u, hmonth, s₄, -, day', s₅, -, hpure⟩ := h
  simp only [pure, Option.some.injEq, Prod.mk.injEq] at hpure
  obtain ⟨rfl, rfl, rfl, rfl⟩ := hpure
  exact ⟨parseLongYear_lt hyear, guard_eq_some hmonth⟩

theorem parseClock_range {s rest : List Char} {hour minute second nanosecond : Nat}
    (h : parseClock s = some (hour, minute, second, nanosecond, rest)) :
    hour < 24 ∧ minute < 60 ∧ second < 60 ∧ nanosecond < 1000000000 := by
  unfold parseClock at h
  simp only [Option.bind_eq_bind, Option.bind_eq_some, Prod.exists] at h
  obtain ⟨hour', s₁, -, u₁, hhour, s₂, -, minute', s₃, -, u₂, hminute, s₄, -, second', s₅, -, u₃,
    hsecond, hpure⟩ := h
  simp only [pure, Option.some.injEq, Prod.mk.injEq] at hpure
  obtain ⟨rfl, rfl, rfl, rfl, -⟩ := hpure
  exact ⟨guard_eq_some hhour, guard_eq_some hminute, guard_eq_some hsecond, fractionalSecond_lt _⟩

/-- Every wall clock `parseStartTime` returns passes the range checks. -/
theorem parseStartTime_valid {value : String} {t : WallClock} (h : parseStartTime value = some t) :
    t.Valid := by
  unfold parseStartTime at h
  simp only [Option.bind_eq_bind, Option.bind_eq_some, Prod.exists] at h
  obtain ⟨year, month, day, s₁, hdate, s₂, -, hour, minute, second, nanosecond, s₃, hclock, s₄, -,
    u₁, -, u₂, hday, hpure⟩ := h
  simp only [pure, Option.some.injEq] at hpure
  subst hpure
  obtain ⟨hyear, hmonth, hmonth'⟩ := parseDate_month hdate
  obtain ⟨hhour, hminute, hsecond, hns⟩ := parseClock_range hclock
  obtain ⟨hday, hday'⟩ := guard_eq_some hday
  exact ⟨hyear, hmonth, hmonth', hday, hday', hhour, hminute, hsecond, hns⟩

/-! ### `After` is the chronological order -/

/-- The fields of a wall clock, most significant first. -/
def WallClock.fields (t : WallClock) : List Nat :=
  [t.year, t.month, t.day, t.hour, t.minute, t.second, t.nanosecond]

/-- Lexicographic order on lists of numbers. -/
def lexLt : List Nat → List Nat → Bool
  | a :: as, b :: bs => a < b || (a == b && lexLt as bs)
  | _, _ => false

theorem daysIn_le (month year : Nat) : daysIn month year ≤ 31 := by
  unfold daysIn
  split_ifs <;> omega

/-- A mixed-radix numeral compares by its high digits first. -/
theorem mixed_radix_lt {a b x y m : Nat} (hx : x < m) (hy : y < m) :
    a * m + x < b * m + y ↔ a < b ∨ a = b ∧ x < y := by
  constructor
  · intro h
    rcases Nat.lt_trichotomy a b with hab | rfl | hab
    · exact .inl hab
    · exact .inr ⟨rfl, by omega⟩
    · have := Nat.mul_le_mul_right m (Nat.succ_le_of_lt hab)
      rw [Nat.succ_mul] at this
      omega
  · rintro (hab | ⟨rfl, hxy⟩)
    · have := Nat.mul_le_mul_right m (Nat.succ_le_of_lt hab)
      rw [Nat.succ_mul] at this
      omega
    · omega

theorem mixed_radix_eq {a b x y m : Nat} (hx : x < m) (hy : y < m) :
    a * m + x = b * m + y ↔ a = b ∧ x = y := by
  refine ⟨fun h => ?_, fun ⟨hab, hxy⟩ => hab ▸ hxy ▸ rfl⟩
  rcases Nat.lt_trichotomy a b with hab | rfl | hab
  · exact absurd h (Nat.ne_of_lt ((mixed_radix_lt hx hy).mpr (.inl hab)))
  · exact ⟨rfl, by omega⟩
  · exact absurd h (Nat.ne_of_gt ((mixed_radix_lt hy hx).mpr (.inl hab)))

/-- On valid wall clocks, `After` compares the year, then the month, and so on
down to the nanosecond. -/
theorem WallClock.after_eq_lexLt {t u : WallClock} (ht : t.Valid) (hu : u.Valid) :
    t.after u = lexLt u.fields t.fields := by
  obtain ⟨-, -, _, -, _, _, _, _, _⟩ := ht
  obtain ⟨-, -, _, -, _, _, _, _, _⟩ := hu
  have := daysIn_le t.month t.year
  have := daysIn_le u.month u.year
  rw [WallClock.after, WallClock.ordinal, WallClock.ordinal, Bool.eq_iff_iff]
  -- the ordinal is a mixed-radix numeral whose digits are the fields
  simp (disch := omega) only [mixed_radix_lt, mixed_radix_eq, WallClock.fields, lexLt,
    decide_eq_true_eq, Bool.or_eq_true, Bool.and_eq_true, beq_iff_eq, Bool.and_false, Bool.or_false,
    Bool.false_eq_true, or_false]
  simp only [and_or_left, or_assoc, and_assoc]

end AlibabaActuator
