import Mathlib.Algebra.GroupWithZero.Nat
import Mathlib.Tactic.Common
import OpenchamiOperator.Lib.Strconv

/-! # Times in the format of RFC 3339

`time.Parse` and `Time.Format` with the layout `time.RFC3339`, in UTC. A time is the number of
nanoseconds since 1970. Reading is more lenient than the standard: an hour may have one digit, and
a fraction may follow the seconds after a point or a comma.

* `time_civil`: the fields of a time make up the time again, without its fraction.
* `parse_format`: a time that was written reads back without its fraction, in the years 0 to 9999,
  and does not read back in other years. -/

namespace OpenchamiOperator.Lib.Rfc3339

/-! ### The calendar -/

def isLeap (year : ℤ) : Bool := year % 4 = 0 && (year % 100 ≠ 0 || year % 400 = 0)

/-- `daysIn`, by whether the year is a leap year. -/
def daysIn (leap : Bool) : ℕ → ℕ
  | 2 => if leap then 29 else 28
  | 4 | 6 | 9 | 11 => 30
  | _ => 31

/-- `daysBefore`: the days of a year before a month. -/
def daysBefore (leap : Bool) (month : ℕ) : ℕ :=
  ((List.range (month - 1)).map fun m => daysIn leap (m + 1)).sum

/-- The days from the beginning of the year 0 to that of a year. -/
def daysBeforeYear (year : ℤ) : ℤ :=
  365 * year + (year + 3) / 4 - (year + 99) / 100 + (year + 399) / 400

/-- The days from the beginning of the year 0 to 1970. -/
def epochDays : ℤ := 719528

/-- Nanoseconds. -/
def second : ℤ := 1000000000

/-- `time.Date` in UTC, for fields in their ranges. -/
def date (year : ℤ) (month day hour min sec nsec : ℕ) : ℤ :=
  let days := daysBeforeYear year + daysBefore (isLeap year) month + day - 1 - epochDays
  (((days * 24 + hour) * 60 + min) * 60 + sec) * second + nsec

/-- The year that a day is in, counted from the beginning of the year 0. -/
def yearOf (days : ℤ) : ℤ :=
  let year := 400 * days / 146097
  if days < daysBeforeYear year then year - 1
  else if daysBeforeYear (year + 1) ≤ days then year + 1
  else year

/-- The month that a day of a year is in, both counted from the beginning of the year. -/
def monthOf (leap : Bool) (yday : ℕ) : ℕ :=
  (List.range 12).countP fun m => daysBefore leap (m + 1) ≤ yday

/-- No day lies between two years. -/
theorem yearOf_spec (days : ℤ) :
    daysBeforeYear (yearOf days) ≤ days ∧ days < daysBeforeYear (yearOf days + 1) := by
  unfold yearOf
  dsimp only
  have hlow : 146097 * (400 * days / 146097) ≤ 400 * days := by omega
  have hhigh : 400 * days < 146097 * (400 * days / 146097) + 146097 := by omega
  generalize 400 * days / 146097 = year at hlow hhigh ⊢
  -- the mean length of a year puts the estimate at most one year off
  have hprev : daysBeforeYear (year - 1) ≤ days := by
    unfold daysBeforeYear
    omega
  have hnext : days < daysBeforeYear (year + 1 + 1) := by
    unfold daysBeforeYear
    omega
  split_ifs with hbelow habove
  · rw [Int.sub_add_cancel]
    exact ⟨hprev, hbelow⟩
  · exact ⟨habove, hnext⟩
  · exact ⟨not_lt.mp hbelow, not_le.mp habove⟩

theorem daysBeforeYear_succ (year : ℤ) :
    daysBeforeYear (year + 1) = daysBeforeYear year + 365 + if isLeap year then 1 else 0 := by
  have hleap : isLeap year = true ↔ year % 4 = 0 ∧ (year % 100 ≠ 0 ∨ year % 400 = 0) := by
    simp [isLeap]
  by_cases h : isLeap year = true
  · rw [if_pos h]
    rw [hleap] at h
    unfold daysBeforeYear
    omega
  · rw [if_neg h]
    rw [hleap] at h
    unfold daysBeforeYear
    omega

theorem monthOf_spec : ∀ leap : Bool, ∀ yday < 365 + if leap then 1 else 0,
    (1 ≤ monthOf leap yday ∧ monthOf leap yday ≤ 12) ∧
      daysBefore leap (monthOf leap yday) ≤ yday ∧
      yday < daysBefore leap (monthOf leap yday) + daysIn leap (monthOf leap yday) := by
  decide +kernel

/-- The fields of `Time.Date` and `Time.Clock`, in their ranges. -/
structure Civil where
  year : ℤ
  month : ℕ
  day : ℕ
  hour : ℕ
  min : ℕ
  sec : ℕ
  month_mem : 1 ≤ month ∧ month ≤ 12
  day_mem : 1 ≤ day ∧ day ≤ daysIn (isLeap year) month
  hour_lt : hour < 24
  min_lt : min < 60
  sec_lt : sec < 60

/-- The day of the year, counted from the beginning of the year 0. -/
def ydayOf (days : ℤ) : ℕ := (days - daysBeforeYear (yearOf days)).toNat

theorem ydayOf_lt (days : ℤ) :
    ydayOf days < 365 + if isLeap (yearOf days) then 1 else 0 := by
  have hspec := yearOf_spec days
  have hsucc := daysBeforeYear_succ (yearOf days)
  unfold ydayOf
  by_cases hleap : isLeap (yearOf days) = true
  · rw [if_pos hleap] at hsucc ⊢
    omega
  · rw [if_neg hleap] at hsucc ⊢
    omega

def civil (t : ℤ) : Civil :=
  let secs := t / second
  let days := secs / 86400 + epochDays
  let clock := (secs % 86400).toNat
  let year := yearOf days
  let month := monthOf (isLeap year) (ydayOf days)
  have hmonth : (1 ≤ month ∧ month ≤ 12) ∧ daysBefore (isLeap year) month ≤ ydayOf days ∧
      ydayOf days < daysBefore (isLeap year) month + daysIn (isLeap year) month :=
    monthOf_spec (isLeap year) (ydayOf days) (ydayOf_lt days)
  { year, month, day := ydayOf days - daysBefore (isLeap year) month + 1
    hour := clock / 3600, min := clock % 3600 / 60, sec := clock % 60
    month_mem := hmonth.1
    day_mem := by omega
    hour_lt := by omega
    min_lt := by omega
    sec_lt := by omega }

/-- `time.Date` of the fields. -/
def Civil.time (c : Civil) : ℤ := date c.year c.month c.day c.hour c.min c.sec 0

/-- **The fields of a time make up the time**, without its fraction of a second. -/
theorem time_civil (t : ℤ) : (civil t).time = t / second * second := by
  have hyear := yearOf_spec (t / second / 86400 + epochDays)
  have hmonth := (monthOf_spec _ _ (ydayOf_lt (t / second / 86400 + epochDays))).2.1
  have hyday : (ydayOf (t / second / 86400 + epochDays) : ℤ) =
      t / second / 86400 + epochDays - daysBeforeYear (yearOf (t / second / 86400 + epochDays)) := by
    unfold ydayOf
    omega
  show (((_ * 24 + _) * 60 + _) * 60 + _) * second + ((0 : ℕ) : ℤ) = _
  simp only [civil]
  generalize ydayOf (t / second / 86400 + epochDays) = yday at *
  generalize yearOf (t / second / 86400 + epochDays) = year at *
  generalize daysBefore (isLeap year) _ = before at *
  generalize t / second = secs at *
  have hsecs : ((daysBeforeYear year + before + (yday - before + 1 : ℕ) - 1 - epochDays) * 24 +
      ((secs % 86400).toNat / 3600 : ℕ)) * 60 * 60 + ((secs % 86400).toNat % 3600 / 60 : ℕ) * 60 +
      ((secs % 86400).toNat % 60 : ℕ) = secs := by
    omega
  rw [Int.natCast_zero, Int.add_zero]
  congr 1
  omega

/-! ### Writing -/

/-- `appendInt`. -/
def appendInt (x : ℤ) (width : ℕ) : List Char :=
  let u := x.natAbs
  (if x < 0 then ['-'] else []) ++
    if width = 2 ∧ u < 100 then [Nat.digitChar (u / 10), Nat.digitChar (u % 10)]
    else if width = 4 ∧ u < 10000 then
      [Nat.digitChar (u / 1000), Nat.digitChar (u / 100 % 10), Nat.digitChar (u / 10 % 10),
        Nat.digitChar (u % 10)]
    else (Nat.toDigits 10 u).leftpad width '0'

def Civil.chars (c : Civil) : List Char :=
  appendInt c.year 4 ++ '-' :: (appendInt c.month 2 ++ '-' :: (appendInt c.day 2 ++ 'T' ::
    (appendInt c.hour 2 ++ ':' :: (appendInt c.min 2 ++ ':' :: (appendInt c.sec 2 ++ ['Z'])))))

/-- `t.UTC().Format(time.RFC3339)`. -/
def format (t : ℤ) : String := String.ofList (civil t).chars

/-! ### Reading -/

def digit (c : Char) : ℕ := c.toNat - 48

/-- `getnum`: two digits, or one where it is not fixed. -/
def getnum (fixed : Bool) : List Char → Option (ℕ × List Char)
  | c :: d :: s =>
    if c.isDigit && d.isDigit then some (10 * digit c + digit d, s)
    else if c.isDigit && !fixed then some (digit c, d :: s)
    else none
  | [c] => if c.isDigit && !fixed then some (digit c, []) else none
  | [] => none

/-- `skip`, for the text of one character between two fields. -/
def skip (c : Char) : List Char → Option (List Char)
  | d :: s => if d = c then some s else none
  | [] => none

def parseYear : List Char → Option (ℕ × List Char)
  | a :: b :: c :: d :: s =>
    if a.isDigit && b.isDigit && c.isDigit && d.isDigit then
      some (((digit a * 10 + digit b) * 10 + digit c) * 10 + digit d, s)
    else none
  | _ => none

/-- A fraction of a second that the layout does not have, to nine digits. -/
def parseFraction : List Char → ℕ × List Char
  | p :: d :: s =>
    if (p = '.' || p = ',') && d.isDigit then
      let digits := (d :: s).takeWhile Char.isDigit
      let taken := digits.take 9
      (taken.foldl (fun n c => 10 * n + digit c) 0 * 10 ^ (9 - taken.length),
        (d :: s).dropWhile Char.isDigit)
    else (0, p :: d :: s)
  | s => (0, s)

/-- The offset of a time zone, in seconds. -/
def parseZone : List Char → Option (ℤ × List Char)
  | 'Z' :: s => some (0, s)
  | sign :: h₁ :: h₂ :: ':' :: m₁ :: m₂ :: s =>
    let hr := 10 * digit h₁ + digit h₂
    let mm := 10 * digit m₁ + digit m₂
    if h₁.isDigit && h₂.isDigit && m₁.isDigit && m₂.isDigit && hr ≤ 24 && mm ≤ 60 then
      if sign = '+' then some ((hr * 60 + mm) * 60, s)
      else if sign = '-' then some (-((hr * 60 + mm) * 60), s)
      else none
    else none
  | _ => none

def parseChars (s : List Char) : Option ℤ := do
  let (year, s) ← parseYear s
  let s ← skip '-' s
  let (month, s) ← getnum true s
  if month < 1 ∨ 12 < month then none
  let s ← skip '-' s
  let (day, s) ← getnum true s
  let s ← skip 'T' s
  let (hour, s) ← getnum false s
  if 24 ≤ hour then none
  let s ← skip ':' s
  let (min, s) ← getnum true s
  if 60 ≤ min then none
  let s ← skip ':' s
  let (sec, s) ← getnum true s
  if 60 ≤ sec then none
  let (nsec, s) := parseFraction s
  let (offset, s) ← parseZone s
  if s ≠ [] then none
  if day < 1 ∨ daysIn (isLeap year) month < day then none
  return date year month day hour min sec nsec - offset * second

/-- `time.Parse(time.RFC3339, s)`. -/
def parse (s : String) : Option ℤ := parseChars s.toList

/-! ### Reading what was written -/

theorem digit_digitChar {n : ℕ} (h : n < 10) : digit (Nat.digitChar n) = n := by
  unfold digit
  rw [Nat.toNat_digitChar_of_lt_ten h]
  omega

theorem getnum_appendInt (fixed : Bool) {n : ℕ} (h : n < 100) (s : List Char) :
    getnum fixed (appendInt n 2 ++ s) = some (n, s) := by
  have hsign : ¬ (n : ℤ) < 0 := by omega
  have htens : n / 10 < 10 := by omega
  have hones : n % 10 < 10 := by omega
  have hvalue : 10 * (n / 10) + n % 10 = n := by omega
  simp [appendInt, hsign, h, getnum, Nat.isDigit_digitChar, digit_digitChar, htens, hones, hvalue]

theorem parseYear_appendInt {n : ℕ} (h : n < 10000) (s : List Char) :
    parseYear (appendInt n 4 ++ s) = some (n, s) := by
  have hsign : ¬ (n : ℤ) < 0 := by omega
  have hfirst : n / 1000 < 10 := by omega
  have hdigit : ∀ m : ℕ, m % 10 < 10 := fun m => Nat.mod_lt m (by omega)
  have hvalue : ((n / 1000 * 10 + n / 100 % 10) * 10 + n / 10 % 10) * 10 + n % 10 = n := by omega
  simp [appendInt, hsign, h, parseYear, Nat.isDigit_digitChar, digit_digitChar, hfirst, hdigit,
    hvalue]

@[simp] theorem skip_cons (c : Char) (s : List Char) : skip c (c :: s) = some s := if_pos rfl

theorem daysIn_le (leap : Bool) (month : ℕ) : daysIn leap month ≤ 31 := by
  unfold daysIn
  split <;> try split
  all_goals omega

/-- **The fields read back**, if the year has four digits. -/
theorem parseChars_chars {c : Civil} {year : ℕ} (hc : c.year = year) (hyear : year < 10000) :
    parseChars c.chars = some c.time := by
  obtain ⟨hmonth₁, hmonth₂⟩ := c.month_mem
  obtain ⟨hday₁, hday₂⟩ := c.day_mem
  have hhour := c.hour_lt
  have hmin := c.min_lt
  have hsec := c.sec_lt
  have hday := daysIn_le (isLeap c.year) c.month
  have hmonth : ¬ (c.month < 1 ∨ 12 < c.month) := by omega
  have hfraction : parseFraction ['Z'] = (0, ['Z']) := rfl
  have hzone : parseZone ['Z'] = some (0, []) := rfl
  unfold parseChars Civil.chars Civil.time
  rw [hc, parseYear_appendInt hyear]
  simp only [bind, Option.bind, skip_cons]
  rw [getnum_appendInt true (by omega)]
  simp only [hmonth, if_false, skip_cons]
  rw [getnum_appendInt true (by omega)]
  simp only [skip_cons]
  rw [getnum_appendInt false (by omega)]
  simp only [hhour.not_ge, if_false, skip_cons]
  rw [getnum_appendInt true (by omega)]
  simp only [hmin.not_ge, if_false, skip_cons]
  rw [getnum_appendInt true (by omega)]
  simp only [hsec.not_ge, if_false, hfraction, hzone]
  rw [hc] at hday₂
  simp
  omega

theorem parseYear_minus (s : List Char) : parseYear ('-' :: s) = none := by
  unfold parseYear
  split
  · rename_i heq
    cases heq
    rfl
  · rfl

/-- The digits of a year with more than four. -/
theorem appendInt_four {n : ℕ} (h : 9999 < n) :
    ∃ a b c d e s, appendInt n 4 = a :: b :: c :: d :: e :: s ∧ e.isDigit = true := by
  have hsign : ¬ (n : ℤ) < 0 := by omega
  have hlength : 5 ≤ (Nat.toDigits 10 n).length := by
    by_contra hshort
    have hlt := (Nat.length_toDigits_le_iff (by decide) (by decide)).mp
      (show (Nat.toDigits 10 n).length ≤ 4 by omega)
    omega
  have happend : appendInt n 4 = Nat.toDigits 10 n := by
    simp [appendInt, hsign, show ¬ n < 10000 by omega, List.leftpad,
      show 4 - (Nat.toDigits 10 n).length = 0 by omega]
  rw [happend]
  match hdigits : Nat.toDigits 10 n, hlength with
  | a :: b :: c :: d :: e :: s, _ =>
    refine ⟨a, b, c, d, e, s, rfl, ?_⟩
    apply List.all_eq_true.mp (hdigits ▸ Strconv.all_isDigit_toDigits n)
    simp

/-- A year with a sign, or with more digits, is not read. -/
theorem parseChars_chars_eq_none {c : Civil} (hc : c.year < 0 ∨ 9999 < c.year) :
    parseChars c.chars = none := by
  unfold parseChars Civil.chars
  rcases hc with hneg | hlong
  · have hsign : ∃ s, appendInt c.year 4 = '-' :: s := ⟨_, by rw [appendInt, if_pos hneg]; rfl⟩
    obtain ⟨s, hs⟩ := hsign
    rw [hs, List.cons_append, parseYear_minus]
    rfl
  · -- the fifth digit stands where the first dash should
    obtain ⟨y, hy⟩ := Int.eq_ofNat_of_zero_le (show 0 ≤ c.year by omega)
    obtain ⟨a, b, c', d, e, s, hs, he⟩ := appendInt_four (show 9999 < y by omega)
    have hdash : e ≠ '-' := fun heq => by simp [heq] at he
    rw [hy, hs]
    generalize '-' :: (appendInt c.month 2 ++ _) = rest
    by_cases hfour : (a.isDigit && b.isDigit && c'.isDigit && d.isDigit) = true
    · have hyear : parseYear ((a :: b :: c' :: d :: e :: s) ++ rest) =
          some (((digit a * 10 + digit b) * 10 + digit c') * 10 + digit d, e :: (s ++ rest)) :=
        if_pos hfour
      have hskip : skip '-' (e :: (s ++ rest)) = none := if_neg hdash
      rw [hyear]
      simp only [bind, Option.bind, hskip]
    · have hyear : parseYear ((a :: b :: c' :: d :: e :: s) ++ rest) = none := if_neg hfour
      rw [hyear]
      rfl

/-- The year of a time, in UTC. -/
def year (t : ℤ) : ℤ := (civil t).year

theorem parse_format (t : ℤ) :
    parse (format t) =
      if 0 ≤ year t ∧ year t ≤ 9999 then some (t / second * second) else none := by
  unfold parse format year
  rw [String.toList_ofList]
  split_ifs with h
  · have hnat : (civil t).year = ((civil t).year.toNat : ℤ) := by omega
    rw [parseChars_chars hnat (by omega), time_civil]
  · exact parseChars_chars_eq_none (by omega)

end OpenchamiOperator.Lib.Rfc3339
