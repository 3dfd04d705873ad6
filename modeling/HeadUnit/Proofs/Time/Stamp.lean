import Mathlib.Data.List.DropRight
import Mathlib.Tactic.IntervalCases
import HeadUnit.Time.Stamp

/-!
# Time stamps are read as they are written

A stamp can be written (`Stamp.IsWritable`) if its year has four digits, its fields are in
their ranges and its zone has no offset; then `Stamp.parse?` reads the text of the stamp
(`parse?_text`).

The stamp of an instant can be written as soon as its year has four digits
(`isWritable_ofUnixNanos`). What is to be shown is that its day exists. The days of 400 years
are counted from a first of March, so that a leap day is the last day of its year: they are
centuries of 36524 days, of blocks of four years of 1461 days, of years of 365 days
(`exists_cycles`), and there is a day 365 only at the end of a block.
-/

namespace HeadUnit.Stamp

/-! ## Digits -/

/-- The characters `cs` are the number `n` in `width` digits. -/
structure Spells (cs : List Char) (width n : Nat) : Prop where
  length : cs.length = width
  digits : ∀ c ∈ cs, c.isDigit = true
  value : Nat.ofDigitChars 10 cs 0 = n

theorem toList_padded (width n : Nat) : (padded width n).toList =
    List.replicate (width - (Nat.toDigits 10 n).length) '0' ++ Nat.toDigits 10 n := by
  have digits : (toString n).toList = Nat.toDigits 10 n := by
    rw [Nat.toString_eq_repr, Nat.toList_repr]
  rw [padded, String.toList_append, String.toList_ofList, ← String.length_toList, digits]

theorem ofDigitChars_zeros (k n : Nat) :
    Nat.ofDigitChars 10 (List.replicate k '0') n = n * 10 ^ k := by
  induction k generalizing n with
  | zero => simp [Nat.ofDigitChars]
  | succ k ih =>
    rw [List.replicate_succ, Nat.ofDigitChars, List.foldl_cons, ← Nat.ofDigitChars, ih,
      Nat.pow_succ']
    simp [Nat.mul_comm, Nat.mul_assoc]

theorem spells_padded {width n : Nat} (pos : 0 < width) (small : n < 10 ^ width) :
    Spells (padded width n).toList width n := by
  have fits := (Nat.length_toDigits_le_iff (by decide) pos).2 small
  rw [toList_padded]
  refine ⟨?_, ?_, ?_⟩
  · rw [List.length_append, List.length_replicate]
    omega
  · intro c mem
    rcases List.mem_append.1 mem with zero | digit
    · rw [List.eq_of_mem_replicate zero]
      rfl
    · exact Nat.isDigit_of_mem_toDigits (by decide) (by decide) digit
  · rw [Nat.ofDigitChars_append, ofDigitChars_zeros, Nat.zero_mul]
    exact Nat.ofDigitChars_ten_toDigits

theorem digit?_of_isDigit {c : Char} (digit : c.isDigit = true) :
    digit? c = some (c.toNat - 48) := if_pos digit

section Numbers

variable {cs : List Char} {n : Nat} (rest : List Char)

theorem two?_of_spells (spells : Spells cs 2 n) : two? (cs ++ rest) = some (n, rest) := by
  obtain ⟨a, b, rfl⟩ := List.length_eq_two.1 spells.length
  have first := digit?_of_isDigit (spells.digits a (by simp))
  have second := digit?_of_isDigit (spells.digits b (by simp))
  have value : 10 * (a.toNat - 48) + (b.toNat - 48) = n := by
    simpa [Nat.ofDigitChars] using spells.value
  simp [two?, first, second, value]

theorem oneOrTwo?_of_spells (spells : Spells cs 2 n) :
    oneOrTwo? (cs ++ rest) = some (n, rest) := by
  obtain ⟨a, b, rfl⟩ := List.length_eq_two.1 spells.length
  have first := digit?_of_isDigit (spells.digits a (by simp))
  have second := digit?_of_isDigit (spells.digits b (by simp))
  have value : 10 * (a.toNat - 48) + (b.toNat - 48) = n := by
    simpa [Nat.ofDigitChars] using spells.value
  simp [oneOrTwo?, first, second, value]

theorem four?_of_spells (spells : Spells cs 4 n) : four? (cs ++ rest) = some (n, rest) := by
  match cs, spells with
  | [a, b, c, d], spells =>
    have high : Spells [a, b] 2 (10 * (a.toNat - 48) + (b.toNat - 48)) :=
      ⟨rfl, fun x mem => spells.digits x (by simp at mem ⊢; tauto), by simp [Nat.ofDigitChars]⟩
    have low : Spells [c, d] 2 (10 * (c.toNat - 48) + (d.toNat - 48)) :=
      ⟨rfl, fun x mem => spells.digits x (by simp at mem ⊢; tauto), by simp [Nat.ofDigitChars]⟩
    have value := spells.value
    simp only [Nat.ofDigitChars, List.foldl_cons, List.foldl_nil, Char.reduceToNat] at value
    have first : two? (a :: b :: c :: d :: rest) = some (_, c :: d :: rest) :=
      two?_of_spells (c :: d :: rest) high
    have second : two? (c :: d :: rest) = some (_, rest) := two?_of_spells rest low
    simp only [four?, List.cons_append, List.nil_append, first, second, Option.bind_eq_bind,
      Option.bind_some, Option.pure_def, Option.some.injEq, Prod.mk.injEq, and_true]
    omega

end Numbers

/-! ## The fraction of a second -/

/-- The digits of the fraction, without the zeros at their end. -/
def fractionDigits (nanos : Nat) : List Char := (padded 9 nanos).toList.rdropWhile (· = '0')

theorem toList_fraction (nanos : Nat) : (fraction nanos).toList =
    if (fractionDigits nanos).isEmpty then [] else '.' :: fractionDigits nanos := by
  have point : ".".toList = ['.'] := rfl
  unfold fraction
  dsimp only
  rw [← List.rdropWhile, ← fractionDigits]
  split
  · rfl
  · rw [String.toList_append, point, String.toList_ofList, List.singleton_append]

/-- With the zeros that were dropped, the digits of the fraction are nine. -/
theorem fractionDigits_append (nanos : Nat) :
    ∃ k, fractionDigits nanos ++ List.replicate k '0' = (padded 9 nanos).toList := by
  unfold fractionDigits
  generalize (padded 9 nanos).toList = cs
  have zeros : cs.rtakeWhile (· = '0') =
      List.replicate (cs.rtakeWhile (· = '0')).length '0' := by
    refine List.eq_replicate_of_mem fun c mem => ?_
    simpa using List.mem_rtakeWhile_imp mem
  refine ⟨(cs.rtakeWhile (· = '0')).length, ?_⟩
  rw [← zeros]
  exact List.rdropWhile_append_rtakeWhile ..

/-- The fraction that stands before the end of the zone is read. -/
theorem nanos?_fraction {nanos : Nat} (small : nanos < 10 ^ 9) :
    nanos? ((fraction nanos).toList ++ ['Z']) = (nanos, ['Z']) := by
  have spells := spells_padded (by decide) small
  obtain ⟨k, whole⟩ := fractionDigits_append nanos
  rw [← whole] at spells
  have length : (fractionDigits nanos).length + k = 9 := by simpa using spells.length
  have digits : ∀ c ∈ fractionDigits nanos, c.isDigit = true := fun c mem =>
    spells.digits c (List.mem_append_left _ mem)
  have value : Nat.ofDigitChars 10 (fractionDigits nanos) 0 * 10 ^ k = nanos := by
    rw [← ofDigitChars_zeros, ← Nat.ofDigitChars_append]
    exact spells.value
  rw [toList_fraction]
  cases e : fractionDigits nanos with
  | nil =>
    obtain rfl : nanos = 0 := by simpa [e, Nat.ofDigitChars] using value.symm
    rfl
  | cons d ds =>
    rw [e] at length digits value
    have stop : ¬Char.isDigit 'Z' = true := by decide
    have taken : (d :: ds ++ ['Z']).takeWhile Char.isDigit = d :: ds := by
      rw [List.takeWhile_append_of_pos digits, List.takeWhile_cons_of_neg stop, List.append_nil]
    have left : (d :: ds ++ ['Z']).dropWhile Char.isDigit = ['Z'] := by
      rw [List.dropWhile_append_of_pos digits, List.dropWhile_cons_of_neg stop]
    have short : (d :: ds).take 9 = d :: ds := List.take_of_length_le (by omega)
    have zeros : 9 - (d :: ds).length = k := by omega
    have first : d.isDigit = true := digits d List.mem_cons_self
    simp only [List.isEmpty_cons, Bool.false_eq_true, if_false, List.cons_append, nanos?, true_or,
      first, and_self, if_true, List.drop_one, List.tail_cons]
    rw [← List.cons_append, taken, left, short, zeros, ← value]
    simp only [Nat.ofDigitChars, Nat.mul_comm 10]
    rfl

/-! ## The whole stamp -/

/-- A stamp without offset whose text can be read. -/
structure IsWritable (s : Stamp) : Prop where
  year : 0 ≤ s.year ∧ s.year ≤ 9999
  month : 1 ≤ s.month ∧ s.month ≤ 12
  day : 1 ≤ s.day ∧ s.day ≤ daysIn s.year.toNat s.month
  hour : s.hour < 24
  minute : s.minute < 60
  second : s.second < 60
  nanos : s.nanos < 10 ^ 9
  offset : s.offset = 0

theorem literal?_cons (c : Char) (cs : List Char) : literal? c (c :: cs) = some cs := if_pos rfl

/-- A step that succeeds is followed by the next. -/
theorem bind_of_some {α β : Type} {x : Option α} {a : α} {f : α → Option β} {y : Option β}
    (done : x = some a) (rest : f a = y) : (x >>= f) = y := by
  rw [done]
  exact rest

theorem daysIn_le (year month : Nat) : daysIn year month ≤ 31 := by
  unfold daysIn
  split
  · split <;> decide
  · split <;> decide

/-- What is written is read. -/
theorem parse?_text {s : Stamp} (writable : s.IsWritable) : parse? s.text.toList = some s := by
  obtain ⟨year, month, day, hour, minute, second, nanos, offset⟩ := s
  obtain ⟨⟨nonneg, four⟩, hmonth, hday, hhour, hminute, hsecond, hnanos, rfl⟩ := writable
  dsimp only at *
  obtain ⟨y, rfl⟩ := Int.eq_ofNat_of_zero_le nonneg
  rw [Int.toNat_natCast] at hday
  have text : (text ⟨y, month, day, hour, minute, second, nanos, 0⟩).toList =
      (padded 4 y).toList ++ '-' :: ((padded 2 month).toList ++ '-' :: ((padded 2 day).toList ++
        'T' :: ((padded 2 hour).toList ++ ':' :: ((padded 2 minute).toList ++ ':' ::
          ((padded 2 second).toList ++ ((fraction nanos).toList ++ ['Z'])))))) := by
    have unsigned : ¬((y : Int) < 0) := by omega
    have dash : "-".toList = ['-'] := rfl
    have mark : "T".toList = ['T'] := rfl
    have colon : ":".toList = [':'] := rfl
    have zulu : "Z".toList = ['Z'] := rfl
    delta Stamp.text zone
    simp only [unsigned, if_false, if_true, Int.natAbs_natCast]
    generalize padded 4 y = ys, padded 2 month = ms, padded 2 day = ds, padded 2 hour = hs,
      padded 2 minute = mins, padded 2 second = secs, fraction nanos = fs
    simp only [String.toList_append, dash, mark, colon, zulu, String.toList_empty, List.nil_append,
      List.append_assoc, List.cons_append]
  have short := daysIn_le y month
  have two (n : Nat) (small : n < 100) : Spells (padded 2 n).toList 2 n :=
    spells_padded (by decide) small
  have years : Spells (padded 4 y).toList 4 y := spells_padded (by decide) (by omega)
  have utc : zone? ['Z'] = some 0 := rfl
  rw [parse?, text]
  refine bind_of_some (four?_of_spells _ years) (bind_of_some (literal?_cons ..) ?_)
  refine bind_of_some (two?_of_spells _ (two month (by omega))) (bind_of_some (literal?_cons ..) ?_)
  refine bind_of_some (two?_of_spells _ (two day (by omega))) (bind_of_some (literal?_cons ..) ?_)
  refine bind_of_some (oneOrTwo?_of_spells _ (two hour (by omega))) ?_
  refine bind_of_some (literal?_cons ..) ?_
  refine bind_of_some (two?_of_spells _ (two minute (by omega))) ?_
  refine bind_of_some (literal?_cons ..) ?_
  refine bind_of_some (two?_of_spells _ (two second (by omega))) ?_
  dsimp only
  rw [nanos?_fraction hnanos]
  refine bind_of_some utc ?_
  exact if_pos ⟨hmonth.1, hmonth.2, hday.1, hday.2, hhour, hminute, hsecond⟩

/-! ## The stamp of an instant -/

/-- A year of 400 and a day of this year, both counted from zero. -/
structure OfEra (yoe doy : Int) : Prop where
  year : 0 ≤ yoe ∧ yoe < 400
  day : 0 ≤ doy ∧ doy ≤ 365
  /-- The leap day is the last of its year, so the civil year is the next one. -/
  leap : doy = 365 → (yoe + 1) % 4 = 0 ∧ ((yoe + 1) % 100 ≠ 0 ∨ (yoe + 1) % 400 = 0)

/-- A day of 400 years but the last: the century, the block of four years in it, the year and
    the day. -/
theorem exists_cycles {doe : Int} (nonneg : 0 ≤ doe) (lt : doe < 146096) :
    ∃ c q r d : Int, doe = 36524 * c + 1461 * q + 365 * r + d ∧ (0 ≤ c ∧ c ≤ 3) ∧
      (0 ≤ q ∧ q ≤ 24) ∧ (0 ≤ r ∧ r ≤ 3) ∧ (0 ≤ d ∧ d ≤ 365) ∧ (d = 365 → r = 3 ∧ q ≤ 23) := by
  refine ⟨doe / 36524, doe % 36524 / 1461, min (doe % 36524 % 1461 / 365) 3,
    doe % 36524 % 1461 - 365 * min (doe % 36524 % 1461 / 365) 3, ?_⟩
  omega

theorem ofEra {doe yoe : Int} (nonneg : 0 ≤ doe) (lt : doe < 146097)
    (year : yoe = (doe - doe / 1460 + doe / 36524 - doe / 146096) / 365) :
    OfEra yoe (doe - (365 * yoe + yoe / 4 - yoe / 100)) := by
  by_cases last : doe = 146096
  · subst last
    obtain rfl : yoe = 399 := year
    constructor <;> decide
  · obtain ⟨c, q, r, d, rfl, hc, hq, hr, hd, full⟩ := exists_cycles nonneg (by omega)
    have centuries : (36524 * c + 1461 * q + 365 * r + d) / 36524 = c := by omega
    have none : (36524 * c + 1461 * q + 365 * r + d) / 146096 = 0 := by omega
    have yoe_eq : yoe = 100 * c + 4 * q + r := by
      -- Blocks of 1460 days run ahead of those of four years, by less than a year in all.
      have blocks : (36524 * c + 1461 * q + 365 * r + d) / 1460 = 25 * c + q ∨
          (36524 * c + 1461 * q + 365 * r + d) / 1460 = 25 * c + q + 1 := by omega
      rw [year, centuries, none]
      omega
    have blocks : yoe / 4 = 25 * c + q := by omega
    have centuries : yoe / 100 = c := by omega
    rw [blocks, centuries, yoe_eq]
    constructor <;> omega

/-- The day of the month that a day of a year is, which begins in March. -/
theorem day_le_daysIn {doy mp : Int} (range : 0 ≤ doy ∧ doy ≤ 365)
    (month : mp = (5 * doy + 2) / 153)
    {year : Nat} (leap : doy = 365 → year % 4 = 0 ∧ (year % 100 ≠ 0 ∨ year % 400 = 0)) :
    1 ≤ (doy - (153 * mp + 2) / 5 + 1).toNat ∧ (doy - (153 * mp + 2) / 5 + 1).toNat ≤
      daysIn year (if mp < 10 then mp + 3 else mp - 9).toNat := by
  have low : 0 ≤ mp := by omega
  have high : mp ≤ 11 := by omega
  unfold daysIn
  interval_cases mp
  all_goals
    simp
    omega

/-- The date that lies so many days after 1970-01-01 exists. -/
theorem civilOfDays_exists (days : Int) {y : Int} {m d : Nat}
    (date : civilOfDays days = (y, m, d)) :
    (1 ≤ m ∧ m ≤ 12) ∧ 1 ≤ d ∧ (0 ≤ y → d ≤ daysIn y.toNat m) := by
  unfold civilOfDays at date
  extract_lets z era doe yoe doy mp day month at date
  obtain ⟨rfl, rfl, rfl⟩ : yoe + era * 400 + (if month ≤ 2 then 1 else 0) = y ∧
      month.toNat = m ∧ day.toNat = d := by simpa using date
  have eras : era = z / 146097 := Int.fdiv_eq_ediv_of_nonneg _ (by decide)
  have hera : OfEra yoe doy := @ofEra doe yoe (by omega) (by omega) rfl
  obtain ⟨_, hday, leap⟩ := hera
  have hmp : mp = (5 * doy + 2) / 153 := rfl
  refine ⟨⟨by omega, by omega⟩, ?_, fun nonneg => ?_⟩
  · exact (@day_le_daysIn doy mp hday hmp 0 fun _ => by decide).1
  · refine (day_le_daysIn hday hmp fun last => ?_).2
    have february : month = 2 := by omega
    have := leap last
    rw [if_pos (by omega)] at nonneg ⊢
    omega

/-- The stamp of an instant in a year of four digits can be written. -/
theorem isWritable_ofUnixNanos {t : Int} (year : 0 ≤ (ofUnixNanos t).year ∧
    (ofUnixNanos t).year ≤ 9999) : (ofUnixNanos t).IsWritable := by
  have secs : t.fdiv 1000000000 = t / 1000000000 := Int.fdiv_eq_ediv_of_nonneg _ (by decide)
  have days : (t / 1000000000).fdiv 86400 = t / 1000000000 / 86400 :=
    Int.fdiv_eq_ediv_of_nonneg _ (by decide)
  obtain ⟨⟨y, m, d⟩, date⟩ : ∃ x, civilOfDays (t / 1000000000 / 86400) = x := ⟨_, rfl⟩
  have fields : ofUnixNanos t = ⟨y, m, d,
      (t / 1000000000 - t / 1000000000 / 86400 * 86400).toNat / 3600,
      (t / 1000000000 - t / 1000000000 / 86400 * 86400).toNat / 60 % 60,
      (t / 1000000000 - t / 1000000000 / 86400 * 86400).toNat % 60,
      (t - t / 1000000000 * 1000000000).toNat, 0⟩ := by
    simp only [ofUnixNanos, secs, days, date]
  obtain ⟨month, day, last⟩ := civilOfDays_exists _ date
  rw [fields] at year ⊢
  exact ⟨year, month, ⟨day, last year.1⟩, by dsimp only; omega, by dsimp only; omega,
    by dsimp only; omega, by dsimp only; omega, rfl⟩

end HeadUnit.Stamp
