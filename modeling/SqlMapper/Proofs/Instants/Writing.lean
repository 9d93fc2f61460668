import SqlMapper.Data.Conversion
import SqlMapper.Proofs.Instants.Days

/-!
# Texts of instants are read as they are written

A date, a time of day and an offset from UTC are written with numbers of full width. Each reader
reads what was written in front of any rest that does not go on with it
(`Instant.fixedNumber_append`, `Instant.shortNumber_append`, `Instant.fraction_append`), so a whole
text is read as its date, its time and its offset, and without an offset as if it were written for
UTC (`Instant.reads_written`).
-/

namespace SqlMapper

/-! ## Written times -/

/-- A number below 100 with both its digits. -/
def twoDigits (n : Nat) : List Char :=
  [Nat.digitChar (n / 10), Nat.digitChar (n % 10)]

/-- A number below 10000 with all its digits. -/
def fourDigits (n : Nat) : List Char :=
  twoDigits (n / 100) ++ twoDigits (n % 100)

/-- A date as year, month and day. -/
def Date.text (d : Date) : List Char :=
  fourDigits d.year.toNat ++ '-' :: twoDigits d.month ++ '-' :: twoDigits d.day

/-- A month is written with two digits. -/
theorem Date.month_lt (d : Date) : d.month < 100 :=
  Nat.lt_of_le_of_lt d.isMonth.2 (by decide)

/-- A day of the month is written with two digits. -/
theorem Date.day_lt (d : Date) : d.day < 100 :=
  Nat.lt_of_le_of_lt (Nat.le_trans d.isDay.2 (monthLength_mem d.year d.month).2) (by decide)

/-- A time of day. -/
structure TimeOfDay where
  /-- The hour. -/
  hour : Fin 24
  /-- The minute of the hour. -/
  minute : Fin 60
  /-- The second of the minute. -/
  second : Fin 60
  /-- The digits of the fraction of a second, if it is written. -/
  fraction : List (Fin 10)
deriving DecidableEq

/-- The value of the leading digits of a fraction, in units of the last place that counts. -/
def leading : Nat → List (Fin 10) → Nat
  | places + 1, digit :: rest => digit * Nat.pow 10 places + leading places rest
  | _, _ => 0

namespace TimeOfDay

/-- The whole seconds since midnight. -/
def seconds (t : TimeOfDay) : Int :=
  t.hour * 3600 + t.minute * 60 + t.second

/-- The nanoseconds past the second. -/
def nanoseconds (t : TimeOfDay) : Nat :=
  leading 9 t.fraction

/-- A fraction with its point, or nothing. -/
def fractionText : List (Fin 10) → List Char
  | [] => []
  | digits => '.' :: digits.map fun digit => Nat.digitChar digit.val

/-- A time of day as hour, minute, second and fraction. -/
def text (t : TimeOfDay) : List Char :=
  twoDigits t.hour ++ ':' :: twoDigits t.minute ++ ':' :: twoDigits t.second ++
    fractionText t.fraction

end TimeOfDay

/-- How the offset of a local time from UTC is written. -/
inductive Zone where
  /-- As the letter `Z`. -/
  | utc
  /-- With a sign, hours and minutes. -/
  | offset (west : Bool) (hours : Fin 24) (minutes : Fin 60)

namespace Zone

/-- The offset as text. -/
def text : Zone → List Char
  | .utc => ['Z']
  | .offset west hours minutes =>
    (if west then '-' else '+') :: twoDigits hours ++ ':' :: twoDigits minutes

/-- The seconds by which local time is ahead of UTC. -/
def ahead : Zone → Int
  | .utc => 0
  | .offset west hours minutes =>
    let distance : Int := hours * 3600 + minutes * 60
    if west then -distance else distance

end Zone

/-! ## Readers -/

namespace Instant

/-- Digits that write a number in a given width. -/
structure Writes (digits : List Char) (width n : Nat) : Prop where
  length_eq : digits.length = width
  isDigit : ∀ c ∈ digits, c.isDigit = true
  value : digitsValue digits = n

/-- A digit is one, and has its value. -/
theorem digit_spec (d : Fin 10) :
    (Nat.digitChar d).isDigit = true ∧ (Nat.digitChar d).toNat - 48 = d := by
  revert d
  decide

/-- Two digits write a number below 100. -/
theorem writes_twoDigits {n : Nat} (h : n < 100) : Writes (twoDigits n) 2 n := by
  obtain ⟨htens, vtens⟩ := digit_spec ⟨n / 10, by omega⟩
  obtain ⟨hunits, vunits⟩ := digit_spec ⟨n % 10, by omega⟩
  refine ⟨rfl, ?_, ?_⟩
  · simp only [twoDigits, List.mem_cons, List.not_mem_nil, or_false]
    rintro c (rfl | rfl)
    · exact htens
    · exact hunits
  · simp only [digitsValue, twoDigits, List.foldl_cons, List.foldl_nil] at vtens vunits ⊢
    rw [vtens, vunits]
    omega

/-- Four digits write a number below 10000. -/
theorem writes_fourDigits {n : Nat} (h : n < 10000) : Writes (fourDigits n) 4 n := by
  have front := writes_twoDigits (n := n / 100) (by omega)
  have back := writes_twoDigits (n := n % 100) (by omega)
  refine ⟨rfl, List.forall_mem_append.2 ⟨front.isDigit, back.isDigit⟩, ?_⟩
  have hfront := front.value
  have hback := back.value
  simp only [digitsValue, fourDigits, twoDigits, List.foldl_append, List.foldl_cons,
    List.foldl_nil] at hfront hback ⊢
  omega

variable {digits rest : List Char} {width n : Nat}

/-- A number of full width is read in front of anything. -/
theorem fixedNumber_append (h : Writes digits width n) (rest : List Char) :
    fixedNumber width (digits ++ rest) = some (n, rest) := by
  rw [fixedNumber, List.take_left' h.length_eq, List.drop_left' h.length_eq,
    if_pos ⟨h.length_eq, List.all_eq_true.2 h.isDigit⟩, h.value]

/-- Nothing that goes on with a number. -/
def Ends (rest : List Char) : Prop :=
  ∀ c ∈ rest.head?, c.isDigit = false

/-- The digits in front of a rest that does not go on with them. -/
theorem takeWhile_isDigit (hdigits : ∀ c ∈ digits, c.isDigit = true) (hrest : Ends rest) :
    (digits ++ rest).takeWhile Char.isDigit = digits := by
  rw [List.takeWhile_append_of_pos hdigits]
  cases rest with
  | nil => rw [List.takeWhile_nil, List.append_nil]
  | cons c rest => rw [List.takeWhile_cons_of_neg (by simp [hrest c rfl]), List.append_nil]

/-- A number that may be shorter is read in front of what does not go on with it. -/
theorem shortNumber_append (h : Writes digits (width + 1) n) (hrest : Ends rest) :
    shortNumber (width + 1) (digits ++ rest) = some (n, rest) := by
  have some_digit : digits ≠ [] := List.ne_nil_of_length_eq_add_one h.length_eq
  have whole : digits.take (width + 1) = digits := List.take_of_length_le (Nat.le_of_eq h.length_eq)
  rw [shortNumber, takeWhile_isDigit h.isDigit hrest, whole, if_neg some_digit, h.value,
    List.drop_left]

/-- A digit is no blank and no sign. -/
theorem digit_ne {c : Char} (h : c.isDigit = true) :
    Text.isBlank c = false ∧ c ≠ '-' ∧ c ≠ '+' := by
  have range : 48 ≤ c.toNat ∧ c.toNat ≤ 57 := by
    rw [Char.isDigit, Bool.and_eq_true, decide_eq_true_iff, decide_eq_true_iff] at h
    exact ⟨UInt32.le_iff_toNat_le.1 h.1, UInt32.le_iff_toNat_le.1 h.2⟩
  refine ⟨?_, ?_, ?_⟩
  · simp only [Text.isBlank, Bool.or_eq_false_iff, Bool.and_eq_false_iff, beq_eq_false_iff_ne,
      decide_eq_false_iff_not]
    omega
  · rintro rfl
    exact absurd range (by decide)
  · rintro rfl
    exact absurd range (by decide)

/-- The first digit of a number that is written. -/
theorem Writes.exists_cons (h : Writes digits (width + 1) n) :
    ∃ c tail, digits = c :: tail ∧ c.isDigit = true := by
  obtain ⟨c, tail, rfl⟩ := List.exists_cons_of_length_eq_add_one h.length_eq
  exact ⟨c, tail, rfl, h.isDigit c List.mem_cons_self⟩

/-- No blanks are skipped in front of a digit. -/
theorem blanks_append (h : Writes digits (width + 1) n) (rest : List Char) :
    blanks (digits ++ rest) = some ((), digits ++ rest) := by
  obtain ⟨c, tail, rfl, hc⟩ := h.exists_cons
  rw [blanks, List.cons_append, List.dropWhile_cons_of_neg (by simp [(digit_ne hc).1])]

/-- A number that may stand after blanks is read where it stands. -/
theorem looseNumber_append (h : Writes digits 2 n) (hrest : Ends rest) :
    looseNumber (digits ++ rest) = some (n, rest) := by
  rw [looseNumber, blanks_append h]
  exact shortNumber_append h hrest

/-- A year of four digits is read without a sign. -/
theorem looseYear_append (h : Writes digits 4 n) (hrest : Ends rest) :
    looseYear (digits ++ rest) = some ((n : Int), rest) := by
  have short := shortNumber_append h hrest
  rw [looseYear, blanks_append h]
  obtain ⟨c, tail, rfl, hc⟩ := h.exists_cons
  simp only [List.cons_append, Option.bind_eq_bind, Option.bind_some] at short ⊢
  split
  · next heq => exact absurd (List.cons.inj heq).1 (digit_ne hc).2.1
  · next heq => exact absurd (List.cons.inj heq).1 (digit_ne hc).2.2
  · rw [short, Option.bind_some]

/-- The digits of a fraction are digits. -/
theorem isDigit_fraction (fraction : List (Fin 10)) :
    ∀ c ∈ fraction.map (fun digit => Nat.digitChar digit.val), c.isDigit = true := by
  intro c hc
  obtain ⟨digit, -, rfl⟩ := List.mem_map.1 hc
  exact (digit_spec digit).1

/-- Digits that stand after other digits have the value of their places. -/
theorem foldl_fraction (fraction : List (Fin 10)) (places : Nat)
    (h : fraction.length ≤ places) (start : Nat) :
    (fraction.map fun digit => Nat.digitChar digit.val).foldl
        (fun value digit => value * 10 + (digit.toNat - 48)) start *
        Nat.pow 10 (places - fraction.length) =
      start * Nat.pow 10 places + leading places fraction := by
  induction fraction generalizing places start with
  | nil => simp [leading]
  | cons digit rest ih =>
    obtain ⟨fewer, rfl⟩ := Nat.exists_eq_add_of_le' (Nat.le_trans (Nat.succ_pos _) h)
    rw [List.length_cons, Nat.add_le_add_iff_right] at h
    have value := (digit_spec digit).2
    have later := ih fewer h (start * 10 + digit)
    rw [List.map_cons, List.foldl_cons, value, List.length_cons, Nat.add_sub_add_right, later,
      leading, Nat.add_mul, Nat.add_assoc, Nat.mul_assoc]
    congr 2
    exact (Nat.pow_succ' ..).symm

/-- Only the digits that count have a value. -/
theorem leading_take (places : Nat) (fraction : List (Fin 10)) :
    leading places (fraction.take places) = leading places fraction := by
  induction places generalizing fraction with
  | zero => rfl
  | succ places ih =>
    cases fraction with
    | nil => rfl
    | cons digit rest => rw [List.take_succ_cons, leading, leading, ih]

/-- The leading digits of a fraction stay below the unit. -/
theorem leading_lt (places : Nat) (fraction : List (Fin 10)) :
    leading places fraction < Nat.pow 10 places := by
  induction places generalizing fraction with
  | zero => exact Nat.one_pos
  | succ places ih =>
    cases fraction with
    | nil => exact Nat.pow_pos (by decide)
    | cons digit rest =>
      have below := ih rest
      have scale : Nat.pow 10 (places + 1) = 10 * Nat.pow 10 places := Nat.pow_succ' ..
      have hdigit : digit.val * Nat.pow 10 places ≤ 9 * Nat.pow 10 places :=
        Nat.mul_le_mul_right _ (Nat.le_of_lt_succ digit.isLt)
      rw [leading, scale]
      omega

/-- The digits after a point have the value of the leading nine. -/
theorem fractionValue_map (fraction : List (Fin 10)) :
    fractionValue (fraction.map fun digit => Nat.digitChar digit.val) = leading 9 fraction := by
  have nine := foldl_fraction (fraction.take 9) 9 (List.length_take_le 9 fraction) 0
  rw [leading_take, Nat.zero_mul, Nat.zero_add] at nine
  rw [fractionValue, digitsValue, ← List.map_take, List.length_map]
  exact nine

/-- A fraction is read in front of what is no digit, if there is no point there either. -/
theorem fraction_append (written : List (Fin 10)) (hrest : Ends rest) (hpoint : '.' ∉ rest.head?) :
    fraction (TimeOfDay.fractionText written ++ rest) = some (leading 9 written, rest) := by
  cases written with
  | nil =>
    show fraction rest = some (0, rest)
    rw [fraction]
    rintro later rfl
    exact hpoint rfl
  | cons digit more =>
    have digits := isDigit_fraction (digit :: more)
    have some_digit : (digit :: more).map (fun digit => Nat.digitChar digit.val) ≠ [] := by simp
    show fraction ('.' :: ((digit :: more).map _ ++ rest)) = _
    rw [fraction, takeWhile_isDigit digits hrest, if_neg some_digit, fractionValue_map,
      List.dropWhile_append_of_pos digits]
    cases rest with
    | nil => rfl
    | cons c rest => rw [List.dropWhile_cons_of_neg (by simp [hrest c rfl])]

/-! ## Whole texts -/

/-- What may follow a time of day: nothing that goes on with its fraction. -/
structure Follows (rest : List Char) : Prop where
  ends : Ends rest
  noPoint : '.' ∉ rest.head?

/-- A mark is read where it stands. -/
theorem mark_cons (c : Char) (rest : List Char) : mark c (c :: rest) = some ((), rest) :=
  if_pos rfl

/-- The fields of a date and a time of day. -/
def civil (d : Date) (t : TimeOfDay) : CivilTime :=
  { year := d.year, month := d.month, day := d.day
    hour := t.hour, minute := t.minute, second := t.second, nanosecond := t.nanoseconds }

variable {d : Date}

/-- A written date and time of day are read in front of what does not go on with them. -/
theorem fullTime_append (hfirst : 0 ≤ d.year) (hlast : d.year ≤ 9999) (t : TimeOfDay)
    {separator : Char} (hseparator : separator = 'T' ∨ separator = ' ') (hrest : Follows rest) :
    fullTime (d.text ++ separator :: t.text ++ rest) = some (civil d t, rest) := by
  have hyear : (d.year.toNat : Int) = d.year := Int.toNat_of_nonneg hfirst
  have year := fixedNumber_append (writes_fourDigits (n := d.year.toNat) (by omega))
  have month := fixedNumber_append (writes_twoDigits d.month_lt)
  have day := fixedNumber_append (writes_twoDigits d.day_lt)
  have hour := fixedNumber_append (writes_twoDigits (n := t.hour) (by omega))
  have minute := fixedNumber_append (writes_twoDigits (n := t.minute) (by omega))
  have second := fixedNumber_append (writes_twoDigits (n := t.second) (by omega))
  have part := fraction_append t.fraction hrest.ends hrest.noPoint
  have separated (later : List Char) : (mark 'T' (separator :: later) <|>
      mark 't' (separator :: later) <|> mark ' ' (separator :: later)) = some ((), later) := by
    rcases hseparator with rfl | rfl <;> rfl
  simp only [fullTime, Date.text, TimeOfDay.text, List.append_assoc, List.cons_append,
    Option.bind_eq_bind, Option.bind_some, mark_cons, separated, year, month, day, hour, minute,
    second, part, hyear]
  rfl

/-- A written date and time of day are valid. -/
theorem isValid_civil (d : Date) (t : TimeOfDay) : Calendar.isValid (civil d t) = true := by
  have hour : t.hour.val ≤ 23 := Nat.le_of_lt_succ t.hour.isLt
  have minute : t.minute.val ≤ 59 := Nat.le_of_lt_succ t.minute.isLt
  have second : t.second.val ≤ 60 := Nat.le_of_lt t.second.isLt
  have below : leading 9 t.fraction < 1000000000 := leading_lt 9 t.fraction
  unfold Calendar.isValid
  simp only [Bool.and_eq_true, decide_eq_true_eq]
  exact ⟨⟨⟨⟨⟨⟨d.isMonth, d.isDay.1⟩, d.isDay.2⟩, hour⟩, minute⟩, second⟩, below⟩

/-- The instant of a written date and time of day. -/
theorem instantOf_civil (d : Date) (t : TimeOfDay) (ahead : Int) :
    Calendar.instantOf (civil d t) ahead =
      ⟨d.number * 86400 + t.seconds - ahead, t.nanoseconds⟩ := by
  have noLeap : ¬ (civil d t).second = 60 := Nat.ne_of_lt t.second.isLt
  have last : min (civil d t).second 59 = t.second.val :=
    Nat.min_eq_left (Nat.le_of_lt_succ t.second.isLt)
  have sum : d.number * 86400 + t.hour.val * 3600 + t.minute.val * 60 + t.second.val - ahead =
      d.number * 86400 + t.seconds - ahead := by
    rw [TimeOfDay.seconds]
    omega
  rw [Calendar.instantOf, if_neg noLeap, last, ← sum]
  rfl

/-- A time of day may end a text. -/
theorem follows_nil : Follows [] :=
  ⟨nofun, nofun⟩

/-- A written offset does not go on with a time of day. -/
theorem follows_zone (zone : Zone) : Follows zone.text := by
  cases zone with
  | utc => exact ⟨by rintro c ⟨⟩; rfl, by decide⟩
  | offset west hours minutes =>
    cases west with
    | true => exact ⟨by rintro c ⟨⟩; rfl, nofun⟩
    | false => exact ⟨by rintro c ⟨⟩; rfl, nofun⟩

/-- A written offset is read. -/
theorem offset_text (zone : Zone) : offset zone.text = some (zone.ahead, []) := by
  cases zone with
  | utc => rfl
  | offset west hours minutes =>
    have hour := fixedNumber_append (writes_twoDigits (n := hours) (by omega))
    have minute := fixedNumber_append (writes_twoDigits (n := minutes) (by omega)) []
    rw [List.append_nil] at minute
    have range : hours.val ≤ 23 ∧ minutes.val ≤ 59 := by omega
    cases west with
    | true =>
      show offset ('-' :: (twoDigits hours ++ ':' :: twoDigits minutes)) = _
      rw [offset, if_neg (by decide), if_pos (by decide)]
      simp only [Option.bind_eq_bind, Option.bind_some, hour, mark_cons, minute, if_pos range]
      rfl
    | false =>
      show offset ('+' :: (twoDigits hours ++ ':' :: twoDigits minutes)) = _
      rw [offset, if_neg (by decide), if_pos (by decide)]
      simp only [Option.bind_eq_bind, Option.bind_some, hour, mark_cons, minute, if_pos range]
      rfl

/-- A character that is no digit does not go on with a number. -/
theorem ends_cons {c : Char} (h : c.isDigit = false) (rest : List Char) : Ends (c :: rest) := by
  rintro d ⟨⟩
  exact h

/-- A fraction does not go on with a number. -/
theorem ends_fractionText (written : List (Fin 10)) : Ends (TimeOfDay.fractionText written) := by
  cases written with
  | nil => exact nofun
  | cons digit more => exact ends_cons rfl _

/-- A text with an offset is that of RFC 3339. -/
theorem ofRfc3339_zone (hfirst : 0 ≤ d.year) (hlast : d.year ≤ 9999) (t : TimeOfDay)
    (zone : Zone) : ofRfc3339? (d.text ++ 'T' :: t.text ++ zone.text) =
      some ⟨d.number * 86400 + t.seconds - zone.ahead, t.nanoseconds⟩ := by
  have time := fullTime_append hfirst hlast t (.inl rfl) (follows_zone zone)
  simp only [ofRfc3339?, time, offset_text, Option.bind_eq_bind, Option.bind_some, isValid_civil,
    and_self, if_true, instantOf_civil]

/-- A text without an offset is not that of RFC 3339. -/
theorem ofRfc3339_local (hfirst : 0 ≤ d.year) (hlast : d.year ≤ 9999) (t : TimeOfDay)
    {separator : Char} (hseparator : separator = 'T' ∨ separator = ' ') :
    ofRfc3339? (d.text ++ separator :: t.text) = none := by
  have time := fullTime_append hfirst hlast t hseparator follows_nil
  rw [List.append_nil] at time
  rw [ofRfc3339?, time]
  rfl

/-- Reads the time of day of a date to the end of the text, for a local time taken as UTC. -/
def localTime (d : Date) (cs : List Char) : Option Instant := do
  let (hour, cs) ← looseNumber cs
  let ((), cs) ← mark ':' cs
  let (minute, cs) ← looseNumber cs
  let ((), cs) ← mark ':' cs
  let (second, cs) ← looseNumber cs
  let (nanosecond, cs) ← fraction cs
  let time : CivilTime :=
    { year := d.year, month := d.month, day := d.day, hour, minute, second, nanosecond }
  if cs = [] ∧ hasDate d.year ∧ Calendar.isValid time then some (Calendar.instantOf time 0)
  else none

/-- A date is read up to what follows its day, also where its numbers may be shorter. -/
theorem ofLocal_date (hfirst : 0 ≤ d.year) (hlast : d.year ≤ 9999) {rest : List Char}
    (hrest : Ends rest) (reader : Reader Unit) :
    ofLocal? reader (d.text ++ rest) = (reader rest).bind fun found => localTime d found.2 := by
  have hyear : (d.year.toNat : Int) = d.year := Int.toNat_of_nonneg hfirst
  have dash (later : List Char) : Ends ('-' :: later) := ends_cons rfl later
  have year (later : List Char) :=
    looseYear_append (writes_fourDigits (n := d.year.toNat) (by omega)) (dash later)
  have month (later : List Char) := looseNumber_append (writes_twoDigits d.month_lt) (dash later)
  have day := looseNumber_append (writes_twoDigits d.day_lt) hrest
  simp only [ofLocal?, Date.text, List.append_assoc, List.cons_append, Option.bind_eq_bind,
    Option.bind_some, mark_cons, year, month, day, hyear, localTime]

/-- A written time of day is read to the end. -/
theorem localTime_text (hfirst : 0 ≤ d.year) (hlast : d.year ≤ 9999) (t : TimeOfDay) :
    localTime d t.text = some ⟨d.number * 86400 + t.seconds, t.nanoseconds⟩ := by
  have colon (later : List Char) : Ends (':' :: later) := ends_cons rfl later
  have hour (later : List Char) :=
    looseNumber_append (writes_twoDigits (n := t.hour) (by omega)) (colon later)
  have minute (later : List Char) :=
    looseNumber_append (writes_twoDigits (n := t.minute) (by omega)) (colon later)
  have second := looseNumber_append (writes_twoDigits (n := t.second) (by omega))
    (ends_fractionText t.fraction)
  have part := fraction_append t.fraction follows_nil.ends follows_nil.noPoint
  rw [List.append_nil] at part
  have held : hasDate d.year = true := by
    rw [hasDate, Bool.and_eq_true, decide_eq_true_iff, decide_eq_true_iff]
    omega
  have valid := isValid_civil d t
  have instant := instantOf_civil d t 0
  rw [Int.sub_zero] at instant
  simp only [civil, TimeOfDay.nanoseconds] at valid instant
  simp only [localTime, TimeOfDay.text, List.append_assoc, List.cons_append, Option.bind_eq_bind,
    Option.bind_some, mark_cons, hour, minute, second, part, held, valid, and_self, if_true,
    instant, TimeOfDay.nanoseconds]

/-- A letter between date and time is not read as blanks. -/
theorem ofLocal_blanks (hfirst : 0 ≤ d.year) (hlast : d.year ≤ 9999) (t : TimeOfDay) :
    ofLocal? blanks (d.text ++ 'T' :: t.text) = none := by
  rw [ofLocal_date hfirst hlast (ends_cons rfl t.text)]
  rfl

/-- A text without an offset stands for the instant of its time in UTC. -/
theorem ofText_local (hfirst : 0 ≤ d.year) (hlast : d.year ≤ 9999) (t : TimeOfDay)
    {separator : Char} (hseparator : separator = 'T' ∨ separator = ' ') :
    ofText? (String.ofList (d.text ++ separator :: t.text)) =
      some ⟨d.number * 86400 + t.seconds, t.nanoseconds⟩ := by
  rw [ofText?, String.toList_ofList]
  simp only [ofRfc3339_local hfirst hlast t hseparator]
  rcases hseparator with rfl | rfl
  · simp only [ofLocal_blanks hfirst hlast]
    show ofLocal? (mark 'T') _ = _
    rw [ofLocal_date hfirst hlast (ends_cons rfl _), mark_cons]
    exact localTime_text hfirst hlast t
  · have skipped : blanks (' ' :: t.text) = some ((), t.text) := by
      have stop := blanks_append (writes_twoDigits (n := t.hour) (by omega))
      rw [TimeOfDay.text, List.append_assoc, List.append_assoc]
      exact stop _
    rw [ofLocal_date hfirst hlast (ends_cons rfl _), skipped, Option.bind_some,
      localTime_text hfirst hlast t]
    rfl

/-- Texts of instants are read as they are written. In the years 0 to 9999 a written date has one
count of days since the epoch, and a text of the date, a time of day and an offset stands for the
instant of that day and time less the offset. A text without an offset, with a letter or a blank
between its date and time, is read as the same text with the letter of UTC. -/
theorem reads_written (d : Date) (hfirst : 0 ≤ d.year) (hlast : d.year ≤ 9999) (t : TimeOfDay) :
    ∃ days : Int, (∀ n, d.IsDay n ↔ n = days) ∧
      (∀ zone : Zone,
        FromValue.read? (.text (String.ofList (d.text ++ 'T' :: t.text ++ zone.text))) =
          some (⟨days * 86400 + t.seconds - zone.ahead, t.nanoseconds⟩ : Instant)) ∧
      ∀ separator, separator = 'T' ∨ separator = ' ' →
        (FromValue.read? (.text (String.ofList (d.text ++ separator :: t.text))) : Option Instant) =
          FromValue.read?
            (.text (String.ofList (d.text ++ 'T' :: t.text ++ Zone.text .utc))) := by
  have zoned (zone : Zone) :
      FromValue.read? (.text (String.ofList (d.text ++ 'T' :: t.text ++ zone.text))) =
        some (⟨d.number * 86400 + t.seconds - zone.ahead, t.nanoseconds⟩ : Instant) := by
    show ofText? _ = _
    rw [ofText?, String.toList_ofList]
    simp only [ofRfc3339_zone hfirst hlast t zone]
    rfl
  refine ⟨d.number, fun n => Date.isDay_iff, zoned, fun separator hseparator => ?_⟩
  have utc := zoned .utc
  rw [Zone.ahead, Int.sub_zero] at utc
  rw [utc]
  exact ofText_local hfirst hlast t hseparator

/-- The end of February in a leap year. -/
def leapDay : Date := ⟨2024, 2, 29, by decide, by decide⟩

/-- Late on a leap day, an hour and a half west of UTC, it is March in UTC. -/
theorem reads_written_leapDay :
    0 ≤ leapDay.year ∧ leapDay.year ≤ 9999 ∧
      FromValue.read? (.text "2024-02-29T22:45:07.250-01:30") =
        some (⟨1709252107, 250000000⟩ : Instant) := by
  obtain ⟨days, counted, zoned, -⟩ :=
    reads_written leapDay (by decide) (by decide) ⟨22, 45, 7, [2, 5, 0]⟩
  obtain rfl : 19782 = days := (counted 19782).1 (Date.isDay_iff.2 (by decide))
  have written : String.ofList (leapDay.text ++
      'T' :: TimeOfDay.text ⟨22, 45, 7, [2, 5, 0]⟩ ++ Zone.text (.offset true 1 30)) =
        "2024-02-29T22:45:07.250-01:30" := by decide
  have instant : (⟨19782 * 86400 + TimeOfDay.seconds ⟨22, 45, 7, [2, 5, 0]⟩ -
      Zone.ahead (.offset true 1 30), TimeOfDay.nanoseconds ⟨22, 45, 7, [2, 5, 0]⟩⟩ : Instant) =
        ⟨1709252107, 250000000⟩ := by decide
  have read := zoned (.offset true 1 30)
  rw [written, instant] at read
  exact ⟨by decide, by decide, read⟩

end Instant

end SqlMapper
