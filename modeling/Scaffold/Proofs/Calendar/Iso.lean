import Scaffold.Calendar.Iso

/-!
# Moments in the extended form

A day and a clock reading to the minute, each with its separators, can stand alone when more follows them:
seconds, fractions and distances from universal time take nothing away from what is in front of them.

The value of a date-time input is in this form, but for the year, which has no zeros in front of it. A year of
four digits is read back; one of fewer digits leaves a sign where a digit is read, and the text is no moment.

* `isSome_moment?_take`: what follows the minutes can be left out;
* `moment?_inputText_iff`: which values of date-time inputs are read back.
-/

namespace Scaffold

/-! ## Digits of numbers -/

theorem isDecimalDigit_digitChar {n : Nat} (h : n < 10) : isDecimalDigit n.digitChar = true := by
  have hn := Nat.toNat_digitChar_of_lt_ten h
  have hrange : 48 ≤ n.digitChar.toNat ∧ n.digitChar.toNat ≤ 57 := by omega
  simpa [isDecimalDigit, Char.le_def, UInt32.le_iff_toNat_le] using hrange

theorem toList_toString_nat (n : Nat) : (toString n).toList = Nat.toDigits 10 n := by
  rw [Nat.toString_eq_ofList_toDigits, String.toList_ofList]

/-- The last digit of a number stands behind the digits of its tenth part. -/
theorem toDigits_ten {n : Nat} (h : 10 ≤ n) :
    Nat.toDigits 10 n = Nat.toDigits 10 (n / 10) ++ [(n % 10).digitChar] :=
  Nat.toDigits_of_base_le (by decide) h

theorem toList_zeroPadded_two {n : Nat} (h : n < 100) :
    (zeroPadded 2 n).toList = [(n / 10).digitChar, (n % 10).digitChar] := by
  rw [zeroPadded, String.toList_append, String.toList_ofList, ← String.length_toList, toList_toString_nat]
  by_cases hn : n < 10
  · have hzero : n / 10 = 0 := by omega
    have hself : n % 10 = n := by omega
    rw [Nat.toDigits_of_lt_base hn, hzero, hself]
    rfl
  · rw [toDigits_ten (by omega), Nat.toDigits_of_lt_base (by omega : n / 10 < 10)]
    rfl

/-- The digits of a number of four digits. -/
theorem toDigits_four {n : Nat} (h : 1000 ≤ n) (hn : n < 10000) : Nat.toDigits 10 n
    = [(n / 1000).digitChar, (n / 100 % 10).digitChar, (n / 10 % 10).digitChar, (n % 10).digitChar] := by
  have hhundreds : n / 10 / 10 = n / 100 := Nat.div_div_eq_div_mul n 10 10
  have hthousands : n / 100 / 10 = n / 1000 := Nat.div_div_eq_div_mul n 100 10
  rw [toDigits_ten (by omega), toDigits_ten (by omega : 10 ≤ n / 10), hhundreds,
    toDigits_ten (by omega : 10 ≤ n / 100), hthousands, Nat.toDigits_of_lt_base (by omega : n / 1000 < 10)]
  rfl

theorem length_toDigits_lt_four {n : Nat} (h : n < 1000) : (Nat.toDigits 10 n).length < 4 :=
  Nat.lt_succ_of_le ((Nat.length_toDigits_le_iff (by decide) (by decide)).2 h)

/-! ## Days and times of day -/

theorem Date.bounds (d : Date) : 1 ≤ d.year ∧ d.year ≤ 9999 ∧ d.month < 100 ∧ d.day < 100 := by
  have h := d.exists_day
  simp only [Calendar.isDay, Bool.and_eq_true, decide_eq_true_eq] at h
  obtain ⟨⟨⟨hfirst, hlast⟩, hday⟩, hmonth⟩ := h
  unfold Calendar.firstYear at hfirst
  unfold Calendar.lastYear at hlast
  have hdays : Calendar.daysInMonth d.year d.month ≤ 31 ∧
      (12 < d.month → Calendar.daysInMonth d.year d.month = 0) := by
    have hfebruary : (if Calendar.isLeap d.year then 29 else 28) ≤ 29 := by
      split <;> omega
    unfold Calendar.daysInMonth
    split <;> omega
  omega

theorem Date.of?_self (d : Date) : Date.of? d.year d.month d.day = some d := by
  rw [Date.of?, dif_pos d.exists_day]

theorem TimeOfDay.bounds (t : TimeOfDay) : t.hour < 24 ∧ t.minute < 60 := by
  have h := t.in_day
  simp only [Bool.and_eq_true, decide_eq_true_eq] at h
  exact ⟨h.1.1.1, h.1.1.2⟩

/-- The time of day without seconds. -/
def TimeOfDay.toMinute (t : TimeOfDay) : TimeOfDay where
  hour := t.hour
  minute := t.minute
  second := 0
  microsecond := 0
  in_day := by simp [t.bounds]

theorem TimeOfDay.of?_toMinute (t : TimeOfDay) : TimeOfDay.of? t.hour t.minute 0 0 = some t.toMinute := by
  rw [TimeOfDay.of?]
  exact dif_pos t.toMinute.in_day

/-- The moment without seconds and without a distance from universal time. -/
def Moment.toMinute (m : Moment) : Moment where
  date := m.date
  time := m.time.toMinute
  offset := none

/-- The first moment of a day. -/
def Date.midnight (d : Date) : Moment where
  date := d
  time := ⟨0, 0, 0, 0, by decide⟩
  offset := none

/-! ## Values of date-time inputs -/

theorem Moment.toList_inputText (m : Moment) : m.inputText.toList
    = Nat.toDigits 10 m.date.year ++ '-' :: (m.date.month / 10).digitChar :: (m.date.month % 10).digitChar
      :: '-' :: (m.date.day / 10).digitChar :: (m.date.day % 10).digitChar
      :: 'T' :: (m.time.hour / 10).digitChar :: (m.time.hour % 10).digitChar
      :: ':' :: (m.time.minute / 10).digitChar :: [(m.time.minute % 10).digitChar] := by
  obtain ⟨-, -, hmonth, hday⟩ := m.date.bounds
  obtain ⟨hhour, hminute⟩ := m.time.bounds
  simp only [Moment.inputText, Date.inputText, String.toList_append, toList_toString_nat,
    toList_zeroPadded_two hmonth, toList_zeroPadded_two hday, toList_zeroPadded_two (by omega : m.time.hour < 100),
    toList_zeroPadded_two (by omega : m.time.minute < 100)]
  simp

theorem Date.inputMoment_eq (d : Date) : d.inputMoment = d.midnight.inputText := by
  have hzero : zeroPadded 2 0 = "00" := by decide
  simp [Date.inputMoment, Moment.inputText, Date.midnight, hzero, String.append_assoc]

namespace Iso

/-! ## Reading digits -/

/-- The number that digits stand for after those that were read. -/
def numberFrom (value : Nat) (ds : List Char) : Nat :=
  ds.foldl (fun value c => value * 10 + (c.toNat - '0'.toNat)) value

/-- Digits are read as a number, whatever follows them. -/
theorem digits?_append {ds : List Char} (h : ∀ c ∈ ds, isDecimalDigit c = true) (value : Nat) (rest : List Char) :
    digits? ds.length value (ds ++ rest) = some (numberFrom value ds, rest) := by
  induction ds generalizing value with
  | nil => rfl
  | cons c cs ih =>
    rw [List.length_cons, List.cons_append, digits?, if_pos (h c List.mem_cons_self)]
    exact ih (fun d hd => h d (List.mem_cons_of_mem c hd)) _

theorem digits?_two {a b : Char} (ha : isDecimalDigit a = true) (hb : isDecimalDigit b = true)
    (rest : List Char) : digits? 2 0 (a :: b :: rest) = some (numberFrom 0 [a, b], rest) := by
  have hall : ∀ c ∈ [a, b], isDecimalDigit c = true := by
    simp [ha, hb]
  exact digits?_append hall 0 rest

theorem numberFrom_digitChar (value : Nat) {n : Nat} (h : n < 10) (ds : List Char) :
    numberFrom value (n.digitChar :: ds) = numberFrom (value * 10 + n) ds := by
  have hn := Nat.toNat_digitChar_of_lt_ten h
  have hvalue : n.digitChar.toNat - '0'.toNat = n := by
    have hzero : '0'.toNat = 48 := rfl
    omega
  rw [numberFrom, List.foldl_cons, hvalue]
  rfl

theorem numberFrom_two {n : Nat} (h : n < 100) :
    numberFrom 0 [(n / 10).digitChar, (n % 10).digitChar] = n := by
  rw [numberFrom_digitChar 0 (by omega), numberFrom_digitChar _ (by omega)]
  show (0 * 10 + n / 10) * 10 + n % 10 = n
  omega

theorem numberFrom_four {n : Nat} (hn : n < 10000) : numberFrom 0
    [(n / 1000).digitChar, (n / 100 % 10).digitChar, (n / 10 % 10).digitChar, (n % 10).digitChar] = n := by
  rw [numberFrom_digitChar 0 (by omega), numberFrom_digitChar _ (by omega), numberFrom_digitChar _ (by omega),
    numberFrom_digitChar _ (by omega)]
  show (((0 * 10 + n / 1000) * 10 + n / 100 % 10) * 10 + n / 10 % 10) * 10 + n % 10 = n
  omega

/-- A number of digits is not read across a character that is none. -/
theorem digits?_eq_none {ds : List Char} {count : Nat} (h : ds.length < count) {c : Char}
    (hc : isDecimalDigit c = false) (value : Nat) (rest : List Char) :
    digits? count value (ds ++ c :: rest) = none := by
  induction ds generalizing count value with
  | nil =>
    obtain ⟨count, rfl⟩ := Nat.exists_eq_succ_of_ne_zero (by simp at h; omega : count ≠ 0)
    rw [List.nil_append, digits?, hc, if_neg Bool.false_ne_true]
  | cons d ds ih =>
    obtain ⟨count, rfl⟩ := Nat.exists_eq_succ_of_ne_zero (by simp at h; omega : count ≠ 0)
    rw [List.cons_append, digits?]
    split
    · exact ih (by simpa using h) _
    · rfl

/-! ## Clock readings -/

/-- The fields that a reading begins with are at their places in it. -/
theorem Clock.field_of_prefix {c : Clock} {fields : List Nat} (h : fields <+: c.fields) (i : Nat)
    (hi : i < fields.length) : c.field i = fields[i] := by
  obtain ⟨more, hmore⟩ := h
  rw [Clock.field, ← hmore, List.getD_eq_getElem?_getD, List.getElem?_append_left hi,
    List.getElem?_eq_getElem hi, Option.getD_some]

theorem fields_fraction? {fields : List Nat} {size : Nat} {cs : List Char} {c : Clock} {left : Bool}
    (h : fraction? fields size cs = some (c, left)) : c.fields = fields := by
  unfold fraction? at h
  dsimp only at h
  split at h
  · cases h
  · cases h
    rfl

/-- A reading keeps the fields that were read, and the next two digits are its next field. -/
theorem prefix_fields_clock? {count : Nat} {separated : Option Bool} {fields : List Nat} {size : Nat}
    {cs : List Char} {c : Clock} {left : Bool} (h : clock? separated fields count size cs = some (c, left)) :
    fields <+: c.fields
      ∧ (0 < count → ∃ value rest, digits? 2 0 cs = some (value, rest) ∧ fields ++ [value] <+: c.fields) := by
  induction count generalizing separated fields size cs with
  | zero =>
    rw [clock?] at h
    rw [fields_fraction? h]
    exact ⟨List.prefix_rfl, fun h => absurd h (Nat.lt_irrefl 0)⟩
  | succ count ih =>
    rw [clock?] at h
    cases hd : digits? 2 0 cs with
    | none =>
      rw [hd] at h
      cases h
    | some read =>
      obtain ⟨value, rest⟩ := read
      rw [hd] at h
      dsimp only at h
      -- The reading ends here, goes on with more fields or ends with a fraction: in each case the new field
      -- is kept.
      have hnext : fields ++ [value] <+: c.fields := by
        split at h
        · split at h
          · cases h
            exact List.prefix_rfl
          · cases h
        · split at h
          · exact (ih h).1
          · split at h
            · have hfields := fields_fraction? h
              exact hfields ▸ List.prefix_rfl
            · split at h
              · exact (ih h).1
              · cases h
      exact ⟨(List.prefix_append fields [value]).trans hnext, fun _ => ⟨value, rest, rfl, hnext⟩⟩

/-! ## Times -/

theorem startsOffset_of_isDecimalDigit {c : Char} (h : isDecimalDigit c = true) : startsOffset c = false := by
  have hplus := ne_of_isDecimalDigit h (by decide : isDecimalDigit '+' = false)
  have hminus := ne_of_isDecimalDigit h (by decide : isDecimalDigit '-' = false)
  have hz := ne_of_isDecimalDigit h (by decide : isDecimalDigit 'Z' = false)
  simp [startsOffset, hplus, hminus, hz]

theorem isSome_timeOfDay_iff (hour minute second microsecond : Nat) :
    (TimeOfDay.of? hour minute second microsecond).isSome = true
      ↔ hour < 24 ∧ minute < 60 ∧ second < 60 ∧ microsecond < 1000000 := by
  unfold TimeOfDay.of?
  split
  next h => simpa [and_assoc] using h
  next h => simpa [and_assoc] using h

section

variable {h₁ h₂ n₁ n₂ : Char} (hh₁ : isDecimalDigit h₁ = true) (hh₂ : isDecimalDigit h₂ = true)
  (hn₁ : isDecimalDigit n₁ = true) (hn₂ : isDecimalDigit n₂ = true)

include hh₁ hh₂

/-- A colon after the hours settles the form of what follows. -/
theorem clock?_colon (k : Nat) (rest : List Char) : clock? none [] 3 (k + 4) (h₁ :: h₂ :: ':' :: rest)
    = clock? (some true) [numberFrom 0 [h₁, h₂]] 2 (k + 1) rest := by
  rw [clock?, digits?_two hh₁ hh₂]
  simp [peek]

include hn₁ hn₂

theorem length_takeWhile_time (rest : List Char) :
    ((h₁ :: h₂ :: ':' :: n₁ :: n₂ :: rest).takeWhile fun c => !startsOffset c).length
      = (rest.takeWhile fun c => !startsOffset c).length + 5 := by
  have hcolon : startsOffset ':' = false := by decide
  simp [startsOffset_of_isDecimalDigit, hh₁, hh₂, hn₁, hn₂, hcolon]

/-- Hours and minutes in front of anything that makes a time with them are in their ranges. -/
theorem ranges_of_isSome_time? {rest : List Char}
    (h : (time? (h₁ :: h₂ :: ':' :: n₁ :: n₂ :: rest)).isSome = true) :
    numberFrom 0 [h₁, h₂] < 24 ∧ numberFrom 0 [n₁, n₂] < 60 := by
  rw [time?, length_takeWhile_time hh₁ hh₂ hn₁ hn₂, clock?_colon hh₁ hh₂] at h
  split at h
  next => cases h
  next c left hread =>
    obtain ⟨value, tail, hd, hfields⟩ := (prefix_fields_clock? hread).2 (by decide)
    rw [digits?_two hn₁ hn₂] at hd
    cases hd
    -- Whatever the reading goes on with, its first two fields are those in front.
    rw [Clock.field_of_prefix hfields 0 (by simp), Clock.field_of_prefix hfields 1 (by simp)] at h
    dsimp only at h
    split at h
    next => cases h
    next t ht =>
      have hranges := (isSome_timeOfDay_iff _ _ _ _).1 (Option.isSome_of_eq_some ht)
      exact ⟨hranges.1, hranges.2.1⟩

/-- Hours and minutes alone are the time with them if they are in their ranges. -/
theorem time?_extended : time? [h₁, h₂, ':', n₁, n₂]
    = (TimeOfDay.of? (numberFrom 0 [h₁, h₂]) (numberFrom 0 [n₁, n₂]) 0 0).map fun t => (t, none) := by
  have hread : clock? (some true) [numberFrom 0 [h₁, h₂]] 2 2 [n₁, n₂]
      = some (⟨[numberFrom 0 [h₁, h₂], numberFrom 0 [n₁, n₂]], 0⟩, false) := by
    rw [clock?, digits?_two hn₁ hn₂]
    rfl
  have hsize : ([h₁, h₂, ':', n₁, n₂].takeWhile fun c => !startsOffset c).length = 1 + 4 :=
    length_takeWhile_time hh₁ hh₂ hn₁ hn₂ []
  rw [time?, hsize, clock?_colon hh₁ hh₂, hread]
  simp only [Clock.field, List.getD_cons_zero, List.getD_cons_succ, List.getD_nil]
  cases TimeOfDay.of? (numberFrom 0 [h₁, h₂]) (numberFrom 0 [n₁, n₂]) 0 0 with
  | none => rfl
  | some t => rfl

/-- Hours and minutes in their ranges are a time. -/
theorem isSome_time? (hhour : numberFrom 0 [h₁, h₂] < 24) (hminute : numberFrom 0 [n₁, n₂] < 60) :
    (time? [h₁, h₂, ':', n₁, n₂]).isSome = true := by
  rw [time?_extended hh₁ hh₂ hn₁ hn₂, Option.isSome_map, isSome_timeOfDay_iff]
  exact ⟨hhour, hminute, by decide, by decide⟩

end

/-! ## Moments -/

section

variable {y₁ y₂ y₃ y₄ m₁ m₂ d₁ d₂ : Char}
  (h : ∀ c ∈ [y₁, y₂, y₃, y₄, m₁, m₂, d₁, d₂], isDecimalDigit c = true)

include h

theorem date?_extended (rest : List Char) :
    date? 10 (y₁ :: y₂ :: y₃ :: y₄ :: '-' :: m₁ :: m₂ :: '-' :: d₁ :: d₂ :: rest)
      = Date.of? (numberFrom 0 [y₁, y₂, y₃, y₄]) (numberFrom 0 [m₁, m₂]) (numberFrom 0 [d₁, d₂]) := by
  simp only [List.forall_mem_cons] at h
  obtain ⟨hy₁, hy₂, hy₃, hy₄, hm₁, hm₂, hd₁, hd₂, -⟩ := h
  have hall : ∀ c ∈ [y₁, y₂, y₃, y₄], isDecimalDigit c = true := by
    simp [hy₁, hy₂, hy₃, hy₄]
  have hyear : digits? 4 0 (y₁ :: y₂ :: y₃ :: y₄ :: '-' :: m₁ :: m₂ :: '-' :: d₁ :: d₂ :: rest)
      = some (numberFrom 0 [y₁, y₂, y₃, y₄], '-' :: m₁ :: m₂ :: '-' :: d₁ :: d₂ :: rest) :=
    digits?_append hall 0 _
  have hw : m₁ ≠ 'W' := ne_of_isDecimalDigit hm₁ (by decide)
  rw [date?, hyear]
  simp [peek, hw, digits?_two hm₁ hm₂, digits?_two hd₁ hd₂]

theorem dateLength?_extended (rest : List Char) :
    dateLength? (y₁ :: y₂ :: y₃ :: y₄ :: '-' :: m₁ :: m₂ :: '-' :: d₁ :: d₂ :: rest) = some 10 := by
  have hw : m₁ ≠ 'W' := ne_of_isDecimalDigit (h m₁ (by simp)) (by decide)
  simp [dateLength?, hw]

/-- A day in the extended form, any character and more text are a moment if the day is one and the text is
a time. -/
theorem moment?_extended (t : Char) (time : List Char) :
    moment? (String.ofList (y₁ :: y₂ :: y₃ :: y₄ :: '-' :: m₁ :: m₂ :: '-' :: d₁ :: d₂ :: t :: time))
      = (Date.of? (numberFrom 0 [y₁, y₂, y₃, y₄]) (numberFrom 0 [m₁, m₂]) (numberFrom 0 [d₁, d₂])).bind
        fun d => (time? time).map fun r => ⟨d, r.1, r.2⟩ := by
  obtain ⟨midnight, hmidnight⟩ : ∃ midnight, TimeOfDay.of? 0 0 0 0 = some midnight := ⟨_, rfl⟩
  rw [moment?, String.toList_ofList]
  dsimp only
  rw [dateLength?_extended h, if_neg (by simp)]
  dsimp only
  rw [date?_extended h, hmidnight]
  cases Date.of? (numberFrom 0 [y₁, y₂, y₃, y₄]) (numberFrom 0 [m₁, m₂]) (numberFrom 0 [d₁, d₂]) with
  | none => rfl
  | some d =>
    dsimp only
    rw [if_neg (by simp)]
    rfl

end

/-! ## Texts that go on -/

/-- Whether characters begin with a day and a time to the minute in the extended form, with any character
but a `Z` between the two. -/
def beginsExtended : List Char → Bool
  | y₁ :: y₂ :: y₃ :: y₄ :: '-' :: m₁ :: m₂ :: '-' :: d₁ :: d₂ :: t :: h₁ :: h₂ :: ':' :: n₁ :: n₂ :: _ =>
    [y₁, y₂, y₃, y₄, m₁, m₂, d₁, d₂, h₁, h₂, n₁, n₂].all isDecimalDigit && t != 'Z'
  | _ => false

/-- The number of characters of a day and a time to the minute in the extended form. -/
def extendedLength : Nat := 16

/-- A moment that begins in the extended form is one without what comes after the minutes. -/
theorem isSome_moment?_take {cs : List Char} (hb : beginsExtended cs = true)
    (h : (moment? (String.ofList cs)).isSome = true) :
    (moment? (String.ofList (cs.take extendedLength))).isSome = true := by
  unfold beginsExtended at hb
  split at hb
  next y₁ y₂ y₃ y₄ m₁ m₂ d₁ d₂ t h₁ h₂ n₁ n₂ rest =>
    simp only [Bool.and_eq_true, List.all_cons, List.all_nil, and_true] at hb
    obtain ⟨⟨hy₁, hy₂, hy₃, hy₄, hm₁, hm₂, hd₁, hd₂, hh₁, hh₂, hn₁, hn₂⟩, -⟩ := hb
    have hday : ∀ c ∈ [y₁, y₂, y₃, y₄, m₁, m₂, d₁, d₂], isDecimalDigit c = true := by
      simp [hy₁, hy₂, hy₃, hy₄, hm₁, hm₂, hd₁, hd₂]
    have htake : (y₁ :: y₂ :: y₃ :: y₄ :: '-' :: m₁ :: m₂ :: '-' :: d₁ :: d₂ :: t :: h₁ :: h₂ :: ':' :: n₁
        :: n₂ :: rest).take extendedLength
          = y₁ :: y₂ :: y₃ :: y₄ :: '-' :: m₁ :: m₂ :: '-' :: d₁ :: d₂ :: t :: [h₁, h₂, ':', n₁, n₂] := rfl
    rw [moment?_extended hday] at h
    rw [htake, moment?_extended hday]
    obtain ⟨m, hm⟩ := Option.isSome_iff_exists.1 h
    obtain ⟨d, hd, hmap⟩ := Option.bind_eq_some_iff.1 hm
    obtain ⟨time, htime, -⟩ := Option.map_eq_some_iff.1 hmap
    have hranges := ranges_of_isSome_time? hh₁ hh₂ hn₁ hn₂ (Option.isSome_of_eq_some htime)
    obtain ⟨short, hshort⟩ := Option.isSome_iff_exists.1
      (isSome_time? hh₁ hh₂ hn₁ hn₂ hranges.1 hranges.2)
    rw [hd, hshort]
    rfl
  next => cases hb

/-! ## Reading values of date-time inputs -/

/-- A year of four digits is read back, and the rest of the text with it. -/
theorem moment?_inputText {m : Moment} (h : 1000 ≤ m.date.year) : moment? m.inputText = some m.toMinute := by
  obtain ⟨-, hyear, hmonth, hday⟩ := m.date.bounds
  obtain ⟨hhour, hminute⟩ := m.time.bounds
  have hdigits : ∀ c ∈ [(m.date.year / 1000).digitChar, (m.date.year / 100 % 10).digitChar,
      (m.date.year / 10 % 10).digitChar, (m.date.year % 10).digitChar, (m.date.month / 10).digitChar,
      (m.date.month % 10).digitChar, (m.date.day / 10).digitChar, (m.date.day % 10).digitChar],
      isDecimalDigit c = true := by
    intro c hc
    simp only [List.mem_cons, List.not_mem_nil, or_false] at hc
    rcases hc with rfl | rfl | rfl | rfl | rfl | rfl | rfl | rfl
    all_goals exact isDecimalDigit_digitChar (by omega)
  have htime := time?_extended (isDecimalDigit_digitChar (by omega : m.time.hour / 10 < 10))
    (isDecimalDigit_digitChar (by omega : m.time.hour % 10 < 10))
    (isDecimalDigit_digitChar (by omega : m.time.minute / 10 < 10))
    (isDecimalDigit_digitChar (by omega : m.time.minute % 10 < 10))
  rw [numberFrom_two (by omega : m.time.hour < 100), numberFrom_two (by omega : m.time.minute < 100),
    m.time.of?_toMinute] at htime
  have htext : m.inputText = String.ofList m.inputText.toList := String.ofList_toList.symm
  rw [htext, m.toList_inputText, toDigits_four h (by omega)]
  refine (moment?_extended hdigits 'T' _).trans ?_
  rw [numberFrom_four (by omega), numberFrom_two hmonth, numberFrom_two hday, m.date.of?_self, htime]
  rfl

/-- A year of fewer digits has the sign after it where its last digits are read. -/
theorem moment?_inputText_eq_none {m : Moment} (h : m.date.year < 1000) : moment? m.inputText = none := by
  have hdate : ∀ size, date? size m.inputText.toList = none := by
    intro size
    rw [m.toList_inputText, date?,
      digits?_eq_none (length_toDigits_lt_four h) (by decide : isDecimalDigit '-' = false)]
  rw [moment?]
  dsimp only
  split
  · rfl
  · split
    · rfl
    next size _ => rw [hdate size]

theorem moment?_inputText_iff (m : Moment) : moment? m.inputText = some m.toMinute ↔ 1000 ≤ m.date.year := by
  by_cases h : 1000 ≤ m.date.year
  · exact ⟨fun _ => h, moment?_inputText⟩
  · rw [moment?_inputText_eq_none (by omega)]
    simp [h]

end Iso

end Scaffold
