import Mathlib.Algebra.Order.Floor.Semifield
import Mathlib.Data.Rat.Floor
import Scaffold.Duration
import Scaffold.Proofs.Number.Rounding

/-!
# What durations show

Below a minute a duration shows its seconds, rounded to two places; from a minute on, its minutes and the whole
seconds beside them. The minutes are taken off before the seconds are rounded, so that the last half hundredth
below a minute shows sixty seconds.

* `Reading.Shows`: which minutes and seconds a duration shows;
* `shown_seconds_iff`: for which durations the seconds that are shown are below sixty.
-/

namespace Scaffold.Duration

/-! ## Readings -/

/-- What the text of a duration shows: hundredths of seconds, or minutes and seconds. -/
inductive Reading where
  | short (hundredths : ℕ)
  | long (minutes seconds : ℕ)

namespace Reading

/-- The text of a reading. -/
def text : Reading → String
  | short h => toString (h / 100) ++ "." ++ zeroPadded 2 (h % 100) ++ "s"
  | long m s => toString m ++ "m " ++ toString s ++ "s"

/-- The seconds part of a reading. -/
def seconds : Reading → ℚ
  | short h => h / 100
  | long _ s => s

/-- The reading of a duration: below a minute the nearest hundredth, the even one of two that are as near, and
from a minute on the minutes and seconds of its whole seconds. -/
inductive Shows (q : ℚ) : Reading → Prop where
  | short {h : ℕ} (hq : q < 60) (hnear : |q - h / 100| ≤ 1 / 200)
    (htie : |q - h / 100| = 1 / 200 → h % 2 = 0) : Shows q (short h)
  | long {m s : ℕ} (hq : 60 ≤ q) (hm : 1 ≤ m) (hs : s < 60) (hsum : 60 * m + s = ⌊q⌋₊) : Shows q (long m s)

end Reading

open Reading

variable {num den : ℕ}

/-! ## The two forms -/

theorem div_lt_sixty_iff (hden : 0 < den) : (num : ℚ) / den < 60 ↔ num < 60 * den := by
  have hpos : (0 : ℚ) < den := by exact_mod_cast hden
  rw [div_lt_iff₀ hpos]
  exact_mod_cast Iff.rfl

/-- Minutes are shown from one minute on. -/
theorem minutes_pos_iff (hden : 0 < den) : 0 < num / (60 * den) ↔ 60 * den ≤ num :=
  Nat.div_pos_iff.trans (and_iff_right (by omega))

/-- Below a minute the hundredths are those of the rounded duration. -/
theorem shows_short (hden : 0 < den) (h : num < 60 * den) :
    ofRatio num den = (short (Binary64.roundHalfEven (num * 100) den)).text
      ∧ Shows (num / den) (short (Binary64.roundHalfEven (num * 100) den)) := by
  have hminutes : ¬ 0 < num / (60 * den) := by
    rw [minutes_pos_iff hden]
    omega
  have hscale : ((num * 100 : ℕ) : ℚ) / den - Binary64.roundHalfEven (num * 100) den
      = 100 * (num / den - Binary64.roundHalfEven (num * 100) den / 100) := by
    push_cast
    ring
  have hnear := Binary64.abs_sub_roundHalfEven_le (num * 100) hden
  have htie := Binary64.even_roundHalfEven_of_tie (num * 100) hden
  rw [hscale, abs_mul, abs_of_pos (by norm_num : (0 : ℚ) < 100)] at hnear htie
  refine ⟨?_, .short ((div_lt_sixty_iff hden).2 h) (by linarith) fun hfar => htie (by linarith)⟩
  rw [ofRatio, Duration.text, if_neg hminutes, Nat.mod_eq_of_lt h]
  rfl

/-- From a minute on the minutes and the whole seconds beside them are those of the whole seconds. -/
theorem shows_long (hden : 0 < den) (h : 60 * den ≤ num) :
    ofRatio num den = (long (num / (60 * den)) (num % (60 * den) / den)).text
      ∧ Shows (num / den) (long (num / (60 * den)) (num % (60 * den) / den)) := by
  have hminutes : 0 < num / (60 * den) := (minutes_pos_iff hden).2 h
  have hless : num % (60 * den) < 60 * den := Nat.mod_lt num (by omega)
  have hsum : num = den * (60 * (num / (60 * den))) + num % (60 * den) := by
    have hdiv := Nat.div_add_mod num (60 * den)
    rw [Nat.mul_comm 60 den, Nat.mul_assoc] at hdiv
    rw [Nat.mul_comm 60 den]
    exact hdiv.symm
  have hwhole : num / den = 60 * (num / (60 * den)) + num % (60 * den) / den := by
    conv => lhs; rw [hsum]
    exact Nat.mul_add_div hden _ _
  refine ⟨?_, .long ?_ hminutes ((Nat.div_lt_iff_lt_mul hden).2 hless) ?_⟩
  · rw [ofRatio, Duration.text, if_pos hminutes]
    rfl
  · rw [← not_lt, div_lt_sixty_iff hden]
    omega
  · rw [Nat.floor_div_eq_div, hwhole]

/-! ## The seconds part -/

/-- Sixty seconds are shown by the last half hundredth below a minute, and by nothing else. -/
theorem Reading.Shows.seconds_lt_iff {q : ℚ} {r : Reading} (h : Shows q r) :
    r.seconds < 60 ↔ ¬ (11999 / 200 ≤ q ∧ q < 60) := by
  cases h with
  | @long m s hq _ hs _ =>
    have hless : ((s : ℕ) : ℚ) < 60 := by exact_mod_cast hs
    exact iff_of_true hless fun hshort => absurd hshort.2 (not_lt.2 hq)
  | @short h hq hnear htie =>
    obtain ⟨hlow, hhigh⟩ := abs_le.1 hnear
    have hseconds : (Reading.short h).seconds = h / 100 := rfl
    rw [hseconds, not_and_or, not_le, not_lt, or_iff_left (not_le.2 hq)]
    constructor
    · intro hless
      by_contra hlast
      rw [not_lt] at hlast
      -- Only the hundredth below sixty is near enough, and it is odd.
      have hupper : (h : ℚ) < 6000 := by linarith
      have hlower : (5998 : ℚ) < h := by linarith
      have hodd : h = 5999 := by
        have hupper' : h < 6000 := by exact_mod_cast hupper
        have hlower' : 5998 < h := by exact_mod_cast hlower
        omega
      subst hodd
      have hfar : |q - ((5999 : ℕ) : ℚ) / 100| = 1 / 200 := by
        apply le_antisymm hnear
        rw [le_abs]
        left
        push_cast
        linarith
      exact absurd (htie hfar) (by decide)
    · intro hless
      by_contra hfull
      rw [not_lt] at hfull
      linarith

/-! ## Floating-point seconds -/

/-- Whole minutes are found exactly as long as their seconds are whole floating-point numbers. -/
theorem minutesNear_eq (h : num < 2 ^ 53 * den) : minutesNear num den = num / (60 * den) := by
  have hlimit : num / (60 * den) * 60 < 2 ^ 53 := by
    by_contra hfull
    rw [not_lt] at hfull
    have hle : num / (60 * den) * 60 * den ≤ num := by
      rw [Nat.mul_assoc]
      exact Nat.div_mul_le_self num (60 * den)
    exact absurd (le_trans (Nat.mul_le_mul_right den hfull) hle) (not_le.2 h)
  obtain ⟨c, hc, hseconds⟩ := Binary64.exists_toRatio?_ofRatio hlimit Nat.one_pos
  rw [Nat.mul_one] at hseconds
  have hminutes : num / (60 * den) < 2 ^ 53 := by omega
  obtain ⟨d, hd, hwhole⟩ := Binary64.exists_toRatio?_ofRatio hminutes (by omega : 0 < c * 60)
  have hquotient : num / (60 * den) * 60 * c = num / (60 * den) * (c * 60) := by ring
  have hexact : 2 * (num / (60 * den) * d % d) < d := by
    rw [Nat.mul_mod_left]
    omega
  rw [minutesNear, hseconds]
  dsimp only
  rw [hquotient, wholeNear, hwhole]
  dsimp only
  rw [if_neg (Nat.lt_asymm hexact), Nat.mul_div_cancel _ hd]

theorem ofValue_int (n : ℕ) : ofValue (.int n) = .ok (ofRatio n 1) := by
  have hpos : ¬ (n : Int) < 0 := by omega
  rw [ofValue, ofInt, if_neg hpos, Int.toNat_natCast]

theorem ofValue_float {m : ℕ} {e : Int} (hratio : Binary64.ratio m e = (num, den)) (h : num < 2 ^ 53 * den) :
    ofValue (.float (.finite false m e)) = .ok (ofRatio num den) := by
  have hvalue : ofValue (.float (.finite false m e)) = .ok (Duration.text
      (minutesNear (Binary64.ratio m e).1 (Binary64.ratio m e).2)
      ((Binary64.ratio m e).1 % (60 * (Binary64.ratio m e).2)) (Binary64.ratio m e).2) := rfl
  rw [hvalue, hratio, minutesNear_eq h, ofRatio]

/-! ## Durations -/

/-- A duration shows its nearest hundredth below a minute and its minutes and whole seconds from a minute on, and
the seconds part is below sixty unless the duration is one of the last half hundredth below a minute. This is the
text of a whole number of seconds and, as long as floating-point numbers are fine enough for whole seconds, of a
floating-point number. -/
theorem shown_seconds_iff (hden : 0 < den) :
    (∃ r : Reading, ofRatio num den = r.text ∧ Shows (num / den) r
        ∧ (r.seconds < 60 ↔ ¬ (11999 / 200 ≤ (num : ℚ) / den ∧ (num : ℚ) / den < 60)))
      ∧ (den = 1 → ofValue (.int num) = .ok (ofRatio num den))
      ∧ ∀ (m : ℕ) (e : Int), Binary64.ratio m e = (num, den) → num < 2 ^ 53 * den →
        ofValue (.float (.finite false m e)) = .ok (ofRatio num den) := by
  refine ⟨?_, ?_, fun m e hratio h => ofValue_float hratio h⟩
  · by_cases h : num < 60 * den
    · obtain ⟨htext, hshows⟩ := shows_short hden h
      exact ⟨_, htext, hshows, hshows.seconds_lt_iff⟩
    · obtain ⟨htext, hshows⟩ := shows_long hden (not_lt.1 h)
      exact ⟨_, htext, hshows, hshows.seconds_lt_iff⟩
  · rintro rfl
    exact ofValue_int num

/-- The floating-point number that is nearest to a minute and five and a fifth seconds. -/
theorem shown_seconds_of_a_minute :
    0 < 70368744177664 ∧ Binary64.ratio 4588042120383693 (-46) = (4588042120383693, 70368744177664)
      ∧ 4588042120383693 < 2 ^ 53 * 70368744177664
      ∧ ofValue (.float (.finite false 4588042120383693 (-46))) = .ok "1m 5s"
      ∧ ∃ r : Reading, "1m 5s" = r.text ∧ r.seconds < 60 := by
  have hden : 0 < 70368744177664 := by decide
  have hratio : Binary64.ratio 4588042120383693 (-46) = (4588042120383693, 70368744177664) := by decide
  have hlimit : 4588042120383693 < 2 ^ 53 * 70368744177664 := by decide
  have htext : ofRatio 4588042120383693 70368744177664 = "1m 5s" := by decide
  obtain ⟨⟨r, hr, -, hseconds⟩, -, hfloat⟩ := @shown_seconds_iff 4588042120383693 70368744177664 hden
  refine ⟨hden, hratio, hlimit, htext ▸ hfloat _ _ hratio hlimit, r, htext ▸ hr, hseconds.2 ?_⟩
  norm_num

/-- Four thousandths below a minute sixty seconds are shown, also for the nearest floating-point number. -/
theorem shown_sixty_seconds :
    ofRatio 59996 1000 = "60.00s" ∧ ofValue (.float (.finite false 8443686351366259 (-47))) = .ok "60.00s"
      ∧ (short 6000).text = "60.00s" ∧ ¬ (short 6000).seconds < 60 := by
  refine ⟨by decide, ?_, by decide, ?_⟩
  · have hratio : Binary64.ratio 8443686351366259 (-47) = (8443686351366259, 140737488355328) := by decide
    have htext : ofRatio 8443686351366259 140737488355328 = "60.00s" := by decide
    rw [ofValue_float hratio (by decide), htext]
  · show ¬ ((6000 : ℕ) : ℚ) / 100 < 60
    norm_num

end Scaffold.Duration
