import Scaffold.Proofs.Template.Shape

/-!
# Reading texts in quotes

What a script takes a text in single quotes for. The escapes are read from the front to the end, one
character at a time, and every text that is put in quotes is read as itself.
-/

namespace Scaffold.Script

/-! ## Reading -/

/-- The number that a hexadecimal digit stands for. -/
def hexDigit? (c : Char) : Option Nat :=
  if '0' ≤ c && c ≤ '9' then some (c.toNat - '0'.toNat)
  else if 'a' ≤ c && c ≤ 'f' then some (c.toNat - 'a'.toNat + 10)
  else if 'A' ≤ c && c ≤ 'F' then some (c.toNat - 'A'.toNat + 10)
  else none

/-- What a character after a backslash stands for, if it is an escape by itself. -/
def escaped? (c : Char) : Option Char :=
  if c == 'n' then some '\n'
  else if c == 'r' then some '\r'
  else if c == 't' then some '\t'
  else if c == 'f' then some '\x0c'
  else if c == 'b' then some '\x08'
  else if c == '\\' || c == '\'' || c == '"' then some c
  else none

/-- The character with a code point. Some code points are halves of a character. -/
def charOf? (n : Nat) : Option Char := if (Char.ofNat n).toNat == n then some (Char.ofNat n) else none

/-- Where reading stands between quotes: outside of escapes, after a backslash, or in a code point with
this many digits to come. -/
inductive Unquoting where
  | plain
  | escape
  | code (missing : Nat) (value : Nat)

/-- The text up to the closing quote, and what follows the quote. A line has to hold the whole of it. -/
def unquoteFrom : Unquoting → List Char → Option (List Char × List Char)
  | _, [] => none
  | .plain, c :: rest =>
    if c == '\'' then some ([], rest)
    else if c == '\\' then unquoteFrom .escape rest
    else if c == '\n' || c == '\r' then none
    else (unquoteFrom .plain rest).map fun r => (c :: r.1, r.2)
  | .escape, c :: rest =>
    if c == 'u' then unquoteFrom (.code 4 0) rest
    else (escaped? c).bind fun d => (unquoteFrom .plain rest).map fun r => (d :: r.1, r.2)
  | .code missing value, c :: rest =>
    (hexDigit? c).bind fun d =>
      if missing ≤ 1 then
        (charOf? (16 * value + d)).bind fun x =>
          (unquoteFrom .plain rest).map fun r => (x :: r.1, r.2)
      else unquoteFrom (.code (missing - 1) (16 * value + d)) rest

/-- The text in single quotes at the start of a text, and what follows it. -/
def unquote : List Char → Option (String × List Char)
  | [] => none
  | c :: rest =>
    if c == '\'' then (unquoteFrom .plain rest).map fun r => (String.ofList r.1, r.2) else none

/-! ## Texts that were put in quotes -/

theorem charOf?_toNat (c : Char) : charOf? c.toNat = some c := by
  rw [charOf?, Char.ofNat_toNat, beq_self_eq_true, if_pos rfl]

/-- The digits of a small code point, by what they stand for. -/
theorem map_hexDigit?_hex {n : Nat} (h : n < 32) :
    (Quoted.hex 4 n).toList.map hexDigit? = [some 0, some 0, some (n / 16), some (n % 16)] := by
  have hdigits : ∀ m < 32, (List.replicate (4 - (Nat.toDigits 16 m).length) '0'
      ++ Nat.toDigits 16 m).map hexDigit? = [some 0, some 0, some (m / 16), some (m % 16)] := by
    decide
  unfold Quoted.hex
  rw [String.toList_append, String.toList_ofList, String.toList_ofList, String.length_ofList]
  exact hdigits n h

/-- The code point of a character is read as the character. -/
theorem unquoteFrom_hex {c : Char} (h : c.toNat < 32) (rest : List Char) :
    unquoteFrom (.code 4 0) ((Quoted.hex 4 c.toNat).toList ++ rest)
      = (unquoteFrom .plain rest).map fun r => (c :: r.1, r.2) := by
  have hmap := map_hexDigit?_hex h
  obtain ⟨d₁, ds, hds, h₁, hmap⟩ := List.map_eq_cons_iff.1 hmap
  obtain ⟨d₂, ds, rfl, h₂, hmap⟩ := List.map_eq_cons_iff.1 hmap
  obtain ⟨d₃, ds, rfl, h₃, hmap⟩ := List.map_eq_cons_iff.1 hmap
  obtain ⟨d₄, ds, rfl, h₄, hmap⟩ := List.map_eq_cons_iff.1 hmap
  rw [hds, List.map_eq_nil_iff.1 hmap]
  have hvalue : 16 * (16 * (16 * (16 * 0 + 0) + 0) + c.toNat / 16) + c.toNat % 16 = c.toNat := by
    omega
  simp only [List.cons_append, List.nil_append, unquoteFrom, h₁, h₂, h₃, h₄, Option.bind_some]
  show (charOf? _).bind _ = _
  rw [hvalue, charOf?_toNat]
  rfl

/-- The characters that have an escape of their own, and the double quote, which needs none here. -/
def specialChars : List Char := ['"', '\'', '\\', '\n', '\r', '\t', '\x0c', '\x08']

/-- Other characters are escaped by their code point or not at all. -/
theorem escapeChar_of_not_mem {c : Char} (h : c ∉ specialChars) :
    escapeChar c
      = if c.toNat < 0x20 then ['\\', 'u'] ++ (Quoted.hex 4 c.toNat).toList else [c] := by
  have hne : ∀ d ∈ specialChars, (c == d) = false :=
    fun d hd => beq_eq_false_iff_ne.2 fun e => h (e ▸ hd)
  unfold specialChars at hne
  simp only [List.forall_mem_cons] at hne
  obtain ⟨hdouble, hsingle, hslash, hfeed, hreturn, htab, hform, hback, -⟩ := hne
  simp only [escapeChar, Json.escapeChar, hdouble, hsingle, hslash, hfeed, hreturn, htab, hform, hback,
    Bool.false_eq_true, if_false]

/-- An escaped character is read as the character. -/
theorem unquoteFrom_escapeChar (c : Char) (rest : List Char) :
    unquoteFrom .plain (escapeChar c ++ rest)
      = (unquoteFrom .plain rest).map fun r => (c :: r.1, r.2) := by
  by_cases hc : c ∈ specialChars
  · unfold specialChars at hc
    simp only [List.mem_cons, List.not_mem_nil, or_false] at hc
    rcases hc with rfl | rfl | rfl | rfl | rfl | rfl | rfl | rfl <;> rfl
  · rw [escapeChar_of_not_mem hc]
    split
    next hsmall =>
      have hcode (more : List Char) :
          unquoteFrom .plain ('\\' :: 'u' :: more) = unquoteFrom (.code 4 0) more := rfl
      rw [List.append_assoc, List.cons_append, List.singleton_append, hcode, unquoteFrom_hex hsmall]
    next =>
      have hne : ∀ d ∈ specialChars, (c == d) = false :=
        fun d hd => beq_eq_false_iff_ne.2 fun e => hc (e ▸ hd)
      rw [List.singleton_append, unquoteFrom, hne '\'' (by decide), hne '\\' (by decide),
        hne '\n' (by decide), hne '\r' (by decide)]
      rfl

theorem unquoteFrom_flatMap (cs rest : List Char) :
    unquoteFrom .plain (cs.flatMap escapeChar ++ '\'' :: rest) = some (cs, rest) := by
  induction cs with
  | nil => rfl
  | cons c cs ih =>
    rw [List.flatMap_cons, List.append_assoc, unquoteFrom_escapeChar, ih]
    rfl

/-- A text that was put in quotes is read as itself, whatever it holds and whatever follows it. -/
theorem unquote_quote (s : String) (rest : List Char) :
    unquote ((quote s).toList ++ rest) = some (s, rest) := by
  have hq : (quote s).toList ++ rest = '\'' :: (s.toList.flatMap escapeChar ++ '\'' :: rest) := by
    unfold quote
    rw [String.toList_append, String.toList_append, String.toList_ofList, String.toList_ofList]
    simp only [List.append_assoc, List.cons_append, List.nil_append]
  rw [hq, unquote, beq_self_eq_true, if_pos rfl, unquoteFrom_flatMap, Option.map_some,
    String.ofList_toList]

end Scaffold.Script
