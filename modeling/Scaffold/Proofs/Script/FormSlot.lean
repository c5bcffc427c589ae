import Scaffold.Proofs.Script.Push
import Scaffold.Proofs.Script.Statement

/-!
# Slots of a form

Where a view keeps the edited values of a form and what it does with them, read line by line: the keys of the
objects that the form is set to, the keys that the fields of the payload are read from, and the keys that
elements are bound to.
-/

namespace Scaffold.Script

open Intake (isIdentifierChar)
open scoped List

/-! ## Reading -/

/-- What a line of a view does with the slot of a key. -/
inductive FormSlot where
  /-- The form is set to an object with this key. -/
  | kept (key : String)
  /-- A field of the payload is read from the slot. -/
  | sent (field key : String)
  /-- An element that is named after a field is bound to the slot. -/
  | edited (field key : String)
  deriving DecidableEq, Repr

/-- The lines that open an object of edited values. -/
def formOpenings : List (List Char) := ["const form = ref(\x7b".toList, "form.value = \x7b".toList]

/-- The words in front of a field of the payload. -/
def payloadWords : List Char := "payload.".toList

/-- The words in front of a key of the form. -/
def valueWords : List Char := "form.value.".toList

/-- The words in front of the name of an element that is edited. -/
def elementWords : List (List Char) := ["<input id=\"".toList, "<textarea id=\"".toList]

/-- The words between the name of an element and its binding. -/
def bindingWords : List Char := "\" v-model".toList

/-- The words in front of a key that an element is bound to. -/
def modelWords : List Char := "=\"form.".toList

/-- The name that a text begins with. -/
def leadingName (cs : List Char) : String := String.ofList (cs.takeWhile isIdentifierChar)

/-- The key that an expression reads from the form, itself or as the argument of a function. -/
def readKey? (cs : List Char) : Option String :=
  let expression := match cs.dropWhile isIdentifierChar with
    | '(' :: argument => argument
    | _ => cs
  (after? valueWords expression).map leadingName

/-- A field of the payload that is set from the form. -/
def sent? (words : List Char) : Option FormSlot :=
  (after? payloadWords words).bind fun rest =>
    (after? " = ".toList (rest.dropWhile isIdentifierChar)).bind fun expression =>
      (readKey? expression).map (.sent (leadingName rest))

/-- An element with a binding to the form. -/
def edited? (words : List Char) : Option FormSlot :=
  (elementWords.findSome? (after? · words)).bind fun rest =>
    (after? bindingWords (rest.dropWhile isIdentifierChar)).bind fun binding =>
      (after? modelWords (binding.dropWhile (· != '='))).map fun key =>
        .edited (leadingName rest) (leadingName key)

/-- What a line does with a slot. Inside an object of edited values each line has one, up to the bracket that
closes the object. -/
def slot? (inside : Bool) (line : List Char) : Option FormSlot :=
  let words := line.dropWhile (· == ' ')
  if inside then if words.head? == some '\x7d' then none else some (.kept (leadingName words))
  else (sent? words).or (edited? words)

/-- The line after this one stands inside an object of edited values. -/
def staysInside (inside : Bool) (line : List Char) : Bool :=
  let words := line.dropWhile (· == ' ')
  if inside then words.head? != some '\x7d' else formOpenings.contains words

/-- The slots of lines, and whether what follows them stands inside an object of edited values. -/
def readSlots (inside : Bool) : List (List Char) → List FormSlot × Bool
  | [] => ([], inside)
  | line :: rest =>
    let later := readSlots (staysInside inside line) rest
    ((slot? inside line).toList ++ later.1, later.2)

/-- The slots of a view in the order of the text. -/
def formSlots (content : String) : List FormSlot := (readSlots false (Text.partsBetween '\n' content.toList)).1

/-! ## Names in lines -/

namespace IsName

variable {name : List Char} {c : Char}

theorem takeWhile_append (h : IsName name) (hc : isIdentifierChar c = false) (rest : List Char) :
    (name ++ c :: rest).takeWhile isIdentifierChar = name := by
  rw [List.takeWhile_append_of_pos h.2, List.takeWhile_cons_of_neg (by rw [hc]; exact Bool.false_ne_true),
    List.append_nil]

theorem dropWhile_append (h : IsName name) (hc : isIdentifierChar c = false) (rest : List Char) :
    (name ++ c :: rest).dropWhile isIdentifierChar = c :: rest := by
  rw [List.dropWhile_append_of_pos h.2, List.dropWhile_cons_of_neg (by rw [hc]; exact Bool.false_ne_true)]

theorem leadingName_append (h : IsName name) (hc : isIdentifierChar c = false) (rest : List Char) :
    leadingName (name ++ c :: rest) = String.ofList name := by
  rw [leadingName, h.takeWhile_append hc]

end IsName

/-! ## Lines -/

variable {field key decoder : List Char} {c : Char}

theorem readKey?_value (hk : IsName key) (hc : isIdentifierChar c = false) (more : List Char) :
    readKey? (valueWords ++ (key ++ c :: more)) = some (String.ofList key) := by
  show (after? valueWords (valueWords ++ (key ++ c :: more))).map leadingName = _
  rw [after?_word_append, Option.map_some, hk.leadingName_append hc]

theorem readKey?_decoded (hd : IsName decoder) (hk : IsName key) (hc : isIdentifierChar c = false)
    (more : List Char) :
    readKey? (decoder ++ '(' :: (valueWords ++ (key ++ c :: more))) = some (String.ofList key) := by
  unfold readKey?
  rw [hd.dropWhile_append (by decide)]
  show (after? valueWords (valueWords ++ (key ++ c :: more))).map leadingName = _
  rw [after?_word_append, Option.map_some, hk.leadingName_append hc]

theorem sent?_eq (hf : IsName field) {expression : List Char} {k : String} (h : readKey? expression = some k) :
    sent? (payloadWords ++ (field ++ (' ' :: '=' :: ' ' :: expression)))
      = some (.sent (String.ofList field) k) := by
  have hequals := after?_word_append " = ".toList expression
  rw [sent?, after?_word_append, Option.bind_some, hf.dropWhile_append (by decide),
    hf.leadingName_append (by decide)]
  exact (congrArg (Option.bind · _) hequals).trans (by rw [Option.bind_some, h, Option.map_some])

theorem edited?_eq {element modifier : List Char} (he : element ∈ elementWords) (hf : IsName field)
    (hm : '=' ∉ modifier) (hk : IsName key) (hc : isIdentifierChar c = false) (more : List Char) :
    edited? (element ++ (field ++ (bindingWords ++ (modifier ++ (modelWords ++ (key ++ c :: more))))))
      = some (.edited (String.ofList field) (String.ofList key)) := by
  have hwords : (elementWords.findSome? (after? · (element ++ (field ++ (bindingWords ++ (modifier
      ++ (modelWords ++ (key ++ c :: more)))))))) = some (field ++ (bindingWords ++ (modifier
      ++ (modelWords ++ (key ++ c :: more))))) := by
    simp only [elementWords, List.mem_cons, List.not_mem_nil, or_false] at he
    rcases he with rfl | rfl
    · rw [elementWords, List.findSome?_cons, after?_word_append]
    · rw [elementWords, List.findSome?_cons, List.findSome?_cons, after?_word_append]
      rfl
  have hmodel : (modifier ++ (modelWords ++ (key ++ c :: more))).dropWhile (· != '=')
      = modelWords ++ (key ++ c :: more) := by
    rw [List.dropWhile_append_of_pos fun d hd => bne_iff_ne.2 (ne_of_mem_of_not_mem hd hm)]
    rfl
  have hbinding : (field ++ (bindingWords ++ (modifier ++ (modelWords ++ (key ++ c :: more))))).dropWhile
      isIdentifierChar = bindingWords ++ (modifier ++ (modelWords ++ (key ++ c :: more))) :=
    hf.dropWhile_append (by decide) _
  have hfield : leadingName (field ++ (bindingWords ++ (modifier ++ (modelWords ++ (key ++ c :: more)))))
      = String.ofList field := hf.leadingName_append (by decide) _
  rw [edited?, hwords, Option.bind_some, hbinding, after?_word_append, Option.bind_some, hmodel,
    after?_word_append, Option.map_some, hfield, hk.leadingName_append hc]

/-- A line is read from its first words on. -/
theorem dropWhile_blanks {words : List Char} (h : words.head? ≠ some ' ') (n : Nat) :
    (List.replicate n ' ' ++ words).dropWhile (· == ' ') = words := by
  rw [List.dropWhile_append_of_pos fun c hc => by rw [List.eq_of_mem_replicate hc]; rfl]
  cases words with
  | nil => rfl
  | cons c rest =>
    refine List.dropWhile_cons_of_neg fun e => h ?_
    rw [List.head?_cons, beq_iff_eq.1 e]

/-! ## Lines after each other -/

/-- Lines with these slots lead from outside or inside of an object to outside or inside of one. -/
def Reads (inside : Bool) (css : List (List Char)) (ss : List FormSlot) (last : Bool) : Prop :=
  readSlots inside css = (ss, last)

instance (inside : Bool) (css : List (List Char)) (ss : List FormSlot) (last : Bool) :
    Decidable (Reads inside css ss last) := inferInstanceAs (Decidable (_ = _))

theorem Reads.append {inside middle last : Bool} {as bs : List (List Char)} {ss ts : List FormSlot}
    (ha : Reads inside as ss middle) (hb : Reads middle bs ts last) :
    Reads inside (as ++ bs) (ss ++ ts) last := by
  unfold Reads at *
  induction as generalizing inside ss with
  | nil =>
    cases ha
    exact hb
  | cons line rest ih =>
    rw [readSlots] at ha
    obtain ⟨rfl, hlast⟩ := Prod.mk.inj ha
    have hrest := ih (Prod.ext rfl hlast : readSlots (staysInside inside line) rest = (_, middle))
    rw [List.cons_append, readSlots, hrest, List.append_assoc]

/-- A key of an object of edited values. -/
theorem reads_kept (n : Nat) (hk : IsName key) (hc : isIdentifierChar c = false) (more : List Char) :
    Reads true [List.replicate n ' ' ++ (key ++ c :: more)] [.kept (String.ofList key)] true := by
  obtain ⟨d, rest, rfl⟩ := List.exists_cons_of_ne_nil hk.1
  have hd := hk.2 d List.mem_cons_self
  have hblank : (d :: rest ++ c :: more).head? ≠ some ' ' := fun e =>
    ne_of_isIdentifierChar hd (by decide) (Option.some.inj e)
  have hclose : (d :: rest ++ c :: more).head? ≠ some '}' := fun e =>
    ne_of_isIdentifierChar hd (by decide) (Option.some.inj e)
  rw [Reads, readSlots, slot?, staysInside, dropWhile_blanks hblank, if_pos rfl, if_pos rfl,
    beq_eq_false_iff_ne.2 hclose, bne_iff_ne.2 hclose, hk.leadingName_append hc]
  rfl

/-- A line outside of objects that does something with a slot, and opens no object. -/
theorem reads_slot (n : Nat) {words : List Char} {s : FormSlot} (hb : words.head? ≠ some ' ')
    (hs : (sent? words).or (edited? words) = some s) (ho : words ∉ formOpenings) :
    Reads false [List.replicate n ' ' ++ words] [s] false := by
  rw [Reads, readSlots, slot?, staysInside, dropWhile_blanks hb, if_neg Bool.false_ne_true,
    if_neg Bool.false_ne_true, hs, List.contains_eq_mem, decide_eq_false ho]
  rfl

/-- A field of the payload that is set from the form. -/
theorem reads_sent (n : Nat) (hf : IsName field) {expression : List Char} {k : String}
    (h : readKey? expression = some k) :
    Reads false [List.replicate n ' ' ++ (payloadWords ++ (field ++ (' ' :: '=' :: ' ' :: expression)))]
      [.sent (String.ofList field) k] false := by
  have hword : payloadWords.head? = some 'p' := by decide
  have hhead (tail : List Char) : (payloadWords ++ tail).head? = some 'p' := by
    rw [List.head?_append, hword, Option.some_or]
  refine reads_slot n ?blank ?slot fun ho => ?opening
  case blank =>
    rw [hhead]
    decide
  case slot => rw [sent?_eq hf h, Option.some_or]
  case opening =>
    have hopen : ∀ w ∈ formOpenings, w.head? ≠ some 'p' := by decide
    exact hopen _ ho (hhead _)

/-- An element that is bound to a slot. -/
theorem reads_edited (n : Nat) {element modifier : List Char} (he : element ∈ elementWords)
    (hf : IsName field) (hm : '=' ∉ modifier) (hk : IsName key) (hc : isIdentifierChar c = false)
    (more : List Char) :
    Reads false [List.replicate n ' ' ++ (element ++ (field ++ (bindingWords ++ (modifier ++ (modelWords
      ++ (key ++ c :: more))))))] [.edited (String.ofList field) (String.ofList key)] false := by
  -- the words begin with the mark of a tag, and no others that are looked for do
  have hmark : ∀ w ∈ elementWords, w.head? = some '<' := by decide
  have hhead (tail : List Char) : (element ++ tail).head? = some '<' := by
    rw [List.head?_append, hmark element he, Option.some_or]
  refine reads_slot n ?blank ?slot fun ho => ?opening
  case blank =>
    rw [hhead]
    decide
  case slot =>
    have hsent (tail : List Char) : sent? (element ++ tail) = none := by
      rw [sent?, after?_of_head?_ne (w := 'p') (by decide) (by rw [hhead]; decide)]
      rfl
    rw [hsent, Option.none_or, edited?_eq he hf hm hk hc more]
  case opening =>
    have hopen : ∀ w ∈ formOpenings, w.head? ≠ some '<' := by decide
    exact hopen _ ho (hhead _)

theorem after?_eq_none {word cs : List Char} (h : ¬ word <+: cs) : after? word cs = none := by
  rw [after?, if_neg (mt List.isPrefixOf_iff_prefix.1 h)]

/-- A line outside of objects does nothing with slots if none of the words of those that do stand in front
of it, and it opens no object. -/
theorem reads_of_not_prefix {line : List Char}
    (h : ∀ w ∈ payloadWords :: elementWords, ¬ w <+: line.dropWhile (· == ' '))
    (ho : line.dropWhile (· == ' ') ∉ formOpenings) : Reads false [line] [] false := by
  obtain ⟨hpayload, helements⟩ := List.forall_mem_cons.1 h
  have hs : sent? (line.dropWhile (· == ' ')) = none := by
    rw [sent?, after?_eq_none hpayload]
    rfl
  have he : edited? (line.dropWhile (· == ' ')) = none := by
    rw [edited?, List.findSome?_eq_none_iff.2 fun w hw => after?_eq_none (helements w hw)]
    rfl
  rw [Reads, readSlots, slot?, staysInside, if_neg Bool.false_ne_true, if_neg Bool.false_ne_true, hs, he,
    List.contains_eq_mem, decide_eq_false ho]
  rfl

/-- Words that go another way than those of lines that do something with slots or open an object. -/
def isIdle (words : List Char) : Bool :=
  words.head? != some ' ' && (payloadWords :: elementWords ++ formOpenings).all fun w =>
    !w.isPrefixOf words && !words.isPrefixOf w

/-- How a line begins tells that it does nothing with slots, whatever follows. -/
theorem reads_idle (n : Nat) (words : List Char) (h : isIdle words = true) (more : List Char) :
    Reads false [List.replicate n ' ' ++ (words ++ more)] [] false := by
  rw [isIdle, Bool.and_eq_true, bne_iff_ne, List.all_eq_true] at h
  obtain ⟨hb, hall⟩ := h
  have hapart : ∀ w ∈ payloadWords :: elementWords ++ formOpenings, ¬ w <+: words ∧ ¬ words <+: w := by
    intro w hw
    have h := hall w hw
    rw [Bool.and_eq_true, Bool.not_eq_true', Bool.not_eq_true', ← Bool.not_eq_true, ← Bool.not_eq_true,
      List.isPrefixOf_iff_prefix, List.isPrefixOf_iff_prefix] at h
    exact h
  have hne : words ≠ [] := by
    rintro rfl
    exact (hapart payloadWords List.mem_cons_self).2 (List.nil_prefix)
  have hdrop : (List.replicate n ' ' ++ (words ++ more)).dropWhile (· == ' ') = words ++ more := by
    refine dropWhile_blanks ?_ n
    rwa [List.head?_append_of_ne_nil _ hne]
  refine reads_of_not_prefix (fun w hw hp => ?_) fun ho => ?_
  · rw [hdrop] at hp
    have h := hapart w (List.mem_append_left _ hw)
    exact (List.prefix_or_prefix_of_prefix hp (List.prefix_append words more)).elim h.1 h.2
  · rw [hdrop] at ho
    exact (hapart _ (List.mem_append_right _ ho)).2 (List.prefix_append words more)

/-- A line of names and blanks does nothing with slots. -/
theorem reads_plain {line : List Char} (h : ∀ c ∈ line, isIdentifierChar c = true ∨ c = ' ') :
    Reads false [line] [] false := by
  have hmark : ∀ w ∈ payloadWords :: elementWords ++ formOpenings,
      w.any (fun c => !isIdentifierChar c && c != ' ') = true := by decide
  have hnone : ∀ w ∈ payloadWords :: elementWords ++ formOpenings, ¬ w <+: line.dropWhile (· == ' ') := by
    intro w hw hp
    obtain ⟨c, hc, hother⟩ := List.any_eq_true.1 (hmark w hw)
    rw [Bool.and_eq_true, Bool.not_eq_true', bne_iff_ne] at hother
    have hm : c ∈ line := (List.dropWhile_suffix _).subset (hp.subset hc)
    rcases h c hm with h | h
    · exact ne_of_isIdentifierChar h hother.1 rfl
    · exact hother.2 h
  exact reads_of_not_prefix (fun w hw => hnone w (List.mem_append_left _ hw)) fun ho =>
    hnone _ (List.mem_append_right _ ho) (List.prefix_refl _)

/-- The slots of a text in whole lines. -/
theorem formSlots_of_joinLines {s : String} {css : List (List Char)} {ss : List FormSlot}
    (hs : s.toList = joinLines css) (hn : ∀ cs ∈ css, '\n' ∉ cs) (h : Reads false css ss false) :
    formSlots s = ss := by
  have hend : Reads false [[]] [] false := by decide
  have hall := h.append hend
  unfold Reads at hall
  rw [formSlots, hs, partsBetween_joinLines hn, hall, List.append_nil]

end Scaffold.Script
