import Scaffold.Collection.Intake
import Scaffold.Stage

/-!
# Declarations of modules

What the text of a module imports and what it exports, as far as it is told at the start of a line, and
where the name of a module leads from the path of another one. A text is read from its front to its
end; a part that ends where a line ends adds its own declarations to those of what follows.
-/

namespace Scaffold.Script

/-! ## Reading -/

/-- What a module declares: names that it imports from a source, or a name that it exports. The default
of a module has the name `default`. -/
inductive Declaration where
  | imports (names : List String) (source : String)
  | exports (name : String)
  deriving DecidableEq, Repr

/-- What follows a word at the start of a text. -/
def after? (word cs : List Char) : Option (List Char) :=
  if word.isPrefixOf cs then some (cs.drop word.length) else none

/-- A text that begins with another character does not begin with a word. -/
theorem after?_of_head?_ne {w : Char} {word cs : List Char} (hw : word.head? = some w) (h : cs.head? ≠ some w) :
    after? word cs = none := by
  obtain ⟨rest, rfl⟩ := List.head?_eq_some_iff.1 hw
  cases cs with
  | nil => rfl
  | cons c more =>
    rw [after?, List.isPrefixOf_cons_cons, beq_eq_false_iff_ne.2 fun e => h (congrArg some e.symm), Bool.false_and,
      if_neg Bool.false_ne_true]

/-- A blank between the words of a declaration. -/
def isSpace (c : Char) : Bool := c == ' ' || c == '\n' || c == '\t' || c == '\r'

/-- A character that the source of an import stands between. -/
def isQuote (c : Char) : Bool := c == '\'' || c == '"'

/-- The first word of a text. -/
def firstWord (cs : List Char) : List Char := (cs.dropWhile isSpace).takeWhile (!isSpace ·)

/-- The names between braces that a clause asks for, whatever it calls them. -/
def bracedNames (clause : List Char) : List String :=
  let inner := ((clause.dropWhile (· != '\x7b')).drop 1).takeWhile (· != '\x7d')
  (((Text.partsBetween ',' inner).map firstWord).filter (!·.isEmpty)).map String.ofList

/-- The names that the clause of an import asks for. A word outside of braces asks for the default, and
an asterisk for no name. -/
def importedNames (clause : List Char) : List String :=
  let outer := firstWord (clause.takeWhile (· != '\x7b'))
  (if outer.isEmpty || outer == ['*'] then [] else ["default"]) ++ bracedNames clause

/-- The import at the start of a text. Imports while a module runs and questions about the module
itself are none. -/
def importAt (cs : List Char) : Option Declaration :=
  match after? "import".toList cs with
  | some (c :: rest) =>
    if Intake.isIdentifierChar c || c == '.' || c == '(' then none
    else
      match (c :: rest).dropWhile (!isQuote ·) with
      | quote :: more =>
        some (.imports (importedNames ((c :: rest).takeWhile (!isQuote ·)))
          (String.ofList (more.takeWhile (· != quote))))
      | [] => none
  | _ => none

/-- The words that stand between the word for exports and a name. -/
def kinds : List (List Char) := ["const ", "let ", "var ", "function ", "class "].map String.toList

/-- The export at the start of a text. -/
def exportAt (cs : List Char) : Option Declaration :=
  match after? "export ".toList cs with
  | some rest =>
    if "default".toList.isPrefixOf rest then some (.exports "default")
    else
      let rest := (after? "async ".toList rest).getD rest
      (kinds.findSome? fun kind => after? kind rest).map fun more =>
        .exports (String.ofList (more.takeWhile Intake.isIdentifierChar))
  | none => none

/-- The declaration at the start of a text. -/
def declarationAt (cs : List Char) : Option Declaration := (importAt cs).or (exportAt cs)

/-- The declarations of a text, each at the start of a line; `start` tells whether the text is. -/
def declarationsFrom (start : Bool) : List Char → List Declaration
  | [] => []
  | c :: rest =>
    (if start then (declarationAt (c :: rest)).toList else [])
      ++ declarationsFrom (c == '\n') rest

/-- The declarations of a module. -/
def declarations (content : String) : List Declaration := declarationsFrom true content.toList

/-- A text that is a component: it begins with the block of its script or of its markup. A component is
the default of its module. -/
def isComponent (content : String) : Bool :=
  ["<script setup>", "<template>"].any fun tag => tag.toList.isPrefixOf content.toList

theorem isComponent_append {first : String} (h : isComponent first = true) (second : String) :
    isComponent (first ++ second) = true := by
  obtain ⟨tag, ht, hp⟩ := List.any_eq_true.1 h
  refine List.any_eq_true.2 ⟨tag, ht, ?_⟩
  rw [List.isPrefixOf_iff_prefix] at hp ⊢
  rw [String.toList_append]
  exact hp.trans (List.prefix_append _ _)

/-! ## Parts of a text -/

/-- A part of a text adds these declarations to those of what follows it. The part begins at the start
of a line if `start` is true, and what follows it does if `stop` is true. -/
def Emits (start : Bool) (part : List Char) (stop : Bool) (ds : List Declaration) : Prop :=
  ∀ rest, declarationsFrom start (part ++ rest) = ds ++ declarationsFrom stop rest

theorem emits_nil (start : Bool) : Emits start [] start [] := fun _ => rfl

theorem Emits.append {a b c : Bool} {first second : List Char} {ds es : List Declaration}
    (h : Emits a first b ds) (h' : Emits b second c es) :
    Emits a (first ++ second) c (ds ++ es) := by
  intro rest
  rw [List.append_assoc, h, h', List.append_assoc]

/-- A whole text declares what it adds to nothing. -/
theorem Emits.declarations_eq {content : String} {stop : Bool} {ds : List Declaration}
    (h : Emits true content.toList stop ds) : declarations content = ds := by
  have hn := h []
  rw [List.append_nil] at hn
  rw [declarations, hn]
  exact List.append_nil ds

/-! ## Texts without declarations -/

/-- Goes through a text in which no line begins as a declaration could, and tells whether what follows
is at the start of a line. -/
def quietFrom (start : Bool) : List Char → Option Bool
  | [] => some start
  | c :: rest => if start && (c == 'i' || c == 'e') then none else quietFrom (c == '\n') rest

theorem declarationAt_eq_none {c : Char} (h : (c == 'i' || c == 'e') = false) (rest : List Char) :
    declarationAt (c :: rest) = none := by
  rw [Bool.or_eq_false_iff, beq_eq_false_iff_ne, beq_eq_false_iff_ne] at h
  have hi : after? "import".toList (c :: rest) = none :=
    after?_of_head?_ne rfl fun e => h.1 (Option.some.inj e)
  have he : after? "export ".toList (c :: rest) = none :=
    after?_of_head?_ne rfl fun e => h.2 (Option.some.inj e)
  rw [declarationAt, importAt, exportAt, hi, he]
  rfl

theorem emits_of_quiet {start stop : Bool} {cs : List Char} (h : quietFrom start cs = some stop) :
    Emits start cs stop [] := by
  induction cs generalizing start with
  | nil =>
    cases h
    exact emits_nil _
  | cons c rest ih =>
    rw [quietFrom] at h
    by_cases hc : (start && (c == 'i' || c == 'e')) = true
    · rw [if_pos hc] at h
      cases h
    · rw [if_neg hc] at h
      intro more
      rw [List.cons_append, declarationsFrom, ih h more]
      cases start with
      | false => rfl
      | true =>
        rw [Bool.true_and, Bool.not_eq_true] at hc
        rw [declarationAt_eq_none hc]
        rfl

/-- A declaration is told by the text from the start of its line, wherever the text goes on. -/
theorem emits_declaration {c : Char} {cs : List Char} {stop : Bool} {d : Declaration}
    (h : ∀ rest, declarationAt (c :: (cs ++ rest)) = some d)
    (hq : quietFrom (c == '\n') cs = some stop) : Emits true (c :: cs) stop [d] := by
  intro rest
  rw [List.cons_append, declarationsFrom, h, emits_of_quiet hq]
  rfl

theorem quietFrom_append {start mid : Bool} {as bs : List Char}
    (h : quietFrom start as = some mid) : quietFrom start (as ++ bs) = quietFrom mid bs := by
  induction as generalizing start with
  | nil =>
    cases h
    rfl
  | cons c rest ih =>
    rw [quietFrom] at h
    rw [List.cons_append, quietFrom]
    split at h
    · cases h
    next hc =>
      rw [if_neg hc]
      exact ih h

/-- Inside a line anything that does not break it is quiet. -/
theorem quietFrom_of_not_mem {cs : List Char} (h : '\n' ∉ cs) :
    quietFrom false cs = some false := by
  induction cs with
  | nil => rfl
  | cons c rest ih =>
    have hc : (c == '\n') = false := beq_eq_false_iff_ne.2 fun e => h (e ▸ List.mem_cons_self)
    rw [quietFrom, hc]
    exact ih fun hm => h (List.mem_cons_of_mem c hm)

end Scaffold.Script
