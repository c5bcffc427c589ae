import Scaffold.Value.Basic

/-!
# Templates

The shape of a generated file: fixed text with holes for values, parts that depend on a value, and
parts that are repeated for the items of a value. Templates are data; what they stand for is defined
by rendering them with values for their variables.
-/

namespace Scaffold

/-! ## Expressions -/

/-- What stands in a hole: a variable, a part of another value, or text made from values. -/
inductive Expr where
  /-- The value of a variable. -/
  | name (n : String)
  /-- A named part of a value. -/
  | part (e : Expr) (n : String)
  /-- The part of a value that another value names. -/
  | element (e index : Expr)
  /-- A fixed text. -/
  | text (s : String)
  /-- The literal of a value in a script. -/
  | script (e : Expr)
  /-- The items of a value with a comma and a space between them. -/
  | commas (e : Expr)
  /-- Two texts, one after the other. -/
  | append (first second : Expr)
  /-- The first value if it counts as true, else the second. -/
  | either (first second : Expr)

/-- A variable, or a part of a part of it. -/
def Expr.path : List String → Expr
  | [] => .text ""
  | n :: parts => parts.foldl .part (.name n)

/-! ## Templates -/

/-- The shape of a generated text. -/
inductive Template where
  | nothing
  /-- Fixed text. -/
  | text (s : String)
  /-- The text of a value. -/
  | hole (e : Expr)
  /-- One part after the other. -/
  | both (first second : Template)
  /-- One of two parts, by whether a value counts as true. -/
  | choose (test : Expr) (yes no : Template)
  /-- A part for each item of a value. The item is a variable of the part, and so is its place. -/
  | each (item : String) (source : Expr) (body : Template)
  /-- A part with one more variable. -/
  | bind (n : String) (value : Expr) (body : Template)
  /-- A part with no other variables than the given ones. -/
  | within (arguments : List (String × Expr)) (body : Template)

namespace Template

/-- Parts one after the other. -/
def sequence : List Template → Template
  | [] => nothing
  | [t] => t
  | t :: rest => both t (sequence rest)

/-- Texts each on a line of its own. -/
def lines (ls : List String) : Template := text (String.join (ls.map fun l => l ++ "\n"))

/-- Parts on one line. -/
def row (parts : List Template) : Template := sequence (parts ++ [text "\n"])

/-- Parts that are there only if a value counts as true. -/
def when (test : Expr) (parts : List Template) : Template := choose test (sequence parts) nothing

/-- Parts for each item of a value. -/
def forEach (item : String) (source : Expr) (parts : List Template) : Template :=
  each item source (sequence parts)

/-- A part of a variable in a hole. -/
def value (path : List String) : Template := hole (.path path)

/-- The script literal of a part of a variable in a hole. -/
def script (path : List String) : Template := hole (.script (.path path))

end Template

end Scaffold
