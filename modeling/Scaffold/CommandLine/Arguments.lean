import Scaffold.Text.DecimalDigit

/-!
# Command-line arguments

How the arguments of the program are read: one definition, options by their names or by the beginning
of a long name, short options together in one argument, and a divider after which nothing is an option.
-/

namespace Scaffold.CommandLine

/-! ## Options -/

/-- An option of the program. -/
inductive Flag where
  | help
  | project
  | dryRun
  | verbose
  deriving DecidableEq, Repr

/-- An option takes a value. -/
def Flag.takesValue : Flag → Bool
  | project => true
  | _ => false

/-- The short options by their letters. -/
def shortFlags : List (Char × Flag) := [('h', .help), ('p', .project), ('v', .verbose)]

/-- The long options by their names. -/
def longFlags : List (String × Flag) :=
  [("--help", .help), ("--project", .project), ("--dry-run", .dryRun), ("--verbose", .verbose)]

/-- The arguments of a run. -/
structure Arguments where
  definition : Option String := none
  project : Option String := none
  dryRun : Bool := false
  verbose : Bool := false
  deriving DecidableEq, Repr

/-- Why there are no arguments: help was asked for, or the arguments cannot be understood. -/
inductive Refusal where
  | help
  | usage
  deriving DecidableEq, Repr

/-! ## Single arguments -/

/-- What an argument is. An option may have a text attached to its name: what follows an equals sign,
or the rest of an argument with short options. -/
inductive Token where
  | plain (s : String)
  | divider
  | long (flag : Flag) (attached : Option (List Char))
  | short (flag : Flag) (attached : Option (List Char))
  | unknown
  deriving DecidableEq, Repr

/-- A text up to its first equals sign, and what follows the sign if there is one. -/
def splitValue (cs : List Char) : List Char × Option (List Char) :=
  match cs.dropWhile (· != '=') with
  | [] => (cs, none)
  | _ :: v => (cs.takeWhile (· != '='), some v)

/-- The long options whose names begin with a text. A whole name stands for itself. -/
def longMatches (name : List Char) : List Flag :=
  match longFlags.lookup (String.ofList name) with
  | some flag => [flag]
  | none => (longFlags.filter fun f => name.isPrefixOf f.1.toList).map Prod.snd

/-- Digits with at most one point among them and a digit after it. -/
def isUnsignedNumber (cs : List Char) : Bool :=
  let rest := cs.dropWhile Text.isDecimalDigit
  match rest with
  | [] => !cs.isEmpty
  | '.' :: fraction => !fraction.isEmpty && fraction.all Text.isDecimalDigit
  | _ => false

/-- What looks like a negative number is no option. A line feed may follow it. -/
def looksNegative : List Char → Bool
  | '-' :: cs => isUnsignedNumber cs || (cs.getLast? == some '\n' && isUnsignedNumber cs.dropLast)
  | _ => false

/-- What an argument is that begins like an option and is none. -/
def notAnOption (cs : List Char) : Token :=
  if looksNegative cs || cs.contains ' ' then .plain (String.ofList cs) else .unknown

/-- An argument with two dashes in front. -/
def longToken (cs : List Char) : Except Refusal Token :=
  let (name, attached) := splitValue cs
  match longMatches name with
  | [] => .ok (notAnOption cs)
  | [flag] => .ok (.long flag attached)
  | _ => .error .usage

/-- An argument with one dash in front of a letter. An equals sign directly after the letter is passed
over. -/
def shortToken (letter : Char) (rest : List Char) : Token :=
  match shortFlags.lookup letter with
  | none => notAnOption ('-' :: letter :: rest)
  | some flag =>
    match rest with
    | [] => .short flag none
    | '=' :: v => .short flag (some v)
    | _ => .short flag (some rest)

/-- What an argument before the divider is. -/
def token (s : String) : Except Refusal Token :=
  match s.toList with
  | ['-', '-'] => .ok .divider
  | '-' :: '-' :: rest => longToken ('-' :: '-' :: rest)
  | '-' :: letter :: rest => .ok (shortToken letter rest)
  | _ => .ok (.plain s)

/-- What arguments are; after the divider nothing is an option. -/
def tokens : List String → Except Refusal (List Token)
  | [] => .ok []
  | s :: rest =>
    match token s with
    | .error e => .error e
    | .ok .divider => .ok (.divider :: rest.map .plain)
    | .ok t => (tokens rest).map (t :: ·)

/-! ## Options and their values -/

/-- What an argument with options sets: options with their values, and an option that waits for its
value. -/
structure Settled where
  settings : List (Flag × String) := []
  waiting : Option Flag := none
  deriving DecidableEq, Repr

/-- Settings with an option without value in front. -/
def Settled.after (flag : Flag) (s : Settled) : Settled :=
  { s with settings := (flag, "") :: s.settings }

/-- An option with nothing attached. -/
def settleBare (flag : Flag) : Settled :=
  if flag.takesValue then { waiting := some flag } else { settings := [(flag, "")] }

/-- A short option with a text attached. What is attached to an option without value are more short
options, at least one. -/
def settleShort (flag : Flag) : List Char → Except Refusal Settled
  | [] => if flag.takesValue then .ok { settings := [(flag, "")] } else .error .usage
  | c :: rest =>
    if flag.takesValue then .ok { settings := [(flag, String.ofList (c :: rest))] }
    else
      match shortFlags.lookup c with
      | none => .error .usage
      | some next =>
        if rest.isEmpty then .ok ((settleBare next).after flag)
        else (settleShort next rest).map (Settled.after flag)

/-- A long option with a value attached. -/
def settleLong (flag : Flag) (v : List Char) : Except Refusal Settled :=
  if flag.takesValue then .ok { settings := [(flag, String.ofList v)] } else .error .usage

/-! ## All arguments -/

/-- What has been read so far: the arguments, whether there was a definition, and whether there was
anything too much. -/
structure Progress where
  arguments : Arguments := {}
  hasDefinition : Bool := false
  hasExtras : Bool := false
  deriving DecidableEq, Repr

/-- The value of an option. The divider in its place stands for none. -/
def valueOf (v : String) : Option String := if v == "--" then none else some v

/-- Arguments with an option set. -/
def Arguments.set (a : Arguments) (flag : Flag) (v : String) : Except Refusal Arguments :=
  match flag with
  | .help => .error .help
  | .project => .ok { a with project := valueOf v }
  | .dryRun => .ok { a with dryRun := true }
  | .verbose => .ok { a with verbose := true }

/-- Arguments with options set one after the other. -/
def Arguments.setAll (a : Arguments) : List (Flag × String) → Except Refusal Arguments
  | [] => .ok a
  | (flag, v) :: rest =>
    match a.set flag v with
    | .error e => .error e
    | .ok b => b.setAll rest

/-- Progress after options have been set. -/
def Progress.apply (p : Progress) (settings : List (Flag × String)) : Except Refusal Progress :=
  (p.arguments.setAll settings).map fun a => { p with arguments := a }

/-- Progress after a definition has been given, or a divider in its place. -/
def Progress.define (p : Progress) (definition : Option String) : Progress :=
  { p with arguments := { p.arguments with definition := definition }, hasDefinition := true }

/-- Progress after something too much. -/
def Progress.extra (p : Progress) : Progress := { p with hasExtras := true }

/-- What is left after the divider that may follow a definition. -/
def afterDivider : List Token → List Token
  | .divider :: rest => rest
  | rest => rest

/-- What an option with a text attached or not sets. -/
def settle : Token → Except Refusal Settled
  | .long flag none | .short flag none => .ok (settleBare flag)
  | .long flag (some v) => settleLong flag v
  | .short flag (some cs) => settleShort flag cs
  | _ => .ok {}

/-- Reads what arguments are. The first plain argument is the definition, with a divider before or after
it; an option that waits for its value takes the next plain argument. -/
def readTokens : Nat → Progress → List Token → Except Refusal Progress
  | 0, p, _ => .ok p
  | _ + 1, p, [] => .ok p
  | fuel + 1, p, t :: rest =>
    match t with
    | .unknown => readTokens fuel p.extra rest
    | .plain s =>
      if p.hasDefinition then readTokens fuel p.extra rest
      else readTokens fuel (p.define (some s)) (afterDivider rest)
    | .divider =>
      if p.hasDefinition then readTokens fuel p.extra rest
      else
        match rest with
        | .plain s :: rest => readTokens fuel (p.define (some s)) rest
        | _ => readTokens fuel (p.define none) rest
    | option =>
      match settle option with
      | .error e => .error e
      | .ok s =>
        match s.waiting, rest with
        | none, _ => (p.apply s.settings).bind fun q => readTokens fuel q rest
        | some waiting, .plain v :: rest =>
          (p.apply (s.settings ++ [(waiting, v)])).bind fun q => readTokens fuel q rest
        | some _, _ => .error .usage

/-- The arguments of a run. Nothing may be too much. -/
def parse (arguments : List String) : Except Refusal Arguments :=
  match tokens arguments with
  | .error e => .error e
  | .ok ts =>
    match readTokens ts.length {} ts with
    | .error e => .error e
    | .ok p => if p.hasExtras then .error .usage else .ok p.arguments

end Scaffold.CommandLine
