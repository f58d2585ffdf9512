import EventDigest.Text.Digit

/-! # The command line of the worker

One rule is run by its identifier, or all enabled rules are. Options may be shortened as long as
they stay unique, and a value may be attached by an equals sign. Words are read from left to right,
and the first request for help or the first misuse decides.
-/
set_option autoImplicit false
namespace EventDigest.CommandLine

inductive Invocation
  | help
  | misuse
  | rule (id : String)
  | all
  deriving DecidableEq, Repr

/-- A word of the command line. A stray word is no option and no value either. -/
inductive Word
  | help
  | misuse
  | rule (attached : Option (List Char))
  | all
  | stray
  | plain (text : List Char)
  deriving DecidableEq, Repr

inductive LongOption
  | help
  | rule
  | all
  deriving DecidableEq, Repr

def longOptions : List (String × LongOption) :=
  [("--help", .help), ("--rule-id", .rule), ("--all", .all)]

/-- A flag takes no attached value. -/
def flag (word : Word) (attached : Option (List Char)) : Word :=
  if attached.isSome then .misuse else word

def longWord (option : LongOption) (attached : Option (List Char)) : Word :=
  match option with
  | .help => flag .help attached
  | .rule => .rule attached
  | .all => flag .all attached

/-- What is attached behind the short option for help: more of the same, or anything else that does
not look like an option. -/
def helpTail : List Char → Word
  | [] => .help
  | '-' :: _ => .misuse
  | '=' :: _ => .misuse
  | 'h' :: rest => helpTail rest
  | _ => .help

def isDigit (c : Char) : Bool := (Text.digitValue? c).isSome

/-- A number with a minus sign is a value; so is the same before a last line feed. -/
def isNegativeNumber (s : List Char) : Bool :=
  match s with
  | '-' :: rest =>
    let rest := if rest.getLast? = some '\n' then rest.dropLast else rest
    match rest.dropWhile isDigit with
    | [] => !rest.isEmpty
    | '.' :: fraction => !fraction.isEmpty && fraction.all isDigit
    | _ => false
  | _ => false

/-- A word with a dash that is no known option. -/
def unknownWord (s : List Char) : Word :=
  if isNegativeNumber s || s.contains ' ' then .plain s else .stray

/-- A word that begins with two dashes; none when it shortens more than one option. -/
def doubleDashed (s : List Char) : Option Word :=
  let name := s.takeWhile (· ≠ '=')
  let attached := match s.dropWhile (· ≠ '=') with
    | [] => none
    | _ :: rest => some rest
  match longOptions.filter fun (option, _) => name.isPrefixOf option.toList with
  | [] => some (unknownWord s)
  | [(_, option)] => some (longWord option attached)
  | _ => none

def readWord (s : List Char) : Option Word :=
  match s with
  | '-' :: '-' :: _ => doubleDashed s
  | '-' :: 'h' :: '=' :: _ => some .misuse
  | '-' :: 'h' :: rest => some (helpTail rest)
  | '-' :: _ :: _ => some (unknownWord s)
  | _ => some (.plain s)

/-- Behind a lone double dash every word is a value. -/
def readWords : List (List Char) → Option (List Word)
  | [] => some []
  | ['-', '-'] :: rest => some (.stray :: rest.map .plain)
  | s :: rest => do return (← readWord s) :: (← readWords rest)

def isRule : Option Invocation → Bool
  | some (.rule _) => true
  | _ => false

/-- Decides on the words in order, given what was chosen so far and whether a word was left over. -/
def settle : Option Invocation → Bool → List Word → Invocation
  | none, _, [] => .misuse
  | some choice, leftOver, [] => if leftOver then .misuse else choice
  | _, _, .help :: _ => .help
  | _, _, .misuse :: _ => .misuse
  | choice, leftOver, .all :: rest =>
    if isRule choice then .misuse else settle (some .all) leftOver rest
  | choice, leftOver, .rule (some id) :: rest =>
    if choice = some .all then .misuse else settle (some (.rule (String.ofList id))) leftOver rest
  | choice, leftOver, .rule none :: .plain id :: rest =>
    if choice = some .all then .misuse else settle (some (.rule (String.ofList id))) leftOver rest
  | _, _, .rule none :: _ => .misuse
  | choice, _, .stray :: rest => settle choice true rest
  | choice, _, .plain _ :: rest => settle choice true rest

def read (words : List String) : Invocation :=
  match readWords (words.map String.toList) with
  | none => .misuse
  | some words => settle none false words

end EventDigest.CommandLine
