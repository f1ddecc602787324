/-!
# Options on a command line

The arguments of a command up to a word that is no option. Options have a long name, `--name VALUE` or `--name=VALUE`,
and some a letter, `-n VALUE`, `-nVALUE` or `-n=VALUE`; letters of options without a value can be put together in front.
A word that starts with a hyphen is neither a value nor an operand unless it is a lone hyphen or comes after `--`.
-/

namespace Formula.CommandLine

/-- The options of the command line. -/
inductive Flag
  | debug
  | dialect
  | maxDepth
  | context
  | set
  deriving DecidableEq, Repr

namespace Flag

def longName : Flag → String
  | debug => "debug"
  | dialect => "dialect"
  | maxDepth => "max-depth"
  | context => "context"
  | set => "set"

def letter? : Flag → Option Char
  | debug => some 'd'
  | context => some 'c'
  | set => some 's'
  | _ => none

def takesValue : Flag → Bool
  | debug => false
  | _ => true

/-- Whether the option can be given more than once. -/
def isRepeatable : Flag → Bool
  | set => true
  | _ => false

end Flag

/-- An option with its value, which is empty for an option without one. -/
abbrev Setting := Flag × String

/-- What an argument is: the end of the options, an operand, options that are complete, options of which the last one
has its value in the next argument, or none of these. -/
inductive Word
  | endOfOptions
  | operand
  | complete (settings : List Setting)
  | pending (settings : List Setting) (last : Flag)
  | unknown
  deriving DecidableEq, Repr

namespace Word

/-- A word with a setting in front of its own. -/
def push (setting : Setting) : Word → Word
  | complete settings => complete (setting :: settings)
  | pending settings last => pending (setting :: settings) last
  | w => w

/-- Reads the letters of options put together, of which the last one can have its value behind it. -/
def ofLetters (known : List Flag) : List Char → Word
  | [] => complete []
  | c :: rest =>
    match known.find? (·.letter? = some c) with
    | none => unknown
    | some flag =>
      if flag.takesValue then
        match rest with
        | [] => pending [] flag
        | '=' :: value => complete [(flag, String.ofList value)]
        | value => complete [(flag, String.ofList value)]
      else (ofLetters known rest).push (flag, "")

/-- Reads a long option behind its two hyphens, which can have its value behind an equals sign. -/
def ofLong (known : List Flag) (cs : List Char) : Word :=
  let name := String.ofList (cs.takeWhile (· ≠ '='))
  match known.find? (·.longName = name), cs.dropWhile (· ≠ '=') with
  | none, _ => unknown
  | some flag, [] => if flag.takesValue then pending [] flag else complete [(flag, "")]
  | some flag, _ :: value => if flag.takesValue then complete [(flag, String.ofList value)] else unknown

def ofArgument (known : List Flag) (arg : String) : Word :=
  match arg.toList with
  | ['-', '-'] => endOfOptions
  | '-' :: '-' :: body => ofLong known body
  | '-' :: c :: body => ofLetters known (c :: body)
  | _ => operand

end Word

/-- The options and the operands among the arguments. When `single` is set, the first operand ends the reading, and all
arguments after it are left as they are. -/
def split? (known : List Flag) (single : Bool) : List String → Option (List Setting × List String)
  | [] => some ([], [])
  | arg :: rest =>
    match Word.ofArgument known arg with
    | .unknown => none
    | .endOfOptions => if single then none else some ([], rest)
    | .operand =>
      if single then some ([], arg :: rest)
      else (split? known single rest).map fun (settings, operands) => (settings, arg :: operands)
    | .complete settings =>
      (split? known single rest).map fun (more, operands) => (settings ++ more, operands)
    | .pending settings last =>
      match rest with
      | [] => none
      | value :: rest =>
        if Word.ofArgument known value = .operand then
          (split? known single rest).map fun (more, operands) => (settings ++ (last, value) :: more, operands)
        else none

/-- Whether no option is given twice that can be given only once. -/
def areDistinct : List Setting → Bool
  | [] => true
  | (flag, _) :: rest => (flag.isRepeatable || rest.all (·.1 ≠ flag)) && areDistinct rest

/-- The value of an option that is given at most once. -/
def valueOf? (flag : Flag) (settings : List Setting) : Option String :=
  (settings.find? (·.1 = flag)).map Prod.snd

/-- The values of an option in their order. -/
def valuesOf (flag : Flag) (settings : List Setting) : List String :=
  (settings.filter (·.1 = flag)).map Prod.snd

end Formula.CommandLine
