import Formula.CommandLine.Options
import Formula.Document
import Formula.Engine
import Formula.Json.Write

/-!
# The command line

Three commands evaluate a formula, print its SQL text or check it. The options of the engine can stand before or after
the name of the command.

* `Invocation.ofArguments?` : what the arguments ask for.
* `Invocation.report` : the exit code and the two outputs, given a library of JSON and what can be read at each path.
-/

namespace Formula.CommandLine

/-- What to do. -/
inductive Command
  | eval (formula : String) (contextFile : Option String) (bindings : List String)
  | sql (formula : String)
  | validate (formula : String)
  deriving DecidableEq, Repr

/-- A command with the options of the engine. -/
structure Invocation where
  command : Command
  engine : Engine
  deriving DecidableEq, Repr

/-- What a run leaves behind. -/
structure Report where
  exit : Nat
  stdout : String
  stderr : String
  deriving DecidableEq, Repr

/-! ## Arguments -/

/-- The options that can stand before and after the name of the command. -/
def globalFlags : List Flag := [.debug, .dialect, .maxDepth]

def dialect? (name : String) : Option Dialect :=
  if name = "sql-server" then some .sqlServer
  else if name = "postgres" then some .postgres
  else if name = "generic" then some .generic
  else none

/-- The greatest limit on nesting that can be given. -/
def greatestDepth : Nat := 2 ^ 64 - 1

/-- A limit on nesting: digits, with a plus sign in front or without. -/
def maxDepth? (text : String) : Option Nat :=
  let digits :=
    match text.toList with
    | '+' :: rest => rest
    | cs => cs
  (Binary64.digitsOnly? digits).filter (· ≤ greatestDepth)

/-- Changes an option of the engine if a value is given for it; the value may be refused. -/
def override? {α : Type} (read? : String → Option α) (current : α) : Option String → Option α
  | none => some current
  | some text => read? text

/-- The engine with the options that are set. -/
def engineWith? (engine : Engine) (settings : List Setting) : Option Engine :=
  match override? dialect? engine.dialect (valueOf? .dialect settings),
    override? maxDepth? engine.maxDepth (valueOf? .maxDepth settings) with
  | some dialect, some maxDepth => some ⟨dialect, maxDepth⟩
  | _, _ => none

/-- The options of a command beside the global ones. -/
def ownFlags? (name : String) : Option (List Flag) :=
  if name = "eval" then some [.context, .set]
  else if name = "sql" ∨ name = "validate" then some []
  else none

/-- The command of a name with its settings and its formula; the name of a file is not empty. -/
def command? (name : String) (settings : List Setting) (formula : String) : Option Command :=
  if name = "eval" then
    let file := valueOf? .context settings
    if file = some "" then none else some (.eval formula file (valuesOf .set settings))
  else if name = "sql" then some (.sql formula)
  else if name = "validate" then some (.validate formula)
  else none

/-- The invocation of a command by its name and the arguments after it. -/
def invocation? (engine : Engine) (name : String) (args : List String) : Option Invocation :=
  match ownFlags? name with
  | none => none
  | some own =>
    match split? (globalFlags ++ own) false args with
    | some (settings, [formula]) =>
      if areDistinct settings then
        match engineWith? engine settings, command? name settings formula with
        | some engine, some command => some ⟨command, engine⟩
        | _, _ => none
      else none
    | _ => none

/-- What the arguments ask for, if they can be understood. Where an option stands before the command and after it, the
latter counts, but both have to be valid. -/
def Invocation.ofArguments? (args : List String) : Option Invocation :=
  match split? globalFlags true args with
  | some (settings, name :: rest) =>
    if areDistinct settings then
      match engineWith? .default settings with
      | some engine => invocation? engine name rest
      | none => none
    else none
  | _ => none

/-! ## Reports -/

/-- Why a run fails. -/
inductive Failure
  | invalid (why : Invalidity)
  | file (path : String) (error : ContextError)
  | binding (error : ContextError)
  | engine (error : EngineError)
  deriving DecidableEq, Repr

/-- A text with some spaces in front of its second line and of each line after it. -/
def indented (width : Nat) (text : String) : String :=
  String.ofList (text.toList.flatMap fun c => if c = '\n' then '\n' :: List.replicate width ' ' else [c])

/-- The causes from the given number on, each on a line of its own and behind its number. -/
def numberedCauses : Nat → List String → String
  | _, [] => ""
  | n, cause :: rest => "    " ++ toString n ++ ": " ++ indented 7 cause ++ "\n" ++ numberedCauses (n + 1) rest

/-- An error with what caused it; a single cause is not numbered. -/
def errorReport (message : String) (causes : List String) : String :=
  "Error: " ++ message ++ "\n" ++
    match causes with
    | [] => ""
    | [cause] => "\nCaused by:\n    " ++ indented 4 cause ++ "\n"
    | causes => "\nCaused by:\n" ++ numberedCauses 0 causes

def Failure.report : Failure → String
  | .invalid why => "invalid: " ++ why.message ++ "\n"
  | .file path e => errorReport ("Failed to load context from " ++ path) (e.message :: e.causes)
  | .binding e => errorReport e.message e.causes
  | .engine e => errorReport e.message [e.cause.message]

section

variable (library : Json.Library) (files : String → Except FileError String)

/-- The context of a file, if one is named, with bindings on top. -/
def buildContext (file : Option String) (bindings : List String) : Except Failure Context :=
  match file with
  | none => withBindings .empty
  | some path =>
    match Context.ofFile? library (files path) with
    | .error e => .error (.file path e)
    | .ok c => withBindings c
where
  withBindings (c : Context) : Except Failure Context :=
    match c.bindAll? library bindings with
    | .error e => .error (.binding e)
    | .ok c => .ok c

/-- The line that a run prints, or why it fails. -/
def Invocation.run (invocation : Invocation) : Except Failure String :=
  match invocation.command with
  | .eval formula file bindings =>
    match buildContext library files file bindings with
    | .error e => .error e
    | .ok c =>
      match invocation.engine.evaluate formula c with
      | .error e => .error (.engine e)
      | .ok v => .ok v.toJson
  | .sql formula =>
    match invocation.engine.toSql formula with
    | .error e => .error (.engine e)
    | .ok sql => .ok sql
  | .validate formula =>
    match invocation.engine.invalidity? formula with
    | some why => .error (.invalid why)
    | none => .ok "valid"

/-- The exit code and the outputs of a run. -/
def Invocation.report (invocation : Invocation) : Report :=
  match invocation.run library files with
  | .ok line => ⟨0, line ++ "\n", ""⟩
  | .error e => ⟨1, "", e.report⟩

end

end Formula.CommandLine
