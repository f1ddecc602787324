import Formula.CommandLine

/-!
# The program

Reads the context file that the arguments name, prints the report of their run and ends with its exit code.
-/

namespace Formula.CommandLine

/-- What is said of arguments that cannot be understood. -/
def usage : String :=
  "usage: [-d] [--dialect sql-server|postgres|generic] [--max-depth N] COMMAND\n\n" ++
    "  eval EXPR [-c FILE] [-s NAME=VALUE]...\n  sql EXPR\n  validate EXPR\n"

/-- The exit code of arguments that cannot be understood. -/
def usageExit : UInt32 := 2

/-- The number of a refusal, whichever sign it comes with. -/
def codeOf (code : UInt32) : Nat := code.toInt32.toInt.natAbs

/-- Why reading a file fails, by the number that the system gives; a failure of no such number is one of the text. -/
def refusalOf : IO.Error → FileError
  | .noFileOrDirectory _ code text | .interrupted _ code text => .ofCode (codeOf code) text
  | .alreadyExists _ code text | .invalidArgument _ code text | .permissionDenied _ code text
  | .resourceExhausted _ code text | .inappropriateType _ code text | .noSuchThing _ code text =>
    .ofCode (codeOf code) text
  | .otherError code text | .resourceBusy code text | .resourceVanished code text | .unsupportedOperation code text
  | .hardwareFault code text | .unsatisfiedConstraints code text | .illegalOperation code text
  | .protocolError code text | .timeExpired code text => .ofCode (codeOf code) text
  | .unexpectedEof | .userError _ => .notText

/-- The text of a file, or why it cannot be read. -/
def fileText? (path : String) : IO (Except FileError String) := do
  try
    return .ok (← IO.FS.readFile path)
  catch e =>
    return .error (refusalOf e)

/-- What a command reads; where it reads no file, there is none. -/
def Command.fileText? : Command → IO (Except FileError String)
  | .eval _ (some path) _ => CommandLine.fileText? path
  | _ => pure (.error .notFound)

/-- Does what the arguments ask for. -/
def execute (args : List String) : IO UInt32 := do
  match Invocation.ofArguments? args with
  | none =>
    IO.eprint usage
    return usageExit
  | some invocation =>
    let text ← invocation.command.fileText?
    let report := invocation.report Json.Library.scaling fun _ => text
    IO.print report.stdout
    IO.eprint report.stderr
    return report.exit.toUInt32

end Formula.CommandLine

def main (args : List String) : IO UInt32 := Formula.CommandLine.execute args
