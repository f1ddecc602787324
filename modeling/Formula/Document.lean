import Formula.Context
import Formula.Files
import Formula.Json.Read

/-!
# Reading contexts

Contexts come from JSON documents, objects of scalars, and from bindings `name=value`.

* `Context.ofJson?` : the context of a document, the last member of a name being the one that counts.
* `Context.ofFile?` : the context of what is read from a file.
* `Binding.read?` : the name and the value of a binding.
* `Context.bindAll?` : a context with bindings put on top.
-/

namespace Formula

/-- Why there is no context. -/
inductive ContextError
  | unreadable (why : FileError)
  | invalidJson (fault : Json.Fault) (complaint : String)
  | invalidBinding (binding : String)
  deriving DecidableEq, Repr

namespace ContextError

def message : ContextError → String
  | unreadable why => "IO error: " ++ why.message
  | invalidJson _ complaint => "Invalid context JSON: " ++ complaint
  | invalidBinding binding => "Invalid binding '" ++ binding ++ "': expected name=value"

/-- What causes the error in turn: the system that does not give a file, or the library that finds a fault in it. -/
def causes : ContextError → List String
  | unreadable why => [why.message]
  | invalidJson _ complaint => [complaint]
  | invalidBinding _ => []

end ContextError

section

variable (library : Json.Library)

/-- The context that a JSON document describes. -/
def Context.ofJson? (json : String) : Except ContextError Context :=
  match Json.object? library json.toList with
  | .error f => .error (.invalidJson f (library.complaint f json))
  | .ok members => .ok (.ofList members)

/-- The context of a file, given its text unless it cannot be read. -/
def Context.ofFile? : Except FileError String → Except ContextError Context
  | .error why => .error (.unreadable why)
  | .ok json => ofJson? library json

namespace Binding

/-- What stands before and after the first equals sign. -/
def split? : List Char → Option (List Char × List Char)
  | [] => none
  | c :: cs =>
    if c = '=' then some ([], cs)
    else (split? cs).map fun (name, raw) => (c :: name, raw)

/-- The value of the text after the equals sign: a JSON scalar if it is one, and else the text as it stands. -/
def valueOf (raw : List Char) : Value :=
  (Json.scalar? library (Unicode.trim raw)).getD (.string (String.ofList raw))

/-- The name and the value of a binding. White space around the name does not belong to it, and there has to be a
name. -/
def read? (binding : String) : Except ContextError (String × Value) :=
  match split? binding.toList with
  | none => .error (.invalidBinding binding)
  | some (name, raw) =>
    match Unicode.trim name with
    | [] => .error (.invalidBinding binding)
    | name => .ok (String.ofList name, valueOf library raw)

end Binding

/-- The context with bindings put into it in their order, up to the first that is none. -/
def Context.bindAll? : Context → List String → Except ContextError Context
  | c, [] => .ok c
  | c, binding :: rest =>
    match Binding.read? library binding with
    | .error e => .error e
    | .ok (name, value) => bindAll? (c.set name value) rest

end

end Formula
