/-!
# Field references

A formula names a field of the row it belongs to, or with `ctx.` in front a field of the surrounding context.
-/

namespace Formula

/-- A reference to a field; `global` tells whether the source had `ctx.` in front of the name. -/
structure Field where
  name : String
  global : Bool
  deriving DecidableEq, Repr

namespace Field

/-- The mark in front of a global name. -/
def globalMark : String := "ctx."

/-- The reference that an identifier makes; only the first `ctx.` is split off. -/
def ofIdentifier (identifier : String) : Field :=
  match identifier.toList with
  | 'c' :: 't' :: 'x' :: '.' :: name => ⟨String.ofList name, true⟩
  | _ => ⟨identifier, false⟩

/-- The key under which a context is asked first. -/
def key (f : Field) : String := if f.global then globalMark ++ f.name else f.name

end Field
end Formula
