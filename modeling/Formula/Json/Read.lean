import Formula.Json.Library
import Formula.Value

/-!
# Reading JSON

JSON texts are read from left to right, and the first fault ends the reading. Only objects of scalars and single scalars
are of use, but lists and objects inside are read to their end before they are found unsuitable.

* `Json.scalar` : reads null, a truth value, a number or a string.
* `Json.object?` : the members of a whole text that is an object of scalars.
* `Json.scalar?` : the value of a whole text that is a scalar.
-/

namespace Formula.Json

/-- A reader takes characters from the front of a text. -/
abbrev Reader (α : Type) := List Char → Except Fault (α × List Char)

def isSpace (c : Char) : Bool := c = ' ' || c = '\n' || c = '\t' || c = '\r'

def skipSpace (cs : List Char) : List Char := cs.dropWhile isSpace

/-- Takes the given characters, which are what remains of a word. -/
def word {α : Type} (value : α) : (expected : List Char) → Reader α
  | [], cs => .ok (value, cs)
  | _ :: _, [] => .error .truncated
  | e :: es, c :: cs => if c = e then word value es cs else .error .malformed

/-! ## Numbers -/

/-- Takes digits, at least one. -/
def someDigits : Reader (List Char)
  | [] => .error .truncated
  | c :: cs =>
    if c.isDigit then .ok (c :: cs.takeWhile Char.isDigit, cs.dropWhile Char.isDigit) else .error .malformed

/-- Takes the digits of a whole number, which has no leading zero. -/
def wholeDigits : Reader (List Char)
  | [] => .error .truncated
  | c :: cs =>
    if c = '0' then
      match cs with
      | [] => .ok (['0'], [])
      | d :: _ => if d.isDigit then .error .malformed else .ok (['0'], cs)
    else someDigits (c :: cs)

/-- Takes a point and the digits behind it, if there is a point. -/
def fractionDigits : Reader (List Char)
  | '.' :: cs => someDigits cs
  | cs => .ok ([], cs)

/-- Takes an exponent, if there is one. -/
def exponent : Reader Int
  | [] => .ok (0, [])
  | c :: cs =>
    if c = 'e' ∨ c = 'E' then
      let (negative, digits) := Binary64.splitSign cs
      match someDigits digits with
      | .error f => .error f
      | .ok (ds, rest) => .ok (Binary64.signed negative (Nat.ofDigitChars 10 ds 0), rest)
    else .ok (0, c :: cs)

/-- Takes a number without its sign, as it is written. -/
def numeral (negative : Bool) (cs : List Char) : Except Fault (Numeral × List Char) :=
  match wholeDigits cs with
  | .error f => .error f
  | .ok (whole, cs) =>
    match fractionDigits cs with
    | .error f => .error f
    | .ok (fraction, cs) =>
      match exponent cs with
      | .error f => .error f
      | .ok (e, rest) => .ok (⟨negative, whole, fraction, e⟩, rest)

/-- Takes a number without its sign; one out of range is refused. -/
def magnitude (library : Library) (negative : Bool) (cs : List Char) : Except Fault (Value × List Char) :=
  match numeral negative cs with
  | .error f => .error f
  | .ok (n, rest) =>
    match library.number? n with
    | none => .error .malformed
    | some x => .ok (.number x, rest)

/-! ## Strings -/

/-- The number that a hexadecimal digit of either case stands for. -/
def hexValue? (c : Char) : Option Nat :=
  if c.isDigit then some (c.toNat - '0'.toNat)
  else if 'a' ≤ c ∧ c ≤ 'f' then some (c.toNat - 'a'.toNat + 10)
  else if 'A' ≤ c ∧ c ≤ 'F' then some (c.toNat - 'A'.toNat + 10)
  else none

/-- Takes the four hexadecimal digits of a code unit. The text ends too early if it has fewer than four bytes left. -/
def codeUnit : Reader Nat
  | a :: b :: c :: d :: rest =>
    match hexValue? a, hexValue? b, hexValue? c, hexValue? d with
    | some i, some j, some k, some l => .ok (((i * 16 + j) * 16 + k) * 16 + l, rest)
    | _, _, _, _ => .error .malformed
  | cs => if (String.ofList cs).utf8ByteSize < 4 then .error .truncated else .error .malformed

/-- Whether a code unit is the first or the second half of a surrogate pair. -/
def isLeading (n : Nat) : Bool := 0xD800 ≤ n && n ≤ 0xDBFF

def isTrailing (n : Nat) : Bool := 0xDC00 ≤ n && n ≤ 0xDFFF

/-- Takes the second half of a surrogate pair, written as an escape of its own. -/
def trailingUnit : Reader Nat
  | [] => .error .truncated
  | c :: cs =>
    if c = '\\' then
      match cs with
      | [] => .error .truncated
      | d :: cs =>
        if d = 'u' then
          match codeUnit cs with
          | .error f => .error f
          | .ok (n, rest) => if isTrailing n then .ok (n, rest) else .error .malformed
        else .error .malformed
    else .error .malformed

/-- Takes the code units of one character; half a surrogate pair is none. -/
def escapedUnits (cs : List Char) : Except Fault (Char × List Char) :=
  match codeUnit cs with
  | .error f => .error f
  | .ok (n, rest) =>
    if isTrailing n then .error .malformed
    else if isLeading n then
      match trailingUnit rest with
      | .error f => .error f
      | .ok (m, rest) => .ok (Char.ofNat (0x10000 + (n - 0xD800) * 0x400 + (m - 0xDC00)), rest)
    else .ok (Char.ofNat n, rest)

/-- The character that a letter behind a backslash stands for. -/
def escaped? (c : Char) : Option Char :=
  if c = '"' ∨ c = '\\' ∨ c = '/' then some c
  else if c = 'b' then some (Char.ofNat 0x08)
  else if c = 'f' then some (Char.ofNat 0x0C)
  else if c = 'n' then some '\n'
  else if c = 'r' then some '\r'
  else if c = 't' then some '\t'
  else none

/-- Takes what follows a backslash. -/
def escape : Reader Char
  | [] => .error .truncated
  | c :: cs =>
    if c = 'u' then escapedUnits cs
    else match escaped? c with
      | some d => .ok (d, cs)
      | none => .error .malformed

/-- Takes the rest of a string and its closing quote. Each step takes a character, so a bound that starts at the length
of the text is never used up. -/
def stringUpTo : Nat → Reader (List Char)
  | _, [] => .error .truncated
  | 0, _ :: _ => .error .truncated
  | bound + 1, c :: cs =>
    if c = '"' then .ok ([], cs)
    else if c.toNat < 0x20 then .error .malformed
    else
      match if c = '\\' then escape cs else .ok (c, cs) with
      | .error f => .error f
      | .ok (d, cs) =>
        match stringUpTo bound cs with
        | .error f => .error f
        | .ok (ds, rest) => .ok (d :: ds, rest)

/-- Takes the rest of a string behind its opening quote. -/
def string (cs : List Char) : Except Fault (String × List Char) :=
  match stringUpTo cs.length cs with
  | .error f => .error f
  | .ok (ds, rest) => .ok (String.ofList ds, rest)

/-! ## Values -/

/-- Takes a scalar. -/
def scalar (library : Library) : Reader Value
  | [] => .error .truncated
  | c :: cs =>
    if c = 'n' then word .null ['u', 'l', 'l'] cs
    else if c = 't' then word (.boolean true) ['r', 'u', 'e'] cs
    else if c = 'f' then word (.boolean false) ['a', 'l', 's', 'e'] cs
    else if c = '"' then
      match string cs with
      | .error f => .error f
      | .ok (s, rest) => .ok (.string s, rest)
    else if c = '-' then magnitude library true cs
    else if c.isDigit then magnitude library false (c :: cs)
    else .error .malformed

/-- Takes items separated by commas and the closing bracket. Each item is behind a bracket or a comma, so a bound that
starts at the length of the text is never used up. -/
def itemsUpTo {α : Type} (closing : Char) (item : Reader α) : Nat → Reader (List α)
  | 0, _ => .error .truncated
  | bound + 1, cs =>
    match item cs with
    | .error f => .error f
    | .ok (a, cs) =>
      match skipSpace cs with
      | [] => .error .truncated
      | c :: cs =>
        if c = closing then .ok ([a], cs)
        else if c = ',' then
          match itemsUpTo closing item bound cs with
          | .error f => .error f
          | .ok (as, rest) => .ok (a :: as, rest)
        else .error .malformed

/-- Takes the items of a list or an object behind its opening bracket, and the closing one. -/
def items {α : Type} (closing : Char) (item : Reader α) (cs : List Char) : Except Fault (List α × List Char) :=
  match skipSpace cs with
  | [] => .error .truncated
  | c :: rest => if c = closing then .ok ([], rest) else itemsUpTo closing item (rest.length + 1) (c :: rest)

/-- Takes a member of an object: a string, a colon and a value. -/
def member {α : Type} (value : Reader α) (cs : List Char) : Except Fault ((String × α) × List Char) :=
  match skipSpace cs with
  | [] => .error .truncated
  | c :: cs =>
    if c = '"' then
      match string cs with
      | .error f => .error f
      | .ok (key, cs) =>
        match skipSpace cs with
        | [] => .error .truncated
        | c :: cs =>
          if c = ':' then
            match value cs with
            | .error f => .error f
            | .ok (a, rest) => .ok ((key, a), rest)
          else .error .malformed
    else .error .malformed

/-- Takes a value with the white space in front of it; lists and objects, which may be nested to the given depth, are
read to their end and give nothing. -/
def value (library : Library) : (depth : Nat) → Reader (Option Value)
  | depth, cs =>
    match skipSpace cs with
    | [] => .error .truncated
    | c :: cs =>
      if c = '[' ∨ c = '{' then
        match depth with
        | 0 => .error .malformed
        | depth + 1 =>
          if c = '[' then
            match items ']' (value library depth) cs with
            | .error f => .error f
            | .ok (_, rest) => .ok (none, rest)
          else
            match items '}' (member (value library depth)) cs with
            | .error f => .error f
            | .ok (_, rest) => .ok (none, rest)
      else
        match scalar library (c :: cs) with
        | .error f => .error f
        | .ok (v, rest) => .ok (some v, rest)

/-! ## Whole texts -/

/-- How deeply lists and objects may be nested, the outermost one included. -/
def maxNesting : Nat := 127

/-- Takes a scalar value; a list or an object is unsuitable once it has been read. -/
def suitable (library : Library) (cs : List Char) : Except Fault (Value × List Char) :=
  match value library (maxNesting - 1) cs with
  | .error f => .error f
  | .ok (none, _) => .error .unsuitable
  | .ok (some v, rest) => .ok (v, rest)

/-- The members of a text that is an object of scalars. A text that starts otherwise is unsuitable as soon as it is seen
to be a list or, once that has been read, another value. -/
def object? (library : Library) (cs : List Char) : Except Fault (List (String × Value)) :=
  match skipSpace cs with
  | [] => .error .truncated
  | c :: cs =>
    if c = '{' then
      match items '}' (member (suitable library)) cs with
      | .error f => .error f
      | .ok (members, rest) => if skipSpace rest = [] then .ok members else .error .malformed
    else if c = '[' then .error .unsuitable
    else
      match scalar library (c :: cs) with
      | .error f => .error f
      | .ok _ => .error .unsuitable

/-- The value of a text that is a scalar. -/
def scalar? (library : Library) (cs : List Char) : Option Value :=
  match scalar library (skipSpace cs) with
  | .error _ => none
  | .ok (v, rest) => if skipSpace rest = [] then some v else none

end Formula.Json
