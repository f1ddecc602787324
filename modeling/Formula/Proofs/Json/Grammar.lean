import Formula.Json.Read
import Formula.Proofs.Binary64.RoundTrip

/-!
# The grammar of JSON

The texts of scalars and of objects of scalars, each with what it stands for, written without a reader. Which double a
number stands for is up to the library.

* `MagnitudeText` : a number without its sign.
* `StringText` : what stands between the quotes of a string, character by character.
* `ScalarText` : null, a truth value, a number or a string. The library must not find a number out of range.
* `ObjectText` : an object of scalars, with its members in their order.
* `Alone` : a text that holds one of these and nothing else but white space.
-/

namespace Formula.Json

open Binary64 (Unpadded)

/-! ## White space -/

def IsSpaces (cs : List Char) : Prop := ∀ c ∈ cs, isSpace c = true

section

variable {α : Type} (Text : List Char → α → Prop)

/-- A text with white space in front. -/
inductive Spaced : List Char → α → Prop
  | intro {spaces text : List Char} {a : α} (isSpaces : IsSpaces spaces) (isText : Text text a) :
    Spaced (spaces ++ text) a

/-- A text with white space in front and behind. -/
inductive Alone : List Char → α → Prop
  | intro {text spaces : List Char} {a : α} (spaced : Spaced Text text a) (isSpaces : IsSpaces spaces) :
    Alone (text ++ spaces) a

end

/-! ## Numbers -/

/-- Digits, at least one. -/
def IsDigits (cs : List Char) : Prop := cs ≠ [] ∧ ∀ c ∈ cs, c.isDigit = true

/-- A whole number: digits with no needless zero in front. -/
def IsWhole (cs : List Char) : Prop := IsDigits cs ∧ Unpadded cs

/-- A sign, which may be missing, and whether it is a minus sign. -/
inductive SignText : List Char → Bool → Prop
  | absent : SignText [] false
  | plus : SignText ['+'] false
  | minus : SignText ['-'] true

/-- The digits behind a point; where there are none, there is no point. -/
inductive FractionText : List Char → List Char → Prop
  | absent : FractionText [] []
  | present {digits : List Char} (isDigits : IsDigits digits) : FractionText ('.' :: digits) digits

/-- A power of ten, which may be missing. -/
inductive ExponentText : List Char → Int → Prop
  | absent : ExponentText [] 0
  | present {letter : Char} {sign digits : List Char} {negative : Bool} (isLetter : letter = 'e' ∨ letter = 'E')
    (isSign : SignText sign negative) (isDigits : IsDigits digits) :
    ExponentText (letter :: (sign ++ digits)) (Binary64.signed negative (Nat.ofDigitChars 10 digits 0))

/-- A number of the given sign, written without it. -/
inductive MagnitudeText (negative : Bool) : List Char → Numeral → Prop
  | intro {whole point fraction power : List Char} {exponent : Int} (isWhole : IsWhole whole)
    (isFraction : FractionText point fraction) (isExponent : ExponentText power exponent) :
    MagnitudeText negative (whole ++ (point ++ power)) ⟨negative, whole, fraction, exponent⟩

/-! ## Strings -/

/-- The letters behind a backslash that stand for one character. -/
def shortEscapes : List (Char × Char) :=
  [('"', '"'), ('\\', '\\'), ('/', '/'), ('b', Char.ofNat 0x08), ('f', Char.ofNat 0x0C), ('n', '\n'), ('r', '\r'),
    ('t', '\t')]

/-- A code unit behind a backslash: four hexadecimal digits, the highest first. -/
inductive UnitText : List Char → Nat → Prop
  | intro {a b c d : Char} {i j k l : Nat} (first : hexValue? a = some i) (second : hexValue? b = some j)
    (third : hexValue? c = some k) (fourth : hexValue? d = some l) :
    UnitText ['u', a, b, c, d] (((i * 16 + j) * 16 + k) * 16 + l)

/-- What stands behind a backslash for a character. A code unit that is half a surrogate pair needs its other half. -/
inductive EscapeText : List Char → Char → Prop
  | short {letter c : Char} (mem : (letter, c) ∈ shortEscapes) : EscapeText [letter] c
  | single {text : List Char} {n : Nat} (isUnit : UnitText text n) (not_leading : isLeading n = false)
    (not_trailing : isTrailing n = false) : EscapeText text (Char.ofNat n)
  | pair {text text' : List Char} {n m : Nat} (isUnit : UnitText text n) (leading : isLeading n = true)
    (isUnit' : UnitText text' m) (trailing : isTrailing m = true) :
    EscapeText (text ++ '\\' :: text') (Char.ofNat (0x10000 + (n - 0xD800) * 0x400 + (m - 0xDC00)))

/-- What stands for one character of a string: the character itself, unless it is a quote, a backslash or a control
character, or an escape. -/
inductive CharText : List Char → Char → Prop
  | plain {c : Char} (not_quote : c ≠ '"') (not_backslash : c ≠ '\\') (not_control : 0x20 ≤ c.toNat) : CharText [c] c
  | escape {text : List Char} {c : Char} (isEscape : EscapeText text c) : CharText ('\\' :: text) c

/-- What stands between the quotes of a string. -/
inductive StringText : List Char → List Char → Prop
  | nil : StringText [] []
  | cons {text texts : List Char} {c : Char} {cs : List Char} (head : CharText text c) (tail : StringText texts cs) :
    StringText (text ++ texts) (c :: cs)

/-! ## Scalars -/

section

variable (library : Library)

/-- A scalar. -/
inductive ScalarText : List Char → Value → Prop
  | null : ScalarText ['n', 'u', 'l', 'l'] .null
  | yes : ScalarText ['t', 'r', 'u', 'e'] (.boolean true)
  | no : ScalarText ['f', 'a', 'l', 's', 'e'] (.boolean false)
  | number {negative : Bool} {text : List Char} {numeral : Numeral} {x : Binary64}
    (isMagnitude : MagnitudeText negative text numeral) (number_eq : library.number? numeral = some x) :
    ScalarText (Binary64.withSign negative text) (.number x)
  | string {text cs : List Char} (isString : StringText text cs) :
    ScalarText ('"' :: (text ++ ['"'])) (.string (String.ofList cs))

/-! ## Objects -/

/-- A member of an object: a name, a colon and a scalar. -/
inductive MemberText : List Char → String × Value → Prop
  | intro {name cs spaces text : List Char} {v : Value} (isName : StringText name cs) (isSpaces : IsSpaces spaces)
    (isScalar : Spaced (ScalarText library) text v) :
    MemberText ('"' :: (name ++ '"' :: (spaces ++ ':' :: text))) (String.ofList cs, v)

/-- Members, at least one, with commas between them. -/
inductive MembersText : List Char → List (String × Value) → Prop
  | last {text : List Char} {m : String × Value} (isMember : Alone (MemberText library) text m) : MembersText text [m]
  | more {text texts : List Char} {m : String × Value} {ms : List (String × Value)}
    (isMember : Alone (MemberText library) text m) (areMembers : MembersText texts ms) :
    MembersText (text ++ ',' :: texts) (m :: ms)

/-- An object of scalars. -/
inductive ObjectText : List Char → List (String × Value) → Prop
  | empty {spaces : List Char} (isSpaces : IsSpaces spaces) : ObjectText ('{' :: (spaces ++ ['}'])) []
  | members {text : List Char} {ms : List (String × Value)} (areMembers : MembersText library text ms) :
    ObjectText ('{' :: (text ++ ['}'])) ms

end

end Formula.Json
