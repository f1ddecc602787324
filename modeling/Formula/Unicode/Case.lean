import Formula.Unicode.CaseTables
import Formula.Unicode.Ranges

/-!
# Letter case

The full lower case and upper case of a text. A capital sigma that ends a word becomes a final sigma; every other
character is mapped by itself, some of them to several characters.
-/

namespace Formula.Unicode

/-- The image of the code point under the first run that holds it. -/
def CaseRun.image? (codePoint : Nat) : List CaseRun → Option Nat
  | [] => none
  | run :: rest =>
    if codePoint < run.first then none
    else if codePoint ≤ run.last ∧ (codePoint - run.first) % run.step = 0 then
      some (run.image + (codePoint - run.first))
    else image? codePoint rest

/-- The lower case of one character: only `İ` has two characters, `i` and a combining dot. -/
def lowerChar (c : Char) : List Char :=
  if c.toNat = 0x0130 then ['i', Char.ofNat 0x0307]
  else match CaseRun.image? c.toNat lowerRuns with
    | some n => [Char.ofNat n]
    | none => [c]

/-- The upper case of one character. -/
def upperChar (c : Char) : List Char :=
  match upperExpansions.lookup c.toNat with
  | some ns => ns.map Char.ofNat
  | none => match CaseRun.image? c.toNat upperRuns with
    | some n => [Char.ofNat n]
    | none => [c]

/-- Whether a cased letter comes next, after any case-ignorable characters. -/
def casedNext (cs : List Char) : Bool :=
  match cs.dropWhile fun c => inRanges c.toNat caseIgnorableRanges with
  | [] => false
  | c :: _ => inRanges c.toNat casedRanges

/-- The lower case of a text, given the characters before it from the nearest to the farthest. A capital sigma is final
when a cased letter comes before it and none after it. -/
def lowerAfter (before : List Char) : List Char → List Char
  | [] => []
  | c :: rest =>
    let image :=
      if c = 'Σ' then [if casedNext before && !casedNext rest then 'ς' else 'σ'] else lowerChar c
    image ++ lowerAfter (c :: before) rest

/-- The full lower case of a text. -/
def lowerCase (cs : List Char) : List Char := lowerAfter [] cs

/-- The full upper case of a text. -/
def upperCase (cs : List Char) : List Char := cs.flatMap upperChar

end Formula.Unicode
