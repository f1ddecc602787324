import Formula.Error
import Formula.Files

/-!
# The words of errors

* `Token.Named` : how a message names a token.
* `FormulaError.Worded` : what is said of each error in a formula.
* `FormulaError.worded_message` : the message of an error is that.
* `FileError.Worded`, `FileError.worded_message` : the same of files that cannot be read.
-/

namespace Formula

/-- A message names a token by its text, with quotes around a string, and the end of the input by that. -/
inductive Token.Named : Token → String → Prop
  | endOfInput {text : String} {position : Nat} : Named ⟨.endOfInput, text, position⟩ "end of input"
  | string {text : String} {position : Nat} : Named ⟨.string, text, position⟩ ("'" ++ text ++ "'")
  | other {kind : TokenKind} {text : String} {position : Nat} (not_end : kind ≠ .endOfInput)
    (not_string : kind ≠ .string) : Named ⟨kind, text, position⟩ text

theorem Token.named_describe (t : Token) : t.Named t.describe := by
  obtain ⟨kind, text, position⟩ := t
  cases kind with
  | endOfInput => exact .endOfInput
  | string => exact .string
  | _ => exact .other (by decide) (by decide)

/-- What is said of an error. One about a token tells its name and its position. -/
inductive FormulaError.Worded : FormulaError → String → Prop
  | unknownCharacter {c : Char} {position : Nat} :
    Worded (.scan ⟨c, position⟩) ("Unknown character '" ++ c.toString ++ "' at position " ++ toString position)
  | unexpected {t : Token} {name : String} (named : t.Named name) :
    Worded (.parse (.unexpectedToken t)) ("Unexpected token: " ++ name ++ " at position " ++ toString t.position)
  | unclosedGroup {t : Token} {name : String} (named : t.Named name) :
    Worded (.parse (.unclosed .group t))
      ("Expected ')' after expression, found " ++ name ++ " at position " ++ toString t.position)
  | unclosedArguments {t : Token} {name : String} (named : t.Named name) :
    Worded (.parse (.unclosed .arguments t))
      ("Expected ')' after function arguments, found " ++ name ++ " at position " ++ toString t.position)
  | invalidNumber {text : String} : Worded (.parse (.invalidNumber text)) ("Invalid number literal: " ++ text)
  | tooDeep {maxDepth : Nat} :
    Worded (.parse (.tooDeep maxDepth)) ("Expression nesting exceeds the maximum depth of " ++ toString maxDepth)
  | unknownFunction {name : String} : Worded (.eval (.unknownFunction name)) ("Unknown function: " ++ name)

/-- The place of the parenthesis that is missing, between the words around it. -/
theorem Bracket.words_place (bracket : Bracket) : "Expected ')' " ++ bracket.place ++ ", found " =
    match bracket with
    | .group => "Expected ')' after expression, found "
    | .arguments => "Expected ')' after function arguments, found " := by
  cases bracket <;> decide

/-- **The message of an error** is what is said of it. -/
theorem FormulaError.worded_message (e : FormulaError) : e.Worded e.message := by
  unfold message
  cases e with
  | scan e =>
    unfold UnknownCharacter.message
    exact .unknownCharacter
  | eval e =>
    obtain ⟨name⟩ := e
    unfold EvalError.message
    exact .unknownFunction
  | parse e =>
    unfold ParseError.message
    cases e with
    | unexpectedToken t => exact .unexpected t.named_describe
    | unclosed bracket t =>
      simp only [Bracket.words_place]
      cases bracket with
      | group => exact .unclosedGroup t.named_describe
      | arguments => exact .unclosedArguments t.named_describe
    | invalidNumber => exact .invalidNumber
    | tooDeep => exact .tooDeep

/-- What the system says of a file that cannot be read: its words and the number of the refusal. -/
inductive FileError.Worded : FileError → String → Prop
  | notFound : Worded .notFound "No such file or directory (os error 2)"
  | noDevice : Worded .noDevice "No such device or address (os error 6)"
  | permissionDenied : Worded .permissionDenied "Permission denied (os error 13)"
  | notADirectory : Worded .notADirectory "Not a directory (os error 20)"
  | isADirectory : Worded .isADirectory "Is a directory (os error 21)"
  | nameTooLong : Worded .nameTooLong "File name too long (os error 36)"
  | tooManyLinks : Worded .tooManyLinks "Too many levels of symbolic links (os error 40)"
  | notText : Worded .notText "stream did not contain valid UTF-8"
  | other {code : Nat} {text : String} : Worded (.other code text) (text ++ " (os error " ++ toString code ++ ")")

theorem FileError.Worded.of_eq {why : FileError} {words words' : String} (h : why.Worded words) (heq : words' = words) :
    why.Worded words' := heq ▸ h

/-- **The message of a file error** is what the system says. -/
theorem FileError.worded_message (why : FileError) : why.Worded why.message := by
  cases why with
  | notFound => exact Worded.notFound.of_eq (by decide)
  | noDevice => exact Worded.noDevice.of_eq (by decide)
  | permissionDenied => exact Worded.permissionDenied.of_eq (by decide)
  | notADirectory => exact Worded.notADirectory.of_eq (by decide)
  | isADirectory => exact Worded.isADirectory.of_eq (by decide)
  | nameTooLong => exact Worded.nameTooLong.of_eq (by decide)
  | tooManyLinks => exact Worded.tooManyLinks.of_eq (by decide)
  | notText => exact .notText
  | other code text =>
    unfold message coded
    exact .other

end Formula
