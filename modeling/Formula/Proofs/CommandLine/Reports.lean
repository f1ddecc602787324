import Formula.CommandLine
import Formula.Proofs.Messages

/-!
# What is told of a failure

* `lines`, `hanging` : texts by their lines.
* `Told` : what standard error holds of a failure, line by line.
* `indented_eq_hanging` : causes are indented behind their first line.
* `told_invalid`, `told_file`, `told_binding`, `told_engine` : reports are what is told.
-/

namespace Formula.CommandLine

/-- Lines with an end behind each. -/
def lines : List String → String
  | [] => ""
  | line :: rest => line ++ "\n" ++ lines rest

/-- A text whose lines are apart by a line end and some spaces. -/
def hanging (width : Nat) (text : String) : String :=
  String.ofList (List.intercalate ('\n' :: List.replicate width ' ') (text.toList.splitOn '\n'))

/-- The failures that runs come to: files are not refused as bindings, nor bindings as files. -/
inductive Told : Failure → String → Prop
  | blank : Told (.invalid .blank) (lines ["invalid: Expression cannot be empty"])
  | invalid {e : FormulaError} {words : String} (worded : e.Worded words) :
    Told (.invalid (.error e)) (lines ["invalid: " ++ words])
  | unreadable {path words : String} {why : FileError} (worded : why.Worded words) : Told (.file path (.unreadable why))
      (lines ["Error: Failed to load context from " ++ path, "", "Caused by:",
        "    0: " ++ hanging 7 ("IO error: " ++ words), "    1: " ++ hanging 7 words])
  | invalidJson {path complaint : String} {fault : Json.Fault} : Told (.file path (.invalidJson fault complaint))
      (lines ["Error: Failed to load context from " ++ path, "", "Caused by:",
        "    0: " ++ hanging 7 ("Invalid context JSON: " ++ complaint), "    1: " ++ hanging 7 complaint])
  | invalidBinding {binding : String} : Told (.binding (.invalidBinding binding))
      (lines ["Error: Invalid binding '" ++ binding ++ "': expected name=value"])
  | evaluation {formula words : String} {e : FormulaError} (worded : e.Worded words) :
    Told (.engine ⟨.evaluation, formula, e⟩)
      (lines ["Error: Failed to evaluate expression '" ++ formula ++ "': " ++ words, "", "Caused by:",
        "    " ++ hanging 4 words])
  | compilation {formula words : String} {e : FormulaError} (worded : e.Worded words) :
    Told (.engine ⟨.compilation, formula, e⟩)
      (lines ["Error: Failed to convert expression '" ++ formula ++ "' to SQL: " ++ words, "", "Caused by:",
        "    " ++ hanging 4 words])

/-! ## Indentation -/

theorem flatMap_eq_intercalate (spaces : List Char) : ∀ cs : List Char,
    cs.flatMap (fun c => if c = '\n' then '\n' :: spaces else [c]) =
      List.intercalate ('\n' :: spaces) (cs.splitOn '\n')
  | [] => by simp
  | c :: cs => by
    obtain ⟨line, rest, hsplit⟩ := List.exists_cons_of_ne_nil (List.splitOn_ne_nil '\n' cs)
    rw [List.flatMap_cons, flatMap_eq_intercalate spaces cs, List.splitOn_cons_eq_if_modifyHead, hsplit]
    by_cases hc : c = '\n'
    · subst hc
      simp
    · cases rest <;> simp [hc]

/-- **Causes are indented** behind their first line. -/
theorem indented_eq_hanging (width : Nat) (text : String) : indented width text = hanging width text := by
  rw [indented, hanging, flatMap_eq_intercalate]

/-! ## Reports -/

theorem lines_single (line : String) : lines [line] = line ++ "\n" := by
  rw [lines, lines, String.append_empty]

theorem errorReport_nil (message : String) : errorReport message [] = lines ["Error: " ++ message] := by
  simp only [errorReport, lines, String.append_empty]

theorem errorReport_single (message cause : String) :
    errorReport message [cause] = lines ["Error: " ++ message, "", "Caused by:", "    " ++ hanging 4 cause] := by
  have hcaused : "\nCaused by:\n    " = "\n" ++ ("Caused by:" ++ ("\n" ++ "    ")) := by decide
  simp only [errorReport, lines, indented_eq_hanging, hcaused, String.append_assoc, String.append_empty,
    String.empty_append]

theorem errorReport_pair (message first second : String) :
    errorReport message [first, second] =
      lines ["Error: " ++ message, "", "Caused by:", "    0: " ++ hanging 7 first, "    1: " ++ hanging 7 second] := by
  have hcaused : "\nCaused by:\n" = "\n" ++ ("Caused by:" ++ "\n") := by decide
  have hzero : "    0: " = "    " ++ (toString 0 ++ ": ") := by decide
  have hone : "    1: " = "    " ++ (toString 1 ++ ": ") := by decide
  simp only [errorReport, numberedCauses, lines, indented_eq_hanging, hcaused, hzero, hone, String.append_assoc,
    String.append_empty, String.empty_append, Nat.zero_add]

/-! ## Failures -/

theorem error_line {head line : String} (h : "Error: " ++ head = line) (rest : String) :
    "Error: " ++ (head ++ rest) = line ++ rest := by
  rw [← String.append_assoc, h]

theorem told_invalid (why : Invalidity) : Told (.invalid why) (Failure.report (.invalid why)) := by
  rw [Failure.report, ← lines_single]
  cases why with
  | blank => exact .blank
  | error e => exact .invalid e.worded_message

/-- A context file is refused by the system or by the library. -/
theorem told_file (path : String) {e : ContextError} (h : ∀ binding, e ≠ .invalidBinding binding) :
    Told (.file path e) (Failure.report (.file path e)) := by
  have hload : "Error: " ++ ("Failed to load context from " ++ path) =
      "Error: Failed to load context from " ++ path := error_line (by decide) path
  cases e with
  | unreadable why =>
    unfold Failure.report ContextError.message ContextError.causes
    dsimp only
    rw [errorReport_pair, hload]
    exact .unreadable why.worded_message
  | invalidJson fault complaint =>
    unfold Failure.report ContextError.message ContextError.causes
    dsimp only
    rw [errorReport_pair, hload]
    exact .invalidJson
  | invalidBinding binding => exact absurd rfl (h binding)

theorem told_binding (binding : String) :
    Told (.binding (.invalidBinding binding)) (Failure.report (.binding (.invalidBinding binding))) := by
  have herror : "Error: " ++ ("Invalid binding '" ++ binding ++ "': expected name=value") =
      "Error: Invalid binding '" ++ binding ++ "': expected name=value" := by
    simp only [String.append_assoc]
    exact error_line (by decide) _
  unfold Failure.report ContextError.message ContextError.causes
  dsimp only
  rw [errorReport_nil, herror]
  exact .invalidBinding

theorem told_engine (e : EngineError) : Told (.engine e) (Failure.report (.engine e)) := by
  obtain ⟨task, formula, cause⟩ := e
  unfold Failure.report EngineError.message
  dsimp only
  rw [errorReport_single]
  cases task with
  | evaluation =>
    have herror : "Error: " ++ ("Failed to evaluate expression '" ++ formula ++ "': " ++ cause.message) =
        "Error: Failed to evaluate expression '" ++ formula ++ "': " ++ cause.message := by
      simp only [String.append_assoc]
      exact error_line (by decide) _
    dsimp only
    rw [herror]
    exact .evaluation cause.worded_message
  | compilation =>
    have herror : "Error: " ++ ("Failed to convert expression '" ++ formula ++ "' to SQL: " ++ cause.message) =
        "Error: Failed to convert expression '" ++ formula ++ "' to SQL: " ++ cause.message := by
      simp only [String.append_assoc]
      exact error_line (by decide) _
    dsimp only
    rw [herror]
    exact .compilation cause.worded_message

end Formula.CommandLine
