import Formula.Proofs.CommandLine.Reports
import Formula.Proofs.Document.Bindings
import Formula.Proofs.Document.Scalars
import Formula.Proofs.Engine.Operations
import Formula.Proofs.Eval.Calls

/-!
# What the command line reports

A run prints what the library gives, or tells of the first thing that goes wrong: the context file comes before the
bindings, and these before the formula.

* `Prints`, `FirstFailure` : what a run comes to, in terms of the library alone.
* `run_eq_ok_iff`, `run_eq_error_iff` : the command line comes to that.
* `FirstFailure.told` : standard error holds what is told of the failure.
* `exit_eq_zero_iff`, `sql_exit_eq_zero_iff`, `validate_exit_eq_zero_iff` : the exit code.
* `report_agrees_with_library` : the whole report, for every command, and how the commands agree.
-/

namespace Formula.CommandLine

section

variable (library : Json.Library) (files : String → Except FileError String)

/-! ## What a run comes to -/

/-- What the library gives for the command, as a line of text. -/
inductive Prints : Invocation → String → Prop
  | value {formula : String} {file : Option String} {bindings : List String} {engine : Engine} {c : Context} {v : Value}
    (context_eq : buildContext library files file bindings = .ok c) (value_eq : engine.evaluate formula c = .ok v) :
    Prints ⟨.eval formula file bindings, engine⟩ v.toJson
  | sql {formula text : String} {engine : Engine} (sql_eq : engine.toSql formula = .ok text) :
    Prints ⟨.sql formula, engine⟩ text
  | valid {formula : String} {engine : Engine} (invalidity_eq : engine.invalidity? formula = none) :
    Prints ⟨.validate formula, engine⟩ "valid"

/-- The context file, if one is named, can be read and is an object of scalars. -/
def FileUsable (file : Option String) : Prop :=
  ∀ path, file = some path → ∃ c, Context.ofFile? library (files path) = .ok c

/-- What goes wrong first: a binding only matters when the file can be used, and a formula when there is a context. -/
inductive FirstFailure : Invocation → Failure → Prop
  | file {formula path : String} {bindings : List String} {engine : Engine} {e : ContextError}
    (file_eq : Context.ofFile? library (files path) = .error e) :
    FirstFailure ⟨.eval formula (some path) bindings, engine⟩ (.file path e)
  | binding {formula : String} {file : Option String} {bindings : List String} {engine : Engine} {e : ContextError}
    (usable : FileUsable library files file) (refused : Binding.FirstRefused library bindings e) :
    FirstFailure ⟨.eval formula file bindings, engine⟩ (.binding e)
  | evaluation {formula : String} {file : Option String} {bindings : List String} {engine : Engine} {c : Context}
    {e : EngineError} (context_eq : buildContext library files file bindings = .ok c)
    (value_eq : engine.evaluate formula c = .error e) :
    FirstFailure ⟨.eval formula file bindings, engine⟩ (.engine e)
  | compilation {formula : String} {engine : Engine} {e : EngineError} (sql_eq : engine.toSql formula = .error e) :
    FirstFailure ⟨.sql formula, engine⟩ (.engine e)
  | invalid {formula : String} {engine : Engine} {why : Invalidity}
    (invalidity_eq : engine.invalidity? formula = some why) :
    FirstFailure ⟨.validate formula, engine⟩ (.invalid why)

/-! ## Contexts -/

variable {library files}

theorem withBindings_eq_error_iff {bindings : List String} {c : Context} {e : Failure} :
    buildContext.withBindings library bindings c = .error e ↔
      ∃ e', Binding.FirstRefused library bindings e' ∧ e = .binding e' := by
  simp only [← Context.bindAll?_eq_error_iff (c := c)]
  rw [buildContext.withBindings]
  cases c.bindAll? library bindings <;> simp [eq_comm]

/-- **A context fails to be built** for its file, whatever the bindings, and else for its first binding that is none. -/
theorem buildContext_eq_error_iff {file : Option String} {bindings : List String} {e : Failure} :
    buildContext library files file bindings = .error e ↔
      (∃ path e', file = some path ∧ Context.ofFile? library (files path) = .error e' ∧ e = .file path e') ∨
        FileUsable library files file ∧ ∃ e', Binding.FirstRefused library bindings e' ∧ e = .binding e' := by
  cases file with
  | none => simp [buildContext, withBindings_eq_error_iff, FileUsable]
  | some path =>
    rw [buildContext]
    cases hfile : Context.ofFile? library (files path) with
    | error e' => simp [FileUsable, hfile, eq_comm]
    | ok c => simp [FileUsable, hfile, withBindings_eq_error_iff]

/-! ## Runs -/

/-- **A run succeeds** exactly with what the library gives. -/
theorem run_eq_ok_iff {invocation : Invocation} {line : String} :
    invocation.run library files = .ok line ↔ Prints library files invocation line := by
  obtain ⟨command, engine⟩ := invocation
  cases command with
  | eval formula file bindings =>
    simp only [Invocation.run]
    constructor
    · intro h
      split at h
      · cases h
      · rename_i c hc
        split at h
        · cases h
        · rename_i v hv
          cases h
          exact .value hc hv
    · rintro ⟨hc, hv⟩
      simp only [hc, hv]
  | sql formula =>
    simp only [Invocation.run]
    constructor
    · intro h
      split at h
      · cases h
      · rename_i text ht
        cases h
        exact .sql ht
    · rintro ⟨⟩
      rename_i ht
      simp only [ht]
  | validate formula =>
    simp only [Invocation.run]
    constructor
    · intro h
      split at h
      · cases h
      · rename_i hnone
        cases h
        exact .valid hnone
    · rintro ⟨⟩
      rename_i hnone
      simp only [hnone]

/-- **A run fails** exactly with what goes wrong first. -/
theorem run_eq_error_iff {invocation : Invocation} {e : Failure} :
    invocation.run library files = .error e ↔ FirstFailure library files invocation e := by
  obtain ⟨command, engine⟩ := invocation
  cases command with
  | eval formula file bindings =>
    simp only [Invocation.run]
    constructor
    · intro h
      split at h
      · rename_i e' hc
        cases h
        rcases buildContext_eq_error_iff.1 hc with ⟨path, e', rfl, hfile, rfl⟩ | ⟨husable, e', hrefused, rfl⟩
        · exact .file hfile
        · exact .binding husable hrefused
      · rename_i c hc
        split at h
        · rename_i e' hv
          cases h
          exact .evaluation hc hv
        · cases h
    · intro h
      cases h with
      | file hfile => simp only [buildContext_eq_error_iff.2 (.inl ⟨_, _, rfl, hfile, rfl⟩)]
      | binding husable hrefused => simp only [buildContext_eq_error_iff.2 (.inr ⟨husable, _, hrefused, rfl⟩)]
      | evaluation hc hv => simp only [hc, hv]
  | sql formula =>
    simp only [Invocation.run]
    constructor
    · intro h
      split at h
      · rename_i e' ht
        cases h
        exact .compilation ht
      · cases h
    · rintro ⟨⟩
      rename_i ht
      simp only [ht]
  | validate formula =>
    simp only [Invocation.run]
    constructor
    · intro h
      split at h
      · rename_i why hwhy
        cases h
        exact .invalid hwhy
      · cases h
    · rintro ⟨⟩
      rename_i hwhy
      simp only [hwhy]

/-! ## Reports -/

theorem report_of_prints {invocation : Invocation} {line : String} (h : Prints library files invocation line) :
    invocation.report library files = ⟨0, line ++ "\n", ""⟩ := by
  rw [Invocation.report, run_eq_ok_iff.2 h]

theorem report_of_firstFailure {invocation : Invocation} {e : Failure} (h : FirstFailure library files invocation e) :
    invocation.report library files = ⟨1, "", e.report⟩ := by
  rw [Invocation.report, run_eq_error_iff.2 h]

/-- A run prints something, or something goes wrong. -/
theorem exists_prints_or_firstFailure (library : Json.Library) (files : String → Except FileError String)
    (invocation : Invocation) :
    (∃ line, Prints library files invocation line) ∨ ∃ e, FirstFailure library files invocation e := by
  cases hrun : invocation.run library files with
  | ok line => exact .inl ⟨line, run_eq_ok_iff.1 hrun⟩
  | error e => exact .inr ⟨e, run_eq_error_iff.1 hrun⟩

theorem exit_eq_zero_iff {invocation : Invocation} :
    (invocation.report library files).exit = 0 ↔ ∃ line, Prints library files invocation line := by
  constructor
  · intro hexit
    rcases exists_prints_or_firstFailure library files invocation with h | ⟨e, he⟩
    · exact h
    · rw [report_of_firstFailure he] at hexit
      cases hexit
  · rintro ⟨line, h⟩
    rw [report_of_prints h]

/-- **What is told** is what goes wrong first. -/
theorem FirstFailure.told {invocation : Invocation} {e : Failure} (h : FirstFailure library files invocation e) :
    Told e e.report := by
  cases h with
  | @file _ path _ _ e file_eq =>
    refine told_file path ?_
    rintro binding rfl
    exact Context.ofFile?_ne_invalidBinding file_eq
  | binding _ refused =>
    obtain ⟨_, _, _, _, _, hread⟩ := refused
    obtain ⟨rfl, -⟩ := Binding.read?_eq_error_iff.1 hread
    exact told_binding _
  | evaluation | compilation => exact told_engine _
  | invalid => exact told_invalid _

theorem exists_firstFailure_of_exit {invocation : Invocation} (h : (invocation.report library files).exit ≠ 0) :
    ∃ e text, FirstFailure library files invocation e ∧ Told e text ∧
      invocation.report library files = ⟨1, "", text⟩ := by
  obtain ⟨e, he⟩ := (exists_prints_or_firstFailure library files invocation).resolve_left fun hp =>
    h (exit_eq_zero_iff.2 hp)
  exact ⟨e, _, he, he.told, report_of_firstFailure he⟩

/-- No more than one thing goes wrong first. -/
theorem FirstFailure.unique {invocation : Invocation} {e e' : Failure} (h : FirstFailure library files invocation e)
    (h' : FirstFailure library files invocation e') : e = e' :=
  Except.error.inj ((run_eq_error_iff.2 h).symm.trans (run_eq_error_iff.2 h'))

/-! ## Agreement of the commands -/

section

variable {formula : String} {maxDepth : Nat}

theorem sql_exit_eq_zero_iff (h : Engine.isBlank formula = false) (dialect : Dialect) :
    (Invocation.report library files ⟨.sql formula, ⟨dialect, maxDepth⟩⟩).exit = 0 ↔
      ∃ e, Expr.ofFormula formula maxDepth = .ok e := by
  rw [exit_eq_zero_iff]
  refine Iff.trans ?_ (Engine.exists_toSql_iff ⟨dialect, maxDepth⟩ h)
  exact ⟨fun ⟨_, .sql ht⟩ => ⟨_, ht⟩, fun ⟨_, ht⟩ => ⟨_, .sql ht⟩⟩

theorem validate_exit_eq_zero_iff (h : Engine.isBlank formula = false) (dialect : Dialect) :
    (Invocation.report library files ⟨.validate formula, ⟨dialect, maxDepth⟩⟩).exit = 0 ↔
      ∃ e, Expr.ofFormula formula maxDepth = .ok e := by
  rw [exit_eq_zero_iff]
  refine Iff.trans ?_ (Engine.invalidity?_eq_none_iff ⟨dialect, maxDepth⟩ h)
  exact ⟨fun ⟨_, .valid hnone⟩ => hnone, fun hnone => ⟨_, .valid hnone⟩⟩

/-- **A formula that can be read** fails in a context that can be built only for one of its calls, of an unknown
function. -/
theorem firstFailure_of_tree {file : Option String} {bindings : List String} {dialect : Dialect}
    (h : Engine.isBlank formula = false) {tree : Expr} (htree : Expr.ofFormula formula maxDepth = .ok tree)
    {c : Context} (hc : buildContext library files file bindings = .ok c) {e : Failure}
    (he : FirstFailure library files ⟨.eval formula file bindings, ⟨dialect, maxDepth⟩⟩ e) :
    ∃ name ∈ tree.callNames, Builtin.isKnown name = false ∧
      e = .engine ⟨.evaluation, formula, .eval (.unknownFunction name)⟩ := by
  have hrun := run_eq_error_iff.2 he
  simp only [Invocation.run, hc] at hrun
  rw [Engine.evaluate_eq ⟨dialect, maxDepth⟩ h, Engine.parse, htree] at hrun
  cases hvalue : tree.eval c with
  | ok v => simp [Except.bind, Except.mapError, hvalue] at hrun
  | error x =>
    obtain ⟨name, hname, rfl⟩ := Expr.eval_eq_error_iff.1 hvalue
    obtain ⟨before, after, horder, -, hunknown⟩ := firstUnknown?_eq_some.1 hname
    have hmem : name ∈ tree.callNames := tree.callOrder_perm.mem_iff.1 (horder ▸ by simp)
    refine ⟨name, hmem, hunknown, ?_⟩
    simpa [Except.bind, Except.mapError, hvalue] using hrun.symm

end

end

/-- **The command line reports exactly what the library says.** The exit code is 0 when the library succeeds, and then
its answer is printed on a line; if not, the exit code is 1, nothing is printed and standard error holds what is told of
the first failure. A formula that is not blank is valid when it compiles, in every dialect, and then its evaluation in a
context that can be built fails only for a call of an unknown function. -/
theorem report_agrees_with_library (library : Json.Library) (files : String → Except FileError String) :
    (∀ invocation : Invocation,
      ((invocation.report library files).exit = 0 ↔ ∃ line, Prints library files invocation line) ∧
      (∀ line, Prints library files invocation line → invocation.report library files = ⟨0, line ++ "\n", ""⟩) ∧
      ((invocation.report library files).exit ≠ 0 → ∃ e text, FirstFailure library files invocation e ∧ Told e text ∧
        invocation.report library files = ⟨1, "", text⟩) ∧
      ∀ e e', FirstFailure library files invocation e → FirstFailure library files invocation e' → e = e') ∧
    ∀ (formula : String) (maxDepth : Nat), Unicode.trim formula.toList ≠ [] →
      (∀ dialect dialect', (Invocation.report library files ⟨.validate formula, ⟨dialect, maxDepth⟩⟩).exit = 0 ↔
        (Invocation.report library files ⟨.sql formula, ⟨dialect', maxDepth⟩⟩).exit = 0) ∧
      ∀ dialect, (Invocation.report library files ⟨.validate formula, ⟨dialect, maxDepth⟩⟩).exit = 0 →
        ∃ tree, Expr.ofFormula formula maxDepth = .ok tree ∧
          ∀ dialect' file bindings c, buildContext library files file bindings = .ok c →
            (Invocation.report library files ⟨.eval formula file bindings, ⟨dialect', maxDepth⟩⟩).exit ≠ 0 →
            ∃ name ∈ tree.callNames, Builtin.isKnown name = false ∧
              ∃ text, Told (.engine ⟨.evaluation, formula, .eval (.unknownFunction name)⟩) text ∧
                Invocation.report library files ⟨.eval formula file bindings, ⟨dialect', maxDepth⟩⟩ =
                  ⟨1, "", text⟩ := by
  refine ⟨fun invocation => ⟨exit_eq_zero_iff, fun line => report_of_prints, exists_firstFailure_of_exit,
    fun e e' => FirstFailure.unique⟩, fun formula maxDepth hblank => ?_⟩
  rw [ne_eq, Unicode.trim_eq_nil_iff] at hblank
  have hformula : Engine.isBlank formula = false := Bool.eq_false_iff.2 hblank
  refine ⟨fun dialect dialect' => ?_, fun dialect hvalid => ?_⟩
  · rw [validate_exit_eq_zero_iff hformula, sql_exit_eq_zero_iff hformula]
  · obtain ⟨tree, htree⟩ := (validate_exit_eq_zero_iff hformula dialect).1 hvalid
    refine ⟨tree, htree, fun dialect' file bindings c hc hexit => ?_⟩
    obtain ⟨e, text, he, htold, hreport⟩ := exists_firstFailure_of_exit hexit
    obtain ⟨name, hname, hunknown, rfl⟩ := firstFailure_of_tree hformula htree hc he
    exact ⟨name, hname, hunknown, text, htold, hreport⟩

end Formula.CommandLine
