import Formula.Proofs.Document.Bindings
import Formula.Proofs.Engine.Operations
import Formula.Proofs.Eval.Fields
import Formula.Session

/-!
# How a session changes

A session changes by one operation after another, and each of them either takes effect or fails.

* `after_cases` : both ways that an operation can end.
* `after_of_fails` : an operation that fails leaves the session as it was.
* `get?_afterAll`, `run?_afterAll` : a key that no operation touches keeps its value, and so does the kept expression
  if its fields are not touched.
* `afterAll_bind` : of many bindings a session takes all that can be read, where `Context.bindAll?` stops at the first
  that cannot.
* `kept_afterAll` : what is kept is the expression of a formula that was parsed.
* `Prepared.evaluate_cases`, `Prepared.toSql_cases` : the kept expression stands for its formula, whatever has become of
  the context and the options since.
-/

namespace Formula

/-- What can change a session. -/
inductive Operation
  | bind (binding : String)
  | load (json : String)
  | set (name : String) (value : Value)
  | unset (name : String)
  | store (name formula : String)
  | parse (formula : String)
  | setDialect (dialect : Dialect)
  | setMaxDepth (maxDepth : Nat)

/-- The operation can change what is found under the key. -/
def Operation.Touches (library : Json.Library) (key : String) : Operation → Prop
  | bind binding => ∃ value, Binding.read? library binding = .ok (key, value)
  | load json => ∃ c, Context.ofJson? library json = .ok c
  | set name _ | unset name | store name _ => name = key
  | parse _ | setDialect _ | setMaxDepth _ => False

namespace Session

section

variable (library : Json.Library) (s : Session)

/-- The session after an operation. -/
def after : Operation → Session
  | .bind binding => (s.bind library binding).2
  | .load json => (s.load library json).2
  | .set name value => s.set name value
  | .unset name => (s.unset name).2
  | .store name formula => (s.store name formula).2
  | .parse formula => (s.parse formula).2
  | .setDialect dialect => s.setDialect dialect
  | .setMaxDepth maxDepth => s.setMaxDepth maxDepth

/-- The session after many operations. -/
def afterAll : List Operation → Session := List.foldl (after library) s

/-- The operation answers with an error. -/
def Fails : Operation → Prop
  | .bind binding => ∃ e, (s.bind library binding).1 = .error e
  | .load json => ∃ e, (s.load library json).1 = .error e
  | .store name formula => ∃ e, (s.store name formula).1 = .error e
  | .parse formula => ∃ e, (s.parse formula).1 = .error e
  | .set _ _ | .unset _ | .setDialect _ | .setMaxDepth _ => False

/-- What becomes of the session when the operation takes effect. -/
inductive Effect : Operation → Session → Prop
  | bind {binding name : String} {value : Value} (h : Binding.read? library binding = .ok (name, value)) :
    Effect (.bind binding) { s with context := s.context.set name value }
  | load {json : String} {c : Context} (h : Context.ofJson? library json = .ok c) :
    Effect (.load json) { s with context := c }
  | set (name : String) (value : Value) : Effect (.set name value) { s with context := s.context.set name value }
  | unset (name : String) : Effect (.unset name) { s with context := s.context.erase name }
  | store {name formula : String} {value : Value} (h : s.evaluate formula = .ok value) :
    Effect (.store name formula) { s with context := s.context.set name value }
  | parse {formula : String} {e : Expr} (h : s.engine.parse formula = .ok e) :
    Effect (.parse formula) { s with kept := some e }
  | setDialect (dialect : Dialect) : Effect (.setDialect dialect) { s with engine := { s.engine with dialect } }
  | setMaxDepth (maxDepth : Nat) : Effect (.setMaxDepth maxDepth) { s with engine := { s.engine with maxDepth } }

end

/-! ## One operation -/

section

variable (s : Session)

/-- An attempt answers with an error and changes nothing, or goes on to where the operation is meant to lead. -/
theorem attempt_cases {ε α : Type} {library : Json.Library} {op : Operation} {answer : Except ε α} {next : α → Session}
    (h : ∀ a, answer = .ok a → s.Effect library op (next a)) :
    (∃ e, (s.attempt answer next).1 = .error e) ∧ (s.attempt answer next).2 = s ∨
      (¬ ∃ e, (s.attempt answer next).1 = .error e) ∧ s.Effect library op (s.attempt answer next).2 := by
  cases answer with
  | error e => exact .inl ⟨⟨e, rfl⟩, rfl⟩
  | ok a => exact .inr ⟨by simp [attempt], h a rfl⟩

/-- **An operation fails and changes nothing, or takes effect.** -/
theorem after_cases (library : Json.Library) (op : Operation) : s.Fails library op ∧ s.after library op = s ∨
    ¬ s.Fails library op ∧ s.Effect library op (s.after library op) := by
  cases op with
  | bind binding => exact s.attempt_cases fun (name, value) h => .bind h
  | load json => exact s.attempt_cases fun c h => .load h
  | store name formula => exact s.attempt_cases fun value h => .store h
  | parse formula => exact s.attempt_cases fun e h => .parse h
  | set name value => exact .inr ⟨id, .set name value⟩
  | unset name => exact .inr ⟨id, .unset name⟩
  | setDialect dialect => exact .inr ⟨id, .setDialect dialect⟩
  | setMaxDepth maxDepth => exact .inr ⟨id, .setMaxDepth maxDepth⟩

end

variable {library : Json.Library} {s s' : Session} {op : Operation}

/-- **A failing operation leaves the session as it was.** -/
theorem after_of_fails (h : s.Fails library op) : s.after library op = s := by
  rcases s.after_cases library op with ⟨-, hsame⟩ | ⟨hnot, -⟩
  · exact hsame
  · exact absurd h hnot

/-- It could as well be left out. -/
theorem afterAll_of_fails (before after : List Operation) (h : (s.afterAll library before).Fails library op) :
    s.afterAll library (before ++ op :: after) = s.afterAll library (before ++ after) := by
  simp only [afterAll, List.foldl_append, List.foldl_cons]
  exact congrArg (List.foldl _ · after) (after_of_fails h)

/-! ## The context -/

theorem Effect.get?_context {key : String} (h : s.Effect library op s') (hop : ¬ op.Touches library key) :
    s'.context.get? key = s.context.get? key := by
  cases h with
  | bind h => exact s.context.get?_set_ne _ fun hkey => hop ⟨_, by rw [h, hkey]⟩
  | load h => exact absurd ⟨_, h⟩ hop
  | set => exact s.context.get?_set_ne _ (Ne.symm hop)
  | unset => exact s.context.get?_erase_ne (Ne.symm hop)
  | store => exact s.context.get?_set_ne _ (Ne.symm hop)
  | parse | setDialect | setMaxDepth => rfl

theorem get?_after {key : String} (h : ¬ op.Touches library key) :
    (s.after library op).context.get? key = s.context.get? key := by
  rcases s.after_cases library op with ⟨-, hsame⟩ | ⟨-, heffect⟩
  · rw [hsame]
  · exact heffect.get?_context h

/-- **A key keeps its value** as long as no operation touches it. -/
theorem get?_afterAll {key : String} : ∀ {ops : List Operation} {s : Session},
    (∀ op ∈ ops, ¬ op.Touches library key) → (s.afterAll library ops).context.get? key = s.context.get? key
  | [], _, _ => rfl
  | op :: ops, s, h => by
    obtain ⟨hop, hops⟩ := List.forall_mem_cons.1 h
    exact (get?_afterAll (s := s.after library op) hops).trans (get?_after hop)

/-- Removing a field tells whether it was there, and it is there no more. -/
theorem unset_removes (s : Session) (name : String) :
    ((s.unset name).1 = true ↔ name ∈ s.context.keys) ∧ (s.unset name).2.context.get? name = none :=
  ⟨Context.isSome_get?_iff, s.context.get?_erase_self name⟩

/-- The entries of the bindings that can be read. -/
def readable (library : Json.Library) (bindings : List String) : List (String × Value) :=
  bindings.filterMap (Except.toOption ∘ Binding.read? library)

/-- **Of many bindings** those that can be read put in their entries one after another; nothing else changes. -/
theorem afterAll_bind : ∀ (bindings : List String) (s : Session), s.afterAll library (bindings.map .bind) =
    { s with context := (readable library bindings).foldl (fun c entry => c.set entry.1 entry.2) s.context }
  | [], _ => rfl
  | binding :: bindings, s => by
    refine (afterAll_bind bindings (s.after library (.bind binding))).trans ?_
    cases hread : Binding.read? library binding with
    | error e =>
      have hsame : s.after library (.bind binding) = s := by simp only [after, bind, attempt, hread]
      have hskipped : readable library (binding :: bindings) = readable library bindings :=
        List.filterMap_cons_none (by rw [Function.comp_apply, hread]; rfl)
      rw [hsame, hskipped]
    | ok entry =>
      have hset : s.after library (.bind binding) = s.set entry.1 entry.2 := by simp only [after, bind, attempt, hread]
      have htaken : readable library (binding :: bindings) = entry :: readable library bindings :=
        List.filterMap_cons_some (by rw [Function.comp_apply, hread]; rfl)
      rw [hset, htaken, List.foldl_cons, set]

/-- Where all bindings can be put into a context, a session ends with that context. -/
theorem afterAll_bind_of_bindAll? {bindings : List String} {c : Context}
    (h : s.context.bindAll? library bindings = .ok c) :
    s.afterAll library (bindings.map .bind) = { s with context := c } := by
  rcases @Binding.firstRefused_or_map_read? library bindings with ⟨e, hrefused⟩ | ⟨entries, hentries⟩
  · rw [Context.bindAll?_eq_error_iff.2 hrefused] at h
    cases h
  · have hbound := Context.bindAll?_of_map_read? s.context hentries
    have htaken : readable library bindings = entries := by
      rw [readable, ← List.filterMap_map, hentries, List.filterMap_map]
      exact List.filterMap_some
    rw [h] at hbound
    rw [afterAll_bind, Except.ok.inj hbound, htaken]

/-! ## The kept expression -/

/-- The kept expression is that of the formula, read under one limit or another. -/
def Prepared (formula : String) (s : Session) : Prop :=
  ∃ e maxDepth, Expr.ofFormula formula maxDepth = .ok e ∧ s.kept = some e

theorem Effect.kept (h : s.Effect library op s') :
    s'.kept = s.kept ∨ ∃ formula, op = .parse formula ∧ s'.Prepared formula := by
  cases h with
  | parse h => exact .inr ⟨_, rfl, _, _, h, rfl⟩
  | bind | load | set | unset | store | setDialect | setMaxDepth => exact .inl rfl

theorem kept_after (library : Json.Library) (s : Session) (op : Operation) :
    (s.after library op).kept = s.kept ∨ ∃ formula, op = .parse formula ∧ (s.after library op).Prepared formula := by
  rcases s.after_cases library op with ⟨-, hsame⟩ | ⟨-, heffect⟩
  · exact .inl (by rw [hsame])
  · exact heffect.kept

/-- **What is kept was parsed**, by one of the operations or before them. -/
theorem kept_afterAll : ∀ (ops : List Operation) (s : Session), (s.afterAll library ops).kept = s.kept ∨
    ∃ formula, .parse formula ∈ ops ∧ (s.afterAll library ops).Prepared formula
  | [], _ => .inl rfl
  | op :: ops, s => by
    rcases kept_afterAll ops (s.after library op) with hops | ⟨formula, hmem, hprepared⟩
    · rcases s.kept_after library op with hop | ⟨formula, rfl, e, maxDepth, hread, hkept⟩
      · exact .inl (hops.trans hop)
      · exact .inr ⟨formula, List.mem_cons_self, e, maxDepth, hread, hops.trans hkept⟩
    · exact .inr ⟨formula, List.mem_cons_of_mem _ hmem, hprepared⟩

/-- Where nothing is parsed, the same expression is kept. -/
theorem kept_afterAll_of_not_parse {ops : List Operation} (h : ∀ formula, .parse formula ∉ ops) :
    (s.afterAll library ops).kept = s.kept := by
  rcases kept_afterAll ops s with hsame | ⟨formula, hmem, -⟩
  · exact hsame
  · exact absurd hmem (h formula)

/-- **The kept expression keeps its value** as long as nothing is parsed and no key touched that one of its fields is
looked up under. -/
theorem run?_afterAll {ops : List Operation} (hparse : ∀ formula, .parse formula ∉ ops)
    (h : ∀ e, s.kept = some e → ∀ f ∈ e.fields, ∀ op ∈ ops,
      ¬ op.Touches library f.key ∧ (f.global = true → ¬ op.Touches library f.name)) :
    (s.afterAll library ops).run? = s.run? := by
  rw [run?, run?, kept_afterAll_of_not_parse hparse]
  cases hkept : s.kept with
  | none => rfl
  | some e =>
    refine congrArg some (Expr.eval_congr e fun f hf => ?_)
    have huntouched := h e hkept f (Expr.mem_fields.2 hf)
    exact ⟨get?_afterAll fun op hop => (huntouched op hop).1,
      fun hglobal => get?_afterAll fun op hop => (huntouched op hop).2 hglobal⟩

section

variable {formula : String}

theorem prepared_parse {e : Expr} (h : (s.parse formula).1 = .ok e) : (s.parse formula).2.Prepared formula := by
  cases hread : s.engine.parse formula with
  | error e' =>
    rw [parse, hread] at h
    cases h
  | ok e' =>
    rw [parse, hread]
    exact ⟨e', s.engine.maxDepth, hread, rfl⟩

/-- Once a formula is parsed, its expression is kept until another one is. -/
theorem Prepared.afterAll {ops : List Operation} (h : s.Prepared formula) (hparse : ∀ formula, .parse formula ∉ ops) :
    (s.afterAll library ops).Prepared formula := by
  obtain ⟨e, maxDepth, hread, hkept⟩ := h
  exact ⟨e, maxDepth, hread, (kept_afterAll_of_not_parse hparse).trans hkept⟩

/-- **The kept expression has the value of its formula**, unless the limit has become too low for the formula. -/
theorem Prepared.evaluate_cases (h : s.Prepared formula) : ∃ answer, s.run? = some answer ∧
    (s.evaluate formula = answer.mapError (⟨.evaluation, formula, .eval ·⟩) ∨
      s.evaluate formula = .error ⟨.evaluation, formula, .parse (.tooDeep (max 1 s.engine.maxDepth))⟩) := by
  obtain ⟨e, maxDepth, hread, hkept⟩ := h
  refine ⟨e.eval s.context, by rw [run?, hkept]; rfl, ?_⟩
  rcases ofFormula_of_ok hread s.engine.maxDepth with hparse | hdeep
  · exact .inl (Engine.evaluate_of_parse hparse s.context)
  · have hblank := Engine.isBlank_of_ofFormula hread
    right
    rw [evaluate, Engine.evaluate_eq s.engine hblank, Engine.parse, hdeep]
    rfl

/-- **It has the SQL text of its formula** under the same condition. -/
theorem Prepared.toSql_cases (h : s.Prepared formula) : ∃ sql, s.compile? = some sql ∧
    (s.engine.toSql formula = .ok sql ∨
      s.engine.toSql formula = .error ⟨.compilation, formula, .parse (.tooDeep (max 1 s.engine.maxDepth))⟩) := by
  obtain ⟨e, maxDepth, hread, hkept⟩ := h
  refine ⟨e.toSql s.engine.dialect, by rw [compile?, hkept]; rfl, ?_⟩
  rcases ofFormula_of_ok hread s.engine.maxDepth with hparse | hdeep
  · exact .inl (Engine.toSql_of_parse hparse)
  · have hblank := Engine.isBlank_of_ofFormula hread
    right
    rw [Engine.toSql_eq s.engine hblank, Engine.parse, hdeep]
    rfl

end

end Session
end Formula
