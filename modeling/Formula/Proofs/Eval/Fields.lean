import Formula.Eval

/-!
# What an evaluation reads

The value of an expression depends on the fields that it refers to, and for each of them on the keys under which a
context is asked for it: its key, and for a global field also its bare name.

* `fields_eq_eraseDups` : the listed fields are the references of the tree without repetitions.
* `eval_congr` : contexts that agree on the references of a tree.
* `eval_eq_of_agreeOn` : contexts that agree on the listed fields.
-/

namespace Formula

/-! ## The listed fields -/

namespace Expr

mutual

/-- **Collecting lists each reference once**, at its first appearance. -/
theorem collect_eraseDups : ∀ (e : Expr) (listed : List Field),
    e.collect listed.eraseDups = (listed ++ e.references).eraseDups
  | literal _, listed => by rw [collect, references, List.append_nil]
  | field f, listed => by
    rw [collect, references, List.eraseDups_append]
    by_cases hf : f ∈ listed <;> simp [List.removeAll, List.mem_eraseDups, List.eraseDups_cons, hf]
  | binary l _ r, listed => by
    rw [collect, references, collect_eraseDups l, collect_eraseDups r, List.append_assoc]
  | call _ args, listed => collectAll_eraseDups args listed

theorem collectAll_eraseDups : ∀ (es : List Expr) (listed : List Field),
    collectAll es listed.eraseDups = (listed ++ referencesAll es).eraseDups
  | [], listed => by rw [collectAll, referencesAll, List.append_nil]
  | e :: es, listed => by
    rw [collectAll, referencesAll, collect_eraseDups e, collectAll_eraseDups es, List.append_assoc]

end

/-- **The listed fields** are those that the tree refers to, without repetitions. -/
theorem fields_eq_eraseDups (e : Expr) : e.fields = e.references.eraseDups := e.collect_eraseDups []

theorem mem_fields {e : Expr} {f : Field} : f ∈ e.fields ↔ f ∈ e.references := by
  rw [fields_eq_eraseDups, List.mem_eraseDups]

end Expr

/-! ## Contexts that agree -/

/-- The contexts have the same value, or none, wherever they are asked for the field. -/
def Context.AgreeOn (c c' : Context) (f : Field) : Prop :=
  c.get? f.key = c'.get? f.key ∧ (f.global = true → c.get? f.name = c'.get? f.name)

instance (c c' : Context) (f : Field) : Decidable (c.AgreeOn c' f) := inferInstanceAs (Decidable (_ ∧ _))

variable {c c' : Context}

theorem Context.AgreeOn.resolve_eq {f : Field} (h : c.AgreeOn c' f) : c.resolve f = c'.resolve f := by
  obtain ⟨hkey, hname⟩ := h
  unfold resolve
  cases hglobal : f.global with
  | true => rw [hkey, hname hglobal]
  | false =>
    have hbare : f.key = f.name := by simp [Field.key, hglobal]
    rw [hbare] at hkey
    rw [hkey]
    rfl

/-- A value put under a key leaves the fields alone that are not looked up there. -/
theorem Context.agreeOn_set {f : Field} {key : String} (c : Context) (value : Value) (hkey : f.key ≠ key)
    (hname : f.global = true → f.name ≠ key) : (c.set key value).AgreeOn c f :=
  ⟨c.get?_set_ne value hkey, fun hglobal => c.get?_set_ne value (hname hglobal)⟩

namespace Expr

mutual

/-- **An evaluation reads no more than the references** of its tree. -/
theorem eval_congr : ∀ e : Expr, (∀ f ∈ e.references, c.AgreeOn c' f) → e.eval c = e.eval c'
  | literal _, _ => rfl
  | field f, h => congrArg Except.ok (h f List.mem_cons_self).resolve_eq
  | binary l _ r, h => by
    rw [references] at h
    obtain ⟨hl, hr⟩ := List.forall_mem_append.1 h
    rw [eval, eval, eval_congr l hl, eval_congr r hr]
  | call _ args, h => by
    rw [eval, eval, evalAll_congr args h]

theorem evalAll_congr : ∀ es : List Expr, (∀ f ∈ referencesAll es, c.AgreeOn c' f) → evalAll c es = evalAll c' es
  | [], _ => rfl
  | e :: es, h => by
    rw [referencesAll] at h
    obtain ⟨he, hes⟩ := List.forall_mem_append.1 h
    rw [evalAll, evalAll, eval_congr e he, evalAll_congr es hes]

end

/-- **The result depends only on the listed fields**: contexts that agree on each of them give the same value or the
same error. -/
theorem eval_eq_of_agreeOn {e : Expr} (h : ∀ f ∈ e.fields, c.AgreeOn c' f) : e.eval c = e.eval c' :=
  eval_congr e fun f hf => h f (mem_fields.2 hf)

/-- The field `ctx.a`, which both contexts have under its bare name, beside other entries. -/
theorem eval_eq_of_agreeOn_bare_name :
    (∀ f ∈ (fieldOf "ctx.a").fields, (Context.ofList [("a", .boolean true), ("b", .null)]).AgreeOn
      (Context.ofList [("ctx.b", .null), ("a", .boolean true)]) f) ∧
    (fieldOf "ctx.a").eval (Context.ofList [("a", .boolean true), ("b", .null)]) =
      (fieldOf "ctx.a").eval (Context.ofList [("ctx.b", .null), ("a", .boolean true)]) := by
  have hagree : ∀ f ∈ (fieldOf "ctx.a").fields, (Context.ofList [("a", .boolean true), ("b", .null)]).AgreeOn
      (Context.ofList [("ctx.b", .null), ("a", .boolean true)]) f := by decide +kernel
  exact ⟨hagree, eval_eq_of_agreeOn hagree⟩

end Expr
end Formula
