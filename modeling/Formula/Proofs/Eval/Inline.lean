import Formula.Proofs.Eval.Fields

/-!
# Derived fields

The value of a formula can be stored in the context as a field of its own, or the formula can stand wherever that
field is referred to.

* `substitute`, `inline` : a tree with trees in the place of its references.
* `eval_substitute` : a tree comes to the same when each reference does.
* `eval_inline` : storing a derived field is the same as inlining its formula.
-/

namespace Formula

/-! ## Trees in the place of references -/

namespace Expr

mutual

/-- The tree with another tree in the place of each reference. -/
def substitute (image : Field → Expr) : Expr → Expr
  | literal v => literal v
  | field f => image f
  | binary l op r => binary (substitute image l) op (substitute image r)
  | call name args => call name (substituteAll image args)

/-- The list of trees with another tree in the place of each reference. -/
def substituteAll (image : Field → Expr) : List Expr → List Expr
  | [] => []
  | e :: es => substitute image e :: substituteAll image es

end

/-- The tree with a formula in the place of each reference to a field of the row; a global reference of the same name
stays. -/
def inline (e : Expr) (name : String) (formula : Expr) : Expr :=
  e.substitute fun f => if f = ⟨name, false⟩ then formula else field f

variable {c c' : Context} {image : Field → Expr}

mutual

/-- **Substitution**: trees that come to what the references find in another context make the tree come to what it
comes to there. -/
theorem eval_substitute : ∀ e : Expr, (∀ f ∈ e.references, (image f).eval c = .ok (c'.resolve f)) →
    (e.substitute image).eval c = e.eval c'
  | literal _, _ => rfl
  | field f, h => h f List.mem_cons_self
  | binary l _ r, h => by
    rw [references] at h
    obtain ⟨hl, hr⟩ := List.forall_mem_append.1 h
    rw [substitute, eval, eval, eval_substitute l hl, eval_substitute r hr]
  | call _ args, h => by
    rw [substitute, eval, eval, evalAll_substituteAll args h]

theorem evalAll_substituteAll : ∀ es : List Expr,
    (∀ f ∈ referencesAll es, (image f).eval c = .ok (c'.resolve f)) →
    evalAll c (substituteAll image es) = evalAll c' es
  | [], _ => rfl
  | e :: es, h => by
    rw [referencesAll] at h
    obtain ⟨he, hes⟩ := List.forall_mem_append.1 h
    rw [substituteAll, evalAll, evalAll, eval_substitute e he, evalAll_substituteAll es hes]

end

end Expr

/-! ## A field that is stored -/

namespace Context

variable (c : Context) (value : Value)

/-- A field of the row finds the value that is put under its name. -/
theorem resolve_set_self (name : String) : (c.set name value).resolve ⟨name, false⟩ = value := by
  simp [resolve, get?_set_self]

/-- The other fields of the row do not find it. -/
theorem resolve_set_of_row {f : Field} {name : String} (hrow : f.global = false) (hf : f ≠ ⟨name, false⟩) :
    (c.set name value).resolve f = c.resolve f := by
  have hname : f.name ≠ name := by
    rintro rfl
    exact hf (by rw [← hrow])
  have hkey : f.key ≠ name := by simpa [Field.key, hrow] using hname
  exact (c.agreeOn_set value hkey fun hglobal => absurd (hrow.symm.trans hglobal) Bool.false_ne_true).resolve_eq

end Context

namespace Expr

/-- **Storing a derived field is inlining its formula**: when no global reference is looked up under the name of the
field, with or without its mark, a tree gives the same value or the same error either way. -/
theorem eval_inline {f g : Expr} {name : String} {c : Context} {value : Value} (hf : f.eval c = .ok value)
    (hg : ∀ r ∈ g.references, r.global = true → r.name ≠ name ∧ r.key ≠ name) :
    (g.inline name f).eval c = g.eval (c.set name value) := by
  refine eval_substitute g fun r hr => ?_
  split
  · rename_i hself
    rw [hf, hself, Context.resolve_set_self]
  · rename_i hother
    rw [eval]
    congr 1
    cases hglobal : r.global with
    | false => exact (c.resolve_set_of_row value hglobal hother).symm
    | true =>
      obtain ⟨hname, hkey⟩ := hg r hr hglobal
      exact (c.agreeOn_set value hkey fun _ => hname).resolve_eq.symm

/-- The field `a` stored as `!a`, which reads it, and `a || ctx.b`. -/
theorem eval_inline_of_own_field :
    let c := Context.ofList [("a", .boolean true), ("b", .boolean true)]
    let f := not (fieldOf "a")
    let g := binary (fieldOf "a") .or (fieldOf "ctx.b")
    f.eval c = .ok (.boolean false) ∧
      (∀ r ∈ g.references, r.global = true → r.name ≠ "a" ∧ r.key ≠ "a") ∧
      (g.inline "a" f).eval c = g.eval (c.set "a" (.boolean false)) ∧
      g.eval (c.set "a" (.boolean false)) = .ok (.boolean true) := by
  intro c f g
  have hf : f.eval c = .ok (.boolean false) := rfl
  have hg : ∀ r ∈ g.references, r.global = true → r.name ≠ "a" ∧ r.key ≠ "a" := by decide +kernel
  exact ⟨hf, hg, eval_inline hf hg, rfl⟩

/-- A global reference falls back to the bare name, so it sees what is stored there. -/
example : ((fieldOf "ctx.a").inline "a" (literal (.boolean true))).eval .empty = .ok .null ∧
    (fieldOf "ctx.a").eval (Context.empty.set "a" (.boolean true)) = .ok (.boolean true) := ⟨rfl, rfl⟩

end Expr
end Formula
