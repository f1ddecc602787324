import Formula.Proofs.Render.RoundTrip

/-!
# Trees that a formula can write

A tree built by hand may hold what no formula says: null, a negative number, a text with both kinds of quote, or a name
that is no word. Without these its rendering reads back as the tree, and how much nesting that takes is known exactly.

* `Expr.Writable` : the trees in question.
* `Writable.fromWords`, `Writable.isCallName` : a writable tree is made of words and calls names.
* `ofFormula_render_of_writable` : rendering and reading back at every limit.
-/

namespace Formula

/-! ## Writable leaves -/

/-- A name as a formula writes one, none of the two words for truth values. -/
def IsIdentifier (name : String) : Prop := IsName name.toList ∧ name ≠ "true" ∧ name ≠ "false"

/-- The key is an identifier, and a name without the mark of a global field does not open with that mark. -/
def Field.Writable (f : Field) : Prop :=
  IsIdentifier f.key ∧ (f.global = false → ¬globalMark.toList <+: f.name.toList)

/-- The name is an identifier in lower case. -/
def CallWritable (name : String) : Prop :=
  String.ofList (Unicode.lowerCase name.toList) = name ∧ IsIdentifier name

/-- A reference is found again under its key. -/
theorem Field.ofIdentifier_key {f : Field} (h : f.global = false → ¬globalMark.toList <+: f.name.toList) :
    ofIdentifier f.key = f := by
  obtain ⟨name, global⟩ := f
  cases global with
  | true => simp [ofIdentifier, key, globalMark]
  | false =>
    have hkey : key ⟨name, false⟩ = name := rfl
    rw [hkey, ofIdentifier]
    split
    · rename_i rest hname
      exact absurd ⟨rest, hname.symm⟩ (h rfl)
    · rfl

theorem Field.Writable.fromWord {f : Field} (h : f.Writable) : f.FromWord :=
  ⟨f.key, (ofIdentifier_key h.2).symm, h.1⟩

namespace CallWritable

variable {name : String}

theorem calledFromWord (h : CallWritable name) : CalledFromWord name := ⟨name.toList, h.1.symm, h.2.1⟩

/-- No character of an identifier is the combining dot. -/
theorem isCallName (h : CallWritable name) : IsCallName name := by
  refine ⟨h.2.2.1, h.2.2.2, fun hdot => ?_⟩
  have hchar : isNameChar Unicode.combiningDot = false := by decide +kernel
  rw [h.2.1.forall_mem _ hdot] at hchar
  cases hchar

end CallWritable

/-! ## Writable trees -/

namespace Expr

mutual

/-- The leaves and the call names of the tree are such as a formula can write. -/
def Writable : Expr → Prop
  | literal v => v.FromWord
  | field f => f.Writable
  | binary l _ r => Writable l ∧ Writable r
  | call name args => CallWritable name ∧ WritableAll args

/-- The leaves and the call names of the trees are such as a formula can write. -/
def WritableAll : List Expr → Prop
  | [] => True
  | e :: es => Writable e ∧ WritableAll es

end

mutual

theorem Writable.fromWords : ∀ {e : Expr}, e.Writable → e.FromWords
  | literal _, h => h
  | field _, h => Field.Writable.fromWord h
  | binary _ _ _, h => ⟨h.1.fromWords, h.2.fromWords⟩
  | call _ _, h => ⟨h.1.calledFromWord, WritableAll.fromWords h.2⟩

theorem WritableAll.fromWords : ∀ {es : List Expr}, WritableAll es → FromWordsAll es
  | [], _ => trivial
  | _ :: _, h => ⟨h.1.fromWords, WritableAll.fromWords h.2⟩

end

mutual

theorem Writable.isCallName : ∀ {e : Expr}, e.Writable → ∀ name ∈ e.callNames, IsCallName name
  | literal _, _, _, hname | field _, _, _, hname => by simp [callNames] at hname
  | binary _ _ _, h, name, hname => by
    rcases List.mem_append.1 hname with hname | hname
    · exact h.1.isCallName name hname
    · exact h.2.isCallName name hname
  | call _ _, h, name, hname => by
    rcases List.mem_cons.1 hname with rfl | hname
    · exact h.1.isCallName
    · exact WritableAll.isCallName h.2 name hname

theorem WritableAll.isCallName : ∀ {es : List Expr}, WritableAll es → ∀ name ∈ callNamesAll es, IsCallName name
  | [], _, _, hname => by simp [callNamesAll] at hname
  | _ :: _, h, name, hname => by
    rcases List.mem_append.1 hname with hname | hname
    · exact h.1.isCallName name hname
    · exact WritableAll.isCallName h.2 name hname

end

end Expr

/-! ## The round trip -/

/-- **A writable tree reads back from its rendering** at every limit that covers the nesting of the rendering, and is
refused for its depth at every other. -/
theorem ofFormula_render_of_writable {e : Expr} (h : e.Writable) (m : Nat) :
    (1 + e.nesting ≤ max 1 m → Expr.ofFormula e.render m = .ok e) ∧
      (max 1 m < 1 + e.nesting → Expr.ofFormula e.render m = .error (.parse (.tooDeep (max 1 m)))) := by
  have hread := ofFormula_render h.fromWords h.isCallName m
  constructor
  · intro hcovers
    rw [hread, if_pos hcovers]
  · intro hless
    rw [hread, if_neg (Nat.not_le_of_lt hless)]

/-- The tree of `(a + f("it's", ctx.b))`, whose argument is nested three deep. -/
theorem ofFormula_render_of_writable_call :
    let e : Expr := .binary (.field ⟨"a", false⟩) .add (.call "f" [.literal (.string "it's"), .field ⟨"b", true⟩])
    e.Writable ∧ e.render = "(a + f(\"it's\", ctx.b))" ∧ e.nesting = 3 ∧ Expr.ofFormula e.render 4 = .ok e ∧
      Expr.ofFormula e.render 3 = .error (.parse (.tooDeep 3)) := by
  intro e
  have ha : Field.Writable ⟨"a", false⟩ :=
    ⟨⟨isName_of_all (by decide +kernel) (by decide), by decide, by decide⟩, fun _ => by decide⟩
  have hb : Field.Writable ⟨"b", true⟩ :=
    ⟨⟨isName_of_all (by decide +kernel) (by decide +kernel), by decide, by decide⟩, fun hglobal => by cases hglobal⟩
  have hf : CallWritable "f" :=
    ⟨by decide +kernel, isName_of_all (by decide +kernel) (by decide), by decide, by decide⟩
  have htext : (Value.string "it's").FromWord := .inl (by decide)
  have hwritable : e.Writable := ⟨ha, hf, htext, hb, trivial⟩
  have hnesting : e.nesting = 3 := rfl
  refine ⟨hwritable, by decide +kernel, hnesting, ?_, ?_⟩
  · exact (ofFormula_render_of_writable hwritable 4).1 (by rw [hnesting]; decide)
  · exact (ofFormula_render_of_writable hwritable 3).2 (by rw [hnesting]; decide)

end Formula
