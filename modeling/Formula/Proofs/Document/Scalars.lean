import Formula.Document
import Formula.Proofs.Json.Documents
import Formula.Proofs.Unicode.WhiteSpace

/-!
# Reading one binding

A binding is a name and a value with the first equals sign between them. Its value is the scalar that the text of it is,
and else that text as it stands.

* `Context.ofJson?_eq_ok_iff` : what documents are read as.
* `SoleMemberText`, `ofJson?_soleMember` : documents with a single member.
* `Binding.valueOf_of_scalarText`, `Binding.valueOf_of_not_scalarText` : the value of a binding.
* `Binding.read?_eq`, `Binding.read?_eq_error_iff` : what a binding is read as, and which texts are none.
* `Binding.reads_scalars_as_documents` : bindings and documents read the same scalars.
-/

namespace Formula

open Unicode (Trimmed trim isBlank)

namespace Json

/-! ## White space of both kinds -/

theorem isWhiteSpace_of_isSpace {c : Char} (h : isSpace c = true) : Unicode.isWhiteSpace c = true := by
  simp only [isSpace, Bool.or_eq_true, decide_eq_true_eq] at h
  rcases h with ((rfl | rfl) | rfl) | rfl <;> decide

theorem isBlank_of_isSpaces {spaces : List Char} (h : IsSpaces spaces) : isBlank spaces = true :=
  List.all_eq_true.2 fun c hc => isWhiteSpace_of_isSpace (h c hc)

/-- A text without white space at its ends holds something alone when it is that. -/
theorem alone_iff_of_trimmed {α : Type} {Text : List Char → α → Prop} {cs : List Char} {a : α} (h : Trimmed cs) :
    Alone Text cs a ↔ Text cs a := by
  constructor
  · rintro ⟨⟨hbefore, htext⟩, hafter⟩
    rw [List.append_assoc] at h
    obtain ⟨rfl, rfl⟩ := h.eq_nil_of_append (isBlank_of_isSpaces hbefore) (isBlank_of_isSpaces hafter)
    rwa [List.nil_append, List.append_nil]
  · exact alone_of_text

/-! ## Documents -/

/-- An object with a single member, given its key and the text of its value. White space may stand wherever it does not
belong to either. -/
inductive SoleMemberText (key : String) (text : List Char) : List Char → Prop
  | intro {outer outer' before name between between' after : List Char} (isName : StringText name key.toList)
    (areSpaces : ∀ spaces ∈ [outer, outer', before, between, between', after], IsSpaces spaces) :
    SoleMemberText key text
      (outer ++ '{' :: (before ++ '"' :: (name ++ '"' :: (between ++ ':' ::
        (between' ++ (text ++ (after ++ ['}'])))))) ++ outer')

theorem SoleMemberText.objectText {library : Library} {key : String} {text json : List Char} {v : Value}
    (h : SoleMemberText key text json) (hscalar : ScalarText library text v) :
    Alone (ObjectText library) json [(key, v)] := by
  obtain ⟨isName, areSpaces⟩ := h
  simp only [List.forall_mem_cons] at areSpaces
  obtain ⟨houter, houter', hbefore, hbetween, hbetween', hafter, -⟩ := areSpaces
  have hmember := Alone.intro (.intro hbefore (MemberText.intro isName hbetween (.intro hbetween' hscalar))) hafter
  have hobject := Alone.intro (.intro houter (ObjectText.members (.last hmember))) houter'
  rw [String.ofList_toList] at hobject
  simpa only [List.append_assoc, List.cons_append] using hobject

end Json

open Json

section

variable {library : Library}

namespace Context

/-- **A document** has to be an object of scalars, and its members are the entries. -/
theorem ofJson?_eq_ok_iff {json : String} {c : Context} :
    ofJson? library json = .ok c ↔ ∃ members, Alone (ObjectText library) json.toList members ∧ c = ofList members := by
  rw [ofJson?]
  constructor
  · intro h
    split at h
    · cases h
    · rename_i members hmembers
      cases h
      exact ⟨members, object?_eq_ok_iff.1 hmembers, rfl⟩
  · rintro ⟨members, hmembers, rfl⟩
    rw [object?_eq_ok_iff.2 hmembers]

/-- A file is not refused as a binding. -/
theorem ofFile?_ne_invalidBinding {read : Except FileError String} {binding : String} :
    ofFile? library read ≠ .error (.invalidBinding binding) := by
  cases read with
  | error why => simp [ofFile?]
  | ok json =>
    rw [ofFile?, ofJson?]
    split <;> simp

theorem ofJson?_soleMember {key json : String} {text : List Char} {v : Value}
    (h : SoleMemberText key text json.toList) (hscalar : ScalarText library text v) :
    ofJson? library json = .ok (empty.set key v) :=
  ofJson?_eq_ok_iff.2 ⟨[(key, v)], h.objectText hscalar, rfl⟩

end Context

namespace Binding

/-! ## The value -/

section

variable {raw : List Char}

theorem valueOf_of_scalarText {v : Value} (h : ScalarText library (trim raw) v) : valueOf library raw = v := by
  rw [valueOf, scalar?_eq_some_iff.2 (alone_of_text h), Option.getD_some]

theorem valueOf_of_not_scalarText (h : ∀ v, ¬ ScalarText library (trim raw) v) :
    valueOf library raw = .string (String.ofList raw) := by
  cases hscalar : scalar? library (trim raw) with
  | some v => exact absurd ((alone_iff_of_trimmed (Unicode.trimmed_trim raw)).1 (scalar?_eq_some_iff.1 hscalar)) (h v)
  | none => rw [valueOf, hscalar, Option.getD_none]

end

/-! ## The name -/

theorem split?_of_not_mem : ∀ {cs : List Char}, '=' ∉ cs → split? cs = none
  | [], _ => rfl
  | c :: cs, h => by
    obtain ⟨hc, hcs⟩ := List.ne_and_not_mem_of_not_mem_cons h
    rw [split?, if_neg (Ne.symm hc), split?_of_not_mem hcs, Option.map_none]

/-- The first equals sign is where a binding is split. -/
theorem split?_append : ∀ {before : List Char} (raw : List Char), '=' ∉ before →
    split? (before ++ '=' :: raw) = some (before, raw)
  | [], _, _ => by rw [List.nil_append, split?, if_pos rfl]
  | c :: before, raw, h => by
    obtain ⟨hc, hbefore⟩ := List.ne_and_not_mem_of_not_mem_cons h
    rw [List.cons_append, split?, if_neg (Ne.symm hc), split?_append raw hbefore, Option.map_some]

variable {binding : String}

theorem read?_of_not_mem (h : '=' ∉ binding.toList) : read? library binding = .error (.invalidBinding binding) := by
  rw [read?, split?_of_not_mem h]

/-- **A binding** is read as its name without the white space around it, if there is more than that, and its value. -/
theorem read?_eq {before raw : List Char} (h : binding.toList = before ++ '=' :: raw) (hfirst : '=' ∉ before) :
    read? library binding = if isBlank before then .error (.invalidBinding binding)
      else .ok (String.ofList (trim before), valueOf library raw) := by
  cases hname : trim before with
  | nil => simp only [read?, h, split?_append raw hfirst, hname, if_pos (Unicode.trim_eq_nil_iff.1 hname)]
  | cons c name =>
    have hblank : ¬ isBlank before = true := fun hblank => by
      rw [Unicode.trim_eq_nil_iff.2 hblank] at hname
      cases hname
    simp only [read?, h, split?_append raw hfirst, hname, if_neg hblank]

/-- **A text is no binding** when it has no equals sign, or only white space in front of the first one. -/
theorem read?_eq_error_iff {e : ContextError} :
    read? library binding = .error e ↔ e = .invalidBinding binding ∧
      ('=' ∉ binding.toList ∨
        ∃ before raw, binding.toList = before ++ '=' :: raw ∧ '=' ∉ before ∧ isBlank before = true) := by
  by_cases hmem : '=' ∈ binding.toList
  · obtain ⟨before, raw, hbinding, hfirst⟩ := List.eq_append_cons_of_mem hmem
    rw [read?_eq hbinding hfirst]
    constructor
    · intro h
      split at h
      · rename_i hblank
        cases h
        exact ⟨rfl, .inr ⟨before, raw, hbinding, hfirst, hblank⟩⟩
      · cases h
    · rintro ⟨rfl, hnone | ⟨before', raw', hbinding', hfirst', hblank⟩⟩
      · exact absurd hmem hnone
      · have hsplit := (split?_append raw hfirst).symm.trans ((hbinding ▸ hbinding') ▸ split?_append raw' hfirst')
        obtain ⟨rfl, rfl⟩ := Prod.mk.inj (Option.some.inj hsplit)
        rw [if_pos hblank]
  · rw [read?_of_not_mem hmem]
    constructor
    · rintro ⟨⟩
      exact ⟨rfl, .inl hmem⟩
    · rintro ⟨rfl, -⟩
      rfl

/-- **Bindings and documents read the same scalars**, and a binding never loses text. A text is refused, with itself in
the error, when it has no equals sign or only white space in front of the first one. Of any other text the name is what
stands in front of that, trimmed; the value is the scalar that the trimmed text behind it is, just as in a document with
that member only, and if it is none, the value is the whole text behind the equals sign, untrimmed. -/
theorem reads_scalars_as_documents (library : Library) (binding : String) :
    (∀ e, read? library binding = .error e ↔ e = .invalidBinding binding ∧
      ('=' ∉ binding.toList ∨
        ∃ before raw, binding.toList = before ++ '=' :: raw ∧ '=' ∉ before ∧ isBlank before = true)) ∧
    ∀ before raw, binding.toList = before ++ '=' :: raw → '=' ∉ before → isBlank before = false →
      ∃ name value, read? library binding = .ok (name, value) ∧
        (name.toList = trim before ∧ name ≠ "" ∧ '=' ∉ name.toList ∧ Trimmed name.toList) ∧
        (∀ v, ScalarText library (trim raw) v → value = v ∧
          ∀ key json, SoleMemberText key (trim raw) json.toList →
            Context.ofJson? library json = .ok (Context.empty.set key v)) ∧
        ((∀ v, ¬ ScalarText library (trim raw) v) → value = .string (String.ofList raw)) := by
  refine ⟨fun e => read?_eq_error_iff, fun before raw hbinding hfirst hblank => ?_⟩
  have hname : (String.ofList (trim before)).toList = trim before := String.toList_ofList
  refine ⟨String.ofList (trim before), valueOf library raw, ?_, ?_, fun v hscalar => ?_, valueOf_of_not_scalarText⟩
  · rw [read?_eq hbinding hfirst, hblank, if_neg Bool.false_ne_true]
  · rw [hname]
    refine ⟨rfl, fun hempty => ?_, fun hmem => hfirst (Unicode.mem_of_mem_trim hmem), Unicode.trimmed_trim before⟩
    have hnil : trim before = [] := by rw [← hname, hempty]; rfl
    rw [Unicode.trim_eq_nil_iff.1 hnil] at hblank
    cases hblank
  · exact ⟨valueOf_of_scalarText hscalar, fun key json hjson => Context.ofJson?_soleMember hjson hscalar⟩

/-- A list is no scalar, so its text is the value, with the white space around it and the second equals sign. -/
theorem reads_scalars_as_documents_list :
    ∃ name value, read? .scaling " a = [1] = " = .ok (name, value) ∧ name.toList = ['a'] ∧
      value = .string " [1] = " := by
  have hsplit : " a = [1] = ".toList = " a ".toList ++ '=' :: " [1] = ".toList := by decide
  have hfirst : '=' ∉ " a ".toList := by decide
  have hblank : isBlank " a ".toList = false := by decide
  have hlist : ∀ v, ¬ ScalarText .scaling (trim " [1] = ".toList) v := by
    intro v h
    have hnone : scalar? .scaling (trim " [1] = ".toList) = none := by decide
    exact nomatch hnone.symm.trans (scalar?_eq_some_iff.2 (alone_of_text h))
  obtain ⟨name, value, hread, ⟨hname, -⟩, -, hvalue⟩ :=
    (reads_scalars_as_documents .scaling " a = [1] = ").2 _ _ hsplit hfirst hblank
  refine ⟨name, value, hread, hname.trans (by decide), (hvalue hlist).trans ?_⟩
  exact congrArg Value.string String.ofList_toList

end Binding

end

end Formula
