import Formula.Document

/-!
# Lists of bindings

Bindings are put into a context one by one, up to the first that is none.

* `bindAll?_eq_error_iff` : a list is refused for its first binding that is none, whatever the context.
* `bindAll?_of_map_read?` : the entries of a list without such a binding are put in one after another.
-/

namespace Formula

section

/-- The error is that of the first binding in the list that is none. -/
def Binding.FirstRefused (library : Json.Library) (bindings : List String) (e : ContextError) : Prop :=
  ∃ before binding after, bindings = before ++ binding :: after ∧
    (∀ earlier ∈ before, ∃ entry, read? library earlier = .ok entry) ∧ read? library binding = .error e

variable {library : Json.Library}

namespace Binding

theorem not_firstRefused_nil (e : ContextError) : ¬ FirstRefused library [] e := by
  rintro ⟨before, binding, after, h, -⟩
  exact List.append_ne_nil_of_right_ne_nil before (List.cons_ne_nil binding after) h.symm

/-- In front of a list, a binding is either the first that is none or passed over. -/
theorem firstRefused_cons {binding : String} {bindings : List String} {e : ContextError} :
    FirstRefused library (binding :: bindings) e ↔
      read? library binding = .error e ∨
        (∃ entry, read? library binding = .ok entry) ∧ FirstRefused library bindings e := by
  constructor
  · rintro ⟨before, refused, after, h, hbefore, hrefused⟩
    cases before with
    | nil =>
      obtain ⟨rfl, rfl⟩ := List.cons.inj h
      exact .inl hrefused
    | cons first before =>
      obtain ⟨rfl, rfl⟩ := List.cons.inj h
      obtain ⟨hfirst, hbefore⟩ := List.forall_mem_cons.1 hbefore
      exact .inr ⟨hfirst, before, refused, after, rfl, hbefore, hrefused⟩
  · rintro (hrefused | ⟨hfirst, before, refused, after, rfl, hbefore, hrefused⟩)
    · exact ⟨[], binding, bindings, rfl, by simp, hrefused⟩
    · exact ⟨binding :: before, refused, after, rfl, List.forall_mem_cons.2 ⟨hfirst, hbefore⟩, hrefused⟩

/-- A list has a first binding that is none, or entries for all of its bindings. -/
theorem firstRefused_or_map_read? : ∀ bindings : List String,
    (∃ e, FirstRefused library bindings e) ∨
      ∃ entries : List (String × Value), bindings.map (read? library) = entries.map .ok
  | [] => .inr ⟨[], rfl⟩
  | binding :: bindings => by
    cases hread : read? library binding with
    | error e => exact .inl ⟨e, firstRefused_cons.2 (.inl hread)⟩
    | ok entry =>
      rcases firstRefused_or_map_read? bindings with ⟨e, he⟩ | ⟨entries, hentries⟩
      · exact .inl ⟨e, firstRefused_cons.2 (.inr ⟨⟨entry, hread⟩, he⟩)⟩
      · exact .inr ⟨entry :: entries, by rw [List.map_cons, List.map_cons, hread, hentries]⟩

end Binding

namespace Context

/-- **The first binding that is none decides**: its error is that of the list, whatever the context. -/
theorem bindAll?_eq_error_iff : ∀ {bindings : List String} {c : Context} {e : ContextError},
    c.bindAll? library bindings = .error e ↔ Binding.FirstRefused library bindings e
  | [], c, e => by simp [bindAll?, Binding.not_firstRefused_nil]
  | binding :: bindings, c, e => by
    rw [bindAll?, Binding.firstRefused_cons]
    cases hread : Binding.read? library binding with
    | error e' => simp
    | ok entry =>
      obtain ⟨name, value⟩ := entry
      simp [bindAll?_eq_error_iff]

/-- **Bindings are put in** one after another. -/
theorem bindAll?_of_map_read? : ∀ {bindings : List String} {entries : List (String × Value)} (c : Context),
    bindings.map (Binding.read? library) = entries.map .ok →
      c.bindAll? library bindings = .ok (entries.foldl (fun c entry => c.set entry.1 entry.2) c)
  | [], [], _, _ => rfl
  | binding :: bindings, entry :: entries, c, h => by
    obtain ⟨hread, hrest⟩ := List.cons.inj h
    simp only [bindAll?, hread, List.foldl_cons, bindAll?_of_map_read? (c.set entry.1 entry.2) hrest]

end Context

end

end Formula
