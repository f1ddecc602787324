import Formula.Proofs.Document.Scalars
import Formula.Proofs.Json.Scaling

/-!
# What is written is read back

* `Json.ScalarText.trimmed` : a scalar has no white space at its ends.
* `Value.written_eq_self`, `Context.get?_written` : what writing loses.
* `Binding.read?_toJson`, `Context.ofJson?_toJson` : values are read back from bindings, and contexts from documents.
* `values_survive_writing` : both ways together.
-/

namespace Formula

open Unicode (Trimmed isWhiteSpace isBlank)

namespace Json

/-! ## The ends of a scalar -/

theorem isWhiteSpace_of_opensScalar {c : Char} (h : opensScalar c = true) : isWhiteSpace c = false := by
  rw [Bool.eq_false_iff]
  intro hwhite
  have hnot := Unicode.forall_isWhiteSpace (p := fun c => !opensScalar c) (by decide +kernel) hwhite
  rw [h] at hnot
  cases hnot

theorem isWhiteSpace_of_isDigit {c : Char} (h : c.isDigit = true) : isWhiteSpace c = false :=
  isWhiteSpace_of_opensScalar (by rw [opensScalar, h, Bool.true_or])

theorem IsDigits.getLast? {digits : List Char} (h : IsDigits digits) (front : List Char) :
    ∀ c ∈ (front ++ digits).getLast?, c.isDigit = true := by
  intro c hc
  rw [List.getLast?_append_of_ne_nil front h.1] at hc
  exact h.2 c (List.mem_of_getLast? hc)

/-- The last character of a number is a digit. -/
theorem MagnitudeText.getLast? {negative : Bool} {text : List Char} {n : Numeral} (h : MagnitudeText negative text n)
    (front : List Char) : ∀ c ∈ (front ++ text).getLast?, c.isDigit = true := by
  obtain @⟨whole, point, fraction, _, _, ⟨hwhole, -⟩, hfraction, hexponent⟩ := h
  cases hexponent with
  | @present letter sign digits _ _ _ isDigits =>
    have hlast := isDigits.getLast? (front ++ (whole ++ (point ++ letter :: sign)))
    simpa only [List.append_assoc, List.cons_append] using hlast
  | absent =>
    rw [List.append_nil]
    cases hfraction with
    | absent =>
      rw [List.append_nil]
      exact hwhole.getLast? front
    | present isDigits =>
      have hlast := isDigits.getLast? (front ++ (whole ++ ['.']))
      simpa only [List.append_assoc, List.cons_append, List.nil_append] using hlast

/-- **A scalar** has no white space at its ends. -/
theorem ScalarText.trimmed {library : Library} {text : List Char} {v : Value} (h : ScalarText library text v) :
    Trimmed text where
  head c hc := by
    obtain ⟨d, cs, rfl, hd⟩ := h.exists_cons
    exact Option.some.inj hc ▸ isWhiteSpace_of_opensScalar hd
  last c hc := by
    cases h with
    | null => exact Option.some.inj hc ▸ rfl
    | yes => exact Option.some.inj hc ▸ rfl
    | no => exact Option.some.inj hc ▸ rfl
    | string _ =>
      rw [← List.cons_append, List.getLast?_concat] at hc
      exact Option.some.inj hc ▸ rfl
    | @number negative text _ _ isMagnitude _ =>
      refine isWhiteSpace_of_isDigit ?_
      cases negative with
      | true => exact isMagnitude.getLast? ['-'] c hc
      | false => exact isMagnitude.getLast? [] c hc

end Json

/-! ## What writing loses -/

namespace Value

/-- JSON has a text for the value: it is no number, or a finite one. -/
def Expressible (v : Value) : Prop := ∀ x, v = .number x → x.isFinite = true

theorem written_eq_self {v : Value} (h : v.Expressible) : v.written = v := by
  cases v with
  | number x => exact if_pos (h x rfl)
  | _ => rfl

theorem written_of_not_finite {x : Binary64} (h : x.isFinite = false) : (number x).written = .null :=
  if_neg (Bool.eq_false_iff.1 h)

end Value

namespace Context

theorem keys_written (c : Context) : c.written.keys = c.keys := by
  rw [keys, keys, written, List.map_map]
  rfl

theorem lookup_map_written (key : String) (entries : List (String × Value)) :
    (entries.map fun entry => (entry.1, entry.2.written)).lookup key = (entries.lookup key).map Value.written := by
  induction entries with
  | nil => rfl
  | cons entry rest ih =>
    rw [List.map_cons, List.lookup_cons, List.lookup_cons, ih]
    cases key == entry.1 <;> rfl

theorem get?_written (c : Context) (key : String) : c.written.get? key = (c.get? key).map Value.written :=
  lookup_map_written key c.entries

theorem written_eq_self {c : Context} (h : ∀ entry ∈ c.entries, entry.2.Expressible) : c.written = c := by
  refine eq_of_entries ((List.map_congr_left fun entry hmem => ?_).trans (List.map_id c.entries))
  rw [Value.written_eq_self (h entry hmem), id]

end Context

/-! ## What is read back -/

section

variable {library : Json.Library}

theorem Binding.read?_toJson {name : String} (hne : name ≠ "") (hmem : '=' ∉ name.toList) (htrim : Trimmed name.toList)
    {v : Value} (h : library.RoundsCorrectly v) :
    read? library (name ++ "=" ++ v.toJson) = .ok (name, v.written) := by
  have hbinding : (name ++ "=" ++ v.toJson).toList = name.toList ++ '=' :: v.jsonChars := by
    rw [Value.toJson]
    simp
  have hblank : ¬ isBlank name.toList = true := by
    intro hblank
    rw [← Unicode.trim_eq_nil_iff, htrim.trim_eq] at hblank
    exact hne (String.toList_eq_nil_iff.1 hblank)
  have hscalar := Value.scalarText_jsonChars h
  rw [read?_eq hbinding hmem, if_neg hblank, htrim.trim_eq, String.ofList_toList,
    valueOf_of_scalarText (hscalar.trimmed.trim_eq.symm ▸ hscalar)]

/-- **A context is read back** from the document that is written for it. -/
theorem Context.ofJson?_toJson {c : Context} (h : ∀ entry ∈ c.entries, library.RoundsCorrectly entry.2) :
    ofJson? library c.toJson = .ok c.written := by
  refine ofJson?_eq_ok_iff.2 ⟨c.written.entries, Json.alone_of_text (Context.objectText_toJson h), ?_⟩
  exact eq_of_entries (entries_ofList c.written.nodup_keys).symm

end

/-- **Values survive being written as JSON and read back**, from a binding under any name that a binding can have, and
from the document of a context under any names, as long as the library reads the numbers among them correctly rounded. A
number that is not finite comes back as null, and nothing else changes. -/
theorem values_survive_writing (library : Json.Library) :
    (∀ name : String, name ≠ "" → '=' ∉ name.toList → Trimmed name.toList →
      (∀ v : Value, library.RoundsCorrectly v → v.Expressible →
        Binding.read? library (name ++ "=" ++ v.toJson) = .ok (name, v)) ∧
      ∀ x : Binary64, x.isFinite = false →
        Binding.read? library (name ++ "=" ++ (Value.number x).toJson) = .ok (name, .null)) ∧
    ∀ c : Context, (∀ entry ∈ c.entries, library.RoundsCorrectly entry.2) →
      ((∀ entry ∈ c.entries, entry.2.Expressible) → Context.ofJson? library c.toJson = .ok c) ∧
      ∃ c', Context.ofJson? library c.toJson = .ok c' ∧ c'.keys = c.keys ∧
        ∀ key, (∀ v, c.get? key = some v → v.Expressible → c'.get? key = some v) ∧
          ∀ x, c.get? key = some (.number x) → x.isFinite = false → c'.get? key = some .null := by
  refine ⟨fun name hne hmem htrim => ⟨fun v hrounds hv => ?_, fun x hx => ?_⟩, fun c hrounds => ⟨fun hc => ?_, ?_⟩⟩
  · rw [Binding.read?_toJson hne hmem htrim hrounds, Value.written_eq_self hv]
  · have hrounds : library.RoundsCorrectly (.number x) :=
      Json.Library.roundsCorrectly_of_not_finite fun y hy => Value.number.inj hy ▸ hx
    rw [Binding.read?_toJson hne hmem htrim hrounds, Value.written_of_not_finite hx]
  · rw [Context.ofJson?_toJson hrounds, Context.written_eq_self hc]
  · refine ⟨c.written, Context.ofJson?_toJson hrounds, c.keys_written,
      fun key => ⟨fun v hkey hv => ?_, fun x hkey hx => ?_⟩⟩
    · rw [c.get?_written, hkey, Option.map_some, Value.written_eq_self hv]
    · rw [c.get?_written, hkey, Option.map_some, Value.written_of_not_finite hx]

/-- With the library that scales: a number and a text that looks like a binding, each by itself and both in a
context. -/
theorem values_survive_writing_minus_one_tenth :
    let x := Value.number (Binary64.ofDecimal true 1 (-1))
    let s := Value.string " \"x\"=1 "
    let c := Context.ofList [(" =", x), ("", s)]
    Json.Library.scaling.RoundsCorrectly x ∧ x.Expressible ∧
      Binding.read? .scaling ("a b" ++ "=" ++ x.toJson) = .ok ("a b", x) ∧
      Binding.read? .scaling ("a b" ++ "=" ++ s.toJson) = .ok ("a b", s) ∧
      Context.ofJson? .scaling c.toJson = .ok c := by
  intro x s c
  have hfinite : (Binary64.ofDecimal true 1 (-1)).isFinite = true := by decide +kernel
  have hx : x.Expressible := fun _ h => Value.number.inj h ▸ hfinite
  have hs : s.Expressible := fun _ h => absurd h (by simp [s])
  have hwhole : Json.IsWhole ['0'] := ⟨⟨by simp, by simp⟩, fun _ => rfl⟩
  have hfraction : Json.FractionText ['.', '1'] ['1'] := .present ⟨by simp, by simp⟩
  have hx_rounds : Json.Library.scaling.RoundsCorrectly x :=
    Json.Library.scaling_roundsCorrectly (by decide +kernel : x.jsonChars = Binary64.withSign true ['0', '.', '1'])
      (.intro hwhole hfraction .absent) ⟨by decide, by decide⟩
  have hs_rounds : Json.Library.scaling.RoundsCorrectly s :=
    Json.Library.roundsCorrectly_of_not_finite fun _ h => absurd h (by simp [s])
  have htrimmed : Trimmed "a b".toList :=
    ⟨fun _ hc => Option.some.inj hc ▸ rfl, fun _ hc => Option.some.inj hc ▸ rfl⟩
  have hbinding := ((values_survive_writing .scaling).1 "a b" (by decide) (by decide) htrimmed).1
  have hentries : c.entries = [(" =", x), ("", s)] := by decide +kernel
  refine ⟨hx_rounds, hx, hbinding x hx_rounds hx, hbinding s hs_rounds hs, ?_⟩
  refine ((values_survive_writing .scaling).2 c ?_).1 ?_
  · rw [hentries]
    exact List.forall_mem_cons.2 ⟨hx_rounds, List.forall_mem_cons.2 ⟨hs_rounds, List.forall_mem_nil _⟩⟩
  · rw [hentries]
    exact List.forall_mem_cons.2 ⟨hx, List.forall_mem_cons.2 ⟨hs, List.forall_mem_nil _⟩⟩

end Formula
