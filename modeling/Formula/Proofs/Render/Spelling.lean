import Formula.Expr.Render
import Formula.Proofs.Binary64.RoundTrip
import Formula.Proofs.Parse.Leaves
import Formula.Proofs.Scan.Spelling

/-!
# What a rendering spells

A tree that is made of words is rendered to a text that spells it node by node. Only the name of a call may fail to be
a word once it is in lower case: the combining dot that `İ` leaves behind is part of no word.

* `Expr.spelling` : the terminals that the rendering is meant to spell.
* `spells_renderOnto` : without a combining dot in a call name the rendering spells them.
* `terminals?_renderOnto_eq_none` : with one the rendering is not scanned at all.
-/

namespace Formula

open Grammar

/-! ## Spellings of trees -/

/-- The terminal that a literal is rendered to. -/
def Value.terminal : Value → Terminal
  | null => .identifier "null"
  | boolean b => .boolean (if b then "true" else "false")
  | number x => .number x.text
  | string s => .string s

namespace Expr

mutual

/-- The terminals that the rendering of a tree is meant to spell. -/
def spelling : Expr → List Terminal
  | literal v => [v.terminal]
  | field f => [nameTerminal f.key]
  | binary l op r => .leftParen :: (spelling l ++ .operator op.symbol :: spelling r) ++ [.rightParen]
  | call name args => nameTerminal name :: .leftParen :: argsSpelling args ++ [.rightParen]

/-- The terminals that the rendering of an argument list is meant to spell. -/
def argsSpelling : List Expr → List Terminal
  | [] => []
  | [e] => spelling e
  | e :: es => spelling e ++ .comma :: argsSpelling es

end

/-! What follows a rendering is not changed by it. -/

mutual

theorem renderOnto_eq_append : ∀ (e : Expr) (rest : List Char), e.renderOnto rest = e.renderOnto [] ++ rest
  | literal _, _ => by simp [renderOnto]
  | field _, _ => by simp [renderOnto]
  | binary l op r, rest => by
    simp only [renderOnto]
    rw [renderOnto_eq_append r (')' :: rest), renderOnto_eq_append l, renderOnto_eq_append r [')'],
      renderOnto_eq_append l (_ :: _)]
    simp
  | call name args, rest => by
    simp only [renderOnto]
    rw [renderArgsOnto_eq_append args (')' :: rest), renderArgsOnto_eq_append args [')']]
    simp

theorem renderArgsOnto_eq_append : ∀ (es : List Expr) (rest : List Char),
    renderArgsOnto es rest = renderArgsOnto es [] ++ rest
  | [], _ => rfl
  | [e], rest => by
    simp only [renderArgsOnto]
    exact renderOnto_eq_append e rest
  | e :: e' :: es, rest => by
    simp only [renderArgsOnto]
    rw [renderArgsOnto_eq_append (e' :: es) rest, renderOnto_eq_append e, renderOnto_eq_append e (_ :: _)]
    simp

end

end Expr

/-! ## Leaves -/

theorem isNumber_chars (rank : Fin Binary64.rankCount) : IsNumber (Binary64.finite false rank).chars := by
  obtain ⟨whole, fraction, hchars, hne, hdigits, -⟩ := Binary64.ofNumeral?_chars rank
  obtain ⟨c, cs, rfl⟩ := List.exists_cons_of_ne_nil hne
  have hnumber (d : Char) (hd : d ∈ c :: cs ++ fraction) : isNumberChar d = true :=
    Scanner.isNumberChar_of_isDigit (hdigits d hd)
  rw [hchars]
  cases fraction with
  | nil =>
    refine ⟨hdigits c (by simp), fun d hd => hnumber d ?_⟩
    simp [hd]
  | cons x xs =>
    refine ⟨hdigits c (by simp), fun d hd => ?_⟩
    rcases List.mem_append.1 hd with hd | hd
    · exact hnumber d (by simp [hd])
    · rcases List.mem_cons.1 hd with rfl | hd
      · decide
      · exact hnumber d (List.mem_append_right _ hd)

theorem spells_quotedText {s : String} (h : '"' ∉ s.toList ∨ '\'' ∉ s.toList) : Spells (quotedText s) [.string s] := by
  have hspells (quote : Char) (hquote : quote = '"' ∨ quote = '\'') (hnot : quote ∉ s.toList) :
      Spells (quote :: s.toList ++ [quote]) [.string s] := by
    have := Spells.quoted hquote hnot
    rwa [String.ofList_toList] at this
  simp only [quotedText]
  split
  · rename_i hmem
    exact hspells '"' (.inl rfl) (h.resolve_right fun hnot => hnot hmem)
  · rename_i hnot
    exact hspells '\'' (.inr rfl) hnot

theorem Value.spells_literalChars {v : Value} (h : v.FromWord) : Spells v.literalChars [v.terminal] := by
  cases v with
  | null => exact h.elim
  | boolean b =>
    cases b with
    | true => exact Spells.name (isName_of_all (by decide +kernel) (by decide +kernel))
    | false => exact Spells.name (isName_of_all (by decide +kernel) (by decide +kernel))
  | number x =>
    obtain ⟨rank, rfl⟩ := h
    have hspells := Spells.number (isNumber_chars rank)
    show Spells (String.ofList (Binary64.finite false rank).chars).toList _
    rwa [String.toList_ofList]
  | string s => exact spells_quotedText h

theorem Field.key_ofIdentifier (identifier : String) : (ofIdentifier identifier).key = identifier := by
  unfold ofIdentifier
  split
  · rename_i name hname
    rw [key, if_pos rfl, ← String.toList_inj, hname]
    simp [globalMark]
  · rfl

theorem Field.spells_key {f : Field} (h : f.FromWord) : Spells f.key.toList [nameTerminal f.key] := by
  obtain ⟨identifier, rfl, hname, -⟩ := h
  rw [key_ofIdentifier]
  have hspells := Spells.name hname
  rwa [String.ofList_toList] at hspells

/-! ## Call names -/

theorem isNameStart_of_isAlphabetic {c : Char} (h : Unicode.isAlphabetic c = true) : isNameStart c = true := by
  simp [isNameStart, h]

theorem isNameChar_of_isAlphabetic {c : Char} (h : Unicode.isAlphabetic c = true) : isNameChar c = true :=
  Scanner.isNameChar_of_isNameStart (isNameStart_of_isAlphabetic h)

/-- A name in lower case opens as a name does, and goes on so but for combining dots. -/
theorem exists_lowerCase_of_isName {cs : List Char} (h : IsName cs) : ∃ d ds, Unicode.lowerCase cs = d :: ds ∧
    isNameStart d = true ∧ ∀ x ∈ d :: ds, isNameChar x = true ∨ x = Unicode.combiningDot := by
  cases cs with
  | nil => exact h.elim
  | cons c cs =>
    obtain ⟨d, ds, hlower, hd⟩ := Unicode.exists_lowerCase_eq_cons c cs
    refine ⟨d, ds, hlower, ?_, fun x hx => ?_⟩
    · rcases hd with rfl | hd
      · exact h.1
      · exact isNameStart_of_isAlphabetic hd
    · rw [← hlower] at hx
      rcases Unicode.mem_lowerCase hx with hx | hx | hx
      · exact .inl (h.forall_mem x hx)
      · exact .inl (isNameChar_of_isAlphabetic hx)
      · exact .inr hx

namespace CalledFromWord

variable {name : String}

/-- A called name is its own lower case. -/
theorem lowerCase_eq (h : CalledFromWord name) : String.ofList (Unicode.lowerCase name.toList) = name := by
  obtain ⟨identifier, rfl, -⟩ := h
  rw [String.toList_ofList, Unicode.lowerCase_lowerCase]

theorem isName (h : CalledFromWord name) (hdot : Unicode.combiningDot ∉ name.toList) : IsName name.toList := by
  obtain ⟨identifier, rfl, hname⟩ := h
  obtain ⟨d, ds, hlower, hd, hall⟩ := exists_lowerCase_of_isName hname
  rw [String.toList_ofList, hlower] at hdot ⊢
  refine ⟨hd, fun x hx => ?_⟩
  have hmem : x ∈ d :: ds := List.mem_cons_of_mem _ hx
  rcases hall x hmem with hx' | rfl
  · exact hx'
  · exact absurd hmem hdot

/-- In front of its first combining dot a called name is a name. -/
theorem exists_eq_append_dot (h : CalledFromWord name) (hdot : Unicode.combiningDot ∈ name.toList) :
    ∃ front rest, name.toList = front ++ Unicode.combiningDot :: rest ∧ IsName front := by
  obtain ⟨identifier, rfl, hname⟩ := h
  obtain ⟨d, ds, hlower, hd, hall⟩ := exists_lowerCase_of_isName hname
  rw [String.toList_ofList, hlower] at hdot ⊢
  obtain ⟨front, rest, happend, hfront⟩ := List.eq_append_cons_of_mem hdot
  refine ⟨front, rest, happend, ?_⟩
  cases front with
  | nil =>
    have hstart : isNameStart Unicode.combiningDot = false := by decide +kernel
    rw [List.nil_append] at happend
    rw [(List.cons.inj happend).1, hstart] at hd
    cases hd
  | cons x front =>
    obtain ⟨rfl, -⟩ := List.cons.inj happend
    refine ⟨hd, fun y hy => ?_⟩
    have hmem : y ∈ d :: front := List.mem_cons_of_mem _ hy
    rcases hall y (happend ▸ List.mem_append_left _ hmem) with hy' | rfl
    · exact hy'
    · exact absurd hmem hfront

end CalledFromWord

/-! ## Trees -/

namespace Expr

mutual

/-- **A rendering spells its tree** when no call name has a combining dot. -/
theorem spells_renderOnto : ∀ e : Expr, e.FromWords → (∀ name ∈ e.callNames, Unicode.combiningDot ∉ name.toList) →
    Spells (e.renderOnto []) e.spelling
  | literal v, h, _ => by
    rw [renderOnto, List.append_nil]
    exact Value.spells_literalChars h
  | field f, h, _ => by
    rw [renderOnto, List.append_nil]
    exact Field.spells_key h
  | binary l op r, h, hdot => by
    rw [callNames] at hdot
    have hl := spells_renderOnto l h.1 fun name hname => hdot name (List.mem_append_left _ hname)
    have hr := spells_renderOnto r h.2 fun name hname => hdot name (List.mem_append_right _ hname)
    have hgroup := (hl.operator op hr).group
    rw [renderOnto, renderOnto_eq_append l, renderOnto_eq_append r, spelling]
    simpa using hgroup
  | call name args, h, hdot => by
    have hargs := spells_renderArgsOnto args h.2 fun name' hname => hdot name' (List.mem_cons_of_mem _ hname)
    have hcall := Spells.call (h.1.isName (hdot name List.mem_cons_self)) hargs
    rw [renderOnto, renderArgsOnto_eq_append, spelling]
    rw [String.ofList_toList] at hcall
    simpa using hcall

theorem spells_renderArgsOnto : ∀ es : List Expr, FromWordsAll es →
    (∀ name ∈ callNamesAll es, Unicode.combiningDot ∉ name.toList) → Spells (renderArgsOnto es []) (argsSpelling es)
  | [], _, _ => Spells.nil
  | [e], h, hdot => by
    rw [renderArgsOnto, argsSpelling]
    exact spells_renderOnto e h.1 fun name hname => hdot name (List.mem_append_left _ hname)
  | e :: e' :: es, h, hdot => by
    have he := spells_renderOnto e h.1 fun name hname => hdot name (List.mem_append_left _ hname)
    have hes := spells_renderArgsOnto (e' :: es) h.2 fun name hname => hdot name (List.mem_append_right _ hname)
    have hcomma := he.comma hes
    simp only [renderArgsOnto, argsSpelling]
    rw [renderOnto_eq_append e]
    exact hcomma

end

/-- A name is looked for on the left first. -/
theorem dotted_or {names names' : List String} (h : ∃ name ∈ names ++ names', Unicode.combiningDot ∈ name.toList) :
    (∃ name ∈ names, Unicode.combiningDot ∈ name.toList) ∨
      (∀ name ∈ names, Unicode.combiningDot ∉ name.toList) ∧ ∃ name ∈ names', Unicode.combiningDot ∈ name.toList := by
  by_cases hleft : ∃ name ∈ names, Unicode.combiningDot ∈ name.toList
  · exact .inl hleft
  · refine .inr ⟨fun name hname hdot => hleft ⟨name, hname, hdot⟩, ?_⟩
    obtain ⟨name, hname, hdot⟩ := h
    rcases List.mem_append.1 hname with hname | hname
    · exact absurd ⟨name, hname, hdot⟩ hleft
    · exact ⟨name, hname, hdot⟩

mutual

/-- **A combining dot in a call name** keeps the rendering from being scanned. -/
theorem terminals?_renderOnto_eq_none : ∀ e : Expr, e.FromWords →
    (∃ name ∈ e.callNames, Unicode.combiningDot ∈ name.toList) → ∀ rest, Delimited rest →
    terminals? (e.renderOnto rest) = none
  | literal _, _, hdot, _, _ | field _, _, hdot, _, _ => by simp [callNames] at hdot
  | binary l op r, h, hdot, rest, _ => by
    have hblank : Delimited (' ' :: (op.symbol.toList ++ ' ' :: r.renderOnto (')' :: rest))) :=
      delimited_cons rfl _
    have hleft : terminals? (l.renderOnto (' ' :: (op.symbol.toList ++ ' ' :: r.renderOnto (')' :: rest)))) = none := by
      rcases dotted_or hdot with hl | ⟨hl, hr⟩
      · exact terminals?_renderOnto_eq_none l h.1 hl _ hblank
      · have hright := terminals?_renderOnto_eq_none r h.2 hr (')' :: rest) (delimited_cons rfl _)
        rw [renderOnto_eq_append l, spells_renderOnto l h.1 hl _ hblank, terminals?_cons_blank,
          terminals?_operator_append, hright]
        rfl
    rw [renderOnto, terminals?_cons_leftParen, hleft]
    rfl
  | call name args, h, hdot, rest, _ => by
    rw [renderOnto]
    by_cases hname : Unicode.combiningDot ∈ name.toList
    · obtain ⟨front, back, happend, hfront⟩ := h.1.exists_eq_append_dot hname
      rw [happend, List.append_assoc]
      exact terminals?_dotted_append hfront
    · have hargs : ∃ name ∈ callNamesAll args, Unicode.combiningDot ∈ name.toList := by
        obtain ⟨name', hmem, hdot'⟩ := hdot
        rcases List.mem_cons.1 hmem with rfl | hmem
        · exact absurd hdot' hname
        · exact ⟨name', hmem, hdot'⟩
      have hnone := terminals?_renderArgsOnto_eq_none args h.2 hargs (')' :: rest) (delimited_cons rfl _)
      rw [terminals?_name_append (h.1.isName hname) (delimited_cons rfl _), terminals?_cons_leftParen, hnone]
      rfl

theorem terminals?_renderArgsOnto_eq_none : ∀ es : List Expr, FromWordsAll es →
    (∃ name ∈ callNamesAll es, Unicode.combiningDot ∈ name.toList) → ∀ rest, Delimited rest →
    terminals? (renderArgsOnto es rest) = none
  | [], _, hdot, _, _ => by simp [callNamesAll] at hdot
  | [e], h, hdot, rest, hrest => by
    rw [callNamesAll, callNamesAll, List.append_nil] at hdot
    exact terminals?_renderOnto_eq_none e h.1 hdot rest hrest
  | e :: e' :: es, h, hdot, rest, hrest => by
    have hcomma : Delimited (',' :: ' ' :: renderArgsOnto (e' :: es) rest) := delimited_cons rfl _
    simp only [renderArgsOnto]
    rcases dotted_or hdot with he | ⟨he, hes⟩
    · exact terminals?_renderOnto_eq_none e h.1 he _ hcomma
    · have hmore := terminals?_renderArgsOnto_eq_none (e' :: es) h.2 hes rest hrest
      rw [renderOnto_eq_append e, spells_renderOnto e h.1 he _ hcomma, terminals?_cons_comma, terminals?_cons_blank,
        hmore]
      rfl

end

end Expr
end Formula
