import Formula.Proofs.Scan.Words

/-!
# Spellings

A text spells terminals when it is scanned to them in front of every text that it does not run into. Spellings are put
together as the grammar puts sentences together.

* `Spells` : the text spells the terminals.
* `Spells.number`, `Spells.name`, `Spells.quoted` : the words.
* `Spells.group`, `Spells.call`, `Spells.operator`, `Spells.comma` : the ways to put spellings together.
-/

namespace Formula

open Grammar

/-- In front of a blank, a delimiter or nothing the text is scanned to the terminals. -/
def Spells (text : List Char) (ws : List Terminal) : Prop :=
  ∀ rest, Delimited rest → terminals? (text ++ rest) = (terminals? rest).map (ws ++ ·)

namespace Spells

variable {text text' : List Char} {ws ws' : List Terminal}

theorem terminals?_eq (h : Spells text ws) : terminals? text = some (ws ++ [.endOfInput]) := by
  have hend := h [] delimited_nil
  rwa [List.append_nil, terminals?_nil, Option.map_some] at hend

theorem nil : Spells [] [] := by
  intro rest _
  simp

theorem number (h : IsNumber text) : Spells text [.number (String.ofList text)] :=
  fun _ hrest => terminals?_number_append h hrest

theorem name (h : IsName text) : Spells text [nameTerminal (String.ofList text)] :=
  fun _ hrest => terminals?_name_append h hrest

theorem quoted {quote : Char} (hquote : quote = '"' ∨ quote = '\'') (h : quote ∉ text) :
    Spells (quote :: text ++ [quote]) [.string (String.ofList text)] := by
  intro rest _
  rw [List.append_assoc]
  exact terminals?_quoted_append hquote h rest

theorem append (h : Spells text ws) (h' : Spells text' ws') (hdelimited : ∀ rest, Delimited rest →
    Delimited (text' ++ rest)) : Spells (text ++ text') (ws ++ ws') := by
  intro rest hrest
  rw [List.append_assoc, h _ (hdelimited rest hrest), h' _ hrest, Option.map_map]
  congr 1
  funext more
  simp

/-- Parentheses around a spelling. -/
theorem group (h : Spells text ws) : Spells ('(' :: text ++ [')']) (.leftParen :: ws ++ [.rightParen]) := by
  intro rest _
  have hinner := h (')' :: rest) (delimited_cons rfl rest)
  simp only [List.cons_append, List.append_assoc, List.nil_append, terminals?_cons_leftParen, hinner,
    terminals?_cons_rightParen, Option.map_map]
  rfl

/-- A name in front of parentheses. -/
theorem call {name : List Char} (hname : IsName name) (h : Spells text ws) :
    Spells (name ++ '(' :: text ++ [')']) (nameTerminal (String.ofList name) :: .leftParen :: ws ++ [.rightParen]) := by
  have happend := (Spells.name hname).append h.group fun rest _ => delimited_cons rfl _
  simpa using happend

/-- An operator between blanks. -/
theorem operator (op : Operator) (h : Spells text ws) (h' : Spells text' ws') :
    Spells (text ++ ' ' :: op.symbol.toList ++ ' ' :: text') (ws ++ .operator op.symbol :: ws') := by
  intro rest hrest
  have hop := terminals?_operator_append op (text' ++ rest)
  have hleft := h (' ' :: (op.symbol.toList ++ ' ' :: (text' ++ rest))) (delimited_cons rfl _)
  simp only [List.append_assoc, List.cons_append, hleft, terminals?_cons_blank, hop, h' rest hrest, Option.map_map]
  rfl

/-- A comma and a blank. -/
theorem comma (h : Spells text ws) (h' : Spells text' ws') :
    Spells (text ++ ',' :: ' ' :: text') (ws ++ .comma :: ws') := by
  intro rest hrest
  have hleft := h (',' :: ' ' :: (text' ++ rest)) (delimited_cons rfl _)
  simp only [List.append_assoc, List.cons_append, hleft, terminals?_cons_comma, terminals?_cons_blank, h' rest hrest,
    Option.map_map]
  rfl

end Spells
end Formula
