import Formula.Proofs.Spans
import Formula.Proofs.Sql.Quoted

/-!
# What SQL text shows

SQL text shows words, quoted text, operations in parentheses and calls. Whether a word is a number or the bare name of a
column does not show, nor does an only argument that is the empty word.

* `Tree`, `Tree.onto` : what is shown, and the text that shows it.
* `Tree.Clean` : the trees whose words hold no mark that would end them.
* `shapeAt_onto` : the text tells the kind of its root.
* `eq_of_onto` : **the text is uniquely readable**: it tells the whole tree, also in front of more text.
-/

namespace Formula

/-! ## Operators -/

theorem Operator.sqlSymbol_injective {op op' : Operator} (h : op.sqlSymbol = op'.sqlSymbol) : op = op' := by
  cases op <;> cases op' <;> first | rfl | exact absurd h (by decide)

/-- A blank ends the spelling of an operator. -/
theorem Operator.sqlSymbol_append_inj {op op' : Operator} {rest rest' : List Char}
    (h : op.sqlSymbol.toList ++ ' ' :: rest = op'.sqlSymbol.toList ++ ' ' :: rest') : op = op' ∧ rest = rest' := by
  have hfront (op : Operator) : ∀ c ∈ op.sqlSymbol.toList, (c != ' ') = true := by
    rw [← List.all_eq_true]
    cases op <;> decide
  have hrest (rest : List Char) : ∀ c ∈ (' ' :: rest).head?, (c != ' ') = false := by
    simp
  obtain ⟨hsymbol, htail⟩ := append_inj_span (hfront op) (hrest rest) (hfront op') (hrest rest') h
  exact ⟨sqlSymbol_injective (String.toList_inj.1 hsymbol), (List.cons.inj htail).2⟩

namespace Sql

/-! ## Trees and their text -/

/-- The quotes around a text or around the name of a column. -/
inductive Quotes
  | single
  | double
  | brackets
  deriving DecidableEq

def Quotes.opening : Quotes → Char
  | single => '\''
  | double => '"'
  | brackets => '['

def Quotes.closing : Quotes → Char
  | single => '\''
  | double => '"'
  | brackets => ']'

theorem Quotes.opening_injective {quotes quotes' : Quotes} (h : quotes.opening = quotes'.opening) :
    quotes = quotes' := by
  cases quotes <;> cases quotes' <;> first | rfl | cases h

/-- What SQL text shows of an expression. -/
inductive Tree
  | word (cs : List Char)
  | quoted (quotes : Quotes) (cs : List Char)
  | operation (left : Tree) (op : Operator) (right : Tree)
  | call (name : List Char) (args : List Tree)

namespace Tree

mutual

/-- The text that shows the tree, followed by more. -/
def onto : Tree → List Char → List Char
  | word cs, rest => cs ++ rest
  | quoted quotes cs, rest => Sql.quoted quotes.opening quotes.closing cs ++ rest
  | operation l op r, rest => '(' :: onto l (' ' :: (op.sqlSymbol.toList ++ ' ' :: onto r (')' :: rest)))
  | call name args, rest => name ++ '(' :: argsOnto args (')' :: rest)

/-- The text that shows an argument list, followed by more. -/
def argsOnto : List Tree → List Char → List Char
  | [], rest => rest
  | [t], rest => onto t rest
  | t :: ts, rest => onto t (',' :: ' ' :: argsOnto ts rest)

end

/-- The argument list as it shows: an only argument that is the empty word is none. -/
def shownArgs : List Tree → List Tree
  | [word []] => []
  | ts => ts

theorem argsOnto_shownArgs (ts : List Tree) (rest : List Char) : argsOnto (shownArgs ts) rest = argsOnto ts rest := by
  unfold shownArgs
  split
  · simp [argsOnto, onto]
  · rfl

theorem shownArgs_ne (ts : List Tree) : shownArgs ts ≠ [word []] := by
  unfold shownArgs
  split
  · simp
  · assumption

end Tree

/-! ## Words -/

/-- The characters that end a word or open something else. -/
def marks : List Char := [' ', '(', ')', ',', '\'', '"', '[']

def isWordChar (c : Char) : Bool := !marks.contains c

/-- A text without marks. -/
def IsWord (cs : List Char) : Prop := ∀ c ∈ cs, isWordChar c = true

/-- What may follow an expression: nothing, a blank, a closing parenthesis, or a comma. -/
def Ends (rest : List Char) : Prop := ∀ c ∈ rest.head?, c = ' ' ∨ c = ')' ∨ c = ','

theorem ends_nil : Ends [] := by
  simp [Ends]

theorem ends_blank (rest : List Char) : Ends (' ' :: rest) := by
  simp [Ends]

theorem ends_rightParen (rest : List Char) : Ends (')' :: rest) := by
  simp [Ends]

theorem ends_comma (rest : List Char) : Ends (',' :: rest) := by
  simp [Ends]

/-- A word ends in front of such a text. -/
theorem Ends.not_wordChar {rest : List Char} (h : Ends rest) : ∀ c ∈ rest.head?, isWordChar c = false := by
  intro c hc
  rcases h c hc with rfl | rfl | rfl <;> decide

theorem Ends.ne_leftParen {rest : List Char} (h : Ends rest) : rest.head? ≠ some '(' := by
  intro hhead
  rcases h _ hhead with hc | hc | hc <;> cases hc

theorem Ends.ne_closing {rest : List Char} (h : Ends rest) (quotes : Quotes) : rest.head? ≠ some quotes.closing := by
  intro hhead
  rcases h _ hhead with hc | hc | hc <;> cases quotes <;> cases hc

/-- A word in front of a mark tells its characters. -/
theorem IsWord.append_inj {cs cs' rest rest' : List Char} (h : IsWord cs) (h' : IsWord cs')
    (hrest : ∀ c ∈ rest.head?, isWordChar c = false) (hrest' : ∀ c ∈ rest'.head?, isWordChar c = false)
    (heq : cs ++ rest = cs' ++ rest') : cs = cs' ∧ rest = rest' :=
  append_inj_span h hrest h' hrest' heq

theorem leftParen_not_wordChar (rest : List Char) : ∀ c ∈ ('(' :: rest).head?, isWordChar c = false := by
  intro c hc
  obtain rfl := Option.some.inj hc
  decide

namespace Tree

mutual

/-- Words hold no mark, calls have a name, and no call has the empty word for its only argument. -/
def Clean : Tree → Prop
  | word cs => IsWord cs
  | quoted _ _ => True
  | operation l _ r => Clean l ∧ Clean r
  | call name args => IsWord name ∧ name ≠ [] ∧ args ≠ [word []] ∧ CleanAll args

/-- All trees are clean. -/
def CleanAll : List Tree → Prop
  | [] => True
  | t :: ts => Clean t ∧ CleanAll ts

end

/-! ## Shapes -/

/-- The kind of the root of a tree. -/
inductive Shape
  | word
  | quoted
  | operation
  | call

def shape : Tree → Shape
  | word _ => .word
  | quoted _ _ => .quoted
  | operation _ _ _ => .operation
  | call _ _ => .call

/-- The shape of the tree that a text opens with: a word and a call differ in what ends the name. -/
def shapeAt : List Char → Shape
  | [] => .word
  | c :: cs =>
    if c = '(' then .operation
    else if c = '\'' ∨ c = '"' ∨ c = '[' then .quoted
    else if ((c :: cs).dropWhile isWordChar).head? = some '(' then .call
    else .word

/-- Where a word opens the text, what ends it decides. -/
theorem shapeAt_append {cs rest : List Char} (h : IsWord cs) (hrest : ∀ c ∈ rest.head?, isWordChar c = false)
    (hne : cs ≠ []) : shapeAt (cs ++ rest) = if rest.head? = some '(' then .call else .word := by
  obtain ⟨c, cs, rfl⟩ := List.exists_cons_of_ne_nil hne
  have hdrop := dropWhile_span h hrest
  have hc := h c List.mem_cons_self
  have hparen : c ≠ '(' := by
    rintro rfl
    exact absurd hc (by decide)
  have hquote : ¬(c = '\'' ∨ c = '"' ∨ c = '[') := by
    rintro (rfl | rfl | rfl) <;> exact absurd hc (by decide)
  rw [List.cons_append] at hdrop ⊢
  rw [shapeAt, if_neg hparen, if_neg hquote, hdrop]

theorem shapeAt_of_ends {rest : List Char} (h : Ends rest) : shapeAt rest = .word := by
  cases rest with
  | nil => rfl
  | cons c rest =>
    have hdrop : (c :: rest).dropWhile isWordChar = c :: rest := by
      rw [List.dropWhile_cons_of_neg (by simp [h.not_wordChar c rfl])]
    have hparen : c ≠ '(' := by simpa using h.ne_leftParen
    have hquote : ¬(c = '\'' ∨ c = '"' ∨ c = '[') := by
      rcases h c rfl with rfl | rfl | rfl <;> decide
    rw [shapeAt, if_neg hparen, if_neg hquote, hdrop, List.head?_cons, if_neg (by simpa using hparen)]

/-- **The text tells the shape.** -/
theorem shapeAt_onto {t : Tree} {rest : List Char} (h : t.Clean) (hrest : Ends rest) :
    shapeAt (t.onto rest) = t.shape := by
  cases t with
  | word cs =>
    by_cases hne : cs = []
    · subst hne
      exact shapeAt_of_ends hrest
    · have hword := shapeAt_append h hrest.not_wordChar hne
      rwa [if_neg hrest.ne_leftParen] at hword
  | quoted quotes cs => cases quotes <;> rfl
  | operation l op r => rfl
  | call name args => exact shapeAt_append h.1 (leftParen_not_wordChar _) h.2.1

theorem shape_eq_of_onto {t t' : Tree} {rest rest' : List Char} (h : t.Clean) (h' : t'.Clean) (hrest : Ends rest)
    (hrest' : Ends rest') (heq : t.onto rest = t'.onto rest') : t.shape = t'.shape := by
  rw [← shapeAt_onto h hrest, heq, shapeAt_onto h' hrest']

/-- Only a list of no arguments, or of the empty word alone, opens with the closing parenthesis. -/
theorem argsOnto_ne_rightParen {t : Tree} {ts : List Tree} {rest rest' : List Char} (h : t.Clean)
    (hne : t :: ts ≠ [word []]) : argsOnto (t :: ts) (')' :: rest) ≠ ')' :: rest' := by
  intro heq
  have hempty {more : List Char} (hmore : Ends more) (honto : t.onto more = ')' :: rest') :
      t = word [] ∧ more = ')' :: rest' := by
    have hshape := shapeAt_onto h hmore
    rw [honto, shapeAt_of_ends (ends_rightParen rest')] at hshape
    cases t with
    | word cs =>
      have hnil : IsWord [] := by simp [IsWord]
      obtain ⟨rfl, rfl⟩ := h.append_inj hnil hmore.not_wordChar (ends_rightParen rest').not_wordChar honto
      exact ⟨rfl, rfl⟩
    | _ => cases hshape
  cases ts with
  | nil =>
    obtain ⟨rfl, -⟩ := hempty (ends_rightParen rest) heq
    exact hne rfl
  | cons t' ts =>
    obtain ⟨-, hmore⟩ := hempty (ends_comma _) heq
    cases hmore

/-- The text of a call tells whether there are arguments. -/
theorem args_eq_nil_iff {ts ts' : List Tree} {rest rest' : List Char} (h : CleanAll ts) (h' : CleanAll ts')
    (hne : ts ≠ [word []]) (hne' : ts' ≠ [word []])
    (heq : argsOnto ts (')' :: rest) = argsOnto ts' (')' :: rest')) : ts = [] ↔ ts' = [] := by
  cases ts with
  | nil =>
    cases ts' with
    | nil => simp
    | cons t' ts' => exact absurd heq.symm (argsOnto_ne_rightParen h'.1 hne')
  | cons t ts =>
    cases ts' with
    | nil => exact absurd heq (argsOnto_ne_rightParen h.1 hne)
    | cons t' ts' => simp

/-! ## Unique reading -/

mutual

/-- **The text of a clean tree is uniquely readable** in front of anything that ends an expression. -/
theorem eq_of_onto : ∀ (t t' : Tree) {rest rest' : List Char}, t.Clean → t'.Clean → Ends rest → Ends rest' →
    t.onto rest = t'.onto rest' → t = t' ∧ rest = rest'
  -- The texts tell the shapes, so in every case only the other tree of the same shape is left.
  | .word cs, t', rest, rest', h, h', hrest, hrest', heq => by
    have hshape := shape_eq_of_onto h h' hrest hrest' heq
    cases t' with
    | word cs' =>
      obtain ⟨rfl, hmore⟩ := IsWord.append_inj h h' hrest.not_wordChar hrest'.not_wordChar heq
      exact ⟨rfl, hmore⟩
    | _ => cases hshape
  | .quoted quotes cs, t', rest, rest', h, h', hrest, hrest', heq => by
    have hshape := shape_eq_of_onto h h' hrest hrest' heq
    cases t' with
    | quoted quotes' cs' =>
      obtain rfl := Quotes.opening_injective (List.cons.inj heq).1
      obtain ⟨rfl, hmore⟩ := quoted_append_inj (hrest.ne_closing quotes) (hrest'.ne_closing quotes) heq
      exact ⟨rfl, hmore⟩
    | _ => cases hshape
  | .operation l op r, t', rest, rest', h, h', hrest, hrest', heq => by
    have hshape := shape_eq_of_onto h h' hrest hrest' heq
    cases t' with
    | operation l' op' r' =>
      simp only [onto, List.cons.injEq, true_and] at heq
      obtain ⟨rfl, hop⟩ := eq_of_onto l l' h.1 h'.1 (ends_blank _) (ends_blank _) heq
      obtain ⟨rfl, hright⟩ := Operator.sqlSymbol_append_inj (List.cons.inj hop).2
      obtain ⟨rfl, hmore⟩ := eq_of_onto r r' h.2 h'.2 (ends_rightParen _) (ends_rightParen _) hright
      exact ⟨rfl, (List.cons.inj hmore).2⟩
    | _ => cases hshape
  | .call name args, t', rest, rest', h, h', hrest, hrest', heq => by
    have hshape := shape_eq_of_onto h h' hrest hrest' heq
    cases t' with
    | call name' args' =>
      obtain ⟨rfl, hargs⟩ := IsWord.append_inj h.1 h'.1 (leftParen_not_wordChar _) (leftParen_not_wordChar _) heq
      have hnil := args_eq_nil_iff h.2.2.2 h'.2.2.2 h.2.2.1 h'.2.2.1 (List.cons.inj hargs).2
      obtain ⟨rfl, hmore⟩ := eq_of_argsOnto args args' h.2.2.2 h'.2.2.2 hnil (List.cons.inj hargs).2
      exact ⟨rfl, hmore⟩
    | _ => cases hshape
termination_by structural t => t

/-- The text of an argument list is uniquely readable up to the closing parenthesis. -/
theorem eq_of_argsOnto : ∀ (ts ts' : List Tree) {rest rest' : List Char}, CleanAll ts → CleanAll ts' →
    (ts = [] ↔ ts' = []) → argsOnto ts (')' :: rest) = argsOnto ts' (')' :: rest') → ts = ts' ∧ rest = rest'
  | [], [], _, _, _, _, _, heq => ⟨rfl, (List.cons.inj heq).2⟩
  | [], _ :: _, _, _, _, _, hnil, _ => absurd (hnil.1 rfl) (List.cons_ne_nil _ _)
  | _ :: _, [], _, _, _, _, hnil, _ => absurd (hnil.2 rfl) (List.cons_ne_nil _ _)
  | [t], [t'], _, _, h, h', _, heq => by
    obtain ⟨rfl, hmore⟩ := eq_of_onto t t' h.1 h'.1 (ends_rightParen _) (ends_rightParen _) heq
    exact ⟨rfl, (List.cons.inj hmore).2⟩
  -- A list that ends does not go on in the other text: a closing parenthesis is no comma.
  | [t], t' :: _ :: _, _, _, h, h', _, heq => by
    cases (eq_of_onto t t' h.1 h'.1 (ends_rightParen _) (ends_comma _) heq).2
  | t :: _ :: _, [t'], _, _, h, h', _, heq => by
    cases (eq_of_onto t t' h.1 h'.1 (ends_comma _) (ends_rightParen _) heq).2
  | t :: u :: ts, t' :: u' :: ts', _, _, h, h', _, heq => by
    obtain ⟨rfl, hcomma⟩ := eq_of_onto t t' h.1 h'.1 (ends_comma _) (ends_comma _) heq
    have hmore := (List.cons.inj (List.cons.inj hcomma).2).2
    obtain ⟨htail, hrest⟩ := eq_of_argsOnto (u :: ts) (u' :: ts') h.2 h'.2 (by simp) hmore
    exact ⟨by rw [htail], hrest⟩
termination_by structural ts => ts

end

end Tree
end Sql
end Formula
