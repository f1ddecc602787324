import Formula.Proofs.Json.Strings

/-!
# Reading whole texts

* `scalar_takes`, `suitable_takes`, `member_takes` : scalars, and the members of an object of scalars.
* `scalar?_eq_some_iff` : a text is read as a scalar when it is one, with nothing but white space around it.
* `object?_eq_ok_iff` : so is an object of scalars, with all of its members.
-/

namespace Formula.Json

/-! ## White space -/

theorem exists_spaces (cs : List Char) : ∃ spaces, IsSpaces spaces ∧ cs = spaces ++ skipSpace cs :=
  ⟨cs.takeWhile isSpace, List.all_eq_true.1 List.all_takeWhile, List.takeWhile_append_dropWhile.symm⟩

theorem exists_spaces_of_skipSpace {cs rest : List Char} (h : skipSpace cs = rest) :
    ∃ spaces, IsSpaces spaces ∧ cs = spaces ++ rest :=
  h ▸ exists_spaces cs

theorem skipSpace_append {spaces : List Char} (hspaces : IsSpaces spaces) {rest : List Char}
    (hrest : ∀ c ∈ rest.head?, isSpace c = false) : skipSpace (spaces ++ rest) = rest :=
  dropWhile_span hspaces hrest

theorem skipSpace_append_cons {spaces : List Char} (hspaces : IsSpaces spaces) {c : Char} (hc : isSpace c = false)
    (rest : List Char) : skipSpace (spaces ++ c :: rest) = c :: rest :=
  skipSpace_append hspaces fun _ hd => Option.some.inj hd ▸ hc

theorem isSpaces_append {spaces spaces' : List Char} (h : IsSpaces spaces) (h' : IsSpaces spaces') :
    IsSpaces (spaces ++ spaces') :=
  List.forall_mem_append.2 ⟨h, h'⟩

theorem skipSpace_of_isSpaces {spaces : List Char} (h : IsSpaces spaces) : skipSpace spaces = [] := by
  have hskip := @skipSpace_append _ h [] (by simp)
  rwa [List.append_nil] at hskip

theorem goesOnNumber_of_isSpace {c : Char} (h : isSpace c = true) : goesOnNumber c = false := by
  simp only [isSpace, Bool.or_eq_true, decide_eq_true_eq] at h
  rcases h with ((rfl | rfl) | rfl) | rfl <;> rfl

/-- White space does not go on with a number, whatever stands behind it. -/
theorem not_goesOnNumber_append {spaces : List Char} (hspaces : IsSpaces spaces) {rest : List Char}
    (hrest : ∀ c ∈ rest.head?, goesOnNumber c = false) : ∀ c ∈ (spaces ++ rest).head?, goesOnNumber c = false := by
  cases spaces with
  | nil => exact hrest
  | cons d spaces =>
    intro c hc
    exact goesOnNumber_of_isSpace (Option.some.inj hc ▸ hspaces d List.mem_cons_self)

section

variable {α : Type} {Text : List Char → α → Prop} {text spaces : List Char} {a : α}

theorem Spaced.append (h : Spaced Text text a) (hspaces : IsSpaces spaces) : Spaced Text (spaces ++ text) a := by
  obtain ⟨hspaces', htext⟩ := h
  rw [← List.append_assoc]
  exact .intro (isSpaces_append hspaces hspaces') htext

theorem spaced_of_text (h : Text text a) : Spaced Text text a := .intro (show IsSpaces [] from List.forall_mem_nil _) h

theorem alone_of_text (h : Text text a) : Alone Text text a := by
  rw [← List.append_nil text]
  exact .intro (spaced_of_text h) (by simp [IsSpaces])

end

/-! ## Scalars -/

theorem word_eq_ok_iff {α : Type} {value a : α} {rest : List Char} : ∀ {expected cs : List Char},
    word value expected cs = .ok (a, rest) ↔ a = value ∧ cs = expected ++ rest
  | [], cs => by simp [word, eq_comm]
  | e :: es, [] => by simp [word]
  | e :: es, c :: cs => by
    rw [word]
    split
    · rename_i hc
      rw [word_eq_ok_iff, hc, List.cons_append, List.cons.injEq, eq_self, true_and]
    · rename_i hc
      simp [hc]

theorem ne_of_isDigit {c d : Char} (hc : c.isDigit = true) (hd : d.isDigit = false) : c ≠ d := by
  rintro rfl
  rw [hc] at hd
  cases hd

theorem MagnitudeText.exists_digit {negative : Bool} {text : List Char} {numeral : Numeral}
    (h : MagnitudeText negative text numeral) : ∃ c cs, text = c :: cs ∧ c.isDigit = true := by
  obtain ⟨⟨⟨hne, hdigits⟩, -⟩, -, -⟩ := h
  obtain ⟨c, cs, rfl⟩ := List.exists_cons_of_ne_nil hne
  exact ⟨c, _, rfl, hdigits c List.mem_cons_self⟩

section

variable {library : Library}

theorem scalar_of_isDigit {c : Char} (hc : c.isDigit = true) (cs : List Char) :
    scalar library (c :: cs) = magnitude library false (c :: cs) := by
  rw [scalar, if_neg (ne_of_isDigit hc rfl), if_neg (ne_of_isDigit hc rfl), if_neg (ne_of_isDigit hc rfl),
    if_neg (ne_of_isDigit hc rfl), if_neg (ne_of_isDigit hc rfl), if_pos hc]

/-- **A scalar** is taken, a number with all of its digits. -/
theorem scalar_takes : Takes (scalar library) (ScalarText library) goesOnNumber where
  sound {cs v rest} h := by
    cases cs with
    | nil => cases h
    | cons c cs =>
      rw [scalar] at h
      split at h
      · rename_i hc
        obtain ⟨rfl, rfl⟩ := word_eq_ok_iff.1 h
        exact ⟨_, by rw [hc]; rfl, .null⟩
      split at h
      · rename_i hc
        obtain ⟨rfl, rfl⟩ := word_eq_ok_iff.1 h
        exact ⟨_, by rw [hc]; rfl, .yes⟩
      split at h
      · rename_i hc
        obtain ⟨rfl, rfl⟩ := word_eq_ok_iff.1 h
        exact ⟨_, by rw [hc]; rfl, .no⟩
      split at h
      · rename_i hc
        split at h
        · cases h
        · rename_i s rest' hs
          cases h
          obtain ⟨_, rfl, ⟨hstring⟩⟩ := string_takes.sound hs
          exact ⟨_, by rw [hc]; rfl, .string hstring⟩
      split at h
      · rename_i hc
        obtain ⟨text, rfl, _, x, hmagnitude, hnumber, rfl⟩ := (magnitude_takes library true).sound h
        exact ⟨'-' :: text, by rw [hc]; rfl, @ScalarText.number library true _ _ _ hmagnitude hnumber⟩
      split at h
      · obtain ⟨text, happend, _, x, hmagnitude, hnumber, rfl⟩ := (magnitude_takes library false).sound h
        exact ⟨text, happend, @ScalarText.number library false _ _ _ hmagnitude hnumber⟩
      · cases h
  complete {text v} rest h hrest := by
    cases h with
    | null => exact word_eq_ok_iff.2 ⟨rfl, rfl⟩
    | yes => exact word_eq_ok_iff.2 ⟨rfl, rfl⟩
    | no => exact word_eq_ok_iff.2 ⟨rfl, rfl⟩
    | string isString =>
      have hstring := string_takes.complete rest (.intro isString) not_neverGoesOn
      rw [List.cons_append, scalar, if_neg (by decide), if_neg (by decide), if_neg (by decide), if_pos rfl, hstring]
    | @number negative text numeral x isMagnitude number_eq =>
      have hmagnitude :=
        (magnitude_takes library negative).complete rest ⟨numeral, x, isMagnitude, number_eq, rfl⟩ hrest
      cases negative with
      | true =>
        rw [Binary64.withSign, if_pos rfl, List.cons_append, scalar, if_neg (by decide), if_neg (by decide),
          if_neg (by decide), if_neg (by decide), if_pos rfl, hmagnitude]
      | false =>
        obtain ⟨c, cs, rfl, hc⟩ := isMagnitude.exists_digit
        rw [Binary64.withSign, if_neg Bool.false_ne_true, List.cons_append, scalar_of_isDigit hc, ← List.cons_append,
          hmagnitude]

/-- Whether a scalar can begin with the character. -/
def opensScalar (c : Char) : Bool := c.isDigit || c ∈ ['n', 't', 'f', '-', '"']

theorem ScalarText.exists_cons {text : List Char} {v : Value} (h : ScalarText library text v) :
    ∃ c cs, text = c :: cs ∧ opensScalar c = true := by
  cases h with
  | null => exact ⟨_, _, rfl, rfl⟩
  | yes => exact ⟨_, _, rfl, rfl⟩
  | no => exact ⟨_, _, rfl, rfl⟩
  | string _ => exact ⟨_, _, rfl, rfl⟩
  | @number negative _ _ _ isMagnitude _ =>
    cases negative with
    | true => exact ⟨'-', _, rfl, rfl⟩
    | false =>
      obtain ⟨c, cs, rfl, hc⟩ := isMagnitude.exists_digit
      exact ⟨c, cs, rfl, by rw [opensScalar, hc]; rfl⟩

/-- No scalar begins with a character that does not open one. -/
theorem ne_of_opensScalar {c d : Char} (hc : opensScalar c = true) (hd : opensScalar d = false) : c ≠ d := by
  rintro rfl
  rw [hc] at hd
  cases hd

theorem isSpace_of_opensScalar {c : Char} (hc : opensScalar c = true) : isSpace c = false := by
  have hne (d : Char) (hd : opensScalar d = false) : decide (c = d) = false := decide_eq_false (ne_of_opensScalar hc hd)
  rw [isSpace, hne _ rfl, hne _ rfl, hne _ rfl, hne _ rfl]
  rfl

theorem skipSpace_spaced_scalar {spaces text : List Char} {v : Value} (hspaces : IsSpaces spaces)
    (htext : ScalarText library text v) (rest : List Char) : skipSpace (spaces ++ text ++ rest) = text ++ rest := by
  obtain ⟨c, cs, rfl, hc⟩ := htext.exists_cons
  rw [List.append_assoc, List.cons_append, skipSpace_append_cons hspaces (isSpace_of_opensScalar hc)]

/-- **A text that is a scalar** and nothing else is read as such, and no other text is. -/
theorem scalar?_eq_some_iff {cs : List Char} {v : Value} :
    scalar? library cs = some v ↔ Alone (ScalarText library) cs v := by
  rw [scalar?]
  constructor
  · intro h
    split at h
    · cases h
    · rename_i w rest hscalar
      split at h
      · rename_i hrest
        cases h
        obtain ⟨text, happend, htext⟩ := scalar_takes.sound hscalar
        obtain ⟨spaces, hspaces, hcs⟩ := exists_spaces_of_skipSpace happend
        obtain ⟨spaces', hspaces', hrest⟩ := exists_spaces_of_skipSpace hrest
        rw [List.append_nil] at hrest
        rw [hcs, hrest, ← List.append_assoc]
        exact .intro (.intro hspaces htext) hspaces'
      · cases h
  · rintro ⟨⟨hspaces, htext⟩, hspaces'⟩
    have hrest := @not_goesOnNumber_append _ hspaces' [] (by simp)
    rw [List.append_nil] at hrest
    rw [skipSpace_spaced_scalar hspaces htext, scalar_takes.complete _ htext hrest]
    simp only [skipSpace_of_isSpaces hspaces', if_true]

/-! ## Members -/

theorem suitable_takes : Takes (suitable library) (Spaced (ScalarText library)) goesOnNumber where
  sound {cs v rest} h := by
    rw [suitable] at h
    split at h
    · cases h
    · cases h
    · rename_i w rest' hvalue
      cases h
      unfold value at hvalue
      split at hvalue
      · cases hvalue
      · rename_i c cs' hskip
        obtain ⟨spaces, hspaces, rfl⟩ := exists_spaces_of_skipSpace hskip
        split at hvalue
        · -- a list or an object gives nothing
          split at hvalue
          · cases hvalue
          · split at hvalue
            · split at hvalue <;> cases hvalue
            · split at hvalue <;> cases hvalue
        · split at hvalue
          · cases hvalue
          · rename_i hscalar
            cases hvalue
            obtain ⟨text, happend, htext⟩ := scalar_takes.sound hscalar
            exact ⟨spaces ++ text, by rw [happend, List.append_assoc], .intro hspaces htext⟩
  complete {text v} rest h hrest := by
    obtain ⟨hspaces, htext⟩ := h
    have hskip := skipSpace_spaced_scalar hspaces htext rest
    have hscalar := scalar_takes.complete _ htext hrest
    obtain ⟨c, cs, rfl, hc⟩ := htext.exists_cons
    have hbracket : ¬(c = '[' ∨ c = '{') :=
      fun h => h.elim (ne_of_opensScalar hc rfl) (ne_of_opensScalar hc rfl)
    rw [List.cons_append] at hskip hscalar
    unfold suitable value
    simp only [hskip, hbracket, if_false, hscalar]

theorem member_takes : Takes (member (suitable library)) (Spaced (MemberText library)) goesOnNumber where
  sound {cs m rest} h := by
    unfold member at h
    split at h
    · cases h
    · rename_i c cs' hskip
      obtain ⟨spaces, hspaces, rfl⟩ := exists_spaces_of_skipSpace hskip
      split at h
      · rename_i hc
        split at h
        · cases h
        · rename_i key cs₁ hkey
          obtain ⟨_, rfl, ⟨hname⟩⟩ := string_takes.sound hkey
          split at h
          · cases h
          · rename_i d cs₂ hskip'
            obtain ⟨spaces', hspaces', rfl⟩ := exists_spaces_of_skipSpace hskip'
            split at h
            · rename_i hd
              split at h
              · cases h
              · rename_i v rest' hvalue
                cases h
                obtain ⟨text, rfl, htext⟩ := suitable_takes.sound hvalue
                refine ⟨_, ?_, .intro hspaces (.intro hname hspaces' htext)⟩
                simp [hc, hd]
            · cases h
      · cases h
  complete {text m} rest h hrest := by
    obtain ⟨hspaces, ⟨hname, hspaces', htext⟩⟩ := h
    rename_i spaces name cs spaces' text v
    have hkey := string_takes.complete (spaces' ++ ':' :: (text ++ rest)) (.intro hname) not_neverGoesOn
    rw [List.append_assoc, List.singleton_append] at hkey
    rw [List.append_assoc, List.cons_append, List.append_assoc, List.cons_append, List.append_assoc, List.cons_append]
    unfold member
    simp only [skipSpace_append_cons hspaces (c := '"') rfl, hkey, skipSpace_append_cons hspaces' (c := ':') rfl,
      suitable_takes.complete _ htext hrest, if_true]

/-! ## Objects -/

theorem itemsUpTo_sound : ∀ {bound : Nat} {cs rest : List Char} {ms : List (String × Value)},
    itemsUpTo '}' (member (suitable library)) bound cs = .ok (ms, rest) →
      ∃ text, cs = text ++ '}' :: rest ∧ MembersText library text ms
  | 0, _, _, _, h => by cases h
  | bound + 1, cs, rest, ms, h => by
    rw [itemsUpTo] at h
    split at h
    · cases h
    · rename_i m cs₁ hmember
      obtain ⟨text, rfl, htext⟩ := member_takes.sound hmember
      split at h
      · cases h
      · rename_i c cs₂ hskip
        obtain ⟨spaces, hspaces, rfl⟩ := exists_spaces_of_skipSpace hskip
        split at h
        · rename_i hc
          cases h
          exact ⟨text ++ spaces, by rw [hc, List.append_assoc], .last (.intro htext hspaces)⟩
        · split at h
          · rename_i hc
            split at h
            · cases h
            · rename_i ms' rest' hmore
              cases h
              obtain ⟨texts, rfl, htexts⟩ := itemsUpTo_sound hmore
              refine ⟨(text ++ spaces) ++ ',' :: texts, ?_, .more (.intro htext hspaces) htexts⟩
              simp [hc]
          · cases h

/-- A member is read with the white space around it, up to a character that does not go on with a number. -/
theorem itemsUpTo_member {text : List Char} {m : String × Value} (h : Alone (MemberText library) text m) {c : Char}
    (hspace : isSpace c = false) (hnumber : goesOnNumber c = false) (rest : List Char) :
    ∃ tail, member (suitable library) (text ++ c :: rest) = .ok (m, tail) ∧ skipSpace tail = c :: rest := by
  obtain ⟨hmember, hspaces⟩ := h
  rename_i spaces
  have hrest := @not_goesOnNumber_append _ hspaces (c :: rest) fun _ hd => Option.some.inj hd ▸ hnumber
  rw [List.append_assoc]
  exact ⟨spaces ++ c :: rest, member_takes.complete _ hmember hrest, skipSpace_append_cons hspaces hspace rest⟩

theorem itemsUpTo_complete {text : List Char} {ms : List (String × Value)} (h : MembersText library text ms)
    (rest : List Char) : ∀ {bound : Nat}, text.length < bound →
      itemsUpTo '}' (member (suitable library)) bound (text ++ '}' :: rest) = .ok (ms, rest) := by
  induction h with
  | last isMember =>
    intro bound hbound
    obtain ⟨bound, rfl⟩ := Nat.exists_eq_succ_of_ne_zero (Nat.ne_of_gt (Nat.lt_of_le_of_lt (Nat.zero_le _) hbound))
    obtain ⟨tail, hmember, hskip⟩ := itemsUpTo_member isMember (c := '}') rfl rfl rest
    rw [itemsUpTo]
    simp only [hmember, hskip, if_true]
  | @more text texts m ms isMember areMembers ih =>
    intro bound hbound
    rw [List.length_append, List.length_cons] at hbound
    obtain ⟨bound, rfl⟩ := Nat.exists_eq_succ_of_ne_zero (Nat.ne_of_gt (Nat.lt_of_le_of_lt (Nat.zero_le _) hbound))
    have hmore := @ih bound (by omega)
    obtain ⟨tail, hmember, hskip⟩ := itemsUpTo_member isMember (c := ',') rfl rfl (texts ++ '}' :: rest)
    rw [List.append_assoc, List.cons_append, itemsUpTo]
    simp only [hmember, hskip, hmore, if_true]
    rw [if_neg (by decide)]

/-- White space may be put in front of members. -/
theorem MembersText.append {text : List Char} {ms : List (String × Value)} (h : MembersText library text ms)
    {spaces : List Char} (hspaces : IsSpaces spaces) : MembersText library (spaces ++ text) ms := by
  cases h with
  | last isMember =>
    obtain ⟨hmember, hspaces'⟩ := isMember
    rw [← List.append_assoc]
    exact .last (.intro (hmember.append hspaces) hspaces')
  | more isMember areMembers =>
    obtain ⟨hmember, hspaces'⟩ := isMember
    rw [← List.append_assoc, ← List.append_assoc]
    exact .more (.intro (hmember.append hspaces) hspaces') areMembers

/-- A member begins with white space and a quote, and is a member without the white space. -/
theorem exists_quote_of_alone {text : List Char} {m : String × Value} (h : Alone (MemberText library) text m) :
    ∃ spaces tail, IsSpaces spaces ∧ text = spaces ++ '"' :: tail ∧ Alone (MemberText library) ('"' :: tail) m := by
  obtain ⟨⟨hspaces, ⟨hname, hspaces', hscalar⟩⟩, hspaces''⟩ := h
  refine ⟨_, _, hspaces, by rw [List.append_assoc, List.cons_append], ?_⟩
  rw [← List.cons_append]
  exact .intro (spaced_of_text (.intro hname hspaces' hscalar)) hspaces''

theorem MembersText.exists_quote {text : List Char} {ms : List (String × Value)} (h : MembersText library text ms) :
    ∃ spaces tail, IsSpaces spaces ∧ text = spaces ++ '"' :: tail ∧ MembersText library ('"' :: tail) ms := by
  cases h with
  | last isMember =>
    obtain ⟨spaces, tail, hspaces, rfl, hmember⟩ := exists_quote_of_alone isMember
    exact ⟨spaces, tail, hspaces, rfl, .last hmember⟩
  | @more _ texts _ _ isMember areMembers =>
    obtain ⟨spaces, tail, hspaces, rfl, hmember⟩ := exists_quote_of_alone isMember
    refine ⟨spaces, tail ++ ',' :: texts, hspaces, by rw [List.append_assoc, List.cons_append], ?_⟩
    exact .more hmember areMembers

/-- The members of an object are read behind its opening brace, and then the closing one. -/
theorem items_takes : Takes (items '}' (member (suitable library)))
    (fun text ms => ObjectText library ('{' :: text) ms) neverGoesOn where
  sound {cs ms rest} h := by
    unfold items at h
    split at h
    · cases h
    · rename_i c cs' hskip
      obtain ⟨spaces, hspaces, rfl⟩ := exists_spaces_of_skipSpace hskip
      split at h
      · rename_i hc
        cases h
        exact ⟨spaces ++ ['}'], by simp [hc], .empty hspaces⟩
      · obtain ⟨text, happend, htext⟩ := itemsUpTo_sound h
        exact ⟨(spaces ++ text) ++ ['}'], by simp [happend], .members (htext.append hspaces)⟩
  complete {text ms} rest h _ := by
    unfold items
    cases h with
    | empty isSpaces =>
      rw [List.append_assoc, List.singleton_append]
      simp only [skipSpace_append_cons isSpaces (c := '}') rfl, if_true]
    | members areMembers =>
      obtain ⟨spaces, tail, hspaces, rfl, hmembers⟩ := areMembers.exists_quote
      have hlength : ('"' :: tail).length < (tail ++ '}' :: rest).length + 1 := by
        rw [List.length_append, List.length_cons, List.length_cons]
        omega
      have hitems := itemsUpTo_complete hmembers rest hlength
      rw [List.cons_append] at hitems
      rw [List.append_assoc, List.append_assoc, List.cons_append, List.singleton_append]
      simp only [skipSpace_append_cons hspaces (c := '"') rfl]
      rw [if_neg (by decide), hitems]

/-- **A text that is an object of scalars** and nothing else is read with its members, and no other text is. -/
theorem object?_eq_ok_iff {cs : List Char} {ms : List (String × Value)} :
    object? library cs = .ok ms ↔ Alone (ObjectText library) cs ms := by
  rw [object?]
  constructor
  · intro h
    split at h
    · cases h
    · rename_i c cs' hskip
      obtain ⟨spaces, hspaces, rfl⟩ := exists_spaces_of_skipSpace hskip
      split at h
      · rename_i hc
        split at h
        · cases h
        · rename_i ms' rest hitems
          split at h
          · rename_i hrest
            cases h
            obtain ⟨text, rfl, htext⟩ := items_takes.sound hitems
            obtain ⟨spaces', hspaces', hrest⟩ := exists_spaces_of_skipSpace hrest
            rw [List.append_nil] at hrest
            rw [hc, hrest, ← List.cons_append, ← List.append_assoc]
            exact .intro (.intro hspaces htext) hspaces'
          · cases h
      · split at h
        · cases h
        · split at h <;> cases h
  · rintro ⟨⟨hspaces, htext⟩, hspaces'⟩
    rename_i spaces' spaces text
    obtain ⟨tail, rfl⟩ : ∃ tail, text = '{' :: tail := by
      cases htext <;> exact ⟨_, rfl⟩
    have hitems := items_takes.complete spaces' htext not_neverGoesOn
    rw [List.append_assoc, List.cons_append]
    simp only [skipSpace_append_cons hspaces (c := '{') rfl, if_true, hitems, skipSpace_of_isSpaces hspaces']

end

end Formula.Json
