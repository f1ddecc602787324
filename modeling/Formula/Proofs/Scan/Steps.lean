import Formula.Proofs.Scan.Cuts

/-!
# Scans step by step

A scan that is asked for one token after another gives those of the whole text, and then stays where it is stuck: at the
end of the text or in front of the character at fault.

* `steps_eq_of_cut` : the answers are the tokens of the cut, and then the last answer for ever.
* `Scanner.exists_used_of_next` : a step that is not the end of the input goes over characters.
* `untilEnd?_steps` : no more steps than the text has characters, and one more, come to what the whole scan gives.
* `steps_agree_with_tokenize` : all of this for every text and every number of steps.
-/

namespace Formula

/-! ## Where a scan is stuck -/

/-- What a scan answers where it is stuck: the end of the input, or the character at fault. -/
def lastAnswer (position : Nat) : List Char → Except UnknownCharacter Token
  | [] => .ok (.endOfInput position)
  | c :: _ => .error ⟨c, position⟩

/-- Where a scan is stuck it stays. -/
theorem Stuck.next_eq_lastAnswer {rest : List Char} (h : Stuck rest) (position : Nat) :
    (Scanner.mk position rest).next = (lastAnswer position rest, ⟨position, rest⟩) := by
  cases rest with
  | nil => rfl
  | cons c rest => exact h.next_eq position

namespace Scanner

variable {s s' : Scanner}

/-- More steps begin with the same answers. -/
theorem take_steps (n : Nat) : ∀ (m : Nat) (s : Scanner), (s.steps (m + n)).take m = s.steps m
  | 0, _ => rfl
  | m + 1, s => by
    rw [Nat.add_right_comm, steps, steps, List.take_succ_cons, take_steps n m]

/-- A scanner that a step leaves as it is gives the same answer for ever. -/
theorem steps_eq_replicate {answer : Except UnknownCharacter Token} (h : s.next = (answer, s)) :
    ∀ n, s.steps n = List.replicate n answer
  | 0 => rfl
  | n + 1 => by rw [steps, h, steps_eq_replicate h n, List.replicate_succ]

/-! ## Progress -/

/-- **A step that is not the end of the input goes over characters**, at least one of them. -/
theorem exists_used_of_next {t : Token} (h : s.next = (.ok t, s')) (ht : t.isEnd = false) :
    ∃ used, used ≠ [] ∧ s.rest = used ++ s'.rest ∧ s'.position = s.position + used.length := by
  obtain ⟨position, cs⟩ := s
  obtain ⟨blank, after, rfl, hwhite, hhead⟩ := exists_blank cs
  rw [next_congr (skipWhiteSpace_blank_append hwhite position after)] at h
  by_cases hstarts : StartsLexeme after
  · obtain ⟨front, more, rfl, hsome⟩ := hstarts
    obtain ⟨kind, text, lexeme, rest, happend, hlongest⟩ := exists_isLongestLexeme more hsome
    rw [happend, hlongest.next_eq] at h
    cases h
    have hne := hlongest.isLexeme.ne_nil
    refine ⟨blank ++ lexeme, by simp [hne], by rw [happend, List.append_assoc], ?_⟩
    rw [List.length_append, Nat.add_assoc]
  · have hstuck : Stuck after := ⟨hhead, hstarts⟩
    rw [hstuck.next_eq_lastAnswer] at h
    cases after with
    | nil =>
      cases h
      cases ht
    | cons c after => cases h

end Scanner

/-- Each token of a cut takes at least one character. -/
theorem Cut.length_le {rest used : List Char} {position : Nat} {ts : List Token} (h : Cut rest position used ts) :
    ts.length ≤ used.length := by
  induction h with
  | blank _ => exact Nat.zero_le _
  | token white longest more ih =>
    have hpos := List.length_pos_iff.2 longest.isLexeme.ne_nil
    simp only [List.length_cons, List.length_append]
    omega

theorem Cut.isEnd_eq_false {rest used : List Char} {position : Nat} {ts : List Token} (h : Cut rest position used ts) :
    ∀ t ∈ ts, t.isEnd = false := by
  intro t ht
  obtain ⟨_, _, _, -, -, hlongest⟩ := h.exists_lexeme t ht
  simpa [Token.isEnd] using hlongest.kind_ne_endOfInput

/-! ## All steps -/

section

variable {formula : String} {used rest : List Char} {front : List Token}

/-- The first `n` answers of a scan that gives the tokens and then the last answer for ever. -/
def firstAnswers (n : Nat) (tokens : List Token) (last : Except UnknownCharacter Token) :
    List (Except UnknownCharacter Token) :=
  (tokens.map Except.ok ++ List.replicate n last).take n

/-- A token that is repeated for ever may as well be the last of those in front. -/
theorem firstAnswers_snoc (n : Nat) (t : Token) :
    firstAnswers n (front ++ [t]) (.ok t) = firstAnswers n front (.ok t) := by
  rw [firstAnswers, firstAnswers, List.map_append, List.append_assoc, List.map_singleton, List.singleton_append,
    ← List.replicate_succ, List.replicate_succ', ← List.append_assoc, List.take_append_of_le_length (by simp)]

/-- **The answers of a scan** are the tokens of the cut, and then the one where it is stuck for ever. -/
theorem steps_eq_of_cut (hformula : formula.toList = used ++ rest) (hcut : Cut rest 0 used front) (hstuck : Stuck rest)
    (n : Nat) : (Scanner.ofText formula).steps n = firstAnswers n front (lastAnswer used.length rest) := by
  have hsteps := hcut.steps_eq n
  rw [Nat.zero_add, Scanner.steps_eq_replicate (hstuck.next_eq_lastAnswer _), ← hformula, Nat.add_comm] at hsteps
  rw [firstAnswers, ← hsteps]
  exact (Scanner.take_steps _ n _).symm

/-- What comes of the answers of a scan when they are looked at only up to the first that is an end of the input or a
fault: the tokens up to that one, or the fault. There may be none among the answers. -/
def untilEnd? : List (Except UnknownCharacter Token) → Option (Except UnknownCharacter (List Token))
  | [] => none
  | .error e :: _ => some (.error e)
  | .ok t :: answers => if t.isEnd then some (.ok [t]) else (untilEnd? answers).map fun tokens => tokens.map (t :: ·)

theorem untilEnd?_append (hfront : ∀ t ∈ front, t.isEnd = false) (answers : List (Except UnknownCharacter Token)) :
    untilEnd? (front.map Except.ok ++ answers) = (untilEnd? answers).map fun tokens => tokens.map (front ++ ·) := by
  induction front with
  | nil =>
    rw [List.map_nil, List.nil_append]
    rcases untilEnd? answers with _ | _ | _ <;> rfl
  | cons t front ih =>
    obtain ⟨ht, hfront⟩ := List.forall_mem_cons.1 hfront
    rw [List.map_cons, List.cons_append, untilEnd?, ht, if_neg Bool.false_ne_true, ih hfront]
    rcases untilEnd? answers with _ | _ | _ <;> rfl

/-- The last answer ends what it is behind. -/
theorem untilEnd?_lastAnswer (hstuck : Stuck rest) (position : Nat) (answers : List (Except UnknownCharacter Token)) :
    untilEnd? (lastAnswer position rest :: answers) = some (Scanner.mk position rest).tokens := by
  rw [hstuck.tokens_eq]
  cases rest <;> rfl

/-- **A scan ends** within as many steps as the text has characters, and one more. -/
theorem untilEnd?_steps {n : Nat} (h : formula.length < n) :
    untilEnd? ((Scanner.ofText formula).steps n) = some (tokenize formula) := by
  obtain ⟨used, front, rest, hformula, hcut, hstuck⟩ := exists_cut 0 formula.toList
  have hlength : front.length < n := by
    have hle := hcut.length_le
    have hall := congrArg List.length hformula
    rw [String.length_toList, List.length_append] at hall
    omega
  obtain ⟨more, hmore⟩ : ∃ more, n = front.length + (more + 1) := ⟨n - front.length - 1, by omega⟩
  have hsteps := hcut.steps_eq (more + 1)
  rw [Nat.zero_add, ← hformula, ← hmore, Scanner.steps_eq_replicate (hstuck.next_eq_lastAnswer _),
    List.replicate_succ] at hsteps
  rw [Scanner.ofText, hsteps, untilEnd?_append hcut.isEnd_eq_false, untilEnd?_lastAnswer hstuck,
    hcut.tokenize_eq hformula, Option.map_some]

end

/-- **Stepping agrees with scanning at once**, for any number of steps. The answers are the tokens of the text and then
its end for ever, or the tokens in front of the character at fault and then that fault for ever. Whatever the scanner, a
step that gives a token which is not the end of the input goes over at least one character; so the answers of as many
steps as the text has characters, and one more, are enough to know all its tokens. -/
theorem steps_agree_with_tokenize (formula : String) :
    (∀ ts, tokenize formula = .ok ts →
      (∃ front, ts = front ++ [.endOfInput formula.length] ∧ ∀ t ∈ front, t.isEnd = false) ∧
      ∀ n, (Scanner.ofText formula).steps n = firstAnswers n ts (.ok (.endOfInput formula.length))) ∧
    (∀ e, tokenize formula = .error e → ∃ used front rest, formula.toList = used ++ e.char :: rest ∧
      used.length = e.position ∧ Cut (e.char :: rest) 0 used front ∧ (∀ t ∈ front, t.isEnd = false) ∧
      ∀ n, (Scanner.ofText formula).steps n = firstAnswers n front (.error e)) ∧
    (∀ (s s' : Scanner) (t : Token), s.next = (.ok t, s') → t.isEnd = false →
      ∃ used, used ≠ [] ∧ s.rest = used ++ s'.rest ∧ s'.position = s.position + used.length) ∧
    ∀ n, formula.length < n → untilEnd? ((Scanner.ofText formula).steps n) = some (tokenize formula) := by
  refine ⟨fun ts hts => ?_, fun e he => ?_, fun s s' t => Scanner.exists_used_of_next, fun n => untilEnd?_steps⟩
  · obtain ⟨front, hcut, rfl⟩ := tokenize_eq_ok_iff_cut.1 hts
    refine ⟨⟨front, rfl, hcut.isEnd_eq_false⟩, fun n => ?_⟩
    have hstuck : Stuck [] := ⟨by simp, lexeme?_eq_none_iff.1 rfl⟩
    rw [firstAnswers_snoc, steps_eq_of_cut (List.append_nil _).symm hcut hstuck, lastAnswer, String.length_toList]
  · obtain ⟨c, position⟩ := e
    obtain ⟨used, front, rest, hformula, rfl, hcut, hwhite, hstarts⟩ := tokenize_eq_error_iff_cut.1 he
    have hstuck : Stuck (c :: rest) := ⟨fun d hd => Option.some.inj hd ▸ hwhite, hstarts⟩
    exact ⟨used, front, rest, hformula, rfl, hcut, hcut.isEnd_eq_false, steps_eq_of_cut hformula hcut hstuck⟩

end Formula
