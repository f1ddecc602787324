import Formula.Binary64.Arithmetic
import Formula.Proofs.Binary64.Nearest

/-!
# Numbers that only the sign of a zero tells apart

Two numbers are alike when they are identical, or both zeros, or both no numbers. The comparisons do not tell alike
numbers apart, and the operations make alike results of them; the only place where the sign of a zero shows is a
division by it.

* `Alike`, `Alike.eq_or_zeros` : the relation, and its two cases.
* `Alike.eq_of_zeros`, `Alike.map`, `Alike.map₂` : what treats the two zeros alike treats alike numbers alike.
* `Alike.add`, `Alike.mul`, `Alike.div`, `Alike.roundEven` and the others : the operations.
-/

namespace Formula.Binary64

/-- Both numbers are the same one, or both are zero, or both are no number. -/
def Alike (x y : Binary64) : Prop :=
  x = y ∨ (x.isZero = true ∧ y.isZero = true) ∨ (x.isNaN = true ∧ y.isNaN = true)

instance (x y : Binary64) : Decidable (x.Alike y) := inferInstanceAs (Decidable (_ ∨ _))

variable {x x' x'' y y' : Binary64}

theorem exists_eq_zero_of_isZero (h : x.isZero = true) : ∃ negative, x = zero negative := by
  cases x with
  | nan => cases h
  | infinite => cases h
  | finite negative k =>
    have hk : k.val = 0 := of_decide_eq_true h
    exact ⟨negative, congrArg (finite negative) (Fin.ext hk)⟩

theorem eq_nan_of_isNaN (h : x.isNaN = true) : x = nan := by
  cases x with
  | nan => rfl
  | infinite => cases h
  | finite => cases h

theorem alike_zero (a b : Bool) : (zero a).Alike (zero b) := .inr (.inl ⟨rfl, rfl⟩)

namespace Alike

/-! ## Two cases -/

theorem refl (x : Binary64) : x.Alike x := .inl rfl

/-- Of alike numbers that are not the same both are zeros. -/
theorem eq_or_zeros (h : x.Alike y) : x = y ∨ ∃ a b, x = zero a ∧ y = zero b := by
  rcases h with h | ⟨hx, hy⟩ | ⟨hx, hy⟩
  · exact .inl h
  · obtain ⟨a, ha⟩ := exists_eq_zero_of_isZero hx
    obtain ⟨b, hb⟩ := exists_eq_zero_of_isZero hy
    exact .inr ⟨a, b, ha, hb⟩
  · exact .inl ((eq_nan_of_isNaN hx).trans (eq_nan_of_isNaN hy).symm)

theorem trans (h : x.Alike x') (h' : x'.Alike x'') : x.Alike x'' := by
  obtain rfl | ⟨a, b, rfl, rfl⟩ := h.eq_or_zeros
  · exact h'
  · obtain rfl | ⟨c, d, -, rfl⟩ := h'.eq_or_zeros
    · exact h
    · exact alike_zero a d

/-- What is the same of the two zeros is the same of alike numbers. -/
theorem eq_of_zeros {α : Type} {f : Binary64 → α} (hzero : ∀ a b, f (zero a) = f (zero b)) (h : x.Alike x') :
    f x = f x' := by
  obtain rfl | ⟨a, b, rfl, rfl⟩ := h.eq_or_zeros
  · rfl
  · exact hzero a b

/-- An operation that makes alike results of the two zeros makes alike results of alike numbers. -/
theorem map {f : Binary64 → Binary64} (hzero : ∀ a b, (f (zero a)).Alike (f (zero b))) (h : x.Alike x') :
    (f x).Alike (f x') := by
  obtain rfl | ⟨a, b, rfl, rfl⟩ := h.eq_or_zeros
  · exact .refl _
  · exact hzero a b

/-- An operation on two numbers that does so on either side does so on both. -/
theorem map₂ {f : Binary64 → Binary64 → Binary64} (hleft : ∀ y a b, (f (zero a) y).Alike (f (zero b) y))
    (hright : ∀ x a b, (f x (zero a)).Alike (f x (zero b))) (hx : x.Alike x') (hy : y.Alike y') :
    (f x y).Alike (f x' y') := by
  obtain rfl | ⟨a, b, rfl, rfl⟩ := hx.eq_or_zeros
  · exact hy.map (hright x)
  · exact (hleft y a b).trans (hy.map (hright (zero b)))

/-- A choice that does not depend on the numbers. -/
theorem select (p : Prop) [Decidable p] (hx : x.Alike x') (hy : y.Alike y') :
    (if p then x else y).Alike (if p then x' else y') := by
  split
  · exact hx
  · exact hy

/-! ## Comparisons -/

theorem isZero_eq (h : x.Alike x') : x.isZero = x'.isZero := h.eq_of_zeros fun _ _ => rfl

theorem isNaN_eq (h : x.Alike x') : x.isNaN = x'.isNaN := h.eq_of_zeros fun _ _ => rfl

theorem isFinite_eq (h : x.Alike x') : x.isFinite = x'.isFinite := h.eq_of_zeros fun _ _ => rfl

/-- **Alike numbers lie in the same place.** -/
theorem key?_eq (h : x.Alike x') : x.key? = x'.key? := by
  refine h.eq_of_zeros fun a b => ?_
  cases a <;> cases b <;> rfl

theorem related_eq (r : Int → Int → Bool) (hx : x.Alike x') (hy : y.Alike y') : related r x y = related r x' y' := by
  rw [related, related, hx.key?_eq, hy.key?_eq]

theorem min (hx : x.Alike x') (hy : y.Alike y') : (x.min y).Alike (x'.min y') := by
  rw [Binary64.min, Binary64.min, hx.isNaN_eq, hy.isNaN_eq, less, hy.related_eq _ hx]
  exact select _ hy (select _ hx (select _ hy hx))

theorem max (hx : x.Alike x') (hy : y.Alike y') : (x.max y).Alike (x'.max y') := by
  rw [Binary64.max, Binary64.max, hx.isNaN_eq, hy.isNaN_eq, less, hx.related_eq _ hy]
  exact select _ hy (select _ hx (select _ hy hx))

end Alike

/-! ## Arithmetic -/

theorem units_zero : units 0 = 0 := rfl

theorem signed_zero (negative : Bool) : signed negative 0 = 0 := by
  cases negative <;> rfl

theorem roundSigned_alike (a b : Bool) (u : Int) : (roundSigned a u).Alike (roundSigned b u) :=
  .select _ (alike_zero a b) (.refl _)

theorem round_zero_alike (a b : Bool) (den : Nat) : (round a 0 den).Alike (round b 0 den) := by
  rw [round_zero, round_zero]
  exact alike_zero a b

theorem toWhole_zero {choose : Bool → Nat → Nat → Nat} (h : ∀ negative, choose negative 0 0 = 0) (negative : Bool) :
    toWhole choose (zero negative) = zero negative := by
  rw [zero, toWhole, units_zero, Nat.zero_div, Nat.zero_mod, h, ofWhole, Nat.zero_mul, round_zero]
  rfl

theorem evenWhole_zero : evenWhole 0 0 = 0 := by
  decide +kernel

namespace Alike

theorem add (hx : x.Alike x') (hy : y.Alike y') : (x.add y).Alike (x'.add y') := by
  refine map₂ (fun y a b => ?_) (fun x a b => ?_) hx hy
  · cases y with
    | nan | infinite => exact .refl _
    | finite c k =>
      simp only [zero, Binary64.add, units_zero, signed_zero, Int.zero_add]
      exact roundSigned_alike _ _ _
  · cases x with
    | nan | infinite => exact .refl _
    | finite c k =>
      simp only [zero, Binary64.add, units_zero, signed_zero, Int.add_zero]
      exact roundSigned_alike _ _ _

theorem neg (h : x.Alike x') : x.neg.Alike x'.neg := h.map fun a b => alike_zero (!a) (!b)

theorem sub (hx : x.Alike x') (hy : y.Alike y') : (x.sub y).Alike (x'.sub y') := hx.add hy.neg

theorem mul (hx : x.Alike x') (hy : y.Alike y') : (x.mul y).Alike (x'.mul y') := by
  refine map₂ (fun y a b => ?_) (fun x a b => ?_) hx hy
  · cases y with
    | nan | infinite => exact .refl _
    | finite c k =>
      simp only [zero, Binary64.mul, units_zero, Nat.zero_mul]
      exact round_zero_alike _ _ _
  · cases x with
    | nan | infinite => exact .refl _
    | finite c k =>
      simp only [zero, Binary64.mul, units_zero, Nat.mul_zero]
      exact round_zero_alike _ _ _

/-- The dividend may be any of two alike numbers; of two alike divisors, which may be zeros, the sign would show. -/
theorem div (hx : x.Alike x') (y : Binary64) : (x.div y).Alike (x'.div y) := by
  refine map (f := fun x => x.div y) (fun a b => ?_) hx
  cases y with
  | nan => exact .refl _
  | infinite c => exact alike_zero _ _
  | finite c k =>
    simp only [zero, Binary64.div, units_zero, Nat.zero_mul, if_true]
    exact select _ (.refl _) (round_zero_alike _ _ _)

theorem rem (hx : x.Alike x') (y : Binary64) : (x.rem y).Alike (x'.rem y) := by
  refine map (f := fun x => x.rem y) (fun a b => ?_) hx
  cases y with
  | nan => exact .refl _
  | infinite c => exact alike_zero a b
  | finite c k =>
    simp only [zero, Binary64.rem, units_zero, Nat.zero_mod]
    exact select _ (.refl _) (round_zero_alike _ _ _)

/-! ## Whole numbers -/

theorem abs (h : x.Alike x') : x.abs.Alike x'.abs := h.map fun _ _ => .refl _

theorem toWhole {choose : Bool → Nat → Nat → Nat} (hchoose : ∀ negative, choose negative 0 0 = 0) (h : x.Alike x') :
    (toWhole choose x).Alike (toWhole choose x') := by
  refine h.map fun a b => ?_
  rw [toWhole_zero hchoose, toWhole_zero hchoose]
  exact alike_zero a b

theorem ceil (h : x.Alike x') : x.ceil.Alike x'.ceil := h.toWhole fun _ => if_pos (.inr rfl)

theorem floor (h : x.Alike x') : x.floor.Alike x'.floor := h.toWhole fun _ => if_pos (.inr rfl)

theorem roundEven (h : x.Alike x') : x.roundEven.Alike x'.roundEven := h.toWhole fun _ => evenWhole_zero

end Alike

end Formula.Binary64
