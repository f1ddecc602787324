import Formula.Proofs.Binary64.Alike
import Formula.Proofs.Binary64.Whole

/-!
# The order of doubles

* `exists_ofRank` : a number that is no NaN has a sign and a rank, infinities being of the rank after the last.
* `atMost_refl`, `atMost_trans`, `atMost_antisymm` : an order up to the sign of zero, of all numbers but NaN.
* `Picks`, `picks_min`, `picks_max` : the smaller of two numbers comes first in the order, the greater in its converse.
* `IsFirst`, `Picks.isFirst_foldl`, `IsFirst.alike` : what a list folds to comes first of it, and what comes first is
  determined up to the sign of zero.
-/

namespace Formula.Binary64

variable {x y z m m' : Binary64} {xs ys : List Binary64}

/-! ## Places -/

theorem isNaN_iff : x.isNaN = true ↔ x = nan :=
  ⟨eq_nan_of_isNaN, fun h => h ▸ rfl⟩

theorem isNaN_eq_false_iff : x.isNaN = false ↔ x ≠ nan := by
  rw [← Bool.not_eq_true, isNaN_iff]

theorem exists_ofRank (h : x.isNaN = false) : ∃ negative k, x = ofRank negative k ∧
    x.key? = some (signed negative (units k)) := by
  cases x with
  | nan => cases h
  | infinite negative => exact ⟨negative, rankCount, by rw [ofRank, dif_neg (Nat.lt_irrefl _)], rfl⟩
  | finite negative rank => exact ⟨negative, rank, (ofRank_rank negative rank).symm, rfl⟩

theorem exists_key (h : x.isNaN = false) : ∃ i, x.key? = some i := by
  obtain ⟨negative, k, -, hkey⟩ := exists_ofRank h
  exact ⟨_, hkey⟩

theorem signed_eq_iff {a b : Bool} {u v : Nat} : signed a u = signed b v ↔ u = v ∧ (a = b ∨ u = 0) := by
  cases a <;> cases b <;> simp [signed] <;> omega

/-- **Numbers in the same place are alike.** -/
theorem alike_of_key {i : Int} (hx : x.key? = some i) (hy : y.key? = some i) : x.Alike y := by
  have hnumber {w : Binary64} (hw : w.key? = some i) : w.isNaN = false := by
    cases w with
    | nan => cases hw
    | infinite | finite => rfl
  obtain ⟨a, j, rfl, hj⟩ := exists_ofRank (hnumber hx)
  obtain ⟨b, k, rfl, hk⟩ := exists_ofRank (hnumber hy)
  have hsigned : signed a (units j) = signed b (units k) :=
    Option.some.inj (hj.symm.trans (hx.trans (hy.symm.trans hk)))
  obtain ⟨hunits, hsign⟩ := signed_eq_iff.1 hsigned
  obtain rfl := units_strictMono.injective hunits
  rcases hsign with rfl | hzero
  · exact .refl _
  · obtain rfl : j = 0 := units_strictMono.injective (hzero.trans units_zero.symm)
    rw [ofRank_zero, ofRank_zero]
    exact alike_zero a b

/-! ## The order -/

theorem related_of_key {r : Int → Int → Bool} {i j : Int} (hx : x.key? = some i) (hy : y.key? = some j) :
    related r x y = r i j := by
  rw [related, hx, hy]

theorem related_eq_true_iff {r : Int → Int → Bool} :
    related r x y = true ↔ ∃ i j, x.key? = some i ∧ y.key? = some j ∧ r i j = true := by
  unfold related
  cases x.key? <;> cases y.key? <;> simp

theorem atMost_iff : x.atMost y = true ↔ ∃ i j, x.key? = some i ∧ y.key? = some j ∧ i ≤ j := by
  simp [atMost, related_eq_true_iff]

theorem atMost_refl (h : x.isNaN = false) : x.atMost x = true := by
  obtain ⟨i, hi⟩ := exists_key h
  exact atMost_iff.2 ⟨i, i, hi, hi, Int.le_refl i⟩

theorem atMost_trans (h : x.atMost y = true) (h' : y.atMost z = true) : x.atMost z = true := by
  obtain ⟨i, j, hi, hj, hle⟩ := atMost_iff.1 h
  obtain ⟨j', k, hj', hk, hle'⟩ := atMost_iff.1 h'
  obtain rfl := Option.some.inj (hj.symm.trans hj')
  exact atMost_iff.2 ⟨i, k, hi, hk, Int.le_trans hle hle'⟩

theorem atMost_antisymm (h : x.atMost y = true) (h' : y.atMost x = true) : x.Alike y := by
  obtain ⟨i, j, hi, hj, hle⟩ := atMost_iff.1 h
  obtain ⟨j', i', hj', hi', hle'⟩ := atMost_iff.1 h'
  obtain rfl := Option.some.inj (hi.symm.trans hi')
  obtain rfl := Option.some.inj (hj.symm.trans hj')
  exact alike_of_key hi (Int.le_antisymm hle hle' ▸ hj)

/-- Of two numbers that are no NaN, one is less than the other, or the other is at most the one. -/
theorem atMost_of_less_eq_false (hx : x.isNaN = false) (hy : y.isNaN = false) (h : x.less y = false) :
    y.atMost x = true := by
  obtain ⟨i, hi⟩ := exists_key hx
  obtain ⟨j, hj⟩ := exists_key hy
  rw [less, related_of_key hi hj, decide_eq_false_iff_not] at h
  exact atMost_iff.2 ⟨j, i, hj, hi, by omega⟩

theorem atMost_of_less (h : x.less y = true) : x.atMost y = true := by
  obtain ⟨i, j, hi, hj, hlt⟩ := related_eq_true_iff.1 h
  exact atMost_iff.2 ⟨i, j, hi, hj, Int.le_of_lt (of_decide_eq_true hlt)⟩

/-! ## The first of two -/

/-- The operation takes the one of two numbers that comes first in an order of all numbers but NaN, and takes a NaN only
when both are. -/
structure Picks (before : Binary64 → Binary64 → Bool) (f : Binary64 → Binary64 → Binary64) : Prop where
  refl : ∀ {x}, x.isNaN = false → before x x = true
  trans : ∀ {x y z}, before x y = true → before y z = true → before x z = true
  antisymm : ∀ {x y}, before x y = true → before y x = true → x.Alike y
  eq_or_eq : ∀ x y, f x y = x ∨ f x y = y
  isNaN_eq : ∀ x y, (f x y).isNaN = (x.isNaN && y.isNaN)
  left : ∀ {x} y, x.isNaN = false → before (f x y) x = true
  right : ∀ x {y}, y.isNaN = false → before (f x y) y = true

variable {before : Binary64 → Binary64 → Bool} {f : Binary64 → Binary64 → Binary64}

/-- What takes the second number only when it is strictly before the first takes the one that comes first. -/
theorem Picks.of_strict {strictly : Binary64 → Binary64 → Bool}
    (hf : ∀ x y, f x y = if x.isNaN then y else if y.isNaN then x else if strictly y x then y else x)
    (hrefl : ∀ {x}, x.isNaN = false → before x x = true)
    (htrans : ∀ {x y z}, before x y = true → before y z = true → before x z = true)
    (hantisymm : ∀ {x y}, before x y = true → before y x = true → x.Alike y)
    (hstrict : ∀ {x y}, strictly x y = true → before x y = true)
    (hnot : ∀ {x y}, x.isNaN = false → y.isNaN = false → strictly x y = false → before y x = true) :
    Picks before f where
  refl := hrefl
  trans := htrans
  antisymm := hantisymm
  eq_or_eq x y := by
    rw [hf]
    split_ifs <;> simp
  isNaN_eq x y := by
    rw [hf]
    split_ifs <;> simp_all
  left {x} y hx := by
    rw [hf, if_neg (by simp [hx])]
    split_ifs with hy hyx
    · exact hrefl hx
    · exact hstrict hyx
    · exact hrefl hx
  right x {y} hy := by
    rw [hf]
    split_ifs with hx hy' hyx
    · exact hrefl hy
    · simp [hy] at hy'
    · exact hrefl hy
    · exact hnot hy (by simpa using hx) (by simpa using hyx)

/-- **The smaller number** comes first in the order. -/
theorem picks_min : Picks atMost Binary64.min :=
  .of_strict (fun _ _ => rfl) atMost_refl atMost_trans atMost_antisymm atMost_of_less atMost_of_less_eq_false

/-- **The greater number** comes first in the converse of the order. -/
theorem picks_max : Picks (fun x y => y.atMost x) Binary64.max :=
  .of_strict (fun _ _ => rfl) atMost_refl (fun h h' => atMost_trans h' h) (fun h h' => atMost_antisymm h' h)
    atMost_of_less fun hx hy => atMost_of_less_eq_false hy hx

/-! ## The first of a list -/

/-- The number comes first of a list: it is one of them, a NaN only when all are, and comes before all that are none. -/
structure IsFirst (before : Binary64 → Binary64 → Bool) (xs : List Binary64) (m : Binary64) : Prop where
  mem : m ∈ xs
  isNaN_eq : m.isNaN = xs.all isNaN
  first : ∀ y ∈ xs, y.isNaN = false → before m y = true

/-- What comes first when two numbers are replaced by the first of them comes first of all. -/
theorem Picks.isFirst_cons (h : Picks before f) (hm : IsFirst before (f x y :: ys) m) :
    IsFirst before (x :: y :: ys) m where
  mem := by
    rcases List.mem_cons.1 hm.mem with hm | hm
    · rcases h.eq_or_eq x y with hf | hf <;> simp [hm, hf]
    · simp [hm]
  isNaN_eq := by simp [hm.isNaN_eq, h.isNaN_eq, Bool.and_assoc]
  first z hz hnumber := by
    have hpair {w : Binary64} (hw : w.isNaN = false) (hfw : before (f x y) w = true)
        (hf : (f x y).isNaN = false) : before m w = true :=
      h.trans (hm.first _ List.mem_cons_self hf) hfw
    rcases List.mem_cons.1 hz with rfl | hz
    · exact hpair hnumber (h.left y hnumber) (by simp [h.isNaN_eq, hnumber])
    · rcases List.mem_cons.1 hz with rfl | hz
      · exact hpair hnumber (h.right x hnumber) (by simp [h.isNaN_eq, hnumber])
      · exact hm.first z (List.mem_cons_of_mem _ hz) hnumber

/-- **What a list folds to** comes first of it. -/
theorem Picks.isFirst_foldl (h : Picks before f) :
    ∀ (x : Binary64) (xs : List Binary64), IsFirst before (x :: xs) (xs.foldl f x)
  | x, [] =>
    { mem := List.mem_cons_self
      isNaN_eq := by simp
      first := by
        intro y hy hnumber
        obtain rfl := List.mem_singleton.1 hy
        exact h.refl hnumber }
  | x, y :: ys => h.isFirst_cons (h.isFirst_foldl (f x y) ys)

/-- **What comes first** of the same numbers in any order is determined up to the sign of zero. -/
theorem IsFirst.alike (h : Picks before f) (hxs : xs.Perm ys) (hm : IsFirst before xs m) (hm' : IsFirst before ys m') :
    m.Alike m' := by
  have hall : xs.all isNaN = ys.all isNaN := hxs.all_eq
  cases hnumber : m.isNaN with
  | true => exact .inr (.inr ⟨hnumber, by rw [hm'.isNaN_eq, ← hall, ← hm.isNaN_eq, hnumber]⟩)
  | false =>
    have hnumber' : m'.isNaN = false := by rw [hm'.isNaN_eq, ← hall, ← hm.isNaN_eq, hnumber]
    exact h.antisymm (hm.first m' (hxs.mem_iff.2 hm'.mem) hnumber') (hm'.first m (hxs.mem_iff.1 hm.mem) hnumber)

end Formula.Binary64
