import InventoryQuery.Proofs.Number.Nearest
import InventoryQuery.Value.Basic

/-!
# The order of values

Values of one sort are ordered, and the order can be read from either side.  An integer is rounded
before it is compared with a floating number, so that the two may become equal which are not.  Where
they do, the order of the exact numbers is lost, and where two integers become equal to one floating
number, the way from one value to the next.  Nothing else is lost.
-/

namespace InventoryQuery

open Number (twoTo)

/-! ## Three in a row -/

/-- The orders of three values in a row, the last of them that of the outer two, as they are under
an order: two steps up are one step up, and no step at all only if both were none. -/
def Chained (first second both : Ordering) : Prop :=
  both.isLE = true ∧ (both = .eq → first = .eq ∧ second = .eq)

theorem chained_of_trans {α : Type} {cmp : α → α → Ordering} [Std.TransCmp cmp] {a b c : α}
    (hfirst : (cmp a b).isLE = true) (hsecond : (cmp b c).isLE = true) :
    Chained (cmp a b) (cmp b c) (cmp a c) := by
  refine ⟨Std.TransCmp.isLE_trans hfirst hsecond, fun hequal ↦ ?_⟩
  have hab : cmp a b = .eq := by
    cases h : cmp a b with
    | eq => rfl
    | lt =>
      rw [Std.TransCmp.lt_of_lt_of_isLE h hsecond] at hequal
      cases hequal
    | gt =>
      rw [h] at hfirst
      cases hfirst
  refine ⟨hab, ?_⟩
  rw [← Std.TransCmp.congr_left hab]
  exact hequal

theorem chained_compare_iff {a b c d e f : Int} :
    Chained (compare a b) (compare c d) (compare e f) ↔ e ≤ f ∧ (e = f → a = b ∧ c = d) := by
  unfold Chained
  simp only [Int.isLE_compare, Int.compare_eq_eq]

instance transCmp_part {α β : Type} (cmp : α → α → Ordering) [Std.TransCmp cmp] (part : β → α) :
    Std.TransCmp fun a b ↦ cmp (part a) (part b) where
  eq_swap := Std.OrientedCmp.eq_swap
  isLE_trans := Std.TransCmp.isLE_trans

instance : Std.TransCmp Date.compare :=
  inferInstanceAs (Std.TransCmp (compareLex (compareOn Date.year)
    (compareLex (compareOn Date.month) (compareOn Date.day))))

instance : Std.TransCmp Timestamp.compare :=
  inferInstanceAs (Std.TransCmp (compareLex (fun a b : Timestamp ↦ a.date.compare b.date)
    (compareLex (compareOn Timestamp.seconds) (compareOn Timestamp.nanos))))

namespace Binary64

variable {x y z : Binary64} {first second : Ordering}

theorem compare_eq_some_iff {order : Ordering} :
    x.compare y = some order ↔
      ∃ p q, x.position = some p ∧ y.position = some q ∧ Ord.compare p q = order := by
  unfold compare
  cases x.position with
  | none => simp
  | some p =>
    cases y.position with
    | none => simp
    | some q => simp

theorem compare_swap (x y : Binary64) : y.compare x = (x.compare y).map Ordering.swap := by
  unfold compare
  cases x.position with
  | none =>
    cases y.position with
    | none => rfl
    | some q => rfl
  | some p =>
    cases y.position with
    | none => rfl
    | some q => exact congrArg some Std.OrientedCmp.eq_swap

theorem compare_chained (hfirst : x.compare y = some first) (hsecond : y.compare z = some second) :
    ∃ both, x.compare z = some both ∧
      (first.isLE = true → second.isLE = true → Chained first second both) := by
  obtain ⟨p, q, hp, hq, rfl⟩ := compare_eq_some_iff.1 hfirst
  obtain ⟨q', r, hq', hr, rfl⟩ := compare_eq_some_iff.1 hsecond
  obtain rfl : q = q' := Option.some.inj (hq.symm.trans hq')
  exact ⟨_, compare_eq_some_iff.2 ⟨p, r, hp, hr, rfl⟩, chained_of_trans⟩

/-- Where an integer stands that is compared with a floating number. -/
def rounded (i : Int64) : Int := nearestInt (i.toInt * twoTo 1074)

theorem position_ofInt64 (i : Int64) : (ofInt i.toInt).position = some (rounded i) := by
  have hlow := i.le_toInt
  have hhigh := i.toInt_lt
  have hbits : twoTo 63 = 2 ^ 63 := rfl
  exact position_ofInt (by omega)

theorem rounded_mono {i j : Int64} (h : i.toInt ≤ j.toInt) : rounded i ≤ rounded j := by
  have hpos : (0 : Int) < twoTo 1074 := Int.natCast_pos.2 (twoTo_pos 1074)
  exact nearestInt_mono (Int.mul_le_mul_of_nonneg_right h (Int.le_of_lt hpos))

theorem ofInt_compare_eq_iff {i : Int64} {p : Int} (hp : x.position = some p) :
    (ofInt i.toInt).compare x = some .eq ↔ rounded i = p := by
  rw [compare, position_ofInt64, hp]
  simp

end Binary64

namespace Value

open Binary64 (rounded rounded_mono position_ofInt64)

/-! ## From either side -/

theorem compare_swap (a b : Value) : b.compare a = (a.compare b).map Ordering.swap := by
  cases a with
  | null => cases b <;> rfl
  | bool a =>
    cases b with
    | bool b => exact congrArg some Std.OrientedCmp.eq_swap
    | _ => rfl
  | int a =>
    cases b with
    | int b => exact congrArg some Std.OrientedCmp.eq_swap
    | float b => exact Binary64.compare_swap _ _
    | _ => rfl
  | float a =>
    cases b with
    | int b => exact Binary64.compare_swap _ _
    | float b => exact Binary64.compare_swap _ _
    | _ => rfl
  | text a =>
    cases b with
    | text b => exact congrArg some Std.OrientedCmp.eq_swap
    | _ => rfl
  | date a =>
    cases b with
    | date b => exact congrArg some Std.OrientedCmp.eq_swap
    | _ => rfl
  | timestamp a | instant a =>
    cases b with
    | timestamp b | instant b => exact congrArg some Std.OrientedCmp.eq_swap
    | _ => rfl

/-! ## From one to the next -/

/-- Two integers, not the same, that are both rounded to a floating number. -/
def Blurs (x : Binary64) (i j : Int64) : Prop :=
  i.toInt < j.toInt ∧ (Binary64.ofInt i.toInt).compare x = some .eq ∧
    (Binary64.ofInt j.toInt).compare x = some .eq

/-- A floating number blurs two integers on its sides, or the two before or behind it. -/
inductive Blurred : Value → Value → Value → Prop
  | around {x : Binary64} {i j : Int64} (h : Blurs x i j) : Blurred (.int j) (.float x) (.int i)
  | before {x : Binary64} {i j : Int64} (h : Blurs x i j) : Blurred (.int i) (.int j) (.float x)
  | behind {x : Binary64} {i j : Int64} (h : Blurs x i j) : Blurred (.float x) (.int i) (.int j)

section Rounded

variable {x : Binary64} {i j : Int64} {p : Int}

theorem blurs_iff (hp : x.position = some p) :
    Blurs x i j ↔ i.toInt < j.toInt ∧ rounded i = p ∧ rounded j = p := by
  rw [Blurs, Binary64.ofInt_compare_eq_iff hp, Binary64.ofInt_compare_eq_iff hp]

theorem blurred_around_iff : Blurred (.int j) (.float x) (.int i) ↔ Blurs x i j :=
  ⟨fun | .around h => h, .around⟩

theorem blurred_before_iff : Blurred (.int i) (.int j) (.float x) ↔ Blurs x i j :=
  ⟨fun | .before h => h, .before⟩

theorem blurred_behind_iff : Blurred (.float x) (.int i) (.int j) ↔ Blurs x i j :=
  ⟨fun | .behind h => h, .behind⟩

end Rounded

/-- The outer ones of three values in a row are comparable too, and two steps up are a step up as
under an order, unless integers are blurred. -/
def InRow (a b c : Value) (first second : Ordering) : Prop :=
  ∃ both, a.compare c = some both ∧ (first.isLE = true → second.isLE = true →
    (Chained first second both ↔ ¬Blurred a b c))

variable {a b c : Value} {first second : Ordering}

theorem inRow_of_chained (hblurred : ¬Blurred a b c)
    (h : ∃ both, a.compare c = some both ∧
      (first.isLE = true → second.isLE = true → Chained first second both)) :
    InRow a b c first second := by
  obtain ⟨both, hboth, hchained⟩ := h
  exact ⟨both, hboth, fun hfirst hsecond ↦ iff_of_true (hchained hfirst hsecond) hblurred⟩

theorem inRow_around {i j : Int64} {x : Binary64}
    (hfirst : (Value.int j).compare (.float x) = some first)
    (hsecond : (Value.float x).compare (.int i) = some second) :
    InRow (.int j) (.float x) (.int i) first second := by
  obtain ⟨_, p, hj, hp, rfl⟩ := Binary64.compare_eq_some_iff.1 hfirst
  obtain ⟨_, _, hp', hi, rfl⟩ := Binary64.compare_eq_some_iff.1 hsecond
  obtain rfl := Option.some.inj (hp.symm.trans hp')
  obtain rfl := Option.some.inj ((position_ofInt64 j).symm.trans hj)
  obtain rfl := Option.some.inj ((position_ofInt64 i).symm.trans hi)
  refine ⟨_, rfl, fun hle hle' ↦ ?_⟩
  rw [Int.isLE_compare] at hle hle'
  rw [chained_compare_iff, blurred_around_iff, blurs_iff hp]
  have hij := rounded_mono (i := i) (j := j)
  have hji := rounded_mono (i := j) (j := i)
  omega

theorem inRow_before {i j : Int64} {x : Binary64}
    (hfirst : (Value.int i).compare (.int j) = some first)
    (hsecond : (Value.int j).compare (.float x) = some second) :
    InRow (.int i) (.int j) (.float x) first second := by
  obtain rfl := Option.some.inj hfirst
  obtain ⟨_, p, hj, hp, rfl⟩ := Binary64.compare_eq_some_iff.1 hsecond
  obtain rfl := Option.some.inj ((position_ofInt64 j).symm.trans hj)
  refine ⟨_, Binary64.compare_eq_some_iff.2 ⟨_, p, position_ofInt64 i, hp, rfl⟩, fun hle hle' ↦ ?_⟩
  rw [Int.isLE_compare] at hle hle'
  rw [chained_compare_iff, blurred_before_iff, blurs_iff hp]
  have hij := rounded_mono hle
  omega

theorem inRow_behind {i j : Int64} {x : Binary64}
    (hfirst : (Value.float x).compare (.int i) = some first)
    (hsecond : (Value.int i).compare (.int j) = some second) :
    InRow (.float x) (.int i) (.int j) first second := by
  obtain ⟨p, _, hp, hi, rfl⟩ := Binary64.compare_eq_some_iff.1 hfirst
  obtain rfl := Option.some.inj hsecond
  obtain rfl := Option.some.inj ((position_ofInt64 i).symm.trans hi)
  refine ⟨_, Binary64.compare_eq_some_iff.2 ⟨p, _, hp, position_ofInt64 j, rfl⟩, fun hle hle' ↦ ?_⟩
  rw [Int.isLE_compare] at hle hle'
  rw [chained_compare_iff, blurred_behind_iff, blurs_iff hp]
  have hij := rounded_mono hle'
  omega

theorem inRow_of_compare (hfirst : a.compare b = some first) (hsecond : b.compare c = some second) :
    InRow a b c first second := by
  -- Two values are comparable only if they are of one sort, numbers and points in time being one.
  cases b with
  | null =>
    cases a with
    | null =>
      cases c with
      | null =>
        cases hfirst
        cases hsecond
        exact inRow_of_chained nofun ⟨.eq, rfl, fun _ _ ↦ ⟨rfl, fun _ ↦ ⟨rfl, rfl⟩⟩⟩
      | _ => cases hsecond
    | _ => cases hfirst
  | bool b =>
    cases a with
    | bool a =>
      cases c with
      | bool c =>
        cases hfirst
        cases hsecond
        exact inRow_of_chained nofun ⟨_, rfl, chained_of_trans⟩
      | _ => cases hsecond
    | _ => cases hfirst
  | text b =>
    cases a with
    | text a =>
      cases c with
      | text c =>
        cases hfirst
        cases hsecond
        exact inRow_of_chained nofun ⟨_, rfl, chained_of_trans⟩
      | _ => cases hsecond
    | _ => cases hfirst
  | date b =>
    cases a with
    | date a =>
      cases c with
      | date c =>
        cases hfirst
        cases hsecond
        exact inRow_of_chained nofun ⟨_, rfl, chained_of_trans⟩
      | _ => cases hsecond
    | _ => cases hfirst
  | timestamp b | instant b =>
    cases a with
    | timestamp a | instant a =>
      cases c with
      | timestamp c | instant c =>
        cases hfirst
        cases hsecond
        exact inRow_of_chained nofun ⟨_, rfl, chained_of_trans⟩
      | _ => cases hsecond
    | _ => cases hfirst
  | int b =>
    cases a with
    | int a =>
      cases c with
      | int c =>
        cases hfirst
        cases hsecond
        exact inRow_of_chained nofun ⟨_, rfl, chained_of_trans⟩
      | float c => exact inRow_before hfirst hsecond
      | _ => cases hsecond
    | float a =>
      cases c with
      | int c => exact inRow_behind hfirst hsecond
      | float c => exact inRow_of_chained nofun (Binary64.compare_chained hfirst hsecond)
      | _ => cases hsecond
    | _ => cases hfirst
  | float b =>
    cases a with
    | int a =>
      cases c with
      | int c => exact inRow_around hfirst hsecond
      | float c => exact inRow_of_chained nofun (Binary64.compare_chained hfirst hsecond)
      | _ => cases hsecond
    | float a =>
      cases c with
      | int c => exact inRow_of_chained nofun (Binary64.compare_chained hfirst hsecond)
      | float c => exact inRow_of_chained nofun (Binary64.compare_chained hfirst hsecond)
      | _ => cases hsecond
    | _ => cases hfirst

/-! ## Integers and floating numbers -/

variable {i : Int64} {x : Binary64} {place : Int}

theorem compare_int_float (hplace : x.position = some place) :
    (Value.int i).compare (.float x) = some (Ord.compare (rounded i) place) :=
  Binary64.compare_eq_some_iff.2 ⟨_, _, position_ofInt64 i, hplace, rfl⟩

/-- Rounding makes numbers equal, but does not turn their order around. -/
theorem compare_rounded (hplace : x.position = some place) (hne : rounded i ≠ place) :
    Ord.compare (rounded i) place = Ord.compare (i.toInt * twoTo 1074) place := by
  have hself : Binary64.nearestInt place = place := Binary64.nearestInt_of_position hplace
  unfold rounded at hne ⊢
  generalize i.toInt * twoTo 1074 = exact at *
  rcases Int.lt_trichotomy exact place with hless | rfl | hmore
  · have hle := Binary64.nearestInt_mono (Int.le_of_lt hless)
    rw [Int.compare_eq_lt.2 hless, Int.compare_eq_lt]
    omega
  · exact absurd hself hne
  · have hle := Binary64.nearestInt_mono (Int.le_of_lt hmore)
    rw [Int.compare_eq_gt.2 hmore, Int.compare_eq_gt]
    omega

theorem compare_rounded_iff (hplace : x.position = some place) :
    Ord.compare (rounded i) place = Ord.compare (i.toInt * twoTo 1074) place ↔
      (rounded i = place → i.toInt * twoTo 1074 = place) := by
  constructor
  · intro hexact hsame
    rw [Int.compare_eq_eq.2 hsame] at hexact
    exact Int.compare_eq_eq.1 hexact.symm
  · intro hexact
    by_cases hsame : rounded i = place
    · rw [hexact hsame, hsame]
    · exact compare_rounded hplace hsame

/-- What comparing does.  It can be read from either side.  It goes on from one value to the next,
but for two integers that a floating number blurs.  An integer stands to a floating number as the
exact numbers do, here in multiples of the least positive one, unless it is rounded to that very
number and is not the same, which no integer of 53 bits is; then the two are equal. -/
theorem compare_orders_unless_blurred (a b c : Value) (i : Int64) (x : Binary64) (place : Int) :
    b.compare a = (a.compare b).map Ordering.swap ∧
    (∀ first second : Ordering,
      a.compare b = some first → b.compare c = some second → InRow a b c first second) ∧
    (x.position = some place →
      ((Value.int i).compare (.float x) = some (Ord.compare (i.toInt * twoTo 1074) place) ↔
        ((Binary64.ofInt i.toInt).position = some place → i.toInt * twoTo 1074 = place)) ∧
      ((Binary64.ofInt i.toInt).position = some place →
        (Value.int i).compare (.float x) = some .eq) ∧
      (i.toInt.natAbs ≤ twoTo 53 → (Value.int i).compare (.float x) =
        some (Ord.compare (i.toInt * twoTo 1074) place))) := by
  refine ⟨compare_swap a b, fun first second ↦ inRow_of_compare, fun hplace ↦ ?_⟩
  rw [compare_int_float hplace, position_ofInt64]
  simp only [Option.some.injEq]
  refine ⟨compare_rounded_iff hplace, fun hsame ↦ Int.compare_eq_eq.2 hsame, fun hsmall ↦ ?_⟩
  rw [rounded, Binary64.nearestInt_of_natAbs_le hsmall]

/-- Two, two and a half, and three. -/
theorem compare_orders_unless_blurred_of_half :
    let half : Binary64 := .finite false (5 * twoTo 50) 1023 (by decide +kernel)
    (Value.int 2).compare (.float half) = some .lt ∧
      (Value.float half).compare (.int 2) = some .gt ∧
      (Value.int 2).compare (.int 3) = some .lt ∧ Chained .lt .lt .lt := by
  intro half
  have hplace : half.position = some (5 * twoTo 50 * twoTo 1023) := rfl
  obtain ⟨hswap, hrow, htwo⟩ :=
    compare_orders_unless_blurred (.int 2) (.float half) (.int 3) 2 half _
  obtain ⟨hswap', -, hthree⟩ :=
    compare_orders_unless_blurred (.int 3) (.float half) (.int 2) 3 half _
  have hless : (Value.int 2).compare (.float half) = some .lt := by
    rw [(htwo hplace).2.2 (by decide +kernel)]
    decide +kernel
  have hless' : (Value.float half).compare (.int 3) = some .lt := by
    rw [hswap', (hthree hplace).2.2 (by decide +kernel)]
    decide +kernel
  obtain ⟨both, hboth, hchained⟩ := hrow _ _ hless hless'
  obtain rfl : both = .lt := Option.some.inj (hboth.symm.trans (by decide))
  refine ⟨hless, ?_, hboth, (hchained rfl rfl).2 ?_⟩
  · rw [hswap, hless]
    rfl
  · rw [blurred_around_iff, blurs_iff hplace]
    decide

/-- The integer after two to the power of 53 is equal to that power as a floating number, and not as
an integer. -/
theorem compare_blurs_neighbours :
    let power : Binary64 := .finite false (twoTo 52) 1075 (by decide +kernel)
    power.position = some (9007199254740992 * twoTo 1074) ∧
      (Value.int 9007199254740993).compare (.float power) = some .eq ∧
      (Value.float power).compare (.int 9007199254740992) = some .eq ∧
      (Value.int 9007199254740993).compare (.int 9007199254740992) = some .gt := by
  decide +kernel

end Value

end InventoryQuery
