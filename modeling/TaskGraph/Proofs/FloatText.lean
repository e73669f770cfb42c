import Mathlib.Algebra.Ring.Nat
import TaskGraph.Proofs.JsonGrammar
set_option autoImplicit false

/-! The texts of numbers are numbers of the JSON grammar. An integer is a row of digits. A finite
float is laid out from the fewest digits that read back; seventeen digits always do, so the digits
are never those of zero. -/

namespace TaskGraph

/-! ### Digits -/

theorem pow_length_le {n : Nat} (positive : 0 < n) : 10 ^ ((decimalDigits n).length - 1) ≤ n := by
  by_contra less
  by_cases single : (decimalDigits n).length - 1 = 0
  · rw [single] at less
    omega
  · have short : (decimalDigits n).length ≤ (decimalDigits n).length - 1 :=
      (Nat.length_toDigits_le_iff (by decide) (by omega)).mpr (by omega)
    have some : 0 < (decimalDigits n).length := Nat.length_toDigits_pos
    omega

theorem lt_pow_length (n : Nat) : n < 10 ^ (decimalDigits n).length :=
  (Nat.length_toDigits_le_iff (by decide) Nat.length_toDigits_pos).mp (Nat.le_refl _)

theorem roundHalfEven_near (num : Nat) {den : Nat} (positive : 0 < den) :
    2 * num ≤ 2 * (den * roundHalfEven num den) + den ∧
      2 * (den * roundHalfEven num den) ≤ 2 * num + den := by
  have parts := Nat.div_add_mod num den
  have small := Nat.mod_lt num positive
  unfold roundHalfEven
  dsimp only
  split
  · omega
  · rw [Nat.mul_add, Nat.mul_one]
    omega

namespace Binary64

/-- The place of the decimal point is not too high: with one digit
less before it the number would be too small. -/
theorem le_of_decimalOrder {num den : Nat} (positive : 0 < num) :
    den * 10 ^ (decimalOrder num den - 1).toNat ≤ num * 10 ^ (1 - decimalOrder num den).toNat := by
  unfold decimalOrder
  simp only [Int.ofNat_eq_natCast]
  split
  · rename_i large
    generalize isPlaces : (decimalDigits (num / den)).length = places
    have some : 0 < places := isPlaces ▸ Nat.length_toDigits_pos
    have up : ((places : Int) - 1).toNat = places - 1 := by omega
    have down : (1 - (places : Int)).toNat = 0 := by omega
    rw [up, down, Nat.pow_zero, Nat.mul_one]
    by_cases whole : 0 < num / den
    · have least := pow_length_le whole
      rw [isPlaces] at least
      exact Nat.le_trans (Nat.mul_le_mul_left den least) (Nat.mul_div_le num den)
    · have none : den = 0 := by
        by_contra some
        exact whole (Nat.div_pos large (Nat.pos_of_ne_zero some))
      rw [none, Nat.zero_mul]
      exact Nat.zero_le _
  · generalize isPlaces : (decimalDigits (den / num)).length = places
    have some : 0 < places := isPlaces ▸ Nat.length_toDigits_pos
    split
    · rename_i fits
      have up : (2 - (places : Int) - 1).toNat = 0 := by omega
      have down : (1 - (2 - (places : Int))).toNat = places - 1 := by omega
      rw [up, down, Nat.pow_zero, Nat.mul_one]
      exact fits
    · have up : (1 - (places : Int) - 1).toNat = 0 := by omega
      have down : (1 - (1 - (places : Int))).toNat = places := by omega
      have most := lt_pow_length (den / num)
      rw [isPlaces, Nat.div_lt_iff_lt_mul positive, Nat.mul_comm] at most
      rw [up, down, Nat.pow_zero, Nat.mul_one]
      exact Nat.le_of_lt most

/-- A scale that is moved by digits. -/
theorem scale_of_shifted {num den : Nat} (place : Int) (digits : Nat)
    (bound : den * 10 ^ (place + digits).toNat ≤ num * 10 ^ (-(place + digits)).toNat) :
    den * 10 ^ place.toNat * 10 ^ digits ≤ num * 10 ^ (-place).toNat := by
  rcases Int.le_total 0 place with above | below
  · have up : (place + digits).toNat = place.toNat + digits := by omega
    have down : (-(place + digits)).toNat = 0 := by omega
    have none : (-place).toNat = 0 := by omega
    rw [up, down, Nat.pow_add] at bound
    rw [none, Nat.mul_assoc]
    exact bound
  · have none : place.toNat = 0 := by omega
    rw [none, Nat.pow_zero, Nat.mul_one]
    rcases Int.le_total 0 (place + digits) with reaches | short
    · have down : (-(place + digits)).toNat = 0 := by omega
      obtain ⟨high, isHigh⟩ : ∃ high, (place + digits).toNat = high := ⟨_, rfl⟩
      have whole : high + (-place).toNat = digits := by omega
      rw [down, Nat.pow_zero, Nat.mul_one, isHigh] at bound
      rw [← whole, Nat.pow_add, ← Nat.mul_assoc]
      exact Nat.mul_le_mul_right _ bound
    · have up : (place + digits).toNat = 0 := by omega
      have whole : (-place).toNat = (-(place + digits)).toNat + digits := by omega
      rw [up, Nat.pow_zero, Nat.mul_one] at bound
      rw [whole, Nat.pow_add, ← Nat.mul_assoc]
      exact Nat.mul_le_mul_right _ bound

/-! ### The fewest digits -/

theorem holds_of_onGrid? {interval : Rounding} {place : Int} {digits : Nat}
    (found : interval.onGrid? place = some digits) : interval.holds digits place = true := by
  unfold Rounding.onGrid? at found
  dsimp only at found
  split at found
  · cases found
    assumption
  · -- The other neighbour lies above or below the nearer one.
    split at found
    all_goals
      split at found
      · cases found
        assumption
      · cases found

theorem rounding_low_pos {significand : Nat} (positive : 0 < significand) (exponent : Int) :
    0 < (rounding significand exponent).low := by
  have up : 0 < Nat.pow 2 (exponent - 2).toNat := Nat.pow_pos (by decide)
  refine Nat.mul_pos ?_ up
  split <;> omega

/-- Zero does not read back as any other number. -/
theorem pos_of_holds {significand : Nat} (positive : 0 < significand) {exponent place : Int}
    {digits : Nat} (holds : (rounding significand exponent).holds digits place = true) :
    0 < digits := by
  apply Nat.pos_of_ne_zero
  rintro rfl
  have low := rounding_low_pos positive exponent
  have scale : 0 < Nat.pow 10 (-place).toNat := Nat.pow_pos (by decide)
  have some := Nat.mul_pos low scale
  unfold Rounding.holds at holds
  simp only [Nat.zero_mul] at holds
  split at holds
  · have ends := decide_eq_true_iff.mp holds
    omega
  · have ends := decide_eq_true_iff.mp holds
    omega

/-- On a grid whose steps are less than twice the distance to either end
of an interval, the nearest point is inside. -/
theorem Rounding.holds_near {interval : Rounding} {place : Int} {less more : Nat}
    (positive : 0 < interval.den) (below : interval.low + less ≤ interval.value)
    (above : interval.value + more ≤ interval.high)
    (fineBelow : interval.den * 10 ^ place.toNat < 2 * less * 10 ^ (-place).toNat)
    (fineAbove : interval.den * 10 ^ place.toNat < 2 * more * 10 ^ (-place).toNat) :
    interval.holds (roundHalfEven (interval.value * Nat.pow 10 (-place).toNat)
      (interval.den * Nat.pow 10 place.toNat))
      place = true := by
  have someStep : 0 < 10 ^ place.toNat := Nat.pow_pos (by decide)
  have near := roundHalfEven_near (interval.value * 10 ^ (-place).toNat)
    (Nat.mul_pos positive someStep)
  have low := Nat.mul_le_mul_right (10 ^ (-place).toNat) below
  have high := Nat.mul_le_mul_right (10 ^ (-place).toNat) above
  rw [Nat.add_mul] at low high
  rw [Nat.mul_assoc] at fineBelow fineAbove
  have point (digits : Nat) : digits * 10 ^ place.toNat * interval.den =
      interval.den * 10 ^ place.toNat * digits := by
    rw [Nat.mul_assoc, Nat.mul_comm digits, Nat.mul_comm (10 ^ place.toNat)]
  unfold Rounding.holds
  dsimp only
  split
  · refine decide_eq_true ?_
    simp only [Nat.pow_eq, point]
    omega
  · refine decide_eq_true ?_
    simp only [Nat.pow_eq, point]
    omega

theorem Rounding.onGrid?_of_holds {interval : Rounding} {place : Int}
    (holds : interval.holds (roundHalfEven (interval.value * Nat.pow 10 (-place).toNat)
      (interval.den * Nat.pow 10 place.toNat)) place = true) :
    interval.onGrid? place =
      some (roundHalfEven (interval.value * Nat.pow 10 (-place).toNat)
        (interval.den * Nat.pow 10 place.toNat)) := by
  unfold Rounding.onGrid?
  dsimp only
  rw [if_pos holds]

/-- A number of the format has a point on the grid of seventeen digits that reads back. -/
theorem exists_onGrid? {significand : Nat} (positive : 0 < significand)
    (fits : significand < 2 ^ 53) (exponent : Int) :
    ∃ digits, (rounding significand exponent).onGrid?
      (decimalOrder (rounding significand exponent).value
        (rounding significand exponent).den - 17) = some digits := by
  generalize isUp : 2 ^ (exponent - 2).toNat = up
  have someUp : 0 < up := isUp ▸ Nat.pow_pos (by decide)
  have isValue : (rounding significand exponent).value = 4 * significand * up := isUp ▸ rfl
  have isHigh : (rounding significand exponent).high = (4 * significand + 2) * up := isUp ▸ rfl
  have isLow : (rounding significand exponent).low =
      (4 * significand - if significand = Nat.pow 2 52 ∧ leastExponent < exponent then
        1 else 2) * up := isUp ▸ rfl
  have someDen : 0 < (rounding significand exponent).den := Nat.pow_pos (by decide)
  generalize rounding significand exponent = interval at isValue isHigh isLow someDen ⊢
  have someValue : 0 < interval.value := isValue ▸ Nat.mul_pos (by omega) someUp
  generalize isPlace : decimalOrder interval.value interval.den - 17 = place
  -- The step is at most a part in 10 ^ 16 of the value, which is less than 2 ^ 54 half gaps: less
  -- than two of them.
  have order : interval.den * _ ≤ interval.value * _ := le_of_decimalOrder someValue
  have before : decimalOrder interval.value interval.den - 1 = place + (16 : Nat) := by omega
  have after : 1 - decimalOrder interval.value interval.den = -(place + (16 : Nat)) := by omega
  rw [before, after] at order
  have fine := scale_of_shifted place 16 order
  generalize isStep : interval.den * 10 ^ place.toNat = step at fine
  generalize isScale : 10 ^ (-place).toNat = scale at fine
  have someScale : 0 < scale := isScale ▸ Nat.pow_pos (by decide)
  have wide : 0 < up * scale := Nat.mul_pos someUp someScale
  rw [isValue, Nat.mul_assoc, Nat.mul_assoc] at fine
  have most := Nat.mul_le_mul_right (up * scale) (Nat.le_of_lt_succ fits)
  have fineAbove : step < 2 * (2 * up) * scale := by
    rw [Nat.mul_assoc, Nat.mul_assoc]
    omega
  have isAbove : interval.value + 2 * up = interval.high := by rw [isValue, isHigh, Nat.add_mul]
  -- Just above a power of two the interval ends earlier below, but there the significand is the
  -- least one.
  obtain ⟨less, isBelow, fineBelow⟩ :
      ∃ less, interval.low + less * up = interval.value ∧ step < 2 * (less * up) * scale := by
    by_cases narrow : significand = Nat.pow 2 52 ∧ leastExponent < exponent
    · rw [if_pos narrow] at isLow
      refine ⟨1, ?_, ?_⟩
      · rw [isLow, isValue, ← Nat.add_mul]
        congr 1
        omega
      · have least : significand = 2 ^ 52 := narrow.1
        rw [least] at fine
        rw [Nat.mul_assoc, Nat.mul_assoc]
        omega
    · rw [if_neg narrow] at isLow
      refine ⟨2, ?_, fineAbove⟩
      rw [isLow, isValue, ← Nat.add_mul]
      congr 1
      omega
  subst isStep isScale
  exact ⟨_, Rounding.onGrid?_of_holds
    (Rounding.holds_near someDen (Nat.le_of_eq isBelow) (Nat.le_of_eq isAbove) fineBelow fineAbove)⟩

/-- The search for digits ends with those of a number other than zero if
one of its grids has a point that reads back. -/
theorem pos_of_firstGrid {significand : Nat} (positive : 0 < significand) {exponent order : Int}
    {tries count last : Nat} (ahead : count ≤ last) (within : last < count + tries)
    (reads : ∃ digits, (rounding significand exponent).onGrid? (order - last) = some digits) :
    0 < ((rounding significand exponent).firstGrid order tries count).1 := by
  induction tries generalizing count with
  | zero => omega
  | succ tries ih =>
      rw [Rounding.firstGrid]
      split
      · rename_i digits found
        exact pos_of_holds positive (holds_of_onGrid? found)
      · rename_i none
        have later : count ≠ last := by
          rintro rfl
          obtain ⟨digits, found⟩ := reads
          rw [Int.ofNat_eq_natCast, found] at none
          cases none
        exact ih (by omega) (by omega)

theorem trimZeros_cons {first : Char} (notZero : first ≠ '0') (rest : List Char) :
    ∃ others, trimZeros (first :: rest) = first :: others ∧ others ⊆ rest := by
  have keeps : List.dropWhile (· == '0') [first] = [first] :=
    List.dropWhile_cons_of_neg (by rw [beq_iff_eq]; exact notZero)
  unfold trimZeros
  rw [List.reverse_cons, List.dropWhile_append, keeps]
  split
  · exact ⟨[], rfl, List.nil_subset _⟩
  · refine ⟨(rest.reverse.dropWhile (· == '0')).reverse, by rw [List.reverse_append]; rfl, ?_⟩
    intro c member
    exact List.mem_reverse.mp ((List.dropWhile_sublist _).subset (List.mem_reverse.mp member))

open Json.Grammar

inductive AreLeading : List Char → Prop
  | mk {first : Char} {rest : List Char} : first.isDigit = true → first ≠ '0' → AreDigits rest →
      AreLeading (first :: rest)

theorem areLeading_decimalDigits {n : Nat} (positive : 0 < n) : AreLeading (decimalDigits n) := by
  cases digits : decimalDigits n with
  | nil => exact absurd digits Nat.toDigits_ne_nil
  | cons first rest =>
      have each : ∀ c ∈ first :: rest, c.isDigit = true := digits ▸ Json.isDigit_of_mem_toDigits
      obtain ⟨isDigit, others⟩ := List.forall_mem_cons.mp each
      refine .mk isDigit ?_ others
      rintro rfl
      exact Json.head_toDigits_ne positive rest digits

theorem AreLeading.trimZeros {digits : List Char} (leading : AreLeading digits) :
    AreLeading (trimZeros digits) := by
  cases leading with
  | mk isDigit notZero others =>
      obtain ⟨kept, same, subset⟩ := trimZeros_cons notZero _
      rw [same]
      exact .mk isDigit notZero fun c member => others c (subset member)

theorem areLeading_shortest {significand : Nat} (positive : 0 < significand)
    (fits : significand < 2 ^ 53) (exponent : Int) :
    AreLeading (shortest significand exponent).1 := by
  have found := pos_of_firstGrid positive (by decide : 1 ≤ 17) (by decide : 17 < 1 + 17)
    (exists_onGrid? positive fits exponent)
  exact (areLeading_decimalDigits found).trimZeros

theorem areDigits_replicate (count : Nat) : AreDigits (List.replicate count '0') := by
  intro c member
  rw [List.eq_of_mem_replicate member]
  rfl

theorem areDigits_append {digits others : List Char} (left : AreDigits digits)
    (right : AreDigits others) :
    AreDigits (digits ++ others) := List.forall_mem_append.mpr ⟨left, right⟩

theorem areDigits_padZeros (width n : Nat) :
    padZeros width n ≠ [] ∧ AreDigits (padZeros width n) := by
  constructor
  · intro none
    exact Nat.toDigits_ne_nil (List.append_eq_nil_iff.mp none).2
  · exact areDigits_append (areDigits_replicate _) Json.isDigit_of_mem_toDigits

/-- Digits are laid out as a whole part, a fraction and an exponent. -/
theorem exists_layout {digits : List Char} (leading : AreLeading digits) (point : Int) :
    ∃ whole fraction exponent, IsWhole whole ∧ IsFraction fraction ∧ IsExponent exponent ∧
      layout digits point = whole ++ (fraction ++ exponent) := by
  cases leading with
  | @mk first rest isDigit notZero others =>
      have all : AreDigits (first :: rest) := List.forall_mem_cons.mpr ⟨isDigit, others⟩
      unfold layout
      split
      · split
        · refine ⟨['0'], '.' :: (List.replicate (-point).toNat '0' ++ (first :: rest)), [], .zero,
            .digits ?_ (areDigits_append (areDigits_replicate _) all), .absent, ?_⟩
          · exact List.append_ne_nil_of_right_ne_nil _ (List.cons_ne_nil _ _)
          · rw [List.append_nil, List.append_assoc]
            rfl
        · rename_i above
          obtain ⟨before, isBefore⟩ : ∃ before, point.toNat = before + 1 :=
            ⟨point.toNat - 1, by omega⟩
          dsimp only
          rw [isBefore, List.take_succ_cons, List.drop_succ_cons]
          have kept : AreDigits (rest.take before) := fun c member =>
            others c (List.mem_of_mem_take member)
          refine ⟨first :: (rest.take before ++ List.replicate
            (before + 1 - (first :: rest).length) '0'),
            '.' :: (if (rest.drop before).isEmpty then ['0'] else rest.drop before),
            [], .many isDigit notZero (areDigits_append kept (areDigits_replicate _)),
            .digits ?_ ?_, .absent, ?_⟩
          · split
            · exact List.cons_ne_nil _ _
            · rename_i some
              exact fun none => some (List.isEmpty_iff.mpr none)
          · split
            · exact areDigits_replicate 1
            · exact fun c member => others c (List.mem_of_mem_drop member)
          · simp
      · dsimp only
        have exponent : IsExponent
            (['e', if point - 1 < 0 then '-' else '+'] ++ padZeros 2 (point - 1).natAbs) := by
          obtain ⟨some, digits⟩ := areDigits_padZeros 2 (point - 1).natAbs
          split
          · exact .digits (Or.inl rfl) (Or.inr (Or.inl rfl)) some digits
          · exact .digits (Or.inl rfl) (Or.inr (Or.inr rfl)) some digits
        have single : IsWhole [first] := .many isDigit notZero (List.forall_mem_nil _)
        cases rest with
        | nil => exact ⟨[first], [], _, single, .absent, exponent, by simp⟩
        | cons second more =>
            exact ⟨[first], '.' :: second :: more, _, single, .digits (List.cons_ne_nil _ _) others,
              exponent, by simp⟩

/-- The numbers of the format: a significand has at most fifty-three binary digits. -/
def IsDouble : Binary64 → Prop
  | finite _ significand exponent =>
      significand < 2 ^ 53 ∧ leastExponent ≤ exponent ∧ exponent ≤ greatestExponent
  | infinite _ => True
  | nan _ => True

/-- The text of a finite number of the format is a number. -/
theorem isNumber_text {number : Binary64} (double : number.IsDouble)
    (isFinite : number.isFinite = true) :
    IsNumber number.text.toList := by
  cases number with
  | infinite _ | nan _ => cases isFinite
  | finite negative significand exponent =>
      obtain ⟨whole, fraction, power, isWhole, isFraction, isExponent, same⟩ :
          ∃ whole fraction power, IsWhole whole ∧ IsFraction fraction ∧ IsExponent power ∧
            (if significand = 0 then ['0', '.', '0'] else layout (shortest significand exponent).1
              (shortest significand exponent).2) = whole ++ (fraction ++ power) := by
        split
        · exact ⟨['0'], ['.', '0'], [], .zero, .digits (List.cons_ne_nil _ _)
            (areDigits_replicate 1), .absent, rfl⟩
        · rename_i some
          exact exists_layout (areLeading_shortest (Nat.pos_of_ne_zero some) double.1 exponent) _
      have shown : (finite negative significand exponent).text.toList =
          (if negative then ['-'] else []) ++ (whole ++ (fraction ++ power)) := by
        rw [← same]
        unfold text
        dsimp only
        rw [String.toList_ofList]
        cases negative <;> rfl
      rw [shown]
      refine .mk ?_ isWhole isFraction isExponent
      cases negative
      · exact Or.inl rfl
      · exact Or.inr rfl

end Binary64

/-! ### Integers -/

open Json.Grammar

theorem isWhole_decimalDigits (n : Nat) : IsWhole (decimalDigits n) := by
  by_cases zero : n = 0
  · rw [zero, decimalDigits, Nat.toDigits_zero]
    exact .zero
  · generalize digits : decimalDigits n = row
    have leading : Binary64.AreLeading row :=
      digits ▸ Binary64.areLeading_decimalDigits (Nat.pos_of_ne_zero zero)
    cases leading with
    | mk isDigit notZero others => exact .many isDigit notZero others

/-- The text of an integer is a number. -/
theorem isNumber_toString (number : Int) : IsNumber (toString number).toList := by
  have unsigned (n : Nat) : decimalDigits n ++ ([] ++ []) = n.repr.toList := by
    rw [List.append_nil, List.append_nil, Nat.toList_repr]
    rfl
  rw [Int.toString_eq_repr, Int.repr_eq_if]
  split
  · rw [← unsigned]
    exact .mk (Or.inl rfl) (isWhole_decimalDigits _) .absent .absent
  · rw [String.toList_append, ← unsigned]
    exact .mk (Or.inr rfl) (isWhole_decimalDigits _) .absent .absent

end TaskGraph
