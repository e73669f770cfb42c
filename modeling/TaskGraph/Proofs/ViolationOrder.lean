import TaskGraph.Proofs.Findings
import TaskGraph.Schema.Compiled
set_option autoImplicit false

/-! The order of the lines that report violations. They are sorted by the texts of their places, so
of two tasks the one whose position is spelled first in the alphabet comes first: positions are
compared digit by digit from the left, not as numbers. -/

namespace TaskGraph.Schema

/-! ### Digits in alphabetical order -/

theorem lex_append_append {left right : List Char} (ordered : List.Lex (· < ·) left right)
    (same : left.length = right.length) (first second : List Char) :
    List.Lex (· < ·) (left ++ first) (right ++ second) := by
  induction ordered with
  | nil => cases same
  | rel smaller => exact .rel smaller
  | cons _ ih => exact .cons (ih (Nat.succ.inj same))

theorem digitChar_lt_digitChar {first second : Nat} (ordered : first < second)
    (digit : second < 10) :
    first.digitChar < second.digitChar := by
  rw [Char.lt_def, UInt32.lt_iff_toNat_lt]
  change first.digitChar.toNat < second.digitChar.toNat
  rw [Nat.toNat_digitChar_of_lt_ten (by omega), Nat.toNat_digitChar_of_lt_ten digit]
  omega

/-- Numbers with equally many digits are in alphabetical order. -/
theorem lex_toDigits {first second : Nat} (ordered : first < second)
    (same : (Nat.toDigits 10 first).length = (Nat.toDigits 10 second).length) :
    List.Lex (· < ·) (Nat.toDigits 10 first) (Nat.toDigits 10 second) := by
  induction second using Nat.strongRecOn generalizing first with
  | ind second ih =>
      rcases Nat.lt_or_ge second 10 with digit | several
      · rw [Nat.toDigits_of_lt_base digit, Nat.toDigits_of_lt_base (Nat.lt_trans ordered digit)]
        exact .rel (digitChar_lt_digitChar ordered digit)
      · have alsoSeveral : 10 ≤ first := by
          by_contra digit
          rw [Nat.toDigits_of_lt_base (Nat.not_le.mp digit),
            Nat.toDigits_of_base_le (by decide) several, List.length_append] at same
          have positive : 0 < (Nat.toDigits 10 (second / 10)).length := Nat.length_toDigits_pos
          simp only [List.length_singleton] at same
          omega
        rw [Nat.toDigits_of_base_le (by decide) several,
          Nat.toDigits_of_base_le (by decide) alsoSeveral] at same ⊢
        rw [List.length_append, List.length_append, List.length_singleton,
          List.length_singleton] at same
        -- The digits before the last one decide, unless they are the same.
        rcases Nat.lt_or_eq_of_le (Nat.div_le_div_right (c := 10) ordered.le) with smaller | equal
        · exact lex_append_append (ih _ (by omega) smaller (by omega)) (by omega) _ _
        · rw [equal]
          exact List.Lex.append_left _
            (.rel (digitChar_lt_digitChar (by omega) (Nat.mod_lt _ (by decide)))) _

theorem exists_toDigits_eq_append {number cut : Nat}
    (short : cut < (Nat.toDigits 10 number).length) :
    ∃ rest, rest.length = cut ∧ Nat.toDigits 10 number = Nat.toDigits 10
      (number / 10 ^ cut) ++ rest := by
  induction cut generalizing number with
  | zero => exact ⟨[], rfl, by simp⟩
  | succ cut ih =>
      have several : 10 ≤ number := by
        by_contra digit
        rw [Nat.toDigits_of_lt_base (Nat.not_le.mp digit), List.length_singleton] at short
        omega
      rw [Nat.toDigits_of_base_le (by decide) several, List.length_append,
        List.length_singleton] at short
      obtain ⟨rest, length, split⟩ := ih (Nat.lt_of_succ_lt_succ short)
      refine ⟨rest ++ [(number % 10).digitChar], by rw [List.length_append, length]; rfl, ?_⟩
      rw [Nat.toDigits_of_base_le (by decide) several, split, List.append_assoc,
        Nat.div_div_eq_div_mul, Nat.pow_succ, Nat.mul_comm]

theorem length_toDigits_le {first second : Nat} (ordered : first ≤ second) :
    (Nat.toDigits 10 first).length ≤ (Nat.toDigits 10 second).length := by
  rw [Nat.length_toDigits_le_iff (by decide) Nat.length_toDigits_pos]
  exact Nat.lt_of_le_of_lt ordered
    ((Nat.length_toDigits_le_iff (by decide) Nat.length_toDigits_pos).mp (Nat.le_refl _))

/-- The number that the first digits of a number spell, as many of them as another number has. -/
def leading (like number : Nat) : Nat :=
  number / 10 ^ ((Nat.toDigits 10 number).length - (Nat.toDigits 10 like).length)

section

variable {first second : Nat} (before : first < second)
include before

theorem exists_toDigits_eq_leading :
    ∃ rest, Nat.toDigits 10 second = Nat.toDigits 10 (leading first second) ++ rest ∧
      (Nat.toDigits 10 (leading first second)).length = (Nat.toDigits 10 first).length := by
  have longer := length_toDigits_le before.le
  have positive : 0 < (Nat.toDigits 10 first).length := Nat.length_toDigits_pos
  have short : (Nat.toDigits 10 second).length - (Nat.toDigits 10 first).length <
      (Nat.toDigits 10 second).length := by
    omega
  obtain ⟨rest, length, split⟩ := exists_toDigits_eq_append short
  have whole := congrArg List.length split
  rw [List.length_append, length] at whole
  refine ⟨rest, split, ?_⟩
  rw [leading]
  omega

/-- A position before what the first digits of a later one spell comes first in the alphabet. -/
theorem lex_of_lt_leading (smaller : first < leading first second) (left right : List Char) :
    List.Lex (· < ·) (Nat.toDigits 10 first ++ ']' :: left)
      (Nat.toDigits 10 second ++ ']' :: right) := by
  obtain ⟨rest, split, same⟩ := exists_toDigits_eq_leading before
  rw [split, List.append_assoc]
  exact lex_append_append (lex_toDigits smaller same.symm) same.symm _ _

/-- Otherwise it comes later, as a digit comes before the bracket that ends a position. -/
theorem lex_of_leading_le (notSmaller : leading first second ≤ first) (left right : List Char) :
    List.Lex (· < ·) (Nat.toDigits 10 second ++ ']' :: right)
      (Nat.toDigits 10 first ++ ']' :: left) := by
  obtain ⟨rest, split, same⟩ := exists_toDigits_eq_leading before
  rw [split, List.append_assoc]
  rcases Nat.lt_or_eq_of_le notSmaller with smaller | equal
  · exact lex_append_append (lex_toDigits smaller same) same _ _
  · rw [equal] at split ⊢
    refine List.Lex.append_left _ ?_ _
    -- The later position has more digits, or it would be the same.
    cases rest with
    | nil =>
        rw [List.append_nil] at split
        have back := congrArg (Nat.ofDigitChars 10 · 0) split
        simp only [Nat.ofDigitChars_ten_toDigits] at back
        omega
    | cons digit others =>
        have isDigit : digit.isDigit = true := by
          refine Nat.isDigit_of_mem_toDigits (b := 10) (n := second) (by decide) (by decide) ?_
          rw [split]
          exact List.mem_append_right _ List.mem_cons_self
        refine .rel ?_
        rw [Char.isDigit, Bool.and_eq_true, decide_eq_true_iff, decide_eq_true_iff] at isDigit
        exact lt_of_le_of_lt isDigit.2 (by decide)

end

/-! ### Lines -/

/-- Whether a line reports something in the task at a position. -/
def IsWithinTask (position : Nat) (line : String) : Prop :=
  ("$.tasks[" ++ toString position ++ "]").toList <+: line.toList

instance (position : Nat) (line : String) : Decidable (IsWithinTask position line) :=
  inferInstanceAs (Decidable (_ <+: _))

theorem prefix_of_prefix_append {first place rest : List Char} {mark : Char}
    (starts : first <+: place ++ mark :: rest) (free : mark ∉ first) : first <+: place := by
  rcases List.prefix_or_prefix_of_prefix starts (List.prefix_append place (mark :: rest))
    with within | beyond
  · exact within
  · obtain ⟨others, split⟩ := beyond
    cases others with
    | nil =>
        have same : place = first := (List.append_nil place).symm.trans split
        exact same ▸ List.prefix_refl place
    | cons head others =>
        rw [← split, List.prefix_append_right_inj] at starts
        obtain ⟨isMark, _⟩ := List.cons_prefix_cons.mp starts
        rw [← split, isMark] at free
        exact absurd (List.mem_append_right _ List.mem_cons_self) free

theorem toList_position (position : Nat) :
    ("$.tasks[" ++ toString position ++ "]").toList = "$.tasks[".toList ++
      (Nat.toDigits 10 position ++ [']']) := by
  have digits : (toString position).toList = Nat.toDigits 10 position := Nat.toList_repr
  rw [String.toList_append, String.toList_append, digits, List.append_assoc]
  rfl

/-- What a line reports within a task has a place that says so, as
the words of the line stand behind a colon. -/
theorem exists_place_eq {position : Nat} {finding : Finding}
    (within : IsWithinTask position finding.line) :
    ∃ rest, finding.place.toList = "$.tasks[".toList ++
      (Nat.toDigits 10 position ++ ']' :: rest) := by
  have free : ':' ∉ "$.tasks[".toList ++ (Nat.toDigits 10 position ++ [']']) := by
    intro member
    rcases List.mem_append.mp member with here | later
    · exact absurd here (by decide)
    · rcases List.mem_append.mp later with digit | bracket
      · exact absurd (Nat.isDigit_of_mem_toDigits (by decide) (by decide) digit) (by decide)
      · exact absurd bracket (by decide)
  have isLine : finding.line.toList = finding.place.toList ++ ':' ::
      (' ' :: finding.message.toList) := by
    rw [Finding.line, String.toList_append, String.toList_append, List.append_assoc]
    rfl
  rw [IsWithinTask, toList_position, isLine] at within
  obtain ⟨rest, whole⟩ := prefix_of_prefix_append within free
  refine ⟨rest, ?_⟩
  rw [← whole, List.append_assoc, List.append_assoc]
  rfl

/-- Of two findings in different tasks the one whose position comes
first in the alphabet has the lesser place. -/
theorem place_lt_place {i j : Nat} (before : i < j) {first second : Finding}
    (inFirst : IsWithinTask i first.line) (inSecond : IsWithinTask j second.line) :
    (i < leading i j → first.place < second.place) ∧
      (leading i j ≤ i → second.place < first.place) := by
  obtain ⟨left, isLeft⟩ := exists_place_eq inFirst
  obtain ⟨right, isRight⟩ := exists_place_eq inSecond
  rw [String.lt_iff_toList_lt, String.lt_iff_toList_lt, isLeft, isRight]
  constructor
  · intro smaller
    exact List.Lex.append_left _ (lex_of_lt_leading before smaller left right) _
  · intro notSmaller
    exact List.Lex.append_left _ (lex_of_leading_le before notSmaller left right) _

theorem isWithinTask_unique {i j : Nat} {finding : Finding} (first : IsWithinTask i finding.line)
    (second : IsWithinTask j finding.line) : i = j := by
  have not_before {lower upper : Nat} (below : IsWithinTask lower finding.line)
      (above : IsWithinTask upper finding.line) : ¬lower < upper := by
    intro before
    obtain ⟨earlier, later⟩ := place_lt_place before below above
    rcases Nat.lt_or_ge lower (leading lower upper) with smaller | notSmaller
    · exact lt_irrefl _ (earlier smaller)
    · exact lt_irrefl _ (later notSmaller)
  have least := not_before first second
  have greatest := not_before second first
  omega

/-- The line of a violation is within the task that the way to the violation leads through. -/
theorem isWithinTask_line_iff {position : Nat} {rest : List Step} {message : String}
    {finding : Finding} (reported : Finding.ofViolation
      ⟨.key (.text "tasks") :: .index position :: rest, message⟩ = .ok finding) (i : Nat) :
    IsWithinTask i finding.line ↔ i = position := by
  have within : IsWithinTask position finding.line := by
    have key : Step.text (.key (.text "tasks")) = .ok ".tasks" := rfl
    unfold Finding.ofViolation Violation.pathText at reported
    rw [Violation.stepsText, key, Violation.stepsText] at reported
    cases others : Violation.stepsText rest with
    | error fault =>
        rw [others] at reported
        cases reported
    | ok content =>
        rw [others] at reported
        cases reported
        refine ⟨content.toList ++ ": ".toList ++ message.toList, ?_⟩
        simp [Finding.line, String.toList_append]
  constructor
  · exact fun also => isWithinTask_unique also within
  · exact fun same => same ▸ within

theorem exists_lines_eq {value schema : Value} {error : Error}
    (violated : validate value schema = .error (.violated error)) :
    ∃ found, error.lines = (Finding.sort found).map Finding.line := by
  unfold validate findings at violated
  split at violated
  · cases violated
  · cases violated
  · rename_i found _ isFound
    split at isFound
    · cases isFound
    · dsimp only at isFound
      split at isFound
      · cases isFound
      · rename_i violations _
        cases reported : Finding.ofViolations violations with
        | error fault =>
            rw [reported] at isFound
            cases isFound
        | ok rows =>
            rw [reported] at isFound
            refine ⟨rows, ?_⟩
            split at violated
            · cases violated
              exact congrArg (List.map Finding.line) (Except.ok.inj isFound).symm
            · cases violated

/-- In an error of the built-in schema the lines of a task come before those of a later one exactly
if its position is less than what the first digits of the later one spell, as many of them as it has
itself. -/
theorem lines_before_iff {data : Value} {error : Error}
    (violated : validateCompiled data none = .error (.violated error)) {i j p q : Nat}
    (before : i < j) {first second : String} (isFirst : error.lines[p]? = some first)
    (inFirst : IsWithinTask i first) (isSecond : error.lines[q]? = some second)
    (inSecond : IsWithinTask j second) :
    p < q ↔ i < leading i j := by
  obtain ⟨found, isLines⟩ := exists_lines_eq violated
  rw [isLines, List.getElem?_map, Option.map_eq_some_iff] at isFirst isSecond
  obtain ⟨earlier, isEarlier, rfl⟩ := isFirst
  obtain ⟨later, isLater, rfl⟩ := isSecond
  obtain ⟨lesser, greater⟩ := place_lt_place before inFirst inSecond
  have rising {low high : Nat} {lower upper : Finding} (ordered : low < high)
      (isLower : (Finding.sort found)[low]? = some lower)
        (isUpper : (Finding.sort found)[high]? = some upper) :
      lower.place ≤ upper.place := by
    obtain ⟨inside, isLower⟩ := List.getElem?_eq_some_iff.mp isLower
    obtain ⟨within, isUpper⟩ := List.getElem?_eq_some_iff.mp isUpper
    rw [← isLower, ← isUpper]
    exact List.pairwise_iff_getElem.mp (Finding.sort_pairwise found) low high inside within ordered
  constructor
  · intro ordered
    by_contra notSmaller
    exact absurd (greater (Nat.not_lt.mp notSmaller))
      (not_lt.mpr (rising ordered isEarlier isLater))
  · intro smaller
    have different : earlier.place < later.place := lesser smaller
    rcases Nat.lt_trichotomy p q with ordered | same | reversed
    · exact ordered
    · rw [same, isLater] at isEarlier
      rw [Option.some.inj isEarlier] at different
      exact absurd different (lt_irrefl _)
    · exact absurd different (not_lt.mpr (rising reversed isLater isEarlier))

def crowded : Value :=
  .ofFields [("name", .text "crowded"), ("meta", .ofFields []),
    ("tasks", .list (List.replicate 11 .null))]

theorem lines_before_iff_crowded :
    ∃ error first second, validateCompiled crowded none = .error (.violated error) ∧ 1 < 9 ∧
      error.lines[2]? = some first ∧ IsWithinTask 1 first ∧ error.lines[10]? = some second ∧
        IsWithinTask 9 second ∧
        (2 < 10 ↔ 1 < leading 1 9) := by
  obtain ⟨error, violated, isFirst, isSecond⟩ :
      ∃ error, validateCompiled crowded none = .error (.violated error) ∧
      error.lines[2]? = some "$.tasks[1]: None is not of type 'object'" ∧
        error.lines[10]? = some "$.tasks[9]: None is not of type 'object'" := ⟨_, rfl, rfl, rfl⟩
  refine ⟨error, _, _, violated, by decide, isFirst, by decide, isSecond, by decide, ?_⟩
  exact lines_before_iff violated (by decide) isFirst (by decide) isSecond (by decide)

/-- The line of the eleventh task comes before that of the second one. -/
theorem eleventh_before_second :
    ∃ error first second, validateCompiled crowded none = .error (.violated error) ∧
      error.lines[1]? = some first ∧ IsWithinTask 10 first ∧ error.lines[2]? = some second ∧
        IsWithinTask 1 second := by
  obtain ⟨error, violated, isFirst, isSecond⟩ :
      ∃ error, validateCompiled crowded none = .error (.violated error) ∧
      error.lines[1]? = some "$.tasks[10]: None is not of type 'object'" ∧
        error.lines[2]? = some "$.tasks[1]: None is not of type 'object'" := ⟨_, rfl, rfl, rfl⟩
  exact ⟨error, _, _, violated, isFirst, by decide, isSecond, by decide⟩

end TaskGraph.Schema
