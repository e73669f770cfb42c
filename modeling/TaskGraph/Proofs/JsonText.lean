import Mathlib.Data.List.Basic
import TaskGraph.Json.Read
import TaskGraph.Json.Write
set_option autoImplicit false

/-! Reading back the texts and numbers of a JSON document: every character between quotes is written
in pieces that join to it again, also if an escape or two have to spell it, and every integer that
can be written is read as itself. -/

namespace TaskGraph

/-! ### Hexadecimal digits -/

theorem hexNumber?_append_singleton (digits : List Char) (c : Char) :
    hexNumber? (digits ++ [c]) = (hexNumber? digits).bind fun n =>
      (hexValue? c).map (16 * n + ·) := by
  rw [hexNumber?, List.foldl_append]
  rfl

theorem hexValue?_digitChar : ∀ n < 16, hexValue? n.digitChar = some n := by decide

theorem hexNumber?_toDigits (n : Nat) : hexNumber? (Nat.toDigits 16 n) = some n := by
  induction n using Nat.strongRecOn with
  | ind n ih =>
      by_cases small : n < 16
      · rw [Nat.toDigits_of_lt_base small]
        change (hexValue? n.digitChar).map (16 * 0 + ·) = some n
        rw [hexValue?_digitChar n small]
        simp
      · rw [Nat.toDigits_of_base_le (by decide) (Nat.not_lt.mp small), hexNumber?_append_singleton,
          ih (n / 16) (by omega), Option.bind_some, hexValue?_digitChar (n % 16)
            (Nat.mod_lt n (by decide)),
          Option.map_some, Nat.div_add_mod]

theorem hexNumber?_replicate_append (count : Nat) (digits : List Char) :
    hexNumber? (List.replicate count '0' ++ digits) = hexNumber? digits := by
  induction count with
  | zero => rfl
  | succ count ih => exact ih

theorem hexNumber?_hexDigits (width n : Nat) : hexNumber? (Text.hexDigits width n) = some n :=
  (hexNumber?_replicate_append _ _).trans (hexNumber?_toDigits n)

theorem length_hexDigits {width n : Nat} (positive : 0 < width) (fits : n < Nat.pow 16 width) :
    (Text.hexDigits width n).length = width := by
  have short := (Nat.length_toDigits_le_iff (by decide) positive).mpr fits
  rw [Text.hexDigits, List.length_append, List.length_replicate]
  omega

namespace Json

/-! ### Characters -/

theorem readPieces_quote (tail : List Char) : readPieces ('"' :: tail) = some ([], tail) := by
  rw [readPieces.eq_def]
  exact if_pos rfl

theorem readPieces_plain {c : Char} (notQuote : c ≠ '"') (notEscape : c ≠ '\\')
    (shown : ¬c.toNat < 0x20) (more : List Char) :
    readPieces (c :: more) = (readPieces more).map fun found => (.char c :: found.1, found.2) := by
  rw [readPieces.eq_def]
  dsimp only
  rw [if_neg notQuote, if_neg notEscape, if_neg shown]
  cases readPieces more <;> rfl

theorem readPieces_escape {e c : Char} (notUnit : e ≠ 'u') (meant : escaped? e = some c)
    (more : List Char) :
    readPieces ('\\' :: e :: more) = (readPieces more).map fun found =>
      (.char c :: found.1, found.2) := by
  rw [readPieces.eq_def]
  dsimp only
  rw [if_neg (by decide), if_pos rfl]
  split
  · rename_i same
    exact absurd (List.cons.inj same).1 notUnit
  · rename_i found others _ same
    obtain ⟨sameChar, sameRest⟩ := List.cons.inj same
    rw [← sameChar, ← sameRest, meant]
    cases readPieces more <;> rfl
  · rename_i same
    cases same

theorem readPieces_unitEscape {unit : Nat} (fits : unit < 0x10000) (more : List Char) :
    readPieces (unitEscape unit ++ more) = (readPieces more).map fun found =>
      (.unit unit :: found.1, found.2) := by
  have spelled := hexNumber?_hexDigits 4 unit
  have width : (Text.hexDigits 4 unit).length = 4 := length_hexDigits (by decide) fits
  unfold unitEscape
  match digits : Text.hexDigits 4 unit with
  | [h₁, h₂, h₃, h₄] =>
      rw [digits] at spelled
      change readPieces ('\\' :: 'u' :: h₁ :: h₂ :: h₃ :: h₄ :: more) = _
      rw [readPieces.eq_def]
      dsimp only
      rw [if_neg (by decide), if_pos rfl]
      simp only [spelled]
      cases readPieces more <;> rfl
  | [] | [_] | [_, _] | [_, _, _] | _ :: _ :: _ :: _ :: _ :: _ =>
      rw [digits] at width
      simp at width

def Spells (written : List Char) (c : Char) : Prop :=
  ∃ pieces, (∀ more, readPieces (written ++ more) = (readPieces more).map fun found =>
    (pieces ++ found.1, found.2)) ∧
    ∀ rest, joinPieces (pieces ++ rest) = (joinPieces rest).map (c :: ·)

theorem spells_plain {c : Char} (notQuote : c ≠ '"') (notEscape : c ≠ '\\')
    (shown : ¬c.toNat < 0x20) :
    Spells [c] c := ⟨[.char c], readPieces_plain notQuote notEscape shown, fun _ => rfl⟩

theorem spells_escape {e c : Char} (notUnit : e ≠ 'u') (meant : escaped? e = some c) :
    Spells ['\\', e] c :=
  ⟨[.char c], readPieces_escape notUnit meant, fun _ => rfl⟩

/-- No character is one half of a pair. -/
theorem toNat_cases (c : Char) : c.toNat < 0xd800 ∨ 0xdfff < c.toNat ∧ c.toNat < 0x110000 := c.valid

theorem spells_unitsEscape (c : Char) : Spells (unitsEscape c) c := by
  have valid := toNat_cases c
  have same : Char.ofNat c.toNat = c := Char.ofNat_toNat c
  unfold unitsEscape
  dsimp only
  split
  · rename_i small
    refine ⟨[.unit c.toNat], readPieces_unitEscape (by omega), fun rest => ?_⟩
    have notHigh : ¬(0xd800 ≤ c.toNat ∧ c.toNat < 0xdc00) := by omega
    have notLow : ¬(0xdc00 ≤ c.toNat ∧ c.toNat < 0xe000) := by omega
    rw [List.singleton_append, joinPieces.eq_def]
    dsimp only
    rw [if_neg notHigh, if_neg notLow, same]
  · rename_i large
    -- The two code units of a character above the first 65536.
    generalize isHigh : 0xd800 + (c.toNat - 0x10000) / 0x400 = high
    generalize isLow : 0xdc00 + (c.toNat - 0x10000) % 0x400 = low
    have highBounds : 0xd800 ≤ high ∧ high < 0xdc00 := by omega
    have lowBounds : 0xdc00 ≤ low ∧ low < 0xe000 := by omega
    have joined : 0x10000 + (high - 0xd800) * 0x400 + (low - 0xdc00) = c.toNat := by omega
    refine ⟨[.unit high, .unit low], fun more => ?_, fun rest => ?_⟩
    · rw [List.append_assoc, readPieces_unitEscape (by omega), readPieces_unitEscape (by omega),
        Option.map_map]
      rfl
    · change joinPieces (.unit high :: .unit low :: rest) = _
      rw [joinPieces, if_pos highBounds, if_pos lowBounds, joined, same]

theorem spells_writeChar (ascii : Bool) (c : Char) : Spells (writeChar ascii c) c := by
  have escape {e meant : Char} (isMeant : c = meant) (notUnit : e ≠ 'u')
      (stands : escaped? e = some meant) :
      Spells ['\\', e] c := isMeant ▸ spells_escape notUnit stands
  unfold writeChar
  split
  · exact escape ‹_› (by decide) rfl
  · rename_i notQuote
    split
    · exact escape ‹_› (by decide) rfl
    · rename_i notEscape
      split
      · exact escape ‹_› (by decide) rfl
      · split
        · exact escape ‹_› (by decide) rfl
        · split
          · exact escape ‹_› (by decide) rfl
          · split
            · exact escape ‹_› (by decide) rfl
            · split
              · exact escape ‹_› (by decide) rfl
              · split
                · exact spells_unitsEscape c
                · rename_i shown
                  exact spells_plain notQuote notEscape fun hidden => shown (Or.inl hidden)

/-! ### Texts -/

theorem exists_pieces (ascii : Bool) (content tail : List Char) :
    ∃ pieces, readPieces (content.flatMap (writeChar ascii) ++ '"' :: tail) = some (pieces, tail) ∧
      joinPieces pieces = some content := by
  induction content with
  | nil => exact ⟨[], readPieces_quote tail, rfl⟩
  | cons c rest ih =>
      obtain ⟨pieces, read, joined⟩ := ih
      obtain ⟨first, reads, joins⟩ := spells_writeChar ascii c
      refine ⟨first ++ pieces, ?_, ?_⟩
      · rw [List.flatMap_cons, List.append_assoc, reads, read]
        rfl
      · rw [joins, joined]
        rfl

/-- A text is read from between its quotes as it was written. -/
theorem readText_writeText (ascii : Bool) (content : String) (tail : List Char) :
    ∃ quoted, writeText ascii content ++ tail = '"' :: quoted ∧
      readText quoted = .ok (content, tail) := by
  obtain ⟨pieces, read, joined⟩ := exists_pieces ascii content.toList tail
  refine ⟨content.toList.flatMap (writeChar ascii) ++ '"' :: tail, ?_, ?_⟩
  · simp [writeText]
  · rw [readText, read]
    dsimp only
    rw [joined]
    dsimp only
    rw [String.ofList_toList]

/-! ### Integers -/

/-- Whether a number ends before a text: the text does not go on with what a number can hold. -/
def EndsNumber (tail : List Char) : Prop :=
  ∀ c rest, tail = c :: rest → c.isDigit = false ∧ c ≠ '.' ∧ c ≠ 'e' ∧ c ≠ 'E'

theorem splitFraction_of_ends {tail : List Char} (ends : EndsNumber tail) :
    splitFraction tail = ([], tail) := by
  unfold splitFraction
  split
  · exact absurd rfl (ends _ _ rfl).2.1
  · rfl

theorem splitExponent_of_ends {tail : List Char} (ends : EndsNumber tail) :
    splitExponent tail = ([], tail) := by
  unfold splitExponent
  split
  · rfl
  · rename_i c rest
    obtain ⟨_, _, small, capital⟩ := ends c rest rfl
    rw [if_neg (not_or.mpr ⟨small, capital⟩)]

theorem takeWhile_of_ends {tail : List Char} (ends : EndsNumber tail) :
    tail.takeWhile Char.isDigit = [] ∧ tail.dropWhile Char.isDigit = tail := by
  cases tail with
  | nil => exact ⟨rfl, rfl⟩
  | cons c rest =>
      have notDigit : ¬c.isDigit = true := Bool.eq_false_iff.mp (ends c rest rfl).1
      exact ⟨List.takeWhile_cons_of_neg notDigit, List.dropWhile_cons_of_neg notDigit⟩

theorem isDigit_of_mem_toDigits {n : Nat} : ∀ c ∈ Nat.toDigits 10 n, c.isDigit = true :=
  fun _ member => Nat.isDigit_of_mem_toDigits (by decide) (by decide) member

theorem head_toDigits_ne {n : Nat} (positive : 0 < n) (rest : List Char) :
    Nat.toDigits 10 n ≠ '0' :: rest := by
  induction n using Nat.strongRecOn generalizing rest with
  | ind n ih =>
      by_cases small : n < 10
      · rw [Nat.toDigits_of_lt_base small]
        intro same
        have zero := Nat.digitChar_eq_zero.mp (List.cons.inj same).1
        omega
      · rw [Nat.toDigits_of_base_le (by decide) (Nat.not_lt.mp small)]
        intro same
        cases front : Nat.toDigits 10 (n / 10) with
        | nil => exact Nat.toDigits_ne_nil front
        | cons first others =>
            rw [front] at same
            have isZero := (List.cons.inj same).1
            exact ih (n / 10) (by omega) (by omega) others (isZero ▸ front)

theorem splitWhole_toDigits (n : Nat) {tail : List Char} (ends : EndsNumber tail) :
    splitWhole (Nat.toDigits 10 n ++ tail) = (Nat.toDigits 10 n, tail) := by
  by_cases zero : n = 0
  · rw [zero, Nat.toDigits_zero]
    rfl
  · unfold splitWhole
    split
    · rename_i rest same
      cases digits : Nat.toDigits 10 n with
      | nil => exact absurd digits Nat.toDigits_ne_nil
      | cons first others =>
          rw [digits] at same
          exact absurd ((List.cons.inj same).1 ▸ digits)
            (head_toDigits_ne (Nat.pos_of_ne_zero zero) others)
    · obtain ⟨taken, left⟩ := takeWhile_of_ends ends
      rw [List.takeWhile_append_of_pos isDigit_of_mem_toDigits,
        List.dropWhile_append_of_pos isDigit_of_mem_toDigits, taken, left, List.append_nil]

theorem decimalValue_toDigits (n : Nat) : decimalValue (Nat.toDigits 10 n) = n := by
  have same : decimalValue (Nat.toDigits 10 n) = Nat.ofDigitChars 10 (Nat.toDigits 10 n) 0 := by
    rw [decimalValue, Nat.ofDigitChars_eq_foldl]
    refine List.foldl_ext _ _ _ fun value c member => ?_
    rw [if_pos (isDigit_of_mem_toDigits c member)]
  rw [same, Nat.ofDigitChars_ten_toDigits]

theorem length_toDigits_of_isWritable {number : Int} (writable : isWritable number = true) :
    (Nat.toDigits 10 number.natAbs).length ≤ mostDigits := by
  have positive : 0 < mostDigits := by decide
  rw [isWritable, decide_eq_true_iff] at writable
  generalize mostDigits = most at positive writable ⊢
  exact (Nat.length_toDigits_le_iff (by decide) positive).mpr writable

theorem readNumber_toDigits (negative : Bool) {n : Nat}
    (short : (Nat.toDigits 10 n).length ≤ mostDigits) {tail : List Char} (ends : EndsNumber tail) :
    readNumber negative (Nat.toDigits 10 n ++ tail) =
      .ok (int (if negative then -Int.ofNat n else Int.ofNat n), tail) := by
  have nonempty : (Nat.toDigits 10 n).isEmpty = false := by
    rw [List.isEmpty_eq_false_iff]
    exact Nat.toDigits_ne_nil
  unfold readNumber
  rw [splitWhole_toDigits n ends]
  dsimp only
  rw [splitFraction_of_ends ends]
  dsimp only
  rw [splitExponent_of_ends ends]
  dsimp only
  rw [nonempty, if_neg Bool.false_ne_true, List.isEmpty_nil, Bool.and_self, if_pos rfl,
    if_neg (Nat.not_lt.mpr short), decimalValue_toDigits]

theorem readScalar_digits {c : Char} (isDigit : c.isDigit = true) (rest : List Char) :
    readScalar (c :: rest) = readNumber false (c :: rest) ∧
      readScalar ('-' :: c :: rest) = readNumber true (c :: rest) := by
  have differs (other : Char) (notDigit : other.isDigit = false) : c ≠ other := by
    rintro rfl
    rw [isDigit] at notDigit
    cases notDigit
  constructor
  · unfold readScalar
    split <;> first | rfl | exact absurd (List.cons.inj ‹_›).1 (differs _ rfl)
  · unfold readScalar
    split
    · exact absurd (List.cons.inj ‹_›).1 (by decide)
    · exact absurd (List.cons.inj ‹_›).1 (by decide)
    · exact absurd (List.cons.inj ‹_›).1 (by decide)
    · exact absurd (List.cons.inj ‹_›).1 (by decide)
    · exact absurd (List.cons.inj ‹_›).1 (by decide)
    · exact absurd (List.cons.inj (List.cons.inj ‹_›).2).1 (differs _ rfl)
    · rename_i same
      rw [(List.cons.inj same).2]
    · rename_i unmatched
      exact absurd rfl (unmatched _)

/-- An integer that can be written is read as it was written. -/
theorem readScalar_int {number : Int} (writable : isWritable number = true) {tail : List Char}
    (ends : EndsNumber tail) :
    readScalar ((toString number).toList ++ tail) = .ok (int number, tail) := by
  have read (negative : Bool) :=
    readNumber_toDigits negative (length_toDigits_of_isWritable writable) ends
  obtain ⟨c, rest, digits⟩ :=
    List.exists_cons_of_ne_nil (Nat.toDigits_ne_nil : Nat.toDigits 10 number.natAbs ≠ [])
  obtain ⟨unsigned, signed⟩ :=
    readScalar_digits (isDigit_of_mem_toDigits c (digits ▸ List.mem_cons_self)) (rest ++ tail)
  rw [digits, List.cons_append] at read
  rw [Int.toString_eq_repr, Int.repr_eq_if]
  by_cases notNegative : 0 ≤ number
  · have size : number.toNat = number.natAbs := by omega
    have same : Int.ofNat number.natAbs = number := Int.natAbs_of_nonneg notNegative
    rw [if_pos notNegative, size, Nat.toList_repr, digits, List.cons_append, unsigned, read false,
      if_neg Bool.false_ne_true, same]
  · have size : (-number).toNat = number.natAbs := by omega
    have same : -Int.ofNat number.natAbs = number := by
      rw [Int.ofNat_eq_natCast]
      omega
    rw [if_neg notNegative, String.toList_append, size, Nat.toList_repr, digits]
    change readScalar ('-' :: c :: (rest ++ tail)) = _
    rw [signed, read true, if_pos rfl, same]

end Json
end TaskGraph
