import TaskGraph.Yaml.Lexer
set_option autoImplicit false

/-! Plain words: scalars without blanks and colons. A place in a text moves over a word by as many
columns as the word has characters, and a plain scalar that is a word ends before the colon of a key
or with its line. -/

namespace TaskGraph.Yaml

/-- Whether a character can stand in a word: it may occur in a
text and is neither blank nor a colon. -/
def inWord (c : Char) : Bool := isAllowed c && !atBlank (some c) && c ≠ ':' && c ≠ byteOrderMark

def opensWord (c : Char) : Bool :=
  inWord c && c ≠ '.' && !"-?:,[]\x7b\x7d#&*!|>'\"%@\x60".toList.contains c

structure PlainWord (word : List Char) : Prop where
  opens : ∃ c rest, word = c :: rest ∧ opensWord c = true
  inside : ∀ c ∈ word, inWord c = true

def BeginsWord (text : List Char) : Prop := ∀ c rest, text = c :: rest → opensWord c = true

theorem inWord_iff (c : Char) :
    inWord c = true ↔ isAllowed c = true ∧ atBlank (some c) = false ∧ c ≠ ':' ∧
      c ≠ byteOrderMark := by
  simp [inWord, and_assoc]

theorem isBreak_of_inWord {c : Char} (inside : inWord c = true) : isBreak c = false := by
  have notBlank := ((inWord_iff c).mp inside).2.1
  rw [atBlank, Bool.or_eq_false_iff] at notBlank
  exact notBlank.2

theorem inWord_of_opensWord {c : Char} (opens : opensWord c = true) : inWord c = true := by
  rw [opensWord, Bool.and_eq_true, Bool.and_eq_true] at opens
  exact opens.1.1

theorem ne_of_opensWord {c d : Char} (opens : opensWord c = true)
    (closed : opensWord d = false) : c ≠ d := by
  rintro rfl
  rw [opens] at closed
  cases closed

theorem BeginsWord.nil : BeginsWord [] := nofun

def Stops (rest : List Char) : Prop := ∀ c more, rest = c :: more → c ≠ ' ' ∧ c ≠ '#' ∧
    isBreak c = false

theorem stops_of_beginsWord {rest : List Char} (begins : BeginsWord rest) : Stops rest :=
  fun c more same =>
  have opens := begins c more same
  ⟨ne_of_opensWord opens (by decide), ne_of_opensWord opens (by decide),
    isBreak_of_inWord (inWord_of_opensWord opens)⟩

theorem stops_colon (rest : List Char) : Stops (':' :: rest) := fun c more same =>
  (List.cons.inj same).1 ▸ by decide

theorem PlainWord.beginsWord {word : List Char} (plain : PlainWord word) (more : List Char) :
    BeginsWord (word ++ more) := by
  obtain ⟨first, others, shape, opens⟩ := plain.opens
  rintro c rest same
  rw [shape, List.cons_append] at same
  exact (List.cons.inj same).1 ▸ opens

theorem PlainWord.length_pos {word : List Char} (plain : PlainWord word) : 0 < word.length := by
  obtain ⟨first, others, shape, _⟩ := plain.opens
  rw [shape]
  exact Nat.succ_pos _

namespace Cursor

/-! ### Places -/

def renumber (place : Cursor) (index line column : Nat) : Cursor :=
  { place with index, line, column }

def before (rest : List Char) (index line column : Nat) : Cursor :=
  (start rest).renumber index line column

variable {c : Char} {word rest : List Char} {index line column : Nat}

theorem next_before (inline : isBreak c = false) (noMark : c ≠ byteOrderMark) :
    (before (c :: rest) index line column).next = before rest (index + 1) line (column + 1) := by
  simp [next, before, renumber, start, inline, noMark]

theorem next_before_feed : (before ('\n' :: rest) index line column).next = before rest
    (index + 1) (line + 1) 0 := by
  simp [next, before, renumber, start, isBreak]

theorem skip_before_word (inside : ∀ c ∈ word, inWord c = true) :
    skip word.length (before (word ++ rest) index line column) =
      before rest (index + word.length) line (column + word.length) := by
  induction word generalizing index column with
  | nil => rfl
  | cons c others ih =>
      obtain ⟨here, later⟩ := List.forall_mem_cons.mp inside
      rw [List.cons_append, List.length_cons, skip, next_before (isBreak_of_inWord here)
        ((inWord_iff c).mp here).2.2.2, ih later, Nat.add_right_comm, Nat.add_right_comm column,
        Nat.add_assoc, Nat.add_assoc column]

theorem takeWhile_eq_nil {test : Char → Bool}
    (stops : ∀ c more, rest = c :: more → test c = false) :
    rest.takeWhile test = [] := by
  cases rest with
  | nil => rfl
  | cons c more => exact List.takeWhile_cons_of_neg (Bool.eq_false_iff.mp (stops c more rfl))

theorem skipWhile_of_not {test : Char → Bool}
    (stops : ∀ c more, rest = c :: more → test c = false) :
    (before rest index line column).skipWhile test = before rest index line column := by
  change skip (rest.takeWhile test).length _ = _
  rw [takeWhile_eq_nil stops]
  rfl

theorem lineBreak?_of_not (stops : ∀ c more, rest = c :: more → isBreak c = false) :
    (before rest index line column).lineBreak? = none := by
  unfold lineBreak? before renumber start
  dsimp only
  split
  · exact absurd (stops _ _ rfl) (by decide)
  · rw [if_neg (Bool.eq_false_iff.mp (stops _ _ rfl))]
  · rfl

theorem lineBreak?_feed :
    (before ('\n' :: rest) index line column).lineBreak? = some
      ('\n', before rest (index + 1) (line + 1) 0) := by
  rw [← next_before_feed]
  rfl

theorem skipSpaces_before (stops : Stops rest) (count : Nat) :
    (before (List.replicate count ' ' ++ rest) index line column).skipSpaces =
      before rest (index + count) line (column + count) := by
  have taken : (List.replicate count ' ' ++ rest).takeWhile (· = ' ') =
      List.replicate count ' ' := by
    rw [List.takeWhile_append_of_pos fun c member => decide_eq_true
      (List.eq_of_mem_replicate member), takeWhile_eq_nil fun c more same =>
        decide_eq_false (stops c more same).1, List.append_nil]
  rw [skipSpaces]
  change skip ((List.replicate count ' ' ++ rest).takeWhile (· = ' ')).length _ = _
  rw [taken, List.length_replicate]
  clear taken
  induction count generalizing index column with
  | zero => rfl
  | succ count ih =>
      rw [List.replicate_succ, List.cons_append, skip, next_before (by decide) (by decide),
        ih, Nat.add_assoc, Nat.add_assoc column, Nat.add_comm 1 count]

end Cursor

/-! ### Plain scalars -/

open Cursor

variable {word rest : List Char} {index line column : Nat}

theorem plainLength_append (inside : ∀ c ∈ word, inWord c = true) :
    plainLength false (word ++ rest) = word.length + plainLength false rest := by
  induction word with
  | nil => exact (Nat.zero_add _).symm
  | cons c others ih =>
      obtain ⟨here, later⟩ := List.forall_mem_cons.mp inside
      obtain ⟨_, notBlank, notColon, _⟩ := (inWord_iff c).mp here
      have goesOn : endsPlain false c (others ++ rest).head? = false := by
        simp [endsPlain, notBlank, notColon]
      rw [List.cons_append, plainLength, goesOn, if_neg Bool.false_ne_true, ih later,
        List.length_cons, Nat.add_right_comm]

theorem plainGap_colon :
    plainGap (before (':' :: rest) index line column) =
      ⟨[], false, before (':' :: rest) index line column⟩ := by
  have stay : (before (':' :: rest) index line column).skipWhile (· = ' ') = before
      (':' :: rest) index line column :=
    skipWhile_of_not fun c more same => (List.cons.inj same).1 ▸ rfl
  have inline : (before (':' :: rest) index line column).lineBreak? = none :=
    lineBreak?_of_not fun c more same => (List.cons.inj same).1 ▸ rfl
  rw [plainGap, takeWhile]
  dsimp only
  rw [stay, inline]
  rfl

/-- Nothing that could go on with a plain scalar begins where a word begins a line. -/
theorem plainBreaks_of_beginsWord (steps : Nat) (begins : BeginsWord rest) :
    plainBreaks steps (before rest index line column) =
      (some ([], before rest index line column), before rest index line column) := by
  cases steps with
  | zero => rfl
  | succ steps =>
      have inline : (before rest index line column).lineBreak? = none :=
        lineBreak?_of_not fun c more same =>
          isBreak_of_inWord (inWord_of_opensWord (begins c more same))
      have notSpace : ¬((before rest index line column).peek == some ' ') = true := by
        cases rest with
        | nil => exact Bool.false_ne_true
        | cons c more =>
            have differs : c ≠ ' ' := ne_of_opensWord (begins c more rfl) (by decide)
            simpa [peek, before, renumber, start] using differs
      rw [plainBreaks, if_neg notSpace, inline]

theorem atMarker_of_beginsWord (begins : BeginsWord rest) :
    (before rest index line column).atMarker = false := by
  cases rest with
  | nil => rfl
  | cons c more =>
      have notDash : c ≠ '-' := ne_of_opensWord (begins c more rfl) (by decide)
      have notPoint : c ≠ '.' := ne_of_opensWord (begins c more rfl) (by decide)
      simp [atMarker, before, renumber, start, notDash, notPoint]

theorem plainGap_feed (begins : BeginsWord rest) :
    plainGap (before ('\n' :: rest) index line column) =
      ⟨[' '], true, before rest (index + 1) (line + 1) 0⟩ := by
  have stay : (before ('\n' :: rest) index line column).skipWhile (· = ' ') = before
      ('\n' :: rest) index line column :=
    skipWhile_of_not fun c more same => (List.cons.inj same).1 ▸ rfl
  rw [plainGap, takeWhile]
  dsimp only
  rw [stay, lineBreak?_feed]
  dsimp only
  rw [atMarker_of_beginsWord begins, plainBreaks_of_beginsWord _ begins]
  rfl

theorem peek_word (plain : PlainWord word) :
    ((before (word ++ rest) index line column).peek == some '#') = false := by
  obtain ⟨c, others, shape, opens⟩ := plain.opens
  have differs : c ≠ '#' := ne_of_opensWord opens (by decide)
  rw [shape]
  simpa [peek, before, renumber, start] using differs

/-- What is read of a plain scalar up to the gap after its first word. -/
theorem plainText_word (plain : PlainWord word) (indent : Int) (steps : Nat)
    (ends : plainLength false rest = 0) {gap : PlainGap}
    (after : plainGap (before rest (index + word.length) line (column + word.length)) = gap)
    (ended : (gap.content.isEmpty || gap.place.peek == some '#' ||
      decide ((gap.place.column : Int) < indent)) = true) :
    plainText false indent (steps + 1) [] (before (word ++ rest) index line column) =
      ⟨word, gap.broken, gap.place⟩ := by
  have length : plainLength false (before (word ++ rest) index line column).rest = word.length := by
    change plainLength false (word ++ rest) = _
    rw [plainLength_append plain.inside, ends, Nat.add_zero]
  have piece : (before (word ++ rest) index line column).rest.take word.length = word :=
    List.take_left
  have notEmpty : word.length ≠ 0 := Nat.ne_of_gt plain.length_pos
  simp only [plainText, length, peek_word plain, notEmpty, decide_false, Bool.or_self,
    if_neg Bool.false_ne_true, skip_before_word plain.inside, after, piece, Bool.not_false,
    Bool.true_and, List.nil_append]
  rw [if_pos ended]

/-- A word before the colon of a key. -/
theorem plainText_key (plain : PlainWord word) (indent : Int) (steps : Nat) {c : Char}
    (blank : atBlank (some c) = true) :
    plainText false indent (steps + 1) [] (before (word ++ ':' :: c :: rest) index line column) =
      ⟨word, false, before (':' :: c :: rest) (index + word.length) line
        (column + word.length)⟩ := by
  have ends : plainLength false (':' :: c :: rest) = 0 := by simp [plainLength, endsPlain, blank]
  exact plainText_word plain indent steps ends plainGap_colon rfl

/-- A word at the end of a line, after which a line begins further out. -/
theorem plainText_line (plain : PlainWord word) {indent : Int} (steps : Nat) (further : 0 < indent)
    (begins : BeginsWord rest) :
    plainText false indent (steps + 1) [] (before (word ++ '\n' :: rest) index line column) =
      ⟨word, true, before rest (index + word.length + 1) (line + 1) 0⟩ := by
  refine plainText_word plain indent steps rfl (plainGap_feed begins) ?_
  simp [before, renumber, start, further]

end TaskGraph.Yaml
