import TaskGraph.Text.Lines
set_option autoImplicit false

/-! The margin of a text. Lines that are written behind a common margin of spaces are the same lines
once the margin is removed, if the first of them is not indented any further. -/

namespace TaskGraph.Text

def textOfLines (lines : List (List Char)) : List Char := lines.flatMap (· ++ ['\n'])

def behind (width : Nat) (lines : List (List Char)) : List (List Char) :=
  lines.map (List.replicate width ' ' ++ ·)

/-! ### Lines -/

theorem splitAt_append {separator : Char} {piece : List Char} (absent : separator ∉ piece)
    (rest : List Char) :
    splitAt separator (piece ++ separator :: rest) = piece :: splitAt separator rest := by
  induction piece with
  | nil => exact if_pos rfl
  | cons c others ih =>
      rw [List.mem_cons, not_or] at absent
      rw [List.cons_append, splitAt, if_neg (Ne.symm absent.1), ih absent.2]

theorem splitAt_textOfLines {lines : List (List Char)} (unbroken : ∀ line ∈ lines, '\n' ∉ line) :
    splitAt '\n' (textOfLines lines) = lines ++ [[]] := by
  induction lines with
  | nil => rfl
  | cons line rest ih =>
      obtain ⟨here, later⟩ := List.forall_mem_cons.mp unbroken
      rw [textOfLines] at ih ⊢
      rw [List.flatMap_cons, List.append_assoc, List.singleton_append, splitAt_append here,
        ih later, List.cons_append]

theorem joinWith_feed (lines : List (List Char)) :
    joinWith ['\n'] (lines ++ [[]]) = textOfLines lines := by
  induction lines with
  | nil => rfl
  | cons line rest ih =>
      have more : rest ++ [[]] ≠ [] := List.append_ne_nil_of_right_ne_nil _ (List.cons_ne_nil _ _)
      rw [List.cons_append, joinWith, ih, textOfLines, textOfLines, List.flatMap_cons]
      exact more

/-! ### Margins -/

variable {line : List Char} {lines : List (List Char)}

theorem all_isIndent_replicate (width : Nat) : (List.replicate width ' ').all isIndent = true :=
  List.all_eq_true.mpr fun _ member => List.eq_of_mem_replicate member ▸ rfl

theorem commonStart_append (start rest : List Char) :
    commonStart start (start ++ rest) = start := by
  induction start with
  | nil => cases rest <;> rfl
  | cons c others ih => rw [List.cons_append, commonStart, if_pos rfl, ih]

theorem takeWhile_isIndent_behind (width : Nat) (line : List Char) :
    (List.replicate width ' ' ++ line).takeWhile isIndent = List.replicate width ' ' ++
      line.takeWhile isIndent :=
  List.takeWhile_append_of_pos fun _ member => List.eq_of_mem_replicate member ▸ rfl

theorem all_isIndent_behind (width : Nat) (line : List Char) :
    (List.replicate width ' ' ++ line).all isIndent = line.all isIndent := by
  rw [List.all_append, all_isIndent_replicate, Bool.true_and]

/-- The margin of lines behind a margin, if the first of them is not indented. -/
theorem margin_behind (width : Nat) (first : line.takeWhile isIndent = [])
    (filled : ∀ each ∈ line :: lines, each.all isIndent = false) :
    margin (behind width (line :: lines) ++ [[]]) = List.replicate width ' ' := by
  have kept : (behind width (line :: lines) ++ [[]]).filter (fun each => !each.all isIndent) =
      behind width (line :: lines) := by
    rw [List.filter_append]
    refine (List.append_nil _).trans (List.filter_eq_self.mpr ?_)
    rintro _ member
    obtain ⟨each, inLines, rfl⟩ := List.mem_map.mp member
    rw [all_isIndent_behind, filled each inLines]
    rfl
  -- The first line has only the margin, so this is all that any line can share with it.
  have shared (rest : List (List Char)) :
      ((behind width rest).map (·.takeWhile isIndent)).foldl commonStart
        (List.replicate width ' ') =
        List.replicate width ' ' := by
    induction rest with
    | nil => rfl
    | cons each others ih =>
        rw [behind, List.map_cons, List.map_cons, List.foldl_cons, takeWhile_isIndent_behind,
          commonStart_append]
        exact ih
  have start : (List.replicate width ' ' ++ line).takeWhile isIndent =
      List.replicate width ' ' := by
    rw [takeWhile_isIndent_behind, first, List.append_nil]
  rw [margin, kept, behind, List.map_cons, List.map_cons]
  dsimp only
  rw [start]
  exact shared lines

/-- Removing the margin gives the lines back. -/
theorem dedent_behind (width : Nat) (unbroken : ∀ each ∈ lines, '\n' ∉ each)
    (first : ∀ each ∈ lines.head?, each.takeWhile isIndent = [])
    (filled : ∀ each ∈ lines, each.all isIndent = false) :
    dedent (textOfLines (behind width lines)) = textOfLines lines := by
  cases lines with
  | nil => rfl
  | cons line rest =>
      have pieces : splitAt '\n' (textOfLines (behind width (line :: rest))) = behind width
          (line :: rest) ++ [[]] := by
        refine splitAt_textOfLines (List.forall_mem_map.mpr fun each member inside => ?_)
        rcases List.mem_append.mp inside with space | inLine
        · exact absurd (List.eq_of_mem_replicate space) (by decide)
        · exact unbroken each member inLine
      have freed : (behind width (line :: rest)).map
          (fun each => if each.all isIndent then [] else each.drop width) = line :: rest := by
        rw [behind, List.map_map]
        refine (List.map_congr_left fun each member => ?_).trans (List.map_id _)
        have notBlank : ¬(List.replicate width ' ' ++ each).all isIndent = true := by
          rw [all_isIndent_behind, filled each member]
          exact Bool.false_ne_true
        exact (if_neg notBlank).trans (List.drop_left' (List.length_replicate ..))
      unfold dedent
      dsimp only
      rw [pieces, margin_behind width (first line rfl) filled, List.length_replicate,
        List.map_append, freed]
      exact joinWith_feed (line :: rest)

end TaskGraph.Text
