import TaskGraph.Console.Table
import TaskGraph.Proofs.MarkupClosing
set_option autoImplicit false

/-! What is relied on of a console: that it prints markup whose tags settle with nothing wrong in
what they say, and nothing else but markup whose tags settle. A console keeps to this, since no step
between the markup and the lines, and none in a table, puts a style on a character; only one that is
too narrow for any text in a table does not look at the cells. -/

namespace TaskGraph.Console

/-! ### Laws of consoles -/

def Table.IsSettled (fine : Tag → Prop) (table : Table) : Prop :=
  Console.IsSettled fine table.title ∧
    ∀ row ∈ table.rows, ∀ cell ∈ row, Console.IsSettled fine cell

/-- The laws of a console with room for tables of five columns. Between the bounds that they give,
where a tag says something that cannot be read, consoles differ: whether that matters depends on
where the lines end. -/
structure Printer.IsLawful (printer : Printer) : Prop where
  shows : ∀ markup, IsSettled Tag.IsFine markup → ∃ output, printer.line markup = .ok output
  matched : ∀ markup output, printer.line markup = .ok output → IsSettled (fun _ => True) markup
  showsTable : ∀ table : Table, table.IsSettled Tag.IsFine →
    ∃ output, printer.table table = .ok output
  matchedTable : ∀ (table : Table) output, table.columns.length ≤ 5 →
    printer.table table = .ok output → table.IsSettled (fun _ => True)

/-! ### Lines without flaws -/

def AreClean (glyphs : List Glyph) : Prop := ∀ glyph ∈ glyphs, glyph.flawed = false

theorem AreClean.append {front back : List Glyph} (clean : AreClean front)
    (clean' : AreClean back) : AreClean (front ++ back) :=
  List.forall_mem_append.mpr ⟨clean, clean'⟩

theorem areClean_replicate (count : Nat) {glyph : Glyph} (clean : glyph.flawed = false) :
    AreClean (List.replicate count glyph) :=
  fun _ member => List.eq_of_mem_replicate member ▸ clean

theorem areClean_rewrite {glyphs : List Glyph} (clean : AreClean glyphs) (chars : List Char) :
    AreClean (Line.rewrite glyphs chars) := by
  induction chars generalizing glyphs with
  | nil =>
      rw [Line.rewrite]
      exact List.forall_mem_nil _
  | cons c rest ih =>
      cases glyphs with
      | nil => exact List.forall_mem_cons.mpr ⟨rfl, ih (List.forall_mem_nil _)⟩
      | cons glyph glyphs =>
          obtain ⟨first, others⟩ := List.forall_mem_cons.mp clean
          exact List.forall_mem_cons.mpr ⟨first, ih others⟩

theorem areClean_expandGlyphs {glyphs : List Glyph} (clean : AreClean glyphs) (column : Nat) :
    AreClean (expandGlyphs column glyphs) := by
  induction glyphs generalizing column with
  | nil => exact clean
  | cons glyph rest ih =>
      obtain ⟨first, others⟩ := List.forall_mem_cons.mp clean
      rw [expandGlyphs]
      split
      · exact AreClean.append (areClean_replicate _ first) (ih others _)
      · exact List.forall_mem_cons.mpr ⟨first, ih others _⟩

theorem areClean_portions {glyphs : List Glyph} (clean : AreClean glyphs) (gap : Nat)
    (pieces : List (List Char)) : ∀ part ∈ Line.portions gap pieces glyphs, AreClean part := by
  induction pieces generalizing glyphs with
  | nil => exact List.forall_mem_nil _
  | cons piece rest ih =>
      exact List.forall_mem_cons.mpr
        ⟨fun glyph member => clean glyph (List.mem_of_mem_take member),
          ih fun glyph member => clean glyph (List.mem_of_mem_drop member)⟩

namespace Line

structure IsClean (line : Line) : Prop where
  glyphs : AreClean line.glyphs
  hollow : line.hollow = []

theorem IsClean.withChars {line : Line} (clean : line.IsClean) (chars : List Char) :
    (line.withChars chars).IsClean := by
  refine ⟨areClean_rewrite clean.glyphs chars, ?_⟩
  rw [Line.withChars, clean.hollow]
  exact ite_self []

theorem IsClean.divide {line : Line} (clean : line.IsClean) (gap : Nat)
    (pieces : List (List Char)) : ∀ part ∈ line.divide gap pieces, part.IsClean := by
  unfold Line.divide
  split
  · exact List.forall_mem_singleton.mpr clean
  · exact List.forall_mem_map.mpr fun part member =>
      ⟨areClean_portions clean.glyphs gap _ part member, rfl⟩

theorem IsClean.expandTabs {line : Line} (clean : line.IsClean) : line.expandTabs.IsClean := by
  rw [Line.expandTabs]
  split
  · exact ⟨areClean_expandGlyphs clean.glyphs 0, rfl⟩
  · exact clean

theorem IsClean.linesOf {line : Line} (clean : line.IsClean) :
    ∀ part ∈ linesOf line, part.IsClean :=
  List.forall_mem_map.mpr fun _ member => (clean.divide 1 _ _ member).expandTabs

theorem IsClean.cut {line : Line} (clean : line.IsClean) (overflow : Overflow) (width : Nat) :
    (line.cut overflow width).IsClean := by
  unfold Line.cut
  split
  · exact clean
  · split
    · exact clean.withChars _
    · exact clean.withChars _

theorem IsClean.dropOverhang {line : Line} (clean : line.IsClean) (width : Nat) :
    (line.dropOverhang width).IsClean :=
  clean.withChars _

theorem IsClean.wrappedLines {line : Line} (clean : line.IsClean) (overflow : Overflow)
    (width : Nat) : ∀ part ∈ wrappedLines overflow width line, part.IsClean := by
  intro part member
  obtain ⟨whole, isLine, isPart⟩ := List.mem_flatMap.mp member
  obtain ⟨piece, isPiece, rfl⟩ := List.mem_map.mp isPart
  exact ((clean.linesOf whole isLine).divide 0 _ piece isPiece).dropOverhang width

theorem IsClean.align {line : Line} (clean : line.IsClean) (alignment : Alignment)
    (overflow : Overflow) (width : Nat) : (line.align alignment overflow width).IsClean := by
  have blank (count : Nat) : AreClean (List.replicate count ⟨' ', false⟩) :=
    areClean_replicate count rfl
  have trimmed := (clean.withChars (Text.trimSpaceRight line.chars)).cut overflow width
  have whole := clean.cut overflow width
  cases alignment with
  | left => exact ⟨whole.glyphs.append (blank _), whole.hollow⟩
  | right => exact ⟨(blank _).append trimmed.glyphs, trimmed.hollow⟩
  | center => exact ⟨((blank _).append trimmed.glyphs).append (blank _), trimmed.hollow⟩

theorem IsClean.cellLines {line : Line} (clean : line.IsClean) (column : Column) (width : Nat) :
    ∀ part ∈ cellLines column width line, part.IsClean := by
  have framed {part : Line} (clean : part.IsClean) :
      Line.IsClean { part with glyphs := ⟨' ', false⟩ :: part.glyphs ++ [⟨' ', false⟩] } :=
    ⟨AreClean.append (List.forall_mem_cons.mpr ⟨rfl, clean.glyphs⟩)
      (List.forall_mem_singleton.mpr rfl), clean.hollow⟩
  unfold Console.cellLines
  split
  · exact List.forall_mem_nil _
  · refine List.forall_mem_map.mpr fun part member => framed ?_
    split at member
    · exact (clean.wrappedLines _ _ part member).align _ _ _
    · obtain ⟨whole, isLine, rfl⟩ := List.mem_map.mp member
      exact ((clean.linesOf whole isLine).dropOverhang _).align _ _ _

end Line

/-! ### Consoles of a width -/

end TaskGraph.Console
