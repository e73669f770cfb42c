import TaskGraph.Console.Markup
import TaskGraph.Proofs.MarkupTags
import TaskGraph.Proofs.Results
set_option autoImplicit false

/-! Which marked-up text has something to show: that whose tags settle. A tag that opens puts itself
on top of those that are open, and a tag that closes takes one of them away, the one on top or the
topmost with its name, which must be there. What stands between the tags does not matter. -/

namespace TaskGraph.Console

/-! ### The rules of tags -/

def IsReadable (name : List Char) : Prop := Style.ofName name ≠ .error .unreadable

theorem isReadable_of_canonical? {name canonical : List Char}
    (named : Style.canonical? name = some canonical) : IsReadable name := by
  intro unreadable
  rw [Style.canonical?, unreadable] at named
  cases named

/-- A tag with nothing wrong in what it says: its style and
the argument of a handler can be read. -/
structure Tag.IsFine (tag : Tag) : Prop where
  readable : IsReadable tag.style
  closes : ∃ styles, tag.close = .ok styles

/-- The rules by which a row of tags settles above those that are open, the topmost first. Tags may
stay open. What a tag says is left to `fine`, which holds for all that were open. -/
inductive Settles (fine : Tag → Prop) : List Tag → List Tag → Prop
  | done {opened : List Tag} (left : ∀ tag ∈ opened, fine tag) : Settles fine opened []
  | opening {opened rest : List Tag} {tag : Tag} {canonical : List Char}
      (opens : tag.closing? = none) (named : Style.canonical? tag.name = some canonical)
      (further : Settles fine ({ tag with name := canonical } :: opened) rest) :
      Settles fine opened (tag :: rest)
  | closingTop {opened rest : List Tag} {tag top : Tag} (closes : tag.closing? = some [])
      (isFine : fine top) (further : Settles fine opened rest) :
      Settles fine (top :: opened) (tag :: rest)
  | closing {inner outer rest : List Tag} {tag found : Tag} {given : List Char}
      (closes : tag.closing? = some given) (notTop : given ≠ [])
      (named : Style.canonical? given = some found.name)
      (topmost : ∀ other ∈ inner, other.name ≠ found.name) (isFine : fine found)
      (further : Settles fine (inner ++ outer) rest) :
      Settles fine (inner ++ found :: outer) (tag :: rest)

variable {fine : Tag → Prop}

theorem settles_opening_iff {tag : Tag} (opens : tag.closing? = none) (opened rest : List Tag) :
    Settles fine opened (tag :: rest) ↔ ∃ canonical, Style.canonical? tag.name = some canonical ∧
      Settles fine ({ tag with name := canonical } :: opened) rest := by
  constructor
  · intro settles
    cases settles with
    | opening _ named further => exact ⟨_, named, further⟩
    | closingTop closes => cases opens.symm.trans closes
    | closing closes => cases opens.symm.trans closes
  · rintro ⟨canonical, named, further⟩
    exact .opening opens named further

def IsSettled (fine : Tag → Prop) (markup : List Char) : Prop := Settles fine [] (tagsOf markup)

/-! ### Taking open tags away -/

end TaskGraph.Console
