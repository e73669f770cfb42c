import TaskGraph.CommandLine.Invocation
set_option autoImplicit false

/-! Which options a read command line can have: those of its command. Every word that is read keeps
this, so an option that a command does not have is never given to it. -/

namespace TaskGraph.CommandLine

/-! ### Single words -/

def Switch.Suits (switch : Switch) (command : Command) : Prop :=
  ∀ setting value, switch.setting = some (setting, value) → setting ∈ command.settings

theorem Switch.suits_of_find? {command : Command} {setting : Setting} {chosen : Setting → Bool}
    (verbose : Bool) (value : Option (List Char))
    (found : command.settings.find? chosen = some setting) :
    Switch.Suits ⟨verbose, some (setting, value)⟩ command := by
  rintro _ _ ⟨⟩
  exact List.mem_of_find?_eq_some found

theorem suits_of_longSwitch? {command : Command} {text : List Char} {switch : Switch}
    (read : longSwitch? command text = some switch) : switch.Suits command := by
  rw [longSwitch?] at read
  cases search : command.settings.find? fun setting => setting.word = text.takeWhile (· ≠ '=') with
  | some setting =>
      rw [search] at read
      cases read
      exact Switch.suits_of_find? false _ search
  | none =>
      rw [search] at read
      obtain ⟨_, same⟩ := Option.ite_none_right_eq_some.mp read
      cases same
      rintro _ _ ⟨⟩

theorem suits_of_shortSwitch? {command : Command} {letters : List Char} {switch : Switch}
    (read : shortSwitch? command letters = some switch) : switch.Suits command := by
  induction letters generalizing switch with
  | nil =>
      cases read
      rintro _ _ ⟨⟩
  | cons c rest ih =>
      rw [shortSwitch?] at read
      split at read
      · obtain ⟨others, isOthers, same⟩ := Option.map_eq_some_iff.mp read
        cases same
        have suits : others.Suits command := ih isOthers
        exact suits
      · split at read
        · rename_i setting search
          cases read
          exact Switch.suits_of_find? false _ search
        · cases read

theorem suits_of_switch? {command : Command} {word : List Char} {switch : Switch}
    (read : switch? command word = some switch) : switch.Suits command := by
  unfold switch? at read
  split at read
  · exact suits_of_longSwitch? read
  · exact suits_of_shortSwitch? read

/-! ### All words -/

def Words.Suit (words : Words) (command : Command) : Prop :=
  ∀ pair ∈ words.settings, pair.1 ∈ command.settings

theorem Words.Suit.addSetting {words : Words} {command : Command} {setting : Setting}
    (suit : words.Suit command) (known : setting ∈ command.settings) (verbose : Bool)
    (value : String) :
    ((words.addVerbose verbose).addSetting setting value).Suit command := by
  intro pair member
  rcases List.mem_cons.mp member with isNew | isOld
  · rw [isNew]
    exact known
  · exact suit pair isOld

/-- Reading on keeps what the words set among the options of the command. -/
theorem Words.Suit.read? {words read : Words} {command : Command} {given : List String}
    (suit : words.Suit command) (isRead : words.read? command given = some read) :
    read.Suit command := by
  fun_induction Words.read? command words given
  case case1 | case2 =>
    cases isRead
    exact suit
  case case3 | case6 => cases isRead
  case case4 ih | case8 ih => exact ih suit isRead
  case case5 verbose setting value switch ih =>
    exact ih (suit.addSetting (suits_of_switch? switch _ _ rfl) verbose _) isRead
  case case7 verbose setting switch value _ ih =>
    exact ih (suit.addSetting (suits_of_switch? switch _ _ rfl) verbose value) isRead

end TaskGraph.CommandLine
