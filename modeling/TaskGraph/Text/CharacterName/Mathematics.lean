import TaskGraph.Text.CharacterName.Basic
set_option autoImplicit false

/-! Names of characters: mathematical letters and digits. -/

namespace TaskGraph.Text.CharacterName

def mathematics : List Run :=
  [⟨0x1d400, "MATHEMATICAL BOLD CAPITAL ", ["A|B|C|D|E|F|G|H|I|J|K|L|M|N|O|P|Q|R|S|T|U|V|W|X|Y|Z"]⟩,
    ⟨0x1d41a, "MATHEMATICAL BOLD SMALL ", ["A|B|C|D|E|F|G|H|I|J|K|L|M|N|O|P|Q|R|S|T|U|V|W|X|Y|Z"]⟩,
    ⟨0x1d434, "MATHEMATICAL ITALIC CAPITAL ", [
      "A|B|C|D|E|F|G|H|I|J|K|L|M|N|O|P|Q|R|S|T|U|V|W|X|Y|Z"]⟩,
    ⟨0x1d44e, "MATHEMATICAL ITALIC SMALL ", ["A|B|C|D|E|F|G"]⟩,
    ⟨0x1d456, "MATHEMATICAL ITALIC SMALL ", ["I|J|K|L|M|N|O|P|Q|R|S|T|U|V|W|X|Y|Z"]⟩,
    ⟨0x1d468, "MATHEMATICAL BOLD ITALIC CAPITAL ", [
      "A|B|C|D|E|F|G|H|I|J|K|L|M|N|O|P|Q|R|S|T|U|V|W|X|Y|Z"]⟩,
    ⟨0x1d482, "MATHEMATICAL BOLD ITALIC SMALL ", [
      "A|B|C|D|E|F|G|H|I|J|K|L|M|N|O|P|Q|R|S|T|U|V|W|X|Y|Z"]⟩,
    ⟨0x1d49c, "", ["MATHEMATICAL SCRIPT CAPITAL A"]⟩,
    ⟨0x1d49e, "MATHEMATICAL SCRIPT CAPITAL ", ["C|D"]⟩,
    ⟨0x1d4a2, "", ["MATHEMATICAL SCRIPT CAPITAL G"]⟩,
    ⟨0x1d4a5, "MATHEMATICAL SCRIPT CAPITAL ", ["J|K"]⟩,
    ⟨0x1d4a9, "MATHEMATICAL SCRIPT CAPITAL ", ["N|O|P|Q"]⟩,
    ⟨0x1d4ae, "MATHEMATICAL SCRIPT CAPITAL ", ["S|T|U|V|W|X|Y|Z"]⟩,
    ⟨0x1d4b6, "MATHEMATICAL SCRIPT SMALL ", ["A|B|C|D"]⟩,
    ⟨0x1d4bb, "", ["MATHEMATICAL SCRIPT SMALL F"]⟩,
    ⟨0x1d4bd, "MATHEMATICAL SCRIPT SMALL ", ["H|I|J|K|L|M|N"]⟩,
    ⟨0x1d4c5, "MATHEMATICAL SCRIPT SMALL ", ["P|Q|R|S|T|U|V|W|X|Y|Z"]⟩,
    ⟨0x1d4d0, "MATHEMATICAL BOLD SCRIPT CAPITAL ", [
      "A|B|C|D|E|F|G|H|I|J|K|L|M|N|O|P|Q|R|S|T|U|V|W|X|Y|Z"]⟩,
    ⟨0x1d4ea, "MATHEMATICAL BOLD SCRIPT SMALL ", [
      "A|B|C|D|E|F|G|H|I|J|K|L|M|N|O|P|Q|R|S|T|U|V|W|X|Y|Z"]⟩,
    ⟨0x1d504, "MATHEMATICAL FRAKTUR CAPITAL ", ["A|B"]⟩,
    ⟨0x1d507, "MATHEMATICAL FRAKTUR CAPITAL ", ["D|E|F|G"]⟩,
    ⟨0x1d50d, "MATHEMATICAL FRAKTUR CAPITAL ", ["J|K|L|M|N|O|P|Q"]⟩,
    ⟨0x1d516, "MATHEMATICAL FRAKTUR CAPITAL ", ["S|T|U|V|W|X|Y"]⟩,
    ⟨0x1d51e, "MATHEMATICAL FRAKTUR SMALL ", [
      "A|B|C|D|E|F|G|H|I|J|K|L|M|N|O|P|Q|R|S|T|U|V|W|X|Y|Z"]⟩,
    ⟨0x1d538, "MATHEMATICAL DOUBLE-STRUCK CAPITAL ", ["A|B"]⟩,
    ⟨0x1d53b, "MATHEMATICAL DOUBLE-STRUCK CAPITAL ", ["D|E|F|G"]⟩,
    ⟨0x1d540, "MATHEMATICAL DOUBLE-STRUCK CAPITAL ", ["I|J|K|L|M"]⟩,
    ⟨0x1d546, "", ["MATHEMATICAL DOUBLE-STRUCK CAPITAL O"]⟩,
    ⟨0x1d54a, "MATHEMATICAL DOUBLE-STRUCK CAPITAL ", ["S|T|U|V|W|X|Y"]⟩,
    ⟨0x1d552, "MATHEMATICAL DOUBLE-STRUCK SMALL ", [
      "A|B|C|D|E|F|G|H|I|J|K|L|M|N|O|P|Q|R|S|T|U|V|W|X|Y|Z"]⟩,
    ⟨0x1d56c, "MATHEMATICAL BOLD FRAKTUR CAPITAL ", [
      "A|B|C|D|E|F|G|H|I|J|K|L|M|N|O|P|Q|R|S|T|U|V|W|X|Y|Z"]⟩,
    ⟨0x1d586, "MATHEMATICAL BOLD FRAKTUR SMALL ", [
      "A|B|C|D|E|F|G|H|I|J|K|L|M|N|O|P|Q|R|S|T|U|V|W|X|Y|Z"]⟩,
    ⟨0x1d5a0, "MATHEMATICAL SANS-SERIF CAPITAL ", [
      "A|B|C|D|E|F|G|H|I|J|K|L|M|N|O|P|Q|R|S|T|U|V|W|X|Y|Z"]⟩,
    ⟨0x1d5ba, "MATHEMATICAL SANS-SERIF SMALL ", [
      "A|B|C|D|E|F|G|H|I|J|K|L|M|N|O|P|Q|R|S|T|U|V|W|X|Y|Z"]⟩,
    ⟨0x1d5d4, "MATHEMATICAL SANS-SERIF BOLD CAPITAL ", [
      "A|B|C|D|E|F|G|H|I|J|K|L|M|N|O|P|Q|R|S|T|U|V|W|X|Y|Z"]⟩,
    ⟨0x1d5ee, "MATHEMATICAL SANS-SERIF BOLD SMALL ", [
      "A|B|C|D|E|F|G|H|I|J|K|L|M|N|O|P|Q|R|S|T|U|V|W|X|Y|Z"]⟩,
    ⟨0x1d608, "MATHEMATICAL SANS-SERIF ITALIC CAPITAL ", [
      "A|B|C|D|E|F|G|H|I|J|K|L|M|N|O|P|Q|R|S|T|U|V|W|X|Y|Z"]⟩,
    ⟨0x1d622, "MATHEMATICAL SANS-SERIF ITALIC SMALL ", [
      "A|B|C|D|E|F|G|H|I|J|K|L|M|N|O|P|Q|R|S|T|U|V|W|X|Y|Z"]⟩,
    ⟨0x1d63c, "MATHEMATICAL SANS-SERIF BOLD ITALIC CAPITAL ", [
      "A|B|C|D|E|F|G|H|I|J|K|L|M|N|O|P|Q|R|S|T|U|V|W|X|Y|Z"]⟩,
    ⟨0x1d656, "MATHEMATICAL SANS-SERIF BOLD ITALIC SMALL ", [
      "A|B|C|D|E|F|G|H|I|J|K|L|M|N|O|P|Q|R|S|T|U|V|W|X|Y|Z"]⟩,
    ⟨0x1d670, "MATHEMATICAL MONOSPACE CAPITAL ", [
      "A|B|C|D|E|F|G|H|I|J|K|L|M|N|O|P|Q|R|S|T|U|V|W|X|Y|Z"]⟩,
    ⟨0x1d68a, "MATHEMATICAL MONOSPACE SMALL ", [
      "A|B|C|D|E|F|G|H|I|J|K|L|M|N|O|P|Q|R|S|T|U|V|W|X|Y|Z"]⟩,
    ⟨0x1d6a4, "MATHEMATICAL ITALIC SMALL DOTLESS ", ["I|J"]⟩,
    ⟨0x1d6a8, "MATHEMATICAL BOLD CAPITAL ", [
      "ALPHA|BETA|GAMMA|DELTA|EPSILON|ZETA|ETA|THETA|IOTA|KAPPA|LAMDA|MU|NU|XI|OMICRON|PI|RHO",
      "THETA SYMBOL|SIGMA|TAU|UPSILON|PHI|CHI|PSI|OMEGA"]⟩,
    ⟨0x1d6c1, "", ["MATHEMATICAL BOLD NABLA"]⟩,
    ⟨0x1d6c2, "MATHEMATICAL BOLD SMALL ", [
      "ALPHA|BETA|GAMMA|DELTA|EPSILON|ZETA|ETA|THETA|IOTA|KAPPA|LAMDA|MU|NU|XI|OMICRON|PI|RHO",
      "FINAL SIGMA|SIGMA|TAU|UPSILON|PHI|CHI|PSI|OMEGA"]⟩,
    ⟨0x1d6db, "MATHEMATICAL BOLD ", [
      "PARTIAL DIFFERENTIAL|EPSILON SYMBOL|THETA SYMBOL|KAPPA SYMBOL|PHI SYMBOL|RHO SYMBOL",
      "PI SYMBOL"]⟩,
    ⟨0x1d6e2, "MATHEMATICAL ITALIC CAPITAL ", [
      "ALPHA|BETA|GAMMA|DELTA|EPSILON|ZETA|ETA|THETA|IOTA|KAPPA|LAMDA|MU|NU|XI|OMICRON|PI|RHO",
      "THETA SYMBOL|SIGMA|TAU|UPSILON|PHI|CHI|PSI|OMEGA"]⟩,
    ⟨0x1d6fb, "", ["MATHEMATICAL ITALIC NABLA"]⟩,
    ⟨0x1d6fc, "MATHEMATICAL ITALIC SMALL ", [
      "ALPHA|BETA|GAMMA|DELTA|EPSILON|ZETA|ETA|THETA|IOTA|KAPPA|LAMDA|MU|NU|XI|OMICRON|PI|RHO",
      "FINAL SIGMA|SIGMA|TAU|UPSILON|PHI|CHI|PSI|OMEGA"]⟩,
    ⟨0x1d715, "MATHEMATICAL ITALIC ", [
      "PARTIAL DIFFERENTIAL|EPSILON SYMBOL|THETA SYMBOL|KAPPA SYMBOL|PHI SYMBOL|RHO SYMBOL",
      "PI SYMBOL"]⟩,
    ⟨0x1d71c, "MATHEMATICAL BOLD ITALIC CAPITAL ", [
      "ALPHA|BETA|GAMMA|DELTA|EPSILON|ZETA|ETA|THETA|IOTA|KAPPA|LAMDA|MU|NU|XI|OMICRON|PI|RHO",
      "THETA SYMBOL|SIGMA|TAU|UPSILON|PHI|CHI|PSI|OMEGA"]⟩,
    ⟨0x1d735, "", ["MATHEMATICAL BOLD ITALIC NABLA"]⟩,
    ⟨0x1d736, "MATHEMATICAL BOLD ITALIC SMALL ", [
      "ALPHA|BETA|GAMMA|DELTA|EPSILON|ZETA|ETA|THETA|IOTA|KAPPA|LAMDA|MU|NU|XI|OMICRON|PI|RHO",
      "FINAL SIGMA|SIGMA|TAU|UPSILON|PHI|CHI|PSI|OMEGA"]⟩,
    ⟨0x1d74f, "MATHEMATICAL BOLD ITALIC ", [
      "PARTIAL DIFFERENTIAL|EPSILON SYMBOL|THETA SYMBOL|KAPPA SYMBOL|PHI SYMBOL|RHO SYMBOL",
      "PI SYMBOL"]⟩,
    ⟨0x1d756, "MATHEMATICAL SANS-SERIF BOLD CAPITAL ", [
      "ALPHA|BETA|GAMMA|DELTA|EPSILON|ZETA|ETA|THETA|IOTA|KAPPA|LAMDA|MU|NU|XI|OMICRON|PI|RHO",
      "THETA SYMBOL|SIGMA|TAU|UPSILON|PHI|CHI|PSI|OMEGA"]⟩,
    ⟨0x1d76f, "", ["MATHEMATICAL SANS-SERIF BOLD NABLA"]⟩,
    ⟨0x1d770, "MATHEMATICAL SANS-SERIF BOLD SMALL ", [
      "ALPHA|BETA|GAMMA|DELTA|EPSILON|ZETA|ETA|THETA|IOTA|KAPPA|LAMDA|MU|NU|XI|OMICRON|PI|RHO",
      "FINAL SIGMA|SIGMA|TAU|UPSILON|PHI|CHI|PSI|OMEGA"]⟩,
    ⟨0x1d789, "MATHEMATICAL SANS-SERIF BOLD ", [
      "PARTIAL DIFFERENTIAL|EPSILON SYMBOL|THETA SYMBOL|KAPPA SYMBOL|PHI SYMBOL|RHO SYMBOL",
      "PI SYMBOL"]⟩,
    ⟨0x1d790, "MATHEMATICAL SANS-SERIF BOLD ITALIC CAPITAL ", [
      "ALPHA|BETA|GAMMA|DELTA|EPSILON|ZETA|ETA|THETA|IOTA|KAPPA|LAMDA|MU|NU|XI|OMICRON|PI|RHO",
      "THETA SYMBOL|SIGMA|TAU|UPSILON|PHI|CHI|PSI|OMEGA"]⟩,
    ⟨0x1d7a9, "", ["MATHEMATICAL SANS-SERIF BOLD ITALIC NABLA"]⟩,
    ⟨0x1d7aa, "MATHEMATICAL SANS-SERIF BOLD ITALIC SMALL ", [
      "ALPHA|BETA|GAMMA|DELTA|EPSILON|ZETA|ETA|THETA|IOTA|KAPPA|LAMDA|MU|NU|XI|OMICRON|PI|RHO",
      "FINAL SIGMA|SIGMA|TAU|UPSILON|PHI|CHI|PSI|OMEGA"]⟩,
    ⟨0x1d7c3, "MATHEMATICAL SANS-SERIF BOLD ITALIC ", [
      "PARTIAL DIFFERENTIAL|EPSILON SYMBOL|THETA SYMBOL|KAPPA SYMBOL|PHI SYMBOL|RHO SYMBOL",
      "PI SYMBOL"]⟩,
    ⟨0x1d7ca, "MATHEMATICAL BOLD ", ["CAPITAL DIGAMMA|SMALL DIGAMMA"]⟩,
    ⟨0x1d7ce, "MATHEMATICAL BOLD DIGIT ", ["ZERO|ONE|TWO|THREE|FOUR|FIVE|SIX|SEVEN|EIGHT|NINE"]⟩,
    ⟨0x1d7d8, "MATHEMATICAL DOUBLE-STRUCK DIGIT ", [
      "ZERO|ONE|TWO|THREE|FOUR|FIVE|SIX|SEVEN|EIGHT|NINE"]⟩,
    ⟨0x1d7e2, "MATHEMATICAL SANS-SERIF DIGIT ", [
      "ZERO|ONE|TWO|THREE|FOUR|FIVE|SIX|SEVEN|EIGHT|NINE"]⟩,
    ⟨0x1d7ec, "MATHEMATICAL SANS-SERIF BOLD DIGIT ", [
      "ZERO|ONE|TWO|THREE|FOUR|FIVE|SIX|SEVEN|EIGHT|NINE"]⟩,
    ⟨0x1d7f6, "MATHEMATICAL MONOSPACE DIGIT ", [
      "ZERO|ONE|TWO|THREE|FOUR|FIVE|SIX|SEVEN|EIGHT|NINE"]⟩]

end TaskGraph.Text.CharacterName
