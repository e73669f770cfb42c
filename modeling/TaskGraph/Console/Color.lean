import TaskGraph.Json.Read
import TaskGraph.Number.Decimal
import TaskGraph.Number.Hexadecimal
import TaskGraph.Text.Integer
import TaskGraph.Text.Lines
set_option autoImplicit false

/-! Colours of a console: the names of its palette, numbers of the
palette, and mixtures of red, green and blue. -/

namespace TaskGraph.Console

private def palette1 : List String :=
  ["black", "red", "green", "yellow", "blue", "magenta", "cyan", "white", "bright_black",
    "bright_red", "bright_green", "bright_yellow", "bright_blue", "bright_magenta", "bright_cyan",
    "bright_white", "navy_blue", "dark_blue", "blue3", "blue1", "dark_green", "deep_sky_blue4",
    "dodger_blue3", "dodger_blue2", "green4", "spring_green4", "turquoise4", "deep_sky_blue3",
    "dodger_blue1", "green3", "spring_green3", "dark_cyan", "light_sea_green", "deep_sky_blue2",
    "deep_sky_blue1", "spring_green2", "cyan3", "dark_turquoise", "turquoise2", "green1",
    "spring_green1", "medium_spring_green", "cyan2", "cyan1", "dark_red", "deep_pink4", "purple4",
    "purple3", "blue_violet", "orange4", "medium_purple4", "slate_blue3", "royal_blue1",
    "chartreuse4", "dark_sea_green4", "pale_turquoise4", "steel_blue", "steel_blue3",
    "cornflower_blue", "chartreuse3", "cadet_blue", "sky_blue3", "steel_blue1", "pale_green3",
    "sea_green3", "aquamarine3", "medium_turquoise", "chartreuse2", "sea_green2", "sea_green1",
    "aquamarine1", "dark_slate_gray2", "dark_magenta", "dark_violet", "purple", "light_pink4",
    "plum4", "medium_purple3", "slate_blue1", "yellow4", "wheat4", "light_slate_grey",
    "light_slate_gray", "medium_purple"]

private def palette2 : List String :=
  ["light_slate_blue", "dark_olive_green3", "dark_sea_green", "light_sky_blue3", "sky_blue2",
    "dark_sea_green3", "dark_slate_gray3", "sky_blue1", "chartreuse1", "light_green", "pale_green1",
    "dark_slate_gray1", "red3", "medium_violet_red", "magenta3", "dark_orange3", "indian_red",
    "hot_pink3", "medium_orchid3", "medium_orchid", "medium_purple2", "dark_goldenrod",
    "light_salmon3", "rosy_brown", "medium_purple1", "gold3", "dark_khaki", "navajo_white3",
    "light_steel_blue3", "light_steel_blue", "yellow3", "dark_sea_green2", "light_cyan3",
    "light_sky_blue1", "green_yellow", "dark_olive_green2", "dark_sea_green1", "pale_turquoise1",
    "deep_pink3", "magenta2", "hot_pink2", "orchid", "medium_orchid1", "orange3", "light_pink3",
    "pink3", "plum3", "violet", "light_goldenrod3", "tan", "misty_rose3", "thistle3", "plum2",
    "khaki3", "light_goldenrod2", "light_yellow3", "light_steel_blue1", "yellow2",
    "dark_olive_green1", "honeydew2", "light_cyan1", "red1", "deep_pink2", "deep_pink1", "magenta1",
    "orange_red1", "indian_red1", "hot_pink", "dark_orange", "salmon1", "light_coral",
    "pale_violet_red1", "orchid2", "orchid1", "orange1", "sandy_brown", "light_salmon1",
    "light_pink1", "pink1", "plum1", "gold1", "navajo_white1", "misty_rose1", "thistle1", "yellow1",
    "light_goldenrod1", "khaki1", "wheat1", "cornsilk1"]

private def greyLevels : List Nat :=
  [0, 3, 7, 11, 15, 19, 23, 27, 30, 35, 37, 39, 42, 46, 50, 53, 54, 58, 62, 63, 66, 69, 70, 74, 78,
    82, 84, 85, 89, 93, 100]

/-- The names of the colours in the palette. Greys are spelt in two ways. -/
def palette : List String :=
  palette1 ++ palette2 ++ greyLevels.flatMap fun level =>
    ["grey" ++ toString level, "gray" ++ toString level]

def argumentOf? (word text : List Char) : Option (List Char) :=
  match Json.dropWord? word text with
  | some rest => if rest.getLast? = some ')' then some rest.dropLast else none
  | none => none

def isByte (text : List Char) : Bool :=
  !text.isEmpty && text.all Char.isDigit && decide (decimalValue text ≤ 255)

inductive ColorWord where
  | color
  | unknown
  | unreadable
deriving DecidableEq

def ColorWord.when (holds : Bool) : ColorWord := if holds then color else unknown

def ColorWord.ofMixture (parts : List Char) : ColorWord :=
  if parts.isEmpty || !parts.all (fun c => c = ',' || Text.isDecimalDigit c) then unknown
  else match Text.splitAt ',' parts with
    | [red, green, blue] => match Text.natural? red, Text.natural? green, Text.natural? blue with
        | some red, some green, some blue => when (red ≤ 255 && green ≤ 255 && blue ≤ 255)
        | _, _, _ => unreadable
    | _ => unknown

def ColorWord.ofWord (word : List Char) : ColorWord :=
  if word = ['d', 'e', 'f', 'a', 'u', 'l', 't'] || palette.contains (String.ofList word) then color
  else match word with
    | '#' :: digits => when (digits.length = 6 && (hexNumber? digits).isSome)
    | word =>
        match argumentOf? ['c', 'o', 'l', 'o', 'r', '('] word,
          argumentOf? ['r', 'g', 'b', '('] word with
        | some number, _ => when (number.length ≤ 3 && isByte number)
        | none, some parts => ofMixture parts
        | none, none => unknown

end TaskGraph.Console
