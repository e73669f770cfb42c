import TaskGraph.Number.Decimal
set_option autoImplicit false

/-! Calendar dates and moments of the day: which are valid, their ISO text, their constructor text,
and the instant that a moment with an offset names. -/

namespace TaskGraph

structure Date where
  year : Nat
  month : Nat
  day : Nat
deriving DecidableEq

/-- A day with a time of the day, and the offset from universal time in seconds if one is known. -/
structure DateTime where
  date : Date
  hour : Nat
  minute : Nat
  second : Nat
  microsecond : Nat
  offset : Option Int
deriving DecidableEq

namespace Date

def isLeap (year : Nat) : Bool :=
  year % 4 = 0 ∧ (year % 100 ≠ 0 ∨ year % 400 = 0)

def daysInMonth (year month : Nat) : Nat :=
  if month = 2 then (if isLeap year then 29 else 28)
  else if month = 4 ∨ month = 6 ∨ month = 9 ∨ month = 11 then 30
  else 31

def isValid (d : Date) : Bool :=
  1 ≤ d.year ∧ d.year ≤ 9999 ∧ 1 ≤ d.month ∧ d.month ≤ 12 ∧
    1 ≤ d.day ∧ d.day ≤ daysInMonth d.year d.month

def daysBeforeMonth (year month : Nat) : Nat :=
  (List.range (month - 1)).foldl (fun days m => days + daysInMonth year (m + 1)) 0

def dayNumber (d : Date) : Nat :=
  let before := d.year - 1
  365 * before + before / 4 - before / 100 + before / 400 + daysBeforeMonth d.year d.month + d.day

def isoChars (d : Date) : List Char :=
  padZeros 4 d.year ++ '-' :: padZeros 2 d.month ++ '-' :: padZeros 2 d.day

def iso (d : Date) : String := String.ofList d.isoChars

def constructorText (d : Date) : String :=
  "datetime.date(" ++ toString d.year ++ ", " ++ toString d.month ++ ", " ++ toString d.day ++ ")"

end Date

namespace DateTime

def isValid (t : DateTime) : Bool :=
  t.date.isValid ∧ t.hour < 24 ∧ t.minute < 60 ∧ t.second < 60 ∧ t.microsecond < 1000000

def localMicroseconds (t : DateTime) : Int :=
  let seconds := ((Int.ofNat t.date.dayNumber * 24 + t.hour) * 60 + t.minute) * 60 + t.second
  seconds * 1000000 + t.microsecond

/-- The instant a moment names, in microseconds of universal time, if its offset is known. -/
def instant? (t : DateTime) : Option Int :=
  t.offset.map fun offset => t.localMicroseconds - offset * 1000000

/-- Two moments with offsets are equal if they name one instant, two without if their clocks agree;
a moment with an offset never equals one without. -/
def equal (left right : DateTime) : Bool :=
  match left.instant?, right.instant? with
  | some p, some q => p == q
  | none, none => left.localMicroseconds == right.localMicroseconds
  | _, _ => false

def offsetChars (offset : Int) : List Char :=
  let seconds := offset.natAbs
  let tail := if seconds % 60 = 0 then [] else ':' :: padZeros 2 (seconds % 60)
  (if offset < 0 then '-' else '+') :: padZeros 2 (seconds / 3600) ++
    ':' :: padZeros 2 (seconds / 60 % 60) ++ tail

/-- The date and the clock time with a separator between them;
microseconds only if there are any. -/
def clockChars (separator : Char) (t : DateTime) : List Char :=
  t.date.isoChars ++ separator :: padZeros 2 t.hour ++ ':' :: padZeros 2 t.minute ++
    ':' :: padZeros 2 t.second ++
    (if t.microsecond = 0 then [] else '.' :: padZeros 6 t.microsecond)

def textWith (separator : Char) (t : DateTime) : String :=
  String.ofList (clockChars separator t ++ (t.offset.map offsetChars).getD [])

def minuteChars (offset : Int) : List Char :=
  let minutes := offset.natAbs / 60
  (if offset < 0 then '-' else '+') :: padZeros 2 (minutes / 60) ++ ':' :: padZeros 2 (minutes % 60)

/-- The ISO text in which a zero offset is written `Z` and any other one ends with its minutes. -/
def zulu (t : DateTime) : String :=
  let zone := match t.offset with
    | none => []
    | some offset => if offset = 0 then ['Z'] else minuteChars offset
  String.ofList (clockChars 'T' t ++ zone)

def offsetConstructorText (offset : Int) : String :=
  if offset = 0 then
    "datetime.timezone.utc"
  else
    let days := offset.fdiv 86400
    let seconds := offset.fmod 86400
    let parts :=
      (if days = 0 then [] else ["days=" ++ toString days]) ++
        (if seconds = 0 then [] else ["seconds=" ++ toString seconds])
    "datetime.timezone(datetime.timedelta(" ++ String.intercalate ", " parts ++ "))"

/-- The constructor text; seconds and microseconds are left out when nothing but zeros follows. -/
def constructorText (t : DateTime) : String :=
  let clock :=
    if t.microsecond ≠ 0 then [t.hour, t.minute, t.second, t.microsecond]
    else if t.second ≠ 0 then [t.hour, t.minute, t.second]
    else [t.hour, t.minute]
  let numbers := [t.date.year, t.date.month, t.date.day] ++ clock
  let zone := match t.offset with
    | none => []
    | some offset => ["tzinfo=" ++ offsetConstructorText offset]
  "datetime.datetime(" ++ String.intercalate ", " (numbers.map toString ++ zone) ++ ")"

end DateTime
end TaskGraph
