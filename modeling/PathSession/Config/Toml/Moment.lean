import PathSession.Config.Number

/-!
# Dates and times in TOML

* `Moment`, `Moment.text`: a date, a time, or both, and how it is written;
* `Moment.Reading`, `Moment.read`: a moment read off the front of a text.

A date has a day that its month has.  Parts of a second are kept to the ninth decimal.
-/

namespace PathSession

/-- A day. -/
structure Day where
  year : Nat
  month : Nat
  day : Nat
  deriving DecidableEq, Repr

/-- A time of day. -/
structure Clock where
  hour : Nat
  minute : Nat
  second : Nat
  nanosecond : Nat
  deriving DecidableEq, Repr

/-- How far a time is off the time at the zero meridian. -/
inductive Offset
  | none
  | zero
  | ahead (minutes : Nat)
  | behind (minutes : Nat)
  deriving DecidableEq, Repr

/-- A date, a time, or both. -/
structure Moment where
  day : Option Day
  clock : Option Clock
  offset : Offset := .none
  deriving DecidableEq, Repr

/-! ## Writing -/

/-- A number with at least so many digits. -/
def Moment.padded (width n : Nat) : String :=
  let digits := Nat.toDigits 10 n
  String.ofList (List.replicate (width - digits.length) '0' ++ digits)

open Moment in
/-- A day in digits. -/
def Day.text (d : Day) : String := s!"{padded 4 d.year}-{padded 2 d.month}-{padded 2 d.day}"

open Moment in
/-- A time of day in digits. -/
def Clock.text (c : Clock) : String :=
  let whole := s!"{padded 2 c.hour}:{padded 2 c.minute}:{padded 2 c.second}"
  if c.nanosecond = 0 then
    whole
  else
    let digits := (padded 9 c.nanosecond).toList
    whole ++ "." ++ String.ofList ((digits.reverse.dropWhile (· = '0')).reverse)

open Moment in
/-- The distance from the zero meridian in digits. -/
def Offset.text : Offset → String
  | none => ""
  | zero => "Z"
  | ahead m => s!"+{padded 2 (m / 60)}:{padded 2 (m % 60)}"
  | behind m => s!"-{padded 2 (m / 60)}:{padded 2 (m % 60)}"

namespace Moment

/-- A moment as it is written. -/
def text (m : Moment) : String :=
  let day := (m.day.map Day.text).getD ""
  let clock := (m.clock.map Clock.text).getD ""
  day ++ (if m.day.isSome && m.clock.isSome then "T" else "") ++ clock ++ m.offset.text

/-! ## Reading -/

/-- What comes of reading. -/
inductive Reading (α : Type)
  /-- something of another kind is there -/
  | absent
  /-- the text makes no sense -/
  | wrong
  | found (value : α) (rest : List Char)

/-- The number that the first characters of a text stand for, if they are so many digits. -/
def number? (width : Nat) (cs : List Char) : Option (Nat × List Char) :=
  let digits := cs.take width
  if digits.length = width ∧ digits.all Char.isDigit then
    some (NumberText.digitsValue digits, cs.drop width)
  else
    none

/-- As `number?`, behind a character. -/
def numberBehind? (c : Char) (width : Nat) : List Char → Option (Nat × List Char)
  | d :: rest => if d = c then number? width rest else none
  | [] => none

/-- The number of days of a month. -/
def daysOf (year month : Nat) : Nat :=
  if month = 2 then
    if year % 4 = 0 ∧ (year % 100 ≠ 0 ∨ year % 400 = 0) then 29 else 28
  else if [4, 6, 9, 11].contains month then 30
  else 31

/-- Read a day. -/
def readDay (cs : List Char) : Reading Day :=
  match number? 4 cs with
  | some (year, '-' :: rest) =>
    match number? 2 rest with
    | some (month, rest) =>
      match numberBehind? '-' 2 rest with
      | some (day, rest) =>
        if 1 ≤ month ∧ month ≤ 12 ∧ 1 ≤ day ∧ day ≤ daysOf year month then
          .found ⟨year, month, day⟩ rest
        else
          .wrong
      | none => .wrong
    | none => .wrong
  | _ => .absent

/-- Read the part of a second behind a point, in nanoseconds. -/
def fraction (cs : List Char) : Reading Nat :=
  match cs with
  | '.' :: rest =>
    let digits := (rest.takeWhile Char.isDigit).take 9
    if digits.isEmpty then .absent
    else
      .found (NumberText.digitsValue (digits ++ List.replicate (9 - digits.length) '0'))
        (rest.dropWhile Char.isDigit)
  | _ => .absent

/-- Read a time of day. -/
def readClock (cs : List Char) : Reading Clock :=
  match number? 2 cs with
  | some (hour, ':' :: rest) =>
    if 23 < hour then
      .absent
    else
      match number? 2 rest with
      | some (minute, rest) =>
        match numberBehind? ':' 2 rest with
        | some (second, rest) =>
          if 59 < minute ∨ 60 < second then
            .wrong
          else
            match fraction rest with
            | .found nanosecond rest => .found ⟨hour, minute, second, nanosecond⟩ rest
            | _ => .found ⟨hour, minute, second, 0⟩ rest
        | none => .wrong
      | none => .wrong
  | _ => .absent

/-- Read the distance from the zero meridian. -/
def readOffset (cs : List Char) : Reading Offset :=
  match cs with
  | 'Z' :: rest | 'z' :: rest => .found .zero rest
  | c :: rest =>
    if c = '+' ∨ c = '-' then
      match number? 2 rest with
      | some (hours, rest) =>
        match numberBehind? ':' 2 rest with
        | some (minutes, rest) =>
          let all := hours * 60 + minutes
          if 23 < hours ∨ 59 < minutes then .wrong
          else .found (if c = '-' ∧ 0 < all then .behind all else .ahead all) rest
        | none => .wrong
      | none => .wrong
    else
      .absent
  | [] => .absent

/-- Read a time of day that follows a day, with its distance from the zero meridian. -/
def behindDay (d : Day) (cs : List Char) : Reading Moment :=
  match cs with
  | c :: rest =>
    if c = 'T' ∨ c = 't' ∨ c = ' ' then
      match readClock rest with
      | .wrong => .wrong
      | .absent => .found { day := some d, clock := none } cs
      | .found time rest =>
        match readOffset rest with
        | .wrong => .wrong
        | .absent => .found { day := some d, clock := some time } rest
        | .found off rest => .found { day := some d, clock := some time, offset := off } rest
    else
      .found { day := some d, clock := none } cs
  | [] => .found { day := some d, clock := none } []

/-- Read a moment. -/
def read (cs : List Char) : Reading Moment :=
  match readDay cs with
  | .wrong => .wrong
  | .found d rest => behindDay d rest
  | .absent =>
    match readClock cs with
    | .wrong => .wrong
    | .found time rest => .found { day := none, clock := some time } rest
    | .absent => .absent

end Moment

end PathSession
