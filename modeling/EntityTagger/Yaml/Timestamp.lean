import EntityTagger.Text

/-!
Dates, alone or with a time of day, as they are written in YAML.
-/

namespace EntityTagger.Yaml

structure TimeOfDay where
  hour : Nat
  minute : Nat
  second : Nat
  /-- The distance of the time zone in minutes, to either side. -/
  zone : Nat
deriving DecidableEq, Repr

structure Timestamp where
  year : Nat
  month : Nat
  day : Nat
  time : Option TimeOfDay
deriving DecidableEq, Repr

namespace Timestamp

/-- Takes digits, at least `least` and at most `most` of them: their number, and the rest. -/
def digits? (least most : Nat) (t : Text) : Option (Nat × Text) :=
  let run := (t.take most).takeWhile Text.isDigit
  if run.length < least then none else some (Text.digitsValue run, t.drop run.length)

def mark? (c : Nat) : Text → Option Text
  | [] => none
  | x :: rest => if x = c then some rest else none

def isBlank (c : Nat) : Bool := c = 32 || c = 9

/-- A time zone at the end of a text, perhaps behind blanks: its distance in minutes. -/
def zone? (t : Text) : Option Nat :=
  if t.isEmpty then some 0
  else match t.dropWhile isBlank with
    | [90] => some 0
    | sign :: rest => do
      if sign ≠ 43 ∧ sign ≠ 45 then none
      let (hours, rest) ← digits? 1 2 rest
      if rest.isEmpty then some (60 * hours)
      else
        let (minutes, rest) ← digits? 2 2 (← mark? 58 rest)
        if rest.isEmpty then some (60 * hours + minutes) else none
    | [] => none

def time? (t : Text) : Option TimeOfDay := do
  let (hour, rest) ← digits? 1 2 t
  let (minute, rest) ← digits? 2 2 (← mark? 58 rest)
  let (second, rest) ← digits? 2 2 (← mark? 58 rest)
  let rest := match rest with
    | 46 :: fraction => fraction.dropWhile Text.isDigit
    | rest => rest
  some ⟨hour, minute, second, ← zone? rest⟩

/-- What stands between a date and a time: a `T`, or blanks. -/
def separated? : Text → Option Text
  | [] => none
  | c :: rest =>
    if c = 84 ∨ c = 116 then some rest
    else if isBlank c then some (rest.dropWhile isBlank)
    else none

/-- The date that a text writes, with the time of day if there is one. -/
def read? (t : Text) : Option Timestamp := do
  let (year, rest) ← digits? 4 4 t
  let (month, rest) ← digits? 1 2 (← mark? 45 rest)
  let (day, rest) ← digits? 1 2 (← mark? 45 rest)
  if rest.isEmpty then some ⟨year, month, day, none⟩
  else some ⟨year, month, day, some (← time? (← separated? rest))⟩

/-- A text that is read as a date even if nothing says so: a date alone has two digits for the month
and for the day. -/
def isPlain (t : Text) : Bool :=
  match read? t with
  | none => false
  | some stamp => stamp.time.isSome || t.length = 10

def daysIn (year month : Nat) : Nat :=
  if month = 2 then
    if year % 4 = 0 ∧ (year % 100 ≠ 0 ∨ year % 400 = 0) then 29 else 28
  else if month = 4 ∨ month = 6 ∨ month = 9 ∨ month = 11 then 30
  else 31

def isReal (stamp : Timestamp) : Bool :=
  1 ≤ stamp.year && 1 ≤ stamp.month && stamp.month ≤ 12 && 1 ≤ stamp.day &&
    stamp.day ≤ daysIn stamp.year stamp.month &&
    match stamp.time with
    | none => true
    | some time => time.hour < 24 && time.minute < 60 && time.second < 60 && time.zone < 1440

end Timestamp

end EntityTagger.Yaml
