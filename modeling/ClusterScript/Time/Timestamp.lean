/-!
# Points in time

A point in time is a number of seconds since 1970, with the fraction left
out. Timestamps of objects are written by date, time of day and offset:
`2025-01-01T00:00:00Z`, `2025-01-01t01:30:00.5+01:30`.

* `Timestamp.parse?`: reads one.
* `Timestamp.write`: writes one in universal time.
* `Timestamp.age`: how long ago it was, in one unit.
-/
namespace ClusterScript

/-- A date in the calendar that has leap years every fourth year, save centuries. -/
structure Date where
  year : Int
  month : Nat
  day : Nat
deriving DecidableEq, Repr

namespace Date

def isLeap (y : Int) : Bool := (y % 4 == 0 && y % 100 != 0) || y % 400 == 0

def daysInMonth (y : Int) (m : Nat) : Nat :=
  if m = 2 then if isLeap y then 29 else 28
  else if m = 4 ∨ m = 6 ∨ m = 9 ∨ m = 11 then 30
  else 31

def valid (d : Date) : Bool :=
  1 ≤ d.month && d.month ≤ 12 && 1 ≤ d.day && d.day ≤ daysInMonth d.year d.month

/-- Days since 1970; years are counted from March so that the leap day comes last. -/
def toDays (d : Date) : Int :=
  let y := if d.month ≤ 2 then d.year - 1 else d.year
  let m : Int := (d.month + 9) % 12
  365 * y + y.fdiv 4 - y.fdiv 100 + y.fdiv 400 + (153 * m + 2).fdiv 5 + d.day - 719469

/-- The date so many days after 1970. -/
def ofDays (days : Int) : Date :=
  let z := days + 719468
  let era := z.fdiv 146097
  let doe := z - era * 146097
  let yoe := (doe - doe / 1460 + doe / 36524 - doe / 146096) / 365
  let doy := doe - (365 * yoe + yoe / 4 - yoe / 100)
  let mp := (5 * doy + 2) / 153
  let day := doy - (153 * mp + 2) / 5 + 1
  let month := if mp < 10 then mp + 3 else mp - 9
  ⟨yoe + era * 400 + (if month ≤ 2 then 1 else 0), month.toNat, day.toNat⟩

end Date

/-- Nanoseconds since 1970. -/
structure Timestamp where
  nanoseconds : Int
deriving DecidableEq, Repr, Inhabited

namespace Timestamp

def digit? (c : Char) : Option Nat := if c.isDigit then some (c.toNat - 48) else none

/-- A number of exactly `n` digits, and what follows. -/
def digits? : Nat → Nat → List Char → Option (Nat × List Char)
  | 0, value, cs => some (value, cs)
  | _ + 1, _, [] => none
  | n + 1, value, c :: rest => do digits? n (value * 10 + (← digit? c)) rest

/-- One of some characters, and what follows. -/
def oneOf? (allowed : List Char) : List Char → Option (Char × List Char)
  | c :: rest => if allowed.contains c then some (c, rest) else none
  | [] => none

/-- A fraction of a second in nanoseconds; digits beyond the ninth are passed over. -/
def fraction? (cs : List Char) : Option (Nat × List Char) :=
  match cs with
  | '.' :: rest =>
    let ds := rest.takeWhile Char.isDigit
    if ds.isEmpty then none
    else
      let kept := (ds ++ List.replicate 9 '0').take 9
      some (kept.foldl (fun n c => n * 10 + (c.toNat - 48)) 0, rest.dropWhile Char.isDigit)
  | _ => some (0, cs)

/-- An offset from universal time, in minutes. -/
def offset? (cs : List Char) : Option Int :=
  match cs with
  | ['Z'] | ['z'] => some 0
  | sign :: rest => do
    if sign ≠ '+' ∧ sign ≠ '-' ∧ sign ≠ '\u2212' then none
    let (h, rest) ← digits? 2 0 rest
    let (_, rest) ← oneOf? [':'] rest
    let (m, rest) ← digits? 2 0 rest
    if rest ≠ [] ∨ 59 < m ∨ 23 < h then none
    let minutes : Int := h * 60 + m
    return if sign = '+' then minutes else -minutes
  | [] => none

/-- Reads a timestamp. -/
def parse? (s : String) : Option Timestamp := do
  let (year, cs) ← digits? 4 0 s.toList
  let (_, cs) ← oneOf? ['-'] cs
  let (month, cs) ← digits? 2 0 cs
  let (_, cs) ← oneOf? ['-'] cs
  let (day, cs) ← digits? 2 0 cs
  let (_, cs) ← oneOf? ['T', 't', ' '] cs
  let (hour, cs) ← digits? 2 0 cs
  let (_, cs) ← oneOf? [':'] cs
  let (minute, cs) ← digits? 2 0 cs
  let (_, cs) ← oneOf? [':'] cs
  let (second, cs) ← digits? 2 0 cs
  let (nanos, cs) ← fraction? cs
  let offset ← offset? cs
  let date : Date := ⟨year, month, day⟩
  if !date.valid ∨ 23 < hour ∨ 59 < minute ∨ 60 < second then none
  let seconds : Int := date.toDays * 86400 + hour * 3600 + minute * 60 + second - offset * 60
  return ⟨seconds * 1000000000 + nanos⟩

def padded (width n : Nat) : String :=
  let s := toString n
  String.ofList (List.replicate (width - s.length) '0') ++ s

/-- Universal time to the second. -/
def write (t : Timestamp) : String :=
  let seconds := t.nanoseconds.fdiv 1000000000
  let days := seconds.fdiv 86400
  let rest := (seconds - days * 86400).toNat
  let d := Date.ofDays days
  padded 4 d.year.toNat ++ "-" ++ padded 2 d.month ++ "-" ++ padded 2 d.day ++ "T" ++
    padded 2 (rest / 3600) ++ ":" ++ padded 2 (rest / 60 % 60) ++ ":" ++ padded 2 (rest % 60) ++
    "Z"

/-- A number of seconds in the largest unit that fits. -/
def duration (seconds : Nat) : String :=
  if seconds < 60 then s!"{seconds}s"
  else if seconds < 3600 then s!"{seconds / 60}m"
  else if seconds < 86400 then s!"{seconds / 3600}h"
  else s!"{seconds / 86400}d"

/-- How long before `now` a timestamp was; one in the future has age zero. -/
def age (now created : Timestamp) : String :=
  duration ((now.nanoseconds - created.nanoseconds).tdiv 1000000000).toNat

end Timestamp

end ClusterScript
