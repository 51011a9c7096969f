import Carryover.Calendar.Text
import Carryover.Number.Literal

/-!
# Reading dates, times and durations

```
date      ::= yyyy '-' mm '-' dd
time      ::= hh ':' mm (':' ss (('.' | ',') digit+)?)? zone?
zone      ::= 'Z' | 'z' | ('+' | '-') hh ':'? mm
datetime  ::= date ('T' | 't' | ' ' | '_') time  |  date
duration  ::= sign? 'P' iso-parts  |  sign? (days 'day' 's'? ','? ' '?)? hh ':' mm (':' ss fraction?)?
```

Digits of a fraction after the sixth are dropped. A number stands for the seconds since
1970-01-01, or for milliseconds when it is beyond twenty thousand millions; the days before
1600-01-01 and after 9999-12-31 have no such number.
-/

namespace Carryover
namespace Calendar

open Number

-- A power is the one of the core library, whatever other powers are in scope.
attribute [local instance (high)] instPowNat

/-- Exactly `width` digits at the start of a text, and the rest. -/
def fixedDigits? (width : Nat) (cs : List Char) : Option (Nat × List Char) :=
  let ds := cs.take width
  if ds.length = width && ds.all Char.isDigit then some (ofDigits ds, cs.drop width) else none

/-- Drops a character that has to stand at the start of a text. -/
def skip? (p : Char → Bool) : List Char → Option (List Char)
  | [] => none
  | c :: rest => if p c then some rest else none

/-- A date at the start of a text, and the rest. -/
def dateStart? (cs : List Char) : Option (Date × List Char) := do
  let (year, cs) ← fixedDigits? 4 cs
  let cs ← skip? (· == '-') cs
  let (month, cs) ← fixedDigits? 2 cs
  let cs ← skip? (· == '-') cs
  let (day, cs) ← fixedDigits? 2 cs
  let date ← Date.of? year month day
  some (date, cs)

/-- The microseconds that the digits after a point stand for. -/
def fractionMicros (ds : List Char) : Nat :=
  ofDigits ((ds ++ List.replicate 6 '0').take 6)

/-- The seconds after the minutes, with a fraction, and the rest. -/
def secondsStart? (cs : List Char) : Option (Nat × Nat × List Char) := do
  match cs with
  | ':' :: cs =>
    let (second, cs) ← fixedDigits? 2 cs
    match cs with
    | c :: more =>
      if c == '.' || c == ',' then
        let (ds, rest) := spanDigits more
        if ds.isEmpty then none else some (second, fractionMicros ds, rest)
      else some (second, 0, cs)
    | [] => some (second, 0, [])
  | _ => some (0, 0, cs)

/-- An offset from UTC that takes the whole text; no text is no offset. -/
def zone? (cs : List Char) : Option (Option Int) :=
  match cs with
  | [] => some none
  | ['Z'] => some (some 0)
  | ['z'] => some (some 0)
  | c :: rest =>
    if c == '+' || c == '-' || c == '−' then do
      let (hours, rest) ← fixedDigits? 2 rest
      let rest := (skip? (· == ':') rest).getD rest
      let (minutes, rest) ← fixedDigits? 2 rest
      if rest.isEmpty && minutes < 60 && hours < 24 then
        let seconds : Int := hours * 3600 + minutes * 60
        some (some (if c == '+' then seconds else -seconds))
      else none
    else none

/-- A time of day that takes the whole text. -/
def readTime? (cs : List Char) : Option Time := do
  let (hour, cs) ← fixedDigits? 2 cs
  let cs ← skip? (· == ':') cs
  let (minute, cs) ← fixedDigits? 2 cs
  let (second, micro, cs) ← secondsStart? cs
  let offset ← zone? cs
  Time.of? hour minute second micro offset

/-- A date that takes the whole text. -/
def readDate? (cs : List Char) : Option Date := do
  let (date, rest) ← dateStart? cs
  if rest.isEmpty then some date else none

/-- A date and a time, or a date alone for its midnight, that take the whole text. -/
def readDateTime? (cs : List Char) : Option DateTime := do
  let (date, rest) ← dateStart? cs
  match rest with
  | [] => some ⟨date, .midnight⟩
  | c :: rest =>
    if c == 'T' || c == 't' || c == ' ' || c == '_' then
      let time ← readTime? rest
      some ⟨date, time⟩
    else none

/-- The moment that many microseconds after the beginning of 1970-01-01 in UTC. -/
def ofEpochMicros? (micros : Int) : Option DateTime := do
  let seconds := Int.fdiv micros 1000000
  if seconds < -11676096000 || 253402300799 < seconds then none
  else
    let date ← Date.ofDays? (Int.fdiv seconds 86400)
    let time ← Time.ofMicros? (Int.fmod micros 86400000000).toNat (some 0)
    some ⟨date, time⟩

/-- The moment that a number of seconds, or of milliseconds if it is large, stands for. -/
def ofTimestamp? (n : Rat) : Option DateTime :=
  let micros := if n.abs ≤ 20000000000 then n * 1000000 else n * 1000
  ofEpochMicros? (micros + 1 / 2).floor

/-- A plain number that takes the whole text: a sign, digits and a fraction. -/
def plainNumber? (cs : List Char) : Option Rat :=
  if cs.any fun c => c == 'e' || c == 'E' then none
  else (Scientific.ofChars? cs).map fun n =>
    let magnitude := mkRat (n.digits * 10 ^ n.exponent.toNat : Nat) (10 ^ (-n.exponent).toNat)
    if n.negative then -magnitude else magnitude

/-- The parts of an ISO duration before or after its `T`, each a number and the letter of a
unit, in microseconds. -/
def isoParts? (units : List (Char × Nat)) : Nat → List Char → Option Nat
  | _, [] => some 0
  | 0, _ => none
  | fuel + 1, cs => do
    let (whole, rest) := spanDigits cs
    let (part, rest) :=
      match rest with
      | '.' :: more => spanDigits more
      | _ => ([], rest)
    if whole.isEmpty then none
    else
      match rest with
      | [] => none
      | c :: rest =>
        let unit ← (units.find? fun u => u.1 == c).map (·.2)
        let amount := ofDigits whole * unit * 1000000 + fractionMicros part * unit
        let more ← isoParts? units fuel rest
        some (amount + more)

/-- The units of an ISO duration before its `T`, in seconds. -/
def dateUnits : List (Char × Nat) :=
  [('Y', 31536000), ('M', 2592000), ('W', 604800), ('D', 86400)]

/-- The units of an ISO duration after its `T`, in seconds. -/
def timeUnits : List (Char × Nat) :=
  [('H', 3600), ('M', 60), ('S', 1)]

/-- The part of an ISO duration after its `P`, in microseconds. -/
def isoDuration? (cs : List Char) : Option Nat := do
  let (date, rest) := cs.span (· != 'T')
  let days ← isoParts? dateUnits date.length date
  match rest with
  | [] => if date.isEmpty then none else some days
  | _ :: time =>
    if time.isEmpty then none
    else
      let clock ← isoParts? timeUnits time.length time
      some (days + clock)

/-- The clock of a duration, in microseconds. -/
def clockDuration? (cs : List Char) : Option Nat := do
  let (hours, rest) := spanDigits cs
  let rest ← skip? (· == ':') rest
  let (minutes, rest) ← fixedDigits? 2 rest
  let (seconds, micros, rest) ← secondsStart? rest
  if hours.isEmpty || !rest.isEmpty || 60 ≤ minutes || 60 ≤ seconds then none
  else some (((ofDigits hours * 60 + minutes) * 60 + seconds) * 1000000 + micros)

/-- Days and a clock, in microseconds. -/
def daysDuration? (cs : List Char) : Option Nat :=
  let (days, rest) := spanDigits cs
  let rest := rest.dropWhile (· == ' ')
  match rest with
  | d :: rest =>
    if (d == 'd' || d == 'D') && !days.isEmpty then
      let rest := if Double.asciiLower (rest.take 3) = "ays".toList then rest.drop 3
        else if Double.asciiLower (rest.take 2) = "ay".toList then rest.drop 2
        else rest
      let rest := ((skip? (· == ',') rest).getD rest).dropWhile (· == ' ')
      let clock := if rest.isEmpty then some 0 else clockDuration? rest
      clock.map (ofDigits days * 86400000000 + ·)
    else clockDuration? cs
  | [] => none

/-- A duration that takes the whole text. -/
def readDuration? (cs : List Char) : Option Duration := do
  let (negative, rest) := Scientific.sign cs
  let n ← match rest with
    | 'P' :: rest => isoDuration? rest
    | _ => daysDuration? rest
  some ⟨if negative then -n else n⟩

end Calendar
end Carryover
