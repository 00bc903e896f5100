import Retail.Instant.Basic

/-!
# Reading instants

An instant is written as a date, a time of day and the offset of its clock from universal time.
Notes in brackets may follow: first the name or the offset of a zone, then pairs of a key and a
value. They say nothing about the instant, but a pair that is marked as critical is refused.

## Main definitions

* `Instant.date?`, `Instant.timeOfDay?`, `Instant.offset?`: the parts
* `Instant.notes`: the notes
* `Instant.ofText?`: the reader
-/

namespace Retail

namespace Instant

/-- A number of exactly `count` digits at the front, and the rest. -/
def digits? (count : Nat) (chars : List Char) : Option (Nat × List Char) :=
  let front := chars.take count
  if front.length == count && front.all Char.isDigit then
    some (front.foldl (fun value c => value * 10 + (c.toNat - '0'.toNat)) 0, chars.drop count)
  else none

/-- A year of four digits, or of six with a sign. -/
def year? : List Char → Option (Int × List Char)
  | '+' :: rest => (digits? 6 rest).map fun (year, rest) => (year, rest)
  | '-' :: rest => (digits? 6 rest).bind fun (year, rest) =>
    if year == 0 then none else some (-year, rest)
  | rest => (digits? 4 rest).map fun (year, rest) => (year, rest)

/-- The days from 1970 to a date with or without hyphens. -/
def date? (chars : List Char) : Option (Int × List Char) := do
  let (year, rest) ← year? chars
  let (month, day, rest) ← match rest with
    | '-' :: rest => do
      let (month, rest) ← digits? 2 rest
      match rest with
      | '-' :: rest => do
        let (day, rest) ← digits? 2 rest
        some (month, day, rest)
      | _ => none
    | _ => do
      let (month, rest) ← digits? 2 rest
      let (day, rest) ← digits? 2 rest
      some (month, day, rest)
  if year.natAbs ≤ 9999 && 1 ≤ month && month ≤ 12 && 1 ≤ day && day ≤ daysInMonth year month then
    some (daysFromCivil year month day, rest)
  else none

/-- Hours, minutes and seconds, of which only the hours need be there, with colons between all of
them or none. -/
def clock? (chars : List Char) : Option (Nat × Nat × Nat × Bool × List Char) := do
  let (hour, rest) ← digits? 2 chars
  match rest with
  | ':' :: rest => do
    let (minute, rest) ← digits? 2 rest
    match rest with
    | ':' :: rest => do
      let (second, rest) ← digits? 2 rest
      some (hour, minute, second, true, rest)
    | _ => some (hour, minute, 0, false, rest)
  | _ =>
    match digits? 2 rest with
    | none => some (hour, 0, 0, false, rest)
    | some (minute, rest) =>
      match digits? 2 rest with
      | none => some (hour, minute, 0, false, rest)
      | some (second, rest) => some (hour, minute, second, true, rest)

/-- One to nine digits behind a point or comma, as nanoseconds. -/
def fraction? : List Char → Option (Nat × List Char)
  | c :: rest =>
    if c == '.' || c == ',' then
      let front := rest.takeWhile Char.isDigit
      if front.isEmpty || 9 < front.length then none
      else (digits? front.length rest).map fun (value, rest) =>
        (value * Nat.pow 10 (9 - front.length), rest)
    else some (0, c :: rest)
  | [] => some (0, [])

/-- Hours, minutes, seconds and nanoseconds, of which the last need the seconds before them. -/
def fineClock? (chars : List Char) : Option (Nat × Nat × Nat × Nat × List Char) := do
  let (hour, minute, second, exact, rest) ← clock? chars
  let (nanosecond, rest) ← if exact then fraction? rest else some (0, rest)
  some (hour, minute, second, nanosecond, rest)

/-- The nanoseconds since midnight. A second of 60 is read as 59. -/
def timeOfDay? (chars : List Char) : Option (Nat × List Char) := do
  let (hour, minute, second, nanosecond, rest) ← fineClock? chars
  if hour ≤ 23 && minute ≤ 59 && second ≤ 60 then
    some (((hour * 60 + minute) * 60 + min second 59) * 1000000000 + nanosecond, rest)
  else none

/-! ## Offsets and notes -/

/-- The seconds of the largest offset. -/
def maxOffset : Nat := 93599

/-- An offset from universal time in seconds, at the end of the text. A part of a second is rounded,
a half going away from zero. -/
def offset? : List Char → Option Int
  | ['Z'] => some 0
  | ['z'] => some 0
  | sign :: rest => do
    let (hour, minute, second, nanosecond, rest) ← fineClock? rest
    let seconds := (hour * 60 + minute) * 60 + second + (nanosecond + 500000000) / 1000000000
    if rest.isEmpty && minute ≤ 59 && second ≤ 59 && seconds ≤ maxOffset then
      if sign == '+' then some seconds else if sign == '-' then some (-seconds) else none
    else none
  | [] => none

/-- Whether the text is part of the name of a zone. -/
def isZonePart (part : List Char) : Bool :=
  let isLetter (c : Char) : Bool := c.isAlpha || c == '_' || c == '.'
  part.head?.any isLetter && part.all fun c => isLetter c || c.isDigit || c == '+' || c == '-'

/-- Whether the text is a zone: an offset without seconds, or a name. -/
def isZone (text : List Char) : Bool :=
  if text.head? == some '+' || text.head? == some '-' then (offset? text).isSome && text.length ≤ 6
  else ((String.ofList text).splitOn "/").all (isZonePart ·.toList)

/-- Whether the text is the key of a pair. -/
def isKey (text : List Char) : Bool :=
  text.head?.any (fun c => c.isLower || c == '_')
    && text.all fun c => c.isLower || c.isDigit || c == '_' || c == '-'

/-- Whether the text is the value of a pair. -/
def isValue (text : List Char) : Bool :=
  ((String.ofList text).splitOn "-").all fun part =>
    !part.isEmpty && part.toList.all Char.isAlphanum

/-- Whether the text is a note; only the first one may be a zone. -/
def isNote (first : Bool) (text : List Char) : Bool :=
  let critical := text.head? == some '!'
  let text := if critical then text.drop 1 else text
  match text.dropWhile (· != '=') with
  | [] => first && isZone text
  | _ :: value => !critical && isKey (text.takeWhile (· != '=')) && isValue value

/-- Whether the text is a row of notes, given the characters of the note that is being read, the
last one first. -/
def notes (first : Bool) : Option (List Char) → List Char → Bool
  | none, [] => true
  | none, c :: rest => c == '[' && notes first (some []) rest
  | some _, [] => false
  | some read, c :: rest =>
    if c == ']' then isNote first read.reverse && notes false none rest
    else notes first (some (c :: read)) rest

/-! ## Instants -/

/-- The seconds of the first and the last instant that can be read. -/
def firstSecond : Int := -377705023201

/-- No instant that can be read is later than in this second. -/
def lastSecond : Int := 253402207200

/-- Reads a date and a time of day with an offset, and notes behind them. -/
def ofText? (text : String) : Option Instant := do
  let (days, rest) ← date? text.toList
  match rest with
  | c :: rest =>
    if c == 'T' || c == 't' || c == ' ' then
      let (time, rest) ← timeOfDay? rest
      let offset ← offset? (rest.takeWhile (· != '['))
      let nanoseconds := (days * 86400 - offset) * 1000000000 + time
      if firstSecond ≤ nanoseconds / 1000000000 && nanoseconds / 1000000000 ≤ lastSecond
          && notes true none (rest.dropWhile (· != '[')) then
        some ⟨nanoseconds⟩
      else none
    else none
  | [] => none

end Instant

end Retail
