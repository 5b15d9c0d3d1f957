import Turnstile.Time.Calendar
import Turnstile.Time.Instant
import Turnstile.Text.Blank
import Turnstile.Text.Numeral

/-!
Time stamps in the notation of internet documents: date, time of day and offset from universal time.
They are written in universal time with as few groups of three fraction digits as are needed, and
read leniently: with an offset, with blanks around the parts, and with fewer digits.
-/

namespace Turnstile.Stamp

/-! ## Writing -/

/-- The year: four digits, or a sign and at least four. -/
def yearText (year : Int) : List Char :=
  let digits := fun n => Text.paddedDigits (max 4 (Text.digitCount n)) n
  if 0 ≤ year ∧ year ≤ 9999 then digits year.natAbs
  else (if year < 0 then '-' else '+') :: digits year.natAbs

/-- The fraction of a second: none, or three, six or nine digits. -/
def fractionText (nanos : Nat) : List Char :=
  if nanos = 0 then []
  else if nanos % 1000000 = 0 then '.' :: Text.paddedDigits 3 (nanos / 1000000)
  else if nanos % 1000 = 0 then '.' :: Text.paddedDigits 6 (nanos / 1000)
  else '.' :: Text.paddedDigits 9 nanos

/-- The characters of a time stamp. A leap second is the sixtieth of its minute. -/
def chars (t : Instant) : List Char :=
  let (year, month, day) := Calendar.dateOf (t.seconds / 86400)
  let time := (t.seconds % 86400).toNat
  let leap := t.nanos / 1000000000
  let two := Text.paddedDigits 2
  yearText year ++ '-' :: two month ++ '-' :: two day ++ 'T' :: two (time / 3600) ++
    ':' :: two (time / 60 % 60) ++ ':' :: two (time % 60 + leap) ++
    fractionText (t.nanos % 1000000000) ++ ['Z']

/-- The text of a time stamp. -/
def write (t : Instant) : String := .ofList (chars t)

/-! ## Reading -/

/-- A reader of a part of a stamp: its value and what follows it. -/
abbrev Reader (α : Type) := StateT (List Char) Option α

/-- Drops the blanks at the start. -/
def skipBlanks : Reader Unit := modify (·.dropWhile Text.isBlank)

/-- The next character. -/
def next : Reader Char := do
  match ← get with
  | c :: rest => set rest; return c
  | [] => failure

/-- At most `most` digits and at least one. -/
def digits (most : Nat) : Reader (List Char) := do
  let cs ← get
  let run := (cs.take most).takeWhile Text.isDigit
  if run.isEmpty then failure
  set (cs.drop run.length)
  return run

/-- A number of at most `most` digits, behind blanks. -/
def number (most : Nat) : Reader Nat := do
  skipBlanks
  return Text.digitsValue (← digits most)

/-- One of two given characters. -/
def oneOf (choices : List Char) : Reader Unit := do
  let c ← next
  unless choices.contains c do failure

/-- A mark between two numbers, behind blanks. -/
def mark (c : Char) : Reader Unit := do
  skipBlanks
  oneOf [c]

/-- A year: up to four digits, or a sign and any number of digits. -/
def year : Reader Int := do
  skipBlanks
  match ← get with
  | '-' :: rest => set rest; return -(Text.digitsValue (← digits rest.length) : Int)
  | '+' :: rest => set rest; return Text.digitsValue (← digits rest.length)
  | _ => return Text.digitsValue (← digits 4)

/-- The nanoseconds of a fraction: nine digits count, further ones are passed over. -/
def fraction : Reader Nat := do
  match ← get with
  | '.' :: rest =>
    set rest
    let run ← digits 9
    modify (·.dropWhile Text.isDigit)
    return Text.digitsValue run * Nat.pow 10 (9 - run.length)
  | _ => return 0

/-- Two digits below a bound. -/
def twoDigits (bound : Nat) : Reader Nat := do
  let run ← digits 2
  let n := Text.digitsValue run
  if run.length = 2 ∧ n < bound then return n else failure

/-- The offset from universal time in seconds: a letter Z, the word UTC, or hours and minutes behind
a sign. -/
def offset : Reader Int := do
  skipBlanks
  match ← get with
  | 'u' :: rest | 'U' :: rest =>
    match rest with
    | t :: c :: rest =>
      if (t = 't' ∨ t = 'T') ∧ (c = 'c' ∨ c = 'C') then set rest; return 0 else failure
    | _ => failure
  | 'z' :: rest | 'Z' :: rest => set rest; return 0
  | _ =>
    let sign ← next
    let negative := sign = '-' ∨ sign = '−'
    unless negative ∨ sign = '+' do failure
    let hours ← twoDigits 100
    modify (·.dropWhile fun c => c = ':' || Text.isBlank c)
    let minutes ← twoDigits 60
    if hours < 24 then
      let seconds : Int := hours * 3600 + minutes * 60
      return if negative then -seconds else seconds
    else failure

/-- A whole time stamp: date, one of `T`, `t` and a space, time of day, offset. A minute may have a
sixtieth second, which is a leap second. Both the local and the universal time have to be in range.
-/
def stamp : Reader Instant := do
  let y ← year
  mark '-'
  let m ← number 2
  mark '-'
  let d ← number 2
  oneOf ['T', 't', ' ']
  let hour ← number 2
  mark ':'
  let minute ← number 2
  mark ':'
  let second ← number 2
  let nanos ← fraction
  let shift ← offset
  skipBlanks
  unless (← get).isEmpty do failure
  unless 1 ≤ m ∧ m ≤ 12 ∧ 1 ≤ d ∧ d ≤ Calendar.monthLength y m do failure
  unless hour < 24 ∧ minute < 60 ∧ second ≤ 60 do failure
  let leap := if second = 60 then 1 else 0
  let here := Calendar.dayOf y m d * 86400 + hour * 3600 + minute * 60 + (second - leap : Nat)
  let nanos := nanos + leap * 1000000000
  match Instant.ofParts? here nanos, Instant.ofParts? (here - shift) nanos with
  | some _, some t => return t
  | _, _ => failure

/-- The instant that a text names. -/
def read? (s : String) : Option Instant := (stamp.run s.toList).map Prod.fst

end Turnstile.Stamp
