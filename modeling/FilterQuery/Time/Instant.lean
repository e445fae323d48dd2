import FilterQuery.Time.Calendar

/-!
# Instants

A point in time with the offset it was written in. The written form is that of RFC 3339 with as
many digits of the second's fraction as it needs.
-/

namespace FilterQuery

/-- A point in time: seconds since 1970-01-01T00:00:00Z, nanoseconds within the second, and the
offset from UTC, in seconds, in which it is shown. A time that was taken from the clock also has a
reading of the monotonic clock in nanoseconds; a time that was read from a text has none. -/
structure Instant where
  seconds : Int
  nanos : Nat
  offset : Int := 0
  monotonic : Option Int := none
deriving DecidableEq, Repr

namespace Instant

/-- The order by the time of day and the calendar. -/
def compareWall (a b : Instant) : Ordering :=
  (Ord.compare a.seconds b.seconds).then (Ord.compare a.nanos b.nanos)

/-- Two times with readings of the monotonic clock are compared by these alone. -/
def compare (a b : Instant) : Ordering :=
  match a.monotonic, b.monotonic with
  | some m, some n => Ord.compare m n
  | _, _ => compareWall a b

/-- The numbers that an instant is stored as: the nanoseconds, and the seconds since the year one. With
a reading of the clock they are one word, in which the seconds count from 1885, and the reading. -/
def words (t : Instant) : List Int :=
  match t.monotonic with
  | none => [t.nanos, t.seconds + 62135596800]
  | some reading => [0x8000000000000000 + (t.seconds + 2682288000) * 0x40000000 + t.nanos, reading]

/-- Milliseconds since 1970, rounded down. -/
def unixMillis (t : Instant) : Int := t.seconds * 1000 + (t.nanos / 1000000 : Nat)

/-- The instant that many milliseconds after 1970, shown in UTC. -/
def ofUnixMillis (ms : Int) : Instant where
  seconds := Int.fdiv ms 1000
  nanos := (Int.fmod ms 1000).toNat * 1000000

def padded (width n : Nat) : String :=
  let ds := Nat.toDigits 10 n
  String.ofList (List.replicate (width - ds.length) '0' ++ ds)

def date (t : Instant) : Date := .ofDays (Int.fdiv (t.seconds + t.offset) 86400)

/-- The year, with a sign if it is before the year zero. -/
def yearText (year : Int) : String :=
  if year < 0 then "-" ++ padded 4 year.natAbs else padded 4 year.natAbs

/-- The fraction of a second, without trailing zeros. -/
def fractionText (nanos : Nat) : String :=
  if nanos = 0 then ""
  else
    let ds := (padded 9 nanos).toList.reverse.dropWhile (· == '0')
    "." ++ String.ofList ds.reverse

/-- The offset: `Z`, or hours and minutes. -/
def offsetText (offset : Int) : String :=
  if offset = 0 then "Z"
  else
    let minutes := Int.tdiv offset 60
    let sign := if minutes < 0 then "-" else "+"
    let m := minutes.natAbs
    sign ++ padded 2 (m / 60) ++ ":" ++ padded 2 (m % 60)

def dateText (t : Instant) : String :=
  let d := t.date
  yearText d.year ++ "-" ++ padded 2 d.month ++ "-" ++ padded 2 d.day

def clockText (t : Instant) : String :=
  let s := (Int.fmod (t.seconds + t.offset) 86400).toNat
  padded 2 (s / 3600) ++ ":" ++ padded 2 (s / 60 % 60) ++ ":" ++ padded 2 (s % 60) ++
    fractionText t.nanos

/-- The written form, RFC 3339. -/
def text (t : Instant) : String := t.dateText ++ "T" ++ t.clockText ++ offsetText t.offset

/-- The reading of the monotonic clock in seconds, for messages. -/
def readingText (reading : Int) : String :=
  let n := reading.natAbs
  " m=" ++ (if reading < 0 then "-" else "+") ++ toString (n / 1000000000) ++ "." ++
    padded 9 (n % 1000000000)

/-- The form in messages: date, time, offset, the name of the zone, and the reading of the clock. -/
def display (t : Instant) : String :=
  let minutes := (Int.tdiv t.offset 60).natAbs
  let offset := (if Int.tdiv t.offset 60 < 0 then "-" else "+") ++
    padded 2 (minutes / 60) ++ padded 2 (minutes % 60)
  -- a zone without a name is shown by its offset once more
  t.dateText ++ " " ++ t.clockText ++ " " ++ offset ++ " " ++
    (if t.offset = 0 then "UTC" else offset) ++ (t.monotonic.map readingText).getD ""

/-- The instant of a date and a time of day at an offset. -/
def ofFields (d : Date) (hour minute second nanos : Nat) (offset : Int) : Instant where
  seconds := d.toDays * 86400 + (hour * 3600 + minute * 60 + second : Nat) - offset
  nanos := nanos
  offset := offset

end Instant

/-! ## Reading -/

namespace Timestamp

/-- Exactly four digits. -/
def year? : List Char → Option (Nat × List Char)
  | a :: b :: c :: d :: rest =>
    if [a, b, c, d].all Char.isDigit then
      some ([a, b, c, d].foldl (fun n x => n * 10 + (x.toNat - '0'.toNat)) 0, rest)
    else none
  | _ => none

/-- A number of two digits, or of one if `short` numbers are allowed. -/
def number? (short : Bool) : List Char → Option (Nat × List Char)
  | a :: b :: rest =>
    if a.isDigit && b.isDigit then
      some ((a.toNat - '0'.toNat) * 10 + (b.toNat - '0'.toNat), rest)
    else if a.isDigit && short then some (a.toNat - '0'.toNat, b :: rest)
    else none
  | [a] => if a.isDigit && short then some (a.toNat - '0'.toNat, []) else none
  | [] => none

def char? (c : Char) : List Char → Option (List Char)
  | x :: rest => if x = c then some rest else none
  | [] => none

/-- What separates date and time: the given character, or a run of blanks for a blank. -/
def separator? (c : Char) (cs : List Char) : Option (List Char) :=
  (char? c cs).map fun rest => if c = ' ' then rest.dropWhile (· == ' ') else rest

/-- A fraction of a second in nanoseconds, after a point or a comma. -/
def fraction (cs : List Char) : Nat × List Char :=
  match cs with
  -- without a digit there is no fraction
  | p :: d :: _ =>
    if (p = '.' ∨ p = ',') ∧ d.isDigit then
      let ds := cs.tail.takeWhile Char.isDigit
      -- digits below the nanosecond are dropped
      let kept := ds.take 9
      let n := kept.foldl (fun n x => n * 10 + (x.toNat - '0'.toNat)) 0
      (n * Nat.pow 10 (9 - kept.length), cs.tail.drop ds.length)
    else (0, cs)
  | _ => (0, cs)

/-- An offset: `Z`, or a sign, hours and minutes. -/
def offset? : List Char → Option (Int × List Char)
  | 'Z' :: rest => some (0, rest)
  | sign :: h₁ :: h₂ :: ':' :: m₁ :: m₂ :: rest => do
    let (h, _) ← number? false [h₁, h₂]
    let (m, _) ← number? false [m₁, m₂]
    -- the greatest hour and minute are one more than those of a day
    if h > 24 ∨ m > 60 then none
    else
      let n : Int := (h * 60 + m) * 60
      match sign with
      | '+' => some (n, rest)
      | '-' => some (-n, rest)
      | _ => none
  | _ => none

/-- A form of timestamps: whether months, days, minutes and seconds may have one digit, what
stands between date and time, and whether an offset follows. -/
structure Form where
  short : Bool
  separator : Char
  zoned : Bool

def Form.rfc3339 : Form := ⟨false, 'T', true⟩

def date? (short : Bool) (cs : List Char) : Option (Date × List Char) := do
  let (y, cs) ← year? cs
  let cs ← char? '-' cs
  let (m, cs) ← number? short cs
  let cs ← char? '-' cs
  let (d, cs) ← number? short cs
  if m = 0 ∨ 12 < m then none
  else some (⟨y, m, d⟩, cs)

def dayExists (d : Date) : Bool := 1 ≤ d.day && d.day ≤ Date.daysIn d.year d.month

/-- Reads a complete timestamp of the given form. -/
def read? (form : Form) (cs : List Char) : Option Instant := do
  let (d, cs) ← date? form.short cs
  let cs ← separator? form.separator cs
  -- the hour may have one digit in every form
  let (h, cs) ← number? true cs
  let cs ← char? ':' cs
  let (m, cs) ← number? form.short cs
  let cs ← char? ':' cs
  let (s, cs) ← number? form.short cs
  if 24 ≤ h ∨ 60 ≤ m ∨ 60 ≤ s then none
  else
    let (n, cs) := fraction cs
    let (offset, cs) ← if form.zoned then offset? cs else some (0, cs)
    if cs.isEmpty && dayExists d then some (.ofFields d h m s n offset) else none

/-- Reads a complete date as the midnight it starts with. -/
def readDate? (cs : List Char) : Option Instant := do
  let (d, cs) ← date? true cs
  if cs.isEmpty && dayExists d then some (.ofFields d 0 0 0 0 0) else none

end Timestamp

def Instant.ofText? (s : String) : Option Instant := Timestamp.read? .rfc3339 s.toList

end FilterQuery
