import FilterQuery.Value.Basic

/-!
# Dates and times in TOML

A date, a time of day, both of them, or both with an offset. Only the last is a point in time; the
others are values of their own types, which show nothing of their parts.
-/

namespace FilterQuery.Config.Toml

inductive MomentKind where
  | date
  | time
  | dateTime
  /-- Date and time with an offset. -/
  | instant
deriving DecidableEq, Repr

inductive MomentFault where
  | dateForm
  | noDigit
  | impossibleDate
  | dateTimeForm
  | separator
  | timeForm
  | hour
  | hourColon
  | minute
  | minuteColon
  | second
  | fraction
  | emptyFraction
  | offsetForm
  | offsetSign
  | offsetColon
  | offsetHours
  | offsetMinutes
  | afterOffset
  | afterTime
  | afterDateTime
deriving DecidableEq, Repr

def MomentFault.message : MomentFault → String
  | .dateForm => "dates are expected to have the format YYYY-MM-DD"
  | .noDigit => "expected digit (0-9)"
  | .impossibleDate => "impossible date"
  | .dateTimeForm =>
    "local datetimes are expected to have the format YYYY-MM-DDTHH:MM:SS[.NNNNNNNNN]"
  | .separator => "datetime separator is expected to be T or a space"
  | .timeForm => "times are expected to have the format HH:MM:SS[.NNNNNN]"
  | .hour => "hour cannot be greater 23"
  | .hourColon => "expecting colon between hours and minutes"
  | .minute => "minutes cannot be greater 59"
  | .minuteColon => "expecting colon between minutes and seconds"
  | .second => "seconds cannot be greater 60"
  | .fraction => "need at least one digit after fraction point"
  | .emptyFraction => "nanoseconds need at least one digit"
  | .offsetForm => "invalid date-time timezone"
  | .offsetSign => "invalid timezone offset character"
  | .offsetColon => "expected a : separator"
  | .offsetHours => "invalid timezone offset hours"
  | .offsetMinutes => "invalid timezone offset minutes"
  | .afterOffset => "extra bytes at the end of the timezone"
  | .afterTime => "extra characters at the end of a local time"
  | .afterDateTime => "extra characters at the end of a local date time"

def digits (cs : List Char) : Except MomentFault Nat :=
  if cs.all Char.isDigit then .ok (cs.foldl (fun n c => n * 10 + (c.toNat - '0'.toNat)) 0)
  else .error .noDigit

/-- Reads a date that takes the whole text. -/
def readDate : List Char → Except MomentFault Date
  | [y₁, y₂, y₃, y₄, '-', m₁, m₂, '-', d₁, d₂] => do
    let year ← digits [y₁, y₂, y₃, y₄]
    let month ← digits [m₁, m₂]
    let day ← digits [d₁, d₂]
    let date : Date := ⟨year, month, day⟩
    if 1 ≤ month ∧ month ≤ 12 ∧ Timestamp.dayExists date then return date
    else throw .impossibleDate
  | _ => .error .dateForm

structure Clock where
  hour : Nat
  minute : Nat
  second : Nat
  nanos : Nat := 0

/-- Reads a fraction of a second behind its point; digits beyond the ninth are dropped. -/
def readFraction (cs : List Char) : Except MomentFault (Nat × List Char) :=
  match cs with
  | [] => .error .emptyFraction
  | c :: _ =>
    if c.isDigit then .ok (Timestamp.fraction ('.' :: cs)) else .error .fraction

def readClock : List Char → Except MomentFault (Clock × List Char)
  | h₁ :: h₂ :: colon₁ :: m₁ :: m₂ :: colon₂ :: s₁ :: s₂ :: rest => do
    let hour ← digits [h₁, h₂]
    if 23 < hour then throw .hour
    if colon₁ ≠ ':' then throw .hourColon
    let minute ← digits [m₁, m₂]
    if 59 < minute then throw .minute
    if colon₂ ≠ ':' then throw .minuteColon
    let second ← digits [s₁, s₂]
    if 60 < second then throw .second
    match rest with
    | '.' :: rest =>
      let (nanos, rest) ← readFraction rest
      return (⟨hour, minute, second, nanos⟩, rest)
    | rest => return (⟨hour, minute, second, 0⟩, rest)
  | _ => .error .timeForm

def readDateTime (cs : List Char) : Except MomentFault (Date × Clock × List Char) :=
  match cs.drop 10 with
  | [] => .error .dateTimeForm
  | separator :: rest => do
    let date ← readDate (cs.take 10)
    unless ['T', 't', ' '].contains separator do throw .separator
    let (clock, rest) ← readClock rest
    return (date, clock, rest)

/-- Reads an offset, in seconds, that takes the whole text. -/
def readOffset : List Char → Except MomentFault Int
  | [sign, h₁, h₂, colon, m₁, m₂] => do
    if isZulu sign then throw .afterOffset
    unless sign = '+' ∨ sign = '-' do throw .offsetSign
    if colon ≠ ':' then throw .offsetColon
    let hours ← digits [h₁, h₂]
    if 23 < hours then throw .offsetHours
    let minutes ← digits [m₁, m₂]
    if 59 < minutes then throw .offsetMinutes
    let seconds : Int := hours * 3600 + minutes * 60
    return if sign = '-' then -seconds else seconds
  | [c] => if isZulu c then .ok 0 else .error .offsetForm
  | c :: _ => .error (if isZulu c then .afterOffset else .offsetForm)
  | [] => .error .offsetForm
where
  /-- The letter that stands for no offset. -/
  isZulu (c : Char) : Bool := c == 'Z' || c == 'z'

def moment (kind : MomentKind) (cs : List Char) : Except MomentFault Value :=
  match kind with
  | .date => do
    let _ ← readDate cs
    return .sealed "toml.LocalDate"
  | .time => do
    let (_, rest) ← readClock cs
    if rest.isEmpty then return .sealed "toml.LocalTime" else throw .afterTime
  | .dateTime => do
    let (_, _, rest) ← readDateTime cs
    if rest.isEmpty then return .sealed "toml.LocalDateTime" else throw .afterDateTime
  | .instant => do
    let (date, clock, rest) ← readDateTime cs
    let offset ← readOffset rest
    return .time (.ofFields date clock.hour clock.minute clock.second clock.nanos offset)

end FilterQuery.Config.Toml
