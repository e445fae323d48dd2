import FilterQuery.Time.Instant

/-!
# Timestamps of RFC 3339

`Rfc3339` is the grammar of section 5.6 of RFC 3339, with the letters between date and time and for
UTC, and the last second of a minute, as parameters: the RFC also allows small letters and the second
60. With capital letters and without the second 60 it is what is read (`read?_rfc3339`).
-/

namespace FilterQuery

/-- A number and the text it is written with, in a given number of digits. -/
structure Digits (width n : Nat) (cs : List Char) : Prop where
  length : cs.length = width
  each : ∀ c ∈ cs, c.isDigit = true
  value : Nat.ofDigitChars 10 cs 0 = n

instance {width n : Nat} {cs : List Char} : Decidable (Digits width n cs) :=
  decidable_of_iff
    (cs.length = width ∧ cs.all Char.isDigit = true ∧ Nat.ofDigitChars 10 cs 0 = n)
    ⟨fun ⟨length, each, value⟩ => ⟨length, List.all_eq_true.mp each, value⟩,
      fun ⟨length, each, value⟩ => ⟨length, List.all_eq_true.mpr each, value⟩⟩

/-- The fraction of a second, or nothing. -/
inductive SecondFraction : List Char → Prop
  | none : SecondFraction []
  | digits {ds : List Char} (nonempty : ds ≠ []) (each : ∀ c ∈ ds, c.isDigit = true) :
    SecondFraction ('.' :: ds)

inductive TimeOffset (utc : List Char) : List Char → Prop
  | utc {z : Char} (known : z ∈ utc) : TimeOffset utc [z]
  | numeric {sign : Char} {h m : Nat} {hs ms : List Char} (signed : sign ∈ ['+', '-'])
    (hour : Digits 2 h hs) (hourRange : h ≤ 23) (minute : Digits 2 m ms) (minuteRange : m ≤ 59) :
    TimeOffset utc (sign :: (hs ++ ':' :: ms))

inductive FullDate : List Char → Prop
  | date {y m d : Nat} {ys ms ds : List Char} (year : Digits 4 y ys) (month : Digits 2 m ms)
    (monthRange : 1 ≤ m ∧ m ≤ 12) (day : Digits 2 d ds) (dayRange : 1 ≤ d ∧ d ≤ Date.daysIn y m) :
    FullDate (ys ++ '-' :: (ms ++ '-' :: ds))

inductive PartialTime (lastSecond : Nat) : List Char → Prop
  | time {h m s : Nat} {hs ms ss fraction : List Char} (hour : Digits 2 h hs) (hourRange : h ≤ 23)
    (minute : Digits 2 m ms) (minuteRange : m ≤ 59) (second : Digits 2 s ss)
    (secondRange : s ≤ lastSecond) (isFraction : SecondFraction fraction) :
    PartialTime lastSecond (hs ++ ':' :: (ms ++ ':' :: (ss ++ fraction)))

inductive Rfc3339 (separators utc : List Char) (lastSecond : Nat) : List Char → Prop
  | dateTime {date time offset : List Char} {t : Char} (isDate : FullDate date)
    (separator : t ∈ separators) (isTime : PartialTime lastSecond time)
    (isOffset : TimeOffset utc offset) :
    Rfc3339 separators utc lastSecond (date ++ t :: (time ++ offset))

namespace Timestamp

/-! ### Numbers -/

theorem year?_digits {n : Nat} {cs : List Char} (digits : Digits 4 n cs) (rest : List Char) :
    year? (cs ++ rest) = some (n, rest) := by
  obtain ⟨length, each, value⟩ := digits
  match cs, length with
  | [a, b, c, d], _ =>
    have all : [a, b, c, d].all Char.isDigit = true := List.all_eq_true.mpr each
    refine (if_pos all).trans ?_
    rw [← value]
    simp only [Nat.ofDigitChars, List.foldl, Nat.mul_comm 10]
    rfl

theorem number?_digits {n : Nat} {cs : List Char} (digits : Digits 2 n cs) (short : Bool)
    (rest : List Char) : number? short (cs ++ rest) = some (n, rest) := by
  obtain ⟨length, each, value⟩ := digits
  match cs, length with
  | [a, b], _ =>
    simp only [List.forall_mem_cons] at each
    have both : (a.isDigit && b.isDigit) = true := by rw [each.1, each.2.1]; rfl
    refine (if_pos both).trans ?_
    rw [← value]
    simp only [Nat.ofDigitChars, List.foldl, Nat.mul_comm 10, Nat.zero_mul, Nat.zero_add]
    rfl

theorem char?_cons (c : Char) (rest : List Char) : char? c (c :: rest) = some rest := if_pos rfl

/-! ### Parts -/

theorem date?_fullDate {cs : List Char} (isDate : FullDate cs) (rest : List Char) :
    ∃ d, date? false (cs ++ rest) = some (d, rest) ∧ dayExists d = true := by
  cases isDate with
  | @date y m d ys ms ds year month monthRange day dayRange =>
    refine ⟨⟨y, m, d⟩, ?_, ?_⟩
    · have inRange : ¬(m = 0 ∨ 12 < m) := by omega
      simp only [List.append_assoc, List.cons_append, date?, year?_digits year, char?_cons,
        number?_digits month, number?_digits day, Option.bind_eq_bind, Option.bind_some,
        if_neg inRange]
    · simp only [dayExists, Bool.and_eq_true, decide_eq_true_eq]
      exact dayRange

/-- What stands behind the fraction of a second is not taken for a part of it. -/
def EndsFraction (cs : List Char) : Prop :=
  ∀ c rest, cs = c :: rest → c.isDigit = false ∧ c ≠ '.' ∧ c ≠ ','

theorem fraction_secondFraction {cs rest : List Char} (isFraction : SecondFraction cs)
    (ends : EndsFraction rest) : (fraction (cs ++ rest)).2 = rest := by
  cases isFraction with
  | none =>
    rw [List.nil_append, fraction.eq_def]
    split
    · rename_i p d t
      obtain ⟨_, noPoint, noComma⟩ := ends p (d :: t) rfl
      rw [if_neg fun start => start.1.elim noPoint noComma]
    · rfl
  | @digits ds nonempty each =>
    obtain ⟨d, ds, rfl⟩ := List.exists_cons_of_ne_nil nonempty
    have first : d.isDigit = true := each d List.mem_cons_self
    have taken : (d :: ds ++ rest).takeWhile Char.isDigit = d :: ds := by
      rw [List.takeWhile_append_of_pos each]
      cases rest with
      | nil => rw [List.takeWhile_nil, List.append_nil]
      | cons c rest =>
        have stop : ¬c.isDigit = true := by rw [(ends c rest rfl).1]; exact Bool.false_ne_true
        rw [List.takeWhile_cons_of_neg stop, List.append_nil]
    have point : ('.' = '.' ∨ '.' = ',') ∧ d.isDigit = true := ⟨.inl rfl, first⟩
    refine (congrArg Prod.snd (if_pos point)).trans ?_
    change List.drop ((d :: ds ++ rest).takeWhile Char.isDigit).length (d :: ds ++ rest) = rest
    rw [taken, List.drop_left]

theorem offset?_timeOffset {cs : List Char} (isOffset : TimeOffset ['Z'] cs) :
    EndsFraction cs ∧ ∃ n, offset? cs = some (n, []) := by
  cases isOffset with
  | utc known =>
    obtain rfl := List.mem_singleton.mp known
    refine ⟨?_, 0, rfl⟩
    intro c rest same
    cases same
    decide
  | @numeric sign h m hs ms signed hour hourRange minute minuteRange =>
    have hours := number?_digits hour false []
    have minutes := number?_digits minute false []
    have inRange : ¬(h > 24 ∨ m > 60) := by omega
    match hs, hour.length, ms, minute.length with
    | [h₁, h₂], _, [m₁, m₂], _ =>
      rw [List.append_nil] at hours minutes
      simp only [List.mem_cons, List.not_mem_nil, or_false] at signed
      rcases signed with rfl | rfl
      all_goals
        constructor
        · intro c rest same
          cases same
          decide
        · simp [offset?, hours, minutes, inRange]

/-- A timestamp with capital letters, and without a leap second, is read. -/
theorem read?_rfc3339 {cs : List Char} (timestamp : Rfc3339 ['T'] ['Z'] 59 cs) :
    ∃ t, read? .rfc3339 cs = some t := by
  cases timestamp with
  | @dateTime date time offset t isDate separator isTime isOffset =>
    obtain rfl := List.mem_singleton.mp separator
    cases isTime with
    | @time h m s hs ms ss fraction hour hourRange minute minuteRange second secondRange isFraction =>
      obtain ⟨d, dateRead, dayThere⟩ := date?_fullDate isDate
        ('T' :: (hs ++ ':' :: (ms ++ ':' :: (ss ++ fraction)) ++ offset))
      obtain ⟨ends, n, offsetRead⟩ := offset?_timeOffset isOffset
      have left := fraction_secondFraction isFraction ends
      have inRange : ¬(24 ≤ h ∨ 60 ≤ m ∨ 60 ≤ s) := by omega
      have separated (rest : List Char) : separator? 'T' ('T' :: rest) = some rest := rfl
      simp only [List.append_assoc, List.cons_append] at dateRead ⊢
      simp only [read?, Form.rfc3339, dateRead, separated, number?_digits hour, number?_digits minute,
        number?_digits second, char?_cons, Option.bind_eq_bind, Option.bind_some, if_neg inRange, left,
        if_true, offsetRead, dayThere, List.isEmpty_nil, Bool.and_self]
      exact ⟨_, rfl⟩

end Timestamp

end FilterQuery
