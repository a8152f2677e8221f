/-!
# Days and times

A time is a number of seconds since the start of the year 1970. Days have 86400 seconds, and the
calendar is the one with a leap day in every fourth year apart from three years in four centuries.
Times are read from texts and shown by formats; no place is known but the one whose time is shown.
-/

set_option autoImplicit false

namespace SuiteCoverage
namespace Calendar

/-- A date: the year, the month and the day of the month, both counted from one. -/
structure Date where
  year : Int
  month : Nat
  day : Nat
deriving DecidableEq, Repr

/-- The number of days from the first of January 1970 to a date. -/
def daysOf (date : Date) : Int :=
  let year := if date.month ≤ 2 then date.year - 1 else date.year
  let era := Int.fdiv year 400
  let yearOfEra := year - era * 400
  let shifted : Int := ((date.month + 9) % 12 : Nat)
  let dayOfYear := (153 * shifted + 2) / 5 + date.day - 1
  let dayOfEra := yearOfEra * 365 + yearOfEra / 4 - yearOfEra / 100 + dayOfYear
  era * 146097 + dayOfEra - 719468

/-- The date a number of days after the first of January 1970. -/
def dateOf (days : Int) : Date :=
  let shifted := days + 719468
  let era := Int.fdiv shifted 146097
  let dayOfEra := shifted - era * 146097
  let yearOfEra :=
    (dayOfEra - dayOfEra / 1460 + dayOfEra / 36524 - dayOfEra / 146096) / 365
  let dayOfYear := dayOfEra - (365 * yearOfEra + yearOfEra / 4 - yearOfEra / 100)
  let shiftedMonth := (5 * dayOfYear + 2) / 153
  let day := (dayOfYear - (153 * shiftedMonth + 2) / 5 + 1).toNat
  let month := if shiftedMonth < 10 then shiftedMonth.toNat + 3 else shiftedMonth.toNat - 9
  ⟨yearOfEra + era * 400 + (if month ≤ 2 then 1 else 0), month, day⟩

/-- The seconds of a day. -/
def daySeconds : Int := 86400

/-- A point in time. -/
structure Moment where
  date : Date
  hour : Nat
  minute : Nat
  second : Nat
  /-- The part of a second that has passed, in billionths. -/
  nanos : Nat
deriving DecidableEq, Repr

/-- The point in time a number of seconds, and of billionths of a second, after 1970. -/
def Moment.ofSeconds (seconds : Int) (nanos : Nat) : Moment :=
  let days := Int.fdiv seconds daySeconds
  let rest := (seconds - days * daySeconds).toNat
  ⟨dateOf days, rest / 3600, rest / 60 % 60, rest % 60, nanos⟩

/-- The number of seconds since 1970. -/
def Moment.seconds (m : Moment) : Int :=
  daysOf m.date * daySeconds + m.hour * 3600 + m.minute * 60 + m.second

/-- The day of the week, from Sunday. -/
def Moment.weekday (m : Moment) : Nat := (Int.fmod (daysOf m.date + 4) 7).toNat

/-- The day of the year, from zero. -/
def Moment.yearDay (m : Moment) : Nat := (daysOf m.date - daysOf ⟨m.date.year, 1, 1⟩).toNat

def weekdayNames : List String :=
  ["Sunday", "Monday", "Tuesday", "Wednesday", "Thursday", "Friday", "Saturday"]

def monthNames : List String :=
  ["January", "February", "March", "April", "May", "June", "July", "August", "September",
    "October", "November", "December"]

/-! ## Showing -/

/-- The week of the year, if weeks start on a day and the days before the first such day belong to
    week zero. -/
def Moment.week (m : Moment) (firstDay : Nat) : Nat :=
  (m.yearDay + 7 - (m.weekday + 7 - firstDay) % 7) / 7

/-- The year and the week of the year where a week belongs to the year that has most of it. -/
def Moment.isoWeek (m : Moment) : Int × Nat :=
  let weekday := (m.weekday + 6) % 7
  let thursday := daysOf m.date - weekday + 3
  let year := (dateOf thursday).year
  (year, ((thursday - daysOf ⟨year, 1, 1⟩) / 7).toNat + 1)

/-- How a number is filled up. -/
inductive Filling where
  | zeros
  | blanks
  | none
deriving DecidableEq

/-- A number with as many digits as asked for. -/
def filled (filling : Filling) (width : Nat) (n : Int) : String :=
  let digits := toString n.natAbs
  let sign := if n < 0 then "-" else ""
  let missing := width - digits.length - sign.length
  match filling with
  | .zeros => sign ++ String.ofList (List.replicate missing '0') ++ digits
  | .blanks => String.ofList (List.replicate missing ' ') ++ sign ++ digits
  | .none => sign ++ digits

/-- A number of seconds as hours and minutes. -/
def zoneText (offset : Int) (colon : Bool) : String :=
  let minutes := offset.natAbs / 60
  let two (n : Nat) : String := filled .zeros 2 n
  (if offset < 0 then "-" else "+") ++ two (minutes / 60) ++ (if colon then ":" else "")
    ++ two (minutes % 60)

/-- How a part of a format is shown. -/
structure Spec where
  filling : Option Filling
  isUpper : Bool
  isSwapped : Bool
  width : Option Nat
  colons : Nat

/-- What a letter of a format stands for: a number with its usual filling and width, or a text; or
    another format. -/
inductive Part where
  | number (n : Int) (filling : Filling) (width : Nat)
  | text (text : String)
  | format (text : String)

/-- What a letter of a format stands for. -/
def part? (m : Moment) (offset : Int) (zone : String) (spec : Spec) (c : Char) : Option Part :=
  let hour12 := if m.hour % 12 = 0 then 12 else m.hour % 12
  let weekday := weekdayNames[m.weekday]?.getD ""
  let month := monthNames[m.date.month - 1]?.getD ""
  let short (name : String) : String := String.ofList (name.toList.take 3)
  let (isoYear, isoWeek) := m.isoWeek
  match c with
  | '%' => some (.text "%")
  | 'n' => some (.text "\n")
  | 't' => some (.text "\t")
  | 'a' => some (.text (short weekday))
  | 'A' => some (.text weekday)
  | 'b' => some (.text (short month))
  | 'h' => some (.text (short month))
  | 'B' => some (.text month)
  | 'c' => some (.format "%a %b %e %H:%M:%S %Y")
  | 'C' => some (.number (Int.fdiv m.date.year 100) .zeros 2)
  | 'd' => some (.number m.date.day .zeros 2)
  | 'D' => some (.format "%m/%d/%y")
  | 'e' => some (.number m.date.day .blanks 2)
  | 'F' => some (.format "%+4Y-%m-%d")
  | 'g' => some (.number (Int.fmod isoYear 100) .zeros 2)
  | 'G' => some (.number isoYear .zeros 1)
  | 'H' => some (.number m.hour .zeros 2)
  | 'I' => some (.number hour12 .zeros 2)
  | 'j' => some (.number (m.yearDay + 1) .zeros 3)
  | 'k' => some (.number m.hour .blanks 2)
  | 'l' => some (.number hour12 .blanks 2)
  | 'm' => some (.number m.date.month .zeros 2)
  | 'M' => some (.number m.minute .zeros 2)
  | 'N' => some (.number m.nanos .zeros 9)
  | 'p' => some (.text (if m.hour < 12 then "AM" else "PM"))
  | 'P' => some (.text (if m.hour < 12 then "am" else "pm"))
  | 'q' => some (.number ((m.date.month + 2) / 3) .zeros 1)
  | 'r' => some (.format "%I:%M:%S %p")
  | 'R' => some (.format "%H:%M")
  | 's' => some (.number (m.seconds - offset) .zeros 1)
  | 'S' => some (.number m.second .zeros 2)
  | 'T' => some (.format "%H:%M:%S")
  | 'u' => some (.number ((m.weekday + 6) % 7 + 1) .zeros 1)
  | 'U' => some (.number (m.week 0) .zeros 2)
  | 'V' => some (.number isoWeek .zeros 2)
  | 'w' => some (.number m.weekday .zeros 1)
  | 'W' => some (.number (m.week 1) .zeros 2)
  | 'x' => some (.format "%m/%d/%y")
  | 'X' => some (.format "%H:%M:%S")
  | 'y' => some (.number (Int.fmod m.date.year 100) .zeros 2)
  | 'Y' => some (.number m.date.year .zeros 1)
  | 'z' => some (.text (zoneText offset (0 < spec.colons)))
  | 'Z' => some (.text zone)
  | _ => none

/-- Reads what stands between a percent sign and a letter. -/
def readSpec : Spec → List Char → Spec × List Char
  | spec, '-' :: rest => readSpec { spec with filling := some .none } rest
  | spec, '_' :: rest => readSpec { spec with filling := some .blanks } rest
  | spec, '0' :: rest => readSpec { spec with filling := some .zeros } rest
  | spec, '+' :: rest => readSpec { spec with filling := some .zeros } rest
  | spec, '^' :: rest => readSpec { spec with isUpper := true } rest
  | spec, '#' :: rest => readSpec { spec with isSwapped := true } rest
  | spec, rest =>
    let digits := rest.takeWhile Char.isDigit
    let after := rest.drop digits.length
    let colons := after.takeWhile (· == ':')
    ({ spec with
        width := if digits.isEmpty then none else (String.ofList digits).toNat?
        colons := colons.length },
      after.drop colons.length)

/-- A text as wide as asked for. -/
def widened (spec : Spec) (text : String) : String :=
  let fill := if spec.filling == some .zeros then '0' else ' '
  String.ofList (List.replicate (spec.width.getD 0 - text.length) fill) ++ text

/-- Shows a point in time by a format. -/
def showUpTo (m : Moment) (offset : Int) (zone : String) : Nat → List Char → List Char
  | 0, _ => []
  | _, [] => []
  | fuel + 1, '%' :: rest =>
    let (spec, after) := readSpec ⟨none, false, false, none, 0⟩ rest
    let letters := match after with
      | 'E' :: more => more
      | 'O' :: more => more
      | more => more
    match letters with
    | [] => '%' :: rest
    | c :: more =>
      let shown := match part? m offset zone spec c with
        | none => "%" ++ String.ofList (rest.take (rest.length - more.length))
        | some (.number n filling width) =>
          let filling := spec.filling.getD filling
          if c == 'N' then
            let digits := filled .zeros 9 n
            String.ofList (digits.toList.take (spec.width.getD 9))
          else filled filling (max width (spec.width.getD 0)) n
        | some (.text text) =>
          let text := if spec.isUpper then text.toUpper
            else if spec.isSwapped then
              (if text == text.toUpper then text.toLower else text.toUpper)
            else text
          widened spec text
        | some (.format text) =>
          let text := String.ofList (showUpTo m offset zone fuel text.toList)
          widened spec (if spec.isUpper then text.toUpper else text)
      shown.toList ++ showUpTo m offset zone fuel more
  | fuel + 1, c :: rest => c :: showUpTo m offset zone fuel rest

/-- Shows a point in time by a format; `offset` is by how many seconds the clocks there are ahead, and
    `zone` the name of the place. -/
def Moment.shown (m : Moment) (offset : Int) (zone format : String) : String :=
  String.ofList (showUpTo m offset zone (4 * format.length + 40) format.toList)

/-! ## Reading -/

/-- A word of a text that tells a time. -/
inductive Word where
  | number (digits : String)
  | name (name : String)
  | sign (c : Char)
deriving DecidableEq, Repr

/-- The words of a text. -/
def wordsUpTo : Nat → List Char → List Word
  | 0, _ => []
  | _, [] => []
  | fuel + 1, c :: rest =>
    if c.isDigit then
      let digits := (c :: rest).takeWhile Char.isDigit
      .number (String.ofList digits) :: wordsUpTo fuel ((c :: rest).drop digits.length)
    else if c.isAlpha then
      let letters := (c :: rest).takeWhile fun c => c.isAlpha || c == '.'
      let after := (c :: rest).drop letters.length
      .name (String.ofList ((letters.filter (· != '.')).map Char.toLower)) :: wordsUpTo fuel after
    else if c == ' ' || c == '\t' || c == ',' || c == '\n' then wordsUpTo fuel rest
    else .sign c :: wordsUpTo fuel rest

/-- What has been read of a time. -/
structure Reading where
  date : Option Date
  clock : Option (Nat × Nat × Nat × Nat)
  /-- By how many seconds the clocks are ahead. -/
  zone : Option Int
  seconds : Option (Int × Nat)
  weekday : Option (Nat × Int)
  months : Int
  days : Int
  shift : Int

/-- Nothing has been read. -/
def Reading.nothing : Reading := ⟨none, none, none, none, none, 0, 0, 0⟩

/-- The month with a name. -/
def month? (name : String) : Option Nat :=
  (monthNames.zipIdx 1).findSome? fun (month, n) =>
    let lower := month.toLower
    if name == lower || name == String.ofList (lower.toList.take 3)
        || (name == "sept" && n == 9) then some n
    else none

/-- The day of the week with a name. -/
def weekday? (name : String) : Option Nat :=
  (weekdayNames.zipIdx).findSome? fun (day, n) =>
    let lower := day.toLower
    let short := String.ofList (lower.toList.take 3)
    if name == lower || name == short || (name == "tues" && n == 2) || (name == "wednes" && n == 3)
        || (["thur", "thurs"].contains name && n == 4) then some n
    else none

/-- Adds so many of a unit. -/
def Reading.adding (r : Reading) (count : Int) (unit : String) : Option Reading :=
  let singular := if unit.endsWith "s" then (unit.dropEnd 1).toString else unit
  match singular with
  | "year" => some { r with months := r.months + 12 * count }
  | "month" => some { r with months := r.months + count }
  | "fortnight" => some { r with days := r.days + 14 * count }
  | "week" => some { r with days := r.days + 7 * count }
  | "day" => some { r with days := r.days + count }
  | "hour" => some { r with shift := r.shift + 3600 * count }
  | "minute" => some { r with shift := r.shift + 60 * count }
  | "min" => some { r with shift := r.shift + 60 * count }
  | "second" => some { r with shift := r.shift + count }
  | "sec" => some { r with shift := r.shift + count }
  | _ => none

/-- The number of some digits. -/
def value (digits : String) : Nat := (digits.toNat?).getD 0

/-- A year of which two digits may be all that is given. -/
def fullYear (digits : String) : Int :=
  let n := value digits
  if digits.length == 2 then (if n < 69 then 2000 + n else 1900 + n : Nat) else n

/-- Whether words tell a unit before now. -/
def isAgo : List Word → Bool
  | .name "ago" :: _ => true
  | _ => false

/-- Reads words, as far as they tell a time. -/
def readUpTo : Nat → Reading → List Word → Option Reading
  | 0, _, _ => none
  | _, r, [] => some r
  | fuel + 1, r, words =>
    let go := readUpTo fuel
    let amount (count : Int) (unit : String) (rest : List Word) : Option Reading :=
      if isAgo rest then (r.adding (-count) unit).bind fun r => go r (rest.drop 1)
      else (r.adding count unit).bind fun r => go r rest
    let clock (h m s n : Nat) (rest : List Word) : Option Reading :=
      if 24 < h || 59 < m || 60 < s then none
      else
        match rest with
        | .name "am" :: rest =>
          go { r with clock := some (if h = 12 then 0 else h, m, s, n) } rest
        | .name "pm" :: rest =>
          go { r with clock := some (if h = 12 then 12 else h + 12, m, s, n) } rest
        | .sign '+' :: .number z :: rest =>
          let (offset, rest) := zone z rest
          go { r with clock := some (h, m, s, n), zone := some offset } rest
        | .sign '-' :: .number z :: rest =>
          let (offset, rest) := zone z rest
          go { r with clock := some (h, m, s, n), zone := some (-offset) } rest
        | rest => go { r with clock := some (h, m, s, n) } rest
    let dated (date : Date) (rest : List Word) : Option Reading :=
      if r.date.isSome || date.month = 0 || 12 < date.month || date.day = 0
          || dateOf (daysOf date) != date then none
      else
        match rest with
        | .name "t" :: rest => go { r with date := some date } rest
        | rest => go { r with date := some date } rest
    match words with
    | .sign '@' :: .number n :: .sign '.' :: .number f :: rest =>
      go { r with seconds := some (value n, value (String.ofList ((f.toList ++
        List.replicate 9 '0').take 9))) } rest
    | .sign '@' :: .sign '-' :: .number n :: rest =>
      go { r with seconds := some (-(value n : Int), 0) } rest
    | .sign '@' :: .number n :: rest => go { r with seconds := some (value n, 0) } rest
    | .number y :: .sign '-' :: .number m :: .sign '-' :: .number d :: rest =>
      dated ⟨fullYear y, value m, value d⟩ rest
    | .number y :: .sign '/' :: .number m :: .sign '/' :: .number d :: rest =>
      if 2 < y.length then dated ⟨fullYear y, value m, value d⟩ rest
      else dated ⟨fullYear d, value y, value m⟩ rest
    | .number h :: .sign ':' :: .number m :: .sign ':' :: .number s :: .sign '.' :: .number f
        :: rest =>
      clock (value h) (value m) (value s)
        (value (String.ofList ((f.toList ++ List.replicate 9 '0').take 9))) rest
    | .number h :: .sign ':' :: .number m :: .sign ':' :: .number s :: rest =>
      clock (value h) (value m) (value s) 0 rest
    | .number h :: .sign ':' :: .number m :: rest => clock (value h) (value m) 0 0 rest
    | .number d :: .name name :: rest =>
      match month? name with
      | some month =>
        match rest with
        | .number y :: rest => dated ⟨fullYear y, month, value d⟩ rest
        | rest => dated ⟨0, month, value d⟩ rest
      | none =>
        if name == "am" || name == "pm" then clock (value d) 0 0 0 (.name name :: rest)
        else if name == "t" then dated (compact d) (.name "t" :: rest)
        else amount (value d) name rest
    | .sign '+' :: .number n :: .name unit :: rest => amount (value n) unit rest
    | .sign '-' :: .number n :: .name unit :: rest => amount (-(value n : Int)) unit rest
    | .number n :: rest =>
      if n.length == 8 then dated (compact n) rest
      else if n.length == 4 && r.date.isSome && r.clock.isNone then
        clock (value n / 100) (value n % 100) 0 0 rest
      else none
    | .name name :: rest =>
      match month? name, rest with
      | some month, .number d :: .number y :: rest => dated ⟨fullYear y, month, value d⟩ rest
      | some month, .number d :: rest => dated ⟨0, month, value d⟩ rest
      | _, _ =>
        match weekday? name with
        | some day => go { r with weekday := some (day, 0) } rest
        | none =>
          match name, rest with
          | "now", _ => go r rest
          | "today", _ => go r rest
          | "yesterday", _ => go { r with days := r.days - 1 } rest
          | "tomorrow", _ => go { r with days := r.days + 1 } rest
          | "midnight", _ => go { r with clock := some (0, 0, 0, 0) } rest
          | "noon", _ => go { r with clock := some (12, 0, 0, 0) } rest
          | "z", _ => go { r with zone := some 0 } rest
          | "utc", _ => go { r with zone := some 0 } rest
          | "gmt", _ => go { r with zone := some 0 } rest
          | "last", .name unit :: rest => amount (-1) unit rest
          | "next", .name unit :: rest => amount 1 unit rest
          | "a", .name unit :: rest => amount 1 unit rest
          | unit, rest => amount 1 unit rest
    | _ => none
where
  /-- A date written with digits alone. -/
  compact (digits : String) : Date :=
    let n := value digits
    ⟨n / 10000, n / 100 % 100, n % 100⟩
  /-- By how many seconds the clocks are ahead, from the digits behind a sign on. -/
  zone (z : String) (rest : List Word) : Int × List Word :=
    if 2 < z.length then ((value z / 100 * 60 + value z % 100) * 60, rest)
    else
      match rest with
      | .sign ':' :: .number m :: rest => ((value z * 60 + value m) * 60, rest)
      | rest => (value z * 3600, rest)

/-- The time that a text tells, in seconds and billionths of a second, if it is `now`; `offset` is by
    how many seconds the clocks here are ahead. -/
def read? (now : Int × Nat) (offset : Int) (text : String) : Option (Int × Nat) :=
  let words := wordsUpTo (text.length + 1) text.toList
  let today := Moment.ofSeconds (now.1 + offset) now.2
  (readUpTo (2 * words.length + 2) .nothing words).map fun r =>
    match r.seconds with
    | some (seconds, nanos) => (seconds + r.days * daySeconds + r.shift, nanos)
    | none =>
      let isRelative := r.date.isNone && r.clock.isNone && r.weekday.isNone && !words.isEmpty
      let date := (r.date.map fun date =>
        if date.year = 0 then { date with year := today.date.year } else date).getD today.date
      let (h, m, s, n) := r.clock.getD
        (if isRelative then (today.hour, today.minute, today.second, today.nanos) else (0, 0, 0, 0))
      let months := date.year * 12 + (date.month - 1 : Nat) + r.months
      let first : Date := ⟨Int.fdiv months 12, (Int.fmod months 12).toNat + 1, 1⟩
      let days := daysOf first + (date.day - 1 : Nat) + r.days
      let days := match r.weekday with
        | some (day, _) =>
          let current := (Int.fmod (days + 4) 7).toNat
          days + ((day + 7 - current) % 7 : Nat)
        | none => days
      (days * daySeconds + h * 3600 + m * 60 + s - (r.zone.getD offset) + r.shift, n)

end Calendar
end SuiteCoverage
