import TextTemplate.Time.Moment

/-!
# Formats for moments

A format is text with directives: a percent sign, perhaps a padding mark, and a letter.
A format is read whole before anything is written, so one wrong directive spoils it all.
A padding mark is allowed only before a directive that stands for a single number.
-/

namespace TextTemplate

namespace TimeFormat

/-- What a number is filled up with on its left. -/
inductive Padding where
  | nothing
  | blank
  | zero
  deriving DecidableEq, Repr

/-- A number that a directive writes. -/
inductive NumberField where
  | year
  | century
  | yearOfCentury
  | weekYear
  | weekYearOfCentury
  | quarter
  | month
  | day
  | ordinal
  | weekFromSunday
  | weekFromMonday
  | week
  | daysSinceSunday
  | weekday
  | hour
  | clockHour
  | minute
  | second
  | nanosecond
  | timestamp
  deriving DecidableEq, Repr

/-- A name or a composed form that a directive writes. -/
inductive TextField where
  | weekdayName
  | shortWeekdayName
  | monthName
  | shortMonthName
  | dayHalf
  | smallDayHalf
  /-- The digits behind the decimal point of the second, as many as it takes. -/
  | fraction
  /-- A number of digits of the nanoseconds, with or without a decimal point. -/
  | digits (count : Nat) (point : Bool)
  /-- The distance from universal time in hours; with minutes and seconds as
  `parts` says. -/
  | offset (separator : String) (parts : Nat)
  deriving DecidableEq, Repr

/-- A part of a format. -/
inductive Item where
  | literal (c : Char)
  | number (field : NumberField) (padding : Padding)
  | text (field : TextField)
  deriving DecidableEq, Repr

/-! ## Writing -/

/-- The names of the weekdays, from Monday. -/
def weekdayNames : List String :=
  ["Monday", "Tuesday", "Wednesday", "Thursday", "Friday", "Saturday", "Sunday"]

/-- The names of the months. -/
def monthNames : List String :=
  ["January", "February", "March", "April", "May", "June", "July", "August",
    "September", "October", "November", "December"]

/-- Fills digits up to a width. -/
def pad (padding : Padding) (width : Nat) (text : String) : String :=
  match padding with
  | .nothing => text
  | .blank => String.ofList (text.toList.leftpad width ' ')
  | .zero => String.ofList (text.toList.leftpad width '0')

/-- A whole number with its digits filled up to a width; the sign goes in front
of zeros. -/
def padInt (padding : Padding) (width : Nat) (number : Int) : String :=
  if 0 ≤ number then pad padding width (toString number)
  else
    match padding with
    | .zero => "-" ++ pad .zero (width - 1) (toString number.natAbs)
    | _ => pad padding width (toString number)

/-- A year. Years of other than four digits carry a sign. -/
def printYear (padding : Padding) (year : Int) : String :=
  if 0 ≤ year && year ≤ 9999 then padInt padding 4 year
  else if year < 0 then padInt padding 5 year
  else
    match padding with
    | .zero => "+" ++ pad .zero 4 (toString year)
    | _ => pad padding 5 ("+" ++ toString year)

/-- The digits of a number field. -/
def printNumber (moment : Moment) (padding : Padding) : NumberField → String
  | .year => printYear padding moment.year
  | .century => padInt padding 2 (moment.year / 100)
  | .yearOfCentury => padInt padding 2 (moment.year % 100)
  | .weekYear => printYear padding moment.weekYear
  | .weekYearOfCentury => padInt padding 2 (moment.weekYear % 100)
  | .quarter => padInt padding 1 moment.quarter
  | .month => padInt padding 2 moment.month
  | .day => padInt padding 2 moment.day
  | .ordinal => padInt padding 3 moment.ordinal
  | .weekFromSunday => padInt padding 2 (moment.weekOfYear moment.daysSinceSunday)
  | .weekFromMonday => padInt padding 2 (moment.weekOfYear moment.daysSinceMonday)
  | .week => padInt padding 2 moment.week
  | .daysSinceSunday => padInt padding 1 moment.daysSinceSunday
  | .weekday => padInt padding 1 (moment.daysSinceMonday + 1)
  | .hour => padInt padding 2 moment.hour
  | .clockHour => padInt padding 2 moment.clockHour
  | .minute => padInt padding 2 moment.minute
  | .second => padInt padding 2 moment.second
  | .nanosecond => padInt padding 9 moment.nanosecond
  | .timestamp => padInt padding 9 moment.timestamp

/-- The first digits of nine digits of nanoseconds. -/
def printDigits (count nanosecond : Nat) : String :=
  padInt .zero count (nanosecond / Nat.pow 10 (9 - count))

/-- The digits behind the decimal point: none, three, six or nine. -/
def printFraction (nanosecond : Nat) : String :=
  if nanosecond = 0 then ""
  else if nanosecond % 1000000 = 0 then "." ++ printDigits 3 nanosecond
  else if nanosecond % 1000 = 0 then "." ++ printDigits 6 nanosecond
  else "." ++ printDigits 9 nanosecond

/-- A distance from universal time. -/
def printOffset (separator : String) (parts : Nat) (offset : Int) : String :=
  let seconds := offset.natAbs
  (if offset < 0 then "-" else "+") ++
    separator.intercalate
      (([seconds / 3600, seconds / 60 % 60, seconds % 60].take parts).map
        fun (part : Nat) => padInt .zero 2 part)

/-- The text of a text field. -/
def printText (moment : Moment) : TextField → String
  | .weekdayName => weekdayNames.getD moment.daysSinceMonday ""
  | .shortWeekdayName => ((weekdayNames.getD moment.daysSinceMonday "").take 3).toString
  | .monthName => monthNames.getD (moment.month - 1) ""
  | .shortMonthName => ((monthNames.getD (moment.month - 1) "").take 3).toString
  | .dayHalf => if moment.hour < 12 then "AM" else "PM"
  | .smallDayHalf => if moment.hour < 12 then "am" else "pm"
  | .fraction => printFraction moment.nanosecond
  | .digits count point =>
    (if point then "." else "") ++ printDigits count moment.nanosecond
  | .offset separator parts => printOffset separator parts moment.offset

/-- The text of an item. -/
def Item.print (moment : Moment) : Item → String
  | literal c => String.singleton c
  | number field padding => printNumber moment padding field
  | text field => printText moment field

/-! ## Reading -/

/-- The number of a directive that stands for a single one, with its usual padding. -/
def numberDirective? : Char → Option (NumberField × Padding)
  | 'C' => some (.century, .zero)
  | 'G' => some (.weekYear, .zero)
  | 'H' => some (.hour, .zero)
  | 'I' => some (.clockHour, .zero)
  | 'M' => some (.minute, .zero)
  | 'S' => some (.second, .zero)
  | 'U' => some (.weekFromSunday, .zero)
  | 'V' => some (.week, .zero)
  | 'W' => some (.weekFromMonday, .zero)
  | 'Y' => some (.year, .zero)
  | 'd' => some (.day, .zero)
  | 'e' => some (.day, .blank)
  | 'f' => some (.nanosecond, .zero)
  | 'g' => some (.weekYearOfCentury, .zero)
  | 'j' => some (.ordinal, .zero)
  | 'k' => some (.hour, .blank)
  | 'l' => some (.clockHour, .blank)
  | 'm' => some (.month, .zero)
  | 'q' => some (.quarter, .nothing)
  | 's' => some (.timestamp, .nothing)
  | 'u' => some (.weekday, .nothing)
  | 'w' => some (.daysSinceSunday, .nothing)
  | 'y' => some (.yearOfCentury, .zero)
  | _ => none

/-- The items of month, day and year between slashes. -/
def slashedDate : List Item :=
  [.number .month .zero, .literal '/', .number .day .zero, .literal '/',
    .number .yearOfCentury .zero]

/-- The items of year, month and day between hyphens. -/
def hyphenedDate : List Item :=
  [.number .year .zero, .literal '-', .number .month .zero, .literal '-',
    .number .day .zero]

/-- The items of hour and minute. -/
def shortTime : List Item :=
  [.number .hour .zero, .literal ':', .number .minute .zero]

/-- The items of hour, minute and second. -/
def fullTime : List Item :=
  shortTime ++ [.literal ':', .number .second .zero]

/-- The items of a directive of one letter. -/
def directive? (c : Char) : Option (List Item) :=
  match numberDirective? c with
  | some (field, padding) => some [.number field padding]
  | none =>
    match c with
    | 'A' => some [.text .weekdayName]
    | 'B' => some [.text .monthName]
    | 'D' => some slashedDate
    | 'F' => some hyphenedDate
    | 'P' => some [.text .smallDayHalf]
    | 'R' => some shortTime
    | 'T' => some fullTime
    | 'X' => some fullTime
    | 'Z' => some [.text (.offset ":" 2)]
    | 'a' => some [.text .shortWeekdayName]
    | 'b' => some [.text .shortMonthName]
    | 'c' =>
      some ([.text .shortWeekdayName, .literal ' ', .text .shortMonthName, .literal ' ',
        .number .day .blank, .literal ' '] ++ fullTime ++
          [.literal ' ', .number .year .zero])
    | 'h' => some [.text .shortMonthName]
    | 'n' => some [.literal '\n']
    | 'p' => some [.text .dayHalf]
    | 'r' =>
      some [.number .clockHour .zero, .literal ':', .number .minute .zero, .literal ':',
        .number .second .zero, .literal ' ', .text .dayHalf]
    | 't' => some [.literal '\t']
    | 'v' =>
      some [.number .day .blank, .literal '-', .text .shortMonthName, .literal '-',
        .number .year .zero]
    | 'x' => some slashedDate
    | 'z' => some [.text (.offset "" 2)]
    | '+' =>
      some (hyphenedDate ++ [.literal 'T'] ++ fullTime ++ [.text .fraction,
        .text (.offset ":" 2)])
    | '%' => some [.literal '%']
    | _ => none

/-- How far a directive has been read. -/
inductive Pending where
  /-- Outside directives. -/
  | text
  /-- Behind the percent sign. -/
  | sign
  /-- Behind a padding mark. -/
  | padded (padding : Padding)
  /-- Behind a number of colons. -/
  | colons (count : Nat)
  /-- Behind a decimal point. -/
  | point
  /-- Behind a number of digits and perhaps a decimal point before it. -/
  | digits (count : Nat) (point : Bool)
  deriving DecidableEq, Repr

/-- The number of digits that a character asks for. -/
def digitCount? (c : Char) : Option Nat :=
  if c = '3' then some 3
  else if c = '6' then some 6
  else if c = '9' then some 9
  else none

/-- The padding of a padding mark. -/
def padding? (c : Char) : Option Padding :=
  if c = '-' then some .nothing
  else if c = '_' then some .blank
  else if c = '0' then some .zero
  else none

/-- How the character behind the percent sign goes on. -/
def afterSign (c : Char) : Option (List Item × Pending) :=
  match padding? c, digitCount? c with
  | some padding, _ => some ([], .padded padding)
  | none, some count => some ([], .digits count false)
  | none, none =>
    if c = ':' then some ([], .colons 1)
    else if c = '.' then some ([], .point)
    else (directive? c).map fun items => (items, .text)

/-- How a character goes on: the items that it completes, and how far a directive has
been read then. -/
def advance (pending : Pending) (c : Char) : Option (List Item × Pending) :=
  match pending with
  | .text => if c = '%' then some ([], .sign) else some ([.literal c], .text)
  | .sign => afterSign c
  | .padded padding =>
    (numberDirective? c).map fun (field, _) => ([.number field padding], .text)
  | .colons count =>
    if c = 'z' then
      if count = 1 then some ([.text (.offset ":" 2)], .text)
      else if count = 2 then some ([.text (.offset ":" 3)], .text)
      else some ([.text (.offset "" 1)], .text)
    else if c = ':' && count < 3 then some ([], .colons (count + 1))
    else none
  | .point =>
    if c = 'f' then some ([.text .fraction], .text)
    else (digitCount? c).map fun count => ([], .digits count true)
  | .digits count point =>
    if c = 'f' then some ([.text (.digits count point)], .text) else none

/-- The items of a format, from within a directive on. -/
def itemsFrom (pending : Pending) : List Char → Option (List Item)
  | [] => if pending = .text then some [] else none
  | c :: rest => do
    let (items, pending) ← advance pending c
    return items ++ (← itemsFrom pending rest)

end TimeFormat

namespace Moment

/-- The moment in a format, if the format is sound. -/
def print? (moment : Moment) (format : String) : Option String :=
  (TimeFormat.itemsFrom .text format.toList).map fun items =>
    String.join (items.map (TimeFormat.Item.print moment))

end Moment

end TextTemplate
