import ModelStubs.Toml.Value

/-!
# Numbers, truth values and dates in TOML

A value that is neither quoted nor bracketed is one word: a number, a truth value, a date or a time. A word is read as a
whole, so none is the beginning of another.
-/

namespace ModelStubs.Toml

/-- The characters of a word: all but blanks, line ends, brackets, braces, commas, equals signs and the sign of a
comment. -/
def isWordChar (c : Char) : Bool :=
  !(" \t\r\n[]\x7b\x7d,=#".toList.contains c)

namespace Number

/-- The digits of a row in which single underscores may stand between digits. -/
def digits? (isDigit : Char → Bool) (cs : List Char) : Option (List Char) :=
  let pieces := Text.splitAt '_' cs
  if pieces.all fun piece => piece ≠ [] && piece.all isDigit then some pieces.flatten else none

/-- The value of a digit in a base up to sixteen. -/
def digitValue (c : Char) : Nat :=
  if c.isDigit then c.toNat - '0'.toNat else c.toLower.toNat - 'a'.toNat + 10

/-- The number that a row of digits stands for. -/
def value (base : Nat) (digits : List Char) : Nat := digits.foldl (fun n c => base * n + digitValue c) 0

/-- Whether a character is a digit to a base. -/
def isDigitOf (base : Nat) (c : Char) : Bool :=
  (c.isDigit || (c.isAlpha && c.toLower.toNat < 'g'.toNat)) && digitValue c < base

/-- A sign, if there is one, and the rest. -/
def sign : List Char → Option Char × List Char
  | '-' :: rest => (some '-', rest)
  | '+' :: rest => (some '+', rest)
  | cs => (none, cs)

/-- The whole number that digits after a sign stand for. -/
def signed (sign : Option Char) (digits : List Char) : Int :=
  if sign = some '-' then -(value 10 digits : Int) else value 10 digits

/-- The digits of the whole part of a decimal number, after its sign: no zero comes first unless it is the only digit.
After a sign an underscore may come first, and zeros after it. -/
def whole? (sign : Option Char) (cs : List Char) : Option (List Char) :=
  match sign, cs with
  | some _, '_' :: rest => digits? Char.isDigit rest
  | _, _ => do
    let digits ← digits? Char.isDigit cs
    if digits.head? = some '0' ∧ digits.length ≠ 1 then none else some digits

/-- A whole number. One to another base has no sign. -/
def integer? (cs : List Char) : Option Int :=
  match cs with
  | '0' :: 'x' :: rest => (digits? (isDigitOf 16) rest).map fun ds => (value 16 ds : Int)
  | '0' :: 'o' :: rest => (digits? (isDigitOf 8) rest).map fun ds => (value 8 ds : Int)
  | '0' :: 'b' :: rest => (digits? (isDigitOf 2) rest).map fun ds => (value 2 ds : Int)
  | _ =>
    let (sign, rest) := sign cs
    (whole? sign rest).map (signed sign)

/-- Whether no underscore of a word stands next to anything but digits, of which those to the base sixteen count. What
stands before the first underscore is not looked at. -/
def spacesDigits (word : List Char) : Bool :=
  let isEnd (c : Option Char) : Bool := (c.map (isDigitOf 16)).getD false
  let pieces := (Text.splitAt '_' word).tail
  pieces.all (fun piece => isEnd piece.head?) && pieces.dropLast.all fun piece => isEnd piece.getLast?

/-- Whether a word is taken for a whole number as soon as its first digits are read, whatever comes after them: no
digits follow the mark of its base, or an underscore follows the first decimal digits, and nothing later speaks for a
floating point number. -/
def opensInteger (word : List Char) : Bool :=
  if word = "0x".toList ∨ word = "0o".toList ∨ word = "0b".toList then true
  else
    let (sign, cs) := sign word
    let digits := (cs.takeWhile fun c => c.isDigit || c = '_').filter Char.isDigit
    let rest := cs.dropWhile Char.isDigit
    rest.head? = some '_' && (sign.isSome || cs.head? ≠ some '_') &&
      digits ≠ [] && (digits.length = 1 || cs.head? ≠ some '0') &&
      rest.all (fun c => c ≠ '.' && c ≠ 'e' && c ≠ 'E') && spacesDigits word

/-- The exponent of a number, after its letter. -/
def exponent? (cs : List Char) : Option Int :=
  let (sign, rest) := sign cs
  (digits? Char.isDigit rest).map (signed sign)

/-- A number with a fraction, or with an exponent, or with both. -/
def decimal? (cs : List Char) : Option Float := do
  let (sign, rest) := sign cs
  let negative := sign = some '-'
  let mantissa := rest.takeWhile fun c => c ≠ 'e' && c ≠ 'E'
  let exponent ← match rest.drop mantissa.length with
    | [] => some none
    | _ :: power => (exponent? power).map some
  let digits ← whole? sign (mantissa.takeWhile (· ≠ '.'))
  match mantissa.dropWhile (· ≠ '.'), exponent with
  | [], none => none
  | [], some power => some (.decimal negative (value 10 digits) power)
  | _ :: fraction, power => do
    let places ← digits? Char.isDigit fraction
    some (.decimal negative (value 10 (digits ++ places)) (power.getD 0 - places.length))

/-- A floating point number. -/
def float? (cs : List Char) : Option Float :=
  let (sign, rest) := sign cs
  if rest = "inf".toList then some (.infinite (sign = some '-'))
  else if rest = "nan".toList then some .nan
  else decimal? cs

end Number

namespace DateTime

/-- A number of exactly so many decimal digits, and what follows it. -/
def fixed? (count : Nat) (cs : List Char) : Option (Nat × List Char) :=
  let ds := cs.take count
  if ds.length = count ∧ ds.all Char.isDigit then some (Number.value 10 ds, cs.drop count) else none

/-- What follows a character that has to come first. -/
def after? (c : Char) : List Char → Option (List Char)
  | d :: rest => if d = c then some rest else none
  | [] => none

/-- The number of days of a month. -/
def daysIn (year month : Nat) : Nat :=
  if month = 2 then if year % 4 = 0 ∧ (year % 100 ≠ 0 ∨ year % 400 = 0) then 29 else 28
  else if month = 4 ∨ month = 6 ∨ month = 9 ∨ month = 11 then 30
  else 31

/-- What follows a date `YYYY-MM-DD` of the calendar. -/
def date? (cs : List Char) : Option (List Char) := do
  let (year, cs) ← fixed? 4 cs
  let (month, cs) ← fixed? 2 (← after? '-' cs)
  let (day, cs) ← fixed? 2 (← after? '-' cs)
  if 1 ≤ month ∧ month ≤ 12 ∧ 1 ≤ day ∧ day ≤ daysIn year month then some cs else none

/-- What follows a fraction of a second, if there is one. -/
def fraction? : List Char → Option (List Char)
  | '.' :: rest => if (rest.head?.map Char.isDigit).getD false then some (rest.dropWhile Char.isDigit) else none
  | cs => some cs

/-- What follows a time `HH:MM`, `HH:MM:SS` or `HH:MM:SS.fraction` of the day; a second may be a leap second. -/
def time? (cs : List Char) : Option (List Char) := do
  let (hour, cs) ← fixed? 2 cs
  let (minute, cs) ← fixed? 2 (← after? ':' cs)
  if hour ≤ 23 ∧ minute ≤ 59 then
    match cs with
    | ':' :: rest => do
      let (second, rest) ← fixed? 2 rest
      if second ≤ 60 then fraction? rest else none
    | _ => some cs
  else none

/-- Whether a text is nothing or an offset from universal time. -/
def isOffset (cs : List Char) : Bool :=
  match cs with
  | [] => true
  | c :: rest =>
    if c = 'Z' ∨ c = 'z' then rest = []
    else if c = '+' ∨ c = '-' then
      match (do
        let (hour, rest) ← fixed? 2 rest
        let (minute, rest) ← fixed? 2 (← after? ':' rest)
        if hour ≤ 23 ∧ minute ≤ 59 then some rest else none) with
      | some rest => rest = []
      | none => false
    else false

/-- Whether a text is a date and nothing else. -/
def isDate (cs : List Char) : Bool := date? cs = some []

/-- Whether a text is a date, a time, or a date and a time with or without an offset. -/
def isDateTime (cs : List Char) : Bool :=
  match date? cs with
  | some [] => true
  | some (c :: rest) =>
    if c = 'T' ∨ c = 't' ∨ c = ' ' then
      match time? rest with
      | some rest => isOffset rest
      | none => false
    else false
  | none => time? cs = some []

end DateTime

/-- The value of a word. -/
def wordValue? (word : List Char) : Option Value :=
  if word = "true".toList then some (.boolean true)
  else if word = "false".toList then some (.boolean false)
  else if DateTime.isDateTime word then some (.dateTime word)
  else match Number.integer? word, Number.float? word with
    | some n, _ => some (.integer n)
    | none, some x => some (.float x)
    | none, none => if Number.opensInteger word then some .brokenInteger else none

/-- The value of the word that opens here. A date may be followed by a single blank and a time. -/
def word? (cs : List Char) : Option (Value × List Char) :=
  let word := cs.takeWhile isWordChar
  let rest := cs.dropWhile isWordChar
  match rest with
  | ' ' :: next =>
    let both := word ++ ' ' :: next.takeWhile isWordChar
    if DateTime.isDate word ∧ DateTime.isDateTime both then some (.dateTime both, next.dropWhile isWordChar)
    else (wordValue? word).map (·, rest)
  | _ => (wordValue? word).map (·, rest)

end ModelStubs.Toml
