import ModelStubs.Text

/-!
# Quoted texts in TOML

A text is quoted in one of four ways: basic or literal, on one line or on several. A basic text has escapes, a literal
one has none. The readers take what follows the opening quotes, and give back the text and what follows the closing
ones.
-/

namespace ModelStubs.Toml.Quoted

/-- Whether a character may stand unescaped on one line of a document: no control character but the tab may. -/
def isPlain (c : Char) : Bool := c = '\t' || (0x20 ≤ c.toNat && c.toNat ≠ 0x7F)

/-- The value of a hexadecimal digit in either case. -/
def hexDigit? (c : Char) : Option Nat :=
  if '0' ≤ c ∧ c ≤ '9' then some (c.toNat - '0'.toNat)
  else if 'a' ≤ c ∧ c ≤ 'f' then some (c.toNat - 'a'.toNat + 10)
  else if 'A' ≤ c ∧ c ≤ 'F' then some (c.toNat - 'A'.toNat + 10)
  else none

/-- The character with a code point; surrogates and numbers beyond the last character are none. -/
def charAt? (n : Nat) : Option Char := if h : n.isValidChar then some (Char.ofNatAux n h) else none

/-- The character that a letter after a backslash stands for. -/
def shortEscape? (c : Char) : Option Char :=
  if c = 'b' then some '\x08'
  else if c = 't' then some '\t'
  else if c = 'n' then some '\n'
  else if c = 'f' then some '\x0C'
  else if c = 'r' then some '\r'
  else if c = 'e' then some '\x1B'
  else if c = '"' then some '"'
  else if c = '\\' then some '\\'
  else none

/-- The number of hexadecimal digits that follow a letter after a backslash. -/
def hexEscapeLength? (c : Char) : Option Nat :=
  if c = 'x' then some 2 else if c = 'u' then some 4 else if c = 'U' then some 8 else none

/-- What a reader of a basic text has in hand between two characters. -/
inductive State
  /-- A character, a quote or a backslash comes next. -/
  | text
  /-- A backslash was read. -/
  | escape
  /-- So many hexadecimal digits of an escape are still to come, after those read so far. -/
  | hex (left : Nat) (value : Nat)
  /-- A backslash and blanks were read: the line has to end. -/
  | lineEnd
  /-- The line has ended after a backslash: blanks and line breaks are passed over. -/
  | joining
  deriving DecidableEq

/-- A text with a character put in front of the part that was read. -/
def push (c : Char) (read : Option (Text × List Char)) : Option (Text × List Char) :=
  read.map fun (t, rest) => (c :: t, rest)

/-- The rest of a basic text on one line. -/
def basic : State → List Char → Option (Text × List Char)
  | .escape, c :: rest =>
    match shortEscape? c, hexEscapeLength? c with
    | some d, _ => push d (basic .text rest)
    | none, some n => basic (.hex n 0) rest
    | none, none => none
  | .hex left value, c :: rest =>
    match hexDigit? c with
    | none => none
    | some d =>
      if left ≤ 1 then
        match charAt? (16 * value + d) with
        | some e => push e (basic .text rest)
        | none => none
      else basic (.hex (left - 1) (16 * value + d)) rest
  | .text, c :: rest =>
    if c = '"' then some ([], rest)
    else if c = '\\' then basic .escape rest
    else if isPlain c then push c (basic .text rest)
    else none
  | _, _ => none

/-- What a quote closes that opens a row of them in a text on several lines: three quotes close the text, and of a row
of four or five the first ones still belong to it. -/
def closing? (quote : Char) (rest : List Char) : Option (Text × List Char) :=
  if [quote, quote].isPrefixOf rest then
    let extra := ((rest.drop 2).takeWhile (· == quote)).take 2
    some (extra, rest.drop (2 + extra.length))
  else none

/-- Whether a character may stand unescaped in a text on several lines. A carriage return stands only before a line
feed; a line break is part of the text as it is written. -/
def isPlainOrBreak (c : Char) (rest : List Char) : Bool :=
  isPlain c || c = '\n' || (c = '\r' && rest.head? = some '\n')

/-- Whether a character is passed over where a backslash has joined two lines. -/
def isJoined (c : Char) (rest : List Char) : Bool :=
  c = ' ' || c = '\t' || c = '\n' || (c = '\r' && rest.head? = some '\n')

/-- The rest of a basic text on several lines. -/
def multilineBasic : State → List Char → Option (Text × List Char)
  | .escape, c :: rest =>
    match shortEscape? c, hexEscapeLength? c with
    | some d, _ => push d (multilineBasic .text rest)
    | none, some n => multilineBasic (.hex n 0) rest
    | none, none =>
      if isJoined c rest then multilineBasic (if c = '\n' then .joining else .lineEnd) rest else none
  | .hex left value, c :: rest =>
    match hexDigit? c with
    | none => none
    | some d =>
      if left ≤ 1 then
        match charAt? (16 * value + d) with
        | some e => push e (multilineBasic .text rest)
        | none => none
      else multilineBasic (.hex (left - 1) (16 * value + d)) rest
  | .lineEnd, c :: rest =>
    if isJoined c rest then multilineBasic (if c = '\n' then .joining else .lineEnd) rest else none
  | state, c :: rest =>
    if state = .joining ∧ isJoined c rest then multilineBasic .joining rest
    else if c = '"' then
      match closing? '"' rest with
      | some result => some result
      | none => push c (multilineBasic .text rest)
    else if c = '\\' then multilineBasic .escape rest
    else if isPlainOrBreak c rest then push c (multilineBasic .text rest)
    else none
  | _, [] => none

/-- The rest of a literal text on one line. -/
def literal : List Char → Option (Text × List Char)
  | [] => none
  | c :: rest => if c = '\'' then some ([], rest) else if isPlain c then push c (literal rest) else none

/-- The rest of a literal text on several lines. -/
def multilineLiteral : List Char → Option (Text × List Char)
  | [] => none
  | c :: rest =>
    if c = '\'' then
      match closing? '\'' rest with
      | some result => some result
      | none => push c (multilineLiteral rest)
    else if isPlainOrBreak c rest then push c (multilineLiteral rest)
    else none

/-- What follows the opening quotes of a text on several lines, without a line break that comes first. -/
def dropFirstBreak : List Char → List Char
  | '\n' :: rest => rest
  | '\r' :: '\n' :: rest => rest
  | cs => cs

/-- A quoted text on one line, if one opens here. -/
def line? : List Char → Option (Text × List Char)
  | '"' :: rest => basic .text rest
  | '\'' :: rest => literal rest
  | _ => none

/-- A quoted text, if one opens here. Three quotes open a text on several lines. -/
def text? : List Char → Option (Text × List Char)
  | '"' :: '"' :: '"' :: rest => multilineBasic .text (dropFirstBreak rest)
  | '\'' :: '\'' :: '\'' :: rest => multilineLiteral (dropFirstBreak rest)
  | cs => line? cs

example : text? "\"a\\u00e9\" #".toList = some ("aé".toList, " #".toList) := by decide
example : text? "\"\"\"a\"\"\"\"\"".toList = some ("a\"\"".toList, []) := by decide
example : text? "\"\"\"a \\\n  b\"\"\"".toList = some ("a b".toList, []) := by decide

end ModelStubs.Toml.Quoted
