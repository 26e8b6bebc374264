import ModelStubs.Toml.Quoted

/-!
# Writing TOML

A text is written in the first of the four ways of quoting that shows it unchanged (`Quoting.choose`), and with escapes
if none does. An array of two or more texts takes a line for each.
-/

namespace ModelStubs.Toml

/-- A way of quoting a text. -/
inductive Quoting
  | basic
  | literal
  | multilineBasic
  | multilineLiteral
  deriving DecidableEq, Repr

namespace Quoting

/-- Whether a character is a control character, the tab included. -/
def isControl (c : Char) : Bool := c.toNat < 0x20 || c.toNat = 0x7F

/-- Whether a text has a control character other than those allowed. -/
def hasControl (allowed : List Char) (t : Text) : Bool := t.any fun c => isControl c && !allowed.contains c

/-- Whether a text has three of one character in a row. -/
def hasThree (c : Char) (t : Text) : Bool := Text.occursIn [c, c, c] t

/-- Whether a way of quoting shows a text unchanged. -/
def shows : Quoting → Text → Bool
  | .basic, t => !hasControl ['\t'] t && !t.contains '\\' && !t.contains '"'
  | .literal, t => !hasControl ['\t'] t && !t.contains '\''
  | .multilineBasic, t => !hasControl ['\t', '\n'] t && !t.contains '\\' && !hasThree '"' t
  | .multilineLiteral, t => !hasControl ['\t', '\n'] t && !hasThree '\'' t

/-- The way in which a text is quoted: the first that shows it unchanged, or else a basic one, on several lines if the
text has more than one. -/
def choose (t : Text) : Quoting :=
  match [basic, literal, multilineBasic, multilineLiteral].find? (shows · t) with
  | some quoting => quoting
  | none => if t.contains '\n' then .multilineBasic else .basic

/-- Four hexadecimal digits in upper case. -/
def hex4 (n : Nat) : Text :=
  let digits := (Nat.toDigits 16 n).map Char.toUpper
  List.replicate (4 - digits.length) '0' ++ digits

/-- The escape of a character that a basic text on one line does not show. -/
def escapeChar (c : Char) : Text :=
  if c = '\x08' then "\\b".toList
  else if c = '\t' then "\\t".toList
  else if c = '\n' then "\\n".toList
  else if c = '\x0C' then "\\f".toList
  else if c = '\r' then "\\r".toList
  else if c = '"' then "\\\"".toList
  else if c = '\\' then "\\\\".toList
  else if isControl c then "\\u".toList ++ hex4 c.toNat
  else [c]

/-- The inside of a basic text on one line. -/
def basicBody (t : Text) : Text := t.flatMap escapeChar

/-- The inside of a basic text on several lines, after so many quotes in a row: every third of them is escaped, and line
feeds stand for themselves. -/
def multilineBody : Nat → Text → Text
  | _, [] => []
  | quotes, c :: rest =>
    if c = '"' then
      if quotes = 2 then '\\' :: '"' :: multilineBody 0 rest else '"' :: multilineBody (quotes + 1) rest
    else if c = '\n' then '\n' :: multilineBody 0 rest
    else escapeChar c ++ multilineBody 0 rest

/-- The quotes that stand on either side. -/
def delimiter : Quoting → Text
  | .basic => "\"".toList
  | .literal => "'".toList
  | .multilineBasic => "\"\"\"".toList
  | .multilineLiteral => "'''".toList

/-- What stands between the opening quotes and the text: a line break if there are lines to set apart. -/
def lead : Quoting → Text → Text
  | .basic, _ => []
  | .literal, _ => []
  | .multilineBasic, t => if t.contains '\n' then ['\n'] else []
  | .multilineLiteral, t => if t.contains '\n' then ['\n'] else []

/-- The inside of a quoted text. -/
def body : Quoting → Text → Text
  | .basic, t => basicBody t
  | .literal, t => t
  | .multilineBasic, t => multilineBody 0 t
  | .multilineLiteral, t => t

/-- A text in a way of quoting. -/
def write (quoting : Quoting) (t : Text) : Text :=
  quoting.delimiter ++ quoting.lead t ++ quoting.body t ++ quoting.delimiter

end Quoting

namespace Write

/-- A text. -/
def string (t : Text) : Text := (Quoting.choose t).write t

/-- A truth value. -/
def boolean (b : Bool) : Text := if b then "true".toList else "false".toList

/-- A list of texts: on one line if it has at most one element, and otherwise with a line and a comma for each. -/
def strings : List Text → Text
  | [] => "[]".toList
  | [t] => '[' :: string t ++ [']']
  | ts => "[\n".toList ++ ts.flatMap (fun t => "    ".toList ++ string t ++ ",\n".toList) ++ "]".toList

/-- A pair on a line of its own. -/
def pair (key : String) (value : Text) : Text := key.toList ++ " = ".toList ++ value ++ "\n".toList

/-- The header of a table. -/
def header (key : String) : Text := '[' :: key.toList ++ "]\n".toList

end Write

end ModelStubs.Toml
