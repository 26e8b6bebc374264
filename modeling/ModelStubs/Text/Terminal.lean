import ModelStubs.Text.Encoding

/-!
# Texts for a terminal

A terminal takes some characters not as something to show but as an order: control characters, and sequences that open
with an escape character. `withoutOrders` leaves out of a text what a terminal would take as an order, so that a text
from elsewhere cannot give any. The characters that lay a text out (tab, line feed, form feed and carriage return) are
no orders; inside a short sequence they interrupt it, and what follows them up to the next order is shown.
-/

namespace ModelStubs.Text

/-- What a terminal is in the middle of. -/
inductive Reading
  /-- Text to be shown. -/
  | text
  /-- A sequence of which nothing but the escape character was read. -/
  | escape
  /-- A sequence of which signs were read and its final character not yet. -/
  | escapeSigns
  /-- A sequence that opened with `[`, up to its final character. -/
  | control
  /-- The head of a sequence for a device, which opened with `P`. -/
  | device
  /-- The head of a sequence for a device, with numbers in it. -/
  | deviceNumbers
  /-- The head of a sequence for a device, with signs in it. -/
  | deviceSigns
  /-- A string for another program, which lasts until it is cut short or its end is marked. -/
  | string
  /-- A command to the system the terminal runs on, which opened with `]` and which a bell ends. -/
  | command
  deriving DecidableEq, Repr

namespace Reading

/-- What a terminal is in the middle of after a character of ASCII that it does not show. Two characters end any
sequence, and an escape character opens a new one. -/
def after (reading : Reading) (c : Char) : Reading :=
  let n := c.toNat
  let sign := 0x20 ≤ n && n ≤ 0x2F
  let number := 0x30 ≤ n && n ≤ 0x3B
  let mark := 0x3C ≤ n && n ≤ 0x3F
  let final := 0x40 ≤ n && n ≤ 0x7E
  if n = 0x18 ∨ n = 0x1A then text
  else if n = 0x1B then escape
  else match reading with
    | text => text
    | escape =>
      if sign then escapeSigns
      else if c = '[' then control
      else if c = ']' then command
      else if c = 'P' then device
      else if c = 'X' ∨ c = '^' ∨ c = '_' then string
      else if number || mark || final then text
      else escape
    | escapeSigns => if number || mark || final then text else escapeSigns
    | control => if final then text else control
    | device => if sign then deviceSigns else if number || mark then deviceNumbers else if final then string else device
    | deviceNumbers => if sign then deviceSigns else if mark || final then string else deviceNumbers
    | deviceSigns => if number || mark || final then string else deviceSigns
    | string => string
    | command => if n = 0x07 then text else command

/-- What a terminal is in the middle of after any character that it does not show. Beyond ASCII it goes by bytes, and
the byte `9C` ends a string. -/
def next (reading : Reading) (c : Char) : Reading :=
  if c.toNat < 0x80 then reading.after c
  else if reading = string ∧ (encode [c]).toList.contains 0x9C then text
  else reading

/-- Whether the characters that lay a text out interrupt the sequence. -/
def isShort : Reading → Bool
  | escape | escapeSigns | control => true
  | _ => false

end Reading

/-- Whether a character lays a text out. -/
def isLayout (c : Char) : Bool := c = '\t' || c = '\n' || c = '\x0c' || c = '\r'

/-- Whether a character is shown where no sequence is being read. -/
def isShown (c : Char) : Bool := isLayout c || (0x20 ≤ c.toNat && c.toNat ≠ 0x7F)

/-- Whether a character is shown in the middle of something; `interrupted` says that a layout character interrupted
it. -/
def Reading.shows (reading : Reading) (interrupted : Bool) (c : Char) : Bool :=
  if interrupted || reading = .text then isShown c else reading.isShort && isLayout c

/-- A text without orders, from the middle of something, which may be interrupted. A character beyond ASCII that is
shown ends for good what was interrupted. -/
def withoutOrdersFrom (reading : Reading) (interrupted : Bool) : Text → Text
  | [] => []
  | c :: rest =>
    if reading.shows interrupted c then
      c :: withoutOrdersFrom (if c.toNat < 0x80 then reading else .text) true rest
    else withoutOrdersFrom (reading.next c) false rest

/-- A text without what a terminal would take as an order. -/
def withoutOrders (t : Text) : Text := withoutOrdersFrom .text false t

example : withoutOrders "a\x1b[1;31mb\x07c".toList = "abc".toList := by decide
example : withoutOrders "a\x1b]0;b\x07c\x1b(Bd".toList = "acd".toList := by decide
example : withoutOrders "a\x1b\nb\x07cd".toList = "a\nbd".toList := by decide

end ModelStubs.Text
