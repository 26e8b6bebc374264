import ModelStubs.Toml.Quoted
import ModelStubs.Toml.Scalar
import ModelStubs.Toml.Table

/-!
# Reading TOML

A document is a list of statements, each on a line of its own: pairs and headers (`statements?`). The statements are
then put together to the table of the document (`assemble?`). Reading gives no reason where a document is not well
formed.
-/

namespace ModelStubs.Toml

/-- How deep arrays and inline tables may be nested in each other, and how many parts a key may have. -/
def depthLimit : Nat := 80

/-- The text without the blanks that open it. -/
def dropBlanks (cs : List Char) : List Char := cs.dropWhile fun c => c = ' ' || c = '\t'

/-- What follows blanks, line breaks and comments; `comment` says that a comment is open. A comment ends with its line
and holds no control character but the tab. -/
def dropTrivia? (comment : Bool) : List Char → Option (List Char)
  | [] => some []
  | c :: rest =>
    if c = '\n' then dropTrivia? false rest
    else if c = '\r' then if rest.head? = some '\n' then dropTrivia? comment rest else none
    else if comment then if Quoted.isPlain c then dropTrivia? true rest else none
    else if c = ' ' ∨ c = '\t' then dropTrivia? false rest
    else if c = '#' then dropTrivia? true rest
    else some (c :: rest)

/-- What follows the end of a line on which only blanks and a comment are left. -/
def dropLineEnd? (comment : Bool) : List Char → Option (List Char)
  | [] => some []
  | c :: rest =>
    if c = '\n' then some rest
    else if c = '\r' then if rest.head? = some '\n' then dropLineEnd? comment rest else none
    else if comment then if Quoted.isPlain c then dropLineEnd? true rest else none
    else if c = ' ' ∨ c = '\t' then dropLineEnd? false rest
    else if c = '#' then dropLineEnd? true rest
    else none

/-- Whether a character may stand in a key without quotes. -/
def isBareKeyChar (c : Char) : Bool := c.isAlphanum || c = '_' || c = '-'

/-- One part of a key. -/
def keyPart? (cs : List Char) : Option (Text × List Char) :=
  match Quoted.line? cs with
  | some read => some read
  | none =>
    let part := cs.takeWhile isBareKeyChar
    if part = [] then none else some (part, cs.dropWhile isBareKeyChar)

/-- A key of at most so many parts. Blanks may stand around its dots. -/
def key? : Nat → List Char → Option (List Text × List Char)
  | 0, _ => none
  | count + 1, cs => do
    let (part, rest) ← keyPart? (dropBlanks cs)
    match dropBlanks rest with
    | '.' :: more =>
      let (parts, rest) ← key? count more
      some (part :: parts, rest)
    | rest => some ([part], rest)

/-- The elements of an array up to its closing bracket, at most so many. Blanks, line breaks and comments may stand
between them, and a comma may follow the last. -/
def elements? (item : List Char → Option (Value × List Char)) : Nat → List Char → Option (List Value × List Char)
  | 0, _ => none
  | count + 1, cs => do
    match ← dropTrivia? false cs with
    | ']' :: rest => some ([], rest)
    | cs =>
      let (value, rest) ← item cs
      match ← dropTrivia? false rest with
      | ',' :: rest =>
        let (values, rest) ← elements? item count rest
        some (value :: values, rest)
      | ']' :: rest => some ([value], rest)
      | _ => none

/-- The pairs of an inline table up to its closing brace, at most so many, added to those read before. Blanks, line
breaks and comments may stand between them, and a comma may follow the last. -/
def inlinePairs? (item : List Char → Option (Value × List Char)) :
    Nat → Entries → List Char → Option (Entries × List Char)
  | 0, _, _ => none
  | count + 1, es, cs => do
    match ← dropTrivia? false cs with
    | '\x7d' :: rest => some (es, rest)
    | cs =>
      let (key, rest) ← key? depthLimit cs
      match ← dropTrivia? false rest with
      | '=' :: rest =>
        let (value, rest) ← item (← dropTrivia? false rest)
        let es ← es.addPair key value
        match ← dropTrivia? false rest with
        | ',' :: rest => inlinePairs? item count es rest
        | '\x7d' :: rest => some (es, rest)
        | _ => none
      | _ => none

/-- A value without brackets. -/
def plainValue? (cs : List Char) : Option (Value × List Char) :=
  match cs with
  | '"' :: _ => (Quoted.text? cs).map fun (t, rest) => (.string t, rest)
  | '\'' :: _ => (Quoted.text? cs).map fun (t, rest) => (.string t, rest)
  | _ => word? cs

/-- A value with at most so many brackets open at once. -/
def value? : Nat → List Char → Option (Value × List Char)
  | 0, cs => plainValue? cs
  | depth + 1, cs =>
    match cs with
    | '[' :: rest => (elements? (value? depth) (rest.length + 1) rest).map fun (vs, rest) => (.array vs, rest)
    | '\x7b' :: rest =>
      (inlinePairs? (value? depth) (rest.length + 1) [] rest).map fun (es, rest) => (.table .inline es, rest)
    | _ => plainValue? cs

/-- What opens a part of a document. -/
inductive Header
  /-- The start of the document. -/
  | document
  /-- `[key]`. -/
  | table (key : List Text)
  /-- `[[key]]`. -/
  | element (key : List Text)
  deriving DecidableEq, Repr

/-- A line of a document that says something. -/
inductive Statement
  | pair (key : List Text) (value : Value)
  | header (h : Header)
  deriving Repr

/-- A statement, up to what is left of its line. -/
def statement? (cs : List Char) : Option (Statement × List Char) :=
  match cs with
  | '[' :: '[' :: rest => do
    let (key, rest) ← key? depthLimit rest
    match rest with
    | ']' :: ']' :: rest => some (.header (.element key), rest)
    | _ => none
  | '[' :: rest => do
    let (key, rest) ← key? depthLimit rest
    match rest with
    | ']' :: rest => some (.header (.table key), rest)
    | _ => none
  | _ => do
    let (key, rest) ← key? depthLimit cs
    match rest with
    | '=' :: rest =>
      let (value, rest) ← value? depthLimit (dropBlanks rest)
      some (.pair key value, rest)
    | _ => none

/-- The statements of a document, at most so many. -/
def statementsFrom? : Nat → List Char → Option (List Statement)
  | 0, _ => none
  | count + 1, cs => do
    match ← dropTrivia? false cs with
    | [] => some []
    | cs =>
      let (statement, rest) ← statement? cs
      let statements ← statementsFrom? count (← dropLineEnd? false rest)
      some (statement :: statements)

/-- The text without a byte order mark that opens it. -/
def dropByteOrderMark : Text → Text
  | '\uFEFF' :: rest => rest
  | t => t

/-- The statements of a document. Each takes at least one character. -/
def statements? (t : Text) : Option (List Statement) :=
  let cs := dropByteOrderMark t
  statementsFrom? (cs.length + 1) cs

/-- A header with the pairs that follow it. -/
abbrev Section := Header × List (List Text × Value)

/-- The statements of a document by their headers, of which the first is given. -/
def sections (header : Header) : List Statement → List Section
  | [] => [(header, [])]
  | .header next :: rest => (header, []) :: sections next rest
  | .pair key value :: rest =>
    match sections header rest with
    | (h, pairs) :: more => (h, (key, value) :: pairs) :: more
    | [] => []

/-- The table of a document after one more section. -/
def addSection (es : Entries) (part : Section) : Option Entries :=
  match part.1 with
  | .document => es.addPairs part.2
  | .table key => do es.within (Entries.openTable (← key.getLast?) part.2) key.dropLast
  | .element key => do es.within (Entries.openElement (← key.getLast?) part.2) key.dropLast

/-- The table that the statements of a document make. -/
def assemble? (statements : List Statement) : Option Entries :=
  (sections .document statements).foldlM addSection []

/-- The table of a document. -/
def document? (t : Text) : Option Entries := (statements? t).bind assemble?

end ModelStubs.Toml
