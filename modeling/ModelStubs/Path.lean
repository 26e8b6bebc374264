import ModelStubs.Text

/-!
# Paths

A path is a text whose parts are set apart by slashes. The parts that say nothing, an empty one or a dot after the first
part, are passed over when a path is looked at from its end.
-/

namespace ModelStubs

/-- A path as written. -/
abbrev Path := Text

namespace Path

/-- A path, written backwards, without the slashes and dots at its end that say nothing. The slash of the root and a dot
that is all of the path stay. -/
def trimBackwards : Text → Text
  | '/' :: rest => if rest = [] then ['/'] else trimBackwards rest
  | '.' :: '/' :: rest => if rest = [] then ['/'] else trimBackwards rest
  | t => t

/-- The last part of a path and what stands before it, both backwards; nothing for the root and the empty path. -/
def splitLast? (p : Path) : Option (Text × Text) :=
  let t := trimBackwards p.reverse
  if t = [] ∨ t = ['/'] then none else some (t.takeWhile (· != '/'), t.dropWhile (· != '/'))

/-- The path that a path's last part stands in. -/
def parent? (p : Path) : Option Path :=
  (splitLast? p).map fun (_, before) => (trimBackwards before).reverse

/-- The name of the file that a path leads to, unless its last part leads to a directory as such. -/
def fileName? (p : Path) : Option Text :=
  (splitLast? p).bind fun (last, _) => if last = ['.'] ∨ last = ['.', '.'] then none else some last.reverse

/-- The extension of a path: what follows the last dot of its file name, if something stands before that dot. -/
def extension? (p : Path) : Option Text :=
  (fileName? p).bind fun name =>
    match name.reverse.dropWhile (· != '.') with
    | '.' :: stem => if stem = [] then none else some (Text.afterLast '.' name)
    | _ => none

/-- A path continued by a name. -/
def join (p : Path) (name : Text) : Path :=
  if p.getLast? = some '/' ∨ p = [] then p ++ name else p ++ '/' :: name

/-- Whether a path starts at the root. -/
def isAbsolute (p : Path) : Bool := p.head? = some '/'

/-- A component of a path: the root, the dot that opens a path, a step up, or a name. -/
inductive Component
  | root
  | dot
  | up
  | name (t : Text)
  deriving DecidableEq, Repr

/-- Whether a component stands before another. Names are ordered as texts, after all other components. -/
def Component.before : Component → Component → Bool
  | .name a, .name b => Text.before a b
  | .name _, _ => false
  | _, .name _ => true
  | .up, _ => false
  | _, .up => true
  | .dot, _ => false
  | _, .dot => true
  | .root, .root => false

/-- The components of a path. An empty part and a dot after the first part are none. -/
def components (p : Path) : List Component :=
  (if isAbsolute p then [.root] else if (Text.splitAt '/' p).head? = some ['.'] then [.dot] else []) ++
    ((Text.splitAt '/' p).filter fun part => part ≠ [] && part ≠ ['.']).map fun part =>
      if part = ['.', '.'] then .up else .name part

/-- Whether components stand before others: at the first difference, or where they end. -/
def componentsBefore : List Component → List Component → Bool
  | _, [] => false
  | [], _ :: _ => true
  | a :: as, b :: bs => if a = b then componentsBefore as bs else Component.before a b

/-- Whether a path stands before another in the order of their components. -/
def before (p q : Path) : Bool := componentsBefore (components p) (components q)

example : parent? "a//b.ts".toList = some "a".toList := by decide
example : extension? ".ts".toList = none := by decide
example : extension? "a.ts/./".toList = some "ts".toList := by decide
example : before "a/x.toml".toList "a-b.toml".toList = true := by decide

end Path

end ModelStubs
