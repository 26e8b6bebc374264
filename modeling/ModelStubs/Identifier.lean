import ModelStubs.Text.Case
import ModelStubs.Text.Cluster

/-!
# Identifiers in camel case

A name is cut into words at separators and where the case of its letters changes; the first word is written in lower
case, each later one with a capital. The cuts are made between clusters of characters, so an accent stays with its
letter.
-/

namespace ModelStubs.Identifier

/-- Whether a cluster is written in upper case and has a lower case. -/
def isUpper (g : Text) : Bool := Text.upper g != Text.lower g && g == Text.upper g

/-- Whether a cluster is written in lower case and has an upper case. -/
def isLower (g : Text) : Bool := Text.upper g != Text.lower g && g == Text.lower g

/-- Whether a cluster is a row of decimal digits. -/
def isDigit (g : Text) : Bool := g.all Char.isDigit

/-- Whether a cluster separates words; it belongs to neither of them. -/
def isSeparator (g : Text) : Bool := g == ['_'] || g == ['-'] || g == [' ']

/-- Whether a word ends between two clusters: a capital follows a small letter, or a letter meets a digit. -/
def endsBetween (g h : Text) : Bool :=
  (isLower g && isUpper h) || (isLower g && isDigit h) || (isUpper g && isDigit h) ||
    (isDigit g && isLower h) || (isDigit g && isUpper h)

/-- Whether a word ends after `g`, before the clusters that follow it. The last capital of a row of capitals opens the
next word if a small letter follows it. -/
def endsAfter (g : Text) : List Text → Bool
  | [] => false
  | h :: rest => endsBetween g h || (isUpper g && isUpper h && (rest.head?.map isLower).getD false)

/-- The words of a name, each as its clusters. Two separators in a row have an empty word between them. -/
def wordsOf : List Text → List (List Text)
  | [] => [[]]
  | g :: rest =>
    if isSeparator g then [] :: wordsOf rest
    else if endsAfter g rest then [g] :: wordsOf rest
    else match wordsOf rest with
      | [] => [[g]]
      | word :: words => (g :: word) :: words

/-- A word with its first character in upper case and the rest in lower case. -/
def capitalized : Text → Text
  | [] => []
  | c :: rest => Text.upperChar c ++ Text.lower rest

/-- Words joined to one name: the first in lower case, each later one with a capital. -/
def joinWords : List Text → Text
  | [] => []
  | word :: words => Text.lower word ++ words.flatMap capitalized

/-- A name in camel case. -/
def camelCase (t : Text) : Text := joinWords ((wordsOf (Text.clusters t)).map List.flatten)

example : camelCase "order_total".toList = "orderTotal".toList := by decide
example : camelCase "XMLHttp".toList = "xmlHttp".toList := by decide

end ModelStubs.Identifier
