/-!
Cutting text at a character, and the prefixes that can be cut off.
-/

namespace TokenDesk.Text

/-- The parts of a text between the occurrences of a character; always at least one part. -/
def splitAt (mark : Char) : List Char → List (List Char)
  | [] => [[]]
  | c :: rest =>
    if c = mark then [] :: splitAt mark rest
    else match splitAt mark rest with
      | part :: parts => (c :: part) :: parts
      | [] => [[c]]

/-- The text before and after the first occurrence of a character. -/
def splitOnce (mark : Char) : List Char → Option (List Char × List Char)
  | [] => none
  | c :: rest =>
    if c = mark then some ([], rest)
    else (splitOnce mark rest).map fun (before, after) => (c :: before, after)

/-- The text after a given beginning, if it begins so. -/
def dropStart? : List Char → List Char → Option (List Char)
  | [], text => some text
  | _ :: _, [] => none
  | p :: ps, c :: cs => if p = c then dropStart? ps cs else none

def dropHexMarks : List Char → List Char
  | '0' :: 'x' :: rest => dropHexMarks rest
  | text => text

/-- The text without the given character at its end, however often it stands there. -/
def dropEnding (mark : Char) (text : List Char) : List Char :=
  (text.reverse.dropWhile (· = mark)).reverse

def occursIn (part : List Char) : List Char → Bool
  | [] => part.isEmpty
  | text@(_ :: rest) => part.isPrefixOf text || occursIn part rest

def joinWith (separator : String) (parts : List String) : String :=
  separator.intercalate parts

end TokenDesk.Text
