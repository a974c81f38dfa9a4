/-!
# Blank characters

The white space of Unicode together with the four separators of the control range. Zero-width marks
are not blank.
-/

namespace Clausal.Text

/-- The code points of the blank characters. -/
def blankCodes : List Nat := [
  0x9, 0xa, 0xb, 0xc, 0xd, 0x1c, 0x1d, 0x1e, 0x1f, 0x20, 0x85, 0xa0, 0x1680, 0x2000, 0x2001,
  0x2002, 0x2003, 0x2004, 0x2005, 0x2006, 0x2007, 0x2008, 0x2009, 0x200a, 0x2028, 0x2029, 0x202f,
  0x205f, 0x3000
]

/-- The character is blank. -/
def isBlank (character : Char) : Bool :=
  blankCodes.contains character.toNat

/-- The list without blanks at its start and its end. -/
def trimBlanks (characters : List Char) : List Char :=
  ((characters.dropWhile isBlank).reverse.dropWhile isBlank).reverse

/-- The word gathered so far, latest character first, in front of further words. -/
def closeWord (gathered : List Char) (words : List (List Char)) : List (List Char) :=
  if gathered.isEmpty then words else gathered.reverse :: words

/-- The words of a list, which are its longest parts without blanks; the word under way is given with
its latest character first. -/
def wordsFrom (gathered : List Char) : List Char → List (List Char)
  | [] => closeWord gathered []
  | character :: rest =>
    if isBlank character then closeWord gathered (wordsFrom [] rest)
    else wordsFrom (character :: gathered) rest

/-- The words of a list. -/
def words (characters : List Char) : List (List Char) :=
  wordsFrom [] characters

end Clausal.Text
