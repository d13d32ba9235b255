/-!
Contract: blanks around and between the words of a text.

Owns:
- `Char.isBlank`, the characters with the Unicode property White_Space;
- `Text.trim` and `Text.words`, which cut at exactly those characters.
-/

namespace TileAtlas.Text

/-- The White_Space characters outside the control and separator blocks. -/
def scatteredBlanks : List Nat := [0x20, 0x85, 0xA0, 0x1680, 0x2028, 0x2029, 0x202F, 0x205F, 0x3000]

def isBlank (char : Char) : Bool :=
  let code := char.toNat
  (0x09 ≤ code && code ≤ 0x0D) || (0x2000 ≤ code && code ≤ 0x200A) || scatteredBlanks.contains code

def trimWhere (drops : Char → Bool) (text : List Char) : List Char :=
  ((text.dropWhile drops).reverse.dropWhile drops).reverse

def trim (text : String) : String := String.ofList (trimWhere isBlank text.toList)

/-- The maximal pieces without a blank; `word` is the piece being collected, in
reverse. -/
def wordsFrom (word : List Char) : List Char → List (List Char)
  | [] => if word = [] then [] else [word.reverse]
  | char :: rest =>
      if isBlank char then
        if word = [] then wordsFrom [] rest else word.reverse :: wordsFrom [] rest
      else wordsFrom (char :: word) rest

/-- The maximal pieces of a text without a blank, in order. -/
def words (text : List Char) : List (List Char) := wordsFrom [] text

/-- Take `start` off the front of a text that begins with it. -/
def dropStart? : List Char → List Char → Option (List Char)
  | [], text => some text
  | _ :: _, [] => none
  | expected :: start, char :: rest => if char = expected then dropStart? start rest else none

def holds (part : List Char) : List Char → Bool
  | [] => part.isEmpty
  | char :: rest => (dropStart? part (char :: rest)).isSome || holds part rest

end TileAtlas.Text
