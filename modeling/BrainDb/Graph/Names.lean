import BrainDb.Schema.Catalog
import Mathlib.Data.List.DropRight

namespace BrainDb
open Schema

class TextFolding extends Unicode where
  (nfc toLowercase : List Char → List Char)

@[reducible] def asciiFolding : TextFolding where
  toUnicode := asciiClasses
  nfc := id
  toLowercase := List.map Char.toLower

def articles : List (List Char) :=
  [['t', 'h', 'e', ' '], ['a', ' '], ['a', 'n', ' '], ['t', 'h', 'i', 's', ' '],
    ['t', 'h', 'a', 't', ' ']]

variable (s : List Char)

def stripLeadingDeterminer : List Char :=
  let residue (art : List Char) := (art.isPrefixOf? s).filter fun rest => rest ≠ []
  (articles.findSome? residue).getD s

section
variable [TextFolding]

def splitWhitespace : List (List Char) :=
  (s.splitOnP Unicode.isWhitespace).filter fun word => word ≠ []

def trim : List Char :=
  (s.dropWhile Unicode.isWhitespace).rdropWhile Unicode.isWhitespace

def normalizeName (s : String) : String :=
  let folded := TextFolding.toLowercase (trim (TextFolding.nfc s.toList))
  let collapsed := [' '].intercalate (splitWhitespace folded)
  String.ofList (stripLeadingDeterminer collapsed)

abbrev Trigram := Nat ×ₗ Nat ×ₗ Nat

instance : LawfulBEq Trigram := inferInstance

def bucket (a b c : Char) : Trigram :=
  let step (h : UInt32) (byte : UInt32) : UInt32 := (h ^^^ byte) * 0x01000193
  let bytes (ch : Char) : List UInt32 :=
    [ch.val &&& 0xff, (ch.val >>> 8) &&& 0xff, (ch.val >>> 16) &&& 0xff, ch.val >>> 24]
  let h := ([a, b, c].flatMap bytes).foldl step 0x811c9dc5
  toLex ((h &&& 0xff).toNat, toLex (((h >>> 8) &&& 0xff).toNat, ((h >>> 16) &&& 0xff).toNat))

def windows : List Char → List Trigram
  | a :: b :: c :: rest => bucket a b c :: windows (b :: c :: rest)
  | _ => []

def extractTrigrams (normalized : String) : List Trigram :=
  (splitWhitespace normalized.toList).flatMap fun word => windows (' ' :: ' ' :: word ++ [' '])

def trigramsOfComponents (canonicalName : String) (aliases : List String) : List Trigram :=
  (canonicalName :: aliases).flatMap fun name => extractTrigrams (normalizeName name)
end
end BrainDb
