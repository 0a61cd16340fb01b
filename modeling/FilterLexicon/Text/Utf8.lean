/-!
Texts seen as UTF-8 bytes: their size, the order by bytes that sorted tables use, and the line and
column of a byte offset.
-/

namespace FilterLexicon.Text

/-- The UTF-8 bytes of a text. -/
def utf8 (s : String) : List UInt8 := s.toUTF8.data.toList

/-- The number of UTF-8 bytes of a run of characters. -/
def size (s : List Char) : Nat := s.foldl (fun n c => n + c.utf8Size) 0

/-- Whether the bytes of `a` come before the bytes of `b`. -/
def before (a b : String) : Bool := decide (utf8 a < utf8 b)

/-- A line, counted from 1, and a column: the number of bytes between the line's start and the
place. -/
structure Place where
  line : Nat
  column : Nat
  deriving DecidableEq

/-- The place of a byte offset. -/
def placeAt (s : String) (offset : Nat) : Place :=
  let passed := (utf8 s).take offset
  { line := 1 + passed.count 10
    column := (passed.reverse.takeWhile (· ≠ 10)).length }

end FilterLexicon.Text
