/-
**Puzzles.**

A puzzle is a picture together with the whole number it encodes. The media type of the picture is
read off its first bytes, so it never depends on what the picture's server said.
-/

namespace TimedQuiz

/-- A sequence of bytes. -/
abbrev Bytes := List UInt8

/-- One question of the quiz: a picture and the number that answers it. -/
structure Puzzle where
  image : Bytes
  solution : Int
  deriving DecidableEq, Repr

namespace Puzzle

/-- The media type of a picture by its signature. -/
def contentTypeOf : Bytes → String
  | 0x89 :: 0x50 :: 0x4E :: 0x47 :: _ => "image/png"
  | 0xFF :: 0xD8 :: 0xFF :: _ => "image/jpeg"
  | 0x47 :: 0x49 :: 0x46 :: 0x38 :: _ => "image/gif"
  | 0x52 :: 0x49 :: 0x46 :: 0x46 :: _ :: _ :: _ :: _ :: 0x57 :: 0x45 :: 0x42 :: 0x50 :: _ =>
    "image/webp"
  | _ => "application/octet-stream"

/-- The media type of the puzzle's picture. -/
def contentType (puzzle : Puzzle) : String := contentTypeOf puzzle.image

/-- A one-line description for logs: the length of the picture, not its bytes. -/
def describe (puzzle : Puzzle) : String :=
  "PuzzleItem \x7b image_len: " ++ toString puzzle.image.length ++ ", solution: " ++
    toString puzzle.solution ++ " \x7d"

end Puzzle
end TimedQuiz
