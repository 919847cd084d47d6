/-
**The description of a puzzle.**

The source of puzzles describes one by a line: the address of the picture, a comma, and the number
that answers the puzzle. White space around the line and around both parts does not count, and only
the first comma divides.
-/

import TimedQuiz.Decimal.Whole
import TimedQuiz.Text.Blank

namespace TimedQuiz.Source

/-- A description: where the picture is, and what number it encodes. -/
structure Line where
  address : String
  solution : Int
  deriving DecidableEq, Repr

namespace Line

/-- Why a text is no description. -/
inductive Fault
  /-- There is no comma in the text. -/
  | separator (text : String)
  /-- There is nothing in front of the comma. -/
  | address
  /-- What follows the comma is no number. -/
  | solution (text : String) (fault : Decimal.Whole.Fault)
  deriving DecidableEq, Repr

/-- The text of a fault. -/
def Fault.message : Fault → String
  | .separator text => "expected \x60<url>,<solution>\x60, got \x60" ++ text ++ "\x60"
  | .address => "missing image url"
  | .solution text fault => "invalid solution \x60" ++ text ++ "\x60: " ++ fault.message

/-- Reads a description. -/
def read (text : String) : Except Fault Line :=
  let line := Text.trimList text.toList
  match line.dropWhile (· != ',') with
  | [] => .error (.separator (String.ofList line))
  | _ :: behind =>
    let address := Text.trimList (line.takeWhile (· != ','))
    let number := Text.trimList behind
    if address.isEmpty then .error .address
    else
      match Decimal.Whole.read number with
      | .ok solution => .ok { address := String.ofList address, solution }
      | .error fault => .error (.solution (String.ofList number) fault)

end Line
end TimedQuiz.Source
