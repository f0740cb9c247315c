/-!
# Ink

Styles that mark parts of the output on a terminal.
-/

namespace RowQuery.Command

/-- A style, by the numbers that a terminal knows it by. -/
structure Style where
  numbers : String

namespace Style

def greenBold : Style := ⟨"1;32"⟩
def redBold : Style := ⟨"1;31"⟩
def cyanBold : Style := ⟨"1;36"⟩
def whiteBold : Style := ⟨"1;37"⟩
def dimmed : Style := ⟨"2"⟩
def cyan : Style := ⟨"36"⟩
def yellow : Style := ⟨"33"⟩
def white : Style := ⟨"37"⟩

/-- The sequence that starts a style. -/
def start (s : Style) : List Char := '\x1b' :: '[' :: (s.numbers.toList ++ ['m'])

/-- The sequence that ends every style. -/
def reset : List Char := ['\x1b', '[', '0', 'm']

/-- A text in which each end of a style starts the given one again. -/
def resume (s : Style) : List Char → List Char
  | [] => []
  | '\x1b' :: '[' :: '0' :: 'm' :: rest => reset ++ s.start ++ resume s rest
  | c :: rest => c :: resume s rest

/-- A text in a style. -/
def apply (s : Style) (text : String) : String :=
  String.ofList (s.start ++ resume s text.toList ++ reset)

end Style

/-- Whether styles are shown. -/
structure Ink where
  shows : Bool
deriving DecidableEq, Repr

namespace Ink

/-- A variable that is set, and not to zero. -/
def isOn (v : String) : Bool := v ≠ "0"

/-- Styles are shown when they are forced; else when nothing forbids them and
the output goes to a terminal. -/
def ofVariables (value? : String → Option String) (isTerminal : Bool) : Ink :=
  if (value? "CLICOLOR_FORCE").any isOn then ⟨true⟩
  else if (value? "NO_COLOR").isSome then ⟨false⟩
  else ⟨isTerminal && ((value? "CLICOLOR").map isOn).getD true⟩

/-- A text in a style, if styles are shown. -/
def paint (ink : Ink) (s : Style) (text : String) : String := if ink.shows then s.apply text else text

end Ink

/-- A text filled up with blanks. -/
def padded (width : Nat) (text : String) : String :=
  text ++ String.ofList (List.replicate (width - text.length) ' ')

end RowQuery.Command
