namespace IssuanceCheck.Text

inductive Color where
  | red
  | green
  | yellow
  | blue
  | purple
  | cyan
deriving DecidableEq, Repr

def Color.code : Color → String
  | red => "31"
  | green => "32"
  | yellow => "33"
  | blue => "34"
  | purple => "35"
  | cyan => "36"

structure Style where
  bold : Bool := false
  color : Option Color := none
deriving DecidableEq, Repr

namespace Style

def escape : Char := Char.ofNat 0x1B

def start (s : Style) : List Char :=
  let codes := (if s.bold then ["1"] else []) ++ (s.color.map Color.code).toList
  escape :: '[' :: (";".intercalate codes).toList ++ ['m']

def reset : List Char := [escape, '[', '0', 'm']

/-- Starts the style again behind every reset inside a text. -/
def renew (start : List Char) : List Char → List Char
  | [] => []
  | c :: rest =>
      if reset.isPrefixOf (c :: rest) then
        reset ++ start ++ renew start (rest.drop 3)
      else c :: renew start rest
termination_by cs => cs.length
decreasing_by all_goals simp only [List.length_drop, List.length_cons]; omega

def apply (colors : Bool) (s : Style) (text : String) : String :=
  if colors then String.ofList (s.start ++ renew s.start text.toList ++ reset) else text

end Style

end IssuanceCheck.Text
