namespace IssuanceCheck.Text

def joinWith (sep : List Char) : List (List Char) → List Char
  | [] => []
  | [t] => t
  | t :: u :: rest => t ++ sep ++ joinWith sep (u :: rest)

/-- A line feed ends a line and takes one carriage return directly before it along; what
follows the last line feed is a line only if it is not empty. -/
def lines (cs : List Char) : List (List Char) :=
  go [] cs
where
  go (line : List Char) : List Char → List (List Char)
    | [] => if line.isEmpty then [] else [line.reverse]
    | '\n' :: rest =>
        (match line with
          | '\r' :: line => line.reverse
          | line => line.reverse) :: go [] rest
    | c :: rest => go (c :: line) rest

end IssuanceCheck.Text
