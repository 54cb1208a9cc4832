import IssuanceCheck.Text.Lines
import Std.Data.HashMap

namespace IssuanceCheck.Suffix

open Text

inductive Mark where
  | inner
  | rule
  | exception
deriving DecidableEq

/-- The places of a tree of suffix rules, each under its labels from the right, joined by dots. -/
abbrev Rules := Std.HashMap String Mark

namespace Rules

def place (above label : String) : String := above ++ "." ++ label

/-- The rule is written with its labels in the usual order; `!` marks an exception. A place that
already stands for a rule keeps its mark when longer rules pass through it. -/
def insertRule (rules : Rules) (rule : String) : Rules :=
  let (cs, mark) := match rule.toList with
    | '!' :: cs => (cs, Mark.exception)
    | cs => (cs, Mark.rule)
  match (cs.splitOn '.').reverse.map String.ofList with
  | [] => rules
  | first :: rest => go rules mark first rest
where
  go (rules : Rules) (mark : Mark) (key : String) : List String → Rules
    | [] => rules.insert key mark
    | label :: rest => go (rules.insertIfNew key .inner) mark (place key label) rest

def ofList (rules : List String) : Rules := rules.foldl insertRule ∅

/-- How many labels the longest match covers, when `depth` labels lead to the place `key` and the
best match so far has `best` of them. An exception gives its own label back. -/
def descend (rules : Rules) (key : String) (depth best : Nat) : List String → Nat
  | [] => best
  | label :: rest =>
      let step (key : String) (mark : Mark) :=
        descend rules key (depth + 1)
          (match mark with | .inner => best | .rule => depth + 1 | .exception => depth) rest
      match rules[place key label]? with
      | some mark => step (place key label) mark
      | none =>
          match rules[place key "*"]? with
          | some mark => step (place key "*") mark
          | none => best

/-- The public suffix of a name. The rightmost label is always part of it, whether a rule knows it
or not; a dot at the end of the name is not. -/
def publicSuffix (rules : Rules) (name : String) : Option String :=
  let cs := name.toList
  let rooted := cs.getLast? == some '.'
  let labels := ((if rooted then cs.dropLast else cs).splitOn '.').reverse
  let count := match labels.map String.ofList with
    | [] => 0
    | first :: rest => if rules.contains first then descend rules first 1 1 rest else 1
  let suffix := joinWith ['.'] (labels.take count).reverse
  if suffix.isEmpty && !rooted then none else some (String.ofList suffix)

end Rules

end IssuanceCheck.Suffix
