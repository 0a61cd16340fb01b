import FilterLexicon.Pattern.Class

/-!
Which texts are regular expressions. A text is read from left to right into alternatives of
expressions, with the groups that are still open kept as a list; it is a regular expression if it
comes to an end with no group open and is not nested too deeply. Only the form of an expression is
looked at: it may repeat its parts any number of times and have any number of them, however much
space it would take to match with it.
-/

namespace FilterLexicon.Pattern

/-- The alternatives of a group that is being read: the finished ones, and the expressions of the
current one, in both the last first. -/
structure Alternatives where
  finished : List Expr := []
  current : List Expr := []

namespace Alternatives

def add (a : Alternatives) (e : Expr) : Alternatives := { a with current := e :: a.current }

/-- Ends the current alternative. -/
def next (a : Alternatives) : Alternatives :=
  { finished := Expr.ofList a.current.reverse :: a.finished }

/-- The expression read so far. -/
def expr (a : Alternatives) : Expr :=
  match a.finished with
  | [] => Expr.ofList a.current.reverse
  | _ => .alternation a.next.finished.reverse

/-- Repeats the last expression, if it may be repeated. -/
def repeatLast (a : Alternatives) : Option Alternatives :=
  match a.current with
  | e :: rest => if e.isRepeatable then some { a with current := .repetition e :: rest } else none
  | [] => none

end Alternatives

/-- How far a regular expression has been read. -/
structure Reading where
  rest : List Char
  flags : Flags := {}
  /-- The names of the groups so far. -/
  names : List (List Char) := []
  inner : Alternatives := {}
  /-- What was read before each open group, and the flags to return to behind it. -/
  outer : List (Alternatives × Flags) := []

namespace Reading

/-- Adds an expression and goes on behind it. -/
def add (r : Reading) (e : Expr) (rest : List Char) : Reading :=
  { r with inner := r.inner.add e, rest }

/-- Goes into a group. -/
def enter (r : Reading) (flags : Flags) (rest : List Char) : Reading :=
  { r with rest, flags, inner := {}, outer := (r.inner, r.flags) :: r.outer }

/-- Goes into a group whose name is read first. -/
def enterNamed (r : Reading) (s : List Char) : Option Reading :=
  let name := s.takeWhile (· ≠ '>')
  match s.dropWhile (· ≠ '>') with
  | [] => none
  | _ :: rest =>
    if isGroupName name && !r.names.contains name then
      some { r.enter r.flags rest with names := name :: r.names }
    else none

/-- Reads flags behind a question mark, and goes into their group if they have one. -/
def flagged (r : Reading) (s : List Char) : Option Reading :=
  let letters := s.takeWhile fun c => c ≠ ':' && c ≠ ')'
  if !isFlagList letters then none
  else
    match s.dropWhile fun c => c ≠ ':' && c ≠ ')' with
    | ':' :: rest => some (r.enter (r.flags.set letters) rest)
    | ')' :: rest =>
      if letters.isEmpty then none
      else some { r.add .flags rest with flags := r.flags.set letters }
    | _ => none

/-- Reads what follows an opening parenthesis. -/
def opened (r : Reading) (s : List Char) : Option Reading :=
  match r.flags.skip s with
  | '?' :: '=' :: _ => none
  | '?' :: '!' :: _ => none
  | '?' :: '<' :: '=' :: _ => none
  | '?' :: '<' :: '!' :: _ => none
  | '?' :: 'P' :: '<' :: rest => r.enterNamed rest
  | '?' :: '<' :: rest => r.enterNamed rest
  | '?' :: rest => r.flagged rest
  | rest => some (r.enter r.flags rest)

/-- Leaves a group. -/
def closed (r : Reading) (rest : List Char) : Option Reading :=
  match r.outer with
  | [] => none
  | (before, flags) :: outer =>
    some { r with rest, flags, inner := before.add (.group r.inner.expr), outer }

/-- Repeats the last expression; a question mark may follow the sign. -/
def repeated (r : Reading) (s : List Char) : Option Reading := do
  let inner ← r.inner.repeatLast
  match s with
  | '?' :: rest => some { r with inner, rest }
  | rest => some { r with inner, rest }

/-- Repeats the last expression as often as the numbers between braces say. -/
def counted (r : Reading) (s : List Char) : Option Reading := do
  let inner ← r.inner.repeatLast
  let rest ← counts r.flags s
  return { r with inner, rest }

/-- Reads an escape. -/
def escaped (r : Reading) (s : List Char) : Option Reading := do
  let (primitive, rest) ← escape r.flags s
  if primitive.isAllowed r.flags then some (r.add .atom rest) else none

/-- Reads the part whose first character is given. -/
def part (r : Reading) (c : Char) (rest : List Char) : Option Reading :=
  match c with
  | '(' => r.opened rest
  | ')' => r.closed rest
  | '|' => some { r with inner := r.inner.next, rest }
  | '[' => do
    let (e, rest) ← bracketedClass r.flags rest
    return r.add e rest
  | '?' => r.repeated rest
  | '*' => r.repeated rest
  | '+' => r.repeated rest
  | '\x7b' => r.counted rest
  | '\\' => r.escaped rest
  | '.' => if r.flags.unicode then some (r.add .atom rest) else none
  | _ => some (r.add .atom rest)

/-- Reads to the end; `fuel` bounds the number of parts. -/
def finish : (fuel : Nat) → Reading → Option Expr
  | 0, _ => none
  | fuel + 1, r =>
    match r.flags.skip r.rest with
    | [] => if r.outer.isEmpty then some r.inner.expr else none
    | c :: rest =>
      match r.part c rest with
      | some r => finish fuel r
      | none => none

end Reading

/-- The expression that a text writes. Each of its parts takes at least one character. -/
def parse? (s : List Char) : Option Expr := Reading.finish (s.length + 1) { rest := s }

/-- The greatest depth of nesting. -/
def maxDepth : Nat := 250

/-- Whether a text is a regular expression. -/
def isValid (s : List Char) : Bool :=
  match parse? s with
  | some e => e.depth ≤ maxDepth
  | none => false

/-- Whether a pattern may have a body. An engine that limits the size of what it compiles accepts
fewer bodies than these. -/
def accepts (body : String) : Bool := isValid body.toList

end FilterLexicon.Pattern
