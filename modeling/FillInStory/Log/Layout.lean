import FillInStory.Log.Record

/-! # Layouts of log lines

A layout says how a record is written. Its pattern is text with parts between braces: the level, the
target, the message, a line end and the time, or a group whose parts stand in parentheses, such as one to be
highlighted. The time is given as a text, since its form is a matter of whoever reads the clock.
-/

namespace FillInStory

inductive LayoutPart where
  | char (c : Char)
  | level
  | target
  | message
  | lineEnd
  | time
  deriving DecidableEq, Repr

abbrev Layout := List LayoutPart

namespace Layout

/-- The parts that a name between braces stands for, where `inside` is its pattern in parentheses. -/
def named (name : Text) (inside : Layout) : Layout :=
  if name = "l".toList || name = "level".toList then [.level]
  else if name = "t".toList || name = "target".toList || name = "M".toList || name = "module".toList then [.target]
  else if name = "m".toList || name = "message".toList then [.message]
  else if name = "n".toList then [.lineEnd]
  else if name = "d".toList || name = "date".toList then [.time]
  else if name = "h".toList || name = "highlight".toList || name = [] then inside
  else []

/-- Reads a pattern up to a closing parenthesis that is not doubled, or to the end. Doubled braces and
parentheses stand for single ones. -/
def read : (fuel : Nat) → Text → Layout × Text
  | 0, t => ([], t)
  | _, [] => ([], [])
  | fuel + 1, c :: d :: rest =>
    if c = d && (c = '{' || c = '}' || c = '(' || c = ')') then
      let (parts, rest) := read fuel rest
      (.char c :: parts, rest)
    else if c = ')' then ([], c :: d :: rest)
    else if c = '{' then
      let name := (d :: rest).takeWhile Char.isAlpha
      let (inside, after) : Layout × Text :=
        match (d :: rest).dropWhile Char.isAlpha with
        | '(' :: rest => read fuel rest
        | rest => ([], rest)
      let (parts, rest) := read fuel ((after.dropWhile (· != '}')).drop 1)
      (named name inside ++ parts, rest)
    else
      let (parts, rest) := read fuel (d :: rest)
      (.char c :: parts, rest)
  | _, [c] => if c = ')' then ([], [c]) else ([.char c], [])

def ofPattern (pattern : Text) : Layout := (read (pattern.length + 1) pattern).1

def write (layout : Layout) (time : Text) (record : Record) : Text :=
  layout.flatMap fun
    | .char c => [c]
    | .level => record.level.label
    | .target => record.origin.target
    | .message => record.message
    | .lineEnd => ['\n']
    | .time => time

/-- The layout of the console if no settings say otherwise. -/
def console : Layout := ofPattern "\x7bd(%Y-%m-%dT%H:%M:%S%.3f)\x7d \x7bh(\x7bl\x7d)\x7d \x7bt\x7d - \x7bm\x7d\x7bn\x7d"

/-- The layout of an appender that names none. -/
def plain : Layout := ofPattern "\x7bd\x7d \x7bl\x7d \x7bt\x7d - \x7bm\x7d\x7bn\x7d"

end Layout

end FillInStory
