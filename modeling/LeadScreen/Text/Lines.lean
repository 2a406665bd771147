import LeadScreen.Text.Basic

set_option autoImplicit false

/-!
# Lines

A line ends at any of the line boundaries of Unicode, a carriage return followed by a line feed
counting as one boundary. The boundaries belong to no line, and a boundary at the very end opens
no further line. Parsers of markup know carriage returns and line feeds only, and give a line feed
for each of their boundaries.
-/

namespace LeadScreen

def isLineBoundary (c : Char) : Bool :=
  c == '\n' || c == '\x0B' || c == '\x0C' || c == '\r' || c == '\x1C' || c == '\x1D'
    || c == '\x1E' || c == '\u0085' || c == '\u2028' || c == '\u2029'

namespace Text

/-- The lines of a text whose first line has begun already; `begun` holds what is read of it,
backwards. -/
def linesFrom (begun : Text) : Text → List Text
  | [] => if begun.isEmpty then [] else [begun.reverse]
  | '\r' :: '\n' :: rest => begun.reverse :: linesFrom [] rest
  | c :: rest =>
    if isLineBoundary c then begun.reverse :: linesFrom [] rest else linesFrom (c :: begun) rest

def lines (t : Text) : List Text :=
  linesFrom [] t

/-- The text with a line feed for each carriage return, alone or with the line feed behind it. -/
def withLineFeeds : Text → Text
  | [] => []
  | '\r' :: '\n' :: rest => '\n' :: withLineFeeds rest
  | '\r' :: rest => '\n' :: withLineFeeds rest
  | c :: rest => c :: withLineFeeds rest

example : lines "a\r\nb\n\nc\n".toList = ["a".toList, "b".toList, [], "c".toList] := by
  decide +kernel

example : withLineFeeds "a\r\nb\r\rc".toList = "a\nb\n\nc".toList := by decide +kernel

end Text

end LeadScreen
