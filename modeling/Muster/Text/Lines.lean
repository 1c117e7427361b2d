/-!
Lines of a text. A line ends at a line feed; one carriage return before that line feed belongs to
the ending. Text after the last line feed is a line if there is any.
-/

namespace Muster.Text

/-- A text read so far: the finished lines in reverse, the current line, and whether a carriage
return follows it that may still belong to an ending. -/
structure LineReader where
  finished : List String := []
  current : String := ""
  held : Bool := false

namespace LineReader

/-- The current line with its carriage return, once that cannot belong to an ending any more. -/
def line (r : LineReader) : String := if r.held then r.current.push '\r' else r.current

def step (r : LineReader) (c : Char) : LineReader :=
  if c = '\n' then { finished := r.current :: r.finished }
  else if c = '\r' then { r with current := r.line, held := true }
  else { r with current := r.line.push c, held := false }

def finish (r : LineReader) : List String :=
  (if r.line.isEmpty then r.finished else r.line :: r.finished).reverse

end LineReader

def lines (text : String) : List String := (text.foldl LineReader.step {}).finish

end Muster.Text
