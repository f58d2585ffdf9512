/-! # Lines

Two readings of a line end. A header value may not reach over any of the line boundaries of the
character standard; a message body is carried with each of LF, CRLF and CR read as one line end.
-/
set_option autoImplicit false
namespace EventDigest.Text

def isLineBoundary (c : Char) : Bool :=
  let n := c.toNat
  (10 ≤ n && n ≤ 13) || (28 ≤ n && n ≤ 30) || n == 0x85 || n == 0x2028 || n == 0x2029

/-- Whether text follows the first line boundary. -/
def spansLines : List Char → Bool
  | [] => false
  | '\r' :: '\n' :: rest => !rest.isEmpty
  | c :: rest => if isLineBoundary c then !rest.isEmpty else spansLines rest

def lineFeeds : List Char → List Char
  | [] => []
  | '\r' :: '\n' :: rest => '\n' :: lineFeeds rest
  | '\r' :: rest => '\n' :: lineFeeds rest
  | c :: rest => c :: lineFeeds rest

/-- The lines of a text, each closed by LF; an empty text is one empty line. -/
def closedLines (s : List Char) : List Char :=
  let body := lineFeeds s
  if body.getLast? = some '\n' then body else body ++ ['\n']

end EventDigest.Text
