/-! # Blank characters

Trimming and blankness use one class: the white space of the character standard together with the
four information separators. JSON white space is a smaller class and lives with the JSON reader.
-/
set_option autoImplicit false
namespace EventDigest.Text

def isBlank (c : Char) : Bool :=
  let n := c.toNat
  (9 ≤ n && n ≤ 13) || (28 ≤ n && n ≤ 32) || n == 0x85 || n == 0xA0 || n == 0x1680 ||
    (0x2000 ≤ n && n ≤ 0x200A) || n == 0x2028 || n == 0x2029 || n == 0x202F || n == 0x205F ||
    n == 0x3000

def trimmed (s : List Char) : List Char :=
  ((s.dropWhile isBlank).reverse.dropWhile isBlank).reverse

def trim (s : String) : String := String.ofList (trimmed s.toList)

def allBlank (s : String) : Bool := s.toList.all isBlank

end EventDigest.Text
