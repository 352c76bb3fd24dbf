import Flowline.Value

/-!
# Tokens of a condition

The words that a condition is made of. Line ends count only outside brackets, where the indentation
of a line opens and closes blocks.
-/

namespace Flowline.Condition

inductive Token where
  | name (s : String)
  | word (s : String)
  | number (v : Value)
  | text (s : String)
  | octets (bytes : List UInt8)
  /-- A text with fields in braces; the body is as it was written. -/
  | format (raw : Bool) (body : List Char)
  | symbol (s : String)
  | newline
  | indent
  | dedent
  deriving Inhabited

def reservedWords : List String :=
  ["False", "None", "True", "and", "as", "assert", "async", "await", "break", "class", "continue",
   "def", "del", "elif", "else", "except", "finally", "for", "from", "global", "if", "import",
   "in", "is", "lambda", "nonlocal", "not", "or", "pass", "raise", "return", "try", "while",
   "with", "yield"]

def symbols : List String :=
  ["**=", "//=", ">>=", "<<=", "...", "!=", "->", ":=", "==", "<=", ">=", "<<", ">>", "**", "//",
   "+=", "-=", "*=", "/=", "%=", "&=", "|=", "^=", "@=", "(", ")", "[", "]", "\x7b", "\x7d", ",",
   ":", ";", "+", "-", "*", "/", "|", "&", "<", ">", "=", ".", "%", "~", "^", "@"]

end Flowline.Condition
