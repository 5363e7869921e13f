import JavaSurvey.Tree.Node

set_option autoImplicit false

namespace JavaSurvey

inductive TokenKind where
  | word | symbol | number | character | text
  /-- The pieces of a text with expressions in it: up to the first of them, between two of them, and
  after the last. -/
  | textStart | textMiddle | textEnd
  /-- Characters that begin no token. -/
  | junk
  /-- The end of the source. -/
  | finish
  deriving DecidableEq, Repr, Inhabited

structure Token where
  kind : TokenKind
  text : String
  extent : Extent
  /-- Where the piece before it ends, be that a token or a comment. -/
  before : Point
  deriving Repr, Inhabited

namespace Token

/-- `b` follows `a` with nothing in between. -/
def touches (a b : Token) : Bool := a.extent.endByte == b.extent.firstByte

end Token

end JavaSurvey
