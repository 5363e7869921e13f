set_option autoImplicit false

namespace JavaSurvey.Newline

def unifyChars : List Char → List Char
  | [] => []
  | '\r' :: '\n' :: rest => '\n' :: unifyChars rest
  | c :: rest => (if c = '\r' then '\n' else c) :: unifyChars rest

def unify (s : String) : String := String.ofList (unifyChars s.toList)

end JavaSurvey.Newline
