/-!
# Literals in templates

A template is scanned for wildcards only up to its first string literal: the first single or
double quote that is not escaped, where a backslash escapes the character after it.
`splitAtLiteral` returns the part before that quote and the rest, which starts with it.

`escapeLiteral` writes a value for use inside a single-quoted literal: a backslash before every
backslash and every single quote. Reading the result back, dropping each escaping backslash,
gives the value again, and no quote in it ends the literal.
-/

set_option autoImplicit false

namespace EntityQuery.Query

/-- The part of a template before its first unescaped quote, and the rest from that quote. -/
def splitAtLiteral : List Char → List Char × List Char
  | [] => ([], [])
  | c :: rest =>
    if c == '\\' then
      match rest with
      | [] => ([c], [])
      | e :: more => (splitAtLiteral more).map (c :: e :: ·) id
    else if c == '\'' || c == '"' then ([], c :: rest)
    else (splitAtLiteral rest).map (c :: ·) id

theorem splitAtLiteral_append (cs : List Char) :
    (splitAtLiteral cs).1 ++ (splitAtLiteral cs).2 = cs := by
  fun_induction splitAtLiteral cs <;> simp_all

/-- A value escaped for a single-quoted literal. -/
def escapeChars : List Char → List Char
  | [] => []
  | c :: rest =>
    if c == '\\' || c == '\'' then '\\' :: c :: escapeChars rest else c :: escapeChars rest

/-- A value escaped for a single-quoted literal. -/
def escapeLiteral (s : String) : String := String.ofList (escapeChars s.toList)

end EntityQuery.Query
