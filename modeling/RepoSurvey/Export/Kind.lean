import RepoSurvey.Export.Record
import RepoSurvey.Pattern.Search

/-!
# The kind of a name

What a name stands for is looked up in the text that exports it: a function that is
declared or assigned, a class, or any other constant. A name that is not declared so is of
unknown kind.
-/

namespace RepoSurvey.Export

open Pattern

/-- The mark of an asynchronous function, if there is one. -/
def asyncMark : Pattern := optional ("async" ++ gap)

/-- Parameters in parentheses, and the arrow of a function. -/
def arrowParameters : Pattern :=
  "(" ++ many (charNotOf ")") ++ ")" ++ blanks ++ "=>"

/-- A letter of ASCII or the underscore. -/
def isNameStart (c : Char) : Bool := c.isAlpha || c == '_'

/-- A single parameter, and the arrow of a function. -/
def arrowName : Pattern := one isNameStart ++ many Text.isWordChar ++ blanks ++ "=>"

/-- The declaration of a function of a name. -/
def functionDeclaration (name : Pattern) : Pattern :=
  anchor .wordEdge ++ asyncMark ++ "function" ++ gap ++ name ++ blanks ++ "("

/-- The declaration of a class of a name. -/
def classDeclaration (name : Pattern) : Pattern :=
  anchor .wordEdge ++ "class" ++ gap ++ name ++ one fun c => Text.isBlank c || c == '\x7b'

/-- The declaration of a variable of a name. -/
def variableDeclaration (name : Pattern) : Pattern :=
  anchor .wordEdge ++ words ["const", "let", "var"] ++ gap ++ name ++ blanks ++ "="

/-- The assignment of an asynchronous arrow function to a name. -/
def asyncAssignment (name : Pattern) : Pattern :=
  name ++ blanks ++ "=" ++ blanks ++ "async" ++ blanks ++ "("

/-- The assignment of a function of any form to a name. -/
def functionAssignment (name : Pattern) : Pattern :=
  name ++ blanks ++ "=" ++ blanks ++ asyncMark ++
    oneOf ["function", arrowParameters, arrowName]

/-- The assignment of a function to a name that is not declared in the text. -/
def bareAssignments (name : Pattern) : List Pattern :=
  [anchor .wordEdge ++ name ++ blanks ++ "=" ++ blanks ++ asyncMark ++ "function",
   anchor .wordEdge ++ asyncAssignment name,
   anchor .wordEdge ++ name ++ blanks ++ "=" ++ blanks ++ arrowParameters]

/-- The kind of a name in a text. -/
def kindOf (content : List Char) (name : List Char) : ExportKind :=
  let named := literal name
  if name.isEmpty || name.head? = some '(' then .unknown
  else if (functionDeclaration named).occursIn content then .function
  else if (classDeclaration named).occursIn content then .class_
  else if (variableDeclaration named).occursIn content then
    if (functionAssignment named).occursIn content ||
        (asyncAssignment named).occursIn content then
      .function
    else .const
  else if (bareAssignments named).any (·.occursIn content) then .function
  else .unknown

end RepoSurvey.Export
