import ModuleUpdate.Json.Printing

namespace ModuleUpdate

/-!
# Responses

The document that answers a request: an object with the result, or with the error in words.
-/

/-- The answer to a request. -/
inductive Response where
  | success (result : Json)
  | failure (message : Text)
  deriving Repr

namespace Response

/-- Whether the answer is an error. -/
def isError : Response → Bool
  | success _ => false
  | failure _ => true

/-- The document of an answer. -/
def toJson : Response → Json
  | success result => .object [("result".toList, result)]
  | failure message => .object [("error".toList, .string message)]

/-- The text of the document, which ends with a line feed. -/
def toText (pretty : Bool) (response : Response) : Text :=
  response.toJson.toText pretty ++ ['\n']

end Response

end ModuleUpdate
