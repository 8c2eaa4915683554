/-!
# JSON documents

The documents that data files hold and that reports are written as. Members of an object
stand in the order of the document, repeated names included; what reads a document
decides which of them counts. Whole numbers and other numbers are kept apart.
-/

namespace TextTemplate

/-- A JSON document. -/
inductive Json where
  | null
  | bool (truth : Bool)
  | integer (number : Int)
  | decimal (number : Float)
  | string (text : String)
  | array (items : List Json)
  | object (members : List (String × Json))
  deriving Inhabited

end TextTemplate
