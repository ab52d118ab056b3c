import CardConnector.Text.Quoted
import CardConnector.Tree.Decoder

/-! # Interface protocols

The identifier of a protocol established with a card. It has no inner structure: it is
compared and shown as it stands.
-/

namespace CardConnector

/-- A protocol such as `T=1`. -/
structure Protocol where
  id : String
deriving DecidableEq

namespace Protocol

def diagnostic (protocol : Protocol) : String := "Protocol(" ++ Text.quoted protocol.id ++ ")"

def toJson (protocol : Protocol) : Json := .string protocol.id

def ofJson (value : Json) : Except DecodingFault Protocol :=
  (Tree.asText (Tree.ofJson value)).map Protocol.mk

end Protocol

end CardConnector
