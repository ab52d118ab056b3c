import CardConnector.Tree.Decoder

/-! # Settings of the binding

Which headers every response gets, and the name of the header for the minor result.
-/

namespace CardConnector

structure BindingSettings where
  /-- Whether responses forbid foreign content, guessing and framing. -/
  securityHeaders : Bool
  cacheControl : Bool
  /-- The header in which the minor result appears. -/
  minorResultHeader : String
deriving DecidableEq

namespace BindingSettings

def default : BindingSettings := ⟨true, true, "X-Result-Minor"⟩

instance : Inhabited BindingSettings := ⟨default⟩

/-- Each field that is not given has a value of its own. -/
def shape : RecordShape BindingSettings where
  name := "BindingConfig"
  initial :=
    { securityHeaders := true, cacheControl := true, minorResultHeader := "X-Result-Minor" }
  fields :=
    [⟨"security_headers", fun s t => (Tree.asBool t).map fun v => { s with securityHeaders := v }⟩,
     ⟨"cache_control", fun s t => (Tree.asBool t).map fun v => { s with cacheControl := v }⟩,
     ⟨"minor_result_header", fun s t =>
        (Tree.asText t).map fun v => { s with minorResultHeader := v }⟩]

/-- The JSON form: all fields in the order of their declaration. -/
def toJson (settings : BindingSettings) : Json :=
  .object
    [("security_headers", .bool settings.securityHeaders),
     ("cache_control", .bool settings.cacheControl),
     ("minor_result_header", .string settings.minorResultHeader)]

end BindingSettings

end CardConnector
