import CardConnector.Tree.Fault

/-! # Configuration errors

Why no configuration can be loaded.
-/

namespace CardConnector

inductive ConfigurationError where
  /-- The file that was asked for does not exist. -/
  | fileNotFound (path : String)
  /-- A file name ends in something else than the format that can be read. -/
  | unknownFormat (extension : String)
  /-- A file breaks the rules of its format. -/
  | malformedFile
  /-- A value is not what the configuration asks for. -/
  | decoding (fault : DecodingFault)
  /-- A setting has a value that makes no sense. -/
  | invalid (message : String)
  /-- A setting is missing that another one needs. -/
  | missing (field : String)
deriving DecidableEq

/-- The wording of an error. Where a malformed file goes wrong is not told. -/
def ConfigurationError.message : ConfigurationError → String
  | fileNotFound path => "Configuration file not found: " ++ path
  | unknownFormat extension =>
    "Failed to parse configuration: Unsupported or disabled configuration file format: ."
      ++ extension
  | malformedFile => "TOML parse error"
  | decoding fault => "Failed to parse configuration: " ++ fault.settingMessage
  | invalid message => "Invalid configuration: " ++ message
  | missing field => "Missing required configuration field: " ++ field

end CardConnector
