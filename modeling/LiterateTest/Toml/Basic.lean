import LiterateTest.Record

/-! TOML: tables of values under keys. -/

namespace LiterateTest

inductive TomlValue where
  | string (text : String)
  | integer (value : Int)
  /-- A number with a fraction or an exponent, or an infinite one, as it is written. -/
  | float (text : String)
  | boolean (value : Bool)
  /-- A date, a time, or both, as it is written. -/
  | dateTime (text : String)
  | array (items : List TomlValue)
  | table (entries : List (String × TomlValue))

namespace Toml

def isBareKeyChar (c : Char) : Bool := c.isAlphanum || c == '_' || c == '-'

def isControl (c : Char) : Bool := (c.toNat < 0x20 && c != '\t') || c.toNat == 0x7F

def isSpace (c : Char) : Bool := c == ' ' || c == '\t'

end Toml

end LiterateTest
