import DocQuery.Calendar.Instant
import DocQuery.Text.Bytes
import DocQuery.Value.Basic

/-!
# Shown values

The text by which messages name a value.  Strings stand in quotes and nothing
in them is escaped, so the text is for readers and is not read back.
-/

namespace DocQuery
namespace Value

/-- Hexadecimal digits of a byte without a leading zero. -/
def shownByte (b : UInt8) : String :=
  String.ofList (Nat.toDigits 16 b.toNat)

def shownText (text : String) : String :=
  "\"" ++ text ++ "\""

/-- Braces stand apart from the fields, and close up when there are none. -/
def shownDocument (fields : List String) : String :=
  if fields.isEmpty then "\x7b\x7d" else "\x7b " ++ ", ".intercalate fields ++ " \x7d"

mutual

def shown : Value → String
  | .null => "null"
  | .undefined => "undefined"
  | .minKey => "MinKey"
  | .maxKey => "MaxKey"
  | .boolean b => if b then "true" else "false"
  | .int32 n => Number.intText n.toInt
  | .int64 n => Number.intText n.toInt
  | .double x => Number.text Number.shown x
  | .string s => shownText s
  | .array items => "[" ++ ", ".intercalate (shownItems items) ++ "]"
  | .document fields => shownDocument (shownFields fields)
  | .objectId id => "ObjectId(" ++ shownText id.toHex ++ ")"
  | .instant millis => "DateTime(" ++ shownText (Calendar.shownInstant millis.toInt) ++ ")"
  | .binary subtype bytes =>
      "Binary(0x" ++ shownByte subtype ++ ", " ++ String.ofList (Base64.encode bytes) ++ ")"
  | .regex pattern options => "/" ++ pattern ++ "/" ++ options
  | .timestamp time increment =>
      "Timestamp(" ++ Number.natText time.toNat ++ ", " ++ Number.natText increment.toNat ++ ")"
  | .code source => source
  | .scopedCode source _ => source
  | .symbol name => "Symbol(" ++ shownText name ++ ")"
  | .decimal text => text

def shownItems : List Value → List String
  | [] => []
  | v :: rest => shown v :: shownItems rest

def shownFields : List (String × Value) → List String
  | [] => []
  | (key, v) :: rest => (shownText key ++ ": " ++ shown v) :: shownFields rest

end

end Value

def Document.shown (d : Document) : String :=
  Value.shown (.document d)

end DocQuery
