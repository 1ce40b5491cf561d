import DocQuery.Connection.Host
import DocQuery.Text.Bytes
import DocQuery.Text.Case.Lower
import DocQuery.Text.Cut

/-!
# Options

The options of an address are names with values.  A known name tells what its
value must be, and other names are refused; so are those of options that name a
file of certificates, or that belong to hosts which have to be looked up.
-/

namespace DocQuery

inductive OptionKind where
  | any
  | filled
  | flag
  | word (bits : Nat)
  | atLeast (least : Nat)
  | between (least most : Int)
  /-- At least -1, which stands for no value. -/
  | orNone
  /-- A text, or a number that is not negative. -/
  | tagOrCount
  | oneOf (names : List String)
  /-- One of some names, in letters of either case. -/
  | anyCase (names : List String)
  /-- Names with values, each with a colon between them. -/
  | pairs (emptyToo : Bool)
  deriving DecidableEq, Repr

namespace OptionKind

def arePairs (value : List Char) : Bool :=
  (Text.splitAt ',' value).all (·.contains ':')

def accepts (value : String) : OptionKind → Bool
  | any => true
  | filled => value != ""
  | flag => value = "true" || value = "false"
  | word bits => (Number.readWord? bits value.toList).isSome
  | atLeast least => (Number.readWord? 64 value.toList).any (least ≤ ·)
  | between least most => (Number.readSigned? 32 value.toList).any fun n => least ≤ n && n ≤ most
  | orNone => (Number.readSigned? 64 value.toList).any (-1 ≤ ·)
  | tagOrCount => (Number.readSigned? 32 value.toList).all (0 ≤ ·)
  | oneOf names => names.contains value
  | anyCase names => names.contains (Text.lower value)
  | pairs emptyToo => (emptyToo && value = "") || arePairs value.toList

end OptionKind

def millis : OptionKind :=
  .word 64

def optionKinds : List (String × OptionKind) :=
  [("appname", .any),
    ("authmechanism",
      .oneOf ["SCRAM-SHA-1", "SCRAM-SHA-256", "MONGODB-X509", "PLAIN"]),
    ("authmechanismproperties", .pairs false),
    ("authsource", .filled),
    ("compressors", .any),
    ("connecttimeoutms", millis),
    ("directconnection", .flag),
    ("heartbeatfrequencyms", .atLeast 500),
    ("journal", .flag),
    ("loadbalanced", .flag),
    ("localthresholdms", millis),
    ("maxconnecting", .word 32),
    ("maxidletimems", millis),
    ("maxpoolsize", .word 32),
    ("maxstalenessseconds", .orNone),
    ("minpoolsize", .word 32),
    ("readconcernlevel", .any),
    ("readpreference",
      .anyCase ["primary", "primarypreferred", "secondary", "secondarypreferred", "nearest"]),
    ("readpreferencetags", .pairs true),
    ("replicaset", .any),
    ("retryreads", .flag),
    ("retrywrites", .flag),
    ("servermonitoringmode", .anyCase ["stream", "poll", "auto"]),
    ("serverselectiontimeoutms", millis),
    ("sockettimeoutms", millis),
    ("ssl", .flag),
    ("tls", .flag),
    ("tlsallowinvalidcertificates", .flag),
    ("tlsinsecure", .flag),
    ("uuidrepresentation", .anyCase ["csharplegacy", "javalegacy", "pythonlegacy"]),
    ("w", .tagOrCount),
    ("waitqueuetimeoutms", millis),
    ("wtimeoutms", millis),
    ("zlibcompressionlevel", .between (-1) 9)]

/-- Options with their values; what was said last comes first. -/
abbrev Options := List (String × String)

namespace Options

def value? (options : Options) (name : String) : Option String :=
  List.lookup name options

def sets (options : Options) (name value : String) : Bool :=
  options.value? name == some value

def has (options : Options) (name : String) : Bool :=
  (options.value? name).isSome

def number? (options : Options) (name : String) : Option Nat :=
  (options.value? name).bind fun value => Number.readWord? 64 value.toList

/-!
# Options that go together

Some options limit what others may say.
-/

/-- The nodes to read from can be narrowed only when others than the primary are wanted. -/
def narrowingFits (options : Options) : Bool :=
  let narrowed :=
    options.has "readpreferencetags"
      || (options.has "maxstalenessseconds" && !options.sets "maxstalenessseconds" "-1")
  !narrowed || ((options.value? "readpreference").map Text.lower).any (· != "primary")

/-- A write that nobody confirms cannot ask for the journal. -/
def journalFits (options : Options) : Bool :=
  !(options.sets "journal" "true"
    && (options.value? "w").any fun value => Number.readSigned? 32 value.toList == some 0)

def encryptionFits (options : Options) : Bool :=
  let lenient := ["tlsallowinvalidcertificates", "tlsinsecure"].filter options.has
  let wanted := ["tls", "ssl"].filterMap options.value?
  lenient.length ≤ 1
    && (wanted.all (· == "true") || (wanted.all (· == "false") && lenient.isEmpty))

/-- A pool has room, and so has the row of those that wait for it. -/
def poolFits (options : Options) : Bool :=
  options.number? "maxpoolsize" != some 0 && options.number? "maxconnecting" != some 0

/-- A client that is tied to one host is not given several, or the name of their set. -/
def hostsFit (options : Options) (count : Nat) : Bool :=
  let direct := options.sets "directconnection" "true"
  let balanced := options.sets "loadbalanced" "true"
  (!direct || count ≤ 1)
    && (!balanced || (count ≤ 1 && !direct && !options.has "replicaset"))

def loginFits (options : Options) (named withPassword : Bool) : Bool :=
  match options.value? "authmechanism" with
  | none => true
  | some "PLAIN" => named && withPassword
  | some "MONGODB-X509" => !withPassword && (options.value? "authsource").all (· == "$external")
  | some _ => named

/-!
# Written options
-/

/-- A value that is no text has a sign that no known value has. -/
def decodeValue (chars : List Char) : String :=
  (Percent.decode? chars).getD "\ufffd"

def lowerName (chars : List Char) : String :=
  Text.lower (String.ofList chars)

def isAccepted (name value : String) : Bool :=
  (optionKinds.lookup name).any (·.accepts value)

/-- Only tags may be said twice under one name, in the same letters. -/
def namesFit (names : List (List Char)) : Bool :=
  decide (names.filter fun name => lowerName name != "readpreferencetags").Nodup

def read? (chars : List Char) : Option Options := do
  if chars.isEmpty then
    return []
  let pairs ← (Text.splitAt '&' chars).mapM (Text.cutAt? ['='])
  let options := pairs.map fun (name, value) => (lowerName name, decodeValue value)
  if namesFit (pairs.map Prod.fst) && options.all (fun (name, value) => isAccepted name value) then
    some options.reverse
  else none

end Options
end DocQuery
