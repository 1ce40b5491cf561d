import DocQuery.Connection.Address
import DocQuery.Schema.Written

/-!
# Connection settings

Where a database server is found and how it is spoken to.  The address is given
in parts, or as one text that is then used as it stands.
-/

namespace DocQuery

structure Connection where
  host : String := "localhost"
  port : UInt16 := 27017
  user : Option String := none
  password : Option String := none
  database : Option String := none
  url : Option String := none
  appName : Option String := none
  replicaSet : Option String := none
  directConnection : Option Bool := none
  minPoolSize : Option UInt32 := none
  maxPoolSize : Option UInt32 := none
  connectTimeout : Option UInt64 := none
  selectionTimeout : Option UInt64 := none
  retryReads : Option Bool := none
  retryWrites : Option Bool := none
  deriving DecidableEq, Repr

namespace Connection

/-!
# Written settings

A port has 16 bits, the size of a pool 32 and a time in milliseconds 64.
-/

def port16 : Shape.Reader UInt16 :=
  fun j => (Shape.word "u16" (Number.twoTo 16) j).map UInt16.ofNat

def size32 : Shape.Reader UInt32 :=
  fun j => (Shape.word "u32" (Number.twoTo 32) j).map UInt32.ofNat

def time64 : Shape.Reader UInt64 :=
  fun j => (Shape.word "u64" (Number.twoTo 64) j).map UInt64.ofNat

def orNull (write : α → Json) (value : Option α) : Json :=
  (value.map write).getD .null

def toJson (c : Connection) : Json :=
  .record
    [("host", .text c.host), ("port", .whole c.port.toNat), ("user", orNull .text c.user),
      ("password", orNull .text c.password), ("database", orNull .text c.database),
      ("url", orNull .text c.url), ("appName", orNull .text c.appName),
      ("replicaSet", orNull .text c.replicaSet),
      ("directConnection", orNull .boolean c.directConnection),
      ("minPoolSize", orNull (Json.whole ∘ UInt32.toNat) c.minPoolSize),
      ("maxPoolSize", orNull (Json.whole ∘ UInt32.toNat) c.maxPoolSize),
      ("connectTimeoutMS", orNull (Json.whole ∘ UInt64.toNat) c.connectTimeout),
      ("serverSelectionTimeoutMS", orNull (Json.whole ∘ UInt64.toNat) c.selectionTimeout),
      ("retryReads", orNull .boolean c.retryReads),
      ("retryWrites", orNull .boolean c.retryWrites)]

def record : Shape.Record Connection where
  title := "struct ConnectionConfig"
  start := {}
  members :=
    [.of "host" Shape.text fun c host => { c with host },
      .of "port" port16 fun c port => { c with port },
      .of "user" (Shape.optional Shape.text) fun c user => { c with user },
      .of "password" (Shape.optional Shape.text) fun c password => { c with password },
      .of "database" (Shape.optional Shape.text) fun c database => { c with database },
      .of "url" (Shape.optional Shape.text) fun c url => { c with url },
      .of "appName" (Shape.optional Shape.text) fun c appName => { c with appName },
      .of "replicaSet" (Shape.optional Shape.text) fun c replicaSet => { c with replicaSet },
      .of "directConnection" (Shape.optional Shape.boolean)
        fun c directConnection => { c with directConnection },
      .of "minPoolSize" (Shape.optional size32) fun c minPoolSize => { c with minPoolSize },
      .of "maxPoolSize" (Shape.optional size32) fun c maxPoolSize => { c with maxPoolSize },
      .of "connectTimeoutMS" (Shape.optional time64)
        fun c connectTimeout => { c with connectTimeout },
      .of "serverSelectionTimeoutMS" (Shape.optional time64)
        fun c selectionTimeout => { c with selectionTimeout },
      .of "retryReads" (Shape.optional Shape.boolean) fun c retryReads => { c with retryReads },
      .of "retryWrites" (Shape.optional Shape.boolean)
        fun c retryWrites => { c with retryWrites }]

def toText (c : Connection) : String :=
  c.toJson.print

def ofText (text : String) : Except Error Connection :=
  (Shape.ofText record.read text).mapError .settings

/-!
# Addresses

The database serves to check credentials, so that they cannot be given without
one.  This holds also when the address is given as one text.
-/

def credentials? (c : Connection) : Option (String × String) :=
  match c.user, c.password with
  | some user, some password => some (user, password)
  | _, _ => none

def parts (c : Connection) : String :=
  let login :=
    match c.credentials? with
    | some (user, password) => user ++ ":" ++ password ++ "@"
    | none => ""
  "mongodb://" ++ login ++ c.host ++ ":" ++ Number.natText c.port.toNat ++ "/" ++ c.database.getD ""

def addressText (c : Connection) : Except Error String :=
  if c.credentials?.isSome ∧ c.database = none then
    .error (.connection .noDatabaseForCredentials)
  else
    .ok (c.url.getD c.parts)

/-!
# Targets

A client speaks to the server of the address and uses one database of it: that
of the settings, or the one that the address names when it is given as one
text.  What the settings say wins over the options of the address.
-/

structure Source where
  text : String
  database : Option String
  deriving DecidableEq, Repr

structure Target where
  address : Address
  database : String
  deriving DecidableEq, Repr

def source (c : Connection) : Except Error Source :=
  c.addressText.map fun text => ⟨text, if c.url.isSome then none else c.database⟩

def flagText (flag : Bool) : String :=
  if flag then "true" else "false"

def options (c : Connection) : Options :=
  [c.appName.map ("appname", ·),
    c.replicaSet.map ("replicaset", ·),
    c.directConnection.map fun flag => ("directconnection", flagText flag),
    c.minPoolSize.map fun size => ("minpoolsize", Number.natText size.toNat),
    c.maxPoolSize.map fun size => ("maxpoolsize", Number.natText size.toNat),
    c.connectTimeout.map fun time => ("connecttimeoutms", Number.natText time.toNat),
    c.selectionTimeout.map fun time => ("serverselectiontimeoutms", Number.natText time.toNat),
    c.retryReads.map fun flag => ("retryreads", flagText flag),
    c.retryWrites.map fun flag => ("retrywrites", flagText flag)].filterMap id

def target (c : Connection) : Except Error Target := do
  let source ← c.source
  match Address.read? source.text with
  | none => throw (.connection (.address source.text))
  | some written =>
      let address := written.override c.options
      match source.database.or written.database with
      | none => throw (.connection .noDatabase)
      | some database =>
          if address.isSound then return ⟨address, database⟩
          else throw (.connection .options)

end Connection
end DocQuery
