import DocQuery.Connection.Host
import DocQuery.Connection.Options

/-!
# Addresses

An address has a scheme and hosts.  A login may come before the hosts, the name
of a database after them, and options at the end.
-/

namespace DocQuery

structure Login where
  name : String
  password : Option String
  deriving DecidableEq, Repr

structure Address where
  login : Option Login
  hosts : List Host
  database : Option String
  options : Options
  deriving DecidableEq, Repr

/-!
# Written logins

The signs that part an address are written with percent signs in a login, and
so is the percent sign itself.
-/

namespace Login

def reserved : List Char :=
  [':', '/', '?', '#', '[', ']', '@']

def readPart? (chars : List Char) : Option String :=
  if chars.any reserved.contains || !Percent.isClean chars then none else Percent.decode? chars

def read? (chars : List Char) : Option Login := do
  let (name, password) :=
    match Text.cutAt? [':'] chars with
    | some (name, password) => (name, some password)
    | none => (chars, none)
  if name.isEmpty then
    none
  let name ← readPart? name
  match password with
  | none => return ⟨name, none⟩
  | some password => return ⟨name, some (← readPart? password)⟩

end Login

namespace Address

/-!
# Sound addresses
-/

def isSound (a : Address) : Bool :=
  let options := a.options
  options.narrowingFits && options.journalFits && options.encryptionFits && options.poolFits
    && options.hostsFit a.hosts.length
    && options.loginFits a.login.isSome (a.login.any (·.password.isSome))

/-- Lets later options win over those of the address. -/
def override (a : Address) (later : Options) : Address :=
  { a with options := later ++ a.options }

/-!
# Written addresses

The only scheme is that of hosts which are written out.  The last `@` ends the
login, so a host cannot have one.
-/

def scheme : List Char :=
  "mongodb".toList

def inDatabase : List Char :=
  ['/', '\\', ' ', '"', '$', '.']

/-- Reads the name of a database; without characters there is none. -/
def readDatabase? (chars : List Char) : Option (Option String) :=
  if chars.isEmpty then some none
  else
    match Percent.decode? chars with
    | some name => if name.toList.any inDatabase.contains then none else some (some name)
    | none => none

def readLogin? (chars : List Char) : Option (Option Login × List Char) :=
  match Text.cutAtLast? '@' chars with
  | none => some (none, chars)
  | some (login, rest) => (Login.read? login).map fun login => (some login, rest)

def readHosts? (chars : List Char) : Option (List Host) :=
  (Text.splitAt ',' chars).mapM Host.read?

def readParts? (chars : List Char) : Option Address := do
  let (front, options) := (Text.cutAt? ['?'] chars).getD (chars, [])
  let (login, rest) ← readLogin? front
  let (hosts, database) := (Text.cutAt? ['/'] rest).getD (rest, [])
  return {
    login
    hosts := ← readHosts? hosts
    database := ← readDatabase? database
    options := ← Options.read? options }

def read? (text : String) : Option Address :=
  match Text.cutAt? "://".toList text.toList with
  | none => none
  | some (start, rest) =>
      if start = scheme then (readParts? rest).filter isSound else none

theorem isSound_of_read? {text : String} {a : Address} (h : read? text = some a) :
    a.isSound = true := by
  unfold read? at h
  split at h
  · simp at h
  · split at h
    · exact (Option.filter_eq_some_iff.mp h).2
    · simp at h

end Address
end DocQuery
