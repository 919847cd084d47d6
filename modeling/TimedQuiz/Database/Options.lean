/-
**Options of an address.**

An option is a key in either case, an equals sign and a value in which percent signs are resolved.
Options are divided by ampersands. Which keys there are and which values they take is a table; some
options exclude others, or ask for them.
-/

import TimedQuiz.Database.Login
import TimedQuiz.Decimal.Bounded

namespace TimedQuiz.Database

/-! ### Values -/

/-- What values an option takes. -/
inductive OptionKind
  | text
  /-- A text that is not empty. -/
  | filled
  /-- True or false. -/
  | flag
  | number (least greatest : Nat)
  /-- One of some words in either case. -/
  | word (words : List String)
  /-- By how many servers a write is acknowledged, or the name of a rule for that. -/
  | acknowledgment
  /-- Labels with a colon each, divided by commas. -/
  | labels
  /-- A number of seconds, or minus one. -/
  | seconds
  | mechanism
  | properties
  deriving DecidableEq, Repr

namespace OptionKind

/-- A number of 32 bits without a sign. -/
def word32 (least : Nat) : OptionKind := .number least 0xFFFFFFFF

/-- The greatest time in milliseconds. -/
def greatestMillis : Nat := 0xFFFFFFFFFFFFFFFF

/-- A time in milliseconds. -/
def millis (least : Nat) : OptionKind := .number least greatestMillis

/-- Reads how many servers acknowledge a write, unless that is a name. -/
def acknowledgment? (value : String) : Option Int :=
  Decimal.Bounded.integer? (-0x80000000) 0x7FFFFFFF value.toList

/-- Reads a number of seconds, or minus one. -/
def seconds? (value : String) : Option Int :=
  Decimal.Bounded.integer? (-1) 0x7FFFFFFFFFFFFFFF value.toList

/-- The kind admits the value. -/
def admits : OptionKind → String → Bool
  | .text, _ => true
  | .filled, value => !value.isEmpty
  | .flag, value => value == "true" || value == "false"
  | .number least greatest, value =>
    (Decimal.Bounded.natural? least greatest value.toList).isSome
  | .word words, value => words.contains (Text.lower value)
  | .acknowledgment, value => (acknowledgment? value).all fun count => 0 ≤ count
  | .labels, value =>
    value.isEmpty || (value.toList.splitOn ',').all fun label => label.contains ':'
  | .seconds, value => (seconds? value).isSome
  | .mechanism, value => (Mechanism.ofName? value).isSome
  | .properties, value => (Properties.read? value.toList).isSome

/-- The kinds of the options by their keys in lower case. -/
def ofKey? (key : String) : Option OptionKind :=
  [("appname", text), ("authmechanism", mechanism), ("authmechanismproperties", properties),
   ("authsource", filled), ("connecttimeoutms", millis 0), ("directconnection", flag),
   ("enableoverloadretargeting", flag), ("heartbeatfrequencyms", millis 500), ("journal", flag),
   ("loadbalanced", flag), ("localthresholdms", millis 0), ("maxadaptiveretries", word32 0),
   ("maxconnecting", word32 1), ("maxidletimems", millis 0), ("maxpoolsize", word32 1),
   ("maxstalenessseconds", seconds), ("minpoolsize", word32 0), ("readconcernlevel", text),
   ("readpreference",
     word ["primary", "primarypreferred", "secondary", "secondarypreferred", "nearest"]),
   ("readpreferencetags", labels), ("replicaset", text), ("retryreads", flag),
   ("retrywrites", flag), ("servermonitoringmode", word ["auto", "poll", "stream"]),
   ("serverselectiontimeoutms", millis 0), ("ssl", flag), ("tls", flag),
   ("tlsallowinvalidcertificates", flag), ("tlscafile", text), ("tlscertificatekeyfile", text),
   ("tlsinsecure", flag),
   ("uuidrepresentation", word ["csharplegacy", "javalegacy", "pythonlegacy"]),
   ("w", acknowledgment), ("waitqueuetimeoutms", millis 0), ("wtimeoutms", millis 0)].lookup key

end OptionKind

/-! ### Options -/

/-- The options of an address: keys in lower case with values. -/
abbrev Options := List (String × String)

namespace Options

/-- The value of an option. -/
def value? (options : Options) (key : String) : Option String := options.lookup key

/-- The option has the value. -/
def has (options : Options) (key value : String) : Bool := options.value? key == some value

/-- Reads an option, if its key and its value are known. -/
def readOne? (text : List Char) : Option (String × String) :=
  match Text.divideFirst '=' text with
  | (key, some value) =>
    let key := Text.lower (String.ofList key)
    let value := Text.resolve value
    if (OptionKind.ofKey? key).any fun kind => kind.admits value then some (key, value) else none
  | (_, none) => none

/-- The key that may stand more than once. -/
def labelsKey : String := "readpreferencetags"

/-- Every other key stands once. -/
def areDistinct (options : Options) : Bool :=
  decide ((options.map Prod.fst).filter (· != labelsKey)).Nodup

/-- Reads options; there may be none. -/
def read? (text : List Char) : Option Options :=
  if text.isEmpty then some []
  else ((text.splitOn '&').mapM readOne?).filter areDistinct

/-! ### What goes together -/

/-- A write that nobody acknowledges is not waited for in the journal. -/
def isAcknowledged (options : Options) : Bool :=
  !(((options.value? "w").bind OptionKind.acknowledgment? == some 0) &&
    options.has "journal" "true")

/-- Something other than the first server may be read. -/
def readsElsewhere (options : Options) : Bool :=
  (options.value? "readpreference").any fun preference => Text.lower preference != "primary"

/-- How many seconds what is read may be behind. -/
def staleness? (options : Options) : Option Int :=
  ((options.value? "maxstalenessseconds").bind OptionKind.seconds?).filter (0 ≤ ·)

/-- How many milliseconds pass between two looks at a server when nothing is told. -/
def standardHeartbeat : Nat := 10000

/-- How many milliseconds pass between two looks at a server. -/
def heartbeat (options : Options) : Nat :=
  ((options.value? "heartbeatfrequencyms").bind fun value =>
    Decimal.Bounded.natural? 0 OptionKind.greatestMillis value.toList).getD standardHeartbeat

/-- What is read may be behind for a minute and a half at least, and for ten seconds more than a
look at the server takes. -/
def admitsStaleness (options : Options) (seconds : Int) : Bool :=
  (max 90000 (options.heartbeat + 10000) : Int) ≤ seconds * 1000

/-- Labels and a staleness are only told where something other than the first server is read. -/
def areReadsWhole (options : Options) : Bool :=
  (options.readsElsewhere || ((options.value? labelsKey).isNone && options.staleness?.isNone)) &&
    options.staleness?.all options.admitsStaleness

/-- The option turns encryption on. -/
def encrypts (option : String × String) : Bool :=
  (["tls", "ssl"].contains option.1 && option.2 == "true") ||
    ["tlsallowinvalidcertificates", "tlscafile", "tlscertificatekeyfile",
      "tlsinsecure"].contains option.1

/-- The option turns encryption off. -/
def exposes (option : String × String) : Bool :=
  ["tls", "ssl"].contains option.1 && option.2 == "false"

/-- Encryption is not turned on and off, and at most one of the two options about certificates is
told. -/
def isEncryptionWhole (options : Options) : Bool :=
  !(options.any encrypts && options.any exposes) &&
    ((options.value? "tlsinsecure").isNone ||
      (options.value? "tlsallowinvalidcertificates").isNone)

/-- A direct connection and one through a balancer have a single host; the latter is not direct and
leads to no set of servers. -/
def fitHosts (options : Options) (count : Nat) : Bool :=
  let direct := options.has "directconnection" "true"
  let balanced := options.has "loadbalanced" "true"
  !((direct || balanced) && 1 < count) &&
    !(balanced && (direct || (options.value? "replicaset").isSome))

/-- The login that is told by the user and the options. -/
def login (options : Options) (user : Option User) : Login where
  user := user
  mechanism := (options.value? "authmechanism").bind Mechanism.ofName?
  source := options.value? "authsource"
  properties :=
    ((options.value? "authmechanismproperties").bind fun value =>
      Properties.read? value.toList).getD []

/-- The options go together with each other, with a user and with a number of hosts. -/
def isLawful (options : Options) (user : Option User) (hosts : Nat) : Bool :=
  options.isAcknowledged && options.areReadsWhole && options.isEncryptionWhole &&
    options.fitHosts hosts && (options.login user).isLawful

end Options
end TimedQuiz.Database
