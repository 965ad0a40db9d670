import UrlRewrite.Text.Blank
import UrlRewrite.Text.Decimal
import UrlRewrite.Text.Quoted
import UrlRewrite.Text.Terminal

/-!
# Options of the command line

Options are read from left to right. A value stands behind its option, as an argument of its own
that does not look like an option, or joined to it: `--uri=/a`, `-cplan.yaml`. An option that takes
one value can be given once.

An option whose value stands in an argument of its own is settled only when the next option, or the
end, is reached (`Options.settle`); an argument that means nothing is an error before that.
-/

namespace UrlRewrite

/-- The options that take a value. -/
inductive Setting where
  | plan
  | config
  | uri
  | host
  | method
  | header
  | ip
  | port
deriving DecidableEq, Repr

namespace Setting

def all : List Setting := [plan, config, uri, host, method, header, ip, port]

/-- The name of an option, without the dashes. -/
def name : Setting → String
  | plan => "configuration-path"
  | config => "config"
  | uri => "uri"
  | host => "host"
  | method => "method"
  | header => "header"
  | ip => "ip"
  | port => "port"

/-- How messages call the value of an option. -/
def valueName : Setting → String
  | plan => "CONFIGURATION_PATH"
  | config => "CONFIG"
  | uri => "URI"
  | host => "HOST"
  | method => "METHOD"
  | header => "HEADERS"
  | ip => "IP"
  | port => "PORT"

/-- An option with its value, as messages show it. -/
def shown (s : Setting) : String := "'--" ++ s.name ++ " <" ++ s.valueName ++ ">'"

end Setting

/-- The options that take no value. -/
inductive Switch where
  | json
  | verbose
deriving DecidableEq, Repr

namespace Switch

def all : List Switch := [json, verbose]

def name : Switch → String
  | json => "json"
  | verbose => "verbose"

def shown (s : Switch) : String := "'--" ++ s.name ++ "'"

end Switch

/-- Why the value of an option is refused. -/
inductive ValueError where
  | headerWithoutColon
  | headerWithoutName
  | notAnInteger (cause : DecimalError)
  | notAPort (n : Int)
deriving DecidableEq, Repr

/-- The reason why `value` is refused, as messages give it. -/
def ValueError.message (value : Text) : ValueError → String
  | headerWithoutColon => "invalid header " ++ Text.quoted value ++ ", expected Name:value"
  | headerWithoutName => "invalid header " ++ Text.quoted value ++ ", empty name"
  | notAnInteger cause => cause.message
  | notAPort n => String.ofList (Text.ofInt n) ++ " is not in 0..=65535"

/-- Why arguments are refused. -/
inductive UsageError where
  | unexpected (argument : Text)
  | valueMissing (option : Setting)
  | valueRefused (option : Setting) (value : Text) (cause : ValueError)
  | valueUnwanted (option : Switch) (value : Text)
  | settingRepeated (option : Setting)
  | switchRepeated (option : Switch)
deriving DecidableEq, Repr

namespace UsageError

/-- What was written on the command line, as messages show it. -/
def written (s : Text) : String := String.ofList (Text.withoutOrders s)

def message : UsageError → String
  | unexpected argument => "unexpected argument '" ++ written argument ++ "' found"
  | valueMissing option => "a value is required for " ++ option.shown ++ " but none was supplied"
  | valueRefused option value cause =>
    "invalid value '" ++ written value ++ "' for " ++ option.shown ++ ": " ++ cause.message value
  | valueUnwanted option value =>
    "unexpected value '" ++ written value ++ "' for " ++ option.shown ++
      " found; no more were expected"
  | settingRepeated option => "the argument " ++ option.shown ++ " cannot be used multiple times"
  | switchRepeated option => "the argument " ++ option.shown ++ " cannot be used multiple times"

end UsageError

/-- Reads a header of the form `Name:value`. -/
def readHeaderOption (s : Text) : Except ValueError (Text × Text) :=
  match Text.splitFirst ':' s with
  | none => .error .headerWithoutColon
  | some (name, value) =>
    if (Text.trim name).isEmpty then .error .headerWithoutName
    else .ok (Text.trim name, Text.trim value)

/-- Reads a port. -/
def readPortOption (s : Text) : Except ValueError Nat :=
  match Text.readInt Text.maxInt64 s with
  | .error e => .error (.notAnInteger e)
  | .ok n => if 0 ≤ n ∧ n ≤ Text.maxPort then .ok n.toNat else .error (.notAPort n)

/-- The options that have been given. -/
structure Options where
  plan : Option Text := none
  config : Option Text := none
  uri : Option Text := none
  host : Option Text := none
  method : Option Text := none
  headers : List (Text × Text) := []
  ip : Option Text := none
  port : Option Nat := none
  json : Bool := false
  verbose : Bool := false
deriving DecidableEq, Repr

namespace Options

/-- Sets an option that can be given once. -/
def once {α : Type} (s : Setting) (given : Option α) (o : Options) : Except UsageError Options :=
  if given.isSome then .error (.settingRepeated s) else .ok o

/-- The options with one more that has a value. -/
def set (o : Options) (s : Setting) (value : Text) : Except UsageError Options :=
  match s with
  | .plan => once s o.plan { o with plan := some value }
  | .config => once s o.config { o with config := some value }
  | .uri => once s o.uri { o with uri := some value }
  | .host => once s o.host { o with host := some value }
  | .method => once s o.method { o with method := some value }
  | .ip => once s o.ip { o with ip := some value }
  | .header =>
    match readHeaderOption value with
    | .ok header => .ok { o with headers := o.headers ++ [header] }
    | .error e => .error (.valueRefused s value e)
  -- a port that is given twice is an error before its value is read
  | .port =>
    if o.port.isSome then .error (.settingRepeated s)
    else
      match readPortOption value with
      | .ok port => .ok { o with port := some port }
      | .error e => .error (.valueRefused s value e)

/-- The options with one more that has no value. -/
def turnOn (o : Options) (s : Switch) : Except UsageError Options :=
  match s with
  | .json => if o.json then .error (.switchRepeated s) else .ok { o with json := true }
  | .verbose => if o.verbose then .error (.switchRepeated s) else .ok { o with verbose := true }

/-- An option that is not settled yet, with its value as soon as there is one. -/
abbrev Pending := Option (Setting × Option Text)

/-- The options with the pending one. -/
def settle (o : Options) : Pending → Except UsageError Options
  | none => .ok o
  | some (s, none) => .error (.valueMissing s)
  | some (s, some value) => o.set s value

/-- Reads an argument of letters behind one dash. -/
def readLetters (o : Options) (pending : Pending) : Text → Except UsageError (Options × Pending)
  | [] => .ok (o, pending)
  | 'v' :: rest => do
    let o ← (← o.settle pending).turnOn .verbose
    readLetters o none rest
  | 'c' :: rest => do
    -- the value stands behind the letter, with a sign between them or without, or is the next
    -- argument
    match rest with
    | [] => return (← o.settle pending, some (.plan, none))
    | '=' :: value => return (← (← o.settle pending).set .plan value, none)
    | value => return (← (← o.settle pending).set .plan value, none)
  | c :: _ => .error (.unexpected ['-', c])

/-- Reads an argument that begins with two dashes, given without them. -/
def readWord (o : Options) (pending : Pending) (s : Text) :
    Except UsageError (Options × Pending) := do
  let (name, value?) :=
    match Text.splitFirst '=' s with
    | some (name, value) => (name, some value)
    | none => (s, none)
  match Setting.all.find? (·.name.toList == name), Switch.all.find? (·.name.toList == name) with
  -- the option before is settled first, so that its error comes first
  | some setting, _ =>
    let o ← o.settle pending
    match value? with
    | some value => return (← o.set setting value, none)
    | none => return (o, some (setting, none))
  | none, some switch =>
    match value? with
    | some value => .error (.valueUnwanted switch value)
    | none => return (← (← o.settle pending).turnOn switch, none)
  | none, none => .error (.unexpected ("--".toList ++ name))

/-- Reads arguments. Behind `--` there are no options, and so nothing may follow. -/
def readArguments (o : Options) (pending : Pending) : List Text → Except UsageError Options
  | [] => o.settle pending
  | ['-', '-'] :: rest =>
    match rest with
    | [] => o.settle pending
    | argument :: _ => .error (.unexpected argument)
  | ('-' :: '-' :: word) :: rest => do
    let (o, pending) ← o.readWord pending word
    o.readArguments pending rest
  | ('-' :: c :: letters) :: rest => do
    let (o, pending) ← o.readLetters pending (c :: letters)
    o.readArguments pending rest
  | argument :: rest =>
    -- an argument without a dash is the value of the option before, if that wants one
    match pending with
    | some (s, none) => o.readArguments (some (s, some argument)) rest
    | _ => .error (.unexpected argument)

/-- Reads the arguments of the command line. -/
def read (arguments : List Text) : Except UsageError Options :=
  readArguments {} none arguments

end Options

end UrlRewrite
