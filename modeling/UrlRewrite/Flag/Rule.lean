import UrlRewrite.Flag.Basic
import UrlRewrite.Text.CaseFold
import UrlRewrite.Text.CharClass

/-!
# Flags of rules

The flags that a rule can carry. A flag is one of a few words, in any case, and for some kinds an
argument behind an equals sign. The arguments are kept as they are written; what they mean when the
rule matches is said by its effects.
-/

namespace UrlRewrite

/-- The arguments of a cookie flag, in the order in which they are written. -/
structure CookieFields where
  name : Text
  value : Text
  domain : Option Text := none
  lifetime : Option Nat := none
  path : Option Text := none
  secure : Option Text := none
  httpOnly : Option Text := none
deriving DecidableEq, Repr

/-- What a rule does to a variable of the environment. -/
inductive EnvChange where
  | set (name : Text) (value : Option Text)
  | unset (name : Text)
deriving DecidableEq, Repr

/-- The status that a redirecting rule asks for. -/
inductive RedirectArgument where
  | usual
  | code (n : Nat)
  | named (name : Text)
deriving DecidableEq, Repr

/-- A flag of a rule. -/
inductive RuleFlag where
  | escapeGroups
  | chain
  | cookie (fields : CookieFields)
  | discardPathInfo
  | endRun
  | env (change : EnvChange)
  | forbidden
  | gone
  | handler (name : Text)
  | last
  | next (most : Option Nat)
  | ignoreCase
  | noEscape
  | noSubrequest
  | proxy
  | passThrough
  | appendQuery
  | discardQuery
  | redirect (argument : RedirectArgument)
  | skip (n : Nat)
  | contentType (name : Text)
deriving DecidableEq, Repr

namespace RuleFlag

/-- The kinds of the flags of rules. -/
inductive Kind where
  | escapeGroups
  | chain
  | cookie
  | discardPathInfo
  | endRun
  | env
  | forbidden
  | gone
  | handler
  | last
  | next
  | ignoreCase
  | noEscape
  | noSubrequest
  | proxy
  | passThrough
  | appendQuery
  | discardQuery
  | redirect
  | skip
  | contentType
deriving DecidableEq, Repr

/-- All kinds, in the order in which a rule has its effects. -/
def Kind.all : List Kind :=
  [.escapeGroups, .chain, .cookie, .discardPathInfo, .endRun, .env, .forbidden, .gone,
    .handler, .last, .next, .ignoreCase, .noEscape, .noSubrequest, .proxy, .passThrough,
    .appendQuery, .discardQuery, .redirect, .skip, .contentType]

def kind : RuleFlag → Kind
  | escapeGroups => .escapeGroups
  | chain => .chain
  | cookie _ => .cookie
  | discardPathInfo => .discardPathInfo
  | endRun => .endRun
  | env _ => .env
  | forbidden => .forbidden
  | gone => .gone
  | handler _ => .handler
  | last => .last
  | next _ => .next
  | ignoreCase => .ignoreCase
  | noEscape => .noEscape
  | noSubrequest => .noSubrequest
  | proxy => .proxy
  | passThrough => .passThrough
  | appendQuery => .appendQuery
  | discardQuery => .discardQuery
  | redirect _ => .redirect
  | skip _ => .skip
  | contentType _ => .contentType

/-- The words that stand for a kind. -/
def Kind.words : Kind → List String
  | escapeGroups => ["B"]
  | chain => ["C", "chain"]
  | cookie => ["CO", "cookie"]
  | discardPathInfo => ["DPI", "discardpath"]
  | endRun => ["END"]
  | env => ["E", "env"]
  | forbidden => ["F", "forbidden"]
  | gone => ["G", "gone"]
  | handler => ["H", "handler"]
  | last => ["L", "last"]
  | next => ["N", "next"]
  | ignoreCase => ["NC", "nocase"]
  | noEscape => ["NE", "noescape"]
  | noSubrequest => ["NS", "nosubreq"]
  | proxy => ["P", "proxy"]
  | passThrough => ["PT", "passthrough"]
  | appendQuery => ["QSA", "qsappend"]
  | discardQuery => ["QSD", "qsdiscard"]
  | redirect => ["R", "redirect"]
  | skip => ["S", "skip"]
  | contentType => ["T", "type"]

/-- The flag of a kind that takes no argument. -/
def Kind.plain? : Kind → Option RuleFlag
  | escapeGroups => some .escapeGroups
  | chain => some .chain
  | discardPathInfo => some .discardPathInfo
  | endRun => some .endRun
  | forbidden => some .forbidden
  | gone => some .gone
  | last => some .last
  | next => some (.next none)
  | ignoreCase => some .ignoreCase
  | noEscape => some .noEscape
  | noSubrequest => some .noSubrequest
  | proxy => some .proxy
  | passThrough => some .passThrough
  | appendQuery => some .appendQuery
  | discardQuery => some .discardQuery
  | redirect => some (.redirect .usual)
  | _ => none

/-- Digits of any script. -/
def isNumber (s : Text) : Bool := !s.isEmpty && s.all isDigit

/-- Reads a count. -/
def readCount (s : Text) : Except ArgumentError Nat :=
  (Text.readNat Text.maxInt64 s).mapError .decimal

/-- Reads a lifetime in minutes, which has to be an integer of 64 bits in seconds too. -/
def readLifetime (s : Text) : Except ArgumentError Nat :=
  match readCount s with
  | .error e => .error e
  | .ok n => if n * 60 ≤ Text.maxInt64 then .ok n else .error .lifetimeOutOfRange

/-- The reading of an argument, with what its error message has to say. -/
def argument (written : Text) (field : String) (value : Text)
    (read : Text → Except ArgumentError Nat) :
    Except FlagError Nat :=
  (read value).mapError (.invalidArgument written field value)

/-- The arguments of a cookie flag from the places between the colons: a name and a value, and then
any number of the others in their order. -/
def cookieFields? (written : Text) : List Text → Option (Except FlagError CookieFields)
  | name :: value :: more =>
    if name.isEmpty then none
    else
      match more with
      | [] => some (.ok { name, value })
      | [domain] => some (.ok { name, value, domain := some domain })
      | domain :: lifetime :: more =>
        -- a lifetime is of digits, and there are at most three places behind it
        if !isNumber lifetime || 3 < more.length then none
        else
          some ((argument written "lifetime" lifetime readLifetime).map fun minutes =>
            { name, value
              domain := some domain
              lifetime := some minutes
              path := more[0]?
              secure := more[1]?
              httpOnly := more[2]? })
  | _ => none

/-- The change of a variable: `!name`, `name` or `name:value`, the value on one line. -/
def envChange? (s : Text) : Option EnvChange :=
  match s with
  | [] => none
  | '!' :: name => if name.isEmpty || name.contains ':' then none else some (.unset name)
  | ':' :: _ => none
  | _ =>
    match s.splitFirst ':' with
    | none => some (.set s none)
    | some (name, value) => if value.contains '\n' then none else some (.set name (some value))

/-- A text that is neither empty nor broken into lines. -/
def line? (s : Text) : Option Text := if s.isEmpty || s.contains '\n' then none else some s

/-- The flag of a kind with an argument; `none` if the kind does not take it. -/
def Kind.withArgument? (k : Kind) (written value : Text) : Option (Except FlagError RuleFlag) :=
  match k with
  | cookie => (cookieFields? written (Text.splitAll ':' value)).map fun r => r.map .cookie
  | env => (envChange? value).map fun change => .ok (.env change)
  | handler => (line? value).map fun name => .ok (.handler name)
  | contentType => (line? value).map fun name => .ok (.contentType name)
  | next =>
    if isNumber value then
      some ((argument written "maximum" value readCount).map fun n => .next (some n))
    else none
  | skip =>
    if isNumber value then some ((argument written "number" value readCount).map .skip) else none
  | redirect =>
    if isNumber value then
      some ((argument written "status_code" value readStatus).map fun n => .redirect (.code n))
    -- a name is kept as it is, and looked up when the flag has its effect
    else if !value.isEmpty && value.all isWord then some (.ok (.redirect (.named value)))
    else none
  | _ => none

/-- The flag of a kind that a text stands for. -/
def read? (k : Kind) (s : Text) : Option (Except FlagError RuleFlag) :=
  let (word, value) := FlagFamily.cutArgument s
  if k.words.any fun w => Text.isKeyword w.toList word then
    match value with
    | none => k.plain?.map .ok
    | some value => k.withArgument? s value
  else none

instance : FlagFamily RuleFlag where
  Kind := Kind
  title := "RuleFlag"
  kinds := Kind.all
  kinds_nodup := by decide
  kind := kind
  read? := read?

end RuleFlag

end UrlRewrite
