import UrlRewrite.Flag.Basic
import UrlRewrite.Pattern
import UrlRewrite.Template.Reader

/-!
# Errors of configurations

Why a configuration cannot be read. Every error names the directive that is at fault.
-/

namespace UrlRewrite

/-- The directives that are understood. -/
inductive DirectiveKind where
  | serverName
  | rewriteEngine
  | rewriteCond
  | rewriteRule
  | virtualHost
  | ifModule
deriving DecidableEq, Repr

/-- The name of a directive, as configurations write it. -/
def DirectiveKind.name : DirectiveKind → String
  | serverName => "ServerName"
  | rewriteEngine => "RewriteEngine"
  | rewriteCond => "RewriteCond"
  | rewriteRule => "RewriteRule"
  | virtualHost => "VirtualHost"
  | ifModule => "IfModule"

/-- What holds directives: the whole configuration, or a block in it. -/
inductive BlockKind where
  | main
  | virtualHost
  | ifModule
deriving DecidableEq, Repr

/-- The kind of block that a directive is; none if it stands on a line. -/
def DirectiveKind.block? : DirectiveKind → Option BlockKind
  | virtualHost => some .virtualHost
  | ifModule => some .ifModule
  | _ => none

/-- How messages call a block. -/
def BlockKind.name : BlockKind → String
  | main => "MainContext"
  | virtualHost => DirectiveKind.virtualHost.name
  | ifModule => DirectiveKind.ifModule.name

/-- Why a configuration cannot be read. -/
inductive ConfigError where
  | unterminated (block : BlockKind) (near : Text)
  | missingField (directive : DirectiveKind) (field : String)
  | invalidField (directive : DirectiveKind) (field : String) (value : Text)
  | flag (directive : DirectiveKind) (cause : FlagError)
  | pattern (directive : DirectiveKind) (cause : PatternError)
  | template (directive : DirectiveKind) (cause : TemplateError)
deriving DecidableEq, Repr

namespace ConfigError

def message : ConfigError → String
  | unterminated block near =>
    "Unterminated " ++ block.name ++ " block starting at " ++ Text.quoted near
  | missingField d field => "Missing " ++ field ++ " in " ++ d.name
  | invalidField d field value =>
    "Invalid " ++ field ++ " " ++ Text.quoted value ++ " in " ++ d.name
  | flag d _ => "Invalid flags in " ++ d.name
  | pattern d _ => "Invalid pattern in " ++ d.name
  | template d _ => "Invalid format string in " ++ d.name

end ConfigError

end UrlRewrite
