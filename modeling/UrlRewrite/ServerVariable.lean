import UrlRewrite.Text.Basic

/-!
# Server variables

The closed list of the variables that stand in templates as `%{NAME}`. Their names are compared
exactly. Each belongs to one category; those that repeat a header of the request name that header.

`ServerVariable.read?_name` says that every variable is found under its name. The categories tell
where values come from, so that what gives the variables of one category gives no others
(`Moment.category_of_mem`).
-/

namespace UrlRewrite

/-- What a server variable tells about. -/
inductive VariableCategory where
  | header
  | request
  | server
  | time
  | special
deriving DecidableEq, Repr

/-- A value that the request and the server give. -/
inductive ServerVariable where
  | httpAccept
  | httpCookie
  | httpForwarded
  | httpHost
  | httpProxyConnection
  | httpReferer
  | httpUserAgent
  | authType
  | connRemoteAddr
  | contextPrefix
  | contextDocumentRoot
  | ipv6
  | pathInfo
  | queryString
  | remoteAddr
  | remoteHost
  | remoteIdent
  | remotePort
  | remoteUser
  | requestMethod
  | scriptFilename
  | documentRoot
  | scriptGroup
  | scriptUser
  | serverAddr
  | serverAdmin
  | serverName
  | serverPort
  | serverProtocol
  | serverSoftware
  | timeYear
  | timeMon
  | timeDay
  | timeHour
  | timeMin
  | timeSec
  | timeWday
  | time
  | apiVersion
  | https
  | isSubreq
  | requestFilename
  | requestScheme
  | requestUri
  | theRequest
deriving DecidableEq, Repr

namespace ServerVariable

/-- All variables, in their customary order. -/
def all : List ServerVariable :=
  [.httpAccept, .httpCookie, .httpForwarded, .httpHost, .httpProxyConnection, .httpReferer,
    .httpUserAgent, .authType, .connRemoteAddr, .contextPrefix, .contextDocumentRoot, .ipv6,
    .pathInfo, .queryString, .remoteAddr, .remoteHost, .remoteIdent, .remotePort, .remoteUser,
    .requestMethod, .scriptFilename, .documentRoot, .scriptGroup, .scriptUser, .serverAddr,
    .serverAdmin, .serverName, .serverPort, .serverProtocol, .serverSoftware, .timeYear, .timeMon,
    .timeDay, .timeHour, .timeMin, .timeSec, .timeWday, .time, .apiVersion, .https, .isSubreq,
    .requestFilename, .requestScheme, .requestUri, .theRequest]

/-- The name under which templates refer to the variable. -/
def name : ServerVariable → String
  | httpAccept => "HTTP_ACCEPT"
  | httpCookie => "HTTP_COOKIE"
  | httpForwarded => "HTTP_FORWARDED"
  | httpHost => "HTTP_HOST"
  | httpProxyConnection => "HTTP_PROXY_CONNECTION"
  | httpReferer => "HTTP_REFERER"
  | httpUserAgent => "HTTP_USER_AGENT"
  | authType => "AUTH_TYPE"
  | connRemoteAddr => "CONN_REMOTE_ADDR"
  | contextPrefix => "CONTEXT_PREFIX"
  | contextDocumentRoot => "CONTEXT_DOCUMENT_ROOT"
  | ipv6 => "IPV6"
  | pathInfo => "PATH_INFO"
  | queryString => "QUERY_STRING"
  | remoteAddr => "REMOTE_ADDR"
  | remoteHost => "REMOTE_HOST"
  | remoteIdent => "REMOTE_IDENT"
  | remotePort => "REMOTE_PORT"
  | remoteUser => "REMOTE_USER"
  | requestMethod => "REQUEST_METHOD"
  | scriptFilename => "SCRIPT_FILENAME"
  | documentRoot => "DOCUMENT_ROOT"
  | scriptGroup => "SCRIPT_GROUP"
  | scriptUser => "SCRIPT_USER"
  | serverAddr => "SERVER_ADDR"
  | serverAdmin => "SERVER_ADMIN"
  | serverName => "SERVER_NAME"
  | serverPort => "SERVER_PORT"
  | serverProtocol => "SERVER_PROTOCOL"
  | serverSoftware => "SERVER_SOFTWARE"
  | timeYear => "TIME_YEAR"
  | timeMon => "TIME_MON"
  | timeDay => "TIME_DAY"
  | timeHour => "TIME_HOUR"
  | timeMin => "TIME_MIN"
  | timeSec => "TIME_SEC"
  | timeWday => "TIME_WDAY"
  | time => "TIME"
  | apiVersion => "API_VERSION"
  | https => "HTTPS"
  | isSubreq => "IS_SUBREQ"
  | requestFilename => "REQUEST_FILENAME"
  | requestScheme => "REQUEST_SCHEME"
  | requestUri => "REQUEST_URI"
  | theRequest => "THE_REQUEST"

/-- The category that the variable belongs to. -/
def category : ServerVariable → VariableCategory
  | httpAccept | httpCookie | httpForwarded | httpHost | httpProxyConnection | httpReferer |
    httpUserAgent => .header
  | authType | connRemoteAddr | contextPrefix | contextDocumentRoot | ipv6 | pathInfo |
    queryString | remoteAddr | remoteHost | remoteIdent | remotePort | remoteUser | requestMethod |
    scriptFilename => .request
  | documentRoot | scriptGroup | scriptUser | serverAddr | serverAdmin | serverName | serverPort |
    serverProtocol | serverSoftware => .server
  | timeYear | timeMon | timeDay | timeHour | timeMin | timeSec | timeWday | time => .time
  | apiVersion | https | isSubreq | requestFilename | requestScheme | requestUri |
    theRequest => .special

/-- The header of the request that the variable repeats. -/
def header? : ServerVariable → Option String
  | httpAccept => some "Accept"
  | httpCookie => some "Cookie"
  | httpForwarded => some "Forwarded"
  | httpHost => some "Host"
  | httpProxyConnection => some "Proxy-Connection"
  | httpReferer => some "Referer"
  | httpUserAgent => some "User-Agent"
  | _ => none

/-- The variable with that name. -/
def read? (s : Text) : Option ServerVariable := all.find? fun v => v.name.toList == s

/-- The place of the variable among all. -/
def position (v : ServerVariable) : Nat := all.idxOf v

/-- The variable as a template writes it. -/
def written (v : ServerVariable) : Text := "%\x7b".toList ++ v.name.toList ++ "\x7d".toList

/-- Every server variable is listed. -/
theorem mem_all (v : ServerVariable) : v ∈ all := by cases v <;> decide

/-- Every server variable is read by its name. -/
theorem read?_name (v : ServerVariable) : read? v.name.toList = some v := by cases v <;> decide

end ServerVariable

end UrlRewrite
