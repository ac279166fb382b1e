import OpnsensePlugin.Python.IpAddress

/-!
# `urllib.parse`

`urlsplit`, `urlparse`, `urlunparse` and `urljoin` as in Python 3.11, for `str`
arguments and with fragments allowed. `none` stands for `ValueError`.
-/

namespace Python

structure SplitResult where
  scheme : Str
  netloc : Str
  path : Str
  query : Str
  fragment : Str
deriving DecidableEq

/-- The lower case of an ASCII letter -/
def asciiLower (c : CodePoint) : CodePoint :=
  if code 'A' ≤ c && c ≤ code 'Z' then c + 32 else c

/-- `scheme_chars` -/
def isSchemeChar (c : CodePoint) : Bool :=
  isAsciiAlnum c || c = code '+' || c = code '-' || c = code '.'

/-- `_WHATWG_C0_CONTROL_OR_SPACE` -/
def isC0OrSpace (c : CodePoint) : Bool := c ≤ 32

/-- `_UNSAFE_URL_BYTES_TO_REMOVE` -/
def isUnsafeByte (c : CodePoint) : Bool := c = 9 || c = 13 || c = 10

def isNetlocEnd (c : CodePoint) : Bool := c = code '/' || c = code '?' || c = code '#'

/-- Split off a leading `scheme:`. -/
def splitScheme (default url : Str) : Str × Str :=
  match partition (code ':') url with
  | (lead, some rest) =>
      if (lead.head?.any isAsciiAlpha) && lead.all isSchemeChar then (lead.map asciiLower, rest)
      else (default, url)
  | (_, none) => (default, url)

/-- `_check_bracketed_host` -/
def bracketedHostOk (host : Str) : Bool :=
  match host with
  | [] => false
  | first :: rest =>
      if first = code 'v' then
        let digits := rest.takeWhile isHexDigit
        match rest.dropWhile isHexDigit with
        | dot :: _ :: _ => !digits.isEmpty && dot = code '.'
        | _ => false
      else match ipAddress host with
        | some (.v6 _ _) => true
        | _ => false

/-- The checks of `urlsplit` on brackets. -/
def bracketsOk (netloc : Str) : Bool :=
  match partition (code '[') netloc with
  | (_, none) => code ']' ∉ netloc
  | (_, some inside) => code ']' ∈ netloc && bracketedHostOk (partition (code ']') inside).1

section

variable [Runtime]

/-- `_checknetloc` -/
def netlocOk (netloc : Str) : Bool :=
  if netloc.isEmpty || isAscii netloc then true
  else
    let plain := netloc.filter fun c =>
      !(c = code '@' || c = code ':' || c = code '#' || c = code '?')
    let normal := Runtime.nfkc plain
    plain = normal ||
      !normal.any fun c => isNetlocEnd c || c = code '@' || c = code ':'

/-- `urlsplit(url, scheme)` -/
def urlsplit (url : Str) (scheme : Str := []) : Option SplitResult :=
  let url := (url.dropWhile isC0OrSpace).filter (!isUnsafeByte ·)
  let (scheme, url) := splitScheme scheme url
  let (netloc, url) :=
    match url with
    | a :: b :: rest =>
        if a = code '/' && b = code '/' then
          (rest.takeWhile (!isNetlocEnd ·), rest.dropWhile (!isNetlocEnd ·))
        else ([], url)
    | _ => ([], url)
  let (url, fragment) := partition (code '#') url
  let (path, query) := partition (code '?') url
  if bracketsOk netloc && netlocOk netloc then
    some { scheme, netloc, path, query := query.getD [], fragment := fragment.getD [] }
  else none

/-! ## Parts of the network location -/

namespace SplitResult

/-- `_userinfo` -/
def userinfo (url : SplitResult) : Option Str × Option Str :=
  match rpartition (code '@') url.netloc with
  | (none, _) => (none, none)
  | (some info, _) =>
      let (username, password) := partition (code ':') info
      (some username, password)

def username (url : SplitResult) : Option Str := url.userinfo.1

def password (url : SplitResult) : Option Str := url.userinfo.2

/-- `_hostinfo` -/
def hostinfo (url : SplitResult) : Str × Option Str :=
  let hostinfo := (rpartition (code '@') url.netloc).2
  let (hostname, port) :=
    match partition (code '[') hostinfo with
    | (_, some bracketed) =>
        let (hostname, rest) := partition (code ']') bracketed
        (hostname, (partition (code ':') (rest.getD [])).2)
    | (_, none) => partition (code ':') hostinfo
  (hostname, port.filter (!·.isEmpty))

/-- `hostname`: a zone keeps its case. -/
def hostname (url : SplitResult) : Option Str :=
  let host := url.hostinfo.1
  if host.isEmpty then none
  else match partition (code '%') host with
    | (name, none) => some (Runtime.lower name)
    | (name, some zone) => some (Runtime.lower name ++ [code '%'] ++ zone)

/-- `port`; the outer `none` stands for `ValueError`. -/
def port (url : SplitResult) : Option (Option Nat) :=
  match url.hostinfo.2 with
  | none => some none
  | some text =>
      if text.all isAsciiDigit && !text.isEmpty then
        match parseInt 10 text with
        | some (.ofNat value) => if value ≤ 65535 then some (some value) else none
        | _ => none
      else none

end SplitResult

/-! ## Joining -/

structure ParseResult where
  scheme : Str
  netloc : Str
  path : Str
  params : Str
  query : Str
  fragment : Str
deriving DecidableEq

def usesRelative : List Str :=
  ["", "ftp", "http", "gopher", "nntp", "imap", "wais", "file", "https", "shttp", "mms",
    "prospero", "rtsp", "rtsps", "rtspu", "sftp", "svn", "svn+ssh", "ws", "wss"]

def usesNetloc : List Str :=
  ["", "ftp", "http", "gopher", "nntp", "telnet", "imap", "wais", "file", "mms", "https",
    "shttp", "snews", "prospero", "rtsp", "rtsps", "rtspu", "rsync", "svn", "svn+ssh", "sftp",
    "nfs", "git", "git+ssh", "ws", "wss"]

def usesParams : List Str :=
  ["", "ftp", "hdl", "prospero", "http", "imap", "https", "shttp", "rtsp", "rtsps", "rtspu",
    "sip", "sips", "mms", "sftp", "tel"]

/-- `_splitparams`: cut at the first `;` of the last segment. -/
def splitParams (path : Str) : Str × Str :=
  match rpartition (code '/') path with
  | (none, _) => let (head, params) := partition (code ';') path
      (head, params.getD [])
  | (some front, last) => let (head, params) := partition (code ';') last
      (front ++ [code '/'] ++ head, params.getD [])

/-- `urlparse(url, scheme)` -/
def urlparse (url : Str) (scheme : Str := []) : Option ParseResult :=
  (urlsplit url scheme).map fun split =>
    let (path, params) := if split.scheme ∈ usesParams then splitParams split.path
      else (split.path, [])
    { scheme := split.scheme, netloc := split.netloc, path, params, query := split.query,
      fragment := split.fragment }

/-- `urlunparse` -/
def urlunparse (parts : ParseResult) : Str :=
  let path := if parts.params.isEmpty then parts.path
    else parts.path ++ [code ';'] ++ parts.params
  let url :=
    if !parts.netloc.isEmpty || (!parts.scheme.isEmpty && parts.scheme ∈ usesNetloc) ||
        ("//" : Str).isPrefixOf path then
      let rooted := if !path.isEmpty && path.head? ≠ some (code '/') then code '/' :: path
        else path
      "//" ++ parts.netloc ++ rooted
    else path
  let url := if parts.scheme.isEmpty then url else parts.scheme ++ [code ':'] ++ url
  let url := if parts.query.isEmpty then url else url ++ [code '?'] ++ parts.query
  if parts.fragment.isEmpty then url else url ++ [code '#'] ++ parts.fragment

/-- One segment of RFC 3986 dot-segment removal. -/
def resolveStep (resolved : List Str) (segment : Str) : List Str :=
  if segment = ".." then resolved.dropLast
  else if segment = "." then resolved
  else resolved ++ [segment]

def resolveSegments (segments : List Str) : List Str :=
  let resolved := segments.foldl resolveStep []
  if segments.getLastD [] = "." || segments.getLastD [] = ".." then resolved ++ [[]]
  else resolved

/-- The segments that `urljoin` resolves. -/
def joinedSegments (basePath path : Str) : List Str :=
  if path.head? = some (code '/') then splitOn (code '/') path
  else
    let base := splitOn (code '/') basePath
    let directory := if base.getLastD [] ≠ [] then base.dropLast else base
    let segments := directory ++ splitOn (code '/') path
    match segments with
    | first :: second :: rest =>
        first :: ((second :: rest).dropLast.filter (!·.isEmpty) ++ [(second :: rest).getLastD []])
    | _ => segments

/-- `urljoin(base, url)` -/
def urljoin (base url : Str) : Option Str :=
  if base.isEmpty then some url
  else if url.isEmpty then some base
  else do
    let root ← urlparse base
    let parts ← urlparse url root.scheme
    if parts.scheme ≠ root.scheme || parts.scheme ∉ usesRelative then some url
    else if parts.scheme ∈ usesNetloc && !parts.netloc.isEmpty then some (urlunparse parts)
    else
      let netloc := if parts.scheme ∈ usesNetloc then root.netloc else parts.netloc
      if parts.path.isEmpty && parts.params.isEmpty then
        some (urlunparse { parts with
          netloc
          path := root.path
          params := root.params
          query := if parts.query.isEmpty then root.query else parts.query })
      else
        let path := join "/" (resolveSegments (joinedSegments root.path parts.path))
        some (urlunparse { parts with netloc, path := if path.isEmpty then "/" else path })

end

end Python
