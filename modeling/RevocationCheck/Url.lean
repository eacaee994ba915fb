import RevocationCheck.Number.Digits
import RevocationCheck.Text.Blank
import RevocationCheck.Url.Host
import RevocationCheck.Url.Path

/-!
# URLs

Reading an absolute URL and writing it in its normal form: lower-case scheme and host, resolved
path, default port left out, and percent signs where a part needs them.

Some schemes have rules of their own: backslashes count as slashes, the host may not be empty,
and the number of slashes in front of it does not matter.  A file URL differs again in that it
may have no host and treats drive letters with care.
-/

namespace RevocationCheck

/-- User, host and port of a URL. -/
structure Authority where
  username : List Char
  password : List Char
  /-- No host and an empty host look the same. -/
  host : Option Url.Host
  port : Option Nat
deriving Repr, DecidableEq

/-- The path of a URL. -/
inductive UrlPath
  | segments (path : List (List Char))
  /-- A path that does not begin with a slash and has no segments. -/
  | rootless (text : List Char)
deriving Repr, DecidableEq

/-- An absolute URL. -/
structure Url where
  scheme : List Char
  authority : Option Authority
  path : UrlPath
  query : Option (List Char)
  fragment : Option (List Char)
deriving Repr, DecidableEq

namespace Url

/-- The kinds of schemes. -/
inductive SchemeKind
  | file
  | special
  | other
deriving Repr, DecidableEq

/-- The kind of a scheme. -/
def kindOf (scheme : List Char) : SchemeKind :=
  let name := String.ofList scheme
  if name = "file" then .file
  else if ["http", "https", "ws", "wss", "ftp"].contains name then .special
  else .other

/-- The port that a scheme has without naming it. -/
def defaultPort? (scheme : List Char) : Option Nat :=
  match String.ofList scheme with
  | "http" | "ws" => some 80
  | "https" | "wss" => some 443
  | "ftp" => some 21
  | _ => none

/-- Does a character separate segments? -/
def isSlash (kind : SchemeKind) (c : Char) : Bool := c = '/' || (kind ≠ .other && c = '\\')

/-- Does a character end the part of a URL that names its host? -/
def endsAuthority (kind : SchemeKind) (c : Char) : Bool :=
  isSlash kind c || c = '?' || c = '#'

/-- Read the query and the fragment. -/
def withTail (kind : SchemeKind) (scheme : List Char) (authority : Option Authority)
    (path : UrlPath) (tail : List Char) : Url :=
  let set := if kind = .other then Percent.inQuery else Percent.inSpecialQuery
  let fragmentOf (cs : List Char) : Option (List Char) :=
    match cs with
    | '#' :: rest => some (Percent.encode Percent.inFragment rest)
    | _ => none
  match tail with
  | '?' :: rest =>
    ⟨scheme, authority, path, some (Percent.encode set (rest.takeWhile (· ≠ '#'))),
      fragmentOf (rest.dropWhile (· ≠ '#'))⟩
  | _ => ⟨scheme, authority, path, none, fragmentOf tail⟩

/-- Cut text into segments. -/
def segmentsOf (kind : SchemeKind) (cs : List Char) : List (List Char) :=
  (cs.map fun c => if isSlash kind c then '/' else c).splitOn '/'

/-- Does the path end here? -/
def endsPath (c : Char) : Bool := c = '?' || c = '#'

/-- Read path, query and fragment behind a slash. -/
def withPath (kind : SchemeKind) (scheme : List Char) (authority : Option Authority)
    (cs : List Char) : Url :=
  let text := cs.takeWhile fun c => !endsPath c
  let path := Path.resolve (kind = .file) (segmentsOf kind text)
  withTail kind scheme authority (.segments path) (cs.dropWhile fun c => !endsPath c)

/-- Read what stands behind a host and port. -/
def afterAuthority (kind : SchemeKind) (scheme : List Char) (authority : Authority)
    (cs : List Char) : Url :=
  match kind, cs with
  | .other, [] => withTail kind scheme (some authority) (.segments []) []
  | .other, c :: rest =>
    if endsPath c then withTail kind scheme (some authority) (.segments []) cs
    else withPath kind scheme (some authority) (if c = '/' then rest else cs)
  | _, [] => withPath kind scheme (some authority) []
  | _, c :: rest => withPath kind scheme (some authority) (if isSlash kind c then rest else cs)

/-- The characters of a host: up to a colon outside brackets, or to the end of the authority. -/
def hostText (kind : SchemeKind) (inside : Bool) : List Char → List Char × List Char
  | [] => ([], [])
  | c :: rest =>
    if (c = ':' && !inside) || endsAuthority kind c then ([], c :: rest)
    else
      let inside := if c = '[' then true else if c = ']' then false else inside
      let (host, tail) := hostText kind inside rest
      (c :: host, tail)

/-- Read the digits of a port. -/
def readPort (port : Nat) (anyDigit : Bool) (cs : List Char) :
    Except Fault (Option Nat × List Char) :=
  match cs with
  | [] => .ok (if anyDigit then some port else none, [])
  | c :: rest =>
    if c.isDigit then
      let port := 10 * port + Digits.ofChar c
      if 65535 < port then .error .invalidPort else readPort port true rest
    else if c = '/' || c = '\\' || c = '?' || c = '#' then
      .ok (if anyDigit then some port else none, cs)
    else .error .invalidPort

/-- Split user name and password, which a colon separates. -/
def splitUserInfo (cs : List Char) : List Char × List Char :=
  let encode := Percent.encode Percent.inUserInfo
  match cs.dropWhile (· ≠ ':') with
  | [] => (encode cs, [])
  | _ :: password => (encode (cs.takeWhile (· ≠ ':')), encode password)

/-- Split at the last at-sign of the authority, if it has one. -/
def splitAtSign (kind : SchemeKind) (cs : List Char) : Option (List Char × List Char) :=
  let authority := cs.takeWhile fun c => !endsAuthority kind c
  match authority.reverse.dropWhile (· ≠ '@') with
  | [] => none
  | _ :: front => some (front.reverse, cs.drop (front.length + 1))

/-- Read user, host, port and everything behind them. -/
def readAuthority (kind : SchemeKind) (scheme cs : List Char) : Except Fault Url := do
  let (user, rest) := (splitAtSign kind cs).getD ([], cs)
  let endsHere : Bool := rest.head?.any (endsAuthority kind)
  if (splitAtSign kind cs).isSome && user.isEmpty && endsHere then .error .emptyHost
  else
    let (username, password) := splitUserInfo user
    let (host, rest) := hostText kind false rest
    if kind = .special && host.isEmpty then .error .emptyHost
    else
      let named ← if kind = .other then Host.ofOther host else Host.ofSpecial host
      let isEmpty := named = .domain []
      let hasPort := rest.head? = some ':'
      let hasUser := !username.isEmpty || !password.isEmpty
      if isEmpty && (hasPort || kind = .special || hasUser) then .error .emptyHost
      else
        let (port, rest) ← if hasPort then readPort 0 false (rest.drop 1) else .ok (none, rest)
        let port := if port = defaultPort? scheme then none else port
        .ok (afterAuthority kind scheme
          ⟨username, password, if isEmpty then none else some named, port⟩ rest)

/-- The authority of a file URL. -/
def fileAuthority (host : Option Host) : Authority := ⟨[], [], host, none⟩

/-- Does a file URL lose its host to the drive letter its path begins with? -/
def dropHostBeforeDrive (url : Url) : Url :=
  match url.path with
  | .segments (first :: _) =>
    if Path.isDriveLetter first then { url with authority := some (fileAuthority none) } else url
  | _ => url

/-- Read a file URL behind its scheme. -/
def readFile (scheme cs : List Char) : Except Fault Url :=
  match cs with
  | a :: b :: rest =>
    if isSlash .file a && isSlash .file b then
      let text := rest.takeWhile fun c => !endsAuthority .file c
      if Path.isDriveLetter text then
        .ok (withPath .file scheme (some (fileAuthority none)) rest)
      else if text.isEmpty then .ok (withPath .file scheme (some (fileAuthority none)) rest)
      else do
        let host ← Host.ofSpecial text
        let tail := rest.drop text.length
        if host = .domain "localhost".toList then
          .ok (withPath .file scheme (some (fileAuthority none)) tail)
        else
          .ok (dropHostBeforeDrive (afterAuthority .file scheme (fileAuthority (some host)) tail))
    else .ok (withoutHost cs)
  | _ => .ok (withoutHost cs)
where
  /-- Read a path that is not preceded by a host. -/
  withoutHost (cs : List Char) : Url :=
    withPath .file scheme (some (fileAuthority none))
      (if cs.head?.any (isSlash .file) then cs.drop 1 else cs)

/-- Read a URL of a scheme without rules of its own behind its scheme. -/
def readOther (scheme cs : List Char) : Except Fault Url :=
  match cs with
  | '/' :: '/' :: rest => readAuthority .other scheme rest
  | '/' :: rest => .ok (withPath .other scheme none rest)
  | _ =>
    let text := Percent.encode Percent.controls (cs.takeWhile fun c => !endsPath c)
    .ok (withTail .other scheme none (.rootless text) (cs.dropWhile fun c => !endsPath c))

/-- May a character stand in a scheme? -/
def isSchemeChar (c : Char) : Bool := c.isAlphanum || c = '+' || c = '-' || c = '.'

/-- Split off the scheme, which begins with a letter and ends at a colon. -/
def splitScheme? (cs : List Char) : Option (List Char × List Char) :=
  if cs.head?.any Char.isAlpha then
    match cs.dropWhile isSchemeChar with
    | ':' :: rest => some ((cs.takeWhile isSchemeChar).map Char.toLower, rest)
    | _ => none
  else none

/-- The text without control characters and spaces around it, and without tabs and line ends
anywhere. -/
def clean (cs : List Char) : List Char :=
  let isEdge (c : Char) : Bool := c.toNat ≤ 0x20
  let inner := ((cs.dropWhile isEdge).reverse.dropWhile isEdge).reverse
  inner.filter fun c => c ≠ '\t' && c ≠ '\n' && c ≠ '\r'

/-- Read an absolute URL. -/
def parse (s : String) : Except Fault Url :=
  match splitScheme? (clean s.toList) with
  | none => .error .relativeWithoutBase
  | some (scheme, rest) =>
    match kindOf scheme with
    | .file => readFile scheme rest
    | .special => readAuthority .special scheme (rest.dropWhile (isSlash .special))
    | .other => readOther scheme rest

/-- The text of an authority. -/
def authorityText (a : Authority) : List Char :=
  let user :=
    if a.username.isEmpty && a.password.isEmpty then []
    else a.username ++ (if a.password.isEmpty then [] else ':' :: a.password) ++ ['@']
  let host := (a.host.map Host.text).getD []
  let port := (a.port.map fun p => ':' :: Nat.toDigits 10 p).getD []
  "//".toList ++ user ++ host ++ port

/-- The text of a path.  Without an authority, a path that would look like one is preceded by a
segment of one dot. -/
def pathText (url : Url) : List Char :=
  match url.path with
  | .rootless text => text
  | .segments path =>
    match url.authority, path with
    | none, [] :: _ :: _ => "/.".toList ++ Path.text path
    | _, _ => Path.text path

/-- The text of a URL in its normal form. -/
def text (url : Url) : String :=
  String.ofList <|
    url.scheme ++ [':'] ++ (url.authority.map authorityText).getD [] ++ pathText url ++
      (url.query.map ('?' :: ·)).getD [] ++ (url.fragment.map ('#' :: ·)).getD []

end Url

end RevocationCheck
