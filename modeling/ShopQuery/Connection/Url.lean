import ShopQuery.Connection.Host

/-!
# Urls

The parts of a url by the rules of the URL standard.

## Syntax

A url begins with a scheme and a colon. After two slashes come a user and password, ended by the
last `@` before the path, then a host and a port; then the path, the query after a question mark
and the fragment after a number sign. Tabulators and line ends count for nothing anywhere, and
neither do spaces and controls at both ends.

## Hosts

The schemes of the web have hosts that are domain names or addresses, and so may urls of files,
which have no users and ports. All others have hosts that are kept as they are, but for octets
outside printable ASCII.

## Paths

Steps of one dot are dropped, steps of two dots drop the step before them, and characters that a
path may not hold are escaped. A path without a slash in front is not divided into steps.
-/

namespace ShopQuery.Url

/-! ## 1. Schemes -/

/-- A character of a scheme after its first. -/
def isSchemeChar (c : Char) : Bool := c.isAlphanum || c = '+' || c = '-' || c = '.'

/-- A scheme in lower case and what follows its colon. -/
def readScheme (cs : List Char) : Option (List Char × List Char) :=
  match cs with
  | c :: _ =>
    if c.isAlpha then
      match cs.dropWhile isSchemeChar with
      | ':' :: rest => some ((cs.takeWhile isSchemeChar).map Char.toLower, rest)
      | _ => none
    else none
  | [] => none

/-- The schemes of the web. -/
inductive SchemeClass where
  | file
  | web
  | other
deriving DecidableEq, Repr

def SchemeClass.of (scheme : String) : SchemeClass :=
  if scheme = "file" then .file
  else if ["http", "https", "ws", "wss", "ftp"].contains scheme then .web
  else .other

/-- The name of a drive: a letter and a colon or bar. -/
def isDrive : List Char → Bool
  | [letter, mark] => letter.isAlpha && (mark = ':' || mark = '|')
  | _ => false

/-- A character that separates steps of a path. -/
def SchemeClass.isSlash (k : SchemeClass) (c : Char) : Bool :=
  c = '/' || (c = '\\' && k != .other)

/-! ## 2. Users and passwords -/

/-- The position after the last `@` before the path, query and fragment, with the text before it. -/
def splitUserInfo (k : SchemeClass) (cs : List Char) : Option (List Char × List Char) :=
  let authority := cs.takeWhile fun c => !(k.isSlash c || c = '?' || c = '#')
  match authority.reverse.dropWhile (· != '@') with
  | [] => none
  | _ :: before => some (before.reverse, cs.drop (before.length + 1))

/-- The user and the password of a text before an `@`: the password follows the first colon, and
there is none if nothing follows. -/
def userAndPassword (cs : List Char) : List Char × Option (List Char) :=
  let user := cs.takeWhile (· != ':')
  match cs.dropWhile (· != ':') with
  | _ :: c :: password => (user, some (c :: password))
  | _ => (user, none)

/-! ## 3. Hosts -/

/-- The host at the beginning of a text, and the text after it. A colon ends a host, unless it
stands in brackets. -/
def takeHost (k : SchemeClass) : (inBrackets : Bool) → List Char → List Char × List Char
  | _, [] => ([], [])
  | inBrackets, c :: rest =>
    if (c = ':' && !inBrackets) || k.isSlash c || c = '?' || c = '#' then ([], c :: rest)
    else
      let inBrackets := if c = '[' then true else if c = ']' then false else inBrackets
      let (host, after) := takeHost k inBrackets rest
      (c :: host, after)

/-- A host by the rules of its scheme; none if there is nothing. -/
def readHost (k : SchemeClass) (cs : List Char) : Except Fault (Option (List Char)) :=
  match k with
  | .other => if cs.isEmpty then .ok none else (Host.ofPlain cs).map some
  | .web => if cs.isEmpty then .error .emptyHost else (Host.ofName cs).map some
  | .file => if cs.isEmpty || isDrive cs then .ok none else (Host.ofName cs).map some

/-! ## 4. Ports -/

/-- Reads the digits of a port and answers it, if there are any, with the text after them. -/
def readPort (cs : List Char) : Except Fault (Option UInt16 × List Char) :=
  let digits := cs.takeWhile Char.isDigit
  let rest := cs.dropWhile Char.isDigit
  let n := decimalNumber digits
  if 65535 < n then .error .invalidPort
  else if rest.head?.all fun c => ['/', '\\', '?', '#'].contains c then
    .ok (if digits.isEmpty then none else some (UInt16.ofNat n), rest)
  else .error .invalidPort

/-! ## 5. Paths -/

def isPathOctet (b : UInt8) : Bool :=
  Percent.isPrintable b &&
    !([' ', '"', '<', '>', '\x60', '#', '?', '\x7b', '\x7d'].contains (Char.ofNat b.toNat))

/-- A step to the same place. -/
def isSingleDot (step : List Char) : Bool :=
  [".", "%2e", "%2E"].contains (String.ofList step)

/-- A step back. -/
def isDoubleDot (step : List Char) : Bool :=
  ["..", "%2e%2e", "%2e%2E", "%2E%2e", "%2E%2E", "%2e.", "%2E.", ".%2e", ".%2E"].contains
    (String.ofList step)

/-- Whether a text begins with the name of a drive between slashes. -/
def startsWithDrive : List Char → Bool
  | '/' :: letter :: mark :: '/' :: _ => isDrive [letter, mark]
  | _ => false

/-- A path up to and with its last slash. -/
def uptoSlash (path : List Char) : List Char := (path.reverse.dropWhile (· != '/')).reverse

/-- A path that ends in a slash without its last step. A root and a drive stay. -/
def stepBack (path : List Char) : List Char :=
  let trimmed := path.dropLast
  if path.getLast? = some '/' && trimmed.contains '/' &&
      !startsWithDrive (path.drop ((uptoSlash trimmed).length - 1)) then
    uptoSlash trimmed
  else uptoSlash path

def withSlash (path : List Char) : List Char :=
  if path.getLast? = some '/' then path else path ++ ['/']

/-- Walks the steps of a path from a path that is walked already. Every step but the last has a
slash after it. -/
def walk (path : List Char) : List (List Char) → List Char
  | [] => path
  | step :: rest =>
    let more := !rest.isEmpty
    if isDoubleDot step then walk (if more then withSlash (stepBack path) else stepBack path) rest
    else if isSingleDot step then walk (withSlash path) rest
    else walk (path ++ Percent.escape isPathOctet step ++ (if more then ['/'] else [])) rest

/-- A path in its written form, after what is written of it already. -/
def walkPath (start cs : List Char) : List Char := walk start (cs.splitOn '/')

/-- The path at the beginning of a text, and the text after it. -/
def takePath (cs : List Char) : List Char × List Char :=
  let inPath := fun c => c != '?' && c != '#'
  (cs.takeWhile inPath, cs.dropWhile inPath)

/-- The path that follows an authority. Only a scheme of its own may leave it empty. -/
def pathAfterAuthority (k : SchemeClass) (cs : List Char) : List Char :=
  match cs.map fun c => if k.isSlash c then '/' else c with
  | [] => if k = .other then [] else ['/']
  | '/' :: rest => walkPath [] ('/' :: rest)
  | cs => walkPath ['/'] cs

/-! ## 6. Urls -/

/-- The query of the text after a path, if it has one. -/
def queryOf : List Char → Option (List Char)
  | '?' :: rest => some (rest.takeWhile (· != '#'))
  | _ => none

end Url

/-- The parts of a url. Users, passwords and queries are as they stand in the text. -/
structure Url where
  scheme : String
  user : List Char
  password : Option (List Char)
  host : Option (List Char)
  port : Option UInt16
  path : List Char
  query : Option (List Char)
deriving DecidableEq, Repr

namespace Url

def withoutAuthority (scheme : String) (cs : List Char) : Url :=
  let (path, after) := takePath cs
  let path :=
    match path with
    | '/' :: rest => walkPath ['/'] rest
    | _ => path
  ⟨scheme, [], none, none, none, path, queryOf after⟩

/-- Whether a text goes on with a path, query or fragment. -/
def startsPath (k : SchemeClass) : List Char → Bool
  | [] => false
  | c :: _ => k.isSlash c || c = '?' || c = '#'

/-- A url with an authority, from behind the two slashes. A user or password needs a host, and so
does a port; an empty user in front of a path is refused too. -/
def withAuthority (k : SchemeClass) (scheme : String) (cs : List Char) : Except Fault Url := do
  let (info, rest) := (splitUserInfo k cs).getD ([], cs)
  if (splitUserInfo k cs).isSome && info.isEmpty && startsPath k rest then throw .emptyHost
  let (user, password) := userAndPassword info
  let (hostText, rest) := takeHost k false rest
  let host ← readHost k hostText
  if host.isNone && rest.head? = some ':' then throw .emptyHost
  let (port, rest) ←
    match rest with
    | ':' :: rest => readPort rest
    | rest => pure (none, rest)
  if host.isNone && (!user.isEmpty || password.isSome) then throw .emptyHost
  let (path, after) := takePath rest
  return ⟨scheme, user, password, host, port, pathAfterAuthority k path, queryOf after⟩

/-- A url of a file. A host can only stand after two slashes, and goes up to the path; the name of a
drive in its place belongs to the path. -/
def ofFile (scheme : String) (cs : List Char) : Except Fault Url := do
  match cs with
  | a :: b :: rest =>
    if SchemeClass.file.isSlash a && SchemeClass.file.isSlash b then
      let hostText := rest.takeWhile fun c => !(SchemeClass.file.isSlash c || c = '?' || c = '#')
      let host ← readHost .file hostText
      let (path, after) := takePath (if host.isSome then rest.drop hostText.length else rest)
      return ⟨scheme, [], none, host, none, pathAfterAuthority .file path, queryOf after⟩
    else return withoutAuthority scheme cs
  | cs => return withoutAuthority scheme cs

/-- A character that does not count anywhere in a url. -/
def isIgnored (c : Char) : Bool := c = '\t' || c = '\n' || c = '\r'

/-- A character that does not count at the ends of a url. -/
def isOuter (c : Char) : Bool := c.toNat ≤ 0x20

/-- The characters of a text that count. -/
def relevant (cs : List Char) : List Char :=
  (((cs.dropWhile isOuter).reverse.dropWhile isOuter).reverse).filter fun c => !isIgnored c

/-- The parts of a url. -/
def readChars (cs : List Char) : Except Fault Url :=
  match readScheme (relevant cs) with
  | none => .error .relativeWithoutBase
  | some (name, rest) =>
    let scheme := String.ofList name
    match SchemeClass.of scheme with
    | .other =>
      match rest with
      | '/' :: '/' :: rest => withAuthority .other scheme rest
      | rest => .ok (withoutAuthority scheme rest)
    | .web => withAuthority .web scheme (rest.dropWhile (SchemeClass.web.isSlash ·))
    | .file => ofFile scheme rest

def read (text : String) : Except Fault Url := readChars text.toList

/-! ## 7. Queries -/

/-- A form value: plus signs are spaces, and escapes are undone. -/
def formDecode (cs : List Char) : String :=
  Utf8.decodeLossy (Percent.unescape ((Utf8.encodeChars cs).map fun b => if b = 43 then 32 else b))

def queryPairs (query : List Char) : List (String × String) :=
  ((query.splitOn '&').filter fun part => !part.isEmpty).map fun part =>
    (formDecode (part.takeWhile (· != '=')), formDecode ((part.dropWhile (· != '=')).drop 1))

end Url

end ShopQuery
