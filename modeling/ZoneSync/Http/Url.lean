import ZoneSync.Http.Host

namespace ZoneSync.Http

open Text

/-!
# Addresses of resources

An address is read as the common reader of addresses does it: blanks around it and line ends in it
do not count, backslashes are slashes, the segments `.` and `..` are carried out, and what may not
stand in a part is percent-encoded. Credentials are not kept.

* `Url.parse?` — the address that a text writes;
* `Url.hostless?` — the text of an address that has no host, and so cannot be asked;
* `Url.toString` — its text;
* `Url.target` — the part of it that is sent to the host;
* `Url.addQuery` — the address with more fields in its query.
-/

/-- An address with a host. -/
structure Url where
  scheme : String
  host : Host
  /-- The port, unless it is the one of the scheme. -/
  port : Option Nat
  /-- The segments of the path, encoded. -/
  path : List (List Char)
  query : Option (List Char)
  fragment : Option (List Char)
  deriving DecidableEq, Repr

namespace Url

/-! ### Reading -/

/-- The port of a scheme, for the schemes that have a host and a path. -/
def defaultPort? (scheme : String) : Option Nat :=
  match scheme with
  | "http" | "ws" => some 80
  | "https" | "wss" => some 443
  | "ftp" => some 21
  | _ => none

/-- The text without what does not count. -/
def clean (cs : List Char) : List Char :=
  (strip (·.toNat ≤ 0x20) cs).filter fun c => !(c = '\t' || c = '\n' || c = '\r')

/-- The scheme of an address in lower case, and what follows the colon. -/
def cutScheme? (cs : List Char) : Option (String × List Char) :=
  let isSchemeChar (c : Char) : Bool := c.isAlphanum || c = '+' || c = '-' || c = '.'
  match cs.takeWhile isSchemeChar, cs.dropWhile isSchemeChar with
  | c :: scheme, ':' :: rest =>
    if c.isAlpha then some (lowerAscii (String.ofList (c :: scheme)), rest) else none
  | _, _ => none

/-- Whether a character separates the segments of a path. -/
def isSlash (c : Char) : Bool := c = '/' || c = '\\'

/-- The parts of a text before and after the first `sep`. -/
def cutAt (sep : Char) (cs : List Char) : List Char × Option (List Char) :=
  match cs.dropWhile (· ≠ sep) with
  | [] => (cs, none)
  | _ :: rest => (cs.takeWhile (· ≠ sep), some rest)

/-- What follows the last `@` of an authority. -/
def dropCredentials (cs : List Char) : List Char :=
  (cs.reverse.takeWhile (· ≠ '@')).reverse

/-- The parts of an authority before and after the colon of the port; the colons between brackets
    are none. -/
def cutPort (cs : List Char) : List Char × List Char :=
  let digits := (cs.reverse.takeWhile fun c => c ≠ ':' && c ≠ ']').reverse
  match (cs.take (cs.length - digits.length)).reverse with
  | ':' :: host => (host.reverse, digits)
  | _ => (cs, [])

/-- A port that may be missing; the one of the scheme is left out. -/
def readPort? (scheme : String) (digits : List Char) : Option (Option Nat) :=
  if digits.isEmpty then some none
  else do
    let n ← readDigits? 10 digits
    if 0xFFFF < n then none
    else some (if defaultPort? scheme = some n then none else some n)

/-- The forms of the segment that stands for its own place. -/
def isHere (segment : List Char) : Bool :=
  lowerAscii (String.ofList segment) ∈ [".", "%2e"]

/-- The forms of the segment that stands for the place above. -/
def isAbove (segment : List Char) : Bool :=
  lowerAscii (String.ofList segment) ∈ ["..", ".%2e", "%2e.", "%2e%2e"]

/-- The path of segments that follow `path`, with the segments for places carried out. -/
def walk (path : List (List Char)) : List (List Char) → List (List Char)
  | [] => path
  | segment :: segments =>
    let isLast := segments.isEmpty
    if isAbove segment then walk (path.dropLast ++ if isLast then [[]] else []) segments
    else if isHere segment then walk (path ++ if isLast then [[]] else []) segments
    else walk (path ++ [segment]) segments

/-- The segments of a path, which begins with a slash if it is not empty. -/
def readPath (cs : List Char) : List (List Char) :=
  let slashed := cs.map fun c => if isSlash c then '/' else c
  walk [] ((splitOn '/' (slashed.drop 1)).map (percentEncode isEncodedInPath))

/-- The address with a host that a text writes. Only the schemes with a port of their own do not
    need the two slashes. -/
def parse? (s : String) : Option Url := do
  let (scheme, rest) ← cutScheme? (clean s.toList)
  if (defaultPort? scheme).isNone ∧ rest.take 2 ≠ ['/', '/'] then none
  let rest := if (defaultPort? scheme).isSome then rest.dropWhile isSlash else rest.drop 2
  let (rest, fragment) := cutAt '#' rest
  let (rest, query) := cutAt '?' rest
  let (host, digits) := cutPort (dropCredentials (rest.takeWhile (!isSlash ·)))
  let host ← Host.parse? host
  let port ← readPort? scheme digits
  return {
    scheme
    host
    port
    path := readPath (rest.dropWhile (!isSlash ·))
    query := query.map (percentEncode isEncodedInQuery)
    fragment := fragment.map (percentEncode isEncodedInFragment) }

/-! ### Writing -/

/-- An optional part with its mark. -/
def marked (mark : Char) : Option (List Char) → List Char
  | some cs => mark :: cs
  | none => []

/-- The text of a path. -/
def pathText (path : List (List Char)) : List Char := path.flatMap ('/' :: ·)

/-- The text of an address without a host, if `s` writes one. -/
def hostless? (s : String) : Option String := do
  let (scheme, rest) ← cutScheme? (clean s.toList)
  if (defaultPort? scheme).isSome then none
  let (rest, fragment) := cutAt '#' rest
  let (rest, query) := cutAt '?' rest
  let place ←
    match rest with
    | '/' :: '/' :: '/' :: path => some ('/' :: '/' :: pathText (readPath ('/' :: path)))
    | '/' :: '/' :: _ => none
    | '/' :: path => some (pathText (readPath ('/' :: path)))
    | path => some (percentEncode isEncodedEverywhere path)
  return String.ofList (scheme.toList ++ ':' :: place ++
    marked '?' (query.map (percentEncode isEncodedInQuery)) ++
    marked '#' (fragment.map (percentEncode isEncodedInFragment)))

/-- The part of an address that is sent to the host: the path and the query. -/
def target (u : Url) : String :=
  String.ofList (pathText u.path ++ marked '?' u.query)

/-- The text of an address. -/
def toString (u : Url) : String :=
  let port := match u.port with
    | some n => ":" ++ Nat.repr n
    | none => ""
  u.scheme ++ "://" ++ u.host.toString ++ port ++ u.target ++
    String.ofList (marked '#' u.fragment)

instance : ToString Url := ⟨toString⟩

/-- The address with more fields in its query. -/
def addQuery (u : Url) (fields : List (String × String)) : Url :=
  let field : String × String → List Char := fun (key, value) =>
    formEncode key.toList ++ '=' :: formEncode value.toList
  let earlier := match u.query with
    | none | some [] => []
    | some cs => [cs]
  match earlier ++ fields.map field with
  | [] => u
  | parts => { u with query := some (List.intercalate ['&'] parts) }

end Url

end ZoneSync.Http
