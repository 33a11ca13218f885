import DistroBallot.Fetch.Address
import DistroBallot.Number.Numeral
import DistroBallot.Text.Case
import DistroBallot.Text.Quoted

/-!
# URLs in messages

A URL is shown without its credentials, query and fragment (`Url.redacted`). It is cut into its
scheme, authority and path; the authority keeps the host in lower case and the port as a number.

A URL whose authority is malformed is replaced by a fixed text. A port that is no number up to
65535 is an error.
-/

namespace DistroBallot

/-- Why a port is no port. -/
inductive PortError where
  | notANumber (port : Text)
  | tooManyDigits (count : Nat)
  | outOfRange
deriving DecidableEq, Repr

/-- The message for an error. -/
def PortError.message : PortError → String
  | .notANumber port =>
    s!"Port could not be cast to integer value as {String.ofList port.quoted}"
  | .tooManyDigits count => Numeral.tooLongMessage count
  | .outOfRange => "Port out of range 0-65535"

namespace Url

/-- The parts of a URL that are shown. -/
structure Parts where
  scheme : Text
  authority : Text
  path : Text
deriving DecidableEq, Repr

/-! ## Cutting -/

/-- The URL without the controls and spaces in front of it, and without the tabulations and line
ends in it. -/
def cleaned (url : Text) : Text :=
  (url.dropWhile (fun c => c.toNat ≤ 32)).filter (fun c => c != '\t' && c != '\r' && c != '\n')

/-- The characters of schemes. -/
def isSchemeChar (c : Char) : Bool :=
  c.isAlphanum || c == '+' || c == '-' || c == '.'

/-- The scheme in lower case, and what follows its colon. What stands before the first colon is a
scheme if it starts with a letter and has characters of schemes only. -/
def splitScheme (url : Text) : Text × Text :=
  match Text.cutAt ':' url with
  | (scheme, some rest) =>
    if (scheme.head?.any Char.isAlpha) && scheme.all isSchemeChar then
      (scheme.map Char.toLower, rest)
    else ([], url)
  | (_, none) => ([], url)

/-- The authority after two slashes, up to the next slash, question mark or number sign, and what
follows it. -/
def splitAuthority (rest : Text) : Text × Text :=
  match rest with
  | '/' :: '/' :: more =>
    let ends (c : Char) : Bool := c == '/' || c == '?' || c == '#'
    (more.takeWhile (fun c => !ends c), more.dropWhile (fun c => !ends c))
  | rest => ([], rest)

/-! ## The authority -/

/-- Characters beyond ASCII whose compatibility form holds one of the signs that end or divide an
authority. -/
def divisive : List Nat :=
  [0x2047, 0x2048, 0x2049, 0x2100, 0x2101, 0x2105, 0x2106, 0x2A74, 0xFE13, 0xFE16, 0xFE55,
    0xFE56, 0xFE5F, 0xFE6B, 0xFF03, 0xFF0F, 0xFF1A, 0xFF1F, 0xFF20]

/-- What follows the last at sign of an authority: host and port. -/
def hostAndPort (authority : Text) : Text :=
  Text.afterLast '@' authority

/-- Whether brackets are used as they may be: both or none; and if both, a bracketed host that
starts right after the credentials, is an address, and is followed by a port or nothing. -/
def bracketsAllowed (authority : Text) : Bool :=
  let opening := authority.contains '['
  let closing := authority.contains ']'
  if opening && closing then
    match Text.cutAt '[' (hostAndPort authority) with
    | (before, some bracketed) =>
      let (host, after) := Text.cutAt ']' bracketed
      before.isEmpty && ((after.getD []).isEmpty || (after.getD []).head? == some ':') &&
        Address.isBracketed host
    | (_, none) => Address.isBracketed (Text.cutAt ':' (hostAndPort authority)).1
  else opening == closing

/-- Whether an authority is well formed. -/
def authorityAllowed (authority : Text) : Bool :=
  bracketsAllowed authority && authority.all (fun c => !divisive.contains c.toNat)

/-- The host and the text of the port, which is empty where there is none. -/
def splitPort (authority : Text) : Text × Text :=
  match Text.cutAt '[' (hostAndPort authority) with
  | (_, some bracketed) =>
    let (host, after) := Text.cutAt ']' bracketed
    (host, ((Text.cutAt ':' (after.getD [])).2).getD [])
  | (_, none) =>
    let (host, port) := Text.cutAt ':' (hostAndPort authority)
    (host, port.getD [])

/-- The host in lower case, except for a zone after a percent sign. -/
def shownHost (host : Text) : Text :=
  match Text.cutAt '%' host with
  | (name, none) => name.lower
  | (name, some zone) => name.lower ++ '%' :: zone

/-- The number of a port; none if there is no port. -/
def portNumber (port : Text) : Except PortError (Option Nat) :=
  if port.isEmpty then .ok none
  else if !port.all Char.isDigit then .error (.notANumber port)
  else if Numeral.maxDigits < port.length then .error (.tooManyDigits port.length)
  else
    let n := Numeral.digitsValue port
    if n ≤ 65535 then .ok (some n) else .error .outOfRange

/-! ## Putting together -/

/-- The schemes whose URLs have an authority even where it is empty. -/
def authoritySchemes : List String :=
  ["ftp", "http", "gopher", "nntp", "telnet", "imap", "wais", "file", "mms", "https", "shttp",
    "snews", "prospero", "rtsp", "rtspu", "rsync", "svn", "svn+ssh", "sftp", "nfs", "git",
    "git+ssh", "ws", "wss"]

/-- The URL of its parts. -/
def unsplit (p : Parts) : Text :=
  let needsSlashes := !p.authority.isEmpty ||
    (authoritySchemes.contains (String.ofList p.scheme) && !"//".toList.isPrefixOf p.path)
  let afterScheme :=
    if needsSlashes then
      let path := if p.path.isEmpty || p.path.head? == some '/' then p.path else '/' :: p.path
      "//".toList ++ p.authority ++ path
    else p.path
  if p.scheme.isEmpty then afterScheme else p.scheme ++ ':' :: afterScheme

/-- The text that is shown for a URL whose authority is malformed. -/
def invalid : Text := "<invalid-url>".toList

/-- The parts of a URL with its authority as it was written; none if that is malformed. -/
def split? (url : Text) : Option Parts :=
  let (scheme, rest) := splitScheme (cleaned url)
  let (authority, rest) := splitAuthority rest
  let path := (Text.cutAt '?' (Text.cutAt '#' rest).1).1
  if authorityAllowed authority then some ⟨scheme, authority, path⟩ else none

/-- The URL without credentials, query and fragment. A port of zero is left out. -/
def redacted (url : Text) : Except PortError Text :=
  match split? url with
  | none => .ok invalid
  | some parts =>
    let (host, port) := splitPort parts.authority
    match portNumber port with
    | .error e => .error e
    | .ok number =>
      let shownPort := match number with
        | some n => if n = 0 then [] else ':' :: Nat.toDigits 10 n
        | none => []
      .ok (unsplit { parts with authority := shownHost host ++ shownPort })

end Url
end DistroBallot
