import Rulebook.Database.Address.Host
import Rulebook.Database.Address.Path
import Rulebook.Decimal.Integer
import Rulebook.Text.Lossy

/-!
# Database Addresses

Where a database is to be found is told by a URL, with options behind a question
mark. The URL is taken apart and its parts are checked before anyone tries to
connect, so that a slip in it is reported as one. Any scheme will do; but some
are known to lead into the net or to a file, and are read as such.

## Main definitions

* `Address`: The parts of an address.
* `Address.split`: Takes a URL apart.
* `Address.check`: Checks the parts.
* `Address.read`: The address that a URL tells.

## Theorems

* `pairs_nil`: An address without options has no names and values.
-/

namespace Rulebook
namespace Database

open Text (Octets octets)

/-- The parts of an address, as they are written. -/
structure Address where
  scheme : String
  user : List Char := []
  password : List Char := []
  host : List Char := []
  port : Option Nat := none
  path : List Char
  options : List Char
  deriving DecidableEq, Repr

namespace Address

/-- A text without the blanks and controls at its ends, and without tabs and
    line breaks anywhere. -/
def cleaned (cs : List Char) : List Char :=
  let dropLow (cs : List Char) : List Char := cs.dropWhile fun c => c.toNat ≤ 0x20
  (dropLow (dropLow cs).reverse).reverse.filter fun c => c ≠ '\t' && c ≠ '\n' && c ≠ '\r'

/-- The scheme of a URL, in small letters, and what stands behind its colon. -/
def splitScheme (cs : List Char) : Except AddressFault (String × List Char) :=
  let scheme := cs.takeWhile fun c => c.isAlphanum || c = '+' || c = '-' || c = '.'
  match scheme, cs.drop scheme.length with
  | c :: _, ':' :: rest =>
    if c.isAlpha then .ok (String.ofList (scheme.map Char.toLower), rest) else .error .relative
  | _, _ => .error .relative

/-- The schemes whose hosts are names of the net. -/
def netSchemes : List String := ["http", "https", "ws", "wss", "ftp"]

/-- The options of a URL, behind its path and before its fragment. -/
def optionsOf : List Char → List Char
  | '?' :: rest => rest.takeWhile (· ≠ '#')
  | _ => []

/-- Whether a character ends the part of a URL with the host. -/
def endsAuthority (manner : Manner) (c : Char) : Bool :=
  manner.separates c || c = '?' || c = '#'

/-- Splits an authority behind its last at sign, if it has one. -/
def splitUser (cs : List Char) : Option (List Char) × List Char :=
  if '@' ∈ cs then
    let host := (cs.reverse.takeWhile (· ≠ '@')).reverse
    (some (cs.take (cs.length - host.length - 1)), host)
  else (none, cs)

/-- How many characters belong to a host: up to a colon outside brackets. -/
def hostLength : (inBrackets : Bool) → List Char → Nat
  | _, [] => 0
  | inBrackets, c :: rest =>
    if c = ':' ∧ ¬ inBrackets then 0
    else 1 + hostLength (c = '[' || (inBrackets && c ≠ ']')) rest

/-- Reads a port, of which some digits have been read. No digits mean no port. -/
def readPort : (read : Option Nat) → List Char → Except AddressFault (Option Nat × List Char)
  | read, [] => .ok (read, [])
  | read, c :: rest =>
    match Decimal.digitValue? c with
    | some d =>
      let n := 10 * read.getD 0 + d
      if 65535 < n then .error .badPort else readPort (some n) rest
    | none =>
      if endsAuthority .net c then .ok (read, c :: rest) else .error .badPort

/-- Reads the path behind a host. In the net there always is one. -/
def pathBehindHost (manner : Manner) (cs : List Char) : List Char × List Char :=
  match cs with
  | [] => if manner = .opaquely then ([], []) else (['/'], [])
  | c :: rest =>
    if manner = .opaquely then
      if c = '?' ∨ c = '#' then ([], cs)
      else if c = '/' then readPath manner [] 0 cs
      else readPath manner ['/'] 1 cs
    else readPath manner ['/'] 1 (if manner.separates c then rest else cs)

/-- Takes the part of a URL apart that stands behind its scheme and slashes. A
    port, a user, or a password needs a host. -/
def splitHosted (scheme : String) (manner : Manner) (cs : List Char) :
    Except AddressFault Address := do
  let authority := cs.takeWhile (!endsAuthority manner ·)
  let behind := cs.drop authority.length
  let (userinfo, hosted) := splitUser authority
  let user := (userinfo.getD []).takeWhile (· ≠ ':')
  let password := (userinfo.getD []).drop (user.length + 1)
  if userinfo = some [] ∧ hosted.isEmpty ∧ ¬ behind.isEmpty then .error .emptyHost
  else
    let host := hosted.take (hostLength false hosted)
    let behind := hosted.drop host.length ++ behind
    if manner = .opaquely then checkOpaque host
    else if host.isEmpty then .error .emptyHost
    else do let _ ← checkNet host
    if host.isEmpty ∧ (behind.head? = some ':' ∨ ¬ user.isEmpty ∨ ¬ password.isEmpty) then
      .error .emptyHost
    else
      let (port, behind) ←
        if behind.head? = some ':' then readPort none (behind.drop 1) else .ok (none, behind)
      let (path, behind) := pathBehindHost manner behind
      .ok { scheme, user, password, host, port, path, options := optionsOf behind }

/-- The path of a file, which starts with one slash. -/
def filePath (path : List Char) : List Char :=
  '/' :: path.dropWhile (· = '/')

/-- Takes the address of a file apart, behind its scheme. Two slashes stand in
    front of a host, which may be missing or be this one. -/
def splitFile (cs : List Char) : Except AddressFault Address := do
  let hostless (start cs : List Char) : Address :=
    let (path, behind) := readPath .file start start.length cs
    { scheme := "file", path := filePath path, options := optionsOf behind }
  match cs with
  | a :: b :: rest =>
    if Manner.file.separates a ∧ Manner.file.separates b then
      let host := rest.takeWhile (!endsAuthority .file ·)
      if host.isEmpty ∨ isDrive host then .ok (hostless ['/'] rest)
      else
        let name ← checkNet host
        let behind := rest.drop host.length
        if name = "localhost".toList then .ok (hostless ['/'] behind)
        else
          let (path, behind) := pathBehindHost .file behind
          .ok { scheme := "file", host, path := filePath path, options := optionsOf behind }
    else .ok (hostless (if Manner.file.separates a then [] else ['/']) cs)
  | [a] => .ok (hostless (if Manner.file.separates a then [] else ['/']) cs)
  | [] => .ok (hostless ['/'] [])

/-- Takes a URL apart. Outside the net, there is a host only behind two slashes,
    and a path that starts with no slash is left as it is. -/
def split (s : String) : Except AddressFault Address := do
  let (scheme, rest) ← splitScheme (cleaned s.toList)
  if scheme = "file" then splitFile rest
  else if netSchemes.contains scheme then
    splitHosted scheme .net (rest.dropWhile Manner.net.separates)
  else
    match rest with
    | '/' :: '/' :: rest => splitHosted scheme .opaquely rest
    | '/' :: rest =>
      let (path, behind) := readPath .opaquely ['/'] 1 rest
      .ok { scheme, path, options := optionsOf behind }
    | rest =>
      let path := rest.takeWhile fun c => c ≠ '?' && c ≠ '#'
      .ok { scheme, path, options := optionsOf (rest.drop path.length) }

/-- The octets that a percent-encoded part stands for. -/
def decoded (cs : List Char) : Octets :=
  Http.percentDecode (octets (String.ofList cs))

/-- Checks that a part stands for a text. -/
def checkText (cs : List Char) : Except AddressFault Unit :=
  let bs := decoded cs
  match Text.ofOctets? bs with
  | some _ => .ok ()
  | none => .error (.badOption (Text.strayMessage bs))

/-- The names and values of the options. -/
def pairs (options : List Char) : List (String × String) :=
  let part (s : String) : String :=
    Text.lossy (decoded (s.toList.map fun c => if c = '+' then ' ' else c))
  (((String.ofList options).splitOn "&").filter (!·.isEmpty)).map fun s =>
    let name := String.ofList (s.toList.takeWhile (· ≠ '='))
    (part name, part (String.ofList (s.toList.drop (name.length + 1))))

@[simp] theorem pairs_nil : pairs [] = [] := by
  have whole : (String.ofList []).splitOn "&" = [""] := by
    unfold String.splitOn String.splitOnAux
    rfl
  unfold pairs
  rw [whole]
  rfl

/-- Checks an option that is a number below a bound. -/
def checkNumber (bound : Int) (value : String) : Except AddressFault Unit :=
  match Decimal.readInteger 0 bound value.toList with
  | .ok _ => .ok ()
  | .error fault => .error (.badOption fault.message)

/-- The words that say how a connection is to be encrypted. -/
def sslModes : List String :=
  ["disable", "allow", "prefer", "require", "verify-ca", "verify-full"]

/-- Whether a text is an address of four octets or eight groups. -/
def isNumeric (s : String) : Bool :=
  (match Socket.readOctets s.toList with
    | some (_, []) => true
    | _ => false) ||
  (match Socket.readAddress s.toList with
    | some (_, []) => true
    | _ => false)

/-- Checks an option. Unknown ones are passed over. -/
def checkOption (name value : String) : Except AddressFault Unit :=
  if name = "sslmode" ∨ name = "ssl-mode" then
    if sslModes.contains (value.map Char.toLower) then .ok () else .error (.badSslMode value)
  else if name = "statement-cache-capacity" then checkNumber 18446744073709551615 value
  else if name = "port" then checkNumber 65535 value
  else if name = "hostaddr" then
    if isNumeric value then .ok () else .error (.badOption "invalid IP address syntax")
  else .ok ()

/-- Checks the parts of an address, from left to right. -/
def check (address : Address) : Except AddressFault Unit := do
  if (decoded address.host).head? = some 0x2F then checkText address.host
  checkText address.user
  checkText address.password
  checkText (address.path.dropWhile (· = '/'))
  (pairs address.options).forM fun (name, value) => checkOption name value

/-- The address that a URL tells. -/
def read (s : String) : Except AddressFault Address := do
  let address ← split s
  check address
  return address

end Address

end Database
end Rulebook
