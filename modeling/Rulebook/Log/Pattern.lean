import Rulebook.Text.Blank
import Rulebook.Text.Letter

/-!
# Patterns for Values

A directive may compare a detail with a pattern, a regular expression. Nothing
is ever compared here, because such directives are about spans; but a pattern
has to be well formed. No tables of scripts are at hand, so that classes which
need one, such as the letters, are refused unless a flag narrows the pattern to
ASCII; so is the folding of case. The end of a word can be found in ASCII only,
too, which is told apart, because it shows only after the whole has been read.

## Main definitions

* `PatternFault`: Why a pattern is refused.
* `Flags`: How the pattern is to be read from some place on.
* `readEscape`: What a backslash stands for.
* `readClass`: Reads a class in brackets.
* `readGroup`: Reads the opening of a group.
* `checkPattern`: Checks a whole pattern.
* `isSignedNumber`: Numbers that are no patterns.
-/

namespace Rulebook
namespace Log

/-- Why a pattern is refused. -/
inductive PatternFault where
  | malformed
  /-- The end of a word outside ASCII is asked for. -/
  | wideWord
  deriving DecidableEq, Repr

/-- The wording of a refusal. -/
def PatternFault.message : PatternFault → String
  | .malformed => "error building NFA"
  | .wideWord =>
    "unsupported regex feature for DFAs: cannot build DFAs for regexes with Unicode word " ++
      "boundaries; switch to ASCII word boundaries, or heuristically enable Unicode word " ++
      "boundaries or use a different regex engine"

/-- How a pattern is to be read from some place on. -/
structure Flags where
  /-- Letters stand for both their cases. -/
  anyCase : Bool := false
  /-- All characters are meant, and not only those of ASCII. -/
  wide : Bool := true
  /-- Blanks and remarks are passed over. -/
  loose : Bool := false
  deriving DecidableEq, Repr

/-- The letters that flags have. -/
def flagLetters : List Char := ['i', 'm', 's', 'U', 'u', 'R', 'x']

/-- Sets or clears the flag with a letter. Other letters make no difference to
    whether a pattern is well formed. -/
def Flags.set (flags : Flags) (on : Bool) (letter : Char) : Flags :=
  if letter = 'i' then { flags with anyCase := on }
  else if letter = 'u' then { flags with wide := on }
  else if letter = 'x' then { flags with loose := on }
  else flags

/-- Sets the flags of a list of letters, of which a dash turns the rest off. -/
def Flags.setAll (flags : Flags) (letters : List Char) : Flags :=
  let on := letters.takeWhile (· ≠ '-')
  let off := letters.drop (on.length + 1)
  off.foldl (·.set false ·) (on.foldl (·.set true ·) flags)

/-- A pattern without the remark that it starts inside of. -/
def dropRemark (cs : List Char) : List Char :=
  (cs.dropWhile (· ≠ '\n')).drop 1

/-- A pattern without the blanks and remarks it starts with, where they are
    passed over. Every round passes one. -/
def skipLoose (flags : Flags) : (rounds : List Char) → List Char → List Char
  | [], cs => cs
  | _ :: rounds, cs =>
    if !flags.loose then cs
    else
      match Text.trimStart cs with
      | '#' :: rest => skipLoose flags rounds (dropRemark rest)
      | cs => cs

/-- A pattern without the blanks and remarks it starts with, where they are
    passed over. -/
def pass (flags : Flags) (cs : List Char) : List Char :=
  skipLoose flags (cs ++ ['#']) cs

/-- The smallest part of a pattern. -/
inductive Atom where
  /-- A character, told by the number of an octet or not. -/
  | literal (c : Char) (byOctet : Bool)
  /-- One of the classes of digits, blanks, or letters, or what is outside it. -/
  | kind (outside : Bool)
  /-- The start or end of the text. -/
  | edge
  /-- The start, end, or inside of a word. -/
  | wordEdge
  deriving DecidableEq, Repr

/-- Whether an atom can be read with some flags. Outside ASCII, a character has
    to be told as a whole and not by the number of an octet. -/
def Atom.fits (flags : Flags) : Atom → Bool
  | .literal c byOctet => if flags.wide then !flags.anyCase else c.toNat < 128 || !byOctet
  | .kind outside => !flags.wide && !outside
  | .edge | .wordEdge => true

/-- The value of a hexadecimal digit. -/
def hexDigit? (c : Char) : Option Nat :=
  if c.isDigit then some (c.toNat - 48)
  else if 'a' ≤ c ∧ c ≤ 'f' then some (c.toNat - 87)
  else if 'A' ≤ c ∧ c ≤ 'F' then some (c.toNat - 55)
  else none

/-- Reads a character told by a number of so many digits. -/
def readHex (flags : Flags) : (digits value : Nat) → List Char → Option (Char × List Char)
  | 0, value, cs => if value.isValidChar then some (Char.ofNat value, cs) else none
  | digits + 1, value, cs =>
    match pass flags cs with
    | [] => none
    | c :: rest => do readHex flags digits (value * 16 + (← hexDigit? c)) rest

/-- The character that one behind a backslash stands for. Most letters stand for
    none, and signs for themselves. -/
def controlOf? (c : Char) : Option Char :=
  if c = 'a' then some '\x07'
  else if c = 'f' then some '\x0c'
  else if c = 't' then some '\t'
  else if c = 'n' then some '\n'
  else if c = 'r' then some '\r'
  else if c = 'v' then some '\x0b'
  else if c.toNat < 128 ∧ ¬ c.isAlphanum then some c
  else none

/-- Reads what stands behind a backslash. -/
def readEscape (flags : Flags) : List Char → Option (Atom × List Char)
  | [] => none
  | c :: rest =>
    let literal (byOctet : Bool) (read : Char × List Char) : Atom × List Char :=
      (.literal read.1 byOctet, read.2)
    if c = 'x' then (readHex flags 2 0 rest).map (literal true)
    else if c = 'u' then (readHex flags 4 0 rest).map (literal false)
    else if c = 'U' then (readHex flags 8 0 rest).map (literal false)
    else if c = 'd' ∨ c = 's' ∨ c = 'w' then some (.kind false, rest)
    else if c = 'D' ∨ c = 'S' ∨ c = 'W' then some (.kind true, rest)
    else if c = 'A' ∨ c = 'z' then some (.edge, rest)
    else if c = 'b' then if rest.head? = some '{' then none else some (.wordEdge, rest)
    else if c = 'B' ∨ c = '<' ∨ c = '>' then some (.wordEdge, rest)
    else (controlOf? c).map fun c => (.literal c false, rest)

/-- The names of the classes that stand between colons. -/
def classNames : List String :=
  ["alnum", "alpha", "ascii", "blank", "cntrl", "digit", "graph", "lower", "print", "punct",
    "space", "upper", "word", "xdigit"]

/-- Reads a class by name, behind the bracket in front of its colon. Returns
    whether the class is what is outside the named one. -/
def readNamedClass : List Char → Option (Bool × List Char)
  | ':' :: rest =>
    let (outside, rest) :=
      match rest with
      | '^' :: rest => (true, rest)
      | rest => (false, rest)
    let name := rest.takeWhile (· ≠ ':')
    match rest.drop name.length with
    | ':' :: ']' :: rest =>
      if classNames.contains (String.ofList name) then some (outside, rest) else none
    | _ => none
  | _ => none

/-- Reads an item of a class, or an end of a range. -/
def readItem (flags : Flags) : List Char → Option (Atom × List Char)
  | [] => none
  | '\\' :: rest => readEscape flags rest
  | c :: rest => some (.literal c false, rest)

/-- Whether an item may stand in a class. -/
def isClassItem (flags : Flags) : Atom → Bool
  | .edge | .wordEdge => false
  | .literal c _ => flags.wide || c.toNat < 128
  | .kind outside => (Atom.kind outside).fits flags

/-- Reads an item of a class or a range. A dash in front of the closing bracket
    or of another dash makes no range. -/
def readRange (flags : Flags) (cs : List Char) : Option (List Char) := do
  let (first, behind) ← readItem flags cs
  match pass flags behind with
  | [] => none
  | '-' :: rest =>
    let next := (pass flags rest).head?
    if next = some ']' ∨ next = some '-' then
      if isClassItem flags first then some ('-' :: rest) else none
    else
      let (last, behind) ← readItem flags (pass flags rest)
      match first, last with
      | .literal a _, .literal b _ =>
        if a ≤ b ∧ isClassItem flags first ∧ isClassItem flags last then some behind else none
      | _, _ => none
  | behind => if isClassItem flags first then some behind else none

/-- Passes over the dashes that a class starts with. -/
def passDashes (flags : Flags) : (rounds : List Char) → List Char → List Char
  | _ :: rounds, '-' :: rest => passDashes flags rounds (pass flags rest)
  | _, cs => cs

/-- Reads the opening of a class behind its bracket: a caret, dashes, and a
    closing bracket, which stands for itself here. What is outside a class may
    be anything but ASCII, so that only a wide pattern can name it. -/
def openClass (flags : Flags) (cs : List Char) : Option (List Char) := do
  let cs := pass flags cs
  let (outside, cs) :=
    match cs with
    | '^' :: rest => (true, pass flags rest)
    | cs => (false, cs)
  if outside ∧ ¬ flags.wide then none
  else
    match passDashes flags cs cs, cs with
    | [], _ => none
    | ']' :: rest, ']' :: _ => some (pass flags rest)
    | cs, _ => some cs

/-- Reads the inside of classes within each other, up to the bracket that closes
    the outermost. Every round reads a character at least. -/
def readClassItems (flags : Flags) : (rounds : List Char) → (depth : Nat) → List Char →
    Option (List Char)
  | [], _, _ => none
  | _ :: rounds, depth, cs =>
    match pass flags cs with
    | [] => none
    | '[' :: rest =>
      match readNamedClass rest with
      | some (outside, rest) =>
        if outside ∧ ¬ flags.wide then none else readClassItems flags rounds depth rest
      | none => do readClassItems flags rounds (depth + 1) (← openClass flags rest)
    | ']' :: rest =>
      match depth with
      | 0 => some rest
      | depth + 1 => readClassItems flags rounds depth rest
    | '&' :: '&' :: rest | '-' :: '-' :: rest | '~' :: '~' :: rest =>
      readClassItems flags rounds depth rest
    | cs => do readClassItems flags rounds depth (← readRange flags cs)

/-- Reads a class behind its bracket. -/
def readClass (flags : Flags) (cs : List Char) : Option (List Char) := do
  let inside ← openClass flags cs
  if flags.wide ∧ flags.anyCase then none else readClassItems flags cs 0 inside

/-- What has been seen of a pattern. -/
structure PatternScan where
  flags : Flags := {}
  /-- The flags behind the groups that are open, innermost first. -/
  behind : List Flags := []
  /-- Whether something stands in front that may be repeated. -/
  repeatable : Bool := false
  /-- The names of groups. -/
  names : List (List Char) := []
  /-- Whether the end of a word outside ASCII is asked for. -/
  wideWord : Bool := false

/-- Opens a group with some flags inside it. -/
def PatternScan.enter (scan : PatternScan) (flags : Flags) : PatternScan :=
  { scan with flags, behind := scan.flags :: scan.behind, repeatable := false }

/-- Whether a character may stand in the name of a group. -/
def isNameCharacter (c : Char) : Bool :=
  c = '_' || c = '.' || c = '[' || c = ']' || Text.isLetterOrNumber c

/-- Reads the name of a group up to its closing angle, and enters the group. -/
def PatternScan.enterNamed (scan : PatternScan) (cs : List Char) :
    Option (PatternScan × List Char) :=
  let name := cs.takeWhile (· ≠ '>')
  match name, cs.drop name.length with
  | c :: more, '>' :: rest =>
    if (c = '_' || Text.isLetter c) && more.all isNameCharacter && !scan.names.contains name then
      some ({ scan.enter scan.flags with names := name :: scan.names }, rest)
    else none
  | _, _ => none

/-- Whether the letters of flags are known and each stands once, with a dash at
    most, which has a letter behind it. -/
def areFlags (letters : List Char) : Bool :=
  letters.all (fun c => flagLetters.contains c || c = '-') && letters.getLast? ≠ some '-' &&
    letters.eraseDups.length = letters.length

/-- Reads the opening of a group behind its parenthesis. Looking ahead or back
    is not possible. -/
def readGroup (scan : PatternScan) (cs : List Char) : Option (PatternScan × List Char) :=
  match pass scan.flags cs with
  | '?' :: 'P' :: '<' :: rest => scan.enterNamed rest
  | '?' :: '<' :: rest =>
    if rest.head? = some '=' ∨ rest.head? = some '!' then none else scan.enterNamed rest
  | '?' :: rest =>
    let letters := rest.takeWhile fun c => c ≠ ':' && c ≠ ')'
    if !areFlags letters then none
    else
      let flags := scan.flags.setAll letters
      match rest.drop letters.length with
      | ':' :: rest => some (scan.enter flags, rest)
      | ')' :: rest =>
        if letters = [] then none else some ({ scan with flags, repeatable := false }, rest)
      | _ => none
  | rest => some (scan.enter scan.flags, rest)

/-- Takes note of an atom. -/
def PatternScan.add (scan : PatternScan) (atom : Atom) : Option PatternScan :=
  if !atom.fits scan.flags then none
  else
    let wideWord := scan.wideWord || (atom = .wordEdge && scan.flags.wide)
    some { scan with repeatable := true, wideWord }

/-- Reads the next part of a pattern. -/
def readPart (scan : PatternScan) (c : Char) (rest : List Char) :
    Option (PatternScan × List Char) :=
  let here := { scan with repeatable := true }
  match c with
  | '(' => readGroup scan rest
  | ')' =>
    match scan.behind with
    | flags :: behind => some ({ here with flags, behind }, rest)
    | [] => none
  | '|' => some ({ scan with repeatable := false }, rest)
  | '[' => (readClass scan.flags rest).map fun rest => (here, rest)
  | '?' | '*' | '+' =>
    if !scan.repeatable then none
    else some (here, if rest.head? = some '?' then rest.drop 1 else rest)
  | '{' => none
  | '\\' => do
    let (atom, rest) ← readEscape scan.flags rest
    return (← scan.add atom, rest)
  | '.' => if scan.flags.wide then some (here, rest) else none
  | '^' | '$' => some (here, rest)
  | c => (scan.add (.literal c false)).map fun scan => (scan, rest)

/-- Reads a pattern to its end. Every round reads a character at least. -/
def scanPattern : (rounds : List Char) → PatternScan → List Char → Option PatternScan
  | rounds, scan, cs =>
    match rounds, pass scan.flags cs with
    | _, [] => if scan.behind = [] then some scan else none
    | [], _ => none
    | _ :: rounds, c :: rest => do
      let (scan, rest) ← readPart scan c rest
      scanPattern rounds scan rest

/-- Checks a pattern. A brace that is opened never closes in one, because the
    closing brace ends the detail. -/
def checkPattern (cs : List Char) : Except PatternFault Unit :=
  match scanPattern cs {} cs with
  | none => .error .malformed
  | some scan => if scan.wideWord then .error .wideWord else .ok ()

/-- Whether digits with at most one point in or beside them, and an exponent or
    none, make up a text. -/
def isUnsignedNumber (cs : List Char) : Bool :=
  let whole := cs.takeWhile Char.isDigit
  let behind := cs.drop whole.length
  let (fraction, behind) :=
    match behind with
    | '.' :: rest => (rest.takeWhile Char.isDigit, rest.dropWhile Char.isDigit)
    | rest => ([], rest)
  let isExponent : Bool :=
    match behind with
    | [] => true
    | e :: rest =>
      let digits :=
        match rest with
        | '+' :: digits | '-' :: digits => digits
        | digits => digits
      (e = 'e' || e = 'E') && !digits.isEmpty && digits.all Char.isDigit
  !(whole.isEmpty && fraction.isEmpty) && isExponent

/-- Whether a text is a number with a plus sign in front. Such a value is
    compared as a number, though it would be no pattern. Any other number would
    be a pattern as well. -/
def isSignedNumber : List Char → Bool
  | '+' :: cs =>
    let word := String.ofList (cs.map Char.toLower)
    isUnsignedNumber cs || word = "inf" || word = "infinity" || word = "nan"
  | _ => false

end Log
end Rulebook
