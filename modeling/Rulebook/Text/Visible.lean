import Rulebook.Text.Octets

/-!
# What a Terminal Shows

A text may hold orders to a terminal: to change its colours, to set its title,
to move about. Where no terminal reads along, the orders are taken out and only
what would be seen is kept. An order starts with an escape character; how far it
reaches depends on the character behind that. A line break inside an order that
only moves or colours is seen nevertheless, and breaks the order off.

## Main definitions

* `OrderState`: How far an order has been read.
* `OrderState.step`: Takes note of one character.
* `visible`: What is seen of a text.
-/

namespace Rulebook
namespace Text

/-- How far an order to a terminal has been read. -/
inductive OrderState where
  /-- In no order. -/
  | outside
  /-- Behind the escape character. -/
  | escape
  /-- Behind the first mark of an order of several marks. -/
  | marks
  /-- Between a bracket and the letter that says what to do. -/
  | sequence
  /-- At the head of a message to the terminal itself. -/
  | head
  | headNumbers
  | headMarks
  /-- In a message to the terminal, up to a string terminator. -/
  | message
  /-- In a title, up to a bell. -/
  | title
  deriving DecidableEq, Repr

namespace OrderState

/-- Whether a control takes effect where it stands, as blanks do. -/
def isBlankControl (c : Char) : Bool :=
  c = '\t' || c = '\n' || c = '\x0c' || c = '\r'

/-- Whether an octet of a character reads as a string terminator. -/
def holdsTerminator (c : Char) : Bool :=
  (String.utf8EncodeChar c).contains 0x9C

/-- The state behind a character that is no control, inside an order. -/
def next (state : OrderState) (c : Char) : OrderState :=
  let n := c.toNat
  match state with
  | .outside => .outside
  | .escape =>
    if 0x7F ≤ n then .escape
    else if n ≤ 0x2F then .marks
    else if c = '[' then .sequence
    else if c = ']' then .title
    else if c = 'P' then .head
    else if c = 'X' ∨ c = '^' ∨ c = '_' then .message
    else .outside
  | .marks => if 0x30 ≤ n ∧ n ≤ 0x7E then .outside else .marks
  | .sequence => if 0x40 ≤ n ∧ n ≤ 0x7E then .outside else .sequence
  | .head =>
    if 0x7F ≤ n then .head
    else if n ≤ 0x2F then .headMarks
    else if n ≤ 0x3F then .headNumbers
    else .message
  | .headNumbers =>
    if 0x7F ≤ n then .headNumbers
    else if n ≤ 0x2F then .headMarks
    else if n ≤ 0x3B then .headNumbers
    else .message
  | .headMarks => if n ≤ 0x2F ∨ 0x7F ≤ n then .headMarks else .message
  | .message => if holdsTerminator c then .outside else .message
  | .title => .title

/-- Whether controls take effect inside an order. -/
def heedsControls : OrderState → Bool
  | .outside | .escape | .marks | .sequence => true
  | .head | .headNumbers | .headMarks | .message | .title => false

/-- The state behind a character, and whether the character is seen. -/
def step (state : OrderState) (c : Char) : OrderState × Bool :=
  if c = '\x1b' then (.escape, false)
  else if c = '\x18' ∨ c = '\x1a' then (.outside, false)
  else if c.toNat < 0x20 then
    if state.heedsControls ∧ isBlankControl c then (.outside, true)
    else if state = .title ∧ c = '\x07' then (.outside, false)
    else (state, false)
  else if state = .outside then (.outside, c ≠ '\x7f')
  else (state.next c, false)

end OrderState

/-- What is seen of a text, of which a part has been read. -/
def visibleFrom : OrderState → List Char → List Char
  | _, [] => []
  | state, c :: rest =>
    let (state, seen) := state.step c
    if seen then c :: visibleFrom state rest else visibleFrom state rest

/-- What is seen of a text. -/
def visible (s : String) : String :=
  String.ofList (visibleFrom .outside s.toList)

end Text
end Rulebook
