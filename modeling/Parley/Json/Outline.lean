import Parley.Json.Literal
import Parley.Json.Numeral

/-!
# The outline of a JSON text

The outline of a text is its JSON structure as far as the text goes: values, elements and members
in order, each with the text at which it starts and the text behind it, and, where the structure
breaks off, what is wrong there.  An outline is made without knowing what the values are for
(`Outline.ofText`), and so a decoder finds in one pass whichever comes first, a value it cannot use
or the place where the text breaks off.

A break is named differently by a decoder that wanted the value (*reading*), by one that passes
over it (*skipping*) and by one that has all the elements it wants (*finishing*); a break holds all
these faults.  `Outline.skip` passes over a value.

An outline models what `serde_json` finds on its way through a text.
-/

namespace Parley

namespace Json

/-- The four characters that may stand between the parts of a JSON text. -/
def gap (c : Char) : Bool := c = ' ' || c = '\t' || c = '\n' || c = '\r'

/-- The text behind the gap at its beginning. -/
def dropGap (s : Chars) : Chars := s.dropWhile gap

mutual

/-- A value, as far as the text goes. -/
inductive Outline where
  /-- The word `null`. -/
  | null (start after : Chars)
  /-- A truth value. -/
  | bool (b : Bool) (start after : Chars)
  /-- A number. -/
  | number (n : Numeral) (start after : Chars)
  /-- A string literal, with the text behind its opening quote. -/
  | string (body after : Chars)
  /-- A list. -/
  | array (start : Chars) (elements : Elements)
  /-- An object. -/
  | object (start : Chars) (members : Members)
  /-- No value, or only the beginning of one. -/
  | broken (start : Chars) (reading skipping : Fault)

/-- The elements of a list, as far as the text goes. -/
inductive Elements where
  /-- The closing bracket. -/
  | close (after : Chars)
  /-- An element, and what follows it. -/
  | next (value : Outline) (rest : Elements)
  /-- Neither an element nor the end. -/
  | broken (reading skipping finishing : Fault)

/-- The members of an object, as far as the text goes. -/
inductive Members where
  /-- The closing brace. -/
  | close (after : Chars)
  /-- A key, given by the text behind its opening quote, the text at its colon, the value, and
  what follows it. -/
  | next (key colon : Chars) (value : Outline) (rest : Members)
  /-- A key that no colon follows. -/
  | keyOnly (key colon : Chars) (fault : Fault)
  /-- Neither a member nor the end. -/
  | broken (reading skipping : Fault)

end

namespace Outline

/-- The text at which a value starts. -/
def start : Outline → Chars
  | .null s _ => s
  | .bool _ s _ => s
  | .number _ s _ => s
  | .string body _ => '"' :: body
  | .array s _ => s
  | .object s _ => s
  | .broken s _ _ => s

/-- A break that is named the same in every use. -/
def stop (s : Chars) (f : Fault) : Outline := .broken s f f

/-! ### Words, numbers and strings -/

/-- The rest of a word, and the text behind it. -/
def word : Chars → Chars → Except Fault Chars
  | [], s => .ok s
  | _ :: _, [] => .error (.behind .endInValue [])
  | w :: ws, c :: r => if c = w then word ws r else .error (.upon .expectedWord (c :: r))

/-- A value that is a word: the outline, and the text behind it. -/
def ofWord (s : Chars) (rest : String) (mk : Chars → Outline) : Outline × Option Chars :=
  match word rest.toList s.tail with
  | .ok after => (mk after, some after)
  | .error f => (stop s f, none)

/-- A number; one that ends too early is named only by a reader as the end of the text. -/
def ofNumber (s : Chars) : Outline × Option Chars :=
  match Numeral.scan s with
  | .ok (n, after) => (.number n s after, some after)
  | .error at_ =>
    let skipping := Fault.upon .invalidNumber at_
    (.broken s (if at_.isEmpty then .behind .endInValue [] else skipping) skipping, none)

/-- A string. -/
def ofString (body : Chars) : Outline × Option Chars :=
  match Literal.skip body with
  | .ok after => (.string body after, some after)
  | .error skipping =>
    let reading :=
      match Literal.read body with
      | .error f => f
      | .ok _ => skipping
    (.broken ('"' :: body) reading skipping, none)

/-! ### Lists and objects -/

mutual

/-- The value at the beginning of a text and the text behind it, looking at most `fuel` levels and
elements deep. -/
def read : Nat → Chars → Outline × Option Chars
  | 0, s => (stop s (.behind .endInValue s), none)
  | fuel + 1, s =>
    match s with
    | [] => (stop [] (.behind .endInValue []), none)
    | c :: r =>
      if c = 'n' then ofWord s "ull" (.null s)
      else if c = 't' then ofWord s "rue" (.bool true s)
      else if c = 'f' then ofWord s "alse" (.bool false s)
      else if c = '-' || Numeral.isDigit c then ofNumber s
      else if c = '"' then ofString r
      else if c = '[' then
        let (es, after) := readElements fuel true (dropGap r)
        (.array s es, after)
      else if c = '{' then
        let (ms, after) := readMembers fuel true (dropGap r)
        (.object s ms, after)
      else (stop s (.upon .expectedValue s), none)

/-- The elements from here on; `first` tells that no element stands before. -/
def readElements : Nat → Bool → Chars → Elements × Option Chars
  | 0, _, s => (.broken (.behind .endInList s) (.behind .endInList s) (.behind .endInList s), none)
  | fuel + 1, first, s =>
    match s with
    | [] =>
      let f := Fault.behind .endInList []
      (.broken f f f, none)
    | c :: r =>
      if c = ']' then (.close r, some r)
      else if first then readElement fuel s
      else if c = ',' then
        let t := dropGap r
        if t.head? = some ']' then
          (.broken (.upon .trailingComma t) (.upon .expectedValue t) (.upon .trailingComma t), none)
        else readElement fuel t
      else
        let f := Fault.upon .expectedListCommaOrEnd s
        (.broken f f (.upon .trailingCharacters s), none)

/-- An element and the elements behind it. -/
def readElement : Nat → Chars → Elements × Option Chars
  | 0, s => (.broken (.behind .endInList s) (.behind .endInList s) (.behind .endInList s), none)
  | fuel + 1, s =>
    match read fuel s with
    | (v, some after) =>
      let (es, after) := readElements fuel false (dropGap after)
      (.next v es, after)
    | (v, none) => (.next v (.close []), none)

/-- The members from here on; `first` tells that no member stands before. -/
def readMembers : Nat → Bool → Chars → Members × Option Chars
  | 0, _, s => (.broken (.behind .endInObject s) (.behind .endInObject s), none)
  | fuel + 1, first, s =>
    match s with
    | [] => (.broken (.behind .endInObject []) (.behind .endInObject []), none)
    | c :: r =>
      if c = '}' then (.close r, some r)
      else if first then
        if c = '"' then readMember fuel r
        else (.broken (.upon .keyMustBeString s) (.upon .keyMustBeString s), none)
      else if c = ',' then
        match dropGap r with
        | [] => (.broken (.behind .endInValue []) (.behind .endInObject []), none)
        | d :: t =>
          if d = '"' then readMember fuel t
          else
            let skipping := Fault.upon .keyMustBeString (d :: t)
            (.broken (if d = '}' then .upon .trailingComma (d :: t) else skipping) skipping, none)
      else
        let f := Fault.upon .expectedObjectCommaOrEnd s
        (.broken f f, none)

/-- A member, given by the text behind the opening quote of its key, and the members behind it. -/
def readMember : Nat → Chars → Members × Option Chars
  | 0, s => (.broken (.behind .endInObject s) (.behind .endInObject s), none)
  | fuel + 1, key =>
    match Literal.skip key with
    | .error skipping =>
      let reading :=
        match Literal.read key with
        | .error f => f
        | .ok _ => skipping
      (.broken reading skipping, none)
    | .ok afterKey =>
      match dropGap afterKey with
      | [] => (.keyOnly key [] (.behind .endInObject []), none)
      | c :: r =>
        if c = ':' then
          match read fuel (dropGap r) with
          | (v, some after) =>
            let (ms, after) := readMembers fuel false (dropGap after)
            (.next key (c :: r) v ms, after)
          | (v, none) => (.next key (c :: r) v (.close []), none)
        else (.keyOnly key (c :: r) (.upon .expectedColon (c :: r)), none)

end

/-- The outline of the value at the beginning of a text, and the text behind it. -/
def ofText (s : Chars) : Outline × Option Chars := read (3 * s.length + 1) (dropGap s)

/-! ### Passing over a value -/

mutual

/-- Passes over a value that nothing is made of. -/
def skip : Outline → Except Fault Unit
  | .array _ es => skipElements es
  | .object _ ms => skipMembers ms
  | .broken _ _ skipping => .error skipping
  | _ => .ok ()

/-- Passes over the elements of a list. -/
def skipElements : Elements → Except Fault Unit
  | .close _ => .ok ()
  | .next v es => do
    skip v
    skipElements es
  | .broken _ skipping _ => .error skipping

/-- Passes over the members of an object. -/
def skipMembers : Members → Except Fault Unit
  | .close _ => .ok ()
  | .next _ _ v ms => do
    skip v
    skipMembers ms
  | .keyOnly _ _ fault => .error fault
  | .broken _ skipping => .error skipping

end

end Outline

end Json

end Parley
