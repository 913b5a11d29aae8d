import FleetPatch.Text.Digit
import FleetPatch.Text.Search

/-!
# Options on a command line

A word of a command line is an option, the separator behind which no word is an
option, or plain. Long options may be abbreviated and short ones joined in one
word; an option that takes a value finds it in the same word or in the next one.
Text that is attached to an option and means nothing there is misuse.
-/

namespace FleetPatch.CommandLine

set_option autoImplicit false

inductive Flag where
  | help
  | inventory
  | verbose
  deriving Repr, DecidableEq

def Flag.takesValue : Flag → Bool
  | .inventory => true
  | .help | .verbose => false

def separatorText : String := "--"

abbrev Spellings := List (String × Flag)

def globalSpellings : Spellings := [
  ("-h", .help), ("--help", .help), ("-i", .inventory), ("--inventory", .inventory),
  ("-v", .verbose), ("--verbose", .verbose)]

def commandSpellings : Spellings := [("-h", .help), ("--help", .help)]

/-- What a word is: plain, the separator, or an option. A short option may have others joined to it,
and an option that is not understood has no flag. -/
inductive Kind where
  | plain
  | separator
  | option (flag : Flag) (short : Bool) (attached : Option (List Char))
  | unknownOption
  deriving Repr, DecidableEq

structure Word where
  text : String
  kind : Kind
  deriving Repr, DecidableEq

inductive Stop where
  | help
  | misuse
  deriving Repr, DecidableEq

def isShort (spelling : List Char) : Bool := spelling.drop 1 |>.head? |>.any (· != '-')

def spelledOut? (spellings : Spellings) (word : List Char) : Option Kind :=
  match spellings.lookup (String.ofList word) with
  | some flag => some (.option flag (isShort word) none)
  | none =>
      match Text.cutAt? ['='] word with
      | some (spelling, value) =>
          (spellings.lookup (String.ofList spelling)).map fun flag =>
            .option flag (isShort spelling) (some value)
      | none => none

def abbreviated (spellings : Spellings) (word : List Char) : List Kind :=
  let (lead, attached) :=
    match Text.cutAt? ['='] word with
    | some (lead, value) => (lead, some value)
    | none => (word, none)
  (spellings.filter fun (spelling, _) => lead.isPrefixOf spelling.toList).map fun (_, flag) =>
    .option flag false attached

def joined (spellings : Spellings) (word : List Char) : List Kind :=
  (spellings.filter fun (spelling, _) => spelling.toList == word.take 2).map fun (_, flag) =>
    .option flag true (some (word.drop 2))

/-- Whether a text is digits only, but for a line feed at its end. -/
def isDigits (text : List Char) : Bool :=
  let body := if text.getLast? = some '\n' then text.dropLast else text
  !body.isEmpty && body.all Text.isDigit

def isNegativeNumber (word : List Char) : Bool :=
  match word with
  | '-' :: number =>
      isDigits number ||
        (match number.dropWhile Text.isDigit with
          | '.' :: fraction => isDigits fraction
          | _ => false)
  | _ => false

/-- What a word in front of the separator is. An abbreviation of several options is misuse. -/
def kindOf (spellings : Spellings) (word : List Char) : Except Stop Kind :=
  match word with
  | '-' :: second :: _ =>
      match spelledOut? spellings word with
      | some kind => .ok kind
      | none =>
          match (if second = '-' then abbreviated spellings word else joined spellings word) with
          | [kind] => .ok kind
          | _ :: _ :: _ => .error .misuse
          | [] =>
              if isNegativeNumber word || word.contains ' ' then .ok .plain
              else .ok .unknownOption
  | _ => .ok .plain

def classify (spellings : Spellings) : List String → Except Stop (List Word)
  | [] => .ok []
  | text :: rest =>
      if text = separatorText then .ok (⟨text, .separator⟩ :: rest.map fun word => ⟨word, .plain⟩)
      else do
        let kind ← kindOf spellings text.toList
        let others ← classify spellings rest
        .ok (⟨text, kind⟩ :: others)

/-- What one word of options gives: the flags with their values, and an option at the end that has
no text attached. -/
structure Joined where
  taken : List (Flag × Option String)
  last : Option Flag
  deriving Repr, DecidableEq

namespace Joined

def withFlag (flag : Flag) (more : Joined) : Joined :=
  { more with taken := (flag, none) :: more.taken }

/-- The options that are joined in one word, from a flag and the text attached to it on. A flag that
takes a value takes all of the text; the text of any other one is more short options. -/
def ofText (spellings : Spellings) (flag : Flag) (short : Bool) : List Char → Except Stop Joined
  | [] => if flag.takesValue then .ok ⟨[(flag, some "")], none⟩ else .error .misuse
  | next :: rest =>
      if flag.takesValue then .ok ⟨[(flag, some (String.ofList (next :: rest)))], none⟩
      else if short then
        match spellings.lookup (String.ofList ['-', next]) with
        | none => .error .misuse
        | some following =>
            match rest with
            | [] => .ok ⟨[(flag, none)], some following⟩
            | other :: others =>
                (ofText spellings following true (other :: others)).map (withFlag flag)
      else .error .misuse

def ofWord (spellings : Spellings) (flag : Flag) (short : Bool) :
    Option (List Char) → Except Stop Joined
  | none => .ok ⟨[], some flag⟩
  | some attached => ofText spellings flag short attached

end Joined

end FleetPatch.CommandLine
