import FleetPatch.Text.Digit
import FleetPatch.Text.ShellWord

/-!
# Tokens of shell commands

How a shell takes a command line apart: into words, from which quotation is
removed, into operators, and into the numbers in front of redirections. Whatever a
shell would replace by something else in a word stays marked as such. A text that
was quoted as a word of the shell is read as that one word.
-/

namespace FleetPatch.Shell

set_option autoImplicit false

/-- A character of a word: one that stands for itself, a quoted one, or one that begins or ends what
the shell replaces by something else. -/
inductive Mark where
  | plain (character : Char)
  | quoted (character : Char)
  | active (character : Char)
  deriving Repr, DecidableEq

namespace Mark

def character : Mark → Char
  | .plain character | .quoted character | .active character => character

def isActive : Mark → Bool
  | .active _ => true
  | .plain _ | .quoted _ => false

def isNumeral : Mark → Bool
  | .plain character => Text.isPlainDigit character
  | .quoted _ | .active _ => false

end Mark

/-- A part of a command line: a word without its quotation, a word in which something is replaced,
the number in front of a redirection, or an operator. -/
inductive Token where
  | word (text : List Char)
  | expanded (marks : List Mark)
  | number (digits : List Char)
  | operator (text : List Char)
  deriving Repr, DecidableEq

def Token.ofText (text : String) : Token := .word text.toList

def Token.ofWord (marks : List Mark) : Token :=
  if marks.any Mark.isActive then .expanded marks else .word (marks.map Mark.character)

def operators : List (List Char) :=
  ["\n", "&", "&&", "(", ")", ";", ";;", "<", "<<", "<<-", "<&", "<>", ">", ">>", ">&", ">|", "|",
    "||"].map String.toList

inductive Role where
  | escape
  | quote
  | doubleQuote
  | blank
  | comment
  | operator
  | active
  | plain
  deriving Repr, DecidableEq

/-- Besides parameters, commands and patterns, which every shell replaces, home directories, lists
in braces and events of the history count as replaced. -/
def roleOf (character : Char) : Role :=
  if character = '\\' then .escape
  else if character = '\'' then .quote
  else if character = '"' then .doubleQuote
  else if [' ', '\t'].contains character then .blank
  else if character = '#' then .comment
  else if "\n&();<>|".toList.contains character then .operator
  else if "$`*?[]~\x7b\x7d!".toList.contains character then .active
  else .plain

inductive Quoting where
  | bare
  | escaped
  | single
  | double
  | escapedInDouble
  deriving Repr, DecidableEq

inductive Pending where
  | nothing
  | word (marks : List Mark)
  | operator (text : List Char)
  | comment
  deriving Repr, DecidableEq

def Pending.tokens : Pending → List Token
  | .word marks => [.ofWord marks]
  | .operator text => [.operator text]
  | .nothing | .comment => []

/-- A command line read up to some character: the tokens that have ended, the one at hand, and how
what follows is quoted. -/
structure Reading where
  ended : List Token
  pending : Pending
  quoting : Quoting
  deriving Repr, DecidableEq

namespace Reading

def start : Reading := ⟨[], .nothing, .bare⟩

def delimit (reading : Reading) : Reading :=
  { reading with ended := reading.ended ++ reading.pending.tokens, pending := .nothing }

def write (marks : List Mark) (reading : Reading) : Reading :=
  match reading.pending with
  | .word earlier => { reading with pending := .word (earlier ++ marks) }
  | .nothing | .operator _ | .comment => { reading.delimit with pending := .word marks }

def quote (quoting : Quoting) (reading : Reading) : Reading := { reading with quoting := quoting }

/-- The operator at hand goes on if there is such an operator, or one begins. Digits that stand
right in front of a redirection are its number. -/
def operate (character : Char) (reading : Reading) : Reading :=
  match reading.pending with
  | .operator text =>
      if operators.contains (text ++ [character]) then
        { reading with pending := .operator (text ++ [character]) }
      else { reading.delimit with pending := .operator [character] }
  | .word marks =>
      if !marks.isEmpty && marks.all Mark.isNumeral && ['<', '>'].contains character then
        { reading with
          ended := reading.ended ++ [.number (marks.map Mark.character)]
          pending := .operator [character] }
      else { reading.delimit with pending := .operator [character] }
  | .nothing | .comment => { reading.delimit with pending := .operator [character] }

/-- A comment begins only where a word could begin. -/
def remark (character : Char) (reading : Reading) : Reading :=
  match reading.pending with
  | .word _ => reading.write [.plain character]
  | .nothing | .operator _ | .comment => { reading.delimit with pending := .comment }

def bareStep (reading : Reading) (character : Char) : Reading :=
  match roleOf character with
  | .escape => reading.quote .escaped
  | .quote => (reading.write []).quote .single
  | .doubleQuote => (reading.write []).quote .double
  | .blank => reading.delimit
  | .comment => reading.remark character
  | .operator => reading.operate character
  | .active => reading.write [.active character]
  | .plain => reading.write [.plain character]

/-- Reads one more character. Between double quotes parameters and commands are still replaced, and
only some characters are escaped; an escaped line feed is as if it were not there. -/
def step (reading : Reading) (character : Char) : Reading :=
  match reading.quoting with
  | .bare =>
      if reading.pending = .comment ∧ character ≠ '\n' then reading
      else reading.bareStep character
  | .escaped =>
      if character = '\n' then reading.quote .bare
      else (reading.write [.quoted character]).quote .bare
  | .single =>
      if character = '\'' then reading.quote .bare else reading.write [.quoted character]
  | .double =>
      if character = '"' then reading.quote .bare
      else if character = '\\' then reading.quote .escapedInDouble
      else if ['$', '`'].contains character then reading.write [.active character]
      else reading.write [.quoted character]
  | .escapedInDouble =>
      if character = '\n' then reading.quote .double
      else if "$`\"\\".toList.contains character then
        (reading.write [.quoted character]).quote .double
      else (reading.write [.quoted '\\', .quoted character]).quote .double

def run (reading : Reading) (text : List Char) : Reading := text.foldl step reading

end Reading

/-- The tokens of a command line; one in which a quotation is left open has none. -/
def tokens? (line : String) : Option (List Token) :=
  let last := Reading.start.run line.toList
  if last.quoting = .bare then some last.delimit.ended else none

example : tokens? "echo 'a;b'\"$x\"\\ c>'2' 2>&1;ls # all" = some [
    .word "echo".toList,
    .expanded (("a;b".toList.map Mark.quoted) ++
      [.active '$', .quoted 'x', .quoted ' ', .plain 'c']),
    .operator ['>'], .word ['2'], .number ['2'], .operator ['>', '&'], .word ['1'], .operator [';'],
    .word "ls".toList] := by
  decide +kernel

namespace Reading

theorem run_cons (reading : Reading) (character : Char) (text : List Char) :
    reading.run (character :: text) = (reading.step character).run text := rfl

theorem run_append (reading : Reading) (first second : List Char) :
    reading.run (first ++ second) = (reading.run first).run second :=
  List.foldl_append

theorem roleOf_of_plain {character : Char} (plain : Text.isShellPlain character = true) :
    roleOf character = .plain := by
  have other (special : Char) (marked : Text.isShellPlain special = false) :
      character ≠ special := by
    rintro rfl
    rw [plain] at marked
    cases marked
  have outside (specials : List Char) (marked : specials.any Text.isShellPlain = false) :
      specials.contains character = false := by
    rw [Bool.eq_false_iff]
    intro held
    exact List.any_eq_false.mp marked character (List.contains_iff_mem.mp held) plain
  simp only [roleOf, other '\\' (by decide), other '\'' (by decide), other '"' (by decide),
    other '#' (by decide), outside [' ', '\t'] (by decide), outside "\n&();<>|".toList (by decide),
    outside "$`*?[]~\x7b\x7d!".toList (by decide), Bool.false_eq_true, if_false]

variable (ended : List Token) (marks : List Mark)

theorem step_plain {character : Char} (plain : Text.isShellPlain character = true) :
    step ⟨ended, .word marks, .bare⟩ character =
      ⟨ended, .word (marks ++ [.plain character]), .bare⟩ := by
  simp only [step, bareStep, roleOf_of_plain plain, write, reduceCtorEq, false_and, if_false]

theorem run_plain {text : List Char}
    (plain : ∀ character ∈ text, Text.isShellPlain character = true) :
    run ⟨ended, .word marks, .bare⟩ text = ⟨ended, .word (marks ++ text.map .plain), .bare⟩ := by
  induction text generalizing marks with
  | nil => rw [List.map_nil, List.append_nil]; rfl
  | cons character rest ih =>
      obtain ⟨first, others⟩ := List.forall_mem_cons.mp plain
      rw [run_cons, step_plain ended marks first, ih _ others, List.append_assoc]
      rfl

/-- A single quote between single quotes: they are closed, it stands between double ones, and they
are opened again. -/
theorem run_quoteInQuotes :
    run ⟨ended, .word marks, .single⟩ "'\"'\"'".toList =
      ⟨ended, .word (marks ++ [.quoted '\'']), .single⟩ := by
  change run ⟨ended, .word marks, .single⟩ ['\'', '"', '\'', '"', '\''] = _
  simp [run, step, bareStep, roleOf, write, quote]

theorem replaceFrom_zero_cons (single : Char) (new : List Char) (character : Char)
    (rest : List Char) :
    Text.replaceFrom [single] new 0 (character :: rest) =
      (if character = single then new else [character]) ++
        Text.replaceFrom [single] new 0 rest := by
  by_cases same : character = single
  · simp [Text.replaceFrom, same]
  · have other : single ≠ character := fun equal => same equal.symm
    simp [Text.replaceFrom, same, other]

/-- What stands between single quotes is quoted, character by character. -/
theorem run_quoted (text : List Char) :
    run ⟨ended, .word marks, .single⟩ (Text.replaceAll ['\''] "'\"'\"'".toList text) =
      ⟨ended, .word (marks ++ text.map .quoted), .single⟩ := by
  unfold Text.replaceAll
  induction text generalizing marks with
  | nil => rw [List.map_nil, List.append_nil]; rfl
  | cons character rest ih =>
      have first : run ⟨ended, .word marks, .single⟩
          (if character = '\'' then "'\"'\"'".toList else [character]) =
          ⟨ended, .word (marks ++ [.quoted character]), .single⟩ := by
        split
        next same => rw [same, run_quoteInQuotes]
        next other => simp only [run, List.foldl_cons, List.foldl_nil, step, if_neg other, write]
      rw [replaceFrom_zero_cons, run_append, first, ih, List.append_assoc]
      rfl

theorem ofWord_of_inactive {text : List Char} {mark : Char → Mark}
    (stands : ∀ character, (mark character).character = character)
    (inactive : ∀ character, (mark character).isActive = false) :
    Token.ofWord (text.map mark) = .word text := by
  have none : (text.map mark).any Mark.isActive = false := by
    simp only [List.any_map, List.any_eq_false, Function.comp_apply, inactive]
    exact fun _ _ => Bool.false_ne_true
  have same : (text.map mark).map Mark.character = text := by
    rw [List.map_map]
    exact (List.map_congr_left fun character _ => stands character).trans (List.map_id text)
  rw [Token.ofWord, none, same]
  rfl

/-- A text that is quoted as a word of the shell is read as one word, in which
nothing is replaced. -/
theorem run_shellWord (text : String) : ∃ marks : List Mark,
    run ⟨ended, .nothing, .bare⟩ (Text.shellWord text).toList = ⟨ended, .word marks, .bare⟩ ∧
      Token.ofWord marks = .ofText text := by
  unfold Text.shellWord
  dsimp only
  split
  next empty =>
      refine ⟨[], ?_, by rw [Token.ofText, List.isEmpty_iff.mp empty]; rfl⟩
      change run ⟨ended, .nothing, .bare⟩ ['\'', '\''] = _
      simp [run, step, bareStep, roleOf, write, delimit, quote, Pending.tokens]
  next filled =>
      split
      next plain =>
          refine ⟨text.toList.map .plain, ?_, ofWord_of_inactive (fun _ => rfl) fun _ => rfl⟩
          have plain := List.all_eq_true.mp plain
          cases characters : text.toList with
          | nil => exact absurd (List.isEmpty_iff.mpr characters) filled
          | cons first rest =>
              rw [characters] at plain
              have begun : step ⟨ended, .nothing, .bare⟩ first =
                  step ⟨ended, .word [], .bare⟩ first := by
                simp [step, bareStep, roleOf_of_plain (plain first List.mem_cons_self), write,
                  delimit, Pending.tokens]
              rw [run_cons, begun]
              exact run_plain ended [] plain
      next =>
          refine ⟨text.toList.map .quoted, ?_, ofWord_of_inactive (fun _ => rfl) fun _ => rfl⟩
          have opened : step ⟨ended, .nothing, .bare⟩ '\'' = ⟨ended, .word [], .single⟩ := by
            simp [step, bareStep, roleOf, write, delimit, quote, Pending.tokens]
          rw [String.toList_ofList, List.cons_append, run_cons, opened, run_append, run_quoted]
          rfl

theorem run_shellWords (texts : List String) :
    run ⟨ended, .nothing, .bare⟩ (texts.flatMap fun text => (Text.shellWord text).toList ++ [' ']) =
      ⟨ended ++ texts.map .ofText, .nothing, .bare⟩ := by
  induction texts generalizing ended with
  | nil => rw [List.map_nil, List.append_nil]; rfl
  | cons text rest ih =>
      obtain ⟨marks, read, word⟩ := run_shellWord ended text
      have delimited : step ⟨ended, .word marks, .bare⟩ ' ' =
          ⟨ended ++ [.ofText text], .nothing, .bare⟩ := by
        simp [step, bareStep, roleOf, delimit, Pending.tokens, word]
      rw [List.flatMap_cons, run_append, run_append, read, run_cons, delimited]
      change run ⟨_, .nothing, .bare⟩ _ = _
      rw [ih, List.append_assoc]
      rfl

end Reading

end FleetPatch.Shell
