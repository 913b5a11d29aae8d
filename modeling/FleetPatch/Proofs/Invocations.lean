import FleetPatch.Proofs.Restart

/-!
# Scripts as arguments

A script reaches the remote shell as one argument in base64. Reading the argument back undoes both
layers of the encoding, so the argument carries its script whole, and no two scripts are handed
over as the same argument.
-/

namespace FleetPatch

set_option autoImplicit false

namespace Text.Base64

/-- The number from 0 to 63 that a character stands for. -/
def value? (character : Char) : Option Nat := alphabet.idxOf? character

def bits? (first second third fourth : Char) : Option Nat := do
  let first ← value? first
  let second ← value? second
  let third ← value? third
  let fourth ← value? fourth
  some (((first * 64 + second) * 64 + third) * 64 + fourth)

def ungrouped (bits : Nat) : List UInt8 :=
  [UInt8.ofNat (bits / 65536), UInt8.ofNat (bits / 256), UInt8.ofNat bits]

/-- Reads a text in groups of four characters. Equals signs stand only in the last group, for its
last character or its last two, and for each there is a byte less. -/
def decode? : List Char → Option (List UInt8)
  | [] => some []
  | first :: second :: third :: fourth :: rest =>
      if fourth ≠ '=' then do
        let bits ← bits? first second third fourth
        let bytes ← decode? rest
        some (ungrouped bits ++ bytes)
      else if rest ≠ [] then none
      else if third ≠ '=' then
        (bits? first second third 'A').map fun bits => (ungrouped bits).take 2
      else (bits? first second 'A' 'A').map fun bits => (ungrouped bits).take 1
  | _ => none

/-- Characters of the alphabet, filled up to groups of four with at most two equals signs. -/
structure Padded (text : List Char) : Prop where
  filled : ∃ body padding, text = body ++ List.replicate padding '=' ∧ padding ≤ 2 ∧
    ∀ character ∈ body, character ∈ alphabet
  grouped : text.length % 4 = 0

theorem value_sextet (number : Nat) : value? (sextet number) = some (number % 64) := by
  have all : ∀ value < 64, value? (alphabet.getD value 'A') = some value := by decide
  exact all (number % 64) (Nat.mod_lt _ (by decide))

theorem sextet_mem (number : Nat) : sextet number ∈ alphabet := by
  have all : ∀ value < 64, alphabet.getD value 'A' ∈ alphabet := by decide
  exact all (number % 64) (Nat.mod_lt _ (by decide))

theorem sextet_ne_padding (number : Nat) : sextet number ≠ '=' := by
  intro same
  have member := sextet_mem number
  rw [same] at member
  revert member
  decide

def bitsOf (first second third : UInt8) : Nat :=
  (first.toNat * 256 + second.toNat) * 256 + third.toNat

theorem bits_group (first second third : UInt8) :
    bits? (sextet (bitsOf first second third / 262144)) (sextet (bitsOf first second third / 4096))
      (sextet (bitsOf first second third / 64)) (sextet (bitsOf first second third)) =
        some (bitsOf first second third) := by
  have bounded : bitsOf first second third < 16777216 := by
    have firstBound := first.toNat_lt
    have secondBound := second.toNat_lt
    have thirdBound := third.toNat_lt
    simp only [bitsOf]
    omega
  simp only [bits?, value_sextet, Option.bind_eq_bind, Option.bind_some, Option.some.injEq]
  omega

theorem ofNat_eq_toNat {number : Nat} {byte : UInt8} (same : number % 256 = byte.toNat) :
    UInt8.ofNat number = byte := by
  apply UInt8.toNat_inj.mp
  rw [UInt8.toNat_ofNat', same]

theorem ungrouped_bitsOf (first second third : UInt8) :
    ungrouped (bitsOf first second third) = [first, second, third] := by
  have firstBound := first.toNat_lt
  have secondBound := second.toNat_lt
  have thirdBound := third.toNat_lt
  simp only [ungrouped, bitsOf, List.cons.injEq, and_true]
  exact ⟨ofNat_eq_toNat (by omega), ofNat_eq_toNat (by omega), ofNat_eq_toNat (by omega)⟩

/-- Bits that a last group does not have are written as zeros. -/
theorem sextet_of_zeros (number : Nat) (zeros : number % 64 = 0) : sextet number = 'A' := by
  rw [sextet, zeros]
  rfl

theorem group_eq (first second third : UInt8) :
    group first.toNat second.toNat third.toNat =
      [sextet (bitsOf first second third / 262144), sextet (bitsOf first second third / 4096),
        sextet (bitsOf first second third / 64), sextet (bitsOf first second third)] := rfl

theorem decode_encode (bytes : List UInt8) : decode? (encode bytes) = some bytes := by
  fun_induction encode bytes with
  | case1 first second third rest induction =>
      rw [group_eq]
      simp [decode?, sextet_ne_padding, bits_group, induction, ungrouped_bitsOf]
  | case2 first second =>
      have carried := bits_group first second 0
      rw [sextet_of_zeros (bitsOf first second 0) (by simp [bitsOf]; omega)] at carried
      rw [show (0 : Nat) = (0 : UInt8).toNat from rfl, group_eq]
      simp [decode?, sextet_ne_padding, carried, ungrouped_bitsOf]
  | case3 first =>
      have carried := bits_group first 0 0
      rw [sextet_of_zeros (bitsOf first 0 0) (by simp [bitsOf]; omega),
        sextet_of_zeros (bitsOf first 0 0 / 64) (by simp [bitsOf]; omega)] at carried
      rw [show (0 : Nat) = (0 : UInt8).toNat from rfl, group_eq]
      simp [decode?, carried, ungrouped_bitsOf]
  | case4 => rfl

theorem group_mem (first second third : Nat) :
    ∀ character ∈ group first second third, character ∈ alphabet := by
  simp [group, sextet_mem]

theorem padded_encode (bytes : List UInt8) : Padded (encode bytes) := by
  fun_induction encode bytes with
  | case1 first second third rest induction =>
      obtain ⟨⟨body, padding, shape, few, members⟩, grouped⟩ := induction
      refine ⟨⟨group first.toNat second.toNat third.toNat ++ body, padding, ?_, few, ?_⟩, ?_⟩
      · rw [shape, List.append_assoc]
      · intro character member
        rcases List.mem_append.mp member with own | later
        · exact group_mem _ _ _ character own
        · exact members character later
      · simp only [group, List.length_append, List.length_cons, List.length_nil]
        omega
  | case2 first second =>
      refine ⟨⟨(group first.toNat second.toNat 0).take 3, 1, rfl, by omega, ?_⟩, by simp [group]⟩
      intro character member
      exact group_mem _ _ _ character (List.mem_of_mem_take member)
  | case3 first =>
      refine ⟨⟨(group first.toNat 0 0).take 2, 2, rfl, by omega, ?_⟩, by simp [group]⟩
      intro character member
      exact group_mem _ _ _ character (List.mem_of_mem_take member)
  | case4 => exact ⟨⟨[], 0, rfl, by omega, by simp⟩, rfl⟩

end Text.Base64

namespace Text.Utf16

/-- The characters of units. Half of a pair on its own is no character, so units with one have
none. -/
def characters? : List Nat → Option (List Char)
  | [] => some []
  | [unit] => if isHigh unit || isLow unit then none else some [Char.ofNat unit]
  | unit :: next :: rest =>
      if isHigh unit then
        if isLow next then
          (characters? rest).map
            (Char.ofNat (0x10000 + (unit - 0xD800) * 1024 + (next - 0xDC00)) :: ·)
        else none
      else if isLow unit then none
      else (characters? (next :: rest)).map (Char.ofNat unit :: ·)

/-- The text that bytes write, the lower byte of each unit first. -/
def decodeLittle? (bytes : List UInt8) : Option String := do
  let units ← unitsOfBytes? true bytes
  let characters ← characters? units
  some (String.ofList characters)

theorem code_valid (character : Char) :
    character.toNat < 0xD800 ∨ 0xDFFF < character.toNat ∧ character.toNat < 0x110000 :=
  character.valid

theorem unit_lt {character : Char} {unit : Nat} (member : unit ∈ unitsOf character) :
    unit < 65536 := by
  have valid := code_valid character
  simp only [unitsOf] at member
  split at member
  · simp only [List.mem_singleton] at member
    omega
  · simp only [List.mem_cons, List.not_mem_nil, or_false] at member
    omega

theorem characters_of_single {unit : Nat} (whole : isHigh unit = false ∧ isLow unit = false)
    (rest : List Nat) :
    characters? (unit :: rest) = (characters? rest).map (Char.ofNat unit :: ·) := by
  cases rest <;> simp [characters?, whole]

/-- The units of a character are read back as it. -/
theorem characters_unitsOf (character : Char) (rest : List Nat) :
    characters? (unitsOf character ++ rest) = (characters? rest).map (character :: ·) := by
  simp only [unitsOf]
  split
  · next small =>
      have whole : isHigh character.toNat = false ∧ isLow character.toNat = false := by
        have valid := code_valid character
        simp only [isHigh, isLow, Bool.and_eq_false_iff, decide_eq_false_iff_not]
        omega
      rw [List.singleton_append, characters_of_single whole, Char.ofNat_toNat]
  · next large =>
      have valid := code_valid character
      have first : isHigh (0xD800 + (character.toNat - 0x10000) / 1024) = true := by
        simp only [isHigh, Bool.and_eq_true, decide_eq_true_eq]
        omega
      have second : isLow (0xDC00 + (character.toNat - 0x10000) % 1024) = true := by
        simp only [isLow, Bool.and_eq_true, decide_eq_true_eq]
        omega
      have joined : 0x10000 + (0xD800 + (character.toNat - 0x10000) / 1024 - 0xD800) * 1024 +
          (0xDC00 + (character.toNat - 0x10000) % 1024 - 0xDC00) = character.toNat := by
        omega
      simp only [List.cons_append, List.nil_append, characters?, first, second, if_true, joined,
        Char.ofNat_toNat]

theorem characters_units (text : List Char) :
    characters? (text.flatMap unitsOf) = some text := by
  induction text with
  | nil => rfl
  | cons character rest induction =>
      rw [List.flatMap_cons, characters_unitsOf, induction]
      rfl

theorem unitsOfBytes_little {unit : Nat} (bounded : unit < 65536) (rest : List UInt8) :
    unitsOfBytes? true (littleEndian unit ++ rest) =
      (unitsOfBytes? true rest).map (unit :: ·) := by
  have joined : unit % 256 % 256 + 256 * (unit / 256 % 256) = unit := by omega
  simp only [littleEndian, List.cons_append, List.nil_append, unitsOfBytes?, if_true,
    UInt8.toNat_ofNat', joined]

theorem unitsOfBytes_encode {units : List Nat} (bounded : ∀ unit ∈ units, unit < 65536) :
    unitsOfBytes? true (units.flatMap littleEndian) = some units := by
  induction units with
  | nil => rfl
  | cons unit rest induction =>
      obtain ⟨first, others⟩ := List.forall_mem_cons.mp bounded
      rw [List.flatMap_cons, unitsOfBytes_little first, induction others]
      rfl

theorem decode_encodeLittle (text : String) : decodeLittle? (encodeLittle text) = some text := by
  have bounded : ∀ unit ∈ units text, unit < 65536 := by
    intro unit member
    obtain ⟨character, _, own⟩ := List.mem_flatMap.mp member
    exact unit_lt own
  have characters : characters? (units text) = some text.toList := characters_units text.toList
  simp only [decodeLittle?, encodeLittle, unitsOfBytes_encode bounded, characters,
    Option.bind_eq_bind, Option.bind_some, String.ofList_toList]

end Text.Utf16

namespace WinRm

open Run

/-- The argument is base64, and reading both layers of it back gives the script. -/
structure Carries (argument script : String) : Prop where
  padded : Text.Base64.Padded argument.toList
  decoded : (Text.Base64.decode? argument.toList).bind Text.Utf16.decodeLittle? = some script

theorem encodedScript_carries (script : String) : Carries (encodedScript script) script where
  padded := by
    rw [encodedScript, String.toList_ofList]
    exact Text.Base64.padded_encode _
  decoded := by
    rw [encodedScript, String.toList_ofList, Text.Base64.decode_encode, Option.bind_some,
      Text.Utf16.decode_encodeLittle]

theorem Carries.unique {argument script other : String} (carries : Carries argument script)
    (also : Carries argument other) : script = other :=
  Option.some.inj (carries.decoded.symm.trans also.decoded)

/-- The arguments with which executing a script runs the interpreter, for each time that it does. -/
def ranBy (config : Config) (script : String) (now : State) : List (List String) :=
  (((transport config).execute script now).2.calls.drop now.calls.length).filterMap Call.ran?

theorem ranBy_of_appended {config : Config} {script : String} {now : State} {entries : List Call}
    (appended : ((transport config).execute script now).2.calls = now.calls ++ entries) :
    ranBy config script now = entries.filterMap Call.ran? := by
  rw [ranBy, appended, List.drop_left]

theorem acquire_runs_nothing (config : Config) : RunsNothing (acquire config) :=
  LogsOnly.bind (logsOnly_reach (connect_runs_nothing config)) fun _ => heldShell_runs_nothing

theorem execute_eq_acquire_bind (config : Config) (script : String) :
    (transport config).execute script = acquire config >>= fun shell =>
      (converse shell script).mapFault (commandFault config) := by
  simp only [← orHandle_fail]
  unfold acquire Transport.execute
  rw [bind_assoc]
  rfl

/-- Executing a script runs the interpreter once if there is a shell for it, and else never. -/
theorem ranBy_eq (config : Config) (script : String) (now : State) :
    now.calls <+: ((transport config).execute script now).2.calls ∧
      ranBy config script now =
        match (acquire config now).1 with
        | .ok _ => [invocation script]
        | .error _ => [] := by
  obtain ⟨before, acquired, silent⟩ := acquire_runs_nothing config now
  have quiet : before.filterMap Call.ran? = [] := List.filterMap_eq_nil_iff.mpr silent
  have executed := execute_eq_acquire_bind config script
  rcases taken : acquire config now with ⟨outcome, after⟩
  rw [taken] at acquired
  cases outcome with
  | error fault =>
      have appended : ((transport config).execute script now).2.calls = now.calls ++ before := by
        rw [executed, bind_apply_error taken]
        exact acquired
      rw [ranBy_of_appended appended, appended, quiet]
      exact ⟨List.prefix_append _ _, rfl⟩
  | ok shell =>
      obtain ⟨entries, conversed, ran⟩ :=
        LogsItems.mapFault (commandFault config) (converse_runs shell script) after
      have appended : ((transport config).execute script now).2.calls =
          now.calls ++ (before ++ entries) := by
        rw [executed, bind_apply_ok taken, conversed, ← List.append_assoc]
        exact congrArg (· ++ entries) acquired
      rw [ranBy_of_appended appended, appended, List.filterMap_append, quiet, ran]
      exact ⟨List.prefix_append _ _, rfl⟩

/-- Executing a script makes further calls only. If there is a shell for it, one of them runs the
interpreter, with the fixed options and an argument that carries the script, and no other does. Two
scripts, on whatever connections, are never run with the same arguments. -/
theorem scripts_carried_whole :
    (∀ (config : Config) (script : String) (now : State), ∃ argument,
      Carries argument script ∧
      now.calls <+: ((transport config).execute script now).2.calls ∧
      ranBy config script now =
        match (acquire config now).1 with
        | .ok _ => [["-NoProfile", "-NonInteractive", "-EncodedCommand", argument]]
        | .error _ => []) ∧
    ∀ (config other : Config) (script another : String) (now elsewhere : State)
      (arguments : List String), arguments ∈ ranBy config script now →
      arguments ∈ ranBy other another elsewhere → script = another := by
  have sent (config : Config) (script : String) (now : State) {arguments : List String}
      (member : arguments ∈ ranBy config script now) : arguments = invocation script := by
    rw [(ranBy_eq config script now).2] at member
    split at member
    · exact List.mem_singleton.mp member
    · cases member
  constructor
  · intro config script now
    exact ⟨encodedScript script, encodedScript_carries script, ranBy_eq config script now⟩
  · intro config other script another now elsewhere arguments first second
    have same := (sent config script now first).symm.trans (sent other another elsewhere second)
    have argument : encodedScript script = encodedScript another := by
      simpa only [invocation, List.cons.injEq, true_and, and_true] using same
    have carries := encodedScript_carries script
    rw [argument] at carries
    exact carries.unique (encodedScript_carries another)

/-- Two characters above U+FFFF and one below take ten bytes, which end in a group of one. -/
example : encodedScript "😀é𝄞" = "PdgA3ukANNge3Q==" := by decide +kernel

end WinRm

end FleetPatch
