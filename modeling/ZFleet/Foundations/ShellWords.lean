import Mathlib.Data.List.Basic

/-!
Splitting command lines into words, as machines that read a character at a time: the words
of a POSIX shell and the arguments of PowerShell. Both give up on a text that quoting alone
does not determine: one with an expansion or a comment, or with a quote that is left open.
-/
namespace ShellWords

structure Splitter (State Token : Type) where
  start : State
  step : State → Char → Option (List Token × State)
  finish : State → Option (List Token)

section Splitters
variable {State Token : Type} (splitter : Splitter State Token)

/-- The tokens that are complete after a text, and the state then. -/
def Splitter.consume : State → List Char → Option (List Token × State)
  | state, [] => some ([], state)
  | state, c :: rest =>
    match splitter.step state c with
    | none => none
    | some (tokens, next) =>
      match Splitter.consume next rest with
      | none => none
      | some (others, last) => some (tokens ++ others, last)

def Splitter.split (text : List Char) : Option (List Token) :=
  match splitter.consume splitter.start text with
  | none => none
  | some (tokens, last) => (splitter.finish last).map fun others => tokens ++ others

/-- From one state to another a text is read as the tokens. -/
def Splitter.Reads (state : State) (text : List Char) (tokens : List Token) (last : State) : Prop :=
  splitter.consume state text = some (tokens, last)

variable {splitter}

theorem Splitter.Reads.step {state next last : State} {c : Char} {rest : List Char}
    {tokens others : List Token} (first : splitter.step state c = some (tokens, next))
    (later : splitter.Reads next rest others last) :
    splitter.Reads state (c :: rest) (tokens ++ others) last := by
  unfold Splitter.Reads at later ⊢
  simp only [Splitter.consume, first, later]

theorem Splitter.Reads.append {state middle last : State} {text text' : List Char}
    {tokens tokens' : List Token} (first : splitter.Reads state text tokens middle)
    (second : splitter.Reads middle text' tokens' last) :
    splitter.Reads state (text ++ text') (tokens ++ tokens') last := by
  induction text generalizing state tokens with
  | nil =>
    cases first
    exact second
  | cons c rest ih =>
    unfold Splitter.Reads at first
    rw [Splitter.consume] at first
    split at first
    · cases first
    · rename_i head next stepped
      split at first
      · cases first
      · rename_i others reached consumed
        cases first
        rw [List.append_assoc]
        exact .step stepped (ih consumed)

theorem Splitter.Reads.split {text : List Char} {tokens others : List Token} {last : State}
    (reads : splitter.Reads splitter.start text tokens last)
    (finished : splitter.finish last = some others) :
    splitter.split text = some (tokens ++ others) := by
  unfold Splitter.Reads at reads
  simp only [Splitter.split, reads, finished, Option.map_some]

end Splitters

/-! The words of a POSIX shell -/

inductive ShellToken where
  | word (text : List Char)
  | operator (text : List Char)
  deriving DecidableEq, Repr

inductive PosixState where
  | between
  | word (text : List Char)
  | operator (text : List Char)
  | single (text : List Char)
  | double (text : List Char)
  /-- Behind a backslash, in a word if there is one. -/
  | escaped (text : Option (List Char))
  | doubleEscaped (text : List Char)
  deriving DecidableEq, Repr

def isBlank (c : Char) : Bool := c = ' ' || c = '\t'

def operators : List String :=
  ["|", "||", "&", "&&", ";", ";;", "<", "<<", "<<-", "<&", "<>", ">", ">>", ">&", ">|", "(", ")",
    "\n"]

/-- Characters that start an expansion. -/
def expands (c : Char) : Bool := c ∈ ['$', '\x60', '*', '?', '[']

/-- The step from an unquoted place; a word may have been begun. -/
def posixPlain (text : Option (List Char)) (c : Char) : Option (List ShellToken × PosixState) :=
  let done := text.toList.map ShellToken.word
  if isBlank c then some (done, .between)
  else if c = '\'' then some ([], .single (text.getD []))
  else if c = '"' then some ([], .double (text.getD []))
  else if c = '\\' then some ([], .escaped text)
  else if String.singleton c ∈ operators then some (done, .operator [c])
  else if expands c then none
  else if text = none ∧ (c = '#' ∨ c = '~') then none
  else some ([], .word (text.getD [] ++ [c]))

def posixStep : PosixState → Char → Option (List ShellToken × PosixState)
  | .between, c => posixPlain none c
  | .word text, c => posixPlain (some text) c
  | .operator text, c =>
    if String.ofList (text ++ [c]) ∈ operators then some ([], .operator (text ++ [c]))
    else (posixPlain none c).map fun (tokens, next) => (.operator text :: tokens, next)
  | .single text, c => some ([], if c = '\'' then .word text else .single (text ++ [c]))
  | .double text, c =>
    if c = '"' then some ([], .word text)
    else if c = '\\' then some ([], .doubleEscaped text)
    else if c = '$' ∨ c = '\x60' then none
    else some ([], .double (text ++ [c]))
  | .escaped text, c =>
    -- a backslash and a newline are a continuation of the line
    if c = '\n' then some ([], text.elim .between .word)
    else some ([], .word (text.getD [] ++ [c]))
  | .doubleEscaped text, c =>
    if c = '\n' then some ([], .double text)
    else if c ∈ ['$', '\x60', '"', '\\'] then some ([], .double (text ++ [c]))
    else some ([], .double (text ++ ['\\', c]))

def posixFinish : PosixState → Option (List ShellToken)
  | .between => some []
  | .word text => some [.word text]
  | .operator text => some [.operator text]
  | _ => none

def posix : Splitter PosixState ShellToken := ⟨.between, posixStep, posixFinish⟩

/-! The arguments of PowerShell -/

inductive PowerShellState where
  | between
  | bare (text : List Char)
  | single (text : List Char)
  /-- Behind a quote that ends the word unless another one follows. -/
  | singleQuote (text : List Char)
  | double (text : List Char)
  | doubleQuote (text : List Char)
  deriving DecidableEq, Repr

/-- Characters that are no part of a bare word, or not literally. -/
def isSpecial (c : Char) : Bool :=
  c ∈ ['\'', '"', '$', '\x60', '(', ')', '\x7b', '\x7d', ';', ',', '|', '&', '<', '>', '@', '#', '\n']

def powerShellPlain (c : Char) : Option (List (List Char) × PowerShellState) :=
  if isBlank c then some ([], .between)
  else if c = '\'' then some ([], .single [])
  else if c = '"' then some ([], .double [])
  else if isSpecial c then none
  else some ([], .bare [c])

/-- A word that starts with a quoted string ends with it. -/
def powerShellStep : PowerShellState → Char → Option (List (List Char) × PowerShellState)
  | .between, c => powerShellPlain c
  | .bare text, c =>
    if isBlank c then some ([text], .between)
    else if isSpecial c then none
    else some ([], .bare (text ++ [c]))
  | .single text, c => some ([], if c = '\'' then .singleQuote text else .single (text ++ [c]))
  | .singleQuote text, c =>
    if c = '\'' then some ([], .single (text ++ [c]))
    else (powerShellPlain c).map fun (words, next) => (text :: words, next)
  | .double text, c =>
    if c = '"' then some ([], .doubleQuote text)
    else if c = '$' ∨ c = '\x60' then none
    else some ([], .double (text ++ [c]))
  | .doubleQuote text, c =>
    if c = '"' then some ([], .double (text ++ [c]))
    else (powerShellPlain c).map fun (words, next) => (text :: words, next)

def powerShellFinish : PowerShellState → Option (List (List Char))
  | .between => some []
  | .bare text => some [text]
  | .singleQuote text => some [text]
  | .doubleQuote text => some [text]
  | _ => none

def powerShell : Splitter PowerShellState (List Char) :=
  ⟨.between, powerShellStep, powerShellFinish⟩

example : posix.split "echo 'a b' \"c\"d | wc".toList =
    some [.word "echo".toList, .word "a b".toList, .word "cd".toList, .operator "|".toList,
      .word "wc".toList] := by decide

example : powerShell.split "Write-Host 'it''s' 'a'\"b\"".toList =
    some ["Write-Host".toList, "it's".toList, "a".toList, "b".toList] := by decide

end ShellWords
