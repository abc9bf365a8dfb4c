/-
Daybook.Machine.Script — small shell scripts.

A script is a row of commands, one on a line. A machine in memory knows
three: `echo`, `exit`, and the comparison of two words in brackets. In a word
`$1` stands for the argument of the script, unless it is in single quotes.
-/
import Daybook.Text.Blank
import Daybook.Text.Cut
import Daybook.Text.Number

namespace Daybook.Machine

/-- How the characters of a word are read. -/
inductive Quote where
  | none
  | single
  | double
deriving DecidableEq, Repr

/-- Splits a line into words. `word` is the word so far, if one was begun. -/
def wordsFrom (argument : List Char) (quote : Quote) (word : Option (List Char)) :
    List Char → List (List Char)
  | [] => word.toList
  | [c] => if quote = .none ∧ c = ' ' then word.toList
      else if (quote ≠ .single ∧ c = '"') ∨ (quote ≠ .double ∧ c = '\'') then [word.getD []]
      else [word.getD [] ++ [c]]
  | c :: d :: rest =>
    if quote = .none ∧ c = ' ' then word.toList ++ wordsFrom argument .none none (d :: rest)
    else if quote ≠ .single ∧ c = '"' then
      wordsFrom argument (if quote = .double then .none else .double) (some (word.getD []))
        (d :: rest)
    else if quote ≠ .double ∧ c = '\'' then
      wordsFrom argument (if quote = .single then .none else .single) (some (word.getD []))
        (d :: rest)
    else if quote ≠ .single ∧ c = '$' ∧ d = '1' then
      wordsFrom argument quote (some (word.getD [] ++ argument)) rest
    else wordsFrom argument quote (some (word.getD [] ++ [c])) (d :: rest)

/-- What is known while a script runs. -/
structure Shell where
  output : String
  /-- The exit code of the last command. -/
  status : Nat
deriving DecidableEq, Repr

/-- One command. The reply tells whether the script goes on. -/
def Shell.step (shell : Shell) (words : List String) : Shell × Bool :=
  match words with
  | [] => (shell, true)
  | "exit" :: code :: _ =>
    ({ shell with status := Text.valueOfDigits code.toList % 256 }, false)
  | ["exit"] => (shell, false)
  | "echo" :: more => (⟨shell.output ++ String.intercalate " " more ++ "\n", 0⟩, true)
  | ["[", a, "=", b, "]"] => ({ shell with status := if a = b then 0 else 1 }, true)
  | _ => ({ shell with status := 127 }, true)

/-- Runs commands until one of them ends the script. -/
def Shell.run (shell : Shell) : List (List String) → Shell
  | [] => shell
  | words :: more =>
    match shell.step words with
    | (shell, true) => shell.run more
    | (shell, false) => shell

/-- The words of a script's lines. A line that starts with `#` says nothing
to the shell. -/
def commandsOf (text argument : String) : List (List String) :=
  ((Text.pieces '\n' text.toList).filter (·.head? != some '#')).map fun line =>
    (wordsFrom argument.toList .none none line).map .ofList

/-- What a script puts out, and its exit code. -/
def runScript (text argument : String) : Shell :=
  Shell.run ⟨"", 0⟩ (commandsOf text argument)

example : runScript "#!/bin/sh\necho \"editing $1\"\nexit 4\n" "a b" = ⟨"editing a b\n", 4⟩ := by
  decide +kernel

example : (runScript "[ \"$1\" = vim ]" "vi").status = 1 := by decide +kernel

end Daybook.Machine
