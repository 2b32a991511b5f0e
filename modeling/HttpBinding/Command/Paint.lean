import HttpBinding.Workspace.File

/-!
Colours on a terminal.
-/
namespace HttpBinding.Command

open Workspace (Environment)

inductive Style where
  | bold
  | dimmed
  | red
  | green
  | yellow
  | blue
  | magenta
deriving Repr, DecidableEq

def Style.code : Style → String
  | bold => "1"
  | dimmed => "2"
  | red => "31"
  | green => "32"
  | yellow => "33"
  | blue => "34"
  | magenta => "35"

def Style.opening (style : Style) : List Char := '\x1b' :: '[' :: style.code.toList ++ ['m']

def closing : List Char := ['\x1b', '[', '0', 'm']

/-- Where a text ends a style, the style is opened again. -/
def reopened (opening : List Char) : List Char → List Char
  | '\x1b' :: '[' :: '0' :: 'm' :: rest => closing ++ opening ++ reopened opening rest
  | c :: rest => c :: reopened opening rest
  | [] => []

def paint (colours : Bool) (style : Style) (text : String) : String :=
  if colours then
    String.ofList (style.opening ++ reopened style.opening text.toList ++ closing)
  else text

/-- A variable can demand colours, and another forbid them; else a terminal shows them
unless they are switched off. -/
def showsColours (environment : Environment) (terminal : Bool) : Bool :=
  if (environment.get? "CLICOLOR_FORCE").any (· ≠ "0") then true
  else
    (environment.get? "NO_COLOR").isNone && terminal
      && (environment.get? "CLICOLOR").all (· ≠ "0")

end HttpBinding.Command
