import SuiteCoverage.Shell.Extended.Reading
import SuiteCoverage.Text.Column

/-!
# Choosing one of several items

The items are shown in columns with a number each, and a number is read.
-/

set_option autoImplicit false

namespace SuiteCoverage
namespace Shell
namespace Extended
namespace Choosing

open Effect

/-- The number of columns of a screen, if it is not known. -/
def usualWidth : Nat := 80

/-- Blanks and tabs that lead from one column to another one. -/
def indentTo : Nat → Nat → Nat → String
  | 0, _, _ => ""
  | fuel + 1, start, target =>
    if target ≤ start then ""
    else if start / 8 < target / 8 then "\t" ++ indentTo fuel (start + (8 - start % 8)) target
    else " " ++ indentTo fuel (start + 1) target

/-- A row of a list of items: those from a place on that are a number of items apart. -/
def row (items : List String) (digits firstDigits width step : Nat) :
    Nat → Nat → Nat → String
  | 0, _, _ => "\n"
  | fuel + 1, start, n =>
    let item := items[n]?.getD ""
    let wide := if start = 0 then firstDigits else digits
    let shown := Text.padLeft wide (toString (n + 1)) ++ ") " ++ item
    if items.length ≤ n + step then shown ++ "\n"
    else
      let size := item.length + wide + 2
      shown ++ indentTo width (start + size) (start + width)
        ++ row items digits firstDigits width step fuel (start + width) (n + step)

/-- The number of rows and columns that make up at least a number of items. -/
def divided (a b : Nat) : Nat := (a + b - 1) / b

/-- Items in columns, with their numbers. -/
def listed (screen : Nat) (items : List String) : String :=
  let count := items.length
  let digits := (toString count).length
  let width := (items.map String.length).foldl max 0 + digits + 4
  let columns := max 1 (screen / width)
  let rows := divided count columns
  let columns := divided count rows
  let rows := if rows = 1 then columns else rows
  let firstDigits := (toString rows).length
  String.join ((List.range rows).map fun n =>
    row items digits firstDigits width rows (count + 1) 0 n)

/-- Shows items. -/
def showItems (items : List String) : Effect Unit := do
  let s ← state
  let screen := ((Store.textOf? s "COLUMNS").bind String.toNat?).getD usualWidth
  let _ ← writeTo (s.channelOf 2) (listed (if screen = 0 then usualWidth else screen) items)

/-- The item that a reply chooses; none is if there is no such number. -/
def chosen (items : List String) (reply : String) : String :=
  match Arithmetic.decimal? reply with
  | some n => if 1 ≤ n then (items[n.toNat - 1]?).getD "" else ""
  | none => ""

/-- Asks for one of some items until there is a reply, and gives back which item it chooses; `none`
    if there is no reply any more. The items are shown first if `isShown`. -/
def ask (items : List String) : Nat → Bool → Effect (Option String)
  | 0, _ => return none
  | fuel + 1, isShown => do
    if isShown then showItems items
    let s ← state
    let _ ← writeTo (s.channelOf 2) ((Store.textOf? s "PS3").getD "#? ")
    let stop ← caught (asRunner "select" (Reading.read []))
    match stop with
    | some .failed => setStatus 1
    | stop => stop.forM throw
    let s ← state
    if s.status != 0 then
      say "\n"
      return none
    match Store.textOf? s "REPLY" with
    | none => return none
    | some "" => ask items fuel true
    | some reply => return some (chosen items reply)

end Choosing
end Extended
end Shell
end SuiteCoverage
