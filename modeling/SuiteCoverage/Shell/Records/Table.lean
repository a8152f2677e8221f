import SuiteCoverage.Shell.Records.Value

/-!
# Tables

A table holds values by their keys. Keys are texts; a whole number is the same key as its digits.
The order in which keys are gone through follows from how they are chained: keys with the same last
bits of their hash values are in one chain, and a key that is looked up comes to the front of its
chain. As long as a table has been used with numbers only, its chains are made by the numbers.
-/

set_option autoImplicit false

namespace SuiteCoverage
namespace Shell
namespace Records

/-- An entry of a table. -/
structure Item where
  key : String
  value : Value
  /-- Whether it has been looked up by a number. -/
  isNumbered : Bool
deriving Inhabited

/-- What a table holds. -/
inductive Store where
  | empty
  /-- Values for the numbers from one on. -/
  | sequence (values : Array Value)
  /-- Chains by numbers. -/
  | numbers (chains : Array (List (Int × Value)))
  /-- Chains by texts. -/
  | texts (chains : Array (List Item))
deriving Inhabited

/-- A table. -/
structure Table where
  store : Store
  size : Nat
deriving Inhabited

/-- A key: a whole number or a text. -/
inductive Key where
  | number (n : Int)
  | text (text : String)

namespace Table

/-- The table without entries. -/
def empty : Table := ⟨.empty, 0⟩

/-- How many chains there are at first. -/
def chainsAtFirst : Nat := 64

/-- How many entries a chain has on average before the number of chains is doubled. -/
def chainLength : Nat := 12

/-- The hash value of a text. -/
def hashOf (text : String) : Nat :=
  (text.toList.foldl (fun (h : UInt32) c => (h ^^^ UInt32.ofNat c.toNat) * 16777619)
    2166136261).toNat

/-- The chain that a text belongs to among some. -/
def chainOf (count : Nat) (text : String) : Nat := hashOf text % count

/-- The chain that a number belongs to among some. -/
def chainOfNumber (count : Nat) (n : Int) : Nat := (n % (count : Int)).toNat

/-- Chains of numbers for the values of a sequence. -/
def chained (values : Array Value) : Array (List (Int × Value)) :=
  let rec grow : Nat → Nat → Nat
    | 0, count => count
    | fuel + 1, count => if count * chainLength < values.size then grow fuel (2 * count) else count
  let count := grow 64 chainsAtFirst
  (values.toList.zipIdx).foldl
    (fun chains entry =>
      chains.modify ((entry.2 + 1) % count) fun chain => ((entry.2 + 1 : Nat), entry.1) :: chain)
    (Array.replicate count [])

/-- Chains of texts for chains of numbers. -/
def named (chains : Array (List (Int × Value))) : Array (List Item) :=
  chains.foldl
    (fun made chain =>
      chain.foldl
        (fun made entry =>
          let key := toString entry.1
          made.modify (chainOf chains.size key) fun items => ⟨key, entry.2, true⟩ :: items)
        made)
    (Array.replicate chains.size [])

/-- Twice as many chains, in which entries keep their order. -/
def doubled {α : Type} (place : Nat → α → Nat) (chains : Array (List α)) : Array (List α) :=
  let count := 2 * chains.size
  (Array.range count).map fun n =>
    ((chains[n % chains.size]?).getD []).filter fun item => place count item == n

/-- The chains of a table by numbers, if it has been used with numbers only. -/
def numberChains? (t : Table) : Option (Array (List (Int × Value))) :=
  match t.store with
  | .empty => some (Array.replicate chainsAtFirst [])
  | .sequence values => some (chained values)
  | .numbers chains => some chains
  | .texts _ => none

/-- The chains of a table by texts. -/
def textChains (t : Table) : Array (List Item) :=
  match t.store with
  | .texts chains => chains
  | _ => named ((t.numberChains?).getD #[])

/-- What is found in a chain of numbers, and the chain with it at the front. -/
def pickNumber (n : Int) (chain : List (Int × Value)) : Option (Value × List (Int × Value)) :=
  (chain.find? fun entry => entry.1 == n).map fun entry =>
    (entry.2, entry :: chain.filter fun other => other.1 != n)

/-- What is found in a chain of texts, and the chain with it at the front. -/
def pickText (key : String) (chain : List Item) : Option (Item × List Item) :=
  (chain.find? fun item => item.key == key).map fun item =>
    (item, item :: chain.filter fun other => other.key != key)

/-- The value of a text, and the table after it has been looked up; a new entry is made for it if
    that is asked for. -/
def findText (t : Table) (key : String) (creates byNumber : Bool) : Option Value × Table :=
  let chains := t.textChains
  let place := chainOf chains.size key
  let chain := (chains[place]?).getD []
  match pickText key chain with
  | some (item, front) =>
    let isKept := byNumber && item.isNumbered
    let item := { item with isNumbered := item.isNumbered || byNumber }
    let chain := if isKept then chain else item :: front.drop 1
    (some item.value, { t with store := .texts (chains.set! place chain) })
  | none =>
    if !creates then (none, { t with store := .texts chains })
    else
      let isFull := chains.size * chainLength < t.size + 1
      let chains := if isFull then doubled (fun count item => chainOf count item.key) chains
        else chains
      let place := chainOf chains.size key
      let chains := chains.modify place fun chain => ⟨key, .nothing, byNumber⟩ :: chain
      (some .nothing, ⟨.texts chains, t.size + 1⟩)

/-- The value of a number, and the table after it has been looked up. -/
def findNumber (t : Table) (n : Int) (creates : Bool) : Option Value × Table :=
  let usual : Unit → Option Value × Table := fun () =>
    match t.numberChains? with
    | none => t.findText (toString n) creates true
    | some chains =>
      let place := chainOfNumber chains.size n
      match pickNumber n ((chains[place]?).getD []) with
      | some (value, chain) => (some value, { t with store := .numbers (chains.set! place chain) })
      | none =>
        if !creates then (none, t)
        else
          let isFull := chains.size * chainLength < t.size + 1
          let chains := if isFull then doubled (fun count entry => chainOfNumber count entry.1) chains
            else chains
          let place := chainOfNumber chains.size n
          (some .nothing,
            ⟨.numbers (chains.modify place fun chain => (n, .nothing) :: chain), t.size + 1⟩)
  match t.store with
  | .sequence values =>
    if 1 ≤ n && n ≤ values.size then (values[(n - 1).toNat]?, t)
    else if !creates then (none, t)
    else usual ()
  | _ => usual ()

/-- The value of a key, and the table after it has been looked up. -/
def find (t : Table) (key : Key) (creates : Bool) : Option Value × Table :=
  if t.size == 0 && !creates then (none, t)
  else
    match key with
    | .number n => t.findNumber n creates
    | .text text => t.findText text creates false

/-- Gives a value to a key that is in the table. -/
def replace (t : Table) (key : Key) (value : Value) : Table :=
  let key := match key with
    | .number n => toString n
    | .text text => text
  match t.store with
  | .empty => t
  | .sequence values =>
    { t with store := .sequence (values.set! ((key.toNat?).getD 0 - 1) value) }
  | .numbers chains =>
    match key.toInt? with
    | none => t
    | some n =>
      let place := chainOfNumber chains.size n
      { t with
        store := .numbers (chains.modify place fun chain =>
          chain.map fun entry => if entry.1 == n then (n, value) else entry) }
  | .texts chains =>
    let place := chainOf chains.size key
    { t with
      store := .texts (chains.modify place fun chain =>
        chain.map fun item => if item.key == key then { item with value } else item) }

/-- Gives a value to a key. -/
def put (t : Table) (key : Key) (value : Value) : Table :=
  (t.find key true).2.replace key value

/-- Takes a key away. -/
def erase (t : Table) (key : Key) : Table :=
  if t.size == 0 then t
  else
    let (found, t) := match t.store, key with
      | .sequence values, .number n =>
        if 1 ≤ n && n ≤ values.size then
          ({ t with store := Store.numbers (chained values) } : Table).find key false
        else (none, t)
      | _, _ => t.find key false
    if found.isNone then t
    else if t.size == 1 then empty
    else
      let store := match t.store, key with
        | .numbers chains, .number n =>
          Store.numbers (chains.modify (chainOfNumber chains.size n) fun chain =>
            chain.filter fun entry => entry.1 != n)
        | .texts chains, key =>
          let text := match key with
            | .number n => toString n
            | .text text => text
          Store.texts (chains.modify (chainOf chains.size text) fun chain =>
            chain.filter fun item => item.key != text)
        | store, _ => store
      ⟨store, t.size - 1⟩

/-- The table with values for the numbers from one on. -/
def ofValues (values : Array Value) : Table :=
  if values.isEmpty then empty else ⟨.sequence values, values.size⟩

/-- The keys in the order in which they are gone through, and the table after that. -/
def keys (t : Table) : List String × Table :=
  if t.size == 0 then ([], t)
  else
    let chains := t.textChains
    (chains.toList.flatMap fun chain => chain.map (·.key), { t with store := .texts chains })

end Table
end Records
end Shell
end SuiteCoverage
