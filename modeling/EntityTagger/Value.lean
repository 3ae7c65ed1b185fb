import EntityTagger.Json

/-!
Dynamic values: what callers pass where any kind of value may stand, and what configuration files
hold. Numbers of different kinds that are equal are one key of a dictionary.
-/

namespace EntityTagger

inductive Value
  | none
  | bool (value : Bool)
  | int (value : Int)
  | float (value : Double)
  | str (value : Text)
  | bytes (value : List UInt8)
  | list (items : List Value)
  | tuple (items : List Value)
  | set (items : List Value)
  | dict (entries : List (Value × Value))
  | date (written : Text)
deriving Inhabited

namespace Value

def typeName : Value → Text
  | .none => text "NoneType"
  | .bool _ => text "bool"
  | .int _ => text "int"
  | .float _ => text "float"
  | .str _ => text "str"
  | .bytes _ => text "bytes"
  | .list _ => text "list"
  | .tuple _ => text "tuple"
  | .set _ => text "set"
  | .dict _ => text "dict"
  | .date _ => text "date"

/-- Nothing, zero and all that is empty do not hold. -/
def holds : Value → Bool
  | .none => false
  | .bool value => value
  | .int value => value != 0
  | .float value => !value.beqValue (Format.double.zero false)
  | .str value => !value.isEmpty
  | .bytes value => !value.isEmpty
  | .list items => !items.isEmpty
  | .tuple items => !items.isEmpty
  | .set items => !items.isEmpty
  | .dict entries => !entries.isEmpty
  | .date _ => true

/-- A number that is equal to an integer, as that integer. -/
def integral? : Value → Option Int
  | .bool value => some (if value then 1 else 0)
  | .int value => some value
  | .float value => value.integer?
  | _ => Option.none

mutual

/-- Whether a value can be a key: no part of it can be changed. -/
def isKey : Value → Bool
  | .list _ => false
  | .set _ => false
  | .dict _ => false
  | .tuple items => areKeys items
  | _ => true

def areKeys : List Value → Bool
  | [] => true
  | item :: rest => isKey item && areKeys rest

end

mutual

/-- Whether two values are one key: numbers are compared across their kinds. -/
def sameKey : Value → Value → Bool
  | .none, .none => true
  | .str a, .str b => a == b
  | .bytes a, .bytes b => a == b
  | .date a, .date b => a == b
  | .tuple a, .tuple b => sameKeys a b
  | .float a, .float b => a.beqValue b
  | a, b =>
    match a.integral?, b.integral? with
    | some m, some n => m == n
    | _, _ => false

def sameKeys : List Value → List Value → Bool
  | [], [] => true
  | a :: as, b :: bs => sameKey a b && sameKeys as bs
  | _, _ => false

end

/-- What a value consists of, if it can be gone through: of a dictionary the keys, of a text its
characters, of bytes their numbers. -/
def members? : Value → Option (List Value)
  | .list items => some items
  | .tuple items => some items
  | .set items => some items
  | .dict entries => some (entries.map (·.1))
  | .str value => some (value.map fun c => .str [c])
  | .bytes value => some (value.map fun b => .int b.toNat)
  | _ => Option.none

/-- Assigns to a key: in its place, and with its first spelling, if it is present, at the end
otherwise. -/
def putEntry (key value : Value) : List (Value × Value) → List (Value × Value)
  | [] => [(key, value)]
  | (k, v) :: rest =>
    if sameKey k key then (k, value) :: rest else (k, v) :: putEntry key value rest

/-- The entries of a dictionary that is filled pair by pair; `none` if one of the keys cannot be
one. -/
def entriesOf? (pairs : List (Value × Value)) : Option (List (Value × Value)) :=
  if pairs.all fun pair => isKey pair.1 then
    some (pairs.foldl (fun entries pair => putEntry pair.1 pair.2 entries) [])
  else Option.none

def entry? (name : Text) : List (Value × Value) → Option Value
  | [] => Option.none
  | (.str key, value) :: rest => if key = name then some value else entry? name rest
  | _ :: rest => entry? name rest

mutual

def ofJson : Json → Value
  | .null => .none
  | .bool value => .bool value
  | .int value => .int value
  | .float value => .float value
  | .str value => .str value
  | .arr items => .list (ofItems items)
  | .obj members => .dict (ofMembers members)

def ofItems : List Json → List Value
  | [] => []
  | item :: rest => ofJson item :: ofItems rest

def ofMembers : List (Text × Json) → List (Value × Value)
  | [] => []
  | (name, value) :: rest => (.str name, ofJson value) :: ofMembers rest

end

end Value

end EntityTagger
