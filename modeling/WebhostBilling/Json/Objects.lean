import WebhostBilling.Json.Value

/-!
# Reading objects

The parts of a JSON value, when it has the type that a program looks for.  An object that is read as
a record has exactly the keys of the record; its members may come in any order.
-/

namespace Json

namespace Value

variable {ν : Type}

def text? : Value ν → Option Text
  | string s => some s
  | _ => none

theorem text?_eq_some {v : Value ν} {t : Text} : v.text? = some t ↔ v = string t := by
  cases v <;> simp [text?]

def bool? : Value ν → Option Bool
  | bool b => some b
  | _ => none

def number? : Value ν → Option ν
  | number n => some n
  | _ => none

def items? : Value ν → Option (List (Value ν))
  | array items => some items
  | _ => none

def member (v : Value ν) (key : Text) : Option (Value ν) :=
  match v with
  | object members => members.lookup key
  | _ => none

def hasKeys (v : Value ν) (keys : List Text) : Bool :=
  match v with
  | object members =>
    members.length = keys.length ∧ ∀ key ∈ keys, (members.lookup key).isSome = true
  | _ => false

end Value

end Json
