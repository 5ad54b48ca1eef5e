/-!
# JSON values

A number is an integer where its text has neither fraction nor exponent and fits 64 bits, and a
64-bit floating-point number otherwise; a 32-bit number only ever arises for writing. Reading a text
puts the members of an object into the order of their keys, one member to a key.
-/

namespace GroundLink

/-- A JSON number. -/
inductive Json.Number where
  | int (n : Int)
  | float (x : Float)
  | single (x : Float32)
deriving DecidableEq, Inhabited

/-- A JSON value. -/
inductive Json where
  | null
  | bool (b : Bool)
  | number (n : Json.Number)
  | string (s : String)
  | array (items : List Json)
  | object (members : List (String × Json))
deriving Inhabited

namespace Json

/-! ### Members -/

/-- The value under a key. -/
def lookup (key : String) : List (String × Json) → Option Json
  | [] => none
  | (k, v) :: rest => if k = key then some v else lookup key rest

/-- Puts a member in its place, over an older one with the same key. -/
def insert (key : String) (value : Json) : List (String × Json) → List (String × Json)
  | [] => [(key, value)]
  | (k, v) :: rest =>
    if key = k then (key, value) :: rest
    else if key < k then (key, value) :: (k, v) :: rest
    else (k, v) :: insert key value rest

@[simp] theorem lookup_nil (key : String) : lookup key [] = none := rfl

@[simp] theorem lookup_insert_self (key : String) (value : Json) (ms : List (String × Json)) :
    lookup key (insert key value ms) = some value := by
  fun_induction insert key value ms with
  | case1 => simp [lookup]
  | case2 => simp [lookup]
  | case3 => simp [lookup]
  | case4 k v rest h _ ih => simp [lookup, Ne.symm h, ih]

theorem lookup_insert_of_ne {key other : String} (h : key ≠ other) (value : Json)
    (ms : List (String × Json)) : lookup other (insert key value ms) = lookup other ms := by
  fun_induction insert key value ms with
  | case1 => simp [lookup, h]
  | case2 => simp [lookup, h]
  | case3 => simp [lookup, h]
  | case4 k v rest _ _ ih => simp [lookup, ih]

/-- What is found is a member. -/
theorem mem_of_lookup {key : String} {value : Json} {ms : List (String × Json)}
    (h : lookup key ms = some value) : (key, value) ∈ ms := by
  fun_induction lookup key ms with
  | case1 => cases h
  | case2 => exact Option.some.inj h ▸ .head _
  | case3 k v rest _ ih => exact .tail _ (ih h)

/-- An integer as a JSON value. -/
def int (n : Int) : Json := .number (.int n)

/-- A natural number as a JSON value. -/
def nat (n : Nat) : Json := .number (.int n)

end Json

end GroundLink
