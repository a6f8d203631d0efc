import Mathlib.Data.List.Basic

/-!
# JSON values and their compact text

A JSON value is a tree; its **compact text** is the one a serializer without whitespace writes.
Objects keep their fields in the order in which they are written, so the text is a function of
the tree. A number is kept as the lexeme that is written for it: no statement here depends on
the numeric value behind a lexeme.

Strings are written between quotes with the short escapes of JSON for the quote, the backslash
and the five named control characters, `\u00XX` for the other control characters below `U+0020`,
and every other character as it is.

`Value.render` is defined on characters, by structural recursion, so that the text of a concrete
value is computed by the kernel.
-/

namespace Foundation.Json

mutual

/-- A JSON value. -/
inductive Value where
  | null
  | bool (b : Bool)
  | number (lexeme : String)
  | string (s : String)
  | array (items : Items)
  | object (fields : Fields)
  deriving DecidableEq, Repr

/-- The elements of an array, in order. -/
inductive Items where
  | nil
  | cons (v : Value) (rest : Items)
  deriving DecidableEq, Repr

/-- The fields of an object, in the order in which they are written. -/
inductive Fields where
  | nil
  | cons (key : String) (v : Value) (rest : Fields)
  deriving DecidableEq, Repr

end

/-- The fields of an object given as a list of pairs. -/
def Fields.ofList : List (String × Value) → Fields
  | [] => .nil
  | (key, v) :: rest => .cons key v (Fields.ofList rest)

/-- The elements of an array given as a list. -/
def Items.ofList : List Value → Items
  | [] => .nil
  | v :: rest => .cons v (Items.ofList rest)

/-- The value of the field `key`, if the object has it. -/
def Fields.get? (key : String) : Fields → Option Value
  | .nil => none
  | .cons k v rest => if k = key then some v else rest.get? key

/-- The object with the given fields. -/
def Value.ofFields (fields : List (String × Value)) : Value :=
  .object (Fields.ofList fields)

/-- The array with the given elements. -/
def Value.ofItems (items : List Value) : Value :=
  .array (Items.ofList items)

/-- The number written as the decimal digits of `n`. -/
def Value.ofNat (n : Nat) : Value :=
  .number (toString n)

/-- Field access: `none` when the value is not an object or lacks the field. -/
def Value.get? (v : Value) (key : String) : Option Value :=
  match v with
  | .object fields => fields.get? key
  | _ => none

/-- The text of a string value. -/
def Value.asStr? : Value → Option String
  | .string s => some s
  | _ => none

/-- The truth value of a boolean. -/
def Value.asBool? : Value → Option Bool
  | .bool b => some b
  | _ => none

/-- The fields of an object. -/
def Value.asObject? : Value → Option Fields
  | .object fields => some fields
  | _ => none

/-- The keys of an object, in order. -/
def Fields.keys : Fields → List String
  | .nil => []
  | .cons key _ rest => key :: rest.keys

/-! ### Compact text -/

/-- The lowercase hexadecimal digit of `n < 16`. -/
def hexDigitChar (n : Nat) : Char :=
  if n < 10 then Char.ofNat (48 + n) else Char.ofNat (87 + n)

/-- One character of a string literal. -/
def escapeChar (c : Char) : List Char :=
  if c.toNat = 0x22 then ['\\', '\x22']
  else if c = '\\' then ['\\', '\\']
  else if c.toNat = 0x08 then ['\\', 'b']
  else if c.toNat = 0x09 then ['\\', 't']
  else if c.toNat = 0x0a then ['\\', 'n']
  else if c.toNat = 0x0c then ['\\', 'f']
  else if c.toNat = 0x0d then ['\\', 'r']
  else if c.toNat < 0x20 then
    ['\\', 'u', '0', '0', hexDigitChar (c.toNat / 16), hexDigitChar (c.toNat % 16)]
  else [c]

/-- A string literal: the escaped characters between quotes. -/
def stringChars (s : String) : List Char :=
  '\x22' :: (s.toList.flatMap escapeChar ++ ['\x22'])

mutual

/-- The compact text of a value, as characters. -/
def Value.chars : Value → List Char
  | .null => "null".toList
  | .bool b => (if b then "true" else "false").toList
  | .number lexeme => lexeme.toList
  | .string s => stringChars s
  | .array items => '[' :: (items.chars ++ [']'])
  | .object fields => '\x7b' :: (fields.chars ++ ['\x7d'])

/-- The elements of an array, separated by commas. -/
def Items.chars : Items → List Char
  | .nil => []
  | .cons v .nil => v.chars
  | .cons v (.cons w rest) => v.chars ++ ',' :: (Items.cons w rest).chars

/-- The fields of an object, separated by commas. -/
def Fields.chars : Fields → List Char
  | .nil => []
  | .cons key v .nil => stringChars key ++ ':' :: v.chars
  | .cons key v (.cons key' w rest) =>
    stringChars key ++ ':' :: (v.chars ++ ',' :: (Fields.cons key' w rest).chars)

end

/-- The compact text of a value. -/
def Value.render (v : Value) : String :=
  String.ofList v.chars

example : (Value.ofFields []).render = "\x7b\x7d" := by decide

/-! ### Indented text -/

/-- A new line at a nesting depth, of two blanks each. -/
def newline (depth : Nat) : List Char :=
  '\n' :: List.replicate (2 * depth) ' '

mutual

/-- The text of a value with a line for every element and every field, as characters. -/
def Value.prettyChars (depth : Nat) : Value → List Char
  | .array (.cons v rest) =>
    '[' :: (newline (depth + 1) ++ ((Items.cons v rest).prettyChars (depth + 1) ++
      (newline depth ++ [']'])))
  | .object (.cons key v rest) =>
    '\x7b' :: (newline (depth + 1) ++ ((Fields.cons key v rest).prettyChars (depth + 1) ++
      (newline depth ++ ['\x7d'])))
  | v => v.chars

/-- The elements of an array, a line for each. -/
def Items.prettyChars (depth : Nat) : Items → List Char
  | .nil => []
  | .cons v .nil => v.prettyChars depth
  | .cons v (.cons w rest) =>
    v.prettyChars depth ++ ',' :: (newline depth ++ (Items.cons w rest).prettyChars depth)

/-- The fields of an object, a line for each. -/
def Fields.prettyChars (depth : Nat) : Fields → List Char
  | .nil => []
  | .cons key v .nil => stringChars key ++ ':' :: ' ' :: v.prettyChars depth
  | .cons key v (.cons key' w rest) =>
    stringChars key ++ ':' :: ' ' :: (v.prettyChars depth ++
      ',' :: (newline depth ++ (Fields.cons key' w rest).prettyChars depth))

end

/-- The text of a value with a line for every element and every field. -/
def Value.pretty (v : Value) : String :=
  String.ofList (v.prettyChars 0)

example : (Value.ofItems [.null, .ofFields [("a", .bool true)]]).pretty =
    "[\n  null,\n  \x7b\n    \x22a\x22: true\n  \x7d\n]" := by decide +kernel

mutual

/-- How deeply arrays and objects are nested in a value. -/
def Value.depth : Value → Nat
  | .array items => items.depth + 1
  | .object fields => fields.depth + 1
  | _ => 0

/-- The nesting below the elements of an array. -/
def Items.depth : Items → Nat
  | .nil => 0
  | .cons v rest => max v.depth rest.depth

/-- The nesting below the fields of an object. -/
def Fields.depth : Fields → Nat
  | .nil => 0
  | .cons _ v rest => max v.depth rest.depth

end

end Foundation.Json
