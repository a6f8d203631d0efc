import AscensionWatchdog.Foundation.Binary

/-!
# The grammar of JSON texts

The grammar of RFC 8259 over bytes. A derivation says which byte strings are JSON documents, and
it lists the **number tokens** of the document, in order: a number is a token exactly where the
grammar reads one, so that what looks like a number inside of a string is none.

Inside of strings the bytes above ASCII are free here; a reader that also checks UTF-8 accepts
fewer texts.
-/

namespace Foundation.JsonGrammar

open Foundation.Binary

def isDigit (byte : UInt8) : Bool :=
  0x30 ≤ byte && byte ≤ 0x39

def isHexDigit (byte : UInt8) : Bool :=
  isDigit byte || (0x41 ≤ byte && byte ≤ 0x46) || (0x61 ≤ byte && byte ≤ 0x66)

/-- Space, tab and the ends of a line. -/
def Blank (text : List UInt8) : Prop :=
  ∀ byte ∈ text, byte ∈ [0x20, 0x09, 0x0a, 0x0d]

/-- The characters of a string, between its quotes. -/
inductive Characters : List UInt8 → Prop where
  | nil : Characters []
  | plain {byte : UInt8} {rest : List UInt8} : 0x20 ≤ byte → byte ≠ 0x22 → byte ≠ 0x5c →
      Characters rest → Characters (byte :: rest)
  | escape {byte : UInt8} {rest : List UInt8} : byte ∈ utf8 "\"\\/bfnrt" → Characters rest →
      Characters (0x5c :: byte :: rest)
  | unicode {a b c d : UInt8} {rest : List UInt8} : [a, b, c, d].all isHexDigit → Characters rest →
      Characters (0x5c :: 0x75 :: a :: b :: c :: d :: rest)

def quoted (text : List UInt8) : List UInt8 :=
  0x22 :: text ++ [0x22]

/-- A number: sign, whole part, fraction and exponent. -/
structure Number (sign whole fraction exponent : List UInt8) : Prop where
  sign : sign = [] ∨ sign = [0x2d]
  whole : whole = [0x30] ∨ ∃ first digits, whole = first :: digits ∧
    (0x31 ≤ first ∧ first ≤ 0x39) ∧ digits.all isDigit
  fraction : fraction = [] ∨ ∃ digits, fraction = 0x2e :: digits ∧ digits ≠ [] ∧
    digits.all isDigit
  exponent : exponent = [] ∨ ∃ mark sign digits, exponent = mark :: sign ++ digits ∧
    mark ∈ utf8 "eE" ∧ (sign = [] ∨ sign = [0x2b] ∨ sign = [0x2d]) ∧ digits ≠ [] ∧
    digits.all isDigit

/-- What the grammar derives. A list of elements or of members is not empty. -/
inductive Symbol where
  | value
  | element
  | member
  | several (item : Symbol)

/-- The text derives from the symbol, with these number tokens. -/
inductive Derives : Symbol → List UInt8 → List (List UInt8) → Prop where
  | literal {text : List UInt8} : text ∈ [utf8 "true", utf8 "false", utf8 "null"] →
      Derives .value text []
  | string {text : List UInt8} : Characters text → Derives .value (quoted text) []
  | number {sign whole fraction exponent : List UInt8} : Number sign whole fraction exponent →
      Derives .value (sign ++ whole ++ fraction ++ exponent)
        [sign ++ whole ++ fraction ++ exponent]
  | emptyArray {blank : List UInt8} : Blank blank → Derives .value (0x5b :: blank ++ [0x5d]) []
  | array {text : List UInt8} {numbers : List (List UInt8)} :
      Derives (.several .element) text numbers → Derives .value (0x5b :: text ++ [0x5d]) numbers
  | emptyObject {blank : List UInt8} : Blank blank → Derives .value (0x7b :: blank ++ [0x7d]) []
  | object {text : List UInt8} {numbers : List (List UInt8)} :
      Derives (.several .member) text numbers → Derives .value (0x7b :: text ++ [0x7d]) numbers
  | element {before text after : List UInt8} {numbers : List (List UInt8)} : Blank before →
      Derives .value text numbers → Blank after → Derives .element (before ++ text ++ after) numbers
  | member {before key after text : List UInt8} {numbers : List (List UInt8)} : Blank before →
      Characters key → Blank after → Derives .element text numbers →
      Derives .member (before ++ quoted key ++ after ++ 0x3a :: text) numbers
  | one {item : Symbol} {text : List UInt8} {numbers : List (List UInt8)} :
      Derives item text numbers → Derives (.several item) text numbers
  | more {item : Symbol} {text others : List UInt8} {numbers numbers' : List (List UInt8)} :
      Derives item text numbers → Derives (.several item) others numbers' →
      Derives (.several item) (text ++ 0x2c :: others) (numbers ++ numbers')

/-- A JSON document, with its number tokens. -/
abbrev Document : List UInt8 → List (List UInt8) → Prop :=
  Derives .element

end Foundation.JsonGrammar
