import GeneratorPi.Lib.PyRepr
import Mathlib.Data.Rat.Floor

/-!
# Decoded JSON in Python

The values `json.loads` makes, and what the operations of the language do with one whose shape is
not known: each of them raises on the shapes it does not apply to (`Except PyError`).
-/

namespace PyJson

open PyText

/-! ## Exceptions -/

/-- The classes of exceptions that programs tell apart; `os` is `OSError` with its subclasses. -/
inductive ErrorKind where
  | attribute
  | compile
  | key
  | os
  | overflow
  | recursion
  | type
  | value
  | other
  deriving DecidableEq, Repr

/-- An exception, with the text `str` makes of it. -/
structure PyError where
  kind : ErrorKind
  message : String
  deriving DecidableEq, Repr

/-- `str(n)`, which refuses integers of too many digits. -/
def intText (n : ℤ) : Except PyError String :=
  if (toString n.natAbs).length ≤ intMaxStrDigits then .ok (toString n)
  else .error ⟨.value, s!"Exceeds the limit ({intMaxStrDigits} digits) for integer string " ++
    "conversion; use sys.set_int_max_str_digits() to increase the limit"⟩

/-! ## Values -/

/-- What `int` and `bool` make of a float. -/
inductive FloatValue where
  | finite (value : ℚ)
  | infinite
  | nan

inductive Json where
  | null
  | bool (b : Bool)
  | int (n : ℤ)
  | float (value : FloatValue) (repr : Text)
  | str (s : Text)
  | list (items : List Json)
  | dict (entries : List (Text × Json))

namespace Json

/-- `type(j).__name__`. -/
def typeName : Json → String
  | .null => "NoneType"
  | .bool _ => "bool"
  | .int _ => "int"
  | .float _ _ => "float"
  | .str _ => "str"
  | .list _ => "list"
  | .dict _ => "dict"

/-- `bool(j)`. -/
def truthy : Json → Bool
  | .null => false
  | .bool b => b
  | .int n => n ≠ 0
  | .float (.finite q) _ => q ≠ 0
  | .float _ _ => true
  | .str s => !s.isEmpty
  | .list items => !items.isEmpty
  | .dict entries => !entries.isEmpty

/-- `j or d`. -/
def orElse (j d : Json) : Json := if j.truthy then j else d

/-! ### Text -/

def commaSeparated (texts : List Text) : Text := [',', ' '].intercalate texts

mutual

/-- `repr(j)`. -/
def repr (P : Printable) : Json → Text
  | .null => "None".toList
  | .bool b => (if b then "True" else "False").toList
  | .int n => (toString n).toList
  | .float _ r => r
  | .str s => PyText.repr P s
  | .list items => '[' :: commaSeparated (reprItems P items) ++ [']']
  | .dict entries => '{' :: commaSeparated (reprEntries P entries) ++ ['}']

def reprItems (P : Printable) : List Json → List Text
  | [] => []
  | j :: items => repr P j :: reprItems P items

def reprEntries (P : Printable) : List (Text × Json) → List Text
  | [] => []
  | (key, j) :: entries => (PyText.repr P key ++ [':', ' '] ++ repr P j) :: reprEntries P entries

end

/-- `str(j)`. -/
def text (P : Printable) : Json → Text
  | .str s => s
  | j => repr P j

/-! ### Operations -/

/-- `j.name` of an attribute the value does not have. -/
def noAttribute (j : Json) (name : String) : PyError :=
  ⟨.attribute, s!"'{j.typeName}' object has no attribute '{name}'"⟩

/-- `j.get(key, default)`. -/
def get (j : Json) (key : String) (default : Json) : Except PyError Json :=
  match j with
  | .dict entries => .ok ((entries.lookup key.toList).getD default)
  | j => .error (j.noAttribute "get")

/-- `j[key]`. -/
def item (j : Json) (key : String) : Except PyError Json :=
  match j with
  | .dict entries =>
      match entries.lookup key.toList with
      | some value => .ok value
      | none => .error ⟨.key, s!"'{key}'"⟩
  | .str _ => .error ⟨.type, "string indices must be integers, not 'str'"⟩
  | .list _ => .error ⟨.type, "list indices must be integers or slices, not str"⟩
  | j => .error ⟨.type, s!"'{j.typeName}' object is not subscriptable"⟩

/-- What `for x in j` runs over. -/
def iter (j : Json) : Except PyError (List Json) :=
  match j with
  | .list items => .ok items
  | .dict entries => .ok (entries.map fun entry => .str entry.1)
  | .str s => .ok (s.map fun c => .str [c])
  | j => .error ⟨.type, s!"'{j.typeName}' object is not iterable"⟩

/-- `len(j)`. -/
def len (j : Json) : Except PyError ℕ :=
  match j with
  | .list items => .ok items.length
  | .dict entries => .ok entries.length
  | .str s => .ok s.length
  | j => .error ⟨.type, s!"object of type '{j.typeName}' has no len()"⟩

/-- `int(j)`. -/
def toInt (P : Printable) (j : Json) : Except PyError ℤ :=
  match j with
  | .bool b => .ok (if b then 1 else 0)
  | .int n => .ok n
  | .float (.finite q) _ => .ok (if 0 ≤ q then ⌊q⌋ else ⌈q⌉)
  | .float .infinite _ => .error ⟨.overflow, "cannot convert float infinity to integer"⟩
  | .float .nan _ => .error ⟨.value, "cannot convert float NaN to integer"⟩
  | .str s =>
      match int? intMaxStrDigits s with
      | some n => .ok n
      | none => .error ⟨.value, "invalid literal for int() with base 10: " ++
          String.ofList (PyText.repr P s)⟩
  | j => .error ⟨.type, "int() argument must be a string, a bytes-like object or a real number, " ++
      s!"not '{j.typeName}'"⟩

/-- `j[:n]`. -/
def firstN (j : Json) (n : ℕ) : Except PyError Json :=
  match j with
  | .str s => .ok (.str (s.take n))
  | .list items => .ok (.list (items.take n))
  | .dict _ => .error ⟨.type, "unhashable type: 'slice'"⟩
  | j => .error ⟨.type, s!"'{j.typeName}' object is not subscriptable"⟩

/-- The text of a value that is used as one: `missing` is what is raised on any other. -/
def asText (j : Json) (missing : PyError) : Except PyError Text :=
  match j with
  | .str s => .ok s
  | _ => .error missing

theorem get_eq_ok {j default value : Json} {key : String} :
    j.get key default = .ok value ↔
      ∃ entries, j = .dict entries ∧ (entries.lookup key.toList).getD default = value := by
  cases j <;> simp [get]

theorem asText_eq_ok {j : Json} {missing : PyError} {s : Text} :
    j.asText missing = .ok s ↔ j = .str s := by
  cases j <;> simp [asText]

/-- `j == s` for a text. -/
def isText (j : Json) (s : Text) : Bool :=
  match j with
  | .str t => t = s
  | _ => false

end Json

end PyJson
