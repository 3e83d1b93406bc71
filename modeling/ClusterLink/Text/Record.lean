import ClusterLink.Text.Hidden

/-!
# Written records

Parts of the library can be shown to a reader as text: a record is its name and its fields in
braces, a list stands in brackets, a variant is its name with its content in parentheses, and a text
stands in quotes. `Shape` is such a text before it is written, `Shape.render` writes it. A record
that does not show all it holds ends in two dots.

Inside quotes a quote and a backslash are preceded by a backslash, the common controls have their
short forms, and a character without a form of its own is written by its number.
-/

namespace ClusterLink.Text

/-! ## Quoted text -/

/-- The character as it stands inside quotes. -/
def quoteChar (c : Char) : List Char :=
  if c = '"' then ['\\', '"']
  else if c = '\\' then ['\\', '\\']
  else if c = '\t' then ['\\', 't']
  else if c = '\n' then ['\\', 'n']
  else if c = '\r' then ['\\', 'r']
  else if c.toNat = 0 then ['\\', '0']
  else if isHidden c then
    ['\\', 'u', '\x7b'] ++ Nat.toDigits 16 c.toNat ++ ['\x7d']
  else [c]

/-- The text in quotes. -/
def quoted (s : String) : String :=
  String.ofList ('"' :: s.toList.flatMap quoteChar ++ ['"'])

/-! ## Shapes -/

/-- **A text of nested records, before it is written.** -/
inductive Shape where
  | word (text : String)
  | text (content : String)
  | list (items : List Shape)
  | variant (name : String) (content : Shape)
  | record (name : String) (fields : List (String × Shape)) (isPartial : Bool)

namespace Shape

def ofBool (b : Bool) : Shape := .word (if b then "true" else "false")

def ofNat (n : Nat) : Shape := .word (toString n)

def ofOption (x : Option Shape) : Shape :=
  match x with
  | none => .word "None"
  | some s => .variant "Some" s

mutual

/-- **The written text.** -/
def render : Shape → String
  | .word t => t
  | .text content => quoted content
  | .list items => "[" ++ ", ".intercalate (renderAll items) ++ "]"
  | .variant name content => name ++ "(" ++ content.render ++ ")"
  | .record name fields isPartial =>
    name ++ " \x7b " ++ ", ".intercalate (renderFields fields ++ (if isPartial then [".."] else []))
      ++ " \x7d"

/-- The written items of a list. -/
def renderAll : List Shape → List String
  | [] => []
  | s :: rest => s.render :: renderAll rest

/-- The written fields of a record. -/
def renderFields : List (String × Shape) → List String
  | [] => []
  | (name, s) :: rest => (name ++ ": " ++ s.render) :: renderFields rest

end

end Shape

end ClusterLink.Text
