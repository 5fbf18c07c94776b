import MobileSchema.Template.Filter.Basic

/-!
# Objects as JSON documents

Texts, numbers, truth values, lists and tables as a JSON document that is safe in a page.  The
entries of tables come in the order of their keys, and all characters that are not plain are written
by their numbers.
-/

namespace MobileSchema.Template

/-! ### Texts -/

/-- A number of sixteen bits behind a backslash. -/
def unitEscape (n : Nat) : List Char := '\\' :: 'u' :: hexDigits 4 n

/-- A character inside a text of a document. -/
def jsonChar (c : Char) : List Char :=
  match c with
  | '"' => ['\\', '"']
  | '\\' => ['\\', '\\']
  | '\n' => ['\\', 'n']
  | '\r' => ['\\', 'r']
  | '\t' => ['\\', 't']
  | '\x0c' => ['\\', 'f']
  | '\x08' => ['\\', 'b']
  | c =>
    let n := c.toNat
    if "<>&'".toList.contains c then unitEscape n
    else if 32 ≤ n && n < 127 then [c]
    else if n < 0x10000 then unitEscape n
    else unitEscape (0xd800 + (n - 0x10000) / 0x400) ++ unitEscape (0xdc00 + (n - 0x10000) % 0x400)

/-- A text of a document. -/
def jsonText (s : String) : String := "\"" ++ String.ofList (s.toList.flatMap jsonChar) ++ "\""

/-- A fraction of a document. -/
def jsonFraction (x : Float) : String :=
  if x.isNaN then "NaN" else if x.isInf then (if x < 0 then "-Infinity" else "Infinity")
  else floatText x

/-! ### Documents -/

/-- The name of an entry. -/
def jsonKey (key : Object) : Act String := do
  match key, ← textIn? key with
  | _, some s => return s
  | .none, none => return "null"
  | .bool b, none => return if b then "true" else "false"
  | .number n, none => numberText n
  | .fraction x, none => return jsonFraction x
  | key, none => refuse (.notJsonKey (← typeOf key))

/-- The parts of a list or a table, on lines of their own if there is a margin for each step. -/
def jsonParts (step : Option String) (level : Nat) (opening closing : String)
    (parts : List String) : String :=
  if parts = [] then opening ++ closing
  else match step with
    | none => opening ++ ", ".intercalate parts ++ closing
    | some step =>
      let line (level : Nat) : String := "\n" ++ String.join (List.replicate level step)
      opening ++ line (level + 1) ++ ("," ++ line (level + 1)).intercalate parts ++ line level ++
        closing

/-- An object as a part of a document, at a bound on the depth of holding; `lists` and `dicts` are
those that hold it. -/
def jsonAt (step : Option String) (lists : List ListRef) (dicts : List Nat) (level : Nat) :
    Nat → Object → Act String
  | 0, _ => throw .endless
  | depth + 1, o => do
    match o, ← textIn? o, o.tuple? with
    | _, some s, _ => return jsonText s
    | .none, _, _ => return "null"
    | .bool b, _, _ => return if b then "true" else "false"
    | .number n, _, _ => numberText n
    | .fraction x, _, _ => return jsonFraction x
    | .list r, _, _ =>
      if lists.contains r then refuse .endlessJson
      let items ← (← contents r).mapM (jsonAt step (r :: lists) dicts (level + 1) depth)
      return jsonParts step level "[" "]" items
    | .dict i, _, _ =>
      if dicts.contains i then refuse .endlessJson
      let isBefore (a b : Object × Object) : Act Bool :=
        isInOrder .less (.tuple [a.1, a.2]) (.tuple [b.1, b.2])
      let entries ← (← sortItems isBefore (← entriesOf i)).mapM fun (key, value) => do
        let name := jsonText (← jsonKey key)
        return name ++ ": " ++ (← jsonAt step lists (i :: dicts) (level + 1) depth value)
      return jsonParts step level "\x7b" "\x7d" entries
    | _, none, some items =>
      let items ← items.mapM (jsonAt step lists dicts (level + 1) depth)
      return jsonParts step level "[" "]" items
    | o, none, none => refuse (.notJson (← typeOf o))

/-- An object as a document; an indent is a text or a number of spaces. -/
def jsonFilter : Filter :=
  .atDesk "do_tojson" "eval_ctx" "value" ["indent"] fun _ o b => do
    let step ← match b.find "indent" with
      | .none => pure none
      | indent =>
        match ← textIn? indent with
        | some s => pure (some s)
        | none => do pure ((← operate .multiply (.text " ") indent).text?)
    return .markup (← jsonAt step [] [] 0 holdingLimit o)

end MobileSchema.Template
