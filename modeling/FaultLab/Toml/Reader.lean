import FaultLab.Document.Reader
import FaultLab.Toml.Scalar

/-! # Reading TOML text

`Toml.read` gives the document of a text in TOML 1.0, or nothing if the text is not well formed.
Lines are read one after the other into a `Draft`: the root table, the table that the last header
opened, and the path of that header.  A table remembers whether it was only mentioned on the way to
another (`implicit`) and whether that was in a dotted key (`dotted`), because both decide what may
still be added to it. -/

namespace FaultLab.Toml

/-- How deep values, and how long keys, may go. -/
def maxDepth : Nat := 80

/-- What a name stands for while the text is read. -/
inductive Item where
  | value (content : Document)
  | table (entries : List (String × Item)) (implicit dotted : Bool)
  | tables (elements : List Item)

namespace Item

/-- A table that nothing has been said about yet. -/
def emptyTable : Item := table [] false false

/-- Replace the entry of a name, or add one at the end. -/
def put (name : String) (item : Item) : List (String × Item) → List (String × Item)
  | [] => [(name, item)]
  | (k, i) :: es => if k = name then (k, item) :: es else (k, i) :: put name item es

/-- Take the entry of a name out. -/
def without (name : String) (es : List (String × Item)) : List (String × Item) :=
  es.filter fun (k, _) => k ≠ name

/-- The entry of a name. -/
def look (name : String) (es : List (String × Item)) : Option Item :=
  (es.find? fun (k, _) => k = name).map Prod.snd

/-- Change the table at the end of a path, making tables that are missing on the way. -/
def descend (dotted : Bool) : List String → Item → (Item → Option Item) → Option Item
  | [], item, f => f item
  | k :: ks, table es implicit isDotted, f =>
    match look k es with
    | none => do
      let child ← descend dotted ks (table [] true dotted) f
      return table (put k child es) implicit isDotted
    | some (value _) => none
    | some (tables elements) =>
      match elements.reverse with
      | [] => none
      | last :: before => do
        let child ← descend dotted ks last f
        return table (put k (tables (child :: before).reverse) es) implicit isDotted
    | some (table es' implicit' dotted') =>
      if dotted && !implicit' then none
      else do
        let child ← descend dotted ks (table es' implicit' dotted') f
        return table (put k child es) implicit isDotted
  | _ :: _, _, _ => none

/-- The entry of a name in a table. -/
def entry? (name : String) : Item → Option Item
  | table es _ _ => look name es
  | _ => none

/-- The table that a name leads to; an array leads to its last element. -/
def child? (item : Item) (name : String) : Option Item :=
  match item.entry? name with
  | some (tables elements) => elements.getLast?
  | found => found

/-- Add a value under a dotted key whose last part is `name`. -/
def add (path : List String) (name : String) (content : Document) (root : Item) : Option Item :=
  descend true path root fun
    | table es implicit dotted =>
      if dotted = path.isEmpty ∨ (look name es).isSome then none
      else some (table (es ++ [(name, value content)]) implicit dotted)
    | _ => none

mutual

/-- The document of an item. -/
def toDocument : Item → Document
  | value d => d
  | table es _ _ => .ofEntries (toEntries es)
  | tables is => .ofList (toDocuments is)

/-- The documents of some items. -/
def toDocuments : List Item → List Document
  | [] => []
  | i :: is => toDocument i :: toDocuments is

/-- The documents of named items. -/
def toEntries : List (String × Item) → List (String × Document)
  | [] => []
  | (k, i) :: es => (k, toDocument i) :: toEntries es

end

end Item

/-! ### Keys and values -/

/-- Leave out blanks on the line. -/
def skipBlank (cs : List Char) : List Char := cs.dropWhile fun c => c = ' ' || c = '\t'

/-- Whether a character may stand in a key without quotes. -/
def isBare (c : Char) : Bool := c.isAlphanum || c = '_' || c = '-'

/-- One part of a key. -/
def simpleKey (cs : List Char) : Option (String × List Char) :=
  match cs with
  | '"' :: r => (basic r).map fun (s, r) => (String.ofList s, r)
  | '\x27' :: r => (literal r).map fun (s, r) => (String.ofList s, r)
  | cs =>
    let front := cs.takeWhile isBare
    if front.isEmpty then none else some (String.ofList front, cs.dropWhile isBare)

/-- The parts of a key, with blanks around them. -/
def keyParts : Nat → List Char → Option (List String × List Char)
  | 0, _ => none
  | n + 1, cs => do
    let (k, r) ← simpleKey (skipBlank cs)
    match skipBlank r with
    | '.' :: r => do
      let (ks, r) ← keyParts n r
      return (k :: ks, r)
    | r => return ([k], r)

/-- A key as the path to its last part and that part. -/
def key (cs : List Char) : Option (List String × String × List Char) := do
  let (ks, r) ← keyParts (maxDepth - 1) cs
  match ks.reverse with
  | last :: before => return (before.reverse, last, r)
  | [] => none

/-- Leave out a comment up to the end of its line. -/
def skipComment (cs : List Char) : Option (List Char) :=
  match cs with
  | '#' :: r =>
    match r.dropWhile isShown with
    | [] => some []
    | '\n' :: r => some ('\n' :: r)
    | '\r' :: '\n' :: r => some ('\n' :: r)
    | _ => none
  | r => some r

/-- Leave out blanks, comments and line ends. -/
def skipSpace : Nat → List Char → Option (List Char)
  | 0, cs => some cs
  | n + 1, cs =>
    match skipBlank cs with
    | '\n' :: r => skipSpace n r
    | '\r' :: '\n' :: r => skipSpace n r
    | '#' :: r => do
      let r ← skipComment ('#' :: r)
      skipSpace n r
    | r => some r

mutual

/-- Read a value, `depth` levels inside of others. -/
def value : Nat → Nat → List Char → Option (Document × List Char)
  | 0, _, _ => none
  | n + 1, depth, cs =>
    match cs with
    | '[' :: r =>
      if depth + 1 < maxDepth then do
        let (ds, r) ← elements n (depth + 1) r
        return (.ofList ds, r)
      else none
    | '{' :: r =>
      if depth + 1 < maxDepth then
        match skipBlank r with
        | '}' :: r => some (.ofEntries [], r)
        | r => do
          let (item, r) ← pairs n (depth + 1) Item.emptyTable r
          return (item.toDocument, r)
      else none
    | c :: r =>
      if c = '"' ∨ c = '\x27' then (quoted (c :: r)).map fun (s, r) => (.text (String.ofList s), r)
      else
        let (front, rest) := token (c :: r)
        (scalar front).map fun d => (d, rest)
    | [] => none

/-- Read the elements of an array up to its end. -/
def elements : Nat → Nat → List Char → Option (List Document × List Char)
  | 0, _, _ => none
  | n + 1, depth, cs => do
    match ← skipSpace cs.length cs with
    | ']' :: r => return ([], r)
    | r => do
      let (d, r) ← value n depth r
      match ← skipSpace r.length r with
      | ',' :: r => do
        let (ds, r) ← elements n depth r
        return (d :: ds, r)
      | ']' :: r => return ([d], r)
      | _ => none

/-- Read the pairs of a table on one line up to its end. -/
def pairs : Nat → Nat → Item → List Char → Option (Item × List Char)
  | 0, _, _, _ => none
  | n + 1, depth, table, cs => do
    let (path, name, r) ← key cs
    let r ← mark '=' r
    let (d, r) ← value n depth (skipBlank r)
    let table ← table.add path name d
    match skipBlank r with
    | ',' :: r => pairs n depth table r
    | '}' :: r => return (table, r)
    | _ => none

end

/-! ### Lines -/

/-- What has been read so far. -/
structure Draft where
  root : Item
  /-- The table of the last header. -/
  current : Item
  /-- The path of the last header. -/
  path : List String
  /-- Whether the last header opened a new element of an array. -/
  element : Bool

namespace Draft

/-- Before the first line. -/
def start : Draft := ⟨.emptyTable, .emptyTable, [], false⟩

/-- Put the current table where it belongs. -/
def close (t : Draft) : Option Item :=
  match t.path.reverse with
  | [] => some t.current
  | last :: before =>
    t.root.descend false before.reverse fun
      | .table es implicit dotted =>
        if t.element then
          match Item.look last es with
          | none => some (.table (Item.put last (.tables [t.current]) es) implicit dotted)
          | some (.tables ts) =>
            some (.table (Item.put last (.tables (ts ++ [t.current])) es) implicit dotted)
          | some _ => none
        else some (.table (Item.put last t.current es) implicit dotted)
      | _ => none

/-- Open the table of a header. -/
def openTable (path : List String) (name : String) (t : Draft) : Option Draft := do
  let root ← t.close
  -- make the tables on the way, then look at what the name stands for
  let root ← root.descend false path some
  let parent ← path.foldlM Item.child? root
  match parent.entry? name with
  | none => return ⟨root, .emptyTable, path ++ [name], false⟩
  | some (.table es true false) => do
    let root ← root.descend false path fun
      | .table es implicit dotted => some (.table (Item.without name es) implicit dotted)
      | _ => none
    return ⟨root, .table es false false, path ++ [name], false⟩
  | some _ => none

/-- Open a new element of the array of a header. -/
def openElement (path : List String) (name : String) (t : Draft) : Option Draft := do
  let root ← t.close
  let root ← root.descend false path fun
    | .table es implicit dotted =>
      match Item.look name es with
      | none => some (.table (es ++ [(name, .tables [])]) implicit dotted)
      | some (.tables _) => some (.table es implicit dotted)
      | some _ => none
    | _ => none
  return ⟨root, .emptyTable, path ++ [name], true⟩

end Draft

/-- The end of a line: blanks, perhaps a comment, and a line end or the end of the text. -/
def lineEnd (cs : List Char) : Option (List Char) := do
  match ← skipComment (skipBlank cs) with
  | [] => return []
  | '\n' :: r => return r
  | '\r' :: '\n' :: r => return r
  | _ => none

/-- Read the lines of a text. -/
def lines : Nat → Draft → List Char → Option Draft
  | 0, _, _ => none
  | n + 1, t, cs =>
    match skipBlank cs with
    | [] => some t
    | '\n' :: r => lines n t r
    | '\r' :: '\n' :: r => lines n t r
    | '#' :: r => do
      let r ← lineEnd ('#' :: r)
      lines n t r
    | '[' :: '[' :: r => do
      let (path, name, r) ← key r
      let r ← mark ']' r
      let r ← mark ']' r
      let r ← lineEnd r
      let t ← t.openElement path name
      lines n t r
    | '[' :: r => do
      let (path, name, r) ← key r
      let r ← mark ']' r
      let r ← lineEnd r
      let t ← t.openTable path name
      lines n t r
    | r => do
      let (path, name, r) ← key r
      let r ← mark '=' r
      let (d, r) ← value (r.length + 1) 0 (skipBlank r)
      let r ← lineEnd r
      let current ← t.current.add path name d
      lines n { t with current } r

/-- The document of a text, if the text is well formed. -/
def read (text : String) : Option Document := do
  let cs := match text.toList with
    | '\ufeff' :: r => r
    | r => r
  let t ← lines (cs.length + 1) Draft.start cs
  let root ← t.close
  return root.toDocument

/-- Read a value from a text. -/
def decode {α : Type} (item : Decoder α) (text : String) : Except Problem α :=
  match read text with
  | some d => item d
  | none => .error .illFormed

end FaultLab.Toml
