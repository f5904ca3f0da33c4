set_option autoImplicit false

/-! # TOML values

The values of a TOML text, and the tables that its headers and keys build up. A table is written
once: by a header, by the dotted keys that lead into it, or, implicitly, by the headers of tables
inside it; `Node.modify?` and `Node.insert?` refuse to write one in two ways. -/

namespace ModuleBus

/-- A TOML value. -/
inductive Toml where
  | integer (i : Int)
  /-- A number that is not an integer; its value is never asked for. -/
  | real
  | bool (b : Bool)
  | text (s : String)
  /-- A date or a time; its value is never asked for. -/
  | date
  | array (items : List Toml)
  | table (entries : List (String × Toml))

namespace Toml

/-- A table, an array or a value while a text is being read. -/
inductive Node where
  /-- A finished value, inline tables included. -/
  | value (v : Toml)
  /-- A table. It is implicit while only paths lead through it, and dotted if those were keys. -/
  | table (implicit dotted : Bool) (entries : List (String × Node))
  /-- The tables of one array header. -/
  | tables (elements : List Node)

namespace Node

/-- The entries with the one of a key replaced, or with a new one at the end. -/
def put (key : String) (node : Node) : List (String × Node) → List (String × Node)
  | [] => [(key, node)]
  | (k, n) :: rest => if k = key then (k, node) :: rest else (k, n) :: put key node rest

/-- Changes the table at the end of a path by `f`. Tables that are missing on the way become
implicit, and dotted as told; of an array of tables the last one is meant. A dotted path does not
lead through a table that has its own header. -/
def modify? (dotted : Bool) (f : Node → Option Node) : (path : List String) → Node → Option Node
  | [], node => f node
  | key :: path, .table implicit isDotted entries =>
    let change (node : Node) : Option Node :=
      (modify? dotted f path node).map fun node => .table implicit isDotted (put key node entries)
    match entries.lookup key with
    | none => change (.table true dotted [])
    | some (.table imp dot inner) =>
      if dotted && !imp then none else change (.table imp dot inner)
    | some (.tables elements) =>
      match elements.getLast? with
      | none => none
      | some last =>
        (modify? dotted f path last).map fun last =>
          .table implicit isDotted (put key (.tables (elements.dropLast ++ [last])) entries)
    | some (.value _) => none
  | _ :: _, _ => none

/-- Adds a value to a table under a key that is not taken. A key alone does not go into a dotted
table, and a dotted path goes into no other. -/
def add? (dotted : Bool) (key : String) (v : Toml) : Node → Option Node
  | .table implicit isDotted entries =>
    if isDotted != dotted || (entries.lookup key).isSome then none
    else some (.table implicit isDotted (entries ++ [(key, .value v)]))
  | _ => none

/-- Adds a value under a dotted key; `path` is the key but for its last part. -/
def insert? (path : List String) (key : String) (v : Toml) (node : Node) : Option Node :=
  modify? true (add? (!path.isEmpty) key v) path node

/-- Opens the table of a header; `path` is the header but for its last part. -/
def openTable? (path : List String) (key : String) (node : Node) : Option Node :=
  modify? false
    (fun
      | .table implicit dotted entries =>
        match entries.lookup key with
        | none => some (.table implicit dotted (put key (.table false false []) entries))
        | some (.table true false inner) =>
          some (.table implicit dotted (put key (.table false false inner) entries))
        | some _ => none
      | _ => none)
    path node

/-- Opens one more table of an array header. -/
def openElement? (path : List String) (key : String) (node : Node) : Option Node :=
  modify? false
    (fun
      | .table implicit dotted entries =>
        match entries.lookup key with
        | none => some (.table implicit dotted (put key (.tables [.table false false []]) entries))
        | some (.tables elements) =>
          some (.table implicit dotted
            (put key (.tables (elements ++ [.table false false []])) entries))
        | some _ => none
      | _ => none)
    path node

/-- The value that a finished node is. -/
def toToml : Node → Toml
  | .value v => v
  | .table _ _ entries => .table (entries.attach.map fun ⟨(k, n), _⟩ => (k, n.toToml))
  | .tables elements => .array (elements.attach.map fun ⟨n, _⟩ => n.toToml)
decreasing_by
  · rename_i h
    have h₁ := List.sizeOf_lt_of_mem h
    simp only [Prod.mk.sizeOf_spec] at h₁
    simp only [Node.table.sizeOf_spec]
    omega
  · rename_i h
    have h₁ := List.sizeOf_lt_of_mem h
    simp only [Node.tables.sizeOf_spec]
    omega

end Node

/-! ## Taking values -/

/-- An integer from zero up to below `bound`. -/
def nat? (bound : Nat) : Toml → Option Nat
  | integer i => if 0 ≤ i ∧ i < bound then some i.toNat else none
  | _ => none

/-- A truth value. -/
def bool? : Toml → Option Bool
  | bool b => some b
  | _ => none

/-- The values of a record with the given field names, absent ones as `none`. A record is a table,
or an array whose items are the fields in order; a date is a record without any of them. -/
def record? (names : List String) : Toml → Option (List (Option Toml))
  | table entries => some (names.map fun name => entries.lookup name)
  | array items => some (names.zipIdx.map fun n => items[n.2]?)
  | date => some (names.map fun _ => none)
  | _ => none

/-- A field that is `value` when absent. -/
def default? {α : Type} (value : α) (read : Toml → Option α) : Option Toml → Option α
  | none => some value
  | some v => read v

end Toml

end ModuleBus
