/-
Entries and backend modes in YAML. `Entry.ofYaml` takes the fields of a mapping; those it does not
know are passed over, those left out have their defaults, and none may come twice. Permission bits
are taken as they are written. `Entry.toYaml` writes all fields, one on each line.
-/

import StoreBench.Backend
import StoreBench.Entry
import StoreBench.Yaml.Printer
import StoreBench.Yaml.Typed

namespace StoreBench

namespace Entry

/-! ### Reading -/

/-- The entry with one field read from a node; a name that is no field's gives nothing. -/
def readField? (d : Yaml.Document) (e : Entry) (name : String) (node : Yaml.Node) :
    Option (Except Yaml.Fault Entry) :=
  match name with
  | "path" => some do return { e with path := ← d.textOf node }
  | "is_directory" => some do return { e with isDirectory := ← d.boolOf node }
  | "len" => some do return { e with length := .ofNat (← d.naturalOf UInt64.size node) }
  | "block_size" => some do return { e with blockSize := .ofNat (← d.naturalOf UInt64.size node) }
  | "modification_time" => some do return { e with modified := ← d.int64Of node }
  | "access_time" => some do return { e with accessed := ← d.int64Of node }
  | "replication" => some do return { e with replication := .ofNat (← d.naturalOf UInt16.size node) }
  | "owner" => some do return { e with owner := ← d.optionOf d.textOf node }
  | "group" => some do return { e with group := ← d.optionOf d.textOf node }
  | "permission" => some do
    let bits ← d.optionOf (d.naturalOf UInt16.size) node
    return { e with permission := bits.map fun n => ⟨.ofNat n⟩ }
  | _ => none

/-- The entry with the fields read from nodes, none of them seen before. -/
def readFields (d : Yaml.Document) :
    Entry → List String → List (String × Yaml.Node) → Except Yaml.Fault Entry
  | e, _, [] => .ok e
  | e, seen, (name, node) :: rest =>
    match e.readField? d name node with
    | some read =>
      if seen.contains name then .error .duplicateKey
      else do readFields d (← read) (name :: seen) rest
    | none => readFields d e seen rest

def ofYaml (text : String) : Except Yaml.Fault Entry := do
  let d ← Yaml.parse text
  readFields d {} [] (← d.fields)

/-! ### Writing -/

/-- The fields of an entry as scalars, in the order in which they are written. -/
def yamlFields (e : Entry) : List (String × Yaml.Written) :=
  let text? (s : Option String) : Yaml.Written := (s.map Yaml.Written.ofText).getD (.word "null")
  [("path", .ofText e.path),
    ("is_directory", .word (Text.boolWord e.isDirectory)),
    ("len", .word (word64 e.length)),
    ("block_size", .word (word64 e.blockSize)),
    ("modification_time", .word (signed64 e.modified)),
    ("access_time", .word (signed64 e.accessed)),
    ("replication", .word (word16 e.replication)),
    ("owner", text? e.owner),
    ("group", text? e.group),
    ("permission", .word ((e.permission.map fun p => word16 p.bits).getD "null"))]

def toYaml (e : Entry) : String :=
  String.join (e.yamlFields.map fun field => field.2.line field.1)

end Entry

namespace Mode

/-- The mode that a YAML text names: with a scalar, or with a tag in front of nothing. -/
def ofYaml (text : String) : Except Yaml.Fault Mode := do
  let d ← Yaml.parse text
  match d.root with
  | some (.scalar (some (.named name)) s style) =>
    if style == .plain && (s == "" || Yaml.Scalar.isNull s) then
      Yaml.Document.demand (ofName? name)
    else throw .kind
  | some (.scalar _ s _) => Yaml.Document.demand (ofName? s)
  | _ => throw .kind

end Mode

end StoreBench
