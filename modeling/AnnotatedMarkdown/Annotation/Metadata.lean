import AnnotatedMarkdown.Annotation.Entity
import AnnotatedMarkdown.Annotation.Record
import AnnotatedMarkdown.Value.Field
import AnnotatedMarkdown.Yaml.Document

/-!
# Metadata of records

The metadata of a record is the mapping that its block stands for, with texts as keys.
The value of a special field is the text of an expression, which a mapping, a sequence or
the null value is not.  `Record.entity` reads the block of a record and adds the
documentation, `analyse` does so for all records of a text.
-/

namespace AnnotatedMarkdown

/-- Why a block is not the metadata of a record. -/
inductive MetadataFault where
  | cause (c : MetadataCause)
  | defect (d : Defect)

namespace Metadata

/-- The value of a special field. -/
def deferredValue (name : Text) (v : Value) : Except MetadataFault Value :=
  match v with
  | .none => .error (.cause (.specialField name))
  | .list _ => .error (.cause (.specialField name))
  | .dict _ => .error (.cause (.specialField name))
  | v =>
    match v.plain with
    | some source => .ok (.deferred source)
    | none => .error (.defect .tooManyDigits)

mutual

/-- A value with texts as keys of its mappings, and with its special fields deferred. -/
def ofValue : Value → Except MetadataFault Value
  | .dict entries => (ofEntries entries).map fun es => .dict (Entries.ofList es)
  | .list items => (ofItems items).map .list
  | v => .ok v

/-- The fields of the entries of a mapping, one for each entry. -/
def ofEntries : List Entry → Except MetadataFault Entries
  | [] => .ok []
  | .mk k v :: entries =>
    match k.plain with
    | none => .error (.defect .tooManyDigits)
    | some written => do
      let name := Field.name written
      let value ← if Field.isSpecial written then deferredValue name v else ofValue v
      return .mk (.str name) value :: (← ofEntries entries)

/-- The items of a sequence. -/
def ofItems : List Value → Except MetadataFault (List Value)
  | [] => .ok []
  | v :: vs => do
    let value ← ofValue v
    return value :: (← ofItems vs)

end

/-- The metadata that a document stands for: none stands for an empty mapping. -/
def ofDocument : Value → Except MetadataFault Entries
  | .none => .ok []
  | .dict entries => (ofEntries entries).map Entries.ofList
  | v => .error (.cause (.notMapping v.typeName))

/-- The metadata that a block stands for. -/
def ofBlock (block : Text) : Except MetadataFault Entries :=
  match Yaml.load block with
  | .ok v => ofDocument v
  | .error .malformed => .error (.cause .malformed)
  | .error (.defect d) => .error (.defect d)

end Metadata

/-- The metadata of a record with its documentation. -/
def Record.entity (r : Record) : Except Failure Entity :=
  match Metadata.ofBlock r.metadata with
  | .ok fields =>
    .ok ⟨r.reference, r.line, fields.put (.str "documentation") (.str r.documentation)⟩
  | .error (.cause c) => .error (.diagnostic (.metadata c r.reference (some r.line)))
  | .error (.defect d) => .error (.defect d)

/-- The entities of records. -/
def analyse (records : List Record) : Except Failure (List Entity) :=
  records.mapM Record.entity

end AnnotatedMarkdown
