/-!
# Known types

The types that have a meaning for requests, with the spellings under which they are known. A path
that is no such spelling is its own canonical name.

## Main definitions

- `KnownType` — a canonical name with its spellings
- `knownTypes` — the table
- `canonicalName` — the canonical name of a written path
-/

namespace RestClient

/-- A type under its canonical name, with every spelling of it that is known. -/
structure KnownType where
  canonical : String
  spellings : List String
  deriving DecidableEq, Repr

/-- The known types. No spelling occurs twice. -/
def knownTypes : List KnownType := [
  ⟨"std::string::String",
    ["String", "string::String", "std::string::String", "alloc::string::String"]⟩,
  ⟨"str", ["str", "std::primitive::str", "core::primitive::str"]⟩,
  ⟨"u8", ["u8", "std::primitive::u8", "core::primitive::u8"]⟩,
  ⟨"std::collections::HashMap",
    ["HashMap", "hash_map::HashMap", "collections::HashMap", "std::collections::HashMap",
      "std::collections::hash_map::HashMap"]⟩,
  ⟨"std::collections::BTreeMap",
    ["BTreeMap", "btree_map::BTreeMap", "collections::BTreeMap", "std::collections::BTreeMap",
      "std::collections::btree_map::BTreeMap", "alloc::collections::BTreeMap"]⟩,
  ⟨"indexmap::IndexMap", ["IndexMap", "indexmap::IndexMap", "indexmap::map::IndexMap"]⟩,
  ⟨"std::vec::Vec", ["Vec", "vec::Vec", "std::vec::Vec", "alloc::vec::Vec"]⟩,
  ⟨"std::collections::VecDeque",
    ["VecDeque", "collections::VecDeque", "std::collections::VecDeque",
      "alloc::collections::VecDeque"]⟩,
  ⟨"std::option::Option",
    ["Option", "option::Option", "std::option::Option", "core::option::Option"]⟩,
  ⟨"std::borrow::Cow", ["Cow", "borrow::Cow", "std::borrow::Cow", "alloc::borrow::Cow"]⟩,
  ⟨"std::boxed::Box", ["Box", "boxed::Box", "std::boxed::Box", "alloc::boxed::Box"]⟩,
  ⟨"std::sync::Arc", ["Arc", "sync::Arc", "std::sync::Arc", "alloc::sync::Arc"]⟩,
  ⟨"std::rc::Rc", ["Rc", "rc::Rc", "std::rc::Rc", "alloc::rc::Rc"]⟩,
  ⟨"bytes::Bytes", ["Bytes", "bytes::Bytes"]⟩]

/-- The canonical name of a written path. -/
def canonicalName (written : String) : String :=
  match knownTypes.find? fun row => row.spellings.contains written with
  | some row => row.canonical
  | none => written

/-- The strings. -/
def stringNames : List String :=
  ["std::string::String", "str"]

/-- The containers that make a string of `str`. -/
def stringWrappers : List String :=
  ["std::borrow::Cow", "std::boxed::Box", "std::sync::Arc", "std::rc::Rc"]

/-- The maps. -/
def mapNames : List String :=
  ["std::collections::HashMap", "std::collections::BTreeMap", "indexmap::IndexMap"]

/-- The sequences that are paths. -/
def sequenceNames : List String :=
  ["std::vec::Vec", "std::collections::VecDeque"]

end RestClient
