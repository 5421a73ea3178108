import Mathlib

/-!
# Errors

The error type shared by every layer of the store, with the texts it is
displayed with.
-/

namespace RockDuck

inductive IoErrorKind where
  | alreadyExists
  | permissionDenied
  | notFound
  | unexpectedEof
  | invalidData
  | other
  deriving DecidableEq, Repr

structure IoError where
  kind : IoErrorKind
  message : String
  deriving DecidableEq, Repr

/-- `RockDuckError`, one constructor per variant. -/
inductive RockDuckError where
  | storage (message : String)
  | metadata (message : String)
  | segmentNotFound (message : String)
  | columnNotFound (message : String)
  | codec (message : String)
  | io (error : IoError)
  | serialization (message : String)
  | internal (message : String)
  | compaction (message : String)
  | delta (message : String)
  | readPath (message : String)
  | write (message : String)
  | query (message : String)
  | config (message : String)
  | duckDB (message : String)
  | kafka (message : String)
  | mvccConflict (message : String)
  | invalidParameter (message : String)
  | keyNotFound (message : String)
  | deserialize (message : String)
  | unimplemented (message : String)
  | security (message : String)
  | visDataUnavailable (segId reason : String)
  deriving DecidableEq, Repr

namespace RockDuckError

/-- The text of an error. -/
def display : RockDuckError → String
  | storage message => "Storage error: " ++ message
  | metadata message => "Metadata error: " ++ message
  | segmentNotFound message => "Segment not found: " ++ message
  | columnNotFound message => "Column not found: " ++ message
  | codec message => "Codec error: " ++ message
  | io error => "IO error: " ++ error.message
  | serialization message => "Serialization error: " ++ message
  | internal message => "Internal error: " ++ message
  | compaction message => "Compaction error: " ++ message
  | delta message => "Delta error: " ++ message
  | readPath message => "Read path error: " ++ message
  | write message => "Write error: " ++ message
  | query message => "Query error: " ++ message
  | config message => "Config error: " ++ message
  | duckDB message => "DuckDB error: " ++ message
  | kafka message => "Kafka error: " ++ message
  | mvccConflict message => "MVCC conflict: " ++ message
  | invalidParameter message => "Invalid parameter: " ++ message
  | keyNotFound message => "Key not found: " ++ message
  | deserialize message => "Deserialization error: " ++ message
  | unimplemented message => "Unimplemented: " ++ message
  | security message => "Security: " ++ message
  | visDataUnavailable segId reason =>
    "Visibility data unavailable for segment " ++ segId ++ ": " ++ reason

end RockDuckError

/-- What goes wrong at a step, if anything. -/
abbrev Fault := Option RockDuckError

namespace Fault

/-- Change the component unless there is a fault. -/
def perform {Component : Type*} (fault : Fault) (before after : Component) :
    Component × Except RockDuckError Unit :=
  match fault with
  | none => (after, .ok ())
  | some error => (before, .error error)

variable {Component : Type*}

@[simp]
lemma perform_none (before after : Component) : perform none before after = (after, .ok ()) :=
  rfl

@[simp]
lemma perform_some (error : RockDuckError) (before after : Component) :
    perform (some error) before after = (before, .error error) :=
  rfl

end Fault

end RockDuck
