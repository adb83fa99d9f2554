import Amalgam.Path

namespace Amalgam

/-- How much an event matters, the least first. -/
inductive Level where
  | debug
  | info
  | warn
  | error
  deriving Repr, DecidableEq

namespace Level

def rank : Level → Nat
  | debug => 0
  | info => 1
  | warn => 2
  | error => 3

def name : Level → String
  | debug => "DEBUG"
  | info => "INFO"
  | warn => "WARN"
  | error => "ERROR"

end Level

inductive Event where
  | loadingSettings (path : Path)
  | noSettingsFound
  | usingSettings (source : Option Path)
  | processedSource (source : Path) (lines dropped triggers : Nat)
  | raiseMissing (source : Path)
  | wroteArtifact (artifact : Path) (files lines : Nat)
  deriving Repr, DecidableEq

namespace Event

/-- What an event carries under a name. -/
inductive Field where
  | count (n : Nat)
  | text (words : String)
  deriving Repr, DecidableEq

def Field.render : Field → String
  | count n => toString n
  | text words => words

def level : Event → Level
  | loadingSettings _ | noSettingsFound | processedSource .. => .debug
  | usingSettings _ | wroteArtifact .. => .info
  | raiseMissing _ => .warn

/-- The part of the program that an event comes from. -/
def target : Event → String
  | loadingSettings _ | noSettingsFound => "standalone_gen::config::cascade"
  | usingSettings _ => "standalone_gen"
  | processedSource .. | raiseMissing _ | wroteArtifact .. => "standalone_gen::assemble"

def message : Event → String
  | loadingSettings _ => "loading config"
  | noSettingsFound => "no config file found, using defaults"
  | usingSettings _ => "using configuration"
  | processedSource .. => "processed source"
  | raiseMissing _ => "throw rewrite never received its raise statement"
  | wroteArtifact .. => "wrote artifact"

/-- The name of where settings come from. -/
def describeSource : Option Path → String
  | some path => path.toString
  | none => "built-in defaults"

def fields : Event → List (String × Field)
  | loadingSettings path => [("path", .text path.toString)]
  | noSettingsFound => []
  | usingSettings source => [("source", .text (describeSource source))]
  | processedSource source lines dropped triggers =>
    [("source", .text source.toString), ("lines", .count lines), ("dropped", .count dropped),
      ("triggers", .count triggers)]
  | raiseMissing source => [("source", .text source.toString)]
  | wroteArtifact artifact files lines =>
    [("artifact", .text artifact.toString), ("files", .count files), ("lines", .count lines)]

/-- The event as a line of the log. -/
def render (event : Event) : String :=
  event.level.name ++ " " ++ event.target ++ ": " ++ event.message ++
    String.join (event.fields.map fun (name, field) => " " ++ name ++ "=" ++ field.render)

end Event

end Amalgam
