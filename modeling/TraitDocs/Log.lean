import TraitDocs.Failure

/-!
# Log levels and log lines

A log line is written if its level reaches the level in force. Levels are named; the case of a
name does not count, and a name that is no level stands for the informative one.
-/

set_option autoImplicit false

namespace TraitDocs.Log

/-- A level of the log. -/
inductive Level
  | unset
  | debug
  | info
  | warning
  | error
  | critical
  deriving DecidableEq, Repr

namespace Level

/-- The rank of a level. -/
def rank : Level → Nat
  | .unset => 0
  | .debug => 10
  | .info => 20
  | .warning => 30
  | .error => 40
  | .critical => 50

/-- The name of a level. -/
def name : Level → String
  | .unset => "NOTSET"
  | .debug => "DEBUG"
  | .info => "INFO"
  | .warning => "WARNING"
  | .error => "ERROR"
  | .critical => "CRITICAL"

/-- The capital form of a character, where it consists of basic Latin letters: those letters
themselves, the dotless i, the long and the sharp s, and the Latin ligatures. Other characters,
which occur in no level name, are left as they are. -/
def capital (c : Char) : List Char :=
  if 'a' ≤ c ∧ c ≤ 'z' then [Char.ofNat (c.toNat - 32)]
  else if c = 'ı' then ['I']
  else if c = 'ſ' then ['S']
  else if c = 'ß' then ['S', 'S']
  else if c = 'ﬀ' then ['F', 'F']
  else if c = 'ﬁ' then ['F', 'I']
  else if c = 'ﬂ' then ['F', 'L']
  else if c = 'ﬃ' then ['F', 'F', 'I']
  else if c = 'ﬄ' then ['F', 'F', 'L']
  else if c = 'ﬅ' ∨ c = 'ﬆ' then ['S', 'T']
  else [c]

/-- What the capital names stand for: levels, and two names that are taken but are no levels. -/
def named : List (String × Except Fault Level) :=
  [("CRITICAL", .ok .critical), ("FATAL", .ok .critical), ("ERROR", .ok .error),
   ("WARNING", .ok .warning), ("WARN", .ok .warning), ("INFO", .ok .info), ("DEBUG", .ok .debug),
   ("NOTSET", .ok .unset),
   ("BASIC_FORMAT", .error .levelIsFormat), ("_STYLES", .error .levelIsTable)]

/-- The level of a name. -/
def ofName (name : String) : Except Fault Level :=
  let capitals := String.ofList (name.toList.flatMap capital)
  match named.find? fun n => n.1 = capitals with
  | some (_, level) => level
  | none => .ok .info

/-- The level in force where this level is set: one that is not set leaves the informative one. -/
def effective (level : Level) : Level :=
  if level = .unset then .info else level

end Level

/-- Something that is logged while classes are collected. -/
inductive Event
  /-- An internal class is left out. -/
  | skipped (className : String)
  /-- The public methods of a class have been read. -/
  | parsed (className : String) (methods : Nat)
  deriving DecidableEq, Repr

namespace Event

/-- The level of a log line. -/
def level : Event → Level
  | .skipped _ => .info
  | .parsed _ _ => .debug

/-- The text of a log line. -/
def message : Event → String
  | .skipped className => "Skipping internal class " ++ className
  | .parsed className methods =>
    "Parsed " ++ className ++ " with " ++ toString methods ++ " public methods"

end Event

/-- The log lines that are written where this level is set. -/
def written (level : Level) (events : List Event) : List Event :=
  events.filter fun e => level.effective.rank ≤ e.level.rank

/-- What is known of a logger: its name, its own rank and the rank in force. -/
structure Logger where
  name : String
  /-- The rank of its own level. -/
  own : Nat
  /-- The rank of the level in force. -/
  effective : Nat
  deriving DecidableEq, Repr

/-- The name of the logger whose level is set. -/
def mainName : String := "assertdocs"

/-- The name of the logger above all others, whose level is always the informative one. -/
def rootName : String := "root"

/-- The logger of a name, where `level` is set on the main one. No name, or an empty one, names the
main logger; the loggers below it, whose names go on after a point, take its level in force. -/
def logger (level : Level) (name : Option String) : Logger :=
  let name := if name.getD "" = "" then mainName else name.getD ""
  if name = mainName then ⟨name, level.rank, level.effective.rank⟩
  else if name = rootName then ⟨name, Level.info.rank, Level.info.rank⟩
  else if (mainName ++ ".").toList.isPrefixOf name.toList then ⟨name, 0, level.effective.rank⟩
  else ⟨name, 0, Level.info.rank⟩

end TraitDocs.Log
