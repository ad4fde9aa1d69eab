/-
The log.

What happens while items are placed is told by a list of events, each with a level,
the part of the program that reports it and a text.
-/
import DocTree.Text.Basic

namespace DocTree

/-- How much an event matters. -/
inductive Level where
  | debug
  | info
  | warning
deriving DecidableEq, Repr

def Level.name : Level → Text
  | .debug => "DEBUG".toList
  | .info => "INFO".toList
  | .warning => "WARNING".toList

/-- The part of the program that reports an event. -/
inductive Reporter where
  | directives
  | placement
  | extraction
  | scan
deriving DecidableEq, Repr

def Reporter.name : Reporter → Text
  | .directives => "hactdoc.commands".toList
  | .placement => "hactdoc.hierarchy".toList
  | .extraction => "hactdoc.extract".toList
  | .scan => "hactdoc.parsers.cpp_parser".toList

/-- A line of the log. -/
structure Event where
  level : Level
  reporter : Reporter
  message : Text
deriving DecidableEq, Repr

/-- The event as a line. -/
def Event.render (e : Event) : Text :=
  e.level.name ++ ' ' :: e.reporter.name ++ ": ".toList ++ e.message

end DocTree
