import MeterWatch.Decimal.Notation
import MeterWatch.Duration

/-!
# Batches of log lines

A batch holds the lines a server appended to the log since a cursor, the delay
it asks for, and the cursor to continue from.
-/

namespace MeterWatch

/-- A position in the log, in seconds of Unix time. -/
structure Cursor where
  position : Binary64
  deriving DecidableEq, Repr

namespace Cursor

def text (cursor : Cursor) : String := cursor.position.plain

end Cursor

structure Entry where
  readStart : Binary64
  readDuration : Binary64
  line : String
  deriving DecidableEq, Repr

structure Batch where
  /-- Oldest first. -/
  entries : List Entry
  delay : Duration
  cursor : Option Cursor
  deriving DecidableEq, Repr

end MeterWatch
