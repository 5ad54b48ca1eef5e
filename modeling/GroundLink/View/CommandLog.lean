import GroundLink.View.Merge

/-!
# The command log

The command history as far as it is known: one entry to a command, gathered from earlier history and
from updates.
-/

namespace GroundLink.View

open Model

/-- Entries of the command history, and the place of each command's entry. -/
structure CommandLog where
  entries : List CommandEntry
  index : List (String × Nat)
deriving Inhabited

namespace CommandLog

/-- The log of no command. -/
def empty : CommandLog := ⟨[], []⟩

/-- The place of a command's entry. -/
def slot? (log : CommandLog) (id : String) : Option Nat := log.index.lookup id

/-- Adds the entry of a command that has none. -/
def push (log : CommandLog) (entry : CommandEntry) : CommandLog :=
  ⟨log.entries ++ [entry], (entry.id, log.entries.length) :: log.index⟩

/-- Puts an entry over the one in a place. -/
def replace (log : CommandLog) (slot : Nat) (entry : CommandEntry) : CommandLog :=
  { log with entries := log.entries.set slot entry }

/-- Takes an entry in place of the command's earlier one. -/
def record (log : CommandLog) (entry : CommandEntry) : CommandLog :=
  match log.slot? entry.id with
  | some slot => log.replace slot entry
  | none => log.push entry

/-- The log of earlier history; of several entries of a command the last one counts. -/
def ofHistory (prior : List CommandEntry) : CommandLog := prior.foldl record empty

/-- The entry of a command. -/
def get? (log : CommandLog) (id : String) : Option CommandEntry :=
  (log.slot? id).bind fun slot => log.entries[slot]?

/-- Merges an update into the entry of its command, or adds it. -/
def apply (log : CommandLog) (update : CommandEntry) : CommandLog :=
  match log.slot? update.id with
  | some slot => match log.entries[slot]? with
    | some current => log.replace slot (merge current update)
    | none => log
  | none => log.push update

/-- The number of commands. -/
def size (log : CommandLog) : Nat := log.entries.length

/-- Whether no command is known. -/
def isEmpty (log : CommandLog) : Bool := log.entries.isEmpty

/-- All entries, from the newest to the oldest. -/
def snapshot (log : CommandLog) : List CommandEntry := newestFirst log.entries

end CommandLog

end GroundLink.View
