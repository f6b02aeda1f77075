import LossCascade.Summary
import Std.Data.TreeMap

/-!
# The store of summary records

The store keeps the records of each piece of equipment in the order in which they came in. Records
are only ever added.
-/

namespace LossCascade

/-- The records of one kind by equipment. -/
abbrev RecordTable (ρ : Type) := Std.TreeMap String (List ρ)

namespace RecordTable

variable {ρ : Type}

/-- The records of a piece of equipment, in order. -/
def records (table : RecordTable ρ) (equipment : String) : List ρ :=
  table.getD equipment []

/-- The table with further records of a piece of equipment. -/
def append (table : RecordTable ρ) (equipment : String) (added : List ρ) : RecordTable ρ :=
  table.insert equipment (table.records equipment ++ added)

/-- The records of a piece of equipment that overlap a window, whole and in order. -/
def fetch [Spanning ρ] (table : RecordTable ρ) (equipment : String) (window : Window) : List ρ :=
  (table.records equipment).filter fun record => window.overlaps record

end RecordTable

/-- The records of both kinds. -/
structure Store where
  availability : RecordTable AvailabilitySummary := ∅
  production : RecordTable ProductionSummary := ∅

namespace Store

/-- A store without records. -/
def empty : Store := {}

/-- Adds availability records of a piece of equipment. -/
def insertAvailability (s : Store) (equipment : String) (added : List AvailabilitySummary) :
    Store :=
  { s with availability := s.availability.append equipment added }

/-- Adds production records of a piece of equipment. -/
def insertProduction (s : Store) (equipment : String) (added : List ProductionSummary) : Store :=
  { s with production := s.production.append equipment added }

/-- The availability records of a piece of equipment that overlap a window. -/
def fetchAvailability (s : Store) (equipment : String) (window : Window) :
    List AvailabilitySummary :=
  s.availability.fetch equipment window

/-- The production records of a piece of equipment that overlap a window. -/
def fetchProduction (s : Store) (equipment : String) (window : Window) : List ProductionSummary :=
  s.production.fetch equipment window

/-- How many records of each kind there are of a piece of equipment. -/
def count (s : Store) (equipment : String) : Nat × Nat :=
  ((s.availability.records equipment).length, (s.production.records equipment).length)

end Store

end LossCascade
