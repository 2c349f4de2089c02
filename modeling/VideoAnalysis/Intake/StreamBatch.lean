import VideoAnalysis.Python.Json

/-! # Batches of stream entries

A worker takes a batch of entries from its stream. What becomes of an entry is
whether it has inserted a row and whether it was acknowledged; one that was not is
delivered again.
-/

namespace VideoAnalysis.Intake

open Foundation Python

abbrev Fields := List (List Nat × List Nat)

abbrev Payload := List (Text × Json)

structure EntryOutcome where
  inserted : Bool
  acknowledged : Bool
deriving DecidableEq

namespace EntryOutcome

def pending : EntryOutcome := ⟨false, false⟩

def discarded : EntryOutcome := ⟨false, true⟩

def persisted (newRow : Bool) : EntryOutcome := ⟨newRow, true⟩

end EntryOutcome

/-- A database whose insert takes some rows, whatever it holds, and tells whether
the row is new. -/
structure Table (Row State : Type) where
  accepts : Row → Bool
  insert : State → Row → State × Bool

structure BatchResult (State : Type) where
  state : State
  outcomes : List EntryOutcome
  raised : Option PyError

section

variable {State : Type}

/-- Each entry in a batch of its own, at its turn. -/
def separately (batch : State → List Fields → BatchResult State) :
    State → List Fields → List EntryOutcome
  | _, [] => []
  | state, entry :: rest =>
    (batch state [entry]).outcomes ++ separately batch (batch state [entry]).state rest

/-- The batch does not raise, and each entry fares as in a batch of its own. -/
def Isolated (batch : State → List Fields → BatchResult State) (state : State)
    (entries : List Fields) : Prop :=
  (batch state entries).raised = none ∧
    (batch state entries).outcomes = separately batch state entries

end

/-- The head that the parsers share: an entry without data, with data that is not
JSON or without a required field is refused, anything else but an object raises. -/
def parseEntry (recursionLimit : Nat) (required : List String) (fields : Fields) :
    Except PyError (Option Payload) :=
  match fields.lookup (text "data") with
  | none | some [] => .ok none
  | some raw =>
    match loadsBytes recursionLimit raw with
    | .error .jsonDecodeError | .error .typeError => .ok none
    | .error error => .error error
    | .ok (.dict payload) =>
      if required.all fun field => ((Json.lookup payload field).map Json.truthy).getD false then
        .ok (some payload)
      else .ok none
    | .ok _ => .error .attributeError

end VideoAnalysis.Intake
