import Sahel.Http.Server

/-!
# Blocks

The block handlers of admin_dashboard.go.  `adminCreateBlock` closes a unit's nights under the
unit's row lock, as booking does; `adminDeleteBlock` opens them again.
-/

set_option autoImplicit false

namespace Sahel

open ReadCommitted

/-- Bounds one block, so a typo can't close a unit for years. -/
def maxBlockNights : ℤ := 180

def maxBlockNote : ℤ := 200

structure BlockRequest where
  startDate : String
  endDate : String
  note : String

def createBlockError : TxError → ApiError
  | .noRows => ⟨404, "not_found", "unit not found"⟩
  | .blockClashesBooking => ⟨409, "dates_taken", "a booking already holds some of these nights"⟩
  | .pg (.exclusionViolation _) =>
    ⟨409, "overlaps_block", "some of these nights are already blocked"⟩
  | _ => internalError "create block"

def adminCreateBlock (param : Option ℕ) (req : BlockRequest) : Handler BlockRow := do
  let unitId ← parseID param "unit"
  let range ← Prog.check (parseRange req.startDate req.endDate maxBlockNights)
    (fun e => ⟨422, "invalid_range", e.message⟩)
  Prog.refuse (range.2 ≤ range.1) ⟨422, "invalid_range", "end must be after start"⟩
  let note := trimSpace req.note
  Prog.refuse (runeCount note > maxBlockNote)
    ⟨422, "validation_failed", "the note can be at most 200 characters"⟩
  Prog.mapErr createBlockError (do
    let _ ← Tx.lockUnit unitId
    let n ← Tx.query (.countBookingsInRange unitId range.1 range.2)
    Prog.refuse (n > 0) .blockClashesBooking
    Tx.query (.createBlock ⟨unitId, range.1, range.2, note⟩))

/-- The answer to a DELETE from the number of rows it removed. -/
def finishDelete (what : String) (n : ℕ) : Handler PUnit :=
  Prog.refuse (n = 0) ⟨404, "not_found", what ++ " not found"⟩

def adminDeleteBlock (param : Option ℕ) : Handler PUnit := do
  let id ← parseID param "block"
  let n ← (Tx.query (.deleteBlock id)).mapErr (fun
    | .pg (.fkViolation _) =>
      ⟨409, "in_use", "block is still referenced; move or delete what uses it first"⟩
    | _ => internalError "delete block")
  finishDelete "block" n

end Sahel
