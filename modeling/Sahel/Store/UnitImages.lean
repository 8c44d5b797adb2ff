import Sahel.Library.KeyedTable
import Mathlib.Data.Nat.Notation
import Mathlib.Data.Int.Notation

/-!
# The photos of a unit

The table `unit_images`, and what its partial unique index `unit_images_one_cover` says of it.
-/

set_option autoImplicit false

namespace Sahel

open KeyedTable

structure UnitImageRow where
  id : ℕ
  unitId : ℕ
  url : String
  altAr : Option String
  altEn : Option String
  sort : Int16
  isCover : Bool
  createdAt : ℤ
  deriving DecidableEq

abbrev UnitImages : Type := Table ℕ UnitImageRow UnitImageRow.id

/-- A unit has one cover at most. -/
def OneCover (images : UnitImages) : Prop :=
  ∀ i ∈ images, ∀ j ∈ images, i.isCover → j.isCover → i.unitId = j.unitId → i = j

end Sahel
