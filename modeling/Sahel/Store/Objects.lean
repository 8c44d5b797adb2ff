import Mathlib.Data.List.Basic

/-!
# The object store

storage.go: `S3.Put` answers with an object's public URL, and `S3.Delete` takes that URL back.  An
object is known by its name, its key in the bucket.
-/

set_option autoImplicit false

namespace Sahel

/-- The public URL of an object: `publicBase + "/" + key`. -/
def publicURL (base key : String) : String := base ++ "/" ++ key

/-- The key that `Delete` reads from a URL; `none` where it reports that this is no object of the
bucket. -/
def objectKey (base url : String) : Option String :=
  let start := (base ++ "/").toList
  if start.isPrefixOf url.toList ∧ url.toList.drop start.length ≠ [] then
    some (String.ofList (url.toList.drop start.length))
  else none

theorem publicURL_injective (base : String) : Function.Injective (publicURL base) := by
  intro key key' h
  have hlist := congrArg String.toList h
  simp only [publicURL, String.toList_append, List.append_right_inj] at hlist
  exact String.toList_injective hlist

/-- **`Delete` finds nothing but what `Put` stored**: a key is read from its own URL only. -/
theorem publicURL_of_objectKey {base url key : String} (h : objectKey base url = some key) :
    publicURL base key = url := by
  rw [objectKey] at h
  split_ifs at h with hc
  obtain ⟨rest, hrest⟩ := List.isPrefixOf_iff_prefix.mp hc.1
  cases h
  apply String.toList_injective
  rw [publicURL, String.toList_append, String.toList_ofList, ← hrest, List.drop_left]

end Sahel
