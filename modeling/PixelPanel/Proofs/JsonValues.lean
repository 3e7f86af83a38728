import Mathlib.Data.List.Basic
import Mathlib.Logic.Function.Basic
import PixelPanel.Json.Value

/-!
# Texts and members of values

A text and its code points tell the same, as long as no half of a surrogate pair stands alone.
-/

namespace PixelPanel.Json.Value

/-- The member of an object with a name. -/
def member? (name : String) : Value → Option Value
  | .object members => members.lookup (points name)
  | _ => none

end PixelPanel.Json.Value

namespace PixelPanel.Proofs

lemma toNat_ofNat {point : ℕ} (h : point.isValidChar) : (Char.ofNat point).toNat = point := by
  rw [Char.ofNat, dif_pos h]
  rfl

lemma ofPoints_points (text : String) : Text.ofPoints (Json.points text) = text := by
  have hchar : ∀ c : Char, (if c.toNat.isValidChar then Char.ofNat c.toNat else '\uFFFD') = c :=
    fun c => (if_pos c.valid).trans (Char.ofNat_toNat c)
  rw [Text.ofPoints, Json.points, List.map_map]
  simp only [Function.comp_def, hchar, List.map_id', String.ofList_toList]

lemma points_injective : Function.Injective Json.points := by
  intro text other h
  rw [← ofPoints_points text, h, ofPoints_points]

/-- Where nothing has been replaced, no half of a surrogate pair was there. -/
lemma points_ofPoints {written : Json.Points} (h : '\uFFFD' ∉ (Text.ofPoints written).toList) :
    Json.points (Text.ofPoints written) = written := by
  rw [Text.ofPoints, String.toList_ofList, List.mem_map, not_exists] at h
  rw [Json.points, Text.ofPoints, String.toList_ofList, List.map_map]
  refine List.map_congr_left (fun point hmem => ?_) |>.trans (List.map_id written)
  have hvalid : point.isValidChar := by
    by_contra hinvalid
    exact h point ⟨hmem, if_neg hinvalid⟩
  rw [Function.comp_apply, if_pos hvalid, toNat_ofNat hvalid]
  rfl

end PixelPanel.Proofs
