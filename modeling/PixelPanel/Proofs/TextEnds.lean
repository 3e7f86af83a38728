import Mathlib.Data.List.TakeWhile
import PixelPanel.Text.Blank

/-!
# White space at the ends of a text

Stripping a text takes the white space at both ends away and nothing else.
-/

namespace PixelPanel.Text

/-- A text is white space, what is left when it is stripped, and white space. -/
structure Strips (text core : List Char) : Prop where
  split : ∃ front back, text = front ++ core ++ back ∧ ∀ c ∈ front ++ back, isBlank c = true
  first : ∀ c ∈ core.head?, isBlank c = false
  last : ∀ c ∈ core.getLast?, isBlank c = false

end PixelPanel.Text

namespace PixelPanel.Proofs

variable {text core : List Char}

lemma dropWhile_of_head {p : Char → Bool} (h : ∀ c ∈ text.head?, p c = false) :
    text.dropWhile p = text := by
  cases text with
  | nil => rfl
  | cons c rest =>
    have hc : p c = false := h c rfl
    rw [List.dropWhile_cons_of_neg (by rw [hc]; exact Bool.false_ne_true)]

lemma head?_dropWhile {p : Char → Bool} (text : List Char) :
    ∀ c ∈ (text.dropWhile p).head?, p c = false := by
  intro c hc
  have hstop := List.head?_dropWhile_not p text
  rw [Option.mem_def.mp hc] at hstop
  exact hstop

lemma strip_of_strips (h : Text.Strips text core) : Text.strip text = core := by
  obtain ⟨⟨front, back, rfl, hblank⟩, hfirst, hlast⟩ := h
  rw [List.forall_mem_append] at hblank
  rw [Text.strip, List.append_assoc, List.dropWhile_append_of_pos hblank.1]
  cases core with
  | nil =>
    rw [List.nil_append, List.dropWhile_eq_nil_iff.mpr hblank.2]
    rfl
  | cons first rest =>
    have hback : ∀ c ∈ back.reverse, Text.isBlank c = true :=
      fun c hc => hblank.2 c (List.mem_reverse.mp hc)
    have hend : ∀ c ∈ (first :: rest).reverse.head?, Text.isBlank c = false := by
      rwa [List.head?_reverse]
    rw [@dropWhile_of_head (first :: rest ++ back) _ hfirst, List.reverse_append,
      List.dropWhile_append_of_pos hback, dropWhile_of_head hend, List.reverse_reverse]

lemma strips_strip (text : List Char) : Text.Strips text (Text.strip text) := by
  -- what is left once the white space at the front is gone
  have hfirst := head?_dropWhile (p := Text.isBlank) text
  have hsplit := List.takeWhile_append_dropWhile (p := Text.isBlank) (l := text)
  unfold Text.strip
  generalize text.dropWhile Text.isBlank = rest at hfirst hsplit ⊢
  have hlast := head?_dropWhile (p := Text.isBlank) rest.reverse
  have hrest : (rest.reverse.dropWhile Text.isBlank).reverse ++
      (rest.reverse.takeWhile Text.isBlank).reverse = rest := by
    rw [← List.reverse_append, List.takeWhile_append_dropWhile, List.reverse_reverse]
  refine ⟨⟨text.takeWhile Text.isBlank, (rest.reverse.takeWhile Text.isBlank).reverse, ?_, ?_⟩,
    fun c hc => hfirst c ?_, fun c hc => hlast c ?_⟩
  · rw [List.append_assoc, hrest, hsplit]
  · intro c hc
    rw [List.mem_append, List.mem_reverse] at hc
    exact hc.elim List.mem_takeWhile_imp List.mem_takeWhile_imp
  · rw [← hrest, List.head?_append, Option.mem_def.mp hc]
    rfl
  · rwa [List.getLast?_reverse] at hc

/-- Stripping a text leaves what stands between its white space. -/
lemma strip_eq_iff : Text.strip text = core ↔ Text.Strips text core :=
  ⟨fun h => h ▸ strips_strip text, strip_of_strips⟩

/-- A text without white space is left as it is. -/
lemma strips_self (h : ∀ c ∈ text, Text.isBlank c = false) : Text.Strips text text where
  split := ⟨[], [], by rw [List.nil_append, List.append_nil], List.forall_mem_nil _⟩
  first := fun c hc => h c (List.mem_of_head? hc)
  last := fun c hc => h c (List.mem_of_getLast? hc)

end PixelPanel.Proofs
