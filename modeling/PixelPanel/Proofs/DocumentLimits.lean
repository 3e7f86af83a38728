import Mathlib.Data.List.Basic
import PixelPanel.Json.Document

/-!
# Documents that ask too much

A document that is not well formed has a flaw at some place. Two things make it fail otherwise: an integer
with too many digits, and a container for which there is no room, each of them where a value must come and
after tokens that can all be read.
-/

namespace PixelPanel.Json

/-- The number of open containers where a value must come. -/
def Progress.awaiting? : Progress → Option ℕ
  | beforeValue outer => some outer.length
  | beforeItem outer => some (outer.length + 1)
  | _ => none

/-- Some tokens can be read one after the other. -/
inductive Progress.Follows (room : ℕ) : Progress → List (ℕ × Token) → Progress → Prop
  | nothing {progress : Progress} : Follows room progress [] progress
  | token {progress next last : Progress} {left : ℕ} {token : Token} {rest : List (ℕ × Token)}
    (h : progress.advance room left token = .ok next) (hrest : Follows room next rest last) :
    Follows room progress ((left, token) :: rest) last

/-- A token is too much with a number of containers open already. -/
inductive Token.TooMuch (room count : ℕ) : Token → Prop
  | integer (digits : ℕ) : TooMuch room count (.longInteger digits)
  | list (h : room ≤ count) : TooMuch room count (.mark .openList)
  | object (h : room ≤ count) : TooMuch room count (.mark .openObject)

/-- Among some tokens there is one that is too much, after others that can be read. -/
def Progress.ComesToTooMuch (room : ℕ) (progress : Progress) (tokens : List (ℕ × Token)) : Prop :=
  ∃ before left token later next count, tokens = before ++ (left, token) :: later ∧
    progress.Follows room before next ∧ next.awaiting? = some count ∧ token.TooMuch room count

/-- A text asks too much of its reader. -/
def AsksTooMuch (room : ℕ) (text : List Char) : Prop :=
  text.head? ≠ some '\uFEFF' ∧ (Progress.beforeValue []).ComesToTooMuch room (tokens text)

/-- A fault is more than a flaw. -/
def Fault.IsLimit : Fault → Prop
  | .invalid .. => False
  | _ => True

/-- A refusal is more than a flaw. -/
def Progress.Refusal.IsLimit : Progress.Refusal → Prop
  | .flaw _ => False
  | _ => True

end PixelPanel.Json

namespace PixelPanel.Proofs
open Json Json.Progress

variable {room left count : ℕ} {progress next : Progress} {token : Token} {refusal : Refusal}
  {rest : List (ℕ × Token)}

lemma readValue_of_tooMuch {outer : List Opened} (h : token.TooMuch room outer.length) :
    ∃ refusal, readValue room outer left token = .error refusal ∧ refusal.IsLimit := by
  cases h with
  | integer digits => exact ⟨_, rfl, trivial⟩
  | list h => exact ⟨_, if_neg (Nat.not_lt.mpr h), trivial⟩
  | object h => exact ⟨_, if_neg (Nat.not_lt.mpr h), trivial⟩

lemma tooMuch_of_readValue {outer : List Opened} (h : readValue room outer left token = .error refusal)
    (hlimit : refusal.IsLimit) : token.TooMuch room outer.length := by
  unfold readValue at h
  split at h
  · cases h
  · cases h
  · split at h
    · cases h
    · rename_i hroom
      exact .list (Nat.not_lt.mp hroom)
  · split at h
    · cases h
    · rename_i hroom
      exact .object (Nat.not_lt.mp hroom)
  · obtain rfl := Except.error.inj h
    exact hlimit.elim
  · exact .integer _
  · obtain rfl := Except.error.inj h
    exact hlimit.elim

lemma advance_of_tooMuch (hawaiting : progress.awaiting? = some count) (h : token.TooMuch room count) :
    ∃ refusal, progress.advance room left token = .error refusal ∧ refusal.IsLimit := by
  cases progress with
  | beforeValue outer =>
    obtain rfl := Option.some.inj hawaiting
    exact readValue_of_tooMuch h
  | beforeItem outer =>
    obtain rfl := Option.some.inj hawaiting
    obtain ⟨refusal, hread, hlimit⟩ := @readValue_of_tooMuch room left token (.list [] :: outer) h
    refine ⟨refusal, ?_, hlimit⟩
    cases h <;> exact hread
  | _ => cases hawaiting

lemma readName_isFlaw {members : List (Points × Value)} {outer : List Opened}
    (h : readName members outer left token = .error refusal) : ¬refusal.IsLimit := by
  unfold readName at h
  split at h
  · cases h
  all_goals
    obtain rfl := Except.error.inj h
    exact id

lemma tooMuch_of_advance (h : progress.advance room left token = .error refusal)
    (hlimit : refusal.IsLimit) : ∃ count, progress.awaiting? = some count ∧ token.TooMuch room count := by
  unfold advance at h
  split at h
  · cases h
  · cases h
  · exact ⟨_, rfl, tooMuch_of_readValue h hlimit⟩
  · exact ⟨_, rfl, tooMuch_of_readValue h hlimit⟩
  · exact (readName_isFlaw h hlimit).elim
  · exact (readName_isFlaw h hlimit).elim
  · cases h
  · cases h
  · cases h
  · cases h
  · cases h
  · obtain rfl := Except.error.inj h
    exact hlimit.elim

lemma comesToTooMuch_cons : progress.ComesToTooMuch room ((left, token) :: rest) ↔
    (∃ count, progress.awaiting? = some count ∧ token.TooMuch room count) ∨
      ∃ next, progress.advance room left token = .ok next ∧ next.ComesToTooMuch room rest := by
  constructor
  · rintro ⟨before, place, found, later, last, count, hsplit, hfollows, hawaiting, htooMuch⟩
    cases hfollows with
    | nothing =>
      obtain ⟨hfirst, -⟩ := List.cons.inj hsplit
      obtain ⟨rfl, rfl⟩ := Prod.mk.inj hfirst
      exact .inl ⟨count, hawaiting, htooMuch⟩
    | token h hrest =>
      obtain ⟨hfirst, hrow⟩ := List.cons.inj hsplit
      obtain ⟨rfl, rfl⟩ := Prod.mk.inj hfirst
      exact .inr ⟨_, h, _, place, found, later, last, count, hrow, hrest, hawaiting, htooMuch⟩
  · rintro (⟨count, hawaiting, htooMuch⟩ | ⟨next, h, before, place, found, later, last, count, rfl, hrest⟩)
    · exact ⟨[], left, token, rest, progress, count, rfl, .nothing, hawaiting, htooMuch⟩
    · exact ⟨(left, token) :: before, place, found, later, last, count, rfl, .token h hrest.1, hrest.2⟩

/-- Reading stops at a limit exactly if it comes to a token that is too much. -/
lemma readAll_isLimit_iff (tokens : List (ℕ × Token)) :
    (∃ refusal, progress.readAll room tokens = .error refusal ∧ refusal.IsLimit) ↔
      progress.ComesToTooMuch room tokens := by
  induction tokens generalizing progress with
  | nil =>
    refine iff_of_false ?_ ?_
    · rintro ⟨refusal, hread, hlimit⟩
      unfold readAll at hread
      split at hread
      · cases hread
      · obtain rfl := Except.error.inj hread
        exact hlimit
    · rintro ⟨before, left, token, later, next, count, hsplit, -⟩
      cases before <;> cases hsplit
  | cons first rest ih =>
    obtain ⟨left, token⟩ := first
    rw [comesToTooMuch_cons, readAll]
    split
    · rename_i refusal hrefused
      constructor
      · rintro ⟨found, hfound, hlimit⟩
        obtain rfl := Except.error.inj hfound
        exact .inl (tooMuch_of_advance hrefused hlimit)
      · rintro (⟨count, hawaiting, htooMuch⟩ | ⟨next, hnext, -⟩)
        · obtain ⟨found, hfound, hlimit⟩ :=
            @advance_of_tooMuch room left count progress token hawaiting htooMuch
          obtain rfl := Except.error.inj (hrefused.symm.trans hfound)
          exact ⟨refusal, rfl, hlimit⟩
        · cases hrefused.symm.trans hnext
    · rename_i next hnext
      rw [ih]
      constructor
      · exact fun h => .inr ⟨next, hnext, h⟩
      · rintro (⟨count, hawaiting, htooMuch⟩ | ⟨found, hfound, h⟩)
        · obtain ⟨refusal, hrefused, -⟩ :=
            @advance_of_tooMuch room left count progress token hawaiting htooMuch
          cases hnext.symm.trans hrefused
        · obtain rfl := Except.ok.inj (hnext.symm.trans hfound)
          exact h

/-- A text is refused for more than a flaw exactly if it asks too much. -/
theorem read_isLimit_iff (text : List Char) :
    (∃ fault, Json.read room text = .error fault ∧ fault.IsLimit) ↔ AsksTooMuch room text := by
  rw [AsksTooMuch, ← readAll_isLimit_iff, Json.read]
  split
  · rename_i hmark
    refine iff_of_false ?_ fun h => h.1 hmark
    rintro ⟨fault, hfault, hlimit⟩
    obtain rfl := Except.error.inj hfault
    exact hlimit
  · rename_i hmark
    rw [and_iff_right hmark]
    cases (beforeValue []).readAll room (tokens text) with
    | ok value => simp
    | error refusal => cases refusal <;> simp [Fault.IsLimit, Refusal.IsLimit, Fault.ofFlaw]

end PixelPanel.Proofs
