import PixelPanel.Proofs.Link.Reachable

/-!
# How a session begins

A connection that the device accepts at once first cleans up what is left of an earlier session; then
a session begins on a new socket.
-/

namespace PixelPanel.Link

/-- The link when nothing is left of an earlier session. -/
def cleaned (link : Link) : Link :=
  if link.owned.isSome ∨ link.current.isSome then link.hangUp else link

/-- The link on its way to a session, with a new socket and some more notes. -/
def dialling (link : Link) (notes : List Note) : Link :=
  { link.cleaned with
    phase := .connecting
    trace := link.cleaned.trace ++ notes
    sessions := link.cleaned.sessions ++ [{ isOpen := true }] }

end PixelPanel.Link

namespace PixelPanel.Proofs
open Link

variable {link : Link}

lemma cleaned_eq (link : Link) : link.cleaned.address = link.address ∧
    link.cleaned.workers = link.workers ∧ link.cleaned.listeners = link.listeners ∧
    link.cleaned.inbox = link.inbox := by
  unfold cleaned
  split
  · unfold hangUp closeSocket stopTasks
    split <;> split <;> exact ⟨rfl, rfl, rfl, rfl⟩
  · exact ⟨rfl, rfl, rfl, rfl⟩

lemma calls_cleaned (link : Link) : link.cleaned.calls = link.calls := by
  unfold cleaned
  split
  · exact hangUp_calls
  · rfl

lemma current_cleaned (link : Link) : link.cleaned.current = none := by
  unfold cleaned
  split
  · exact hangUp_current
  · rename_i hnone
    rw [not_or, Option.not_isSome_iff_eq_none, Option.not_isSome_iff_eq_none] at hnone
    exact hnone.2

lemma sound_cleaned {next : ℕ} {tidy : Prop} (h : Sound next tidy (standing link)) :
    Sound next tidy (standing link.cleaned) := by
  unfold cleaned
  split
  · exact sound_hangUp h
  · exact h

lemma wakes_cleaned (hwakes : link.wakes = []) : link.cleaned.wakes = [] := by
  unfold cleaned
  split
  · exact hangUp_wakes hwakes
  · exact hwakes

/-- A connection that the device accepts at once. -/
lemma exists_connect_eq (hphase : link.phase = .disconnected ∨ link.phase = .closed)
    (haddress : (Address.ofText? link.address.toList).isSome) (id : ℕ) (actions : List Action)
    (ending : Ending) : ∃ notes, link.connect id actions ending .accepted =
      (link.dialling notes).attach id link.cleaned.sessions.length actions ending := by
  have hidle : ¬(link.phase = .connecting ∨ link.phase = .active) := by
    rcases hphase with h | h <;> simp [h]
  obtain ⟨octets, hoctets⟩ := Option.isSome_iff_exists.mp haddress
  rw [← (cleaned_eq link).1] at hoctets
  have hclean : (if link.owned.isSome ∨ link.current.isSome then link.hangUp else link) =
      link.cleaned := rfl
  rw [connect, if_neg hidle, hclean]
  dsimp only
  split
  · rename_i hrefused
    cases hoctets.symm.trans hrefused
  · rw [if_neg (by decide), answerAttempt]
    exact ⟨[_, _, _], by simp only [dialling, log, note, List.append_assoc]; rfl⟩

end PixelPanel.Proofs
