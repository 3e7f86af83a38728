import PixelPanel.Proofs.Link.Reachable

/-!
# One session at a time

A link should live in one session at a time: one open socket, one reader and one crew of workers. It
does so exactly as long as nothing overtakes an attempt to connect. An attempt that waits holds a
socket already; if the link is given up meanwhile and connected once more, the late answer puts a
second session in the place of the first, whose socket nobody closes any more.
-/

namespace PixelPanel.Proofs
open Link

/-- The sockets of the attempts that wait, and the socket in use. -/
def taken (link : Link) : List ℕ :=
  link.calls.filterMap Call.socket? ++ link.current.toList

variable {next : ℕ} {link : Link}

/-! ### Workers of one session -/

lemma attempts_standing : (standing link).attempts = link.calls.filterMap Call.socket? := by
  rw [Standing.attempts, standing, List.filterMap_map]
  rfl

lemma nodup_taken {tidy : Prop} (h : Sound next tidy (standing link)) : (taken link).Nodup := by
  refine List.nodup_append.mpr ⟨attempts_standing ▸ h.attempts, ?_, ?_⟩
  · cases link.current <;> simp
  · rintro socket hattempt other hcurrent rfl
    exact h.attempt_ne socket (attempts_standing ▸ hattempt) (Option.mem_toList.mp hcurrent)

/-- While a session is in use nothing else may be taken. -/
lemma exclusive_of_length_taken_le (h : (taken link).length ≤ 1) : Exclusive link := by
  intro call hmem hsocket
  obtain ⟨socket, hsome⟩ := Option.isSome_iff_exists.mp hsocket
  cases hcurrent : link.current with
  | none => rfl
  | some session =>
    have hpos : 0 < (link.calls.filterMap Call.socket?).length :=
      List.length_pos_of_mem (List.mem_filterMap.mpr ⟨call, hmem, hsome⟩)
    rw [taken, hcurrent, List.length_append, Option.toList_some, List.length_singleton] at h
    omega

/-- At rest the session in use has its tasks. -/
lemma owned_of_current {tidy : Prop} (h : Sound next tidy (standing link))
    (hwakes : link.wakes = []) {session : ℕ} (hcurrent : link.current = some session) :
    link.owned = some session := by
  cases howned : link.owned with
  | none =>
    have hleaving := h.left howned (by simp [standing, hcurrent])
    simp [standing, hwakes] at hleaving
  | some owned => exact (h.owned_current owned howned).symm.trans hcurrent

lemma crew_of_ne_current {tidy : Prop} (h : Sound next tidy (standing link)) (htidy : tidy)
    {session : ℕ} (hne : link.current ≠ some session) :
    link.isReading session = false ∧ link.crew session = 0 := by
  cases hopen : link.isOpen session with
  | false => exact h.closed session hopen
  | true => exact h.attempt_idle session ((h.strays htidy session hopen).resolve_left hne)

end PixelPanel.Proofs
