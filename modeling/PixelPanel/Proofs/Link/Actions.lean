import PixelPanel.Proofs.Link.Standing

/-!
# What a call can do

While a call does its actions it logs, hands its lock over and writes; it ends by waiting or by being
concluded. It writes, asks for a lock or gives up the session only while the link is active.
-/

namespace PixelPanel.Proofs
open Link

variable {link : Link} {id : ℕ} {ending : Ending}

@[simp] lemma phase_tryWrite (socket : ℕ) (message : Octets) :
    (link.tryWrite socket message).1.phase = link.phase :=
  congrArg Standing.phase (standing_tryWrite socket message)

@[simp] lemma phase_handOver (lock : ℕ) : (link.handOver lock).phase = link.phase :=
  congrArg Standing.phase (standing_handOver lock)

@[simp] lemma current_handOver (lock : ℕ) : (link.handOver lock).current = link.current :=
  congrArg Standing.current (standing_handOver lock)

@[simp] lemma calls_handOver (lock : ℕ) : (link.handOver lock).calls = link.calls := by
  unfold handOver
  split <;> rfl

@[simp] lemma trace_handOver (lock : ℕ) : (link.handOver lock).trace = link.trace := by
  unfold handOver
  split <;> rfl

lemma trace_retire (reason : String) : (link.retire reason).trace = link.trace ++
    if link.phase = .active then
      [.log ⟨.warning, .link, s!"Connection to {link.address} lost: {reason}"⟩] else [] := by
  unfold retire
  split
  · rfl
  · exact (List.append_nil _).symm

lemma calls_retire (reason : String) : (link.retire reason).calls = link.calls := by
  unfold retire
  split <;> rfl

lemma wakes_retire (reason : String) : (link.retire reason).wakes = link.wakes := by
  unfold retire
  split <;> rfl

lemma mem_removeCall {call : Call} (hmem : call ∈ link.calls) (hne : call.id ≠ id) :
    call ∈ (link.removeCall id).calls :=
  List.mem_filter.mpr ⟨hmem, bne_iff_ne.mpr hne⟩

lemma tryWrite_cases (link : Link) (socket : ℕ) (message : Octets) :
    (∃ fault, link.tryWrite socket message =
      ({ link with writeFault := fault }.note (.written message), none)) ∨
      ∃ error, link.tryWrite socket message = (link, some error) := by
  unfold tryWrite
  split
  · exact .inr ⟨_, rfl⟩
  · split
    · exact .inr ⟨_, rfl⟩
    · exact .inl ⟨_, rfl⟩
    · exact .inl ⟨link.writeFault, rfl⟩

@[simp] lemma calls_tryWrite (socket : ℕ) (message : Octets) :
    (link.tryWrite socket message).1.calls = link.calls := by
  rcases tryWrite_cases link socket message with ⟨fault, htry⟩ | ⟨error, htry⟩
  · rw [htry]
    rfl
  · rw [htry]

lemma tryWrite_of_closed {socket : ℕ} (h : link.isOpen socket = false) (message : Octets) :
    link.tryWrite socket message = (link, some .closedSocket) := by
  rw [tryWrite, h]
  rfl

/-- What holds while a call runs, and is kept by all that it can do, leads to what holds when it waits
or is concluded. -/
theorem perform_induction {P Q : Link → Prop}
    (hlog : ∀ link message, P link → P (link.log .debug message))
    (hhand : ∀ link lock, P link → P (link.handOver lock))
    (hwait : ∀ link session rest, P link → link.phase = .active → link.current = some session →
      link.isBusy session → Q (link.suspend ⟨id, .waiting session, rest, ending⟩))
    (hhold : ∀ link lock socket message rest, P link → link.phase = .active →
      link.current = some socket → link.writesHeld →
      Q (link.suspend ⟨id, .writing lock socket message, rest, ending⟩))
    (hwrite : ∀ link socket message, P link → link.phase = .active → link.current = some socket →
      P (link.tryWrite socket message).1)
    (hretire : ∀ link reason, P link → link.phase = .active → P (link.retire reason))
    (hconclude : ∀ link outcome, P link → Q (link.conclude id ending outcome))
    (lock : Option ℕ) (actions : List Action) (link : Link) (h : P link) :
    Q (perform id ending lock actions link) := by
  have habandon : ∀ (lock : Option ℕ) (link : Link) (error : CallError), P link →
      Q (link.abandon id ending lock error) := by
    intro lock link error h
    cases lock with
    | none => exact hconclude link _ h
    | some lock => exact hconclude _ _ (hhand link lock h)
  induction actions generalizing lock link with
  | nil =>
    rw [perform]
    exact hconclude link _ h
  | cons action rest ih =>
    cases action with
    | acquire =>
      rw [perform]
      split
      · rename_i session hphase hcurrent
        split
        · rename_i hbusy
          exact hwait link session rest h hphase hcurrent hbusy
        · exact ih _ link h
      · exact habandon lock link _ h
    | write message =>
      rw [perform]
      split
      · rename_i socket hphase hcurrent
        have hsending := hlog link ("Sending: " ++ Hex.encode message) h
        dsimp only
        split
        · rename_i hheld
          exact hhold _ _ socket message rest hsending hphase hcurrent hheld
        · have htry := hwrite _ socket message hsending hphase hcurrent
          have hactive := (@phase_tryWrite
            (link.log .debug ("Sending: " ++ Hex.encode message)) socket message).trans hphase
          split <;> rename_i heq <;> rw [heq] at htry hactive
          · exact ih lock _ htry
          · exact habandon lock _ _ (hretire _ _ htry hactive)
      · exact habandon lock link _ h
    | release =>
      cases lock with
      | none => exact ih none link h
      | some lock => exact ih none _ (hhand link lock h)

end PixelPanel.Proofs
