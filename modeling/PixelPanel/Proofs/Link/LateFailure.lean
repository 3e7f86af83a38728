import PixelPanel.Proofs.Link.Reachable

/-!
# Writes that fail late

A write that the system holds back keeps its socket. When the session ends meanwhile, the write fails
as soon as it may go on. Only its call is told, and no session is touched; but the link gives up
whatever it is doing, be it disconnected or in a session that has begun since.
-/

namespace PixelPanel.Proofs
open Link

/-- The call waits in a write to a socket that has been closed meanwhile. -/
def IsLate (link : Link) (call : Call) : Prop :=
  ∃ lock socket message, call.stage = .writing lock socket message ∧ link.isOpen socket = false

/-- No call is lost, no call forgets to go on, and no socket opens again. -/
structure Keeps (link link' : Link) : Prop where
  calls : link.calls ⊆ link'.calls
  wakes : ∀ id, .call id ∈ link.wakes → .call id ∈ link'.wakes
  closed : ∀ session, link.isOpen session = false → link'.isOpen session = false

variable {next : ℕ} {tidy : Prop} {link link' link'' : Link}

lemma Keeps.refl (link : Link) : Keeps link link :=
  ⟨fun _ h => h, fun _ h => h, fun _ h => h⟩

lemma Keeps.trans (h : Keeps link link') (h' : Keeps link' link'') : Keeps link link'' where
  calls _ hmem := h'.calls (h.calls hmem)
  wakes id hmem := h'.wakes id (h.wakes id hmem)
  closed session hclosed := h'.closed session (h.closed session hclosed)

lemma Keeps.late (h : Keeps link link') {call : Call} (hlate : IsLate link call) :
    IsLate link' call := by
  obtain ⟨lock, socket, message, hstage, hclosed⟩ := hlate
  exact ⟨lock, socket, message, hstage, h.closed socket hclosed⟩

lemma Keeps.note (h : Keeps link link') (seen : Note) : Keeps link (link'.note seen) :=
  ⟨h.calls, h.wakes, h.closed⟩

lemma keeps_wake (wakes : List Wake) : Keeps link (link.wake wakes) :=
  ⟨fun _ h => h, fun _ h => List.mem_append_left _ h, fun _ h => h⟩

lemma keeps_suspend (call : Call) : Keeps link (link.suspend call) :=
  ⟨List.subset_append_left .., fun _ h => h, fun _ h => h⟩

lemma keeps_handOver (lock : ℕ) : Keeps link (link.handOver lock) := by
  unfold handOver
  split
  · exact Keeps.refl link
  · exact keeps_wake _

lemma keeps_tryWrite (socket : ℕ) (message : Octets) :
    Keeps link (link.tryWrite socket message).1 := by
  unfold tryWrite
  split
  · exact Keeps.refl link
  · split <;> exact ⟨fun _ h => h, fun _ h => h, fun _ h => h⟩

lemma keeps_retire (reason : String) : Keeps link (link.retire reason) := by
  unfold retire
  split <;> exact ⟨fun _ h => h, fun _ h => h, fun _ h => h⟩

/-- Whatever happens to a session, it does not open its socket. -/
lemma isOpen_modify {change : Session → Session}
    (hchange : ∀ found, found.isOpen = false → (change found).isOpen = false) (session : ℕ)
    {other : ℕ} (h : link.isOpen other = false) :
    (link.modifySession session change).isOpen other = false := by
  simp only [isOpen, modifySession, List.getElem?_modify] at h ⊢
  cases hfound : link.sessions[other]? with
  | none => rfl
  | some found =>
    rw [hfound] at h
    have hopen : found.isOpen = false := h
    by_cases heq : session = other
    · simp [heq, hchange found hopen]
    · simp [heq, hopen]

lemma keeps_closeSocket : Keeps link link.closeSocket := by
  cases hcurrent : link.current with
  | none =>
    rw [closeSocket_of_none hcurrent]
    exact ⟨fun _ h => h, fun _ h => h, fun _ h => h⟩
  | some session =>
    rw [closeSocket_of_some hcurrent]
    refine ⟨fun _ h => h, fun _ h => h, fun other hclosed => ?_⟩
    exact @isOpen_modify _ (fun found => { found with isOpen := false }) (fun _ _ => rfl) session _
      hclosed

lemma keeps_stopTasks : Keeps link link.stopTasks := by
  cases howned : link.owned with
  | none =>
    rw [stopTasks_of_none howned]
    exact Keeps.refl link
  | some session =>
    rw [stopTasks_of_some howned]
    refine ⟨fun _ h => h, fun id hmem => List.mem_filter.mpr ⟨hmem, rfl⟩, fun other hclosed => ?_⟩
    exact @isOpen_modify _ (fun found => { found with reading := false, idle := 0 }) (fun _ h => h)
      session _ hclosed

lemma keeps_leave (id : ℕ) (outcome : Outcome) : Keeps link (link.leave id outcome) := by
  unfold leave
  split
  · exact keeps_closeSocket.note _
  · exact keeps_stopTasks.trans (keeps_wake _)

lemma keeps_conclude (id : ℕ) (ending : Ending) (outcome : Outcome) :
    Keeps link (link.conclude id ending outcome) := by
  unfold conclude
  split
  · exact (Keeps.refl link).note _
  · exact keeps_leave ..
  · exact keeps_leave ..

lemma keeps_perform (id : ℕ) (ending : Ending) (lock : Option ℕ) (actions : List Action)
    (link : Link) : Keeps link (perform id ending lock actions link) := by
  refine perform_induction (P := Keeps link) ?_ ?_ ?_ ?_ ?_ ?_ ?_ lock actions link (Keeps.refl link)
  · exact fun _ _ h => h.note _
  · exact fun _ lock h => h.trans (keeps_handOver lock)
  · exact fun _ _ _ h _ _ _ => h.trans (keeps_suspend _)
  · exact fun _ _ _ _ _ h _ _ _ => h.trans (keeps_suspend _)
  · exact fun _ socket message h _ _ => h.trans (keeps_tryWrite socket message)
  · exact fun _ reason h _ => h.trans (keeps_retire reason)
  · exact fun _ outcome h => h.trans (keeps_conclude id ending outcome)

lemma keeps_failWrite (id : ℕ) (ending : Ending) (lock : ℕ) (error : SystemError) :
    Keeps link (link.failWrite id ending (some lock) error) :=
  (keeps_retire _).trans ((keeps_handOver lock).trans (keeps_conclude ..))

/-- A call that goes on may itself be done, but nothing else is lost. -/
lemma keeps_resumeCall (id : ℕ) : Keeps (link.removeCall id) (link.resumeCall id) := by
  have hremoved : Keeps (link.removeCall id) link :=
    ⟨List.filter_subset_self _, fun _ h => h, fun _ h => h⟩
  unfold resumeCall
  split
  · exact hremoved
  · split
    · exact hremoved
    · exact keeps_perform ..
    · rename_i lock socket message _
      have htry := @keeps_tryWrite (link.removeCall id) socket message
      split <;> rename_i heq <;> rw [heq] at htry
      · exact htry.trans (keeps_perform ..)
      · exact htry.trans (keeps_failWrite ..)

lemma keeps_of_works {session : ℕ} (h : Works session link link') : Keeps link link' := by
  obtain ⟨inbox, notes, idle, wakes, blocked, change, -, -, hchange, rfl⟩ := h
  refine ⟨fun _ h => h, fun _ h => List.mem_append_left _ h, fun other hclosed => ?_⟩
  exact isOpen_modify (fun found hopen => (hchange.isOpen found).trans hopen) session hclosed

/-- The link without the call that a wake lets go on. -/
def withoutCaller (link : Link) : Wake → Link
  | .call id => link.removeCall id
  | _ => link

lemma keeps_resume (wake : Wake) : Keeps (withoutCaller link wake) (link.resume wake) := by
  cases wake with
  | call id => exact keeps_resumeCall id
  | leaving id turns outcome =>
    cases turns with
    | zero => exact keeps_closeSocket.note _
    | succ turns => exact keeps_wake _
  | worker session => exact keeps_of_works (resume_works rfl)
  | delivery going => exact keeps_of_works (resume_works rfl)
  | returned listener going => exact keeps_of_works (resume_works rfl)

/-! ### The turn of a call that is late -/

/-- A call that is late stays so until its own turn comes, and this turn comes. -/
lemma exists_turn_of_late (h : Sound next tidy (standing link)) {call : Call}
    (hmem : call ∈ link.calls) (hlate : IsLate link call) (hwake : .call call.id ∈ link.wakes)
    {turns : ℕ} (hend : (drain turns link).wakes = []) :
    ∃ before rest, (drain before link).wakes = .call call.id :: rest ∧
      call ∈ (drain before link).calls ∧ IsLate (drain before link) call ∧
      Sound next tidy (standing (drain before link)) := by
  induction turns generalizing link with
  | zero =>
    rw [drain] at hend
    rw [hend] at hwake
    cases hwake
  | succ turns ih =>
    cases hwakes : link.wakes with
    | nil =>
      rw [hwakes] at hwake
      cases hwake
    | cons wake rest =>
      by_cases heq : wake = .call call.id
      · subst heq
        exact ⟨0, rest, hwakes, hmem, hlate, h⟩
      · -- it is the turn of another
        have hkeeps := @keeps_resume { link with wakes := rest } wake
        have hothers : call ∈ (withoutCaller { link with wakes := rest } wake).calls ∧
            .call call.id ∈ (withoutCaller { link with wakes := rest } wake).wakes ∧
            IsLate (withoutCaller { link with wakes := rest } wake) call := by
          have hrest : .call call.id ∈ rest := by
            rw [hwakes] at hwake
            exact (List.mem_cons.mp hwake).resolve_left (Ne.symm heq)
          cases wake with
          | call id =>
            refine ⟨mem_removeCall hmem ?_, hrest, hlate⟩
            exact fun hid => heq (congrArg Wake.call hid.symm)
          | _ => exact ⟨hmem, hrest, hlate⟩
        obtain ⟨hcall, hgo, hstill⟩ := hothers
        rw [drain_of_wakes hwakes] at hend
        obtain ⟨before, later, hfound⟩ := ih (sound_turn h hwakes) (hkeeps.calls hcall)
          (hkeeps.late hstill) (hkeeps.wakes _ hgo) hend
        exact ⟨before + 1, later, by rwa [drain_of_wakes hwakes]⟩

lemma find?_call (h : Sound next tidy (standing link)) {call : Call} (hmem : call ∈ link.calls) :
    link.calls.find? (fun other => other.id == call.id) = some call := by
  have hnodup : (link.calls.map Call.id).Nodup := by
    have hids := h.ids
    rwa [standing, List.map_map] at hids
  obtain ⟨found, hfound⟩ := Option.isSome_iff_exists.mp
    (List.find?_isSome (p := fun other : Call => other.id == call.id) |>.mpr ⟨call, hmem, by simp⟩)
  have hid : found.id = call.id := by simpa using List.find?_some hfound
  rw [hfound, List.inj_on_of_nodup_map hnodup (List.mem_of_find?_eq_some hfound) hmem hid]

/-- Why a late write fails. -/
def lateReason : String := "write failed: " ++ SystemError.closedSocket.message

/-- What becomes of a late call that is not a scope. -/
lemma resumeCall_late (h : Sound next tidy (standing link)) {call : Call}
    (hmem : call ∈ link.calls) (hsend : call.ending = .plain) (hlate : IsLate link call) :
    ∃ lock, link.resumeCall call.id = (((link.removeCall call.id).retire lateReason).handOver
      lock).finish call.id (.failed (.writeFailed .closedSocket)) := by
  obtain ⟨lock, socket, message, hstage, hclosed⟩ := hlate
  have htry := @tryWrite_of_closed (link.removeCall call.id) socket hclosed message
  refine ⟨lock, ?_⟩
  rw [resumeCall, find?_call h hmem]
  simp only [hstage, htry]
  rw [hsend]
  rfl

/-- What the turn of a late call that is not a scope does. -/
lemma late_turn (hsound : Sound next tidy (standing link)) {call : Call} (hmem : call ∈ link.calls)
    (hsend : call.ending = .plain) (hlate : IsLate link call) {rest : List Wake}
    (hwakes : link.wakes = .call call.id :: rest) :
    let after := { link with wakes := rest }.resume (.call call.id)
    standing after = { standing link with
      phase := .closed
      calls := (standing link).calls.filter fun other => other.1 != call.id } ∧
    after.trace = link.trace ++
      (if link.phase = .active then
        [.log ⟨.warning, .link, s!"Connection to {link.address} lost: {lateReason}"⟩] else []) ++
      [.finished call.id (.failed (.writeFailed .closedSocket))] := by
  -- the wake itself counts for nothing
  have hpop : standing { link with wakes := rest } = standing link := by
    have hleaving : rest.any Wake.isLeaving = (standing link).isLeaving := by
      simp [standing, hwakes, Wake.isLeaving]
    rw [standing_pop hwakes rfl, hleaving]
  obtain ⟨lock, hresume⟩ := @resumeCall_late _ _ { link with wakes := rest } (hpop ▸ hsound) _ hmem
    hsend hlate
  dsimp only
  rw [resume, hresume]
  constructor
  · rw [standing_finish, standing_handOver, standing_retire, standing_removeCall, hpop]
  · change (handOver _ lock).trace ++ _ = _
    rw [trace_handOver, trace_retire]
    rfl

/-- The turn of a late call comes when writes may go on again. -/
lemma exists_moment_of_late (hnew : IsNew link) (events : List Event) {call : Call}
    (hmem : call ∈ (link.run events).calls) (hlate : IsLate (link.run events) call) :
    ∃ turns rest,
      let moment := momentOf (link.run events) .releaseWrites turns
      moment.wakes = .call call.id :: rest ∧ call ∈ moment.calls ∧ IsLate moment call ∧
        Sound ((link.run events).clock + 1) False (standing moment) ∧
        momentOf (link.run events) .releaseWrites (turns + 1) =
          { moment with wakes := rest }.resume (.call call.id) := by
  have hsound := sound_act (hnew.sound_run False events False.elim)
    (hnew.wakes_run events) False.elim .releaseWrites
  have hwake : .call call.id ∈
      ((link.run events).act (link.run events).clock .releaseWrites).wakes := by
    have hwriting : call.isWriting := by
      obtain ⟨lock, socket, message, hstage, -⟩ := hlate
      rw [Call.isWriting, hstage]
    exact List.mem_append_right _ (List.mem_map.mpr ⟨call, List.mem_filter.mpr ⟨hmem, hwriting⟩, rfl⟩)
  obtain ⟨turns, rest, hwakes, hcall, hstill, hthen⟩ :=
    @exists_turn_of_late _ _ _ hsound call hmem hlate hwake _ (wakes_settle _)
  refine ⟨turns, rest, hwakes, hcall, hstill, hthen, ?_⟩
  rw [momentOf, drain_add, drain_of_wakes hwakes]
  rfl

/-- When the system lets writes go on, a send that is late fails, and whatever the link was doing, it
is closed from then on. Nothing else becomes of any session, or of any other call. -/
theorem closed_of_late (hnew : IsNew link) (events : List Event) {call : Call}
    (hmem : call ∈ (link.run events).calls) (hsend : call.ending = .plain)
    (hlate : IsLate (link.run events) call) :
    ∃ turns,
      let moment := momentOf (link.run events) .releaseWrites turns
      let after := momentOf (link.run events) .releaseWrites (turns + 1)
      after.phase = .closed ∧
      standing after = { standing moment with
        phase := .closed
        calls := (standing moment).calls.filter fun other => other.1 != call.id } ∧
      after.trace = moment.trace ++
        (if moment.phase = .active then
          [.log ⟨.warning, .link, s!"Connection to {moment.address} lost: {lateReason}"⟩] else []) ++
        [.finished call.id (.failed (.writeFailed .closedSocket))] := by
  obtain ⟨turns, rest, hwakes, hcall, hstill, hsound, hnext⟩ :=
    exists_moment_of_late hnew events hmem hlate
  obtain ⟨hstanding, htrace⟩ := late_turn hsound hcall hsend hstill hwakes
  refine ⟨turns, ?_⟩
  dsimp only
  rw [hnext]
  exact ⟨congrArg Standing.phase hstanding, hstanding, htrace⟩

/-! ### A session that is closed by the one before -/

/-- A write is held back while the link is given up and connected once more. -/
def reconnected : List Event :=
  [.connect .accepted, .holdWrites, .send [[0xaa]], .disconnect, .connect .accepted]

/-- The call that waits in the write of the first session. -/
def lateCall : Call := ⟨2, .writing 0 0 [0xaa], [.release], .plain⟩

lemma isLate_lateCall : IsLate (sampleLink.run reconnected) lateCall :=
  ⟨0, 0, [0xaa], rfl, by decide +kernel⟩

theorem closed_of_late_reconnected :
    lateCall ∈ (sampleLink.run reconnected).calls ∧
      ∃ turns, (momentOf (sampleLink.run reconnected) .releaseWrites (turns + 1)).phase = .closed := by
  have hmem : lateCall ∈ (sampleLink.run reconnected).calls := by decide +kernel
  obtain ⟨turns, hclosed, -, -⟩ :=
    closed_of_late isNew_sampleLink reconnected hmem rfl isLate_lateCall
  exact ⟨hmem, turns, hclosed⟩

/-- The write of the first session closes the second. -/
theorem reconnected_closed :
    (sampleLink.run reconnected).phase = .active ∧
      (sampleLink.run (reconnected ++ [.releaseWrites])).phase = .closed := by
  decide +kernel

end PixelPanel.Proofs
